import Scaffold.Files.Path
import Scaffold.Text.Literal

/-! Everything that can go wrong, by cause, and the wording of each cause. Rule bodies raise these
failures and nothing recovers from them: the first one ends the run. -/

namespace Scaffold

inductive FileFault
  | notFound
  | alreadyExists
  | notADirectory
  | isADirectory
  | nameTooLong
  | nulInName
  | notText
  | other (text : String)
  deriving DecidableEq, Repr

def FileFault.message : FileFault → String
  | notFound => "No such file or directory (os error 2)"
  | alreadyExists => "File exists (os error 17)"
  | notADirectory => "Not a directory (os error 20)"
  | isADirectory => "Is a directory (os error 21)"
  | nameTooLong => "File name too long (os error 36)"
  | nulInName => "file name contained an unexpected NUL byte"
  | notText => "stream did not contain valid UTF-8"
  | other text => text

/-- A question to a capability bag that has no single answer. -/
inductive BagFault
  | ambiguous (marker : String) (count : Nat)
  | missing (marker context : String)
  deriving DecidableEq, Repr

def BagFault.message : BagFault → String
  | ambiguous marker count =>
    "Ambiguous capability " ++ marker ++ ": " ++ toString count
      ++ " markers qualify, expected at most one"
  | missing marker context => "Missing required capability " ++ marker ++ " for " ++ context

inductive KeyFault
  | noKeyFields (entity : String)
  | duplicateField (entity field : String)
  | singleKeyRequired (entity rule : String) (found : Nat)
  deriving DecidableEq, Repr

def KeyFault.message : KeyFault → String
  | noKeyFields entity => "Entity " ++ entity ++ " has no key-tagged fields"
  | duplicateField entity field =>
    "Entity " ++ entity ++ " declares field " ++ field ++ " more than once"
  | singleKeyRequired entity rule found =>
    rule ++ " only supports a single key on " ++ entity ++ ", found " ++ toString found

inductive ModelFault
  | blankName
  | repeatedEntity (name : String)
  | unknownEntity (owner name : String)
  | sharedFile (earlier later file : String)
  /-- The document is not a model document; the reader's wording is not kept. -/
  | unreadable
  | other (text : String)
  deriving DecidableEq, Repr

def ModelFault.message : ModelFault → String
  | blankName => "entity name must not be empty"
  | repeatedEntity name => "entity " ++ name ++ " is declared more than once"
  | unknownEntity owner name => "entity " ++ owner ++ " refers to unknown entity " ++ name
  | sharedFile earlier later file =>
    earlier ++ " and " ++ later ++ " would both be written to " ++ file
  | unreadable => "TOML parse error"
  | other text => text

inductive OutputFault
  | emptySuffix
  | indexNotSource (name : String)
  | indexNotFileName (name : String)
  deriving DecidableEq, Repr

def OutputFault.message : OutputFault → String
  | emptySuffix => "file_suffix cannot be empty"
  | indexNotSource name => "index_file must be a .rs file, got '" ++ name ++ "'"
  | indexNotFileName name => "index_file must be a file name, got '" ++ name ++ "'"

inductive SettingsFault
  | output (fault : OutputFault)
  | absentFile (path : Path)
  | unusableFile (path : Path)
  /-- A source or a value is not what is wanted; the reader's wording is not kept. -/
  | unreadable
  | logFormat (name : String)
  | logOutput (name : String)
  | logDirective
  | other (text : String)
  deriving DecidableEq, Repr

def SettingsFault.message : SettingsFault → String
  | output fault => "output: " ++ fault.message
  | absentFile path => "configuration property " ++ Text.Literal.quoted path.text ++ " not found"
  | unusableFile path => "configuration file \"" ++ path.text ++ "\" not found"
  | unreadable => ""
  | logFormat name => "Invalid log format: " ++ name ++ " (must be 'json' or 'text')"
  | logOutput name => "Invalid log output: " ++ name ++ " (must be 'stdout', 'stderr' or 'file')"
  | logDirective => "Invalid log directive: "
  | other text => text

inductive Failure
  | bag (fault : BagFault)
  | key (fault : KeyFault)
  | notADirectory (path : Path)
  | notAFile (path : Path)
  | file (path : Path) (fault : FileFault)
  | missingPackage (descriptor : String)
  | descriptorMismatch (expected : String)
  | unboundSlot (slot : String)
  | model (fault : ModelFault)
  | settings (fault : SettingsFault)
  | unsupported (what : String)
  /-- Rules dispatch to one another more deeply than a registry follows. -/
  | nesting
  deriving DecidableEq, Repr

namespace Failure

instance : Inhabited Failure := ⟨nesting⟩

def message : Failure → String
  | bag fault => "Capability error: " ++ fault.message
  | key fault => "Key error: " ++ fault.message
  | notADirectory path =>
    "Path " ++ Text.Literal.quoted path.text ++ " exists but is not a directory"
  | notAFile path => "Path " ++ Text.Literal.quoted path.text ++ " exists but is not a file"
  | file path fault => "I/O error at " ++ Text.Literal.quoted path.text ++ ": " ++ fault.message
  | missingPackage descriptor => "Descriptor " ++ descriptor ++ " does not expose a module name"
  | descriptorMismatch expected =>
    "Rule registered for " ++ expected ++ " received a different descriptor"
  | unboundSlot slot => "Build context slot '" ++ slot ++ "' was read before any rule bound it"
  | model fault => "Model error: " ++ fault.message
  | settings fault => "Configuration error: " ++ fault.message
  | unsupported what => "Unsupported: " ++ what
  | nesting => "Rules are nested too deeply"

def report : Failure → String
  | settings fault => "configuration error: " ++ fault.message
  | model fault => "model error: " ++ fault.message
  | other => "error: " ++ other.message

end Failure

/-! ## Computations that may fail -/

section Outcomes
variable {ε ε' α β : Type}

theorem mapError_eq_ok {x : Except ε α} {f : ε → ε'} {a : α} :
    x.mapError f = .ok a ↔ x = .ok a := by
  cases x with
  | error e => exact ⟨nofun, nofun⟩
  | ok a => exact ⟨fun h => congrArg _ (Except.ok.inj h), fun h => congrArg _ (Except.ok.inj h)⟩

theorem bind_eq_ok {x : Except ε α} {f : α → Except ε β} {b : β} :
    x >>= f = .ok b ↔ ∃ a, x = .ok a ∧ f a = .ok b := by
  cases x with
  | error e => exact ⟨nofun, fun ⟨_, h, _⟩ => nomatch h⟩
  | ok a => exact ⟨fun h => ⟨a, rfl, h⟩, fun ⟨_, h, hf⟩ => Except.ok.inj h ▸ hf⟩

end Outcomes
end Scaffold
