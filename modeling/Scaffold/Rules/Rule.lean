import Scaffold.Inflector
import Scaffold.Rules.Program

/-! Rules: for descriptors of one kind, in one tier, under an optional condition, a body. Bodies see
the inflector of the registry that runs them. -/

namespace Scaffold.Rules
open Code

inductive Tier
  | directory
  | file
  | fragment
  deriving DecidableEq, Repr

namespace Tier

def all : List Tier := [directory, file, fragment]

def name : Tier → String
  | directory => "directory"
  | file => "file"
  | fragment => "fragment"

end Tier

variable (V : Vocabulary)

/-- A fragment rule turns the fragment folded so far into the next one. -/
abbrev FragmentBody (k : V.Kind) : Type :=
  Inflector → Fragment → V.Descriptor k → Script V Fragment

/-- A file rule fills the source file that it shares with the other rules. -/
abbrev FileBody (k : V.Kind) : Type :=
  Inflector → V.Descriptor k → FileScript V Unit

/-- A directory rule fills a directory that exists. -/
abbrev DirectoryBody (k : V.Kind) : Type :=
  Inflector → Path → V.Descriptor k → Script V Unit

/-- The kind of descriptor that a rule is for, and the condition under which it applies. -/
structure Key (k : V.Kind) where
  condition? : Option (V.Descriptor k → Bool) := none

namespace Key
variable {V : Vocabulary} {k : V.Kind}

def always (k : V.Kind) : Key V k := ⟨none⟩

def when (k : V.Kind) (test : V.Descriptor k → Bool) : Key V k := ⟨some test⟩

def admits (key : Key V k) (d : V.Descriptor k) : Bool :=
  match key.condition? with
  | none => true
  | some test => test d

def describe (key : Key V k) : String :=
  "Key \x7b descriptor: " ++ Text.Literal.quoted (V.title k) ++ ", predicate: "
    ++ toString key.condition?.isSome ++ " \x7d"

@[simp] theorem admits_always (d : V.Descriptor k) : (always k).admits d = true := rfl

@[simp] theorem admits_when (test : V.Descriptor k → Bool) (d : V.Descriptor k) :
    (when k test).admits d = test d := rfl

end Key

structure Rule (Body : V.Kind → Type) (k : V.Kind) where
  key : Key V k
  body : Body k

namespace Rule
variable {V : Vocabulary} {Body : V.Kind → Type} {k : V.Kind}

def applies (rule : Rule V Body k) (d : V.Descriptor k) : Bool :=
  rule.key.admits d

end Rule
end Scaffold.Rules
