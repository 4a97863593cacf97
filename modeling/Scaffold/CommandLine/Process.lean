import Scaffold.CommandLine.Account
import Scaffold.CommandLine.Help
import Scaffold.Journal.Writer

/-! A whole run of the program: from the words of its command line, the environment and the files to
the files that it leaves, what it prints and the status that it ends with. -/

namespace Scaffold.CommandLine
open Files Settings Journal

structure Outcome where
  /-- Zero for success, one for a failure, two for a command line that is not run. -/
  status : Nat
  /-- The text on the standard output, without the end of its last line. -/
  output : String := ""
  errors : List String := []
  journal? : Option (Writer × List Event) := none
  files : FileTree

namespace Outcome

/-- The settings for logging of an invocation. Without a word about detail, warnings and errors are
written only. -/
def loggingOf (files : FileTree) (env : Environment) (i : Invocation) : Logging :=
  let loaded := match Config.load files env i.workspace i.config? with
    | .ok config => config.logging
    | .error _ => {}
  let level := if i.verbose then loaded.level else "warn"
  { loaded with
    level := i.logLevel?.getD level
    format := i.logFormat?.getD loaded.format
    output := i.logOutput?.getD loaded.output
    file := i.logFile?.getD loaded.file }

def ofInvocation (files : FileTree) (env : Environment) (i : Invocation) (writer : Writer) :
    Outcome :=
  let ignored := writer.ignored.map fun word =>
    "ignoring `" ++ word ++ "`: invalid filter directive"
  let events := (Account.ofInvocation files env i).filter writer.filter.admits
  let (result, files) : Except Failure String × FileTree := match Context.load files env i with
    | .error e => (.error e, files)
    | .ok c => c.execute i.command files
  match result with
  | .ok text => ⟨0, text, ignored, some (writer, events), files⟩
  | .error e => ⟨1, "", ignored ++ [e.report], some (writer, events), files⟩

def start (files : FileTree) (env : Environment) (i : Invocation) : Outcome :=
  let failed (e : Failure) (files : FileTree) : Outcome :=
    { status := 1, errors := ["Failed to initialize logging: " ++ e.message], files := files }
  match Writer.choose env (loggingOf files env i) with
  | .error fault => failed (.settings fault) files
  | .ok writer =>
    match writer.start files with
    | (.error e, files) => failed e files
    | (.ok (), files) => ofInvocation files env i writer

def ofUsage (files : FileTree) (fault : UsageFault) : Outcome :=
  match fault with
  | .help topic => { status := 0, output := topic.helpText, files := files }
  | .nothingGiven => { status := 2, errors := [fault.message], files := files }
  | _ => { status := 2, errors := ["error: " ++ fault.message], files := files }

def of (files : FileTree) (env : Environment) (ws : List String) : Outcome :=
  match Invocation.read ws with
  | .error fault => ofUsage files fault
  | .ok i => start files env i

theorem files_ofUsage (files : FileTree) (fault : UsageFault) :
    (ofUsage files fault).files = files := by
  cases fault <;> rfl

theorem status_ofInvocation (files : FileTree) (env : Environment) (i : Invocation)
    (writer : Writer) : (ofInvocation files env i writer).status ≤ 1 := by
  simp only [ofInvocation]
  split <;> simp

end Outcome
end Scaffold.CommandLine
