import Scaffold.CommandLine.Invocation
import Scaffold.Generation
import Scaffold.Model.DocumentReader
import Scaffold.Model.Summary
import Scaffold.Settings.Config

/-! Commands: what a command does with the settings of its workspace. -/

namespace Scaffold.CommandLine
open Files Model Settings

structure Context where
  workspace : Path
  config : Config
  generator : Generator := {}

namespace Context

def load (files : FileTree) (env : Environment) (i : Invocation) : Except Failure Context :=
  ((Config.load files env i.workspace i.config?).mapError .settings).map fun config =>
    { workspace := i.workspace, config := config }

/-- The root of generated output: the one given, or else that of the settings in the workspace. -/
def outputRoot (c : Context) (out? : Option Path) : Path :=
  match out? with
  | some out => out
  | none => c.workspace.join c.config.output.root.text

def generate (c : Context) (model : Path) (out? : Option Path) (files : FileTree) :
    Except Failure String × FileTree :=
  match Document.load files model with
  | .error e => (.error e, files)
  | .ok d =>
    match c.generator.run d c.config.output (c.outputRoot out?) files with
    | (.ok report, files) => (.ok report.text, files)
    | (.error e, files) => (.error e, files)

def inspect (model : Path) (format : String) (files : FileTree) : Except Failure String := do
  let d ← Document.load files model
  let summaries ← Summary.collect d
  if format == "json" then return Summary.json summaries
  else if format == "text" then return Summary.table summaries
  else .error (.unsupported ("output format '" ++ format ++ "' (must be 'text' or 'json')"))

def execute (c : Context) (command : Command) (files : FileTree) :
    Except Failure String × FileTree :=
  match command with
  | .generate model out? => c.generate model out? files
  | .inspect model format => (inspect model format files, files)

theorem files_execute_inspect (c : Context) (model : Path) (format : String) (files : FileTree) :
    (c.execute (.inspect model format) files).2 = files := rfl

theorem files_generate_of_load_error (c : Context) {model : Path} (out? : Option Path)
    {files : FileTree} {e : Failure} (h : Document.load files model = .error e) :
    c.generate model out? files = (.error e, files) := by
  simp [generate, h]

end Context
end Scaffold.CommandLine
