import Scaffold.Settings.Config

/-! What the command line offers: the commands, the switches of each, and the words about them that
the help texts show. -/

namespace Scaffold.CommandLine

inductive Takes
  | nothing
  | text
  | path
  deriving DecidableEq, Repr

structure Switch where
  name : String
  takes : Takes
  about : String
  /-- The value that stands when the switch is not given. -/
  initial? : Option String := none
  required : Bool := false
  deriving DecidableEq, Repr

/-- What can be called, and what help can be asked about. -/
inductive Topic
  | whole
  | generate
  | inspect
  | help
  deriving DecidableEq, Repr

namespace Topic

def programName : String := "datagen"

def word : Topic → String
  | whole => programName
  | generate => "generate"
  | inspect => "inspect"
  | help => "help"

def about : Topic → String
  | whole => "Generate repository interfaces and storage-mapping scaffolding from a model"
  | generate => "Write the interface file and mapping directory for a model"
  | inspect => "Show each entity's key strategy and capabilities"
  | help => "Print this message or the help of the given subcommand(s)"

def commands : Topic → List Topic
  | whole => [generate, inspect, help]
  | generate => []
  | inspect => []
  | help => []

def helpSwitch : Switch := { name := "help", takes := .nothing, about := "Print help" }

def model : Switch :=
  { name := "model", takes := .path, about := "Model document (TOML)", required := true }

def switches : Topic → List Switch
  | whole => [
    { name := "workspace", takes := .path, about := "Workspace root directory",
      initial? := some "." },
    { name := "config", takes := .path,
      about := "Configuration file path, layered over " ++ Settings.Config.workspaceFile },
    { name := "verbose", takes := .nothing, about := "Enable verbose logging (default: off)" },
    { name := "log-level", takes := .text,
      about := "Log level (trace, debug, info, warn, error, off)" },
    { name := "log-format", takes := .text, about := "Log format (json, text)" },
    { name := "log-output", takes := .text, about := "Log output (stdout, stderr, file)" },
    { name := "log-file", takes := .path, about := "Log file path (if output is \"file\")" },
    helpSwitch]
  | generate => [
    model,
    { name := "out", takes := .path,
      about := "Output root; overrides output.root from configuration" },
    helpSwitch]
  | inspect => [
    model,
    { name := "format", takes := .text, about := "Output format (text or json)",
      initial? := some "text" },
    helpSwitch]
  | help => []

def command? (t : Topic) (w : String) : Option Topic :=
  t.commands.find? (·.word == w)

def switch? (t : Topic) (name : String) : Option Switch :=
  t.switches.find? (·.name == name)

end Topic
end Scaffold.CommandLine
