import Scaffold.CommandLine.Context
import Scaffold.Journal.Event
import Scaffold.Rules.Trace

/-! The account of a run: the events of an invocation from its start to its end, whether or not they
are written. -/

namespace Scaffold.CommandLine
open Files Model Settings Journal Rules

namespace Account

def event (level : Level) (part message : String) (fields : List String) : Event where
  level := level
  topic := if part.isEmpty then Topic.programName else Topic.programName ++ "::" ++ part
  message := message
  fields := fields

def generation (root : Path) : Scope where
  topic := Topic.programName ++ "::generate"
  name := "run"
  fields := [("root", root.text)]

def ofCall : Call parts → List Event
  | .buildFragment (k := k) .. =>
    event .debug "engine::dispatch" "Built fragment"
        ["descriptor", "tier", "registered", "applied", "items"] ::
      if k = Part.fieldValues then
        [event .debug "mapping" "Emitted mapping scaffolding" ["entity", "table"]]
      else []
  | .emitFile .. =>
    [event .debug "engine::dispatch" "Emitted file rules"
      ["descriptor", "tier", "module", "registered", "applied"]]
  | .emitFileAt path _ =>
    [event .info "engine::dispatch" ("Wrote generated file path=" ++ path.text) ["path", "items"]]
  | .emitDirectoryAt path _ =>
    [event .debug "engine::dispatch" ("Emitted directory rules path=" ++ path.text)
      ["descriptor", "tier", "path", "registered", "applied"]]

def ofMilestone : Milestone parts → List Event
  | .madeDirectory path =>
    [event .info "engine::paths" ("Created directory path=" ++ path.text) ["path"]]
  | .passedOver tier k =>
    [event .trace "engine::dispatch"
      ("Rule skipped by predicate tier=" ++ tier.name ++ " descriptor=" ++ k.title) ["descriptor"]]
  | .finished call => ofCall call

def ofSources (files : FileTree) (env : Environment) (i : Invocation) : List Event :=
  let given := (i.config?.filter files.exists?).map fun path => (⟨path, true⟩ : Config.Source)
  (Config.workspaceSources files env i.workspace ++ given.toList).map fun source =>
    event .debug "config::sources" ("Adding config source config_path=" ++ source.path.text)
      ["config_path", "required"]

def ofContext (c : Context) : List Event := [
  event .debug "config" ("Loaded configuration root=" ++ c.config.output.root.text)
    ["root", "file_suffix"],
  event .debug "engine::registry" "Merging rule set into registry"
    ["directory", "file", "fragment"],
  event .info "" "CLI context initialized" []]

def milestones (g : Generator) (d : Document) (output : Output) (root : Path) (files : FileTree) :
    List (Milestone parts) :=
  match g.plan d output root with
  | .error _ => []
  | .ok p =>
    let interfaces := g.interfaces.recording Generator.log
    let storage := g.storage.recording Generator.log
    interfaces.trace (.emitFileAt (k := Part.interfaceFile) p.interfaceFile p.interfaces)
        { files := files } ++
      match interfaces.emitFileAt (k := Part.interfaceFile) p.interfaceFile p.interfaces
          { files := files }, p.storage? with
      | (.ok (), w), some (path, directory) =>
        storage.trace (.emitDirectoryAt (k := Part.storageDirectory) path directory) w
      | _, _ => []

def ofGeneration (c : Context) (d : Document) (root : Path) (files : FileTree) : List Event :=
  ((milestones c.generator d c.config.output root files).flatMap ofMilestone ++
    match (c.generator.run d c.config.output root files).1 with
    | .ok _ =>
      [event .info "generate" "Generation complete" ["entities", "files", "duration_ms"]]
    | .error _ => []).map fun e => { e with scope? := some (generation root) }

def ofExecution (c : Context) (command : Command) (files : FileTree) : List Event :=
  match Document.load files command.model with
  | .error _ => []
  | .ok d =>
    event .debug "model::document" ("Loaded model document path=" ++ command.model.text)
        ["path", "entities"] ::
      match command with
      | .generate _ out? => ofGeneration c d (c.outputRoot out?) files
      | .inspect .. => []

def ofResult (command : Command) : Except Failure String → List Event
  | .ok _ => [
    event .info "cli::route" ("Command finished command=" ++ command.name)
      ["command", "duration_ms"],
    event .info "" "Command completed successfully" []]
  | .error e => [
    event .warn "cli::route" ("Command failed command=" ++ command.name ++ " error=" ++ e.message)
      ["command", "error"],
    event .error "" ("Command failed: " ++ e.message) []]

def ofInvocation (files : FileTree) (env : Environment) (i : Invocation) : List Event :=
  event .info "" "Datagen CLI starting" [] :: ofSources files env i ++
    match Context.load files env i with
    | .error e =>
      [event .error "" ("Command failed: initializing workspace " ++ i.workspace.text ++ ": "
        ++ e.message) []]
    | .ok c =>
      ofContext c ++ ofExecution c i.command files ++
        ofResult i.command (c.execute i.command files).1

end Account
end Scaffold.CommandLine
