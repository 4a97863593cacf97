import Scaffold.CommandLine.Process

/-! The footprint of a run: the paths that it looks at or writes to, so that no other part of a file
system has to be known. Which paths these are depends on the settings and on the model; a second
look, with the files of the first one known, finds them all. -/

namespace Scaffold.CommandLine
open Files Model Settings Journal

namespace Footprint

/-- The paths of settings, each with the path that an extension leads to. -/
def ofSettings (env : Environment) (i : Invocation) : List Path :=
  let named := (env.lookup Config.environmentVariable).map fun name =>
    (i.workspace.join "config").join (name ++ ".toml")
  (i.workspace.join Config.workspaceFile :: named.toList ++ i.config?.toList).flatMap fun path =>
    path :: (Config.withExtension? path).toList

def ofPlan (g : Generator) (p : Generator.Plan) : List Path :=
  p.interfaceFile :: match p.storage? with
    | none => []
    | some (path, directory) =>
      path :: (directory.plannedFiles g.storage.inflector).map path.join

def ofCommand (files : FileTree) (env : Environment) (i : Invocation) : List Path :=
  match Context.load files env i, Document.load files i.command.model, i.command with
  | .ok c, .ok d, .generate _ out? =>
    match c.generator.plan d c.config.output (c.outputRoot out?) with
    | .ok p => ofPlan c.generator p
    | .error _ => []
  | _, _, _ => []

/-- The paths of an invocation, as far as the known files show them. -/
def ofInvocation (files : FileTree) (env : Environment) (i : Invocation) : List Path :=
  ofSettings env i ++ [i.command.model, (Outcome.loggingOf files env i).file] ++
    ofCommand files env i

def of (files : FileTree) (env : Environment) (ws : List String) : List Path :=
  match Invocation.read ws with
  | .ok i => ofInvocation files env i
  | .error _ => []

def approaches (p : Path) : List Path :=
  ((List.range p.pieces.length).map fun n =>
    (⟨"/".intercalate (p.pieces.take (n + 1))⟩ : Path)).filter (!·.isEmpty)

def changes (before after : FileTree) : List (Location × Node) :=
  after.entries.filter fun e => before.node? e.1 != some e.2

end Footprint
end Scaffold.CommandLine
