import Scaffold.Rules.Dispatch

/-! The milestones of a dispatch: the calls that succeeded, those made by rule bodies included, in
the order in which they were completed, the directories that had to be made on the way, and the
rules whose condition did not hold. A trace is computed beside the run that it describes and changes
nothing. -/

namespace Scaffold.Rules
open Code Files

inductive Milestone (V : Vocabulary)
  | madeDirectory (path : Path)
  | passedOver (tier : Tier) (k : V.Kind)
  | finished (call : Call V)

def Call.succeeded {V : Vocabulary} : (c : Call V) → c.Answer → Bool
  | .buildFragment .., answer => answer.isOk
  | .emitFile .., answer => answer.1.isOk
  | .emitFileAt .., answer => answer.isOk
  | .emitDirectoryAt .., answer => answer.isOk

abbrev Tracer (V : Vocabulary) : Type :=
  Call V → World → List (Milestone V)

def Program.trace {V : Vocabulary} {α : Type} (handle : Handler V) (tracer : Tracer V) :
    Program V α → World → List (Milestone V)
  | .done _, _ => []
  | .ask c next, w =>
    tracer c w ++ (next (handle c w).1).trace handle tracer (handle c w).2

/-- The directory that has to be made before a path can be one. -/
def madeFor {V : Vocabulary} (files : FileTree) (path : Path) : List (Milestone V) :=
  match files.status path, (files.ensureDirectory path).1 with
  | .error .notFound, .ok () => [.madeDirectory path]
  | _, _ => []

section Rules
variable {V : Vocabulary} {k : V.Kind} (handle : Handler V) (tracer : Tracer V)
  (inflector : Inflector)

def traceFold (d : V.Descriptor k) :
    List (Rule V (FragmentBody V) k) → Fragment → World → List (Milestone V)
  | [], _, _ => []
  | rule :: rest, acc, w =>
    if rule.applies d then
      (rule.body inflector acc d).run.trace handle tracer w ++
        match (rule.body inflector acc d).run.run handle w with
        | (.ok acc, w) => traceFold d rest acc w
        | (.error _, _) => []
    else .passedOver .fragment k :: traceFold d rest acc w

def traceFill (d : V.Descriptor k) :
    List (Rule V (FileBody V) k) → SourceFile → World → List (Milestone V)
  | [], _, _ => []
  | rule :: rest, file, w =>
    if rule.applies d then
      ((rule.body inflector d).run.run file).trace handle tracer w ++
        match ((rule.body inflector d).run.run file).run handle w with
        | ((.ok (), file), w) => traceFill d rest file w
        | ((.error _, _), _) => []
    else .passedOver .file k :: traceFill d rest file w

def traceDirectory (path : Path) (d : V.Descriptor k) :
    List (Rule V (DirectoryBody V) k) → World → List (Milestone V)
  | [], _ => []
  | rule :: rest, w =>
    if rule.applies d then
      (rule.body inflector path d).run.trace handle tracer w ++
        match (rule.body inflector path d).run.run handle w with
        | (.ok (), w) => traceDirectory path d rest w
        | (.error _, _) => []
    else .passedOver .directory k :: traceDirectory path d rest w

end Rules

namespace Registry
variable {V : Vocabulary} (r : Registry V)

/-- The milestones of filling the source file of a descriptor, the path being prepared first. -/
def traceFileOf {k : V.Kind} (handle : Handler V) (tracer : Tracer V) (path : Path)
    (d : V.Descriptor k) (w : World) : List (Milestone V) :=
  match V.package? k d with
  | none => []
  | some module =>
    let made := match path.parent?.filter (!·.isEmpty) with
      | some parent => madeFor w.files parent
      | none => []
    match w.files.prepareFile path with
    | (.error _, _) => made
    | (.ok (), files) =>
      let filled := traceFill handle tracer r.inflector d (r.tables.file.rulesFor k)
        { module := module } { w with files := files }
      let answer := (fillFile handle r.inflector d (r.tables.file.rulesFor k)
        { module := module } { w with files := files }).1
      made ++ filled ++ if answer.1.isOk then [.finished (.emitFile { module := module } d)] else []

def traceDirectoryOf {k : V.Kind} (handle : Handler V) (tracer : Tracer V) (path : Path)
    (d : V.Descriptor k) (w : World) : List (Milestone V) :=
  match w.files.ensureDirectory path with
  | (.error _, _) => []
  | (.ok (), files) =>
    madeFor w.files path ++ traceDirectory handle tracer r.inflector path d
      (r.tables.directory.rulesFor k) { w with files := files }

/-- The milestones on the way to the answer to one call. -/
def traceBody (handle : Handler V) (tracer : Tracer V) : Tracer V
  | .buildFragment (k := k) acc d, w =>
    traceFold handle tracer r.inflector d (r.tables.fragment.rulesFor k) acc w
  | .emitFile (k := k) file d, w =>
    traceFill handle tracer r.inflector d (r.tables.file.rulesFor k) file w
  | .emitFileAt path d, w => r.traceFileOf handle tracer path d w
  | .emitDirectoryAt path d, w => r.traceDirectoryOf handle tracer path d w

def traceTo : Nat → Tracer V
  | 0, _, _ => []
  | depth + 1, c, w =>
    r.traceBody (r.dispatch depth) (traceTo depth) c w ++
      if c.succeeded (r.dispatch (depth + 1) c w).1 then [.finished c] else []

def trace : Tracer V :=
  r.traceTo depthLimit

end Registry
end Scaffold.Rules
