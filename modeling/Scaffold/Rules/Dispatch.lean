import Scaffold.Rules.Registry

/-! Dispatch: the rules for the kind of a descriptor run in the order of their registration, those
whose condition does not hold are passed over, and the first failure ends the run. The calls that
bodies make are dispatched through the same registry, to a depth that no working set of rules
reaches. -/

namespace Scaffold.Rules
open Code Files

/-- What rules can change: the file system, and the paths written so far under the names of the logs
that recorded them. -/
structure World where
  files : FileTree := .empty
  written : List (String × Path) := []
  deriving Inhabited

namespace World

def logged (w : World) (log : String) : List Path :=
  (w.written.filter (·.1 == log)).map (·.2)

def record (w : World) (log? : Option String) (path : Path) : World :=
  match log? with
  | some log => { w with written := w.written ++ [(log, path)] }
  | none => w

end World

abbrev Handler (V : Vocabulary) : Type :=
  (c : Call V) → World → c.Answer × World

def Program.run {V : Vocabulary} {α : Type} (handle : Handler V) : Program V α → World → α × World
  | .done a, w => (a, w)
  | .ask c next, w => (next (handle c w).1).run handle (handle c w).2

@[simp] theorem Program.run_done {V : Vocabulary} {α : Type} (handle : Handler V) (a : α)
    (w : World) : (Program.done a : Program V α).run handle w = (a, w) := rfl

@[simp] theorem Program.run_ask {V : Vocabulary} {α : Type} (handle : Handler V) (c : Call V)
    (next : c.Answer → Program V α) (w : World) :
    (Program.ask c next).run handle w = (next (handle c w).1).run handle (handle c w).2 := rfl

theorem Program.run_bind {V : Vocabulary} {α β : Type} (handle : Handler V) (p : Program V α)
    (f : α → Program V β) (w : World) :
    (p >>= f).run handle w = (f (p.run handle w).1).run handle (p.run handle w).2 := by
  induction p generalizing w with
  | done a => rfl
  | ask c next ih => exact ih _ _

def Call.tooDeep {V : Vocabulary} : (c : Call V) → c.Answer
  | .buildFragment .. => .error .nesting
  | .emitFile file _ => (.error .nesting, file)
  | .emitFileAt .. => .error .nesting
  | .emitDirectoryAt .. => .error .nesting

section Rules
variable {V : Vocabulary} {k : V.Kind} (handle : Handler V) (inflector : Inflector)

def foldFragment (d : V.Descriptor k) :
    List (Rule V (FragmentBody V) k) → Fragment → World → Except Failure Fragment × World
  | [], acc, w => (.ok acc, w)
  | rule :: rest, acc, w =>
    if rule.applies d then
      match (rule.body inflector acc d).run.run handle w with
      | (.ok acc, w) => foldFragment d rest acc w
      | (.error e, w) => (.error e, w)
    else foldFragment d rest acc w

def fillFile (d : V.Descriptor k) :
    List (Rule V (FileBody V) k) → SourceFile → World → (Except Failure Unit × SourceFile) × World
  | [], file, w => ((.ok (), file), w)
  | rule :: rest, file, w =>
    if rule.applies d then
      match ((rule.body inflector d).run.run file).run handle w with
      | ((.ok (), file), w) => fillFile d rest file w
      | ((.error e, file), w) => ((.error e, file), w)
    else fillFile d rest file w

def fillDirectory (path : Path) (d : V.Descriptor k) :
    List (Rule V (DirectoryBody V) k) → World → Except Failure Unit × World
  | [], w => (.ok (), w)
  | rule :: rest, w =>
    if rule.applies d then
      match (rule.body inflector path d).run.run handle w with
      | (.ok (), w) => fillDirectory path d rest w
      | (.error e, w) => (.error e, w)
    else fillDirectory path d rest w

theorem foldFragment_filter (d : V.Descriptor k) (rules : List (Rule V (FragmentBody V) k))
    (acc : Fragment) (w : World) :
    foldFragment handle inflector d (rules.filter (·.applies d)) acc w =
      foldFragment handle inflector d rules acc w := by
  induction rules generalizing acc w with
  | nil => rfl
  | cons rule rest ih =>
    by_cases h : rule.applies d
    · simp only [List.filter_cons, h, foldFragment, if_true]
      split
      · exact ih _ _
      · rfl
    · simp only [List.filter_cons, h, foldFragment]
      exact ih acc w

theorem fillFile_filter (d : V.Descriptor k) (rules : List (Rule V (FileBody V) k))
    (file : SourceFile) (w : World) :
    fillFile handle inflector d (rules.filter (·.applies d)) file w =
      fillFile handle inflector d rules file w := by
  induction rules generalizing file w with
  | nil => rfl
  | cons rule rest ih =>
    by_cases h : rule.applies d
    · simp only [List.filter_cons, h, fillFile, if_true]
      split
      · exact ih _ _
      · rfl
    · simp only [List.filter_cons, h, fillFile]
      exact ih file w

end Rules

namespace Registry
variable {V : Vocabulary} (r : Registry V)

/-- Writes the file of a descriptor: the path is prepared before any rule runs, and the text is
written after all of them succeeded. -/
def writeFileOf {k : V.Kind} (handle : Handler V) (path : Path) (d : V.Descriptor k) (w : World) :
    Except Failure Unit × World :=
  match V.package? k d with
  | none => (.error (.missingPackage (V.title k)), w)
  | some module =>
    match w.files.prepareFile path with
    | (.error e, files) => (.error e, { w with files := files })
    | (.ok (), files) =>
      match fillFile handle r.inflector d (r.tables.file.rulesFor k) { module := module }
          { w with files := files } with
      | ((.error e, _), w) => (.error e, w)
      | ((.ok (), file), w) =>
        match file.writeTo w.files path with
        | (.error e, files) => (.error e, { w with files := files })
        | (.ok (), files) => (.ok (), { w with files := files }.record r.log? path)

def fillDirectoryOf {k : V.Kind} (handle : Handler V) (path : Path) (d : V.Descriptor k)
    (w : World) : Except Failure Unit × World :=
  match w.files.ensureDirectory path with
  | (.error e, files) => (.error e, { w with files := files })
  | (.ok (), files) =>
    fillDirectory handle r.inflector path d (r.tables.directory.rulesFor k)
      { w with files := files }

/-- Answers one call, the calls of rule bodies being answered by a handler. -/
def answer (handle : Handler V) : Handler V
  | .buildFragment (k := k) acc d, w =>
    foldFragment handle r.inflector d (r.tables.fragment.rulesFor k) acc w
  | .emitFile (k := k) file d, w =>
    fillFile handle r.inflector d (r.tables.file.rulesFor k) file w
  | .emitFileAt path d, w => r.writeFileOf handle path d w
  | .emitDirectoryAt path d, w => r.fillDirectoryOf handle path d w

/-- Answers calls whose rule bodies nest at most `depth` calls deep. -/
def dispatch : Nat → Handler V
  | 0, c, w => (c.tooDeep, w)
  | depth + 1, c, w => r.answer (dispatch depth) c w

theorem dispatch_succ (depth : Nat) (c : Call V) (w : World) :
    r.dispatch (depth + 1) c w = r.answer (r.dispatch depth) c w := rfl

def depthLimit : Nat := 4096

variable {k : V.Kind}

def buildFragment (acc : Fragment) (d : V.Descriptor k) (w : World) :
    Except Failure Fragment × World :=
  r.dispatch depthLimit (.buildFragment acc d) w

def emitFile (file : SourceFile) (d : V.Descriptor k) (w : World) :
    (Except Failure Unit × SourceFile) × World :=
  r.dispatch depthLimit (.emitFile file d) w

def emitFileAt (path : Path) (d : V.Descriptor k) (w : World) : Except Failure Unit × World :=
  r.dispatch depthLimit (.emitFileAt path d) w

def emitDirectoryAt (path : Path) (d : V.Descriptor k) (w : World) : Except Failure Unit × World :=
  r.dispatch depthLimit (.emitDirectoryAt path d) w

end Registry
end Scaffold.Rules
