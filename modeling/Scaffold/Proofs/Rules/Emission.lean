import Scaffold.Proofs.Files.Written
import Scaffold.Proofs.Rules.Layers

/-! Emission by plan. What a registry with layered rules does to the files and to its log is a list
of tasks that is known before it starts: paths to be seen to, and files to be written with the text
that their rules make. A run carries out a list of planned files when it writes the first of them in
order, records their paths, changes nothing else, and comes to the end of the list if it succeeds;
tasks carry out the files among them. -/

namespace Scaffold.Rules
open Code Files

/-- A file to be written, with the text that its rules make of its descriptor. -/
structure PlannedFile where
  path : Path
  text : Except Failure String

def PlannedFile.written (f : Path × String) : PlannedFile :=
  ⟨f.1, .ok f.2⟩

def lastPlanned (planned : List PlannedFile) (l : Location) : Option PlannedFile :=
  (planned.filter (·.path.target = l)).getLast?

/-- Every planned file is in the tree, with the text of the last one that leads to its location. -/
def Delivered (planned : List PlannedFile) (t : FileTree) : Prop :=
  ∀ f ∈ planned, t.resolve f.path = .ok f.path.target ∧
    ∃ last text, lastPlanned planned f.path.target = some last ∧ last.text = .ok text ∧
      t.status f.path = .ok (.file text.toUTF8)

theorem lastPlanned_written (writes : List (Path × String)) (l : Location) :
    lastPlanned (writes.map .written) l =
      (writes.filter (·.1.target = l)).getLast?.map .written := by
  rw [lastPlanned, List.filter_map, List.getLast?_map]
  rfl

theorem mem_of_lastPlanned {planned : List PlannedFile} {l : Location} {f : PlannedFile}
    (last : lastPlanned planned l = some f) : f ∈ planned ∧ f.path.target = l := by
  obtain ⟨member, leads⟩ := List.mem_filter.1 (List.mem_of_getLast? last)
  exact ⟨member, of_decide_eq_true leads⟩

theorem lastPlanned_concat (planned : List PlannedFile) (f : PlannedFile) :
    lastPlanned (planned ++ [f]) f.path.target = some f := by
  simp [lastPlanned, List.filter_append]

theorem delivered_of_written {S : Location → Prop} {t t' : FileTree}
    {writes : List (Path × String)} (h : Written S t writes t') :
    Delivered (writes.map .written) t' := by
  intro f hf
  obtain ⟨w, hw, rfl⟩ := List.mem_map.1 hf
  have resolved := h.resolves w hw
  obtain ⟨text, held⟩ := exists_lastText hw
  obtain ⟨last, hl, rfl⟩ := Option.map_eq_some_iff.1 held
  refine ⟨resolved, .written last, last.2, ?_, rfl, ?_⟩
  · rw [lastPlanned_written]
    exact congrArg (Option.map _) hl
  · change t'.status w.1 = _
    rw [FileTree.status, resolved]
    simp only [h.holds w.1.target last.2 held]

namespace Registry
variable {V : Vocabulary} {k : V.Kind}

def rendering (r : Registry V) (d : V.Descriptor k) : Except Failure String :=
  match V.package? k d with
  | none => .error (.missingPackage (V.title k))
  | some module =>
    match (r.emitFile { module := module } d {}).1 with
    | (.error e, _) => .error e
    | (.ok (), file) => .ok file.render

theorem rendering_eq_ok_iff {r : Registry V} {d : V.Descriptor k} {module text : String}
    (package : V.package? k d = some module) :
    r.rendering d = .ok text ↔ ∃ file, (r.emitFile { module := module } d {}).1 = (.ok (), file) ∧
      text = file.render := by
  simp only [rendering, package]
  obtain ⟨e | _, file⟩ := (r.emitFile { module := module } d {}).1
  · refine iff_of_false nofun ?_
    rintro ⟨_, made, -⟩
    cases made
  · constructor
    · exact fun made => ⟨file, rfl, (Except.ok.inj made).symm⟩
    · rintro ⟨_, made, rfl⟩
      obtain ⟨-, rfl⟩ := Prod.mk.inj made
      rfl

theorem fillFile_recording {rank : V.Kind → Nat} {r : Registry V} (layered : r.tables.Layered rank)
    (log : String) (d : V.Descriptor k) {depth : Nat} (deep : rank k ≤ depth)
    (limit : rank k < depthLimit) (file : SourceFile) (w : World) :
    fillFile ((r.recording log).dispatch depth) (r.recording log).inflector d
        ((r.recording log).tables.file.rulesFor k) file w =
      ((r.emitFile file d {}).1, w) := by
  have tables : (r.recording log).tables = r.tables := rfl
  have agree := dispatch_agree layered tables rfl {} w (rank k + 1) depthLimit (depth + 1) limit
    (Nat.succ_le_succ deep)
  have below : (Call.emitFile file d).Below rank (rank k + 1) :=
    (Call.below_emitFile file d).2 (Nat.lt_succ_self _)
  obtain ⟨same, -, world⟩ := agree (.emitFile file d) below {} w ⟨rfl, rfl⟩
  exact Prod.ext same.symm world

end Registry

/-! ## Carrying out -/

/-- The writes made so far in a world, in the order of its log. -/
structure Progress (S : Location → Prop) (t : FileTree) (log : String)
    (writes : List (Path × String)) (w : World) : Prop where
  written : Written S t writes w.files
  logged : w.logged log = writes.map (·.1)

theorem Progress.withFiles {S : Location → Prop} {t files : FileTree} {log : String}
    {writes : List (Path × String)} {w : World} (h : Progress S t log writes w)
    (written : Written S t writes files) : Progress S t log writes { w with files := files } :=
  ⟨written, h.logged⟩

theorem Progress.record {S : Location → Prop} {t : FileTree} {log : String}
    {writes : List (Path × String)} {w : World} {path : Path} {text : String}
    (logged : w.logged log = writes.map (·.1))
    (written : Written S t (writes ++ [(path, text)]) w.files) :
    Progress S t log (writes ++ [(path, text)]) (w.record (some log) path) := by
  refine ⟨written, ?_⟩
  rw [List.map_append, ← logged]
  simp [World.logged, World.record]

def inTurn (run next : World → Except Failure Unit × World) (w : World) :
    Except Failure Unit × World :=
  match run w with
  | (.error e, w) => (.error e, w)
  | (.ok (), w) => next w

/-- A run goes on with the first files of a plan, and with all of them if it succeeds. -/
def CarriesOut (S : Location → Prop) (t : FileTree) (log : String) (planned : List PlannedFile)
    (run : World → Except Failure Unit × World) : Prop :=
  ∀ writes w, Progress S t log writes w → ∃ more, Progress S t log (writes ++ more) (run w).2 ∧
    more.map .written <+: planned ∧ ((run w).1 = .ok () → more.map .written = planned)

theorem Progress.stop {S : Location → Prop} {t : FileTree} {log : String}
    {writes : List (Path × String)} {w : World} (progress : Progress S t log writes w)
    (planned : List PlannedFile) (e : Failure) :
    ∃ more, Progress S t log (writes ++ more) w ∧ more.map .written <+: planned ∧
      ((.error e : Except Failure Unit) = .ok () → more.map .written = planned) := by
  refine ⟨[], ?_, List.nil_prefix, ?_⟩
  · rw [List.append_nil]
    exact progress
  · intro ok
    cases ok

section Carrying
variable {S : Location → Prop} {t : FileTree} {log : String} {planned later : List PlannedFile}
  {run next : World → Except Failure Unit × World}

theorem carriesOut_still (result : Except Failure Unit) :
    CarriesOut S t log [] fun w => (result, w) := by
  intro writes w progress
  exact ⟨[], by simpa using progress, List.nil_prefix, fun _ => rfl⟩

theorem CarriesOut.inTurn (first : CarriesOut S t log planned run)
    (second : CarriesOut S t log later next) :
    CarriesOut S t log (planned ++ later) (inTurn run next) := by
  intro writes w progress
  obtain ⟨more, after, part, whole⟩ := first writes w progress
  unfold Rules.inTurn
  generalize run w = ran at after part whole
  obtain ⟨e | _, w⟩ := ran
  · exact ⟨more, after, part.trans (List.prefix_append planned later), nofun⟩
  · obtain ⟨more', after', part', whole'⟩ := second (writes ++ more) w after
    refine ⟨more ++ more', by simpa using after', ?_, fun ok => ?_⟩
    · rw [List.map_append, whole rfl]
      exact List.prefix_append_right_inj planned |>.2 part'
    · rw [List.map_append, whole rfl, whole' ok]

end Carrying

/-! ## Tasks -/

/-- One thing to be done: a check whose result is known, or a path to bring into being. -/
inductive Task
  | check (result : Except Failure Unit)
  | directory (path : Path)
  | file (f : PlannedFile)

namespace Task

/-- Does one thing; a file is written if its text could be made, and its path is recorded. -/
def perform (log : String) : Task → World → Except Failure Unit × World
  | .check result, w => (result, w)
  | .directory path, w =>
    match w.files.ensureDirectory path with
    | (result, files) => (result, { w with files := files })
  | .file f, w =>
    match w.files.prepareFile f.path with
    | (.error e, files) => (.error e, { w with files := files })
    | (.ok (), files) =>
      match f.text with
      | .error e => (.error e, { w with files := files })
      | .ok text =>
        match files.writeFile f.path text with
        | (.error e, files) => (.error e, { w with files := files })
        | (.ok (), files) => (.ok (), { w with files := files }.record (some log) f.path)

def path? : Task → Option Path
  | .check _ => none
  | .directory path => some path
  | .file f => some f.path

def file? : Task → Option PlannedFile
  | .file f => some f
  | _ => none

end Task

def performAll (log : String) : List Task → World → Except Failure Unit × World
  | [] => fun w => (.ok (), w)
  | task :: rest => inTurn (task.perform log) (performAll log rest)

theorem performAll_singleton (log : String) (task : Task) :
    performAll log [task] = task.perform log := by
  funext w
  rw [performAll, inTurn]
  obtain ⟨e | _, w⟩ := task.perform log w
  · rfl
  · rfl

def Task.files (tasks : List Task) : List PlannedFile :=
  tasks.filterMap Task.file?

theorem Task.files_append (tasks later : List Task) :
    Task.files (tasks ++ later) = Task.files tasks ++ Task.files later :=
  List.filterMap_append

theorem Task.files_map_file (planned : List PlannedFile) :
    Task.files (planned.map .file) = planned := by
  induction planned with
  | nil => rfl
  | cons f rest ih => exact congrArg (f :: ·) ih

theorem inTurn_assoc (run next last : World → Except Failure Unit × World) :
    inTurn (inTurn run next) last = inTurn run (inTurn next last) := by
  funext w
  unfold inTurn
  obtain ⟨e | _, w⟩ := run w
  · rfl
  · rfl

theorem performAll_append (log : String) (tasks later : List Task) :
    performAll log (tasks ++ later) = inTurn (performAll log tasks) (performAll log later) := by
  induction tasks with
  | nil => rfl
  | cons task rest ih =>
    rw [List.cons_append, performAll, ih, performAll, inTurn_assoc]

section Tasks
variable {S : Location → Prop} {t : FileTree} {log : String} {tasks : List Task}

theorem carriesOut_perform {task : Task}
    (passes : ∀ path, task.path? = some path → ∀ l, path.Passes l → S l) :
    CarriesOut S t log (Task.files [task]) (task.perform log) := by
  intro writes w progress
  cases task with
  | check result => exact carriesOut_still result writes w progress
  | directory path =>
    have ensured := progress.written.adds
      ((FileTree.ensureDirectory_adds w.files path).mono (passes path rfl))
    refine ⟨[], ?_, List.nil_prefix, fun _ => rfl⟩
    rw [List.append_nil]
    exact progress.withFiles ensured
  | file f =>
    obtain ⟨path, text⟩ := f
    have prepared := progress.written.adds
      ((FileTree.prepareFile_adds w.files path).mono (passes path rfl))
    simp only [Task.perform]
    split
    · rename_i e files hp
      rw [hp] at prepared
      exact (progress.withFiles prepared).stop _ e
    · rename_i files hp
      rw [hp] at prepared
      cases text with
      | error e => exact (progress.withFiles prepared).stop _ e
      | ok text =>
        have outcome := prepared.writeFile (passes path rfl) text
        simp only
        generalize files.writeFile path text = out at outcome ⊢
        obtain ⟨result, files⟩ := out
        rcases outcome with ⟨e, rfl, after⟩ | ⟨rfl, after⟩
        · exact (progress.withFiles after).stop _ e
        · refine ⟨[(path, text)], ?_, List.prefix_refl _, fun _ => rfl⟩
          exact Progress.record progress.logged after

theorem carriesOut_performAll
    (passes : ∀ task ∈ tasks, ∀ path, task.path? = some path → ∀ l, path.Passes l → S l) :
    CarriesOut S t log (Task.files tasks) (performAll log tasks) := by
  induction tasks with
  | nil => exact carriesOut_still (.ok ())
  | cons task rest ih =>
    have first : CarriesOut S t log (Task.files [task]) (task.perform log) :=
      carriesOut_perform (passes task List.mem_cons_self)
    have later := ih fun task h => passes task (List.mem_cons_of_mem _ h)
    have whole := first.inTurn later
    rw [← Task.files_append] at whole
    exact whole

theorem performAll_delivers {w v : World} (fresh : w.logged log = [])
    (h : performAll log tasks w = (.ok (), v)) : Delivered (Task.files tasks) v.files := by
  have begun : Progress (fun _ => True) w.files log [] w := ⟨Written.start _ _, fresh⟩
  have carried : CarriesOut (fun _ => True) w.files log (Task.files tasks) (performAll log tasks) :=
    carriesOut_performAll fun _ _ _ _ _ _ => trivial
  obtain ⟨writes, progress, -, whole⟩ := carried [] w begun
  rw [h] at progress whole
  rw [← whole rfl]
  exact delivered_of_written progress.written

end Tasks

/-! ## Scripts -/

section Scripts
variable {V : Vocabulary} {handle : Handler V} {log : String}

theorem Script.run_bind (handle : Handler V) (s : Script V Unit) (f : Unit → Script V Unit) :
    (s >>= f).run.run handle = inTurn (s.run.run handle) ((f ()).run.run handle) := by
  funext w
  change (s.run >>= ExceptT.bindCont f).run handle w = _
  rw [Program.run_bind, inTurn]
  generalize s.run.run handle w = ran
  obtain ⟨e | _, w⟩ := ran
  · rfl
  · rfl

theorem Script.run_forM {γ : Type} {f : γ → Script V Unit} {task : γ → Task} {list : List γ}
    (each : ∀ c ∈ list, (f c).run.run handle = (task c).perform log) :
    (list.forM f).run.run handle = performAll log (list.map task) := by
  induction list with
  | nil => rfl
  | cons c rest ih =>
    change (f c >>= fun _ => rest.forM f).run.run handle = _
    rw [Script.run_bind, each c List.mem_cons_self,
      ih fun c' hc => each c' (List.mem_cons_of_mem c hc)]
    rfl

end Scripts

namespace Registry
variable {V : Vocabulary} {k : V.Kind} {rank : V.Kind → Nat}

theorem emitFileAt_eq_perform {r : Registry V} (layered : r.tables.Layered rank) (log : String)
    (path : Path) {d : V.Descriptor k} {module : String} (package : V.package? k d = some module)
    {depth : Nat} (deep : rank k ≤ depth) (limit : rank k < depthLimit) :
    (r.recording log).dispatch (depth + 1) (.emitFileAt path d) =
      Task.perform log (.file ⟨path, r.rendering d⟩) := by
  funext w
  rw [dispatch_succ]
  simp only [answer, writeFileOf, Task.perform, rendering, package]
  obtain ⟨e | _, files⟩ := w.files.prepareFile path
  · rfl
  · have filled := fillFile_recording layered log d deep limit { module := module }
      { w with files := files }
    simp only [filled]
    obtain ⟨e | _, file⟩ := (r.emitFile { module := module } d {}).1
    · rfl
    · rfl

theorem run_emitFileAt {r : Registry V} (layered : r.tables.Layered rank) (log : String)
    (path : Path) {d : V.Descriptor k} {module : String} (package : V.package? k d = some module)
    {depth : Nat} (deep : rank k ≤ depth) (limit : rank k < depthLimit) :
    (Script.emitFileAt path d).run.run ((r.recording log).dispatch (depth + 1)) =
      Task.perform log (.file ⟨path, r.rendering d⟩) :=
  emitFileAt_eq_perform layered log path package deep limit

theorem fillDirectory_single (handle : Handler V) (inflector : Inflector) (path : Path)
    (d : V.Descriptor k) (body : DirectoryBody V k) (w : World) :
    fillDirectory handle inflector path d [⟨.always k, body⟩] w =
      (body inflector path d).run.run handle w := by
  simp only [fillDirectory, Rule.applies, Key.admits_always, if_true]
  generalize (body inflector path d).run.run handle w = ran
  obtain ⟨e | _, w⟩ := ran
  · rfl
  · rfl

theorem emitDirectoryAt_eq_performAll {r : Registry V} {log : String} {tasks : List Task}
    {path : Path} {d : V.Descriptor k} {body : DirectoryBody V k}
    (rules : r.tables.directory.rulesFor k = [⟨.always k, body⟩]) {depth : Nat}
    (filled : (body r.inflector path d).run.run (r.dispatch depth) = performAll log tasks) :
    r.dispatch (depth + 1) (.emitDirectoryAt path d) =
      performAll log (.directory path :: tasks) := by
  funext w
  rw [dispatch_succ]
  simp only [answer, fillDirectoryOf, rules, performAll, inTurn, Task.perform]
  obtain ⟨e | _, files⟩ := w.files.ensureDirectory path
  · rfl
  · simp only
    rw [fillDirectory_single, filled]

end Registry
end Scaffold.Rules
