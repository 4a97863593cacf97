import Scaffold.Rules.Trace

/-! Logs of written paths. The trace of a call lists the calls that succeeded on its way, at every
depth, in the order in which they were completed. A registry that records appends to its log the
paths of the files written among them, one entry for each, whether the call itself succeeds or
fails. No other log grows. -/

namespace Scaffold.Rules
open Code Files

variable {V : Vocabulary} {log? : Option String} {handle : Handler V} {tracer : Tracer V}

def Milestone.written? : Milestone V → Option Path
  | .finished (.emitFileAt path _) => some path
  | _ => none

/-- The paths of the files that were written, in the order of completion. -/
def writes (milestones : List (Milestone V)) : List Path :=
  milestones.filterMap Milestone.written?

@[simp] theorem writes_nil : writes ([] : List (Milestone V)) = [] := rfl

@[simp] theorem writes_append (milestones later : List (Milestone V)) :
    writes (milestones ++ later) = writes milestones ++ writes later :=
  List.filterMap_append

@[simp] theorem writes_passedOver (tier : Tier) (k : V.Kind) (later : List (Milestone V)) :
    writes (.passedOver tier k :: later) = writes later := rfl

@[simp] theorem writes_emitFileAt {k : V.Kind} (path : Path) (d : V.Descriptor k) :
    writes [.finished (.emitFileAt path d)] = [path] := rfl

@[simp] theorem writes_madeFor (files : FileTree) (path : Path) :
    writes (madeFor files path : List (Milestone V)) = [] := by
  unfold madeFor
  split
  · rfl
  · rfl

def entriesFor (log? : Option String) (paths : List Path) : List (String × Path) :=
  match log? with
  | some log => paths.map fun path => (log, path)
  | none => []

@[simp] theorem entriesFor_nil (log? : Option String) : entriesFor log? [] = [] := by
  cases log? with
  | none => rfl
  | some log => rfl

theorem entriesFor_append (log? : Option String) (paths later : List Path) :
    entriesFor log? (paths ++ later) = entriesFor log? paths ++ entriesFor log? later := by
  cases log? with
  | none => rfl
  | some log => exact List.map_append

theorem written_record (w : World) (log? : Option String) (path : Path) :
    (w.record log? path).written = w.written ++ entriesFor log? [path] := by
  cases log? with
  | none => exact (List.append_nil w.written).symm
  | some log => rfl

/-- A handler appends an entry for each file that is written on the way to an answer. -/
def Logs (log? : Option String) (handle : Handler V) (tracer : Tracer V) : Prop :=
  ∀ c w, (handle c w).2.written = w.written ++ entriesFor log? (writes (tracer c w))

theorem Logs.run (logs : Logs log? handle tracer) {α : Type} (p : Program V α) (w : World) :
    (p.run handle w).2.written =
      w.written ++ entriesFor log? (writes (p.trace handle tracer w)) := by
  induction p generalizing w with
  | done a => simp [Program.trace]
  | ask c next ih =>
    rw [Program.run_ask, ih, logs c w, Program.trace, writes_append, entriesFor_append,
      List.append_assoc]

/-! ## Rules -/

section Rules
variable {k : V.Kind} (logs : Logs log? handle tracer) (inflector : Inflector)
include logs

theorem Logs.foldFragment (d : V.Descriptor k) (rules : List (Rule V (FragmentBody V) k))
    (acc : Fragment) (w : World) :
    (foldFragment handle inflector d rules acc w).2.written =
      w.written ++ entriesFor log? (writes (traceFold handle tracer inflector d rules acc w)) := by
  induction rules generalizing acc w with
  | nil => simp [Rules.foldFragment, traceFold]
  | cons rule rest ih =>
    have body := logs.run (rule.body inflector acc d).run w
    simp only [Rules.foldFragment, traceFold]
    split
    · generalize (rule.body inflector acc d).run.run handle w = ran at body
      obtain ⟨e | acc, v⟩ := ran
      · simpa using body
      · rw [ih, body, writes_append, entriesFor_append, List.append_assoc]
    · exact ih acc w

theorem Logs.fillFile (d : V.Descriptor k) (rules : List (Rule V (FileBody V) k))
    (file : SourceFile) (w : World) :
    (fillFile handle inflector d rules file w).2.written =
      w.written ++ entriesFor log? (writes (traceFill handle tracer inflector d rules file w)) := by
  induction rules generalizing file w with
  | nil => simp [Rules.fillFile, traceFill]
  | cons rule rest ih =>
    have body := logs.run ((rule.body inflector d).run.run file) w
    simp only [Rules.fillFile, traceFill]
    split
    · generalize ((rule.body inflector d).run.run file).run handle w = ran at body
      obtain ⟨⟨e | _, file⟩, v⟩ := ran
      · simpa using body
      · rw [ih, body, writes_append, entriesFor_append, List.append_assoc]
    · exact ih file w

theorem Logs.fillDirectory (path : Path) (d : V.Descriptor k)
    (rules : List (Rule V (DirectoryBody V) k)) (w : World) :
    (fillDirectory handle inflector path d rules w).2.written =
      w.written ++
        entriesFor log? (writes (traceDirectory handle tracer inflector path d rules w)) := by
  induction rules generalizing w with
  | nil => simp [Rules.fillDirectory, traceDirectory]
  | cons rule rest ih =>
    have body := logs.run (rule.body inflector path d).run w
    simp only [Rules.fillDirectory, traceDirectory]
    split
    · generalize (rule.body inflector path d).run.run handle w = ran at body
      obtain ⟨e | _, v⟩ := ran
      · simpa using body
      · rw [ih, body, writes_append, entriesFor_append, List.append_assoc]
    · exact ih w

end Rules

/-! ## Calls -/

/-- The milestone of a call itself, which is completed after all on the way. -/
def Call.milestone (c : Call V) (answer : c.Answer) : List (Milestone V) :=
  if c.succeeded answer then [.finished c] else []

theorem writes_milestone {c : Call V} (silent : (Milestone.finished c).written? = none)
    (answer : c.Answer) : writes (c.milestone answer) = [] := by
  unfold Call.milestone
  split
  · rw [writes, List.filterMap_cons_none silent]
    rfl
  · rfl

namespace Registry
variable (r : Registry V)

theorem writes_traceFileOf {k : V.Kind} (path : Path) (d : V.Descriptor k) (w : World) :
    writes (r.traceFileOf handle tracer path d w) =
      match V.package? k d with
      | none => []
      | some module =>
        match w.files.prepareFile path with
        | (.error _, _) => []
        | (.ok (), files) =>
          writes (traceFill handle tracer r.inflector d (r.tables.file.rulesFor k)
            { module := module } { w with files := files }) := by
  unfold traceFileOf
  cases V.package? k d with
  | none => rfl
  | some module =>
    obtain ⟨e | _, files⟩ := w.files.prepareFile path
    · cases path.parent?.filter (!·.isEmpty) with
      | none => rfl
      | some parent => exact writes_madeFor w.files parent
    · have filled : ∀ answer : Except Failure Unit × SourceFile,
          writes (if answer.1.isOk then [.finished (.emitFile { module := module } d)] else []) =
            [] := by
        intro answer
        split <;> rfl
      simp only [writes_append, filled, List.append_nil]
      cases path.parent?.filter (!·.isEmpty) with
      | none => rfl
      | some parent => simp only [writes_madeFor, List.nil_append]

theorem writeFileOf_written (logs : Logs r.log? handle tracer) {k : V.Kind} (path : Path)
    (d : V.Descriptor k) (w : World) :
    (r.writeFileOf handle path d w).2.written = w.written ++ entriesFor r.log?
      (writes (r.traceFileOf handle tracer path d w) ++
        writes ((Call.emitFileAt path d).milestone (r.writeFileOf handle path d w).1)) := by
  have failed : ∀ e : Failure, writes ((Call.emitFileAt path d).milestone (.error e)) = [] :=
    fun _ => rfl
  rw [writes_traceFileOf, entriesFor_append, ← List.append_assoc]
  unfold writeFileOf
  cases V.package? k d with
  | none => simp [failed]
  | some module =>
    simp only
    obtain ⟨e | _, files⟩ := w.files.prepareFile path
    · simp [failed]
    · have filled := logs.fillFile r.inflector d (r.tables.file.rulesFor k) { module := module }
        { w with files := files }
      simp only
      rw [← filled]
      generalize fillFile handle r.inflector d (r.tables.file.rulesFor k) { module := module }
        { w with files := files } = out
      obtain ⟨⟨e | _, file⟩, v⟩ := out
      · simp [failed]
      · simp only
        obtain ⟨e | _, after⟩ := file.writeTo v.files path
        · simp [failed]
        · exact written_record { v with files := after } r.log? path

theorem fillDirectoryOf_written (logs : Logs r.log? handle tracer) {k : V.Kind} (path : Path)
    (d : V.Descriptor k) (w : World) :
    (r.fillDirectoryOf handle path d w).2.written = w.written ++
      entriesFor r.log? (writes (r.traceDirectoryOf handle tracer path d w)) := by
  unfold fillDirectoryOf traceDirectoryOf
  obtain ⟨e | _, files⟩ := w.files.ensureDirectory path
  · simp
  · rw [writes_append, writes_madeFor, List.nil_append]
    exact logs.fillDirectory r.inflector path d _ _

theorem answer_written (logs : Logs r.log? handle tracer) (c : Call V) (w : World) :
    (r.answer handle c w).2.written = w.written ++ entriesFor r.log?
      (writes (r.traceBody handle tracer c w ++ c.milestone (r.answer handle c w).1)) := by
  rw [writes_append]
  cases c with
  | emitFileAt path d => exact r.writeFileOf_written logs path d w
  | buildFragment acc d =>
    rw [writes_milestone rfl, List.append_nil]
    exact logs.foldFragment r.inflector d _ acc w
  | emitFile file d =>
    rw [writes_milestone rfl, List.append_nil]
    exact logs.fillFile r.inflector d _ file w
  | emitDirectoryAt path d =>
    rw [writes_milestone rfl, List.append_nil]
    exact r.fillDirectoryOf_written logs path d w

theorem logs_dispatch (depth : Nat) : Logs r.log? (r.dispatch depth) (r.traceTo depth) := by
  induction depth with
  | zero => exact fun c w => by simp [dispatch, traceTo]
  | succ depth ih => exact r.answer_written ih

end Registry

/-! ## Logs -/

theorem logged_of_written {w v : World} {paths : List Path}
    (h : v.written = w.written ++ entriesFor log? paths) (log : String) :
    v.logged log = w.logged log ++ if log? = some log then paths else [] := by
  rw [World.logged, World.logged, h, List.filter_append, List.map_append]
  refine congrArg _ ?_
  cases log? with
  | none => rfl
  | some other =>
    have same : (some other = some log) = (other = log) := by simp
    simp only [entriesFor, List.filter_map, List.map_map, same]
    by_cases here : other = log
    · simp [here, Function.comp_def]
    · simp [here, Function.comp_def]

namespace Registry
variable (r : Registry V)

theorem logged_dispatch (depth : Nat) (c : Call V) (w : World) (log : String) :
    (r.dispatch depth c w).2.logged log =
      w.logged log ++ if r.log? = some log then writes (r.traceTo depth c w) else [] :=
  logged_of_written (r.logs_dispatch depth c w) log

/-- A call through a recording registry appends to the log the paths of the files whose writing
succeeded on its way, nested calls included, in the order in which they were completed. If the call
fails these are the writes of its rules before the failure, and a file that is written comes after
those of its rules. A registry that does not record into the log appends nothing to it, even if it
was made from one that does. -/
theorem log_lists_completed_writes (log : String) :
    let recording := r.recording log
    (∀ depth c w, (recording.dispatch depth c w).2.logged log =
      w.logged log ++ writes (recording.traceTo depth c w)) ∧
    (∀ depth c w, c.succeeded (recording.dispatch (depth + 1) c w).1 = false →
      (recording.dispatch (depth + 1) c w).2.logged log = w.logged log ++
        writes (recording.traceBody (recording.dispatch depth) (recording.traceTo depth) c w)) ∧
    (∀ depth (k : V.Kind) path (d : V.Descriptor k) w,
      (recording.dispatch (depth + 1) (.emitFileAt path d) w).1 = .ok () →
      (recording.dispatch (depth + 1) (.emitFileAt path d) w).2.logged log = w.logged log ++
        writes (recording.traceBody (recording.dispatch depth) (recording.traceTo depth)
          (.emitFileAt path d) w) ++ [path]) ∧
    (∀ other : Registry V, other.log? ≠ some log → ∀ depth c w,
      (other.dispatch depth c w).2.logged log = w.logged log) ∧
    (∀ later, later ≠ log → ∀ depth c w,
      ((recording.recording later).dispatch depth c w).2.logged log = w.logged log) := by
  intro recording
  have exact : ∀ depth c w, (recording.dispatch depth c w).2.logged log =
      w.logged log ++ writes (recording.traceTo depth c w) := by
    intro depth c w
    have records : recording.log? = some log := rfl
    rw [recording.logged_dispatch depth c w log, if_pos records]
  have others : ∀ other : Registry V, other.log? ≠ some log → ∀ depth c w,
      (other.dispatch depth c w).2.logged log = w.logged log := by
    intro other elsewhere depth c w
    rw [other.logged_dispatch depth c w log, if_neg elsewhere, List.append_nil]
  refine ⟨exact, fun depth c w failed => ?_, fun depth k path d w wrote => ?_, others, ?_⟩
  · rw [exact, traceTo, failed]
    simp
  · have succeeded : (Call.emitFileAt path d).succeeded
        (recording.dispatch (depth + 1) (.emitFileAt path d) w).1 = true := by
      rw [wrote]
      rfl
    rw [exact, traceTo, succeeded, if_pos rfl, writes_append, writes_emitFileAt, List.append_assoc]
  · intro later elsewhere
    exact others (recording.recording later) fun same => elsewhere (Option.some.inj same)

end Registry

/-- A vocabulary of pages; the page without a name is in no module. -/
abbrev pages : Vocabulary where
  Kind := Unit
  Descriptor _ := String
  title _ := "page"
  package? _ page := if page = "" then none else some page
  kindEq := inferInstance

/-- Directories with two pages, and a third one that cannot be written. -/
def tornFolders : Registry pages :=
  Registry.empty.merge 0 (RuleSet.empty.addDirectoryRule (Key.always (V := pages) ())
    fun _ path page => do
      Script.emitFileAt (V := pages) (k := ()) (path.join "first") page
      Script.emitFileAt (V := pages) (k := ()) (path.join "second") page
      Script.emitFileAt (V := pages) (k := ()) (path.join "third") "")

theorem log_lists_completed_writes_tornFolders :
    let call : Call pages := .emitDirectoryAt (k := ()) "out" "page"
    call.succeeded ((tornFolders.recording "log").dispatch 2 call {}).1 = false ∧
    ((tornFolders.recording "log").dispatch 2 call {}).2.logged "log" =
      [⟨"out/first"⟩, ⟨"out/second"⟩] ∧
    (tornFolders.dispatch 2 call {}).2.logged "log" = [] := by
  intro call
  obtain ⟨-, failing, -, others, -⟩ := tornFolders.log_lists_completed_writes "log"
  have failed : call.succeeded ((tornFolders.recording "log").dispatch 2 call {}).1 = false := by
    decide +kernel
  refine ⟨failed, ?_, others tornFolders nofun 2 call {}⟩
  rw [failing 1 call {} failed]
  decide +kernel

end Scaffold.Rules
