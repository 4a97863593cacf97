import Scaffold.Proofs.Rules.Folds
import Scaffold.Proofs.Rules.History

/-! Rules run in the order in which they were registered. The ledger of a history lists, for each
name, the registrations that a registry has taken over, and dispatch through that registry folds
over those of the ledger that are for the kind and tier at hand and whose condition holds. How the
registrations were cut into sets and merges is not in the ledger, so it makes no difference. -/

namespace Scaffold.Rules
open Code Files

structure Ledger (V : Vocabulary) where
  sets : String → List (Registration V)
  registries : String → List (Registration V)

namespace Ledger
variable {V : Vocabulary}

def empty : Ledger V := ⟨fun _ => [], fun _ => []⟩

def perform (l : Ledger V) : Command V → Ledger V
  | .register set r => { l with sets := Function.update l.sets set (l.sets set ++ [r]) }
  | .merge registry sets =>
    { l with registries :=
        Function.update l.registries registry (l.registries registry ++ sets.flatMap l.sets) }
  | .withRules source target set =>
    { l with registries :=
        Function.update l.registries target (l.registries source ++ l.sets set) }
  | .clone source target =>
    { l with registries := Function.update l.registries target (l.registries source) }
  | .record source target _ =>
    { l with registries := Function.update l.registries target (l.registries source) }
  | .setInflector _ _ => l

def after (history : List (Command V)) : Ledger V :=
  history.foldl perform empty

theorem after_append (history : List (Command V)) (command : Command V) :
    after (history ++ [command]) = (after history).perform command :=
  List.foldl_append

end Ledger

namespace Session
variable {V : Vocabulary}

/-- The tables behind every name hold what the ledger lists under it. -/
structure Follows (s : Session V) (l : Ledger V) : Prop where
  sets : ∀ name, (s.set name).tables.Holds (l.sets name)
  registries : ∀ name, (s.registry name).tables.Holds (l.registries name)

theorem follows_empty : (empty : Session V).Follows .empty :=
  ⟨fun _ => Tables.holds_empty, fun _ => Tables.holds_empty⟩

theorem Follows.putRegistry {s : Session V} {l : Ledger V} (h : s.Follows l) (name : String)
    {r : Registry V} {log : List (Registration V)} (hr : r.tables.Holds log) (editions : Nat) :
    ({ s.putRegistry name r with editions := editions } : Session V).Follows
      ⟨l.sets, Function.update l.registries name log⟩ := by
  refine ⟨h.sets, fun other => ?_⟩
  have found : ({ s.putRegistry name r with editions := editions } : Session V).registry other =
      if other = name then r else s.registry other := s.registry_putRegistry name other r
  rw [found]
  by_cases ho : other = name
  · subst ho
    simpa using hr
  · simpa [ho] using h.registries other

theorem Follows.mergesSet {s s' : Session V} {l : Ledger V} (h : s.Follows l)
    {registry set : String} (merged : s.MergesSet registry set s') :
    s'.Follows
      ⟨l.sets, Function.update l.registries registry (l.registries registry ++ l.sets set)⟩ := by
  obtain ⟨tables, joined, rfl⟩ := merged
  exact h.putRegistry registry ((h.registries registry).joined (h.sets set) joined) _

theorem Follows.merges {s s' : Session V} {l : Ledger V} {registry : String} {sets : List String}
    (h : s.Follows l) (merged : Merges registry s sets s') :
    s'.Follows
      ⟨l.sets,
        Function.update l.registries registry (l.registries registry ++ sets.flatMap l.sets)⟩ := by
  induction merged generalizing l with
  | nil s => simpa using h
  | cons first rest ih => simpa using ih (h.mergesSet first)

theorem Follows.step {s s' : Session V} {l : Ledger V} {command : Command V} (h : s.Follows l)
    (step : Step s command s') : s'.Follows (l.perform command) := by
  cases step with
  | register set r =>
    refine ⟨fun other => ?_, h.registries⟩
    rw [set_putSet]
    by_cases ho : other = set
    · subst ho
      simpa [Ledger.perform] using RuleSet.holds_register (h.sets other) r
    · simpa [Ledger.perform, ho] using h.sets other
  | merge merged => exact h.merges merged
  | @withRules _ source target set merged =>
    have cloned := h.putRegistry target (h.registries source) s.editions
    simpa [Ledger.perform] using cloned.mergesSet merged
  | clone source target => exact h.putRegistry target (h.registries source) s.editions
  | record source target log =>
    exact h.putRegistry target (r := (s.registry source).recording log) (h.registries source) _
  | setInflector registry inflector =>
    have same := h.putRegistry registry
      (r := (s.registry registry).withInflector inflector) (h.registries registry) s.editions
    rw [Function.update_eq_self] at same
    exact same

theorem Reached.follows {history : List (Command V)} {s : Session V} (h : Reached history s) :
    s.Follows (Ledger.after history) := by
  induction h with
  | start => exact follows_empty
  | step _ step ih =>
    rw [Ledger.after_append]
    exact ih.step step

end Session

/-! ## Dispatch -/

/-- A handler answers as the registrations of a log say: every call that runs rules folds, in the
order of the log, over those of its tier and kind whose condition holds. -/
structure InOrder {V : Vocabulary} (log : List (Registration V)) (inflector : Inflector)
    (handle answer : Handler V) : Prop where
  fragment : ∀ {k : V.Kind} (acc : Fragment) (d : V.Descriptor k) (w : World),
    answer (.buildFragment acc d) w =
      (inOrderFragment handle inflector
        ((registered .fragment k log).filter (·.applies d)) d acc).run.run w
  file : ∀ {k : V.Kind} (file : SourceFile) (d : V.Descriptor k) (w : World),
    answer (.emitFile file d) w =
      ((inOrderFile handle inflector
        ((registered .file k log).filter (·.applies d)) d).run.run file).run w
  directory : ∀ {k : V.Kind} (path : Path) (d : V.Descriptor k) (w : World),
    answer (.emitDirectoryAt path d) w =
      match w.files.ensureDirectory path with
      | (.error e, files) => (.error e, { w with files := files })
      | (.ok (), files) =>
        (inOrderDirectory handle inflector
          ((registered .directory k log).filter (·.applies d)) path d).run.run
            { w with files := files }

namespace Registry
variable {V : Vocabulary} {r other : Registry V} {log log' : List (Registration V)}

theorem answer_inOrder (holds : r.tables.Holds log) (handle : Handler V) :
    InOrder log r.inflector handle (r.answer handle) where
  fragment {k} acc d w := by
    rw [← holds .fragment k]
    exact foldFragment_eq handle r.inflector _ d acc w
  file {k} file d w := by
    rw [← holds .file k]
    exact fillFile_eq handle r.inflector _ d file w
  directory {k} path d w := by
    rw [← holds .directory k]
    simp only [answer, fillDirectoryOf]
    generalize w.files.ensureDirectory path = ensured
    obtain ⟨e | _, files⟩ := ensured
    · rfl
    · exact fillDirectory_eq handle r.inflector _ path d _

/-- Worlds with the same files; what was logged may differ. -/
def SameFiles (w w' : World) : Prop :=
  w.files = w'.files

structure SameRules (r other : Registry V) : Prop where
  rules : ∀ tier k, (r.tables.table tier).rulesFor k = (other.tables.table tier).rulesFor k
  inflector : r.inflector = other.inflector

section Agreement
variable {handle handle' : Handler V} {k : V.Kind}

theorem writeFileOf_agree (alike : r.SameRules other)
    (agree : Handler.Agree (fun _ => True) SameFiles handle handle') (path : Path)
    (d : V.Descriptor k) {w w' : World} (same : SameFiles w w') :
    (r.writeFileOf handle path d w).1 = (other.writeFileOf handle' path d w').1 ∧
      SameFiles (r.writeFileOf handle path d w).2 (other.writeFileOf handle' path d w').2 := by
  have rules : r.tables.file.rulesFor k = other.tables.file.rulesFor k := alike.rules .file k
  obtain ⟨files, written⟩ := w
  obtain ⟨_, written'⟩ := w'
  cases same
  simp only [writeFileOf, rules, alike.inflector]
  cases V.package? k d with
  | none => exact ⟨rfl, rfl⟩
  | some module =>
    simp only
    obtain ⟨e | _, files⟩ := files.prepareFile path
    · exact ⟨rfl, rfl⟩
    have start : SameFiles ⟨files, written⟩ ⟨files, written'⟩ := rfl
    have asks : ∀ rule ∈ other.tables.file.rulesFor k,
        (rule.body other.inflector d).Asks fun _ => True :=
      fun _ _ _ => Program.asks_true _
    have filled := fillFile_agree agree other.inflector d asks { module := module } start
    simp only
    generalize fillFile handle other.inflector d (other.tables.file.rulesFor k)
      { module := module } ⟨files, written⟩ = x at filled ⊢
    generalize fillFile handle' other.inflector d (other.tables.file.rulesFor k)
      { module := module } ⟨files, written'⟩ = y at filled ⊢
    obtain ⟨⟨result, file⟩, files, written⟩ := x
    obtain ⟨⟨result', file'⟩, _, written'⟩ := y
    obtain ⟨sameAnswer, sameFiles⟩ := filled
    cases sameAnswer
    cases sameFiles
    cases result with
    | error e => exact ⟨rfl, rfl⟩
    | ok _ =>
      simp only
      obtain ⟨e | _, files⟩ := file.writeTo files path
      · exact ⟨rfl, rfl⟩
      · exact ⟨rfl, by cases r.log? <;> cases other.log? <;> rfl⟩

theorem fillDirectoryOf_agree (alike : r.SameRules other)
    (agree : Handler.Agree (fun _ => True) SameFiles handle handle') (path : Path)
    (d : V.Descriptor k) {w w' : World} (same : SameFiles w w') :
    (r.fillDirectoryOf handle path d w).1 = (other.fillDirectoryOf handle' path d w').1 ∧
      SameFiles (r.fillDirectoryOf handle path d w).2
        (other.fillDirectoryOf handle' path d w').2 := by
  have rules : r.tables.directory.rulesFor k = other.tables.directory.rulesFor k :=
    alike.rules .directory k
  obtain ⟨files, written⟩ := w
  obtain ⟨_, written'⟩ := w'
  cases same
  simp only [fillDirectoryOf, rules, alike.inflector]
  obtain ⟨e | _, files⟩ := files.ensureDirectory path
  · exact ⟨rfl, rfl⟩
  · exact fillDirectory_agree agree _ path d (fun _ _ => Program.asks_true _) rfl

theorem answer_agree (alike : r.SameRules other)
    (agree : Handler.Agree (fun _ => True) SameFiles handle handle') :
    Handler.Agree (fun _ => True) SameFiles (r.answer handle) (other.answer handle') := by
  intro c _ w w' same
  cases c with
  | @buildFragment k acc d =>
    have rules : r.tables.fragment.rulesFor k = other.tables.fragment.rulesFor k :=
      alike.rules .fragment k
    simp only [answer, rules, alike.inflector]
    exact foldFragment_agree agree _ d (fun _ _ _ => Program.asks_true _) acc same
  | @emitFile k file d =>
    have rules : r.tables.file.rulesFor k = other.tables.file.rulesFor k := alike.rules .file k
    simp only [answer, rules, alike.inflector]
    exact fillFile_agree agree _ d (fun _ _ _ => Program.asks_true _) file same
  | emitFileAt path d => exact writeFileOf_agree alike agree path d same
  | emitDirectoryAt path d => exact fillDirectoryOf_agree alike agree path d same

theorem dispatch_sameRules (alike : r.SameRules other) (depth : Nat) :
    Handler.Agree (fun _ => True) SameFiles (r.dispatch depth) (other.dispatch depth) := by
  induction depth with
  | zero => exact fun c _ w w' same => ⟨rfl, same⟩
  | succ depth ih => exact answer_agree alike ih

end Agreement
end Registry

/-- Whatever the history of a session, its registries run rules in the order of registration: a call
is the left fold over the registrations of its tier and kind that apply, at the top and in the calls
of rule bodies. Two registries with the same registrations for every tier and kind, however they
were cut into sets and merges, give the same answers and leave the same files. -/
theorem dispatch_runs_in_registration_order {V : Vocabulary} {history : List (Command V)}
    {s : Session V} (reached : s.Reached history) (name : String) :
    let r := s.registry name
    let log := (Ledger.after history).registries name
    let handle := r.dispatch (Registry.depthLimit - 1)
    (∀ (k : V.Kind) (acc : Fragment) (d : V.Descriptor k) (w : World),
      r.buildFragment acc d w =
        (inOrderFragment handle r.inflector
          ((registered .fragment k log).filter (·.applies d)) d acc).run.run w) ∧
    (∀ (k : V.Kind) (file : SourceFile) (d : V.Descriptor k) (w : World),
      r.emitFile file d w =
        ((inOrderFile handle r.inflector
          ((registered .file k log).filter (·.applies d)) d).run.run file).run w) ∧
    (∀ (k : V.Kind) (path : Path) (d : V.Descriptor k) (w : World),
      r.emitDirectoryAt path d w =
        match w.files.ensureDirectory path with
        | (.error e, files) => (.error e, { w with files := files })
        | (.ok (), files) =>
          (inOrderDirectory handle r.inflector
            ((registered .directory k log).filter (·.applies d)) path d).run.run
              { w with files := files }) ∧
    (∀ depth, InOrder log r.inflector (r.dispatch depth) (r.dispatch (depth + 1))) ∧
    (∀ {history' : List (Command V)} {s' : Session V}, s'.Reached history' → ∀ name',
      (∀ tier k, registered tier k ((Ledger.after history').registries name') =
        registered tier k log) →
      (s'.registry name').inflector = r.inflector → ∀ depth c w w', w.files = w'.files →
        ((s'.registry name').dispatch depth c w).1 = (r.dispatch depth c w').1 ∧
        ((s'.registry name').dispatch depth c w).2.files = (r.dispatch depth c w').2.files) := by
  intro r log handle
  have holds : r.tables.Holds log := reached.follows.registries name
  have inOrder : ∀ depth, InOrder log r.inflector (r.dispatch depth) (r.dispatch (depth + 1)) :=
    fun depth => Registry.answer_inOrder holds (r.dispatch depth)
  refine ⟨fun _ => (inOrder _).fragment, fun _ => (inOrder _).file,
    fun _ => (inOrder _).directory, inOrder, ?_⟩
  intro history' s' reached' name' same inflector depth c w w' files
  have holds' := reached'.follows.registries name'
  refine Registry.dispatch_sameRules ⟨fun tier k => ?_, inflector⟩ depth c trivial w w' files
  rw [holds tier k, holds' tier k, same tier k]

abbrev texts : Vocabulary where
  Kind := Unit
  Descriptor _ := String
  title _ := "text"
  package? _ _ := none
  kindEq := inferInstance

def pushing (item : String) (test : String → Bool) : Registration texts where
  tier := .fragment
  kind := ()
  rule := ⟨Key.when (V := texts) () test, fun _ acc _ => pure (acc.push item)⟩

/-- Two sets, the first merged twice, with a recording copy and a further name in between. -/
def twiceMerged : List (Command texts) :=
  [.register "a" (pushing "one" fun _ => true), .register "b" (pushing "two" (· == "x")),
    .merge "r" ["a"], .record "r" "s" "log", .register "a" (pushing "three" (· == "y")),
    .withRules "s" "t" "b", .merge "t" ["a"]]

theorem dispatch_runs_in_registration_order_twiceMerged :
    ((((twiceMerged.foldl Session.perform .empty).registry "t").buildFragment (k := ()) .empty "x"
      {}).1.map Fragment.items) = .ok ["one", "two", "one"] := by
  have law := (dispatch_runs_in_registration_order (Session.reached_perform twiceMerged) "t").1
  rw [law () .empty "x" {}]
  rfl

end Scaffold.Rules
