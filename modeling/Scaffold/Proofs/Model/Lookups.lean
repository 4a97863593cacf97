import Mathlib.Data.List.Basic
import Scaffold.Model.Capability

/-! The questions to a capability bag agree. All of them are about one list, the markers of a type
that pass a test in the order in which they were put into the bag: it is told here marker by marker,
without the search, and its length alone decides which answer a question has. Markers of other types
take no part. -/

namespace Scaffold
namespace Bag
variable {μ α : Type} {T : MarkerType μ α} {test : α → Bool}

/-! ## Assembly -/

/-- How a bag is assembled, and the markers that were put into it, in order. -/
inductive Assembled : Bag μ → List μ → Prop
  | empty : Assembled .empty []
  | collected (markers : List μ) : Assembled (ofList markers) markers
  | added {bag : Bag μ} {listed : List μ} (marker : μ) (before : Assembled bag listed) :
    Assembled (bag.add marker) (listed ++ [marker])

theorem Assembled.markers_eq {bag : Bag μ} {listed : List μ} (assembled : Assembled bag listed) :
    bag.markers = listed := by
  induction assembled with
  | empty => rfl
  | collected markers => exact markers_ofList markers
  | added marker _ ih => rw [Bag.add, ih]

/-! ## The markers asked for -/

inductive Picked (T : MarkerType μ α) (test : α → Bool) : List μ → List α → Prop
  | nil : Picked T test [] []
  | taken {rest : List μ} {q : List α} (a : α) (passes : test a = true)
      (later : Picked T test rest q) : Picked T test (T.wrap a :: rest) (a :: q)
  | passed {rest : List μ} {q : List α} (m : μ) (fails : ∀ a, m = T.wrap a → test a = false)
      (later : Picked T test rest q) : Picked T test (m :: rest) q

theorem read?_eq_none_iff (T : MarkerType μ α) (m : μ) : T.read? m = none ↔ ∀ a, m ≠ T.wrap a := by
  simp only [Option.eq_none_iff_forall_ne_some, ne_eq, T.read?_eq_some_iff]

theorem picked_filter (T : MarkerType μ α) (test : α → Bool) (markers : List μ) :
    Picked T test markers ((markers.filterMap T.read?).filter test) := by
  induction markers with
  | nil => exact .nil
  | cons m rest ih =>
    cases found : T.read? m with
    | none =>
      have other := (read?_eq_none_iff T m).1 found
      rw [List.filterMap_cons_none found]
      exact .passed m (fun a same => absurd same (other a)) ih
    | some a =>
      obtain rfl := (T.read?_eq_some_iff m a).1 found
      rw [List.filterMap_cons_some found]
      cases passes : test a with
      | true =>
        rw [List.filter_cons_of_pos passes]
        exact .taken a passes ih
      | false =>
        rw [List.filter_cons_of_neg (by simp [passes])]
        refine .passed _ (fun b same => ?_) ih
        have again := T.read?_wrap b
        rw [← same, found] at again
        exact Option.some.inj again ▸ passes

theorem Picked.eq_filter {markers : List μ} {q : List α} (picked : Picked T test markers q) :
    q = (markers.filterMap T.read?).filter test := by
  induction picked with
  | nil => rfl
  | taken a passes _ ih =>
    rw [List.filterMap_cons_some (T.read?_wrap a), List.filter_cons_of_pos passes, ← ih]
  | passed m fails _ ih =>
    cases found : T.read? m with
    | none => rw [List.filterMap_cons_none found, ← ih]
    | some a =>
      have failed := fails a ((T.read?_eq_some_iff m a).1 found)
      rw [List.filterMap_cons_some found, List.filter_cons_of_neg (by simp [failed]), ← ih]

theorem picked_iff {bag : Bag μ} {listed : List μ} (assembled : Assembled bag listed)
    (T : MarkerType μ α) (test : α → Bool) (q : List α) :
    Picked T test listed q ↔ q = bag.getAllMatching T test := by
  rw [getAllMatching, getAll, assembled.markers_eq]
  exact ⟨Picked.eq_filter, fun same => same ▸ picked_filter T test listed⟩

/-- What a bag answers about the markers of a type that pass a test, told by the list of them. -/
structure Answers (bag : Bag μ) (T : MarkerType μ α) (test : α → Bool) (q : List α) : Prop where
  all : bag.getAllMatching T test = q
  none_iff : bag.getMatching T test = .ok none ↔ q = []
  one_iff : ∀ a, bag.getMatching T test = .ok (some a) ↔ q = [a]
  many_iff : ∀ fault, bag.getMatching T test = .error fault ↔
    2 ≤ q.length ∧ fault = .ambiguous T.title q.length

theorem answers_getAllMatching (bag : Bag μ) (T : MarkerType μ α) (test : α → Bool) :
    bag.Answers T test (bag.getAllMatching T test) := by
  constructor
  case all => rfl
  all_goals
    rw [getMatching_eq]
    rcases bag.getAllMatching T test with _ | ⟨first, _ | ⟨second, rest⟩⟩
    · simp
    · simp
    · simp [eq_comm]

/-! ## Plain questions -/

/-- What a bag answers about all markers of a type, told by its answers to the questions with a
test. -/
structure Plain (bag : Bag μ) (T : MarkerType μ α) : Prop where
  getAll : bag.getAll T = bag.getAllMatching T fun _ => true
  get : bag.get T = bag.getMatching T fun _ => true
  has_iff : bag.has T = true ↔ bag.getAll T ≠ []
  require_ok_iff : ∀ context a, bag.require T context = .ok a ↔ bag.get T = .ok (some a)
  require_error_iff : ∀ context fault, bag.require T context = .error fault ↔
    bag.get T = .error fault ∨ bag.get T = .ok none ∧ fault = .missing T.title context

theorem plain (bag : Bag μ) (T : MarkerType μ α) : bag.Plain T where
  getAll := (List.filter_eq_self.2 fun _ _ => rfl).symm
  get := rfl
  has_iff := bag.has_iff T
  require_ok_iff context a := by
    rw [require]
    rcases bag.get T with fault | _ | b <;> simp
  require_error_iff context fault := by
    rw [require]
    rcases bag.get T with other | _ | b <;> simp [eq_comm]

/-! ## One marker more -/

structure Alike (bag other : Bag μ) (T : MarkerType μ α) : Prop where
  getAllMatching : ∀ test, bag.getAllMatching T test = other.getAllMatching T test
  getMatching : ∀ test, bag.getMatching T test = other.getMatching T test
  getAll : bag.getAll T = other.getAll T
  get : bag.get T = other.get T
  has : bag.has T = other.has T
  require : ∀ context, bag.require T context = other.require T context

theorem Alike.of_getAll {bag other : Bag μ} (same : bag.getAll T = other.getAll T) :
    bag.Alike other T := by
  have matching : ∀ test, bag.getMatching T test = other.getMatching T test := by
    intro test
    rw [getMatching_eq, getMatching_eq, Bag.getAllMatching, Bag.getAllMatching, same]
  refine ⟨fun test => ?_, matching, same, matching _, ?_, fun context => ?_⟩
  · rw [Bag.getAllMatching, Bag.getAllMatching, same]
  · rw [Bool.eq_iff_iff, has_iff, has_iff, same]
  · rw [Bag.require, Bag.require, Bag.get, Bag.get, matching]

theorem alike_add (bag : Bag μ) {m : μ} (other : ∀ a, m ≠ T.wrap a) : (bag.add m).Alike bag T := by
  refine .of_getAll ?_
  rw [getAll_add, (read?_eq_none_iff T m).2 other]
  exact List.append_nil _

/-- The questions to a bag agree, however it was assembled: with a test, they are answered by the
list of the markers that pass it; without, as with a test that all pass; and of the markers added
later only those of the type are seen, at the end. -/
theorem lookups_agree {bag : Bag μ} {listed : List μ} (assembled : Assembled bag listed)
    (T : MarkerType μ α) :
    (∀ test, ∃ q, (∀ other, Picked T test listed other ↔ other = q) ∧ bag.Answers T test q) ∧
      bag.Plain T ∧ (∀ m, (∀ a, m ≠ T.wrap a) → (bag.add m).Alike bag T) ∧
      ∀ a, (bag.add (T.wrap a)).getAll T = bag.getAll T ++ [a] := by
  refine ⟨fun test => ?_, bag.plain T, fun m other => bag.alike_add other, fun a => ?_⟩
  · exact ⟨_, picked_iff assembled T test, bag.answers_getAllMatching T test⟩
  · rw [getAll_add, T.read?_wrap]
    rfl

theorem lookups_agree_tags :
    let tag := Model.Capability.foreignType (ρ := String) "Tag"
    let number := Model.Capability.foreignType (ρ := String) "Num"
    let bag := (ofList [tag.wrap "a", .search, tag.wrap "b"]).add (tag.wrap "c")
    bag.getMatching tag (· == "b") = .ok (some "b") ∧
      bag.getMatching tag (· != "a") = .error (.ambiguous "Tag" 2) ∧
      bag.require number "entity Pet" = .error (.missing "Num" "entity Pet") ∧
      (bag.add .search).get tag = bag.get tag ∧
      (bag.add (tag.wrap "d")).getAll tag = bag.getAll tag ++ ["d"] := by
  intro tag number bag
  have assembled : Assembled bag ([tag.wrap "a", .search, tag.wrap "b"] ++ [tag.wrap "c"]) :=
    .added _ (.collected _)
  obtain ⟨matching, -, others, own⟩ := lookups_agree assembled tag
  obtain ⟨numbers, plain, -⟩ := lookups_agree assembled number
  refine ⟨?_, ?_, ?_, (others .search nofun).get, own "d"⟩
  · obtain ⟨q, -, answers⟩ := matching (· == "b")
    obtain rfl : ["b"] = q := answers.all
    exact (answers.one_iff "b").2 rfl
  · obtain ⟨q, -, answers⟩ := matching (· != "a")
    obtain rfl : ["b", "c"] = q := answers.all
    exact (answers.many_iff _).2 ⟨by decide, rfl⟩
  · obtain ⟨q, -, answers⟩ := numbers fun _ => true
    obtain rfl : [] = q := answers.all
    have absent : bag.get number = .ok none := plain.get.trans (answers.none_iff.2 rfl)
    exact (plain.require_error_iff _ _).2 (.inr ⟨absent, rfl⟩)

end Bag
end Scaffold
