import Mathlib.Data.List.Forall2
import Scaffold.Proofs.Model.Keys

/-! What the rules ask a capability bag: the stored operations, and for every other type they know
the list of its markers. Bags with the same answers cannot be told apart by any rule. They include
the rearrangements of a bag, in which the markers of each known type keep their order among
themselves; how markers of different types are mixed, how stored operations are listed, and foreign
markers do not matter. -/

namespace Scaffold.Model

inductive Kind
  | crud
  | search
  | associate
  | filterKeys
  | listByAssociatedKey
  | storage
  | searchPredicates
  deriving DecidableEq, Repr

/-- The type of a marker; none for a foreign one. -/
def Capability.kind? {ρ : Type} : Capability ρ → Option Kind
  | crud _ => some .crud
  | search => some .search
  | associate _ => some .associate
  | filterKeys => some .filterKeys
  | listByAssociatedKey _ => some .listByAssociatedKey
  | storage _ => some .storage
  | searchPredicates _ => some .searchPredicates
  | foreign _ _ => none

def ofKind (bag : Bag (Capability Entity)) (kind : Kind) : List (Capability Entity) :=
  bag.markers.filter fun m => m.kind? = some kind

/-- A marker stated again. Stored operations may be listed in another order and repeated. -/
inductive Capability.Restated : Capability Entity → Capability Entity → Prop
  | operations {ops others : List Operation} (same : ∀ op, op ∈ ops ↔ op ∈ others) :
    Restated (.crud (.ofList ops)) (.crud (.ofList others))
  | itself (m : Capability Entity) : Restated m m

/-- The markers of every known type are the same in the same order. -/
def Rearranged (bag other : Bag (Capability Entity)) : Prop :=
  ∀ kind, List.Forall₂ Capability.Restated (ofKind bag kind) (ofKind other kind)

theorem OperationSet.ofList_congr {ops others : List Operation}
    (same : ∀ op, op ∈ ops ↔ op ∈ others) : ofList ops = ofList others := by
  have listed : ∀ op, ops.contains op = others.contains op := by
    intro op
    rw [Bool.eq_iff_iff, List.contains_iff_mem, List.contains_iff_mem]
    exact same op
  simp only [ofList, funext listed]

theorem Capability.Restated.eq {m other : Capability Entity} (restated : m.Restated other) :
    m = other := by
  cases restated with
  | operations same => rw [OperationSet.ofList_congr same]
  | itself => rfl

namespace Rearranged
variable {bag other : Bag (Capability Entity)}

theorem ofKind_eq (rearranged : Rearranged bag other) (kind : Kind) :
    ofKind bag kind = ofKind other kind := by
  have same := (rearranged kind).imp fun _ _ restated => restated.eq
  rwa [List.forall₂_eq_eq_eq] at same

theorem swap {m n : Capability Entity} (front back : List (Capability Entity))
    (different : m.kind? ≠ n.kind?) :
    Rearranged ⟨front ++ m :: n :: back⟩ ⟨front ++ n :: m :: back⟩ := by
  intro kind
  have same : ofKind ⟨front ++ m :: n :: back⟩ kind = ofKind ⟨front ++ n :: m :: back⟩ kind := by
    simp only [ofKind, List.filter_append, List.filter_cons]
    by_cases hm : m.kind? = some kind
    · have hn : n.kind? ≠ some kind := fun hn => different (hm.trans hn.symm)
      simp [hm, hn]
    · simp [hm]
  rw [same]
  exact List.forall₂_same.2 fun marker _ => .itself marker

end Rearranged

/-! ## Answers -/

def Entity.withCapabilities (e : Entity) (bag : Bag (Capability Entity)) : Entity :=
  { e with capabilities := bag }

theorem Entity.withCapabilities_self (e : Entity) : e.withCapabilities e.capabilities = e := by
  cases e
  rfl

theorem Entity.has_congr {α : Type} {T : MarkerType (Capability Entity) α}
    {bag other : Bag (Capability Entity)} (same : bag.getAll T = other.getAll T) (e : Entity) :
    (e.withCapabilities bag).has T = (e.withCapabilities other).has T := by
  rw [Bool.eq_iff_iff]
  exact (Bag.has_iff bag T).trans (same ▸ (Bag.has_iff other T).symm)

/-- The operations that a bag asks to store; none without a marker for them. -/
def storedOperations (bag : Bag (Capability Entity)) : Except BagFault (List Operation) :=
  (bag.get Capability.crudType).map fun set? => (set?.map OperationSet.toList).getD []

/-- Two bags that answer every question of the rules alike. -/
structure SameAnswers (bag other : Bag (Capability Entity)) : Prop where
  operations : storedOperations bag = storedOperations other
  search : bag.getAll Capability.searchType = other.getAll Capability.searchType
  associate : bag.getAll Capability.associateType = other.getAll Capability.associateType
  filterKeys : bag.getAll Capability.filterKeysType = other.getAll Capability.filterKeysType
  listings : bag.getAll Capability.listByAssociatedKeyType =
    other.getAll Capability.listByAssociatedKeyType
  storage : bag.getAll Capability.storageType = other.getAll Capability.storageType
  predicates : bag.getAll Capability.searchPredicatesType =
    other.getAll Capability.searchPredicatesType

theorem getAll_eq_filterMap_ofKind {α : Type} {T : MarkerType (Capability Entity) α} {kind : Kind}
    (known : ∀ a, (T.wrap a).kind? = some kind) (bag : Bag (Capability Entity)) :
    bag.getAll T = (ofKind bag kind).filterMap T.read? := by
  rw [Bag.getAll, ofKind, List.filterMap_filter]
  refine List.filterMap_congr fun m _ => ?_
  cases found : T.read? m with
  | none => simp
  | some a =>
    obtain rfl := (T.read?_eq_some_iff m a).1 found
    simp [known]

theorem Rearranged.getAll_eq {bag other : Bag (Capability Entity)}
    (rearranged : Rearranged bag other) {α : Type} {T : MarkerType (Capability Entity) α}
    (kind : Kind) (known : ∀ a, (T.wrap a).kind? = some kind) :
    bag.getAll T = other.getAll T := by
  rw [getAll_eq_filterMap_ofKind known, getAll_eq_filterMap_ofKind known, rearranged.ofKind_eq]

theorem Rearranged.sameAnswers {bag other : Bag (Capability Entity)}
    (rearranged : Rearranged bag other) : SameAnswers bag other where
  operations := by
    rw [storedOperations, storedOperations,
      Bag.get_congr (rearranged.getAll_eq .crud fun _ => rfl)]
  search := rearranged.getAll_eq .search fun _ => rfl
  associate := rearranged.getAll_eq .associate fun _ => rfl
  filterKeys := rearranged.getAll_eq .filterKeys fun _ => rfl
  listings := rearranged.getAll_eq .listByAssociatedKey fun _ => rfl
  storage := rearranged.getAll_eq .storage fun _ => rfl
  predicates := rearranged.getAll_eq .searchPredicates fun _ => rfl

def withoutCrud (bag : Bag (Capability Entity)) : Bag (Capability Entity) :=
  ⟨bag.markers.filter fun m => m.kind? ≠ some .crud⟩

theorem getAll_withoutCrud {α : Type} {T : MarkerType (Capability Entity) α}
    (known : ∀ a, (T.wrap a).kind? ≠ some .crud) (bag : Bag (Capability Entity)) :
    (withoutCrud bag).getAll T = bag.getAll T := by
  rw [Bag.getAll, withoutCrud, List.filterMap_filter, Bag.getAll]
  refine List.filterMap_congr fun m _ => ?_
  cases found : T.read? m with
  | none => simp
  | some a =>
    obtain rfl := (T.read?_eq_some_iff m a).1 found
    simp [known]

theorem sameAnswers_withoutCrud {bag : Bag (Capability Entity)}
    (few : (bag.getAll Capability.crudType).length ≤ 1)
    (idle : ∀ set ∈ bag.getAll Capability.crudType, set.isEmpty = true) :
    SameAnswers (withoutCrud bag) bag where
  operations := by
    have none : (withoutCrud bag).getAll Capability.crudType = [] := by
      rw [Bag.getAll, withoutCrud, List.filterMap_filter, List.filterMap_eq_nil_iff]
      intro m _
      cases m <;> simp [Capability.kind?, Capability.crudType]
    obtain ⟨answer, found⟩ := (Bag.exists_get_iff _ _).2 few
    have single := (Bag.get_eq_ok_iff _ _ _).1 found
    rw [storedOperations, storedOperations, found,
      (Bag.get_eq_ok_iff _ _ (Option.none)).2 none]
    cases answer with
    | none => rfl
    | some set =>
      have empty := idle set (by rw [single]; exact List.mem_singleton_self set)
      rw [OperationSet.isEmpty, List.isEmpty_iff] at empty
      exact congrArg Except.ok empty.symm
  search := getAll_withoutCrud (fun _ => by simp [Capability.kind?, Capability.searchType]) bag
  associate := getAll_withoutCrud (fun _ => by simp [Capability.kind?, Capability.associateType]) bag
  filterKeys :=
    getAll_withoutCrud (fun _ => by simp [Capability.kind?, Capability.filterKeysType]) bag
  listings := getAll_withoutCrud
    (fun _ => by simp [Capability.kind?, Capability.listByAssociatedKeyType]) bag
  storage := getAll_withoutCrud (fun _ => by simp [Capability.kind?, Capability.storageType]) bag
  predicates := getAll_withoutCrud
    (fun _ => by simp [Capability.kind?, Capability.searchPredicatesType]) bag

end Scaffold.Model
