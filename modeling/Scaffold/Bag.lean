import Scaffold.Failure

/-! Capability bags: ordered lists of markers of different types, asked for by type. A marker type
is given by the name used in messages and by how its values go into the sum of all markers and come
out again, so a bag can be asked for types that the asker defines. -/

namespace Scaffold

/-- One type `α` of markers inside the sum `μ` of all of them. -/
structure MarkerType (μ α : Type) where
  title : String
  wrap : α → μ
  read? : μ → Option α
  read?_eq_some_iff : ∀ m a, read? m = some a ↔ m = wrap a

theorem MarkerType.read?_wrap {μ α : Type} (T : MarkerType μ α) (a : α) :
    T.read? (T.wrap a) = some a :=
  (T.read?_eq_some_iff _ _).2 rfl

structure Bag (μ : Type) where
  markers : List μ
  deriving DecidableEq, Repr

namespace Bag
variable {μ α : Type}

def empty : Bag μ := ⟨[]⟩

instance : Inhabited (Bag μ) := ⟨empty⟩

def add (bag : Bag μ) (marker : μ) : Bag μ :=
  ⟨bag.markers ++ [marker]⟩

def ofList (markers : List μ) : Bag μ :=
  markers.foldl Bag.add empty

def size (bag : Bag μ) : Nat :=
  bag.markers.length

def isEmpty (bag : Bag μ) : Bool :=
  bag.markers.isEmpty

def getAll (bag : Bag μ) (T : MarkerType μ α) : List α :=
  bag.markers.filterMap T.read?

def getAllMatching (bag : Bag μ) (T : MarkerType μ α) (test : α → Bool) : List α :=
  (bag.getAll T).filter test

def has (bag : Bag μ) (T : MarkerType μ α) : Bool :=
  bag.markers.any fun m => (T.read? m).isSome

def next? (T : MarkerType μ α) (test : α → Bool) : List μ → Option (α × List μ)
  | [] => none
  | m :: rest =>
    match T.read? m with
    | some a => if test a then some (a, rest) else next? T test rest
    | none => next? T test rest

def count (T : MarkerType μ α) (test : α → Bool) (markers : List μ) : Nat :=
  markers.countP fun m => (T.read? m).any test

/-- The only marker of a type that passes a test, if there is one; two are a fault. Only the markers
behind the first one that is found are counted. -/
def getMatching (bag : Bag μ) (T : MarkerType μ α) (test : α → Bool) :
    Except BagFault (Option α) :=
  match next? T test bag.markers with
  | none => .ok none
  | some (first, rest) =>
    let extra := count T test rest
    if extra > 0 then .error (.ambiguous T.title (extra + 1)) else .ok (some first)

def get (bag : Bag μ) (T : MarkerType μ α) : Except BagFault (Option α) :=
  bag.getMatching T fun _ => true

def require (bag : Bag μ) (T : MarkerType μ α) (context : String) : Except BagFault α :=
  match bag.get T with
  | .error fault => .error fault
  | .ok (some a) => .ok a
  | .ok none => .error (.missing T.title context)

theorem foldl_add (markers : List μ) (bag : Bag μ) :
    (markers.foldl Bag.add bag).markers = bag.markers ++ markers := by
  induction markers generalizing bag with
  | nil => simp
  | cons m rest ih => simp [ih, Bag.add]

@[simp] theorem markers_ofList (markers : List μ) : (ofList markers).markers = markers := by
  simp [ofList, foldl_add, empty]

theorem getAll_add (bag : Bag μ) (T : MarkerType μ α) (marker : μ) :
    (bag.add marker).getAll T = bag.getAll T ++ (T.read? marker).toList := by
  simp only [getAll, Bag.add, List.filterMap_append]
  cases h : T.read? marker <;> simp [h]

theorem count_eq (T : MarkerType μ α) (test : α → Bool) (markers : List μ) :
    count T test markers = ((markers.filterMap T.read?).filter test).length := by
  induction markers with
  | nil => rfl
  | cons m rest ih =>
    cases found : T.read? m with
    | none => simpa [count, found] using ih
    | some a => cases passes : test a <;> simpa [count, found, passes] using ih

theorem filter_eq_of_next? (T : MarkerType μ α) (test : α → Bool) (markers : List μ) :
    (markers.filterMap T.read?).filter test = match next? T test markers with
      | none => []
      | some (first, rest) => first :: (rest.filterMap T.read?).filter test := by
  induction markers with
  | nil => rfl
  | cons m rest ih =>
    cases found : T.read? m with
    | none => simpa [next?, found] using ih
    | some a => cases passes : test a <;> simp [next?, found, passes, ih]

theorem getMatching_eq (bag : Bag μ) (T : MarkerType μ α) (test : α → Bool) :
    bag.getMatching T test = match bag.getAllMatching T test with
      | [] => .ok none
      | [a] => .ok (some a)
      | many => .error (.ambiguous T.title many.length) := by
  rw [getMatching, getAllMatching, getAll, filter_eq_of_next?]
  rcases next? T test bag.markers with _ | ⟨first, rest⟩
  · rfl
  · simp only [count_eq]
    rcases (rest.filterMap T.read?).filter test with _ | ⟨second, others⟩ <;> simp

theorem has_iff (bag : Bag μ) (T : MarkerType μ α) : bag.has T = true ↔ bag.getAll T ≠ [] := by
  simp only [has, getAll, List.any_eq_true, ne_eq, List.filterMap_eq_nil_iff]
  constructor
  · rintro ⟨m, hm, hs⟩ h
    simp [h m hm] at hs
  · intro h
    apply Decidable.byContradiction
    intro hn
    exact h fun m hm => by
      cases hr : T.read? m with
      | none => rfl
      | some a => exact absurd ⟨m, hm, by simp [hr]⟩ hn

end Bag
end Scaffold
