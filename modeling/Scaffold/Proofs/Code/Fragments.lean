import Mathlib.Data.List.DropRight
import Mathlib.Data.List.Induction
import Scaffold.Code.Fragment

/-! Fragments told by their histories. A history branches: a fragment may go on from another one by
inheriting its slots, and it may take in the items of a third, each with a history of its own. The
timeline of a history runs through the fragments that were inherited from and passes over what
happened to those that were appended, except for the items that they brought. Items are those added
since the last inheriting; slots are those bound on the whole timeline, each with its last value. -/

namespace Scaffold.Code.Fragment

/-! ## Histories -/

/-- How a fragment came about. -/
inductive History
  | new
  | inheriting (source : History)
  | push (past : History) (item : String)
  | extend (past : History) (items : List String)
  | append (past other : History)
  | bind (past : History) (slot value : String)

def History.made : History → Fragment
  | new => .empty
  | inheriting source => .inheriting source.made
  | push past item => past.made.push item
  | extend past items => past.made.extend items
  | append past other => past.made.append other.made
  | bind past slot value => past.made.bind slot value

/-- What can still be seen of a step in the fragment that it leads to. -/
inductive Event
  | inherited
  | added (items : List String)
  | bound (slot value : String)
  deriving DecidableEq

def Event.items : Event → List String
  | added items => items
  | _ => []

/-- The items added since slots were inherited last, in order. -/
def addedItems (timeline : List Event) : List String :=
  (timeline.rtakeWhile (· ≠ .inherited)).flatMap Event.items

def History.timeline : History → List Event
  | new => []
  | inheriting source => source.timeline ++ [.inherited]
  | push past item => past.timeline ++ [.added [item]]
  | extend past items => past.timeline ++ [.added items]
  | append past other => past.timeline ++ [.added (addedItems other.timeline)]
  | bind past slot value => past.timeline ++ [.bound slot value]

/-- The last event that binds a slot binds it to a value. -/
def BoundLast (slot value : String) (timeline : List Event) : Prop :=
  ∃ before after, timeline = before ++ .bound slot value :: after ∧
    ∀ later, .bound slot later ∉ after

/-! ## Timelines -/

theorem addedItems_inherited (timeline : List Event) :
    addedItems (timeline ++ [.inherited]) = [] := by
  simp [addedItems]

theorem addedItems_concat (timeline : List Event) {event : Event} (other : event ≠ .inherited) :
    addedItems (timeline ++ [event]) = addedItems timeline ++ event.items := by
  simp [addedItems, other]

variable {slot value : String} {timeline : List Event}

theorem not_boundLast_nil : ¬BoundLast slot value [] := by
  rintro ⟨before, after, split, -⟩
  simp at split

theorem boundLast_concat (event : Event) :
    BoundLast slot value (timeline ++ [event]) ↔ event = .bound slot value ∨
      (∀ other, event ≠ .bound slot other) ∧ BoundLast slot value timeline := by
  constructor
  · rintro ⟨before, after, split, final⟩
    -- The event that decides is the last one of all, or the last one comes after it.
    rcases List.eq_nil_or_concat' after with rfl | ⟨earlier, last, rfl⟩
    · exact .inl (List.singleton_inj.1 (List.append_inj' split rfl).2)
    · rw [← List.cons_append, ← List.append_assoc] at split
      obtain ⟨rfl, same⟩ := List.append_inj' split rfl
      obtain rfl := List.singleton_inj.1 same
      refine .inr ⟨?_, before, earlier, rfl, ?_⟩
      · rintro other rfl
        exact final other List.mem_concat_self
      · exact fun other mem => final other (List.mem_append_left _ mem)
  · rintro (rfl | ⟨foreign, before, after, rfl, final⟩)
    · exact ⟨timeline, [], rfl, fun _ => List.not_mem_nil⟩
    · refine ⟨before, after ++ [event], by simp, fun other mem => ?_⟩
      rcases List.mem_append.1 mem with mem | mem
      · exact final other mem
      · exact foreign other (List.mem_singleton.1 mem).symm

theorem exists_boundLast_iff (slot : String) (timeline : List Event) :
    (∃ value, BoundLast slot value timeline) ↔ ∃ value, .bound slot value ∈ timeline := by
  induction timeline using List.reverseRecOn with
  | nil => simp [not_boundLast_nil]
  | append_singleton timeline event ih =>
    constructor
    · rintro ⟨value, last⟩
      rcases (boundLast_concat event).1 last with rfl | ⟨-, last⟩
      · exact ⟨value, List.mem_concat_self⟩
      · obtain ⟨value, mem⟩ := ih.1 ⟨value, last⟩
        exact ⟨value, List.mem_append_left _ mem⟩
    · rintro ⟨value, mem⟩
      by_cases binds : ∃ value, event = .bound slot value
      · obtain ⟨value, rfl⟩ := binds
        exact ⟨value, (boundLast_concat _).2 (.inl rfl)⟩
      · have foreign : ∀ value, event ≠ .bound slot value := not_exists.1 binds
        have earlier : .bound slot value ∈ timeline := by
          rcases List.mem_append.1 mem with mem | mem
          · exact mem
          · exact absurd (List.mem_singleton.1 mem).symm (foreign value)
        obtain ⟨value, last⟩ := ih.2 ⟨value, earlier⟩
        exact ⟨value, (boundLast_concat event).2 (.inr ⟨foreign, last⟩)⟩

/-! ## Fragments -/

theorem binding_eq_ok_iff (f : Fragment) (slot value : String) :
    f.binding slot = .ok value ↔ f.bindings.get? slot = some value := by
  unfold binding
  cases f.bindings.get? slot with
  | none => simp
  | some held => simp

theorem binding_eq_error_iff (f : Fragment) (slot : String) (failure : Failure) :
    f.binding slot = .error failure ↔
      failure = .unboundSlot slot ∧ ∀ value, f.binding slot ≠ .ok value := by
  unfold binding
  cases f.bindings.get? slot with
  | none => simp [eq_comm]
  | some held => simp

variable {f g : Fragment}

theorem eq_of_items_binding (items : f.items = g.items)
    (slots : ∀ slot value, f.binding slot = .ok value ↔ g.binding slot = .ok value) : f = g := by
  have bindings : f.bindings = g.bindings := by
    refine SortedMap.eq_of_get? fun slot => Option.ext fun value => ?_
    rw [← binding_eq_ok_iff, slots, binding_eq_ok_iff]
  cases f
  cases g
  cases items
  cases bindings
  rfl

theorem eq_iff_items_binding (f g : Fragment) :
    f = g ↔ f.items = g.items ∧ ∀ slot, f.binding slot = g.binding slot := by
  constructor
  · rintro rfl
    exact ⟨rfl, fun _ => rfl⟩
  · rintro ⟨items, slots⟩
    exact eq_of_items_binding items fun slot value => by rw [slots]

structure Told (f : Fragment) (timeline : List Event) : Prop where
  items : f.items = addedItems timeline
  slots : ∀ slot value, f.binding slot = .ok value ↔ BoundLast slot value timeline

variable {others : List Event}

theorem told_empty : empty.Told [] where
  items := rfl
  slots slot value := by simp [binding_empty, not_boundLast_nil]

namespace Told

theorem inheriting (told : f.Told timeline) :
    (Fragment.inheriting f).Told (timeline ++ [.inherited]) where
  items := (addedItems_inherited timeline).symm
  slots slot value := by simp [boundLast_concat, told.slots]

theorem extend (told : f.Told timeline) (items : List String) :
    (f.extend items).Told (timeline ++ [.added items]) where
  items := by
    rw [items_extend, told.items, addedItems_concat timeline (by simp)]
    rfl
  slots slot value := by simp [boundLast_concat, told.slots]

theorem bind (told : f.Told timeline) (slot value : String) :
    (f.bind slot value).Told (timeline ++ [.bound slot value]) where
  items := by
    rw [items_bind, told.items, addedItems_concat timeline (by simp)]
    exact (List.append_nil _).symm
  slots other held := by
    rw [binding_bind, boundLast_concat]
    by_cases same : other = slot
    · simp [same]
    · simp [same, Ne.symm same, told.slots]

theorem eq_iff (told : f.Told timeline) (told' : g.Told others) :
    f = g ↔ addedItems timeline = addedItems others ∧
      ∀ slot value, BoundLast slot value timeline ↔ BoundLast slot value others := by
  constructor
  · rintro rfl
    exact ⟨told.items.symm.trans told'.items,
      fun slot value => (told.slots slot value).symm.trans (told'.slots slot value)⟩
  · rintro ⟨items, slots⟩
    refine eq_of_items_binding (told.items.trans (items.trans told'.items.symm)) ?_
    intro slot value
    rw [told.slots, slots, told'.slots]

end Told

theorem told_made (h : History) : h.made.Told h.timeline := by
  induction h with
  | new => exact told_empty
  | inheriting source ih => exact ih.inheriting
  | push past item ih => exact ih.extend [item]
  | extend past items ih => exact ih.extend items
  | append past other ih ih' =>
    -- Of the appended fragment only its items are asked for, so its slots do not enter.
    rw [History.timeline, ← ih'.items]
    exact ih.extend other.made.items
  | bind past slot value ih => exact ih.bind slot value

/-- A fragment shows of its history the items that were added since slots were inherited last, in
order, and for each slot what it was last bound to, there or in a fragment that the slots were
inherited from, but not in one that was appended. A slot that was never bound so is reported by its
name. Nothing else tells fragments apart, so the order and the repetition of what was bound before
does not. -/
theorem told_by_history (h : History) :
    h.made.items = addedItems h.timeline ∧
    (∀ slot value, h.made.binding slot = .ok value ↔ BoundLast slot value h.timeline) ∧
    (∀ slot failure, h.made.binding slot = .error failure ↔
      failure = .unboundSlot slot ∧ ∀ value, .bound slot value ∉ h.timeline) ∧
    (∀ f g : Fragment, f = g ↔ f.items = g.items ∧ ∀ slot, f.binding slot = g.binding slot) ∧
    ∀ g : History, h.made = g.made ↔ addedItems h.timeline = addedItems g.timeline ∧
      ∀ slot value, BoundLast slot value h.timeline ↔ BoundLast slot value g.timeline := by
  have told := told_made h
  refine ⟨told.items, told.slots, fun slot failure => ?_, eq_iff_items_binding, fun g =>
    told.eq_iff (told_made g)⟩
  have unbound : (∀ value, h.made.binding slot ≠ .ok value) ↔
      ∀ value, .bound slot value ∉ h.timeline := by
    simp only [ne_eq, told.slots, ← not_exists, exists_boundLast_iff]
  rw [binding_eq_error_iff, unbound]

example :
    let first := (History.new.push "let template = 1;").bind "template" "template"
    let other := (History.new.push "load();").bind "template" "cached"
    let made := ((History.inheriting first).append other).made
    made.items = ["load();"] ∧ made.binding "template" = .ok "template" :=
  ⟨rfl, rfl⟩

end Scaffold.Code.Fragment
