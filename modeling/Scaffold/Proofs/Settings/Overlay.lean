import Scaffold.Settings.Layer

/-! Layers put over each other, seen from one path of field names. Each layer is reduced to what it
says about that path alone; what the layers make together has, at the path, the last thing said.
Tables and lists are left out: a table is merged with what was there and a list is changed item by
item, so neither comes from one layer only. Left out as well are layers that put something other
than a table where the path goes on, for such a layer takes away everything below. -/

namespace Scaffold.Settings.Layer
open Toml

/-! ## The last of a list to say something -/

/-- What is said last, going through a list. -/
def last? {α β : Type} (tells : α → Option β) (list : List α) : Option β :=
  list.reverse.findSome? tells

def look : List String → Value → Option Value
  | [], v => some v
  | key :: path, v => (field? key (fieldsOf v)).bind (look path)

/-- Whether a value is neither a table nor a list. -/
def isSingle : Value → Bool
  | .table _ => false
  | .list _ => false
  | _ => true

def Single (v? : Option Value) : Prop :=
  ∀ v, v? = some v → isSingle v = true

/-- A value in which a path goes through tables, as far as it goes. -/
def Tables : List String → Value → Prop
  | [], _ => True
  | key :: path, v =>
    (∃ fields, v = .table fields) ∧ ∀ w, field? key (fieldsOf v) = some w → Tables path w

/-! ## What layers say about a path -/

def inside? : List String → Value → Option Value
  | [], v => if isSingle v then some v else none
  | key :: path, v =>
    last? (fun f => if Text.Casing.toSmall f.1 = key then inside? path f.2 else none) (fieldsOf v)

def at? : List String → Place → Value → Option Value
  | path, [], v => inside? path v
  | key :: path, .field name :: rest, v =>
    if Text.Casing.toSmall name = key then at? path rest v else none
  | _, _ :: _, _ => none

/-- The value that a layer sets at a path. -/
def setting? (path : List String) (layer : Layer) : Option Value :=
  last? (fun entry => at? path (.ofKey entry.1) entry.2) layer

def keepsInside : List String → Value → Bool
  | [], _ => true
  | key :: path, .table fields =>
    fields.all fun f => Text.Casing.toSmall f.1 != key || keepsInside path f.2
  | _ :: _, _ => false

def keepsAt : List String → Place → Value → Bool
  | [], _, _ => true
  | path, [], v => keepsInside path v
  | key :: path, .field name :: rest, v =>
    Text.Casing.toSmall name != key || keepsAt path rest v
  | _ :: _, .item _ :: _, _ => false

/-- Whether a layer leaves tables where a path goes on. -/
def keeps (path : List String) (layer : Layer) : Bool :=
  layer.all fun entry => keepsAt path (.ofKey entry.1) entry.2

/-! ## One field put over others -/

theorem field?_put (key other : String) (v : Value) (fields : List (String × Value)) :
    field? other (put key v fields) = if key = other then some v else field? other fields := by
  induction fields with
  | nil => grind [put, field?]
  | cons head rest ih => grind [put, field?]

theorem look_cons_put (key other : String) (path : List String) (v : Value)
    (fields : List (String × Value)) :
    look (other :: path) (.table (put key v fields)) =
      if key = other then look path v else look (other :: path) (.table fields) := by
  simp only [look, fieldsOf, field?_put]
  split <;> rfl

/-- What comes of a value over which something is put that says something about a path: the path
still goes through tables, and a value in one piece is the one said, or else the one before. -/
structure Follows (path : List String) (said : Option Value) (lower result : Value) : Prop where
  tables : Tables path result
  single : Single (look path result) → look path result = said.or (look path lower)

/-- A value whose tables, as far as paths reach them, have every key once. -/
def Distinct (v : Value) : Prop :=
  ∀ path fields, look path v = some (.table fields) → (fields.map (·.1)).Nodup

theorem distinct_empty : Distinct (.table []) := by
  rintro (_ | ⟨key, path⟩) fields found
  · cases found
    exact List.nodup_nil
  · cases found

theorem distinct_of_fieldsOf_eq_nil {v : Value} (none : fieldsOf v = []) : Distinct v := by
  rintro (_ | ⟨key, path⟩) fields found
  · obtain rfl := Option.some.inj found
    rw [show fields = [] from none]
    exact List.nodup_nil
  · rw [look, none] at found
    cases found

theorem Distinct.fieldsOf {v : Value} (distinct : Distinct v) :
    ((fieldsOf v).map (·.1)).Nodup := by
  cases v with
  | table fields => exact distinct [] fields rfl
  | _ => exact List.nodup_nil

theorem Distinct.below {v : Value} (distinct : Distinct v) (key : String) :
    Distinct (below key v) := by
  cases found : field? key (Layer.fieldsOf v) with
  | none =>
    rw [Layer.below, found]
    exact distinct_empty
  | some w =>
    rw [Layer.below, found]
    intro path fields reached
    exact distinct (key :: path) fields (by rw [look, found]; exact reached)

theorem mem_keys_put {key other : String} {v : Value} {fields : List (String × Value)} :
    other ∈ (put key v fields).map (·.1) ↔ other = key ∨ other ∈ fields.map (·.1) := by
  induction fields with
  | nil => simp [put]
  | cons head rest ih => grind [put]

theorem nodup_keys_put {key : String} {v : Value} {fields : List (String × Value)}
    (distinct : (fields.map (·.1)).Nodup) : ((put key v fields).map (·.1)).Nodup := by
  induction fields with
  | nil => simp [put]
  | cons head rest ih =>
    obtain ⟨k, w⟩ := head
    obtain ⟨new, others⟩ := List.nodup_cons.1 distinct
    rw [put]
    split
    · exact List.nodup_cons.2 ⟨new, others⟩
    · rename_i other
      refine List.nodup_cons.2 ⟨fun member => ?_, ih others⟩
      exact (mem_keys_put.1 member).elim (fun same => other same.symm) new

theorem Distinct.put {lower v : Value} (distinct : Distinct lower) (upper : Distinct v)
    (key : String) : Distinct (.table (put key v (Layer.fieldsOf lower))) := by
  rintro (_ | ⟨other, path⟩) fields found
  · obtain rfl := Value.table.inj (Option.some.inj found)
    exact nodup_keys_put distinct.fieldsOf
  · rw [look_cons_put] at found
    split at found
    · exact upper path fields found
    · exact distinct (other :: path) fields found

mutual

theorem Distinct.overlay {lower : Value} (distinct : Distinct lower) :
    ∀ v, Distinct (overlay lower v)
  | .table fields => distinct.overlayFields fields
  | .list _ | .text _ | .integer _ | .real _ | .boolean _ | .moment _ =>
    distinct_of_fieldsOf_eq_nil rfl

theorem Distinct.overlayFields {lower : Value} (distinct : Distinct lower) :
    ∀ fields, Distinct (overlayFields lower fields)
  | [] => distinct
  | (key, v) :: rest =>
    let key := Text.Casing.toSmall key
    (distinct.put ((distinct.below key).overlay v) key).overlayFields rest

end

theorem Distinct.putAt {lower : Value} (distinct : Distinct lower) (v : Value) (place : Place) :
    Distinct (putAt v place lower) := by
  induction place generalizing lower with
  | nil => exact distinct.overlay v
  | cons step rest ih =>
    cases step with
    | field name => exact distinct.put (ih (distinct.below _)) _
    | item index => cases rest <;> exact distinct_of_fieldsOf_eq_nil rfl

end Scaffold.Settings.Layer
