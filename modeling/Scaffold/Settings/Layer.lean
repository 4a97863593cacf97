import Scaffold.Settings.Place
import Scaffold.Text.Casing

/-! Layers of settings. A layer gives values to keys; put over other layers it replaces single
values and leaves what it does not mention, for tables are merged and all else is replaced. Capital
letters in keys do not count. -/

namespace Scaffold.Settings
open Toml

/-- Keys with their values. A key may stand for a place inside the value of a field. -/
abbrev Layer := List (String × Value)

namespace Layer

def fieldsOf : Value → List (String × Value)
  | .table fields => fields
  | _ => []

def put (key : String) (v : Value) : List (String × Value) → List (String × Value)
  | [] => [(key, v)]
  | (k, w) :: rest => if key = k then (k, v) :: rest else (k, w) :: put key v rest

/-- The value under a key, or an empty table. -/
def below (key : String) (v : Value) : Value :=
  (field? key (fieldsOf v)).getD (.table [])

mutual

def overlay (lower : Value) : Value → Value
  | .table fields => overlayFields lower fields
  | v => v

/-- Fields put over a value, which becomes a table when there are any. -/
def overlayFields (lower : Value) : List (String × Value) → Value
  | [] => lower
  | (key, v) :: rest =>
    let key := Text.Casing.toSmall key
    overlayFields (.table (put key (overlay (below key lower) v) (fieldsOf lower))) rest

end

def itemsOf : Value → List Value
  | .list items => items
  | _ => []

/-- An item without a value. No setting can be read from it. -/
def unset : Value := .list []

/-- A list that is long enough to have an index, and the position of the item. -/
def reach (index : Int) (items : List Value) : List Value × Nat :=
  if 0 ≤ index then
    (items ++ List.replicate (index.toNat + 1 - items.length) unset, index.toNat)
  else (items ++ List.replicate (1 - items.length) unset, (items.length + index).toNat)

/-- Puts a value at a place inside another. Tables and lists on the way are made; a table is merged
with the one at its place, while an item of a list is replaced. -/
def putAt (v : Value) : Place → Value → Value
  | [], lower => overlay lower v
  | .field name :: rest, lower =>
    let key := Text.Casing.toSmall name
    .table (put key (putAt v rest (below key lower)) (fieldsOf lower))
  | [.item index], lower =>
    let (items, i) := reach index (itemsOf lower)
    .list (items.set i v)
  | .item index :: next :: rest, lower =>
    let (items, i) := reach index (itemsOf lower)
    .list (items.modify i (putAt v (next :: rest)))

def putEntry (lower : Value) (entry : String × Value) : Value :=
  putAt entry.2 (.ofKey entry.1) lower

def putLayer (lower : Value) (layer : Layer) : Value :=
  layer.foldl putEntry lower

def merge (layers : List Layer) : Value :=
  layers.foldl putLayer (.table [])

end Layer
end Scaffold.Settings
