import Scaffold.Toml.Value

/-! Records in a document. A record with named fields is written as a table, in which unknown keys
are passed over and a field with two names takes either of them but not both; or as a list of its
fields in order, in which the last ones may be missing. -/

namespace Scaffold.Toml.Record

structure Layout where
  fields : List (List String)
  /-- Whether a list with more items than fields is refused. -/
  exact : Bool := false

/-- The value under one of several names. -/
def pick? (table : List (String × Value)) (names : List String) : Option (Option Value) :=
  match names.filterMap (field? · table) with
  | [] => some none
  | [v] => some (some v)
  | _ => none

def place : List (List String) → List Value → List (Option Value)
  | [], _ => []
  | _ :: fields, [] => none :: place fields []
  | _ :: fields, v :: rest => some v :: place fields rest

/-- The fields of a record, as far as they are there. -/
def read? (layout : Layout) : Value → Option (List (Option Value))
  | .table table => layout.fields.mapM (pick? table)
  | .list items =>
    if layout.exact && layout.fields.length < items.length then none
    else some (place layout.fields items)
  | _ => none

def text? : Value → Option String
  | .text s => some s
  | _ => none

def flag? : Value → Option Bool
  | .boolean b => some b
  | _ => none

def list? {α : Type} (read : Value → Option α) : Value → Option (List α)
  | .list items => items.mapM read
  | _ => none

def needed {α : Type} (read : Value → Option α) : Option Value → Option α
  | some v => read v
  | none => none

def given {α : Type} (read : Value → Option α) (default : α) : Option Value → Option α
  | some v => read v
  | none => some default

def optional {α : Type} (read : Value → Option α) : Option Value → Option (Option α)
  | some v => (read v).map some
  | none => some none

end Scaffold.Toml.Record
