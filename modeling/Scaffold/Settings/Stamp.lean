import Scaffold.Toml.Scalar

/-! Moments in settings. A settings file may also give a moment as a table whose first key is
reserved for it and has the text of the moment, written as the word for it would be; further keys of
the table do not count. -/

namespace Scaffold.Settings.Stamp
open Toml

/-- The key that makes a table a moment. -/
def reservedKey : String := "$__toml_private_datetime"

/-- The moment in a table with these fields, if the first key says that it is one. -/
def stamped? (fields : List (String × Value)) : Option (Option Moment) :=
  match fields with
  | (key, v) :: _ =>
    if key == reservedKey then
      match v with
      | .text s => some (Scalar.moment? s.toList)
      | _ => some none
    else none
  | [] => none

mutual

/-- A value with moments in place of the tables that stand for them, unless one is no moment. -/
def reveal? : Value → Option Value
  | .table fields =>
    match stamped? fields with
    | some moment? => moment?.map .moment
    | none => (revealFields? fields).map .table
  | .list items => (revealItems? items).map .list
  | v => some v

def revealFields? : List (String × Value) → Option (List (String × Value))
  | [] => some []
  | (key, v) :: rest => do
    let v ← reveal? v
    let rest ← revealFields? rest
    some ((key, v) :: rest)

def revealItems? : List Value → Option (List Value)
  | [] => some []
  | v :: rest => do
    let v ← reveal? v
    let rest ← revealItems? rest
    some (v :: rest)

end

/-- The fields of a settings file. The file as a whole is no moment. -/
def fields? (fields : List (String × Value)) : Option (List (String × Value)) :=
  if (stamped? fields).isSome then none else revealFields? fields

end Scaffold.Settings.Stamp
