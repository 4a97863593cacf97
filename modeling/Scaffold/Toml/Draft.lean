import Scaffold.Toml.Value

/-! Tables while a document is read. A table remembers how it came about, because that decides what
may still be added: a header may define a table once, dotted keys go on only in tables that dotted
keys began, and values are closed. -/

namespace Scaffold.Toml

inductive Origin
  /-- Defined by a header of its own, or the whole document. -/
  | header
  /-- Passed through by a header of a table inside it. -/
  | implied
  /-- Passed through by a dotted key. -/
  | dotted
  deriving DecidableEq, Repr

inductive Draft
  | value (v : Value)
  | table (origin : Origin) (fields : List (String × Draft))
  /-- Tables under one repeated header, the latest first. -/
  | tables (elements : List (List (String × Draft)))

namespace Draft

abbrev Fields := List (String × Draft)

mutual

def toValue : Draft → Value
  | value v => v
  | table _ fields => .table (toFields fields)
  | tables elements => .list (toElements elements).reverse

def toFields : List (String × Draft) → List (String × Value)
  | [] => []
  | (key, d) :: rest => (key, toValue d) :: toFields rest

def toElements : List (List (String × Draft)) → List Value
  | [] => []
  | fields :: rest => .table (toFields fields) :: toElements rest

end

def put (key : String) (d : Draft) : Fields → Fields
  | [] => [(key, d)]
  | (k, e) :: rest => if key == k then (k, d) :: rest else (k, e) :: put key d rest

def passing (dotted : Bool) : Origin :=
  if dotted then .dotted else .implied

/-- Changes the table at the end of a path. Missing tables on the way are made; of tables under a
repeated header the latest is entered; a value and, for dotted keys, a table with a header of its
own are no way. -/
def descend (dotted : Bool) (change : Origin → Fields → Option Fields) :
    List String → Origin → Fields → Option Fields
  | [], origin, fields => change origin fields
  | key :: rest, _, fields =>
    match fields.lookup key with
    | none =>
      (descend dotted change rest (passing dotted) []).map fun inner =>
        put key (.table (passing dotted) inner) fields
    | some (.value _) => none
    | some (.tables []) => none
    | some (.tables (latest :: before)) =>
      (descend dotted change rest .header latest).map fun inner =>
        put key (.tables (inner :: before)) fields
    | some (.table origin inner) =>
      if dotted && origin == .header then none
      else (descend dotted change rest origin inner).map fun inner =>
        put key (.table origin inner) fields

/-- Gives a value to a key of a table. The dotted part of the key must end in a table that dotted
keys began. -/
def assign (dotted : List String) (key : String) (v : Value) (fields : Fields) : Option Fields :=
  descend true (fun origin fields =>
    if (origin == .dotted) == dotted.isEmpty then none
    else if (fields.lookup key).isSome then none
    else some (put key (.value v) fields)) dotted .header fields

/-- Defines a table by its header. A table that headers passed through comes last from then on. -/
def openTable (key : String) (fields : Fields) : Option Fields :=
  match fields.lookup key with
  | none => some (put key (.table .header []) fields)
  | some (.table .implied inner) =>
    some (fields.filter (·.1 != key) ++ [(key, .table .header inner)])
  | some _ => none

def openElement (key : String) (fields : Fields) : Option Fields :=
  match fields.lookup key with
  | none => some (put key (.tables [[]]) fields)
  | some (.tables elements) => some (put key (.tables ([] :: elements)) fields)
  | some _ => none

def within (path : List String) (change : Fields → Option Fields) (fields : Fields) :
    Option Fields :=
  descend false (fun _ fields => change fields) path .header fields

def splitLast (path : List String) : List String × String :=
  (path.dropLast, path.getLast?.getD "")

end Draft
end Scaffold.Toml
