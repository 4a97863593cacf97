import Scaffold.Double

/-! The values of a TOML document. Integers fit 64 bits; tables keep their keys in the order in
which they were written, each of them once. -/

namespace Scaffold.Toml

structure Date where
  year : Nat
  month : Nat
  day : Nat
  deriving DecidableEq, Repr

structure Time where
  hour : Nat
  minute : Nat
  second : Nat
  nanosecond : Nat
  deriving DecidableEq, Repr

inductive Offset
  | utc
  | minutes (east : Int)
  deriving DecidableEq, Repr

/-- A date, a time of day, or both; an offset comes only with both. -/
structure Moment where
  date? : Option Date := none
  time? : Option Time := none
  offset? : Option Offset := none
  deriving DecidableEq, Repr

inductive Value
  | text (s : String)
  | integer (n : Int)
  | real (x : Double)
  | boolean (b : Bool)
  | moment (m : Moment)
  | list (items : List Value)
  | table (fields : List (String × Value))

instance : Inhabited Value := ⟨.table []⟩

def padded (width n : Nat) : String :=
  let digits := Nat.toDigits 10 n
  String.ofList (List.replicate (width - digits.length) '0' ++ digits)

def Date.show (d : Date) : String :=
  padded 4 d.year ++ "-" ++ padded 2 d.month ++ "-" ++ padded 2 d.day

def fraction (nanosecond : Nat) : String :=
  if nanosecond = 0 then ""
  else "." ++ String.ofList ((padded 9 nanosecond).toList.reverse.dropWhile (· == '0')).reverse

def Time.show (t : Time) : String :=
  padded 2 t.hour ++ ":" ++ padded 2 t.minute ++ ":" ++ padded 2 t.second ++ fraction t.nanosecond

def Offset.show : Offset → String
  | utc => "Z"
  | minutes east =>
    let n := east.natAbs
    (if east < 0 then "-" else "+") ++ padded 2 (n / 60) ++ ":" ++ padded 2 (n % 60)

/-- The text of a moment: date and time are joined by a `T`. -/
def Moment.show (m : Moment) : String :=
  "T".intercalate (((m.date?.map Date.show).toList) ++ ((m.time?.map Time.show).toList))
    ++ (m.offset?.map Offset.show).getD ""

def field? (key : String) (fields : List (String × Value)) : Option Value :=
  fields.lookup key

end Scaffold.Toml
