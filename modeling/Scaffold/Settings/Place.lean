import Scaffold.Toml.Scalar

/-! Places of settings. A key names a field and may go on inside its value: to a field after a
point, or to an item of a list in brackets, counted from the front or, below zero, from the end. A
key that is not written like this is the name of one field. -/

namespace Scaffold.Settings

inductive Step
  | field (name : String)
  | item (index : Int)
  deriving DecidableEq, Repr

abbrev Place := List Step

namespace Place

def isNameChar (c : Char) : Bool :=
  c.isAlphanum || c == '_' || c == '-' || c == ' '

def isPadding (c : Char) : Bool :=
  c == ' ' || c == '\t'

/-- An index of digits, negated or not, that fits 64 bits. -/
def index? (digits : List Char) (negative : Bool) : Option Int :=
  if digits.isEmpty || !digits.all Char.isDigit then none
  else
    let n : Int := Toml.Scalar.valueOf 10 digits
    let n := if negative then -n else n
    if -Toml.Scalar.integerLimit ≤ n ∧ n < Toml.Scalar.integerLimit then some n else none

def bracketed? (inside : List Char) : Option Int :=
  match ((inside.dropWhile isPadding).reverse.dropWhile isPadding).reverse with
  | '-' :: digits => index? digits true
  | digits => index? digits false

def steps? : List Char → Option Place
  | [] => some []
  | c :: rest =>
    if c == '.' then
      let name := rest.takeWhile isNameChar
      if name.isEmpty then none
      else (steps? (rest.dropWhile isNameChar)).map (.field (String.ofList name) :: ·)
    else if c == '[' then
      match rest.dropWhile (· != ']'), bracketed? (rest.takeWhile (· != ']')) with
      | _ :: _, some index =>
        (steps? ((rest.dropWhile (· != ']')).drop 1)).map (.item index :: ·)
      | _, _ => none
    else none
termination_by cs => cs.length
decreasing_by
  · have := (List.dropWhile_sublist isNameChar (l := rest)).length_le
    simp only [List.length_cons]
    omega
  · have := (List.dropWhile_sublist (· != ']') (l := rest)).length_le
    simp only [List.length_drop, List.length_cons]
    omega

def ofKey (key : String) : Place :=
  let name := key.toList.takeWhile isNameChar
  if name.isEmpty then [.field key]
  else match steps? (key.toList.dropWhile isNameChar) with
    | some steps => .field (String.ofList name) :: steps
    | none => [.field key]

end Place
end Scaffold.Settings
