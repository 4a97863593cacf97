import Scaffold.Text.Printable

/-! String literals of generated code. A text is written between double quotes on one line: quotes,
backslashes and the four named control characters take a short escape, every other character without
a visible form of its own takes its code point in hexadecimal. -/

namespace Scaffold.Text.Literal

/-- The hexadecimal digits of a number, in small letters and without leading zeros. -/
def hexDigits (n : Nat) : List Char :=
  Nat.toDigits 16 n

def escape (c : Char) : List Char :=
  if c == '"' then ['\\', '"']
  else if c == '\\' then ['\\', '\\']
  else if c == '\n' then ['\\', 'n']
  else if c == '\r' then ['\\', 'r']
  else if c == '\t' then ['\\', 't']
  else if c.toNat == 0 then ['\\', '0']
  else if Printable.isPlain c then [c]
  else ['\\', 'u', '\x7b'] ++ hexDigits c.toNat ++ ['\x7d']

def body (cs : List Char) : List Char :=
  cs.flatMap escape

def quoted (s : String) : String :=
  "\"" ++ String.ofList (body s.toList) ++ "\""

/-- What the reader of a literal has seen of an escape. -/
inductive Reading
  | plain
  | escape
  /-- After `\x` with its first digit, if read. -/
  | byte (first : Option Nat)
  /-- After `\u`, before the brace. -/
  | brace
  /-- Inside the braces: the value so far and the number of digits. -/
  | point (value digits : Nat)
  deriving DecidableEq, Repr

def hexValue? (c : Char) : Option Nat :=
  if c.isDigit then some (c.toNat - '0'.toNat)
  else if 'a' ≤ c ∧ c ≤ 'f' then some (c.toNat - 'a'.toNat + 10)
  else if 'A' ≤ c ∧ c ≤ 'F' then some (c.toNat - 'A'.toNat + 10)
  else none

def named? (c : Char) : Option Char :=
  if c == 'n' then some '\n'
  else if c == 'r' then some '\r'
  else if c == 't' then some '\t'
  else if c == '0' then some (Char.ofNat 0)
  else if c == '\\' || c == '"' || c.toNat == 0x27 then some c
  else none

/-- Reads the text between the quotes of a literal; `none` when it is not well formed. -/
def readBody (state : Reading) : List Char → Option (List Char)
  | [] => if state = .plain then some [] else none
  | c :: rest =>
    match state with
    | .plain =>
      if c == '\\' then readBody .escape rest
      else if c == '"' then none
      else (readBody .plain rest).map (c :: ·)
    | .escape =>
      if c == 'u' then readBody .brace rest
      else if c == 'x' then readBody (.byte none) rest
      else match named? c with
        | some d => (readBody .plain rest).map (d :: ·)
        | none => none
    | .byte none =>
      match hexValue? c with
      | some h => if h < 8 then readBody (.byte (some h)) rest else none
      | none => none
    | .byte (some first) =>
      match hexValue? c with
      | some h => (readBody .plain rest).map (Char.ofNat (16 * first + h) :: ·)
      | none => none
    | .brace => if c == '\x7b' then readBody (.point 0 0) rest else none
    | .point value digits =>
      if c == '\x7d' then
        if 0 < digits ∧ value.isValidChar then
          (readBody .plain rest).map (Char.ofNat value :: ·)
        else none
      else match hexValue? c with
        | some h =>
          if digits < 6 then readBody (.point (16 * value + h) (digits + 1)) rest else none
        | none => none

def read? (s : String) : Option String :=
  match s.toList with
  | '"' :: rest =>
    match rest.getLast? with
    | some '"' => (readBody .plain rest.dropLast).map String.ofList
    | _ => none
  | _ => none

theorem body_append (a b : List Char) : body (a ++ b) = body a ++ body b := by
  simp [body]

end Scaffold.Text.Literal
