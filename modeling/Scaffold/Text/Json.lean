import Scaffold.Text.Lines
import Scaffold.Text.Literal

/-! JSON texts over several lines. Every item of a list and every member of an object stands on a
line of its own, indented by two blanks for each level; an empty list stays on its line. -/

namespace Scaffold.Text.Json

inductive Value
  | text (s : String)
  | list (items : List Value)
  | object (members : List (String × Value))

/-- A character inside a quoted text: quotes, backslashes and control characters are escaped. -/
def escape (c : Char) : List Char :=
  if c == '"' then ['\\', '"']
  else if c == '\\' then ['\\', '\\']
  else if c == '\n' then ['\\', 'n']
  else if c == '\r' then ['\\', 'r']
  else if c == '\t' then ['\\', 't']
  else if c.toNat == 0x08 then ['\\', 'b']
  else if c.toNat == 0x0C then ['\\', 'f']
  else if c.toNat < 0x20 then
    let digits := Literal.hexDigits c.toNat
    ['\\', 'u'] ++ List.replicate (4 - digits.length) '0' ++ digits
  else [c]

def quoted (s : String) : String :=
  "\"" ++ String.ofList (s.toList.flatMap escape) ++ "\""

def margin (level : Nat) : String :=
  String.ofList (List.replicate (2 * level) ' ')

def enclose (opening closing : String) (level : Nat) (lines : List String) : String :=
  if lines.isEmpty then opening ++ closing
  else opening ++ "\n"
    ++ ",\n".intercalate (lines.map fun line => margin (level + 1) ++ line)
    ++ "\n" ++ margin level ++ closing

mutual

/-- The text of a value whose first line stands on a level. -/
def render (level : Nat) : Value → String
  | .text s => quoted s
  | .list items => enclose "[" "]" level (renderItems (level + 1) items)
  | .object members => enclose "\x7b" "\x7d" level (renderMembers (level + 1) members)

def renderItems (level : Nat) : List Value → List String
  | [] => []
  | v :: rest => render level v :: renderItems level rest

def renderMembers (level : Nat) : List (String × Value) → List String
  | [] => []
  | (key, v) :: rest => (quoted key ++ ": " ++ render level v) :: renderMembers level rest

end

end Scaffold.Text.Json
