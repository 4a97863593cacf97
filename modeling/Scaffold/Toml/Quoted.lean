import Scaffold.Text.Literal

/-! Quoted texts of TOML, read character by character. There are four forms: double quotes with
escapes and single quotes without, each on one line or, with the quote written three times, over
several lines. A line end inside a text is a line feed, however it was written. -/

namespace Scaffold.Toml.Quoted

structure Form where
  quote : Char
  /-- Whether the text may go over several lines. -/
  block : Bool
  deriving DecidableEq, Repr

/-- Escapes are read between double quotes only. -/
def Form.escapes (form : Form) : Bool :=
  form.quote == '"'

inductive State
  | plain
  /-- After some quotes of a block that may be its end. -/
  | quotes (count : Nat)
  /-- After a carriage return, which only a line feed may follow. -/
  | carriage
  | escape
  /-- Inside the hexadecimal digits of a code point. -/
  | point (value missing : Nat)
  /-- After a backslash and blanks, before the line end that they hide. -/
  | hiding
  /-- After a hidden line end, where blanks and line ends are left out. -/
  | hidden
  /-- After a carriage return that is left out with its line feed. -/
  | hiddenCarriage
  deriving DecidableEq, Repr

inductive Outcome
  | more (out : List Char) (state : State)
  /-- The text ends with the character that was read. -/
  | last
  /-- The text ended before the character that was read. -/
  | past (out : List Char)
  | refused
  deriving DecidableEq, Repr

def isPlain (c : Char) : Bool :=
  c == '\t' || (0x20 ≤ c.toNat && c.toNat ≠ 0x7F)

def isBlank (c : Char) : Bool :=
  c == ' ' || c == '\t'

def named? (c : Char) : Option Char :=
  if c == 'b' then some (Char.ofNat 0x08)
  else if c == 't' then some '\t'
  else if c == 'n' then some '\n'
  else if c == 'f' then some (Char.ofNat 0x0C)
  else if c == 'r' then some '\r'
  else if c == '"' || c == '\\' then some c
  else none

def stepPlain (form : Form) (c : Char) : Outcome :=
  if c == form.quote then if form.block then .more [] (.quotes 1) else .last
  else if form.escapes && c == '\\' then .more [] .escape
  else if form.block && c == '\n' then .more ['\n'] .plain
  else if form.block && c == '\r' then .more [] .carriage
  else if isPlain c then .more [c] .plain
  else .refused

def Outcome.after (before : List Char) : Outcome → Outcome
  | more out state => more (before ++ out) state
  | past out => past (before ++ out)
  | last => last
  | refused => refused

def stepEscape (form : Form) (c : Char) : Outcome :=
  match named? c with
  | some d => .more [d] .plain
  | none =>
    if c == 'u' then .more [] (.point 0 4)
    else if c == 'U' then .more [] (.point 0 8)
    else if !form.block then .refused
    else if isBlank c then .more [] .hiding
    else if c == '\n' then .more [] .hidden
    else if c == '\r' then .more [] .hiddenCarriage
    else .refused

/-- Reads one character. Three quotes end a block, and up to two quotes before them belong to it. -/
def step (form : Form) (state : State) (c : Char) : Outcome :=
  match state with
  | .plain => stepPlain form c
  | .quotes count =>
    if c == form.quote && count < 5 then .more [] (.quotes (count + 1))
    else if 3 ≤ count then .past (List.replicate (count - 3) form.quote)
    else (stepPlain form c).after (List.replicate count form.quote)
  | .carriage => if c == '\n' then .more ['\n'] .plain else .refused
  | .escape => stepEscape form c
  | .point value missing =>
    match Text.Literal.hexValue? c with
    | none => .refused
    | some h =>
      let value := 16 * value + h
      if 1 < missing then .more [] (.point value (missing - 1))
      else if value.isValidChar then .more [Char.ofNat value] .plain
      else .refused
  | .hiding =>
    if isBlank c then .more [] .hiding
    else if c == '\n' then .more [] .hidden
    else if c == '\r' then .more [] .hiddenCarriage
    else .refused
  | .hidden =>
    if isBlank c || c == '\n' then .more [] .hidden
    else if c == '\r' then .more [] .hiddenCarriage
    else stepPlain form c
  | .hiddenCarriage => if c == '\n' then .more [] .hidden else .refused

def atEnd (form : Form) : State → Option (List Char)
  | .quotes count => if 3 ≤ count then some (List.replicate (count - 3) form.quote) else none
  | _ => none

def run (form : Form) (state : State) : List Char → Option (List Char × List Char)
  | [] => (atEnd form state).map fun out => (out, [])
  | c :: rest =>
    match step form state c with
    | .more out state => (run form state rest).map fun r => (out ++ r.1, r.2)
    | .last => some ([], rest)
    | .past out => some (out, c :: rest)
    | .refused => none

/-- A line end right after the opening quotes of a block is no part of it. -/
def afterOpening : List Char → List Char
  | '\n' :: rest => rest
  | '\r' :: '\n' :: rest => rest
  | cs => cs

def readLine (quote : Char) (cs : List Char) : Option (String × List Char) :=
  (run ⟨quote, false⟩ .plain cs).map fun r => (String.ofList r.1, r.2)

def read (quote : Char) (cs : List Char) : Option (String × List Char) :=
  if cs.take 2 = [quote, quote] then
    (run ⟨quote, true⟩ .plain (afterOpening (cs.drop 2))).map fun r => (String.ofList r.1, r.2)
  else readLine quote cs

end Scaffold.Toml.Quoted
