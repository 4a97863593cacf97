import Scaffold.Toml.Value

/-! Values that are written as one word: booleans, integers, numbers with a fraction or an exponent,
dates and times. A word is read as a whole; one that has none of these forms is no value. -/

namespace Scaffold.Toml.Scalar

def isWordChar (c : Char) : Bool :=
  c.isAlphanum || c == '+' || c == '-' || c == '_' || c == '.' || c == ':'

def digitValue (c : Char) : Nat :=
  if c.isDigit then c.toNat - '0'.toNat else c.toLower.toNat - 'a'.toNat + 10

def isDigitOf (base : Nat) (c : Char) : Bool :=
  (c.isDigit || ('a' ≤ c.toLower && c.toLower ≤ 'f')) && digitValue c < base

/-- The digits of a run in which single underscores may stand between digits. -/
def digitRun? (base : Nat) : List Char → Option (List Char)
  | [] => none
  | [c] => if isDigitOf base c then some [c] else none
  | c :: '_' :: rest =>
    if isDigitOf base c then (digitRun? base rest).map (c :: ·) else none
  | c :: rest => if isDigitOf base c then (digitRun? base rest).map (c :: ·) else none

def valueOf (base : Nat) (digits : List Char) : Nat :=
  digits.foldl (fun n c => base * n + digitValue c) 0

def signed : List Char → Bool × List Char
  | '-' :: rest => (true, rest)
  | '+' :: rest => (false, rest)
  | cs => (false, cs)

/-- The digits of a decimal integer, which starts with a zero only if it is zero. -/
def decimalRun? (cs : List Char) : Option (List Char) :=
  match cs with
  | '0' :: _ :: _ => none
  | _ => digitRun? 10 cs

/-- Integers from its negative on up to this one, itself left out, fit 64 bits. -/
def integerLimit : Int := 9223372036854775808

def fit? (n : Int) : Option Value :=
  if -integerLimit ≤ n ∧ n < integerLimit then some (.integer n) else none

def integer? (word : List Char) : Option Value :=
  match word with
  | '0' :: 'x' :: rest => (digitRun? 16 rest).bind fun digits => fit? (valueOf 16 digits)
  | '0' :: 'o' :: rest => (digitRun? 8 rest).bind fun digits => fit? (valueOf 8 digits)
  | '0' :: 'b' :: rest => (digitRun? 2 rest).bind fun digits => fit? (valueOf 2 digits)
  | _ =>
    let (negative, rest) := signed word
    (decimalRun? rest).bind fun digits =>
      let n : Int := valueOf 10 digits
      fit? (if negative then -n else n)

/-- The exponent of a number, nothing standing for zero. -/
def exponent? (cs : List Char) : Option Int :=
  match cs with
  | [] => some 0
  | c :: rest =>
    if c == 'e' || c == 'E' then
      let (negative, rest) := signed rest
      (digitRun? 10 rest).map fun digits =>
        let n : Int := valueOf 10 digits
        if negative then -n else n
    else none

def isRunChar (c : Char) : Bool :=
  c.isDigit || c == '_'

/-- Digits before and after the point and an exponent; one of the latter two is there. -/
def decimal? (negative : Bool) (cs : List Char) : Option Double := do
  let whole ← decimalRun? (cs.takeWhile isRunChar)
  match cs.dropWhile isRunChar with
  | [] => none
  | '.' :: rest =>
    let part ← digitRun? 10 (rest.takeWhile isRunChar)
    let exponent ← exponent? (rest.dropWhile isRunChar)
    some (.ofDecimal negative (valueOf 10 (whole ++ part)) (exponent - part.length))
  | rest =>
    let exponent ← exponent? rest
    some (.ofDecimal negative (valueOf 10 whole) exponent)

/-- A number with a fraction or an exponent. One that is too great is refused, while one below every
number of the format is negative infinity. -/
def real? (word : List Char) : Option Value :=
  let (negative, rest) := signed word
  if rest = ['i', 'n', 'f'] then some (.real (.infinite negative))
  else if rest = ['n', 'a', 'n'] then some (.real .nan)
  else match decimal? negative rest with
    | some x => if x = .infinite false then none else some (.real x)
    | none => none

def digits? (count : Nat) (cs : List Char) : Option (Nat × List Char) :=
  let digits := cs.take count
  if digits.length = count && digits.all Char.isDigit then some (valueOf 10 digits, cs.drop count)
  else none

def expect? (c : Char) : List Char → Option (List Char)
  | [] => none
  | d :: rest => if c == d then some rest else none

def daysOf (year month : Nat) : Nat :=
  if month = 2 then
    if year % 4 = 0 ∧ (year % 100 ≠ 0 ∨ year % 400 = 0) then 29 else 28
  else if month = 4 ∨ month = 6 ∨ month = 9 ∨ month = 11 then 30 else 31

def date? (cs : List Char) : Option (Date × List Char) := do
  let (year, cs) ← digits? 4 cs
  let cs ← expect? '-' cs
  let (month, cs) ← digits? 2 cs
  let cs ← expect? '-' cs
  let (day, cs) ← digits? 2 cs
  if 1 ≤ month ∧ month ≤ 12 ∧ 1 ≤ day ∧ day ≤ daysOf year month then
    some (⟨year, month, day⟩, cs)
  else none

/-- The nanoseconds of the digits of a fraction; digits after the ninth are cut off. -/
def nanoseconds (digits : List Char) : Nat :=
  valueOf 10 (digits.take 9) * Nat.pow 10 (9 - digits.length)

def time? (cs : List Char) : Option (Time × List Char) := do
  let (hour, cs) ← digits? 2 cs
  let cs ← expect? ':' cs
  let (minute, cs) ← digits? 2 cs
  let cs ← expect? ':' cs
  let (second, cs) ← digits? 2 cs
  if 23 < hour ∨ 59 < minute ∨ 60 < second then none
  else match cs with
    | '.' :: rest =>
      let digits := rest.takeWhile Char.isDigit
      if digits.isEmpty then none
      else some (⟨hour, minute, second, nanoseconds digits⟩, rest.dropWhile Char.isDigit)
    | _ => some (⟨hour, minute, second, 0⟩, cs)

def offset? (cs : List Char) : Option (Option Offset) :=
  match cs with
  | [] => some none
  | ['Z'] => some (some .utc)
  | ['z'] => some (some .utc)
  | c :: rest => do
    if c != '+' && c != '-' then none
    else
      let (hour, cs) ← digits? 2 rest
      let cs ← expect? ':' cs
      let (minute, cs) ← digits? 2 cs
      if 23 < hour ∨ 59 < minute ∨ cs ≠ [] then none
      else
        let n : Int := 60 * hour + minute
        some (some (.minutes (if c == '-' then -n else n)))

def isJoint (c : Char) : Bool :=
  c == 'T' || c == 't' || c == ' '

def moment? (word : List Char) : Option Moment :=
  match date? word with
  | some (date, []) => some { date? := some date }
  | some (date, joint :: rest) =>
    if isJoint joint then do
      let (time, rest) ← time? rest
      let offset ← offset? rest
      some ⟨some date, some time, offset⟩
    else none
  | none =>
    match time? word with
    | some (time, []) => some { time? := some time }
    | _ => none

def value? (word : List Char) : Option Value :=
  if word = ['t', 'r', 'u', 'e'] then some (.boolean true)
  else if word = ['f', 'a', 'l', 's', 'e'] then some (.boolean false)
  else match moment? word with
    | some m => some (.moment m)
    | none =>
      match integer? word with
      | some v => some v
      | none => real? word

/-- The first word of a text and the rest. A date and a time with one space between them are one
word. -/
def word (cs : List Char) : List Char × List Char :=
  let first := cs.takeWhile isWordChar
  match cs.dropWhile isWordChar with
  | ' ' :: c :: rest =>
    match date? first with
    | some (_, []) =>
      if c.isDigit then
        (first ++ ' ' :: (c :: rest).takeWhile isWordChar, (c :: rest).dropWhile isWordChar)
      else (first, ' ' :: c :: rest)
    | _ => (first, ' ' :: c :: rest)
  | rest => (first, rest)

end Scaffold.Toml.Scalar
