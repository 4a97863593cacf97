import Scaffold.Text.Nested
import Scaffold.Text.Pattern
import Scaffold.Text.PatternOptions

/-! Reading escapes and sets in brackets. A backslash takes the meaning from a sign or gives one to
a letter: an edge, a control character, a code, or a set of ASCII. Brackets hold characters, ranges,
sets with a name and further brackets; two signs in a row join what is on both sides of them. -/

namespace Scaffold.Text.SetReader

/-! ## Escapes -/

inductive Escape
  | literal (c : Char)
  | set (s : CharSet)
  | edge (e : Edge)

def hexValue? (c : Char) : Option Nat :=
  if c.isDigit then some (c.toNat - '0'.toNat)
  else if 'a' ≤ c.toLower && c.toLower ≤ 'f' then some (c.toLower.toNat - 'a'.toNat + 10)
  else none

/-- A fixed number of hexadecimal digits, read after the value of those before them. -/
def hexDigits? (options : PatternOptions) : Nat → Nat → List Char → Option (Nat × List Char)
  | 0, value, cs => some (value, cs)
  | count + 1, value, cs =>
    match options.skip cs with
    | [] => none
    | c :: rest =>
      match hexValue? c with
      | some digit => hexDigits? options count (16 * value + digit) rest
      | none => none

def coded? (options : PatternOptions) (count : Nat) (cs : List Char) :
    Option (Escape × List Char) :=
  match hexDigits? options count 0 cs with
  | some (n, rest) => if n.isValidChar then some (.literal (Char.ofNat n), rest) else none
  | none => none

def letterClass? (options : PatternOptions) (c : Char) : Option CharSet :=
  if !options.asciiSets then none
  else if c == 'd' then some .digits
  else if c == 's' then some .blanks
  else if c == 'w' then some .wordChars
  else none

/-- The edge of a letter or a sign. Edges of words are for ASCII. -/
def edge? (options : PatternOptions) (c : Char) : Option Edge :=
  if c == 'A' then some .textStart
  else if c == 'z' then some .textEnd
  else if !options.asciiSets then none
  else if c == 'b' then some .wordEdge
  else if c == 'B' then some .noWordEdge
  else if c == '<' then some .wordStart
  else if c == '>' then some .wordEnd
  else none

def controlOf? (c : Char) : Option Char :=
  [('a', '\x07'), ('f', '\x0c'), ('t', '\t'), ('n', '\n'), ('r', '\r'), ('v', '\x0b')].lookup c

/-- The escape after a backslash. A code of two digits is a byte where sets are of ASCII. -/
def escape? (options : PatternOptions) : List Char → Option (Escape × List Char)
  | [] => none
  | c :: rest =>
    if c == 'x' then
      match coded? options 2 rest with
      | some (.literal d, rest) => if options.mayHold d then some (.literal d, rest) else none
      | other => other
    else if c == 'u' then coded? options 4 rest
    else if c == 'U' then coded? options 8 rest
    else match letterClass? options c, edge? options c, controlOf? c with
      | some set, _, _ => some (.set set, rest)
      | _, some e, _ => some (.edge e, rest)
      | _, _, some control => some (.literal control, rest)
      | none, none, none =>
        if 0x80 ≤ c.toNat || c.isAlphanum || c == '<' || c == '>' then none
        else some (.literal c, rest)

/-! ## Sets in brackets -/

inductive Join
  | both
  | except
  | apart
  deriving DecidableEq, Repr

def Join.apply : Join → CharSet → CharSet → CharSet
  | both => .both
  | except => .except
  | apart => .apart

def namedSet? (name : String) : Option CharSet :=
  match name with
  | "alnum" => some .alphanumerics
  | "alpha" => some (.union .capitals .smalls)
  | "ascii" => some .ascii
  | "blank" => some (.union (.single '\t') (.single ' '))
  | "cntrl" => some (.union (.range 0x00 0x1F) (.range 0x7F 0x7F))
  | "digit" => some .digits
  | "graph" => some (.range 0x21 0x7E)
  | "lower" => some .smalls
  | "print" => some (.range 0x20 0x7E)
  | "punct" => some (.except (.range 0x21 0x7E) .alphanumerics)
  | "space" => some .blanks
  | "upper" => some .capitals
  | "word" => some .wordChars
  | "xdigit" => some (.union .digits (.union (.range 0x41 0x46) (.range 0x61 0x66)))
  | _ => none

/-- A named set after the bracket in front of its colon, if there is one; it may be refused. -/
def named? (options : PatternOptions) : List Char → Option (Option CharSet × List Char)
  | ':' :: rest =>
    let negated := rest.head? == some '^'
    let rest := if negated then rest.drop 1 else rest
    match rest.span (· != ':') with
    | (name, ':' :: ']' :: rest) =>
      (namedSet? (String.ofList name)).map fun set =>
        let set? := options.letters? set
        (if negated then set?.bind options.negated? else set?, rest)
    | _ => none
  | _ => none

def setItem? (options : PatternOptions) : List Char → Option (Escape × List Char)
  | [] => none
  | c :: rest =>
    let item? := if c == '\\' then escape? options rest else some (.literal c, rest)
    match item? with
    | some (.literal c, rest) => if options.mayHold c then some (.literal c, rest) else none
    | some (.set s, rest) => some (.set s, rest)
    | some (.edge _, _) => none
    | none => none

/-- Whether the text after a hyphen makes it the sign of a range. -/
def opensRange (options : PatternOptions) (afterHyphen : List Char) : Bool :=
  match options.skip afterHyphen with
  | [] => true
  | c :: _ => c != ']' && c != '-'

def ofItem? (options : PatternOptions) : Escape → Option CharSet
  | .literal c => options.letters? (.single c)
  | .set s => some s
  | .edge _ => none

/-- A character, a range or an escaped set. Something has to follow. -/
def setRange? (options : PatternOptions) (cs : List Char) : Option (CharSet × List Char) :=
  match setItem? options cs with
  | none => none
  | some (item, rest) =>
    match options.skip rest with
    | [] => none
    | '-' :: more =>
      if opensRange options more then
        match item, setItem? options (options.skip more) with
        | .literal first, some (.literal last, rest) =>
          if first.toNat ≤ last.toNat then
            (options.letters? (.range first.toNat last.toNat)).map fun set => (set, rest)
          else none
        | _, _ => none
      else (ofItem? options item).map fun set => (set, '-' :: more)
    | rest => (ofItem? options item).map fun set => (set, rest)

/-- The number of hyphens in front of a text, and the text behind them. -/
def hyphens (options : PatternOptions) : Nat → List Char → Nat × List Char
  | 0, cs => (0, cs)
  | steps + 1, cs =>
    match options.skip cs with
    | '-' :: rest =>
      let (count, rest) := hyphens options steps rest
      (count + 1, rest)
    | rest => (0, rest)

/-- The signs that may come first in a bracket: the one that negates, hyphens, and a bracket, which
stand for themselves there. -/
def opening? (options : PatternOptions) (cs : List Char) :
    Option (Bool × List (Nested CharSet) × List Char) :=
  let cs := options.skip cs
  let negated := cs.head? == some '^'
  let cs := options.skip (if negated then cs.drop 1 else cs)
  match cs with
  | '-' :: rest =>
    let (count, rest) := hyphens options rest.length rest
    (options.letters? (.single '-')).map fun set =>
      (negated, List.replicate (count + 1) ⟨set, 0⟩, rest)
  | ']' :: rest => (options.letters? (.single ']')).map fun set => (negated, [⟨set, 0⟩], rest)
  | _ => some (negated, [], cs)

/-- The items since the last join, joined to what is before it. -/
def combine (left? : Option (Join × Nested CharSet)) (items : List (Nested CharSet)) :
    Nested CharSet :=
  let right := Nested.ofRow CharSet.ofParts items
  match left? with
  | some (join, left) =>
    ⟨join.apply left.value right.value, Nested.rowDepth [left.depth, right.depth]⟩
  | none => right

mutual

def setItems? (options : PatternOptions) : Nat → Option (Join × Nested CharSet) →
    List (Nested CharSet) → List Char → Option (Nested CharSet × List Char)
  | 0, _, _, _ => none
  | steps + 1, left?, items, cs =>
    match options.skip cs with
    | [] => none
    | c :: rest =>
      let twice := rest.head? == some c
      let join? := if !twice then none
        else if c == '&' then some Join.both
        else if c == '-' then some Join.except
        else if c == '~' then some Join.apart
        else none
      match join? with
      | some join => setItems? options steps (some (join, combine left? items)) [] (rest.drop 1)
      | none =>
        if c == ']' then some (combine left? items, rest)
        else
          let item? : Option (Nested CharSet × List Char) :=
            if c == '[' then
              match named? options rest with
              | some (set?, rest) => set?.map fun set => (⟨set, 0⟩, rest)
              | none => set? options steps rest
            else (setRange? options (c :: rest)).map fun item => (⟨item.1, 0⟩, item.2)
          match item? with
          | some (item, rest) => setItems? options steps left? (item :: items) rest
          | none => none

def set? (options : PatternOptions) : Nat → List Char → Option (Nested CharSet × List Char)
  | 0, _ => none
  | steps + 1, cs =>
    match opening? options cs with
    | none => none
    | some (negated, items, rest) =>
      match setItems? options steps none items rest with
      | none => none
      | some (set, rest) =>
        if negated then
          (options.negated? set.value).map fun outside => (set.wrap fun _ => outside, rest)
        else some (set.wrap id, rest)

end

end Scaffold.Text.SetReader
