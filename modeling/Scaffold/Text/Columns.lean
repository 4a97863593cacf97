import Scaffold.Text.Width

/-! The columns of a text. Most characters count on their own; a few count differently for what
stands behind them, so a text is read from its end. Letters melt into one, a joiner makes one
picture of several, two regional letters make a flag, tags make the flag of a part of a region, and
a selector turns a character into a picture, into plain text or into a wide quote. -/

namespace Scaffold.Text.Columns
open Width

/-- What stands behind a character, as far as it bears on the columns of the character. -/
inductive Shape
  | plain
  | lineFeed
  /-- An alef, which melts into a lam. -/
  | alef
  /-- A lamed, which melts into an alef if a joiner stands between them. -/
  | lamed (joined : Bool)
  /-- A consonant that stands under the letter before it after a coeng. -/
  | khmer
  /-- The letter ya, which melts into another after a vowel sign and a joiner. -/
  | ya (joined : Bool)
  | vowelAndYa
  | tifinagh (joined : Bool)
  /-- A consonant with the sign that joins it to the one before it. -/
  | tifinaghBound
  /-- A tone letter, which melts into the tone letter before it. -/
  | lisu
  | turkic (joined : Bool)
  | kiratE
  | kiratAI
  | modifier
  | picture
  /-- A joiner with a picture behind it. -/
  | joiner
  /-- The sign of a key with a joiner and a picture behind it. -/
  | key
  | regional
  /-- Several regional letters. -/
  | regionals
  /-- A regional letter in front of a joiner. -/
  | joinedRegional
  /-- Several regional letters in front of a joiner; `paired` if their number is even. -/
  | joinedRegionals (paired : Bool)
  /-- The end of a tag and the letters before it, at most six. -/
  | tagLetters (count : Nat)
  /-- The digits of a tag in front of its letters, at most three. -/
  | tagDigits (count : Nat)
  deriving DecidableEq, Repr

namespace Shape

/-- The shapes that a selector between two letters does not part. -/
def melts : Shape → Bool
  | alef | lamed _ | khmer | ya _ | vowelAndYa | tifinagh _ | tifinaghBound | lisu | turkic _ =>
    true
  | _ => false

/-- A joiner with a picture behind it, or a key in front of that. -/
def isJoined : Shape → Bool
  | joiner | key => true
  | _ => false

def ofChar (c : Char) : Shape :=
  if c.toNat == 0x0A then lineFeed
  else if c.toNat ≤ 0xA0 then plain
  else if c.toNat == 0x5DC then lamed false
  else if Ranges.contains alefRanges c then alef
  else if Ranges.contains khmerRanges c then khmer
  else if c.toNat == 0x1A10 then ya false
  else if isTifinaghConsonant c then tifinagh false
  else if c.toNat == 0xA4FC || c.toNat == 0xA4FD then lisu
  else if c.toNat == 0x10C03 then turkic false
  else if c.toNat == 0x16D67 then kiratE
  else if c.toNat == 0x16D68 then kiratAI
  else if isRegional c then regional
  else if isModifier c then modifier
  else if isPicture c then picture
  else plain

/-- A character that a melting letter looks through leaves its shape; a joiner is remembered. -/
def pass? (shape : Shape) (c : Char) : Option Shape :=
  if !shape.melts || shape == alef || !Ranges.contains passedRanges c then none
  else if c.toNat == 0x200D then
    match shape with
    | lamed _ => some (lamed true)
    | ya _ => some (ya true)
    | tifinagh _ => some (tifinagh true)
    | turkic _ => some (turkic true)
    | other => some other
  else some shape

/-- The columns that a letter adds when it melts with what stands behind it. The shape behind may
have been counted already, and then the sum goes down. -/
def melt? (shape : Shape) (c : Char) : Option (Int × Shape) :=
  match shape with
  | alef =>
    if isLam c then some (0, plain)
    else if Width.ofChar c == 0 && !Ranges.contains partingRanges c then some (0, alef)
    else none
  | lamed true => if c.toNat == 0x5D0 then some (0, plain) else none
  | khmer => if c.toNat == 0x17D2 then some (-1, plain) else none
  | ya true => if c.toNat == 0x1A17 then some (0, vowelAndYa) else none
  | vowelAndYa => if c.toNat == 0x1A15 then some (0, plain) else none
  | tifinagh joined =>
    if c.toNat == 0x2D7F then some (1, tifinaghBound)
    else if joined && isTifinaghConsonant c then some (0, plain)
    else none
  | tifinaghBound => if isTifinaghConsonant c then some (-1, plain) else none
  | lisu => if 0xA4F8 ≤ c.toNat && c.toNat ≤ 0xA4FB then some (0, plain) else none
  | turkic true => if c.toNat == 0x10C32 then some (0, plain) else none
  | kiratE =>
    if c.toNat == 0x16D63 || c.toNat == 0x16D69 then some (0, plain)
    else if c.toNat == 0x16D67 then some (0, kiratAI)
    else if c.toNat == 0x16D68 then some (1, kiratE)
    else none
  | kiratAI => if c.toNat == 0x16D63 then some (0, plain) else none
  | _ => none

def isTagLetter (c : Char) : Bool :=
  0xE0061 ≤ c.toNat && c.toNat ≤ 0xE007A

def isTagDigit (c : Char) : Bool :=
  0xE0030 ≤ c.toNat && c.toNat ≤ 0xE0039

/-- The columns that a character adds when it makes one picture with what stands behind it. -/
def compose? (shape : Shape) (c : Char) : Option (Int × Shape) :=
  if c.toNat == 0x200D then
    match shape with
    | picture | modifier | regionals | joinedRegionals _ => some (0, joiner)
    | _ => none
  else match shape with
  | modifier => if isModifiable c then some (0, picture) else none
  | regional | regionals => if isRegional c then some (1, regionals) else none
  | joiner =>
    if c.toNat == 0x20E3 then some (0, key)
    else if isRegional c then some (1, joinedRegional)
    else if isModifier c then some (0, modifier)
    else if c.toNat == 0xE007F then some (0, tagLetters 0)
    else if isPicture c then some (0, picture)
    else none
  | joinedRegional | joinedRegionals false =>
    if isRegional c then some (-1, joinedRegionals true) else none
  | joinedRegionals true => if isRegional c then some (3, joinedRegionals false) else none
  | tagLetters n =>
    if isTagLetter c && n < 6 then some (0, tagLetters (n + 1))
    else if isTagDigit c && n < 5 then some (0, tagDigits 1)
    else if c.toNat == 0x1F3F4 && 3 ≤ n then some (0, picture)
    else none
  | tagDigits n =>
    if isTagDigit c && n < 3 then some (0, tagDigits (n + 1))
    else if c.toNat == 0x1F3F4 && n == 3 then some (0, picture)
    else none
  | _ => none

end Shape

/-- What stands behind a character: a shape, and the selectors in front of that shape. -/
structure Behind where
  shape : Shape
  /-- A selector asks for a picture. -/
  asPicture : Bool := false
  /-- A selector asks for plain text. -/
  asText : Bool := false
  /-- A selector asks for a wide quote. -/
  asQuote : Bool := false
  deriving DecidableEq, Repr

namespace Behind

def bare (shape : Shape) : Behind :=
  ⟨shape, false, false, false⟩

/-- A shape that does not melt is forgotten behind a selector that bears on nothing. -/
def keepMelting (behind : Behind) : Behind :=
  if behind.shape.melts then behind else bare .plain

def isBare (behind : Behind) : Bool :=
  !behind.asPicture && !behind.asText && !behind.asQuote

/-- What stands behind the character before a selector. A selector is seen by the character right
before it; a letter that melts is still seen through it. -/
def select? (behind : Behind) (c : Char) : Option Behind :=
  if c.toNat == 0xFE0F then
    some { (if behind.shape.isJoined then behind else behind.keepMelting) with asPicture := true }
  else if c.toNat == 0xFE0E then some { behind.keepMelting with asText := true }
  else if c.toNat == 0xFE01 then some { behind.keepMelting with asQuote := true }
  else none

end Behind

def stepBare (c : Char) (shape : Shape) : Int × Behind :=
  match (shape.pass? c).map ((0 : Int), ·) <|> shape.melt? c <|> shape.compose? c with
  | some (columns, shape) => (columns, .bare shape)
  | none => (Width.ofChar c, .bare (.ofChar c))

/-- The columns that a character adds before what stands behind it, unless a picture is asked for. A
selector that does not bear on the character is dropped; behind a melting letter with two of them
one is left, and only a character that the letter looks through keeps it. -/
def stepUnpictured (c : Char) (behind : Behind) : Int × Behind :=
  if c.toNat ≤ 0xA0 then
    (if c == '\r' && behind == .bare .lineFeed then 0 else 1, .bare (.ofChar c))
  else match behind.select? c with
  | some behind => (0, behind)
  | none =>
    if behind.asText && isTextable c then (1, .bare .plain)
    else if behind.asText && behind.asQuote then
      match behind.shape.pass? c with
      | some shape => (0, ⟨shape, false, false, true⟩)
      | none => (Width.ofChar c, .bare (.ofChar c))
    else if behind.asQuote && isCurvedQuote c then (2, .bare .plain)
    else stepBare c (if behind.isBare then behind.shape else behind.keepMelting.shape)

def step (c : Char) (behind : Behind) : Int × Behind :=
  if behind.asPicture then
    if isSelectable c then (if behind.shape.isJoined then 0 else 2, .bare .picture)
    else stepUnpictured c { behind.keepMelting with asPicture := false }
  else stepUnpictured c behind

/-- The columns of a text, and what it presents to a character in front of it. -/
def measure (cs : List Char) : Int × Behind :=
  cs.foldr (fun c after => let here := step c after.2; (here.1 + after.1, here.2)) (0, .bare .plain)

def width (s : String) : Nat :=
  (measure s.toList).1.toNat

theorem step_ascii {c : Char} (lo : 0x20 ≤ c.toNat) (hi : c.toNat < 0x80) :
    step c (.bare .plain) = (1, .bare .plain) := by
  have h : c.toNat ≤ 0xA0 := by omega
  have h2 : c.toNat ≠ 0x0A := by omega
  simp [step, stepUnpictured, Behind.bare, Shape.ofChar, h, h2]

theorem measure_ascii (cs : List Char) (h : ∀ c ∈ cs, 0x20 ≤ c.toNat ∧ c.toNat < 0x80) :
    measure cs = ((cs.length : Int), .bare .plain) := by
  induction cs with
  | nil => rfl
  | cons c rest ih =>
    have hc := h c List.mem_cons_self
    have ih := ih fun d hd => h d (List.mem_cons_of_mem c hd)
    simp only [measure, List.foldr_cons] at ih ⊢
    simp only [ih, step_ascii hc.1 hc.2, List.length_cons]
    congr 1
    omega

end Scaffold.Text.Columns
