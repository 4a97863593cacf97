/-! Sets of characters, as the notation of patterns builds them: from ranges by union, by the
operations on two sets, and by taking letters of ASCII in either case. -/

namespace Scaffold.Text

inductive CharSet
  | none
  | any
  | range (first last : Nat)
  | union (a b : CharSet)
  | both (a b : CharSet)
  | except (a b : CharSet)
  /-- The characters that are in one of two sets but not in both. -/
  | apart (a b : CharSet)
  | negated (a : CharSet)
  /-- The characters that are in the set themselves or, if they are letters of ASCII, in the other
  case. -/
  | folded (a : CharSet)
  deriving DecidableEq, Repr

namespace CharSet

def single (c : Char) : CharSet :=
  range c.toNat c.toNat

def ofParts : List CharSet → CharSet
  | [] => none
  | [a] => a
  | a :: rest => union a (ofParts rest)

def contains : CharSet → Char → Bool
  | none, _ => false
  | any, _ => true
  | range first last, c => first ≤ c.toNat && c.toNat ≤ last
  | union a b, c => a.contains c || b.contains c
  | both a b, c => a.contains c && b.contains c
  | except a b, c => a.contains c && !b.contains c
  | apart a b, c => a.contains c != b.contains c
  | negated a, c => !a.contains c
  | folded a, c => a.contains c || a.contains c.toLower || a.contains c.toUpper

@[simp] theorem contains_single (c d : Char) : (single c).contains d = (c.toNat == d.toNat) := by
  simp only [single, contains]
  rw [Bool.eq_iff_iff]
  simp
  omega

theorem contains_ofParts (parts : List CharSet) (c : Char) :
    (ofParts parts).contains c = parts.any (·.contains c) := by
  induction parts with
  | nil => rfl
  | cons a rest ih =>
    cases rest with
    | nil => simp [ofParts]
    | cons b rest => simp only [ofParts, contains, ih, List.any_cons]

/-! ## Sets of ASCII -/

def ascii : CharSet := range 0x00 0x7F

def digits : CharSet := range 0x30 0x39

def capitals : CharSet := range 0x41 0x5A

def smalls : CharSet := range 0x61 0x7A

def alphanumerics : CharSet := union digits (union capitals smalls)

def wordChars : CharSet := union alphanumerics (single '_')

def blanks : CharSet := union (range 0x09 0x0D) (single ' ')

end CharSet
end Scaffold.Text
