import Scaffold.Text.Casing

/-! English plurals of identifiers. Irregular and uncountable nouns are found when they form the
last part of the identifier: the whole of it, the text after an underscore, or a capitalised part of
a camel-case name. Every other word takes a regular ending, chosen by the last letters of its small
form and written in capitals after a capital letter. Places in a word are counted in bytes. -/

namespace Scaffold.Text.Plural
open Letters

def uncountable : List String :=
  ["data", "equipment", "information", "metadata", "series", "species"]

def irregular : List (String × String) :=
  [("person", "people"), ("child", "children"), ("mouse", "mice"), ("goose", "geese"),
    ("datum", "data"), ("index", "indices")]

/-- Last letters that ask for an extra syllable. -/
def sibilants : List String :=
  ["s", "x", "z", "ch", "sh"]

def byteSize : List Char → Nat
  | [] => 0
  | c :: cs => c.utf8Size + byteSize cs

/-- Cuts a text at a place counted in bytes, unless the place is inside a character; `front` holds
the characters before the place, the last one first. -/
def cutAfter? (front : List Char) : Nat → List Char → Option (List Char × List Char)
  | 0, cs => some (front, cs)
  | _ + 1, [] => none
  | place + 1, c :: rest =>
    if c.utf8Size ≤ place + 1 then cutAfter? (c :: front) (place + 1 - c.utf8Size) rest else none

/-- Equality of texts up to the case of ASCII letters. -/
def sameLetters (a b : List Char) : Bool :=
  a.map Char.toLower == b.map Char.toLower

/-- Whether a part that starts with `first` may follow `previous` inside one identifier. -/
def startsPart : (previous first : Option Char) → Bool
  | none, _ => true
  | some _, none => false
  | some p, some c => p == '_' || (isCapital c && !isCapital p)

/-- Splits a word before its last part when that part is the given noun. -/
def endingWith? (noun word : List Char) : Option (List Char × List Char) :=
  if byteSize noun ≤ byteSize word then
    match cutAfter? [] (byteSize word - byteSize noun) word with
    | some (front, tail) =>
      if sameLetters tail noun && startsPart front.head? tail.head? then some (front.reverse, tail)
      else none
    | none => none
  else none

/-- The replacement with a capital first letter when the noun it replaces has one. -/
def matchCase (noun replacement : List Char) : List Char :=
  match noun, replacement with
  | n :: _, r :: rest => if isCapital n then r.toUpper :: rest else r :: rest
  | _, r => r

/-- Whether a text, read from its end, ends in a y after no vowel. -/
def isConsonantY : List Char → Bool
  | c :: rest =>
    c == 'y' && match rest with
      | d :: _ => !(['a', 'e', 'i', 'o', 'u'].contains d)
      | [] => true
  | [] => false

/-- Whether a text, read from its end, ends in letters that ask for an extra syllable. -/
def isSibilant (back : List Char) : Bool :=
  sibilants.any fun letters => letters.toList.reverse.isPrefixOf back

def ending (word : List Char) (letters : String) : List Char :=
  match word.getLast? with
  | some c => if isCapital c then letters.toList.map Char.toUpper else letters.toList
  | none => letters.toList

/-- The plural by the regular rules; a y gives way to the ending. -/
def regular (word : List Char) : List Char :=
  let back := (Casing.smallText word).reverse
  if isConsonantY back then word.dropLast ++ ending word "ies"
  else if isSibilant back then word ++ ending word "es"
  else word ++ ending word "s"

def isUncountable (word : List Char) : Bool :=
  uncountable.any fun noun => (endingWith? noun.toList word).isSome

def irregularPlural? (word : List Char) : Option (List Char) :=
  irregular.findSome? fun (noun, plural) =>
    (endingWith? noun.toList word).map fun (head, tail) => head ++ matchCase tail plural.toList

def pluralChars (word : List Char) : List Char :=
  if word.isEmpty then []
  else if isUncountable word then word
  else match irregularPlural? word with
    | some plural => plural
    | none => regular word

def plural (word : String) : String :=
  String.ofList (pluralChars word.toList)

end Scaffold.Text.Plural
