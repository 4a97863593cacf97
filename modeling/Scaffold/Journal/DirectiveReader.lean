import Scaffold.Journal.Directive
import Scaffold.Text.PatternReader
import Scaffold.Text.Pieces

/-! Reading directives. A directive is written `topic[scope{field=value}]=level`, and every part but
one may be missing. Without a topic it is for all events, without a level it lets every level
through, and a single word is a level if there is one of that name and a topic otherwise. A comma
ends it.

Blanks at both ends are passed over when the parts are looked for. The places of the parts are then
counted from the first character that is no blank, while the parts are cut from the text with its
blanks. A directive behind blanks is hence read with all its parts moved back. -/

namespace Scaffold.Journal.DirectiveReader
open Text

/-! ## Values of fields -/

def isExponent : List Char → Bool
  | [] => true
  | c :: rest =>
    let digits := match rest with
      | '+' :: digits => digits
      | '-' :: digits => digits
      | digits => digits
    (c == 'e' || c == 'E') && !digits.isEmpty && digits.all Char.isDigit

/-- A decimal with a digit on one side of its point at least. -/
def isDecimal (cs : List Char) : Bool :=
  let whole := cs.takeWhile Char.isDigit
  match cs.dropWhile Char.isDigit with
  | '.' :: rest =>
    !(whole.isEmpty && (rest.takeWhile Char.isDigit).isEmpty) &&
      isExponent (rest.dropWhile Char.isDigit)
  | rest => !whole.isEmpty && isExponent rest

def numberWords : List String := ["inf", "infinity", "nan"]

def isNumber (text : String) : Bool :=
  let unsigned := match text.toList with
    | '+' :: rest => rest
    | '-' :: rest => rest
    | cs => cs
  isDecimal unsigned || numberWords.contains (String.ofList (unsigned.map Char.toLower))

/-- What a value is tested for: a constant as such, anything else as a pattern. -/
def valueTest? (text : String) : Option ValueTest :=
  if text == "true" || text == "false" || isNumber text then some .constant
  else (Pattern.read? text).map (.pattern text)

/-- A name, perhaps with an equals sign and a value behind it. What follows a further sign does not
count. -/
def fieldTest? (text : String) : Option FieldTest :=
  if text.isEmpty then none
  else match Pieces.split '=' text with
    | [] => none
    | [name] => some ⟨name, none⟩
    | name :: value :: _ => (valueTest? value).map fun test => ⟨name, some test⟩

/-! ## Parts -/

def dropBytes : Nat → List Char → List Char
  | _, [] => []
  | n, c :: rest => if n = 0 then c :: rest else dropBytes (n - c.utf8Size) rest

/-- The first characters of a text, up to a number of bytes. -/
def takeBytes : Nat → List Char → List Char
  | _, [] => []
  | n, c :: rest => if n = 0 then [] else c :: takeBytes (n - c.utf8Size) rest

theorem takeBytes_append_dropBytes (n : Nat) (cs : List Char) :
    takeBytes n cs ++ dropBytes n cs = cs := by
  induction cs generalizing n with
  | nil => simp [takeBytes, dropBytes]
  | cons c rest ih =>
    simp only [takeBytes, dropBytes]
    split
    · rfl
    · rw [List.cons_append, ih]

def cut (text : List Char) (first last : Nat) : String :=
  String.ofList (takeBytes (last - first) (dropBytes first text))

def tail (text : List Char) (first : Nat) : String :=
  String.ofList (dropBytes first text)

/-- A part that is being read, with the place of its first character. -/
inductive Stage
  | start
  | word (first : Nat)
  | scope (first : Nat)
  | field (first : Nat)
  | fields
  | closed
  | level (first : Nat)
  | complete
  deriving DecidableEq, Repr

def startsTopic (c : Char) : Bool :=
  Letters.isAlphanumeric c || c == '-' || c == ':' || c == '_'

def level? (text : String) : Option Level :=
  if text.isEmpty then some .trace else Level.ofName? text

def withWord (d : Directive) (word : String) : Directive :=
  match Level.ofName? word with
  | some level => { d with level := level, topic? := none }
  | none => { d with level := .trace, topic? := some word }

structure Progress where
  stage : Stage := .start
  directive : Directive := { level := .trace }

def withField? (d : Directive) (text : String) (stage : Stage) : Option Progress :=
  (fieldTest? text).map fun f => ⟨stage, { d with fields := d.fields ++ [f] }⟩

def step? (text : List Char) (s : Progress) (place : Nat) (c : Char) : Option Progress :=
  let d := s.directive
  match s.stage with
  | .start =>
    if c == '[' then some ⟨.scope (place + 1), d⟩
    else if startsTopic c then some ⟨.word place, d⟩
    else none
  | .word first =>
    if c == '=' then some ⟨.level (place + 1), { d with topic? := some (cut text first place) }⟩
    else if c == '[' then
      some ⟨.scope (place + 1), { d with topic? := some (cut text first place) }⟩
    else if c == ',' then some ⟨.complete, withWord d (tail text first)⟩
    else some s
  | .scope first =>
    if c == ']' then some ⟨.closed, { d with scope? := some (cut text first place) }⟩
    else if c == '\x7b' then
      let name := cut text first place
      some ⟨.field (place + 1), { d with scope? := if name.isEmpty then none else some name }⟩
    else some s
  | .field first =>
    if c == '\x7d' then withField? d (cut text first place) .fields
    else if c == ',' then withField? d (cut text first place) (.field (place + 1))
    else some s
  | .fields => if c == ']' then some ⟨.closed, d⟩ else none
  | .closed => if c == '=' then some ⟨.level (place + 1), d⟩ else none
  | .level first =>
    if c == ',' then (level? (cut text first place)).map fun level => ⟨.complete, { d with level }⟩
    else some s
  | .complete => none

def steps? (text : List Char) : Progress → Nat → List Char → Option Progress
  | s, _, [] => some s
  | s, place, c :: rest =>
    (step? text s place c).bind fun s => steps? text s (place + c.utf8Size) rest

def finish? (text : List Char) (s : Progress) : Option Directive :=
  match s.stage with
  | .word first => some (withWord s.directive (tail text first))
  | .level first => (level? (tail text first)).map fun level => { s.directive with level }
  | .closed => some s.directive
  | .complete => some s.directive
  | .start => none
  | .scope _ => none
  | .field _ => none
  | .fields => none

end DirectiveReader

namespace Directive

def read? (text : String) : Option Directive :=
  let cs := text.toList
  (DirectiveReader.steps? cs {} 0 (Text.Blank.trimChars cs)).bind (DirectiveReader.finish? cs)

/-- The directive for one topic, in the words of settings. -/
def ofSetting? (topic level : String) : Option Directive :=
  read? (topic ++ "=" ++ level)

end Directive
end Scaffold.Journal
