/-! Lines of a text. A line ends at a line feed or at a carriage return and line feed; the line feed
that ends the text opens no further line, and a carriage return elsewhere belongs to its line. -/

namespace Scaffold.Text.Lines

/-- A line without the carriage return that its line feed takes along. -/
def withoutReturn (line : List Char) : List Char :=
  if line.getLast? = some '\r' then line.dropLast else line

/-- The lines of a text; `line` holds the characters of the open line, the last one first. -/
def linesAfter (line : List Char) : List Char → List (List Char)
  | [] => if line.isEmpty then [] else [line.reverse]
  | c :: rest =>
    if c == '\n' then withoutReturn line.reverse :: linesAfter [] rest
    else linesAfter (c :: line) rest

def split (cs : List Char) : List (List Char) :=
  linesAfter [] cs

def indentLine (width : Nat) (line : List Char) : List Char :=
  if line.isEmpty then [] else List.replicate width ' ' ++ line

def indentChars (width : Nat) (cs : List Char) : List Char :=
  ['\n'].intercalate ((split cs).map (indentLine width))

def indent (width : Nat) (block : String) : String :=
  String.ofList (indentChars width block.toList)

def join (texts : List String) : String :=
  "\n".intercalate texts

theorem toList_join (texts : List String) :
    (join texts).toList = ['\n'].intercalate (texts.map String.toList) := by
  simp [join, String.toList_intercalate]

end Scaffold.Text.Lines
