import Scaffold.Text.Pieces

/-! Paths as they are written. A path keeps its text: joining and taking the parent work on the text
and normalise nothing but the end that they cut. What a path denotes is for the file tree to say;
`steps` is the walk that it asks for. -/

namespace Scaffold

structure Path where
  text : String
  deriving DecidableEq, Repr, Inhabited

namespace Path

inductive Step
  | stay
  | up
  | child (name : String)
  deriving DecidableEq, Repr

instance : Coe String Path := ⟨Path.mk⟩

def isAbsolute (p : Path) : Bool :=
  p.text.toList.head? == some '/'

def isEmpty (p : Path) : Bool :=
  p.text.isEmpty

/-- The text of a path continued by another. An absolute continuation replaces the path. -/
def join (p : Path) (rest : String) : Path :=
  if Path.isAbsolute ⟨rest⟩ then ⟨rest⟩
  else if p.text.isEmpty || p.text.toList.getLast? == some '/' then ⟨p.text ++ rest⟩
  else ⟨p.text ++ "/" ++ rest⟩

def pieces (p : Path) : List String :=
  Text.Pieces.split '/' p.text

/-- Drops the pieces at the end of a reversed list that name nothing, but not the first piece of the
path. -/
def dropIdle : List String → List String
  | [] => []
  | [first] => [first]
  | last :: next :: before =>
    if last == "" || last == "." then dropIdle (next :: before) else last :: next :: before

/-- The path without its last component. The root and the empty path have no parent. -/
def parent? (p : Path) : Option Path :=
  match dropIdle p.pieces.reverse with
  | [] => none
  | [first] => if first == "" then none else some ⟨""⟩
  | _ :: before =>
    match dropIdle before with
    | [""] => some ⟨"/"⟩
    | kept => some ⟨"/".intercalate kept.reverse⟩

def stepOf (piece : String) : Step :=
  if piece == "" || piece == "." then .stay
  else if piece == ".." then .up
  else .child piece

/-- The walk that a path asks for; a slash at its end asks to stay in what came before. -/
def steps (p : Path) : List Step :=
  p.pieces.map stepOf

theorem join_absolute (p : Path) {rest : String} (h : Path.isAbsolute ⟨rest⟩ = true) :
    p.join rest = ⟨rest⟩ := by
  simp [join, h]

end Path
end Scaffold
