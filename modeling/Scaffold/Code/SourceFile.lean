import Scaffold.Files.Materialise
import Scaffold.SortedMap

/-! One generated source file while file rules fill it: an optional header line, the module it
belongs to, the set of paths it uses, and its items. -/

namespace Scaffold.Code

structure SourceFile where
  module : String
  header? : Option String := none
  uses : SortedMap Unit := .empty
  items : List String := []
  deriving DecidableEq

namespace SourceFile

instance : Inhabited SourceFile := ⟨⟨"", none, .empty, []⟩⟩

def setHeader (f : SourceFile) (header : String) : SourceFile :=
  { f with header? := some header }

/-- Adds a used path; a path is used once however often it is added. -/
def use (f : SourceFile) (path : String) : SourceFile :=
  { f with uses := f.uses.insert path () }

def add (f : SourceFile) (item : String) : SourceFile :=
  { f with items := f.items ++ [item] }

def imports (f : SourceFile) : List String :=
  f.uses.keys

def renderImports (imports : List String) : String :=
  if imports.isEmpty then ""
  else "\n" ++ String.join (imports.map fun path => "use " ++ path ++ ";\n")

/-- The text of the file: header, module line, used paths, and the items with a blank line before
each. -/
def render (f : SourceFile) : String :=
  (match f.header? with
    | some header => header ++ "\n"
    | none => "")
    ++ "// module: " ++ f.module ++ "\n"
    ++ renderImports f.imports
    ++ String.join (f.items.map fun item => "\n" ++ item ++ "\n")

def writeTo (f : SourceFile) (tree : Files.FileTree) (path : Path) :
    Except Failure Unit × Files.FileTree :=
  tree.writeFile path f.render

end SourceFile
end Scaffold.Code
