import Scaffold.Failure

/-! Settings for generated output: where it goes and how its files are named. -/

namespace Scaffold.Settings

structure Output where
  /-- The directory that the paths of a document are relative to. -/
  root : Path := "."
  /-- What follows the name of an entity in the name of its storage file. -/
  fileSuffix : String := "_gen.rs"
  indexFile : String := "index_gen.rs"
  /-- The first line of every file; empty for none. -/
  header : String := "// Code generated by datagen. DO NOT EDIT."
  deriving DecidableEq, Repr, Inhabited

namespace Output

def header? (s : Output) : Option String :=
  if s.header.isEmpty then none else some s.header

/-- The first reason for which no run can use the settings. -/
def check (s : Output) : Except OutputFault Unit :=
  if s.fileSuffix.isEmpty then .error .emptySuffix
  else if !s.indexFile.endsWith ".rs" then .error (.indexNotSource s.indexFile)
  else if s.indexFile.toList.any fun c => c == '/' || c == '\\' then
    .error (.indexNotFileName s.indexFile)
  else .ok ()

end Output
end Scaffold.Settings
