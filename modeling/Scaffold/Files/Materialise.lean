import Scaffold.Files.FileTree

/-! Bringing paths into being for generated output. Directories are made when they are missing and a
file is rewritten from its beginning; a path that exists with the wrong kind is a failure, and so is
everything else that the file system refuses. -/

namespace Scaffold.Files.FileTree

def ensureDirectory (t : FileTree) (p : Path) : Except Failure Unit × FileTree :=
  match t.status p with
  | .ok .directory => (.ok (), t)
  | .ok (.file _) => (.error (.notADirectory p), t)
  | .error .notFound =>
    match t.makeDirectoryPath p with
    | (.ok (), t) => (.ok (), t)
    | (.error e, t) => (.error (.file p e), t)
  | .error e => (.error (.file p e), t)

/-- Refuses a path that exists and cannot be written as a file. -/
def checkFile (t : FileTree) (p : Path) : Except Failure Unit :=
  match t.status p with
  | .ok .directory => .error (.notAFile p)
  | .ok (.file _) => .ok ()
  | .error .notFound => .ok ()
  | .error e => .error (.file p e)

/-- Sees to it that the directory of a path exists and that the path is no directory. -/
def prepareFile (t : FileTree) (p : Path) : Except Failure Unit × FileTree :=
  match p.parent?.filter (!·.isEmpty) with
  | none => (t.checkFile p, t)
  | some parent =>
    match t.ensureDirectory parent with
    | (.error e, t) => (.error e, t)
    | (.ok (), t) => (t.checkFile p, t)

def writeFile (t : FileTree) (p : Path) (content : String) : Except Failure Unit × FileTree :=
  match t.prepareFile p with
  | (.error e, t) => (.error e, t)
  | (.ok (), t) =>
    match t.write p content.toUTF8 with
    | .ok t => (.ok (), t)
    | .error e => (.error (.file p e), t)

end Scaffold.Files.FileTree
