import Scaffold.Inflector
import Scaffold.Parts

/-! The files of a storage directory: one for each entity in order, and the index behind them. Two
files of one name would overwrite each other, so their names are checked before anything is
written. -/

namespace Scaffold.StorageDirectory
open Model

def fileName (d : StorageDirectory) (inflector : Inflector) (e : Entity) : String :=
  inflector.snake e.name ++ d.fileSuffix

def plannedFiles (d : StorageDirectory) (inflector : Inflector) : List String :=
  d.entities.map (d.fileName inflector) ++ if d.generateIndex then [d.indexFile] else []

/-- Looks for a file name that is taken, given the names taken so far and what took them. -/
def checkEntities (d : StorageDirectory) (inflector : Inflector) :
    List (String × String) → List Entity → Except ModelFault Unit
  | _, [] => .ok ()
  | taken, e :: rest =>
    let file := d.fileName inflector e
    let owner := "entity " ++ e.name
    match taken.lookup file with
    | some earlier => .error (.sharedFile earlier owner file)
    | none => checkEntities d inflector (taken ++ [(file, owner)]) rest

/-- Refuses a plan in which a file name is taken twice. The index takes its name first. -/
def checkFiles (d : StorageDirectory) (inflector : Inflector) : Except ModelFault Unit :=
  d.checkEntities inflector (if d.generateIndex then [(d.indexFile, "the index file")] else [])
    d.entities

end Scaffold.StorageDirectory
