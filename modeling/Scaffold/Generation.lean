import Scaffold.Interface.Rules
import Scaffold.Model.Document
import Scaffold.Rules.Dispatch
import Scaffold.Settings.Output
import Scaffold.Storage.Capabilities

/-! A generation run: the interface file of a document and, if the document has a section for it,
the storage directory. Settings, references and file names are checked before anything is written,
and the report lists the files in the order of their writing. -/

namespace Scaffold
open Model Files Rules Settings

structure Report where
  entities : Nat
  interfaceFile : Path
  storageDirectory? : Option Path
  files : List Path
  deriving DecidableEq, Repr

def Report.text (r : Report) : String :=
  Text.Lines.join (("Generated " ++ toString r.files.length ++ " file(s) for "
    ++ toString r.entities ++ " entit" ++ (if r.entities = 1 then "y" else "ies") ++ ":")
    :: r.files.map fun path => "  " ++ path.text)

/-- The registries that a run dispatches through. -/
structure Generator where
  interfaces : Registry parts := Interface.registry
  storage : Registry parts := Storage.registry

namespace Generator

instance : Inhabited Generator := ⟨{}⟩

def log : String := "run"

structure Plan where
  interfaceFile : Path
  interfaces : InterfaceFile
  storage? : Option (Path × StorageDirectory)

def directoryOf (d : Document) (target : StorageSection) (output : Output)
    (entities : List Entity) : StorageDirectory where
  package := target.module
  interfaceModule := d.interfaces.modulePath
  generateIndex := target.generateIndex
  indexModule := target.indexModule
  fileSuffix := output.fileSuffix
  indexFile := output.indexFile
  header? := output.header?
  entities := entities

/-- Checks everything that can be checked without writing. -/
def plan (g : Generator) (d : Document) (output : Output) (root : Path) : Except Failure Plan := do
  output.check.mapError fun fault => .settings (.output fault)
  let entities ← d.resolve
  let storage? := d.storage?.map fun target =>
    (root.join target.path, directoryOf d target output entities)
  match storage? with
  | some (_, directory) => (directory.checkFiles g.storage.inflector).mapError Failure.model
  | none => pure ()
  return {
    interfaceFile := root.join d.interfaces.path
    interfaces := ⟨d.interfaces.module, output.header?, entities⟩
    storage? := storage? }

def write (g : Generator) (p : Plan) (w : World) : Except Failure Unit × World :=
  match (g.interfaces.recording log).emitFileAt (k := Part.interfaceFile) p.interfaceFile
      p.interfaces w with
  | (.error e, w) => (.error e, w)
  | (.ok (), w) =>
    match p.storage? with
    | none => (.ok (), w)
    | some (path, directory) =>
      (g.storage.recording log).emitDirectoryAt (k := Part.storageDirectory) path directory w

def run (g : Generator) (d : Document) (output : Output) (root : Path) (files : FileTree) :
    Except Failure Report × FileTree :=
  match g.plan d output root with
  | .error e => (.error e, files)
  | .ok p =>
    match g.write p { files := files } with
    | (.error e, w) => (.error e, w.files)
    | (.ok (), w) =>
      (.ok ⟨p.interfaces.entities.length, p.interfaceFile, p.storage?.map (·.1), w.logged log⟩,
        w.files)

end Generator
end Scaffold
