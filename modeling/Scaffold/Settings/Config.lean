import Scaffold.Files.FileTree
import Scaffold.Settings.Layer
import Scaffold.Settings.Logging
import Scaffold.Settings.Output
import Scaffold.Settings.Stamp
import Scaffold.Toml.Reader
import Scaffold.Toml.Record

/-! Loading settings. The layers are, from the lowest: built-in values, the settings file of the
workspace, the file of the environment named by a variable, a file given by the caller, and
variables of the environment. The first two files may be missing; the one given by the caller must
be there. -/

namespace Scaffold.Settings
open Files Toml

abbrev Environment := List (String × String)

structure Config where
  output : Output := {}
  logging : Logging := {}
  deriving DecidableEq, Inhabited

namespace Config

/-! ## Reading settings -/

/-- Every single value can be had as a text. -/
def text? : Value → Option String
  | .text s => some s
  | .integer n => some (toString n)
  | .real x => some x.text
  | .boolean b => some (toString b)
  | .moment m => some m.show
  | .list _ => none
  | .table _ => none

def flagWord? (word : String) : Option Bool :=
  if ["1", "true", "on", "yes"].contains word then some true
  else if ["0", "false", "off", "no"].contains word then some false
  else none

/-- Numbers other than zero and some words count as true. -/
def flag? : Value → Option Bool
  | .boolean b => some b
  | .integer n => some (n != 0)
  | .real x => some x.isNonzero
  | .text s => flagWord? (Text.Casing.toSmall s)
  | .moment _ => none
  | .list _ => none
  | .table _ => none

def path? (v : Value) : Option Path :=
  (text? v).map Path.mk

def modules? : Value → Option (SortedMap String)
  | .table fields => (fields.mapM fun f => (text? f.2).map fun s => (f.1, s)).map SortedMap.ofList
  | _ => none

open Record in
def output? (v : Value) : Option Output := do
  let d : Output := {}
  let [root, fileSuffix, indexFile, header] ←
    read? ⟨[["root"], ["file_suffix"], ["index_file"], ["header"]], false⟩ v | none
  return ⟨← given path? d.root root, ← given text? d.fileSuffix fileSuffix,
    ← given text? d.indexFile indexFile, ← given text? d.header header⟩

open Record in
def logging? (v : Value) : Option Logging := do
  let d : Logging := {}
  let [level, format, output, file, color, modules] ←
    read? ⟨[["level"], ["format"], ["output"], ["file"], ["color"], ["modules"]], false⟩ v | none
  return ⟨← given text? d.level level, ← given text? d.format format, ← given text? d.output output,
    ← given path? d.file file, ← given flag? d.color color, ← given modules? d.modules modules⟩

open Record in
def ofValue? (v : Value) : Option Config := do
  let [output, logging] ← read? ⟨[["output"], ["logging"]], false⟩ v | none
  return ⟨← given output? {} output, ← given logging? {} logging⟩

/-- The settings of layers, refused when no run could use them. -/
def ofLayers (layers : List Layer) : Except SettingsFault Config :=
  match ofValue? (Layer.merge layers) with
  | none => .error .unreadable
  | some c =>
    match c.output.check with
    | .error fault => .error (.output fault)
    | .ok () => .ok c

/-! ## Sources -/

def builtIn : Layer :=
  let d : Output := {}
  [("output.root", .text d.root.text), ("output.file_suffix", .text d.fileSuffix),
    ("output.index_file", .text d.indexFile), ("output.header", .text d.header)]

def workspaceFile : String := "datagen.toml"

def environmentVariable : String := "DATAGEN_ENV"

/-- What the names of variables with settings start with, capitals aside. -/
def variableLead : String := "datagen__"

structure Source where
  path : Path
  required : Bool
  deriving DecidableEq, Repr

/-- The path with an extension added to its last name, if it ends in a name. -/
def withExtension? (path : Path) : Option Path :=
  match Path.dropIdle path.pieces.reverse with
  | [] => none
  | last :: before =>
    if last == "" || last == "." || last == ".." then none
    else some ⟨"/".intercalate ((last ++ ".toml") :: before).reverse⟩

/-- The file that a source stands for: the path itself, or else the path with an extension. -/
def locate? (files : FileTree) (path : Path) : Option Path :=
  if files.isFile path then some path else (withExtension? path).filter files.isFile

/-- The layer in a file. A file that is not required counts as empty when it cannot be read. -/
def readSource (files : FileTree) (source : Source) : Except SettingsFault Layer :=
  match locate? files source.path with
  | none => if source.required then .error (.unusableFile source.path) else .ok []
  | some path =>
    match files.readText path with
    | .error _ => if source.required then .error .unreadable else .ok []
    | .ok text =>
      match (Toml.read? text).bind Stamp.fields? with
      | some layer => .ok layer
      | none => .error .unreadable

def workspaceSources (files : FileTree) (env : Environment) (workspace : Path) : List Source :=
  let named := (env.lookup environmentVariable).map fun name =>
    (workspace.join "config").join (name ++ ".toml")
  ((workspace.join workspaceFile :: named.toList).filter files.exists?).map
    fun path => ⟨path, false⟩

def explicitSource (files : FileTree) (path : Path) : Except SettingsFault Source :=
  if files.exists? path then .ok ⟨path, true⟩ else .error (.absentFile path)

def explicitSources (files : FileTree) (explicit? : Option Path) :
    Except SettingsFault (List Source) :=
  match explicit? with
  | none => .ok []
  | some path => (explicitSource files path).map fun source => [source]

/-- A name in which two underscores stand for a point. -/
def pointed : List Char → List Char
  | '_' :: '_' :: rest => '.' :: pointed rest
  | c :: rest => c :: pointed rest
  | [] => []

/-- The setting that a variable gives. Two underscores in its name separate the parts of a path. -/
def setting? (v : String × String) : Option (String × Value) :=
  let name := Text.Casing.toSmall v.1
  if name.startsWith variableLead then
    some (String.ofList (pointed (name.toList.drop variableLead.length)), .text v.2)
  else none

def environmentLayer (env : Environment) : Layer :=
  env.filterMap setting?

def sources (files : FileTree) (env : Environment) (workspace : Path) (explicit? : Option Path) :
    Except SettingsFault (List Source) :=
  (explicitSources files explicit?).map fun given =>
    workspaceSources files env workspace ++ given

def layers (files : FileTree) (env : Environment) (workspace : Path) (explicit? : Option Path) :
    Except SettingsFault (List Layer) := do
  let found ← sources files env workspace explicit?
  let read ← found.mapM (readSource files)
  return builtIn :: read ++ [environmentLayer env]

def load (files : FileTree) (env : Environment) (workspace : Path) (explicit? : Option Path) :
    Except SettingsFault Config := do
  let found ← layers files env workspace explicit?
  ofLayers found

/-- Loads the settings in one file, whatever the workspace and the environment hold. -/
def loadFile (files : FileTree) (path : Path) : Except SettingsFault Config := do
  let source ← explicitSource files path
  let layer ← readSource files source
  ofLayers [builtIn, layer]

end Config
end Scaffold.Settings
