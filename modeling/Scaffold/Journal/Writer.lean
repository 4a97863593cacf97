import Scaffold.Journal.Filter

/-! Where events are written and how. Settings name the format and the place; variables of the
environment come first. A log file is made with the directories above it before anything is
written. -/

namespace Scaffold.Journal
open Settings Files

inductive Format
  | text
  | json
  deriving DecidableEq, Repr

inductive Place
  | output
  | errors
  | file (path : Path)
  deriving DecidableEq, Repr

structure Writer where
  filter : Filter
  format : Format
  place : Place
  /-- The words for the filter that were passed over. -/
  ignored : List String := []
  deriving DecidableEq, Repr

def Format.name : Format → String
  | text => "text"
  | json => "json"

namespace Writer

def formatVariable : String := "DATAGEN_LOG_FORMAT"

def placeVariable : String := "DATAGEN_LOG_OUTPUT"

def formatOf (name : String) : Except SettingsFault Format :=
  if name == "text" then .ok .text
  else if name == "json" then .ok .json
  else .error (.logFormat name)

def placeOf (file : Path) (name : String) : Except SettingsFault Place :=
  if name == "stdout" then .ok .output
  else if name == "stderr" then .ok .errors
  else if name == "file" then .ok (.file file)
  else .error (.logOutput name)

def choose (env : Environment) (settings : Settings.Logging) : Except SettingsFault Writer := do
  let choice ← Filter.choose env settings
  let format ← formatOf ((env.lookup formatVariable).getD settings.format)
  let place ← placeOf settings.file ((env.lookup placeVariable).getD settings.output)
  return ⟨choice.filter, format, place, choice.ignored⟩

def openFile (files : FileTree) (path : Path) : Except Failure Unit × FileTree :=
  let above : Except Failure Unit × FileTree := match path.parent?.filter (!·.isEmpty) with
    | none => (.ok (), files)
    | some parent =>
      match files.makeDirectoryPath parent with
      | (.ok (), files) => (.ok (), files)
      | (.error e, files) => (.error (.file parent e), files)
  match above with
  | (.error e, files) => (.error e, files)
  | (.ok (), files) =>
    match files.openForAppending path with
    | .ok files => (.ok (), files)
    | .error e => (.error (.file path e), files)

def start (w : Writer) (files : FileTree) : Except Failure Unit × FileTree :=
  match w.place with
  | .output => (.ok (), files)
  | .errors => (.ok (), files)
  | .file path => openFile files path

end Writer
end Scaffold.Journal
