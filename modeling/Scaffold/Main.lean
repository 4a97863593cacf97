import Scaffold.CommandLine.Footprint
import Scaffold.Files.Listing
import Scaffold.Journal.Line
import Std.Time.DateTime.Timestamp

/-! The program. It looks at the files in the footprint of the run, lets the run be computed, and
brings the files, the streams and the status into the state that the outcome describes. The working
directory is the root of the files that a run sees. -/

namespace Scaffold
open Files Settings Journal CommandLine

/-- The variables in a block of entries that end with a zero byte. -/
def variablesIn (block : ByteArray) : Environment :=
  (Text.Pieces.split (Char.ofNat 0) (decode block)).filterMap fun entry =>
    match entry.toList.span (· != '=') with
    | (_, []) => none
    | (name, _ :: value) => some (String.ofList name, String.ofList value)

def readEnvironment : IO Environment := do
  try return variablesIn (← IO.FS.readBinFile "/proc/self/environ")
  catch _ => return []

def readNode (path : Path) : IO (Option Node) := do
  try return some (.file (← IO.FS.readBinFile path.text))
  catch
    | .inappropriateType .. => return some .directory
    | _ => return none

def survey (known : FileTree) (paths : List Path) : IO FileTree :=
  (paths.flatMap Footprint.approaches).foldlM (fun files path => do
    match ← readNode path with
    | some .directory => return files.furnish path none
    | some (.file content) => return files.furnish path (some content)
    | none => return files) known

def realise (entry : Location × Node) : IO Unit :=
  match entry.2 with
  | .directory => IO.FS.createDirAll (FileTree.pathOf entry.1)
  | .file content => IO.FS.writeBinFile (FileTree.pathOf entry.1) content

def writeEvents (writer : Writer) (events : List Event) : IO Unit := do
  let now ← Std.Time.Timestamp.now
  let lines := events.map fun e =>
    e.line writer.format now.toNanosecondsSinceUnixEpoch.val.toNat ++ "\n"
  match writer.place with
  | .output => lines.forM IO.print
  | .errors => lines.forM IO.eprint
  | .file path =>
    let handle ← IO.FS.Handle.mk path.text .append
    lines.forM handle.putStr

def runProgram (ws : List String) : IO UInt32 := do
  let env ← readEnvironment
  let first ← survey .empty (Footprint.of .empty env ws)
  let files ← survey first (Footprint.of first env ws)
  let outcome := Outcome.of files env ws
  (Footprint.changes files outcome.files).forM realise
  match outcome.journal? with
  | some (writer, events) => writeEvents writer events
  | none => pure ()
  outcome.errors.forM fun line => IO.eprintln line
  if outcome.status == 0 then IO.println outcome.output
  return outcome.status.toUInt32

end Scaffold

def main (args : List String) : IO UInt32 :=
  Scaffold.runProgram args
