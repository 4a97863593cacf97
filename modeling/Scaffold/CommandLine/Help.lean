import Scaffold.CommandLine.Scan
import Scaffold.Text.Lines

/-! Help texts, and the complaints about command lines that are not run. Entries are written in two
columns, the second starting two spaces after the longest entry of the first. -/

namespace Scaffold.CommandLine
namespace Topic

def block (heading : String) (rows : List (String × String)) : List String :=
  let width := (rows.map fun row => row.1.length).foldl max 0
  "" :: (heading ++ ":") :: rows.map fun row =>
    "  " ++ row.1 ++ String.ofList (List.replicate (width - row.1.length + 2) ' ') ++ row.2

def valueName (s : Switch) : String :=
  String.ofList (s.name.toList.map fun c => if c == '-' then '_' else c.toUpper)

def written (s : Switch) : String :=
  "--" ++ s.name ++ if s.takes == .nothing then "" else " <" ++ valueName s ++ ">"

def row (s : Switch) : String × String :=
  ((if s == helpSwitch then "-h, " else "    ") ++ written s,
    s.about ++ match s.initial? with
      | some value => " [default: " ++ value ++ "]"
      | none => "")

def usage (t : Topic) : String :=
  let call := if t == .whole then t.word else Topic.whole.word ++ " " ++ t.word
  let required := t.switches.filter (·.required)
  "Usage: " ++ " ".intercalate ([call]
    ++ (if t.switches.isEmpty then [] else ["[OPTIONS]"])
    ++ required.map written
    ++ (if t == .whole then ["<COMMAND>"] else [])
    ++ (if t == .help then ["[COMMAND]..."] else []))

def helpText (t : Topic) : String :=
  Text.Lines.join ([t.about, "", t.usage]
    ++ (if t.commands.isEmpty then []
      else block "Commands" (t.commands.map fun c => (c.word, c.about)))
    ++ (if t == .help then
      block "Arguments" [("[COMMAND]...", "Print help for the subcommand(s)")] else [])
    ++ (if t.switches.isEmpty then [] else block "Options" (t.switches.map row)))

end Topic

def UsageFault.message : UsageFault → String
  | unknownArgument word => "unexpected argument '" ++ word ++ "' found"
  | unknownCommand word => "unrecognized subcommand '" ++ word ++ "'"
  | missingSwitch name => "the following required arguments were not provided: --" ++ name
  | missingCommand => "'" ++ Topic.programName ++ "' requires a subcommand but one was not provided"
  | missingValue name => "a value is required for '--" ++ name ++ "' but none was supplied"
  | givenTwice name => "the argument '--" ++ name ++ "' cannot be used multiple times"
  | unneededValue name => "unexpected value for '--" ++ name ++ "' found; no more were expected"
  | help topic => topic.helpText
  | nothingGiven => Topic.whole.helpText

end Scaffold.CommandLine
