import Scaffold.Journal.Writer
import Scaffold.Text.Json
import Scaffold.Toml.Value

/-! The lines that events are written in. A line starts with the time, in Coordinated Universal
Time, and has the level, the scope, the topic and the message of the event. -/

namespace Scaffold.Journal

/-- Days from the first of March of the year zero to the first of January 1970. -/
def epoch : Nat := 719468

/-- The date on which a number of days since 1970 have passed. Years are counted from the first of
March, and four hundred of them have the same number of days whatever year they start with. -/
def dateOf (days : Nat) : Toml.Date :=
  let shifted := days + epoch
  let era := shifted / 146097
  let day := shifted % 146097
  let year := (day - day / 1460 + day / 36524 - day / 146096) / 365
  let dayOfYear := day - (365 * year + year / 4 - year / 100)
  let month := (5 * dayOfYear + 2) / 153
  let calendarMonth := if month < 10 then month + 3 else month - 9
  { year := era * 400 + year + if calendarMonth ≤ 2 then 1 else 0
    month := calendarMonth
    day := dayOfYear - (153 * month + 2) / 5 + 1 }

def timeOf (secondOfDay nanosecond : Nat) : Toml.Time where
  hour := secondOfDay / 3600
  minute := secondOfDay / 60 % 60
  second := secondOfDay % 60
  nanosecond := nanosecond

def momentOf (nanoseconds : Nat) : Toml.Moment :=
  let seconds := nanoseconds / 1000000000
  { date? := some (dateOf (seconds / 86400))
    time? := some (timeOf (seconds % 86400) (nanoseconds % 1000000000))
    offset? := some (.minutes 0) }

namespace Event

def shownLevel (e : Event) : String :=
  String.ofList (e.level.name.toList.map Char.toUpper)

def textLine (e : Event) (time : String) : String :=
  let level := e.shownLevel
  let scope := match e.scope? with
    | some scope => scope.name ++ ": "
    | none => ""
  time ++ " " ++ String.ofList (List.replicate (5 - level.length) ' ') ++ level ++ " " ++ scope
    ++ e.topic ++ ": " ++ e.message

def compactObject (members : List (String × String)) : String :=
  "\x7b" ++ ",".intercalate (members.map fun m => Text.Json.quoted m.1 ++ ":" ++ m.2) ++ "\x7d"

def jsonLine (e : Event) (time : String) : String :=
  compactObject ([("timestamp", Text.Json.quoted time), ("level", Text.Json.quoted e.shownLevel),
      ("fields", compactObject [("message", Text.Json.quoted e.message)]),
      ("target", Text.Json.quoted e.topic)] ++
    match e.scope? with
    | some scope => [("span", compactObject [("name", Text.Json.quoted scope.name)])]
    | none => [])

def line (e : Event) (format : Format) (nanoseconds : Nat) : String :=
  match format with
  | .text => e.textLine (momentOf nanoseconds).show
  | .json => e.jsonLine (momentOf nanoseconds).show

end Event

example : (momentOf 1709251199000000005).show = "2024-02-29T23:59:59.000000005+00:00" := by
  decide +kernel

end Scaffold.Journal
