import Scaffold.CommandLine.Scan

/-! Invocations: what a command line asks for. Words before the command belong to the program and
words after it to the command, whose mistakes are reported first. -/

namespace Scaffold.CommandLine

inductive Command
  | generate (model : Path) (out? : Option Path)
  | inspect (model : Path) (format : String)
  deriving DecidableEq, Repr

structure Invocation where
  command : Command
  workspace : Path := "."
  config? : Option Path := none
  verbose : Bool := false
  logLevel? : Option String := none
  logFormat? : Option String := none
  logOutput? : Option String := none
  logFile? : Option Path := none
  deriving DecidableEq, Repr

def Command.topic : Command → Topic
  | generate .. => .generate
  | inspect .. => .inspect

def Command.name (c : Command) : String :=
  c.topic.word

def Command.model : Command → Path
  | generate model _ => model
  | inspect model _ => model

def Scan.valueOr? (s : Scan) (t : Topic) (name : String) : Option String :=
  s.value? name <|> (t.switch? name).bind (·.initial?)

def Scan.path? (s : Scan) (name : String) : Option Path :=
  (s.value? name).map Path.mk

namespace Invocation

def scanAfter (t : Topic) (ws : List String) : Except UsageFault Scan := do
  let (s, _) ← Scan.words t {} ws
  s.settle

def modelOf (s : Scan) : Except UsageFault Path :=
  match s.path? "model" with
  | some path => .ok path
  | none => .error (.missingSwitch "model")

/-- What help is asked for: words name commands from the whole program on. -/
def helpOn : Topic → List String → UsageFault
  | t, [] => .help t
  | t, w :: rest =>
    match t.command? w with
    | some command => helpOn command rest
    | none => .unknownCommand w

def readCommand (command : Topic) (ws : List String) : Except UsageFault Command :=
  match command with
  | .generate => do
    let s ← scanAfter .generate ws
    return .generate (← modelOf s) (s.path? "out")
  | .inspect => do
    let s ← scanAfter .inspect ws
    return .inspect (← modelOf s) ((s.valueOr? .inspect "format").getD "")
  | .whole | .help => .error (helpOn .whole ws)

def read (ws : List String) : Except UsageFault Invocation := do
  let (s, command?) ← Scan.words .whole {} ws
  match command? with
  | some (topic, rest) =>
    let command ← readCommand topic rest
    let s ← s.settle
    return {
      command := command
      workspace := ⟨(s.valueOr? .whole "workspace").getD ""⟩
      config? := s.path? "config"
      verbose := (s.value? "verbose").isSome
      logLevel? := s.value? "log-level"
      logFormat? := s.value? "log-format"
      logOutput? := s.value? "log-output"
      logFile? := s.path? "log-file" }
  | none =>
    let s ← s.settle
    .error (if s.given.isEmpty then .nothingGiven else .missingCommand)

end Invocation
end Scaffold.CommandLine
