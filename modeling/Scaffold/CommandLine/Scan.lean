import Scaffold.CommandLine.Topic

/-! Scanning the words of a command line. A switch is written `--name`, its value is the next word
or follows an equals sign, and a lone `--` ends the switches. A value is taken into the scan when
the next switch begins or the words end, so that of several mistakes the one that is found first is
the one that is reported. Nothing is taken twice. -/

namespace Scaffold.CommandLine

/-- Why a command line is not run. The two calls for help are among the reasons. -/
inductive UsageFault
  | unknownArgument (word : String)
  | unknownCommand (word : String)
  | missingSwitch (name : String)
  | missingCommand
  | missingValue (name : String)
  | givenTwice (name : String)
  | unneededValue (name : String)
  | help (topic : Topic)
  | nothingGiven
  deriving DecidableEq, Repr

inductive Word
  | divider
  | long (name : String) (value? : Option String)
  | short (letter : Char)
  | plain
  deriving DecidableEq, Repr

/-- The form of a word. A lone dash is plain. -/
def Word.of (w : String) : Word :=
  match w.toList with
  | ['-', '-'] => .divider
  | '-' :: '-' :: rest =>
    match rest.span (· != '=') with
    | (name, []) => .long (String.ofList name) none
    | (name, _ :: value) => .long (String.ofList name) (some (String.ofList value))
  | '-' :: c :: _ => .short c
  | _ => .plain

structure Scan where
  given : List (String × String) := []
  /-- The switch given last, and its value if it has followed. -/
  pending? : Option (Switch × Option String) := none
  literal : Bool := false
  deriving DecidableEq, Repr

namespace Scan

def value? (s : Scan) (name : String) : Option String :=
  s.given.lookup name

def take (s : Scan) (switch : Switch) (value : String) : Except UsageFault Scan :=
  if (s.value? switch.name).isSome then .error (.givenTwice switch.name)
  else if switch.takes == .path && value.isEmpty then .error (.missingValue switch.name)
  else .ok { s with given := s.given ++ [(switch.name, value)] }

theorem lookup_append_of_none {name value : String} {given : List (String × String)}
    (h : given.lookup name = none) : (given ++ [(name, value)]).lookup name = some value := by
  induction given with
  | nil => simp
  | cons head rest ih =>
    obtain ⟨key, old⟩ := head
    rw [List.lookup_cons] at h
    rw [List.cons_append, List.lookup_cons]
    cases hk : name == key with
    | true => simp [hk] at h
    | false =>
      simp only [hk] at h
      exact ih h

theorem value?_take {s t : Scan} {switch : Switch} {value : String}
    (h : s.take switch value = .ok t) : t.value? switch.name = some value := by
  simp only [take] at h
  split at h
  · simp at h
  · rename_i absent
    split at h
    · simp at h
    · simp only [Except.ok.injEq] at h
      subst h
      exact lookup_append_of_none (Option.not_isSome_iff_eq_none.1 absent)

def settle (s : Scan) : Except UsageFault Scan :=
  match s.pending? with
  | none => .ok s
  | some (switch, none) => .error (.missingValue switch.name)
  | some (switch, some value) => { s with pending? := none }.take switch value

def awaits (s : Scan) : Bool :=
  match s.pending? with
  | some (_, none) => true
  | _ => false

def stray (t : Topic) (w : String) : UsageFault :=
  if t.commands.isEmpty || (t.command? w).isSome then .unknownArgument w else .unknownCommand w

def flag (s : Scan) (t : Topic) (switch : Switch) : Except UsageFault Scan :=
  match s.settle with
  | .error e => .error e
  | .ok s => if switch == Topic.helpSwitch then .error (.help t) else s.take switch ""

def long (s : Scan) (t : Topic) (w name : String) (value? : Option String) :
    Except UsageFault Scan :=
  match t.switch? name with
  | none => .error (.unknownArgument w)
  | some switch =>
    match switch.takes, value? with
    | .nothing, none => s.flag t switch
    | .nothing, some _ => .error (.unneededValue name)
    | _, some value => s.settle.bind fun s => s.take switch value
    | _, none => s.settle.map fun s => { s with pending? := some (switch, none) }

def step (s : Scan) (t : Topic) (w : String) : Except UsageFault Scan :=
  if s.literal then .error (stray t w)
  else match Word.of w with
    | .divider => .ok { s with literal := true }
    | .long name value? => s.long t w name value?
    | .short letter =>
      if letter == 'h' then s.flag t Topic.helpSwitch else .error (.unknownArgument w)
    | .plain =>
      match s.pending? with
      | some (switch, none) => .ok { s with pending? := some (switch, some w) }
      | _ => .error (stray t w)

/-- Scans words up to a command, and returns the command with the words after it. -/
def words (t : Topic) : Scan → List String →
    Except UsageFault (Scan × Option (Topic × List String))
  | s, [] => .ok (s, none)
  | s, w :: rest =>
    match if s.literal || s.awaits then none else t.command? w with
    | some command => .ok (s, some (command, rest))
    | none =>
      match s.step t w with
      | .error e => .error e
      | .ok s => words t s rest

end Scan
end Scaffold.CommandLine
