import Scaffold.Text.Blank
import Scaffold.Text.CharSet

/-! Options of the notation of patterns: what counts in the text of a pattern, and which sets can be
had. Unless sets are of ASCII they cannot be folded, for the other forms of letters are not known;
sets of ASCII cannot be negated, for what is outside of ASCII would be in them. -/

namespace Scaffold.Text

structure PatternOptions where
  /-- Capital and small letters are the same. -/
  fold : Bool := false
  /-- `^` and `$` are the ends of lines. -/
  lines : Bool := false
  /-- A `.` is any character at all. -/
  dotAll : Bool := false
  /-- Repetitions prefer fewer rounds, and with a `?` behind them more. -/
  swap : Bool := false
  /-- Blanks, and comments from a `#` to the end of the line, do not count. -/
  spaced : Bool := false
  /-- A carriage return ends a line too. -/
  returns : Bool := false
  /-- Sets hold characters of ASCII only. -/
  asciiSets : Bool := false
  deriving DecidableEq, Repr

namespace PatternOptions

def skipComment : List Char → List Char
  | [] => []
  | c :: rest => if c == '\n' then rest else skipComment rest

theorem length_skipComment (cs : List Char) : (skipComment cs).length ≤ cs.length := by
  induction cs with
  | nil => exact Nat.le_refl _
  | cons c rest ih =>
    simp only [skipComment]
    split <;> simp only [List.length_cons] <;> omega

def skipSpace : List Char → List Char
  | [] => []
  | c :: rest =>
    if Blank.isBlank c then skipSpace rest
    else if c == '#' then skipSpace (skipComment rest)
    else c :: rest
termination_by cs => cs.length
decreasing_by
  · simp
  · have := length_skipComment rest
    simp only [List.length_cons]
    omega

def skip (options : PatternOptions) (cs : List Char) : List Char :=
  if options.spaced then skipSpace cs else cs

/-- The characters that a letter or a range of them stands for. -/
def letters? (options : PatternOptions) (set : CharSet) : Option CharSet :=
  if !options.fold then some set
  else if options.asciiSets then some (.folded set)
  else none

def negated? (options : PatternOptions) (set : CharSet) : Option CharSet :=
  if options.asciiSets then none else some (.negated set)

def mayHold (options : PatternOptions) (c : Char) : Bool :=
  !options.asciiSets || c.toNat < 0x80

end PatternOptions
end Scaffold.Text
