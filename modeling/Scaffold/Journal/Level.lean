import Scaffold.Text.Casing

/-! Levels of detail. An event has a level, and a limit lets through the events that are no more
detailed than it is; the limit `off` lets nothing through. -/

namespace Scaffold.Journal

inductive Level
  | off
  | error
  | warn
  | info
  | debug
  | trace
  deriving DecidableEq, Repr

namespace Level

def all : List Level := [off, error, warn, info, debug, trace]

def name : Level → String
  | off => "off"
  | error => "error"
  | warn => "warn"
  | info => "info"
  | debug => "debug"
  | trace => "trace"

def rank : Level → Nat
  | off => 0
  | error => 1
  | warn => 2
  | info => 3
  | debug => 4
  | trace => 5

/-- The number that a text of digits is, perhaps with a plus in front. -/
def number? (text : List Char) : Option Nat :=
  let digits := if text.head? == some '+' then text.drop 1 else text
  if digits.isEmpty || !digits.all Char.isDigit then none
  else some (digits.foldl (fun n c => 10 * n + (c.toNat - '0'.toNat)) 0)

/-- The level with a name or a number; capitals in names do not count. -/
def ofName? (text : String) : Option Level :=
  match number? text.toList with
  | some n => all.find? (·.rank == n)
  | none => all.find? fun level => String.ofList (text.toList.map Char.toLower) == level.name

def admits (limit level : Level) : Bool :=
  level.rank ≤ limit.rank

theorem ofName?_name (level : Level) : ofName? level.name = some level := by
  cases level <;> decide

theorem off_admits {level : Level} (h : level ≠ .off) : off.admits level = false := by
  cases level <;> first | exact absurd rfl h | rfl

theorem admits_iff (limit level : Level) : limit.admits level = true ↔ level.rank ≤ limit.rank := by
  simp [admits]

end Level
end Scaffold.Journal
