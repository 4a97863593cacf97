import Scaffold.Journal.Level

/-! Events: what a run says about itself. The topic of an event is the path of the part of the
program that speaks; some events happen inside a scope, a named stretch of the run with a topic and
values of its own. -/

namespace Scaffold.Journal

structure Scope where
  topic : String
  name : String
  fields : List (String × String) := []
  deriving DecidableEq, Repr

structure Event where
  level : Level
  topic : String
  message : String
  /-- The names of the fields that come with the message. -/
  fields : List String := []
  scope? : Option Scope := none
  deriving DecidableEq, Repr

namespace Event

def messageField : String := "message"

/-- Whether an event has a field. The message is one of them. -/
def has (e : Event) (field : String) : Bool :=
  field == messageField || e.fields.contains field

end Event
end Scaffold.Journal
