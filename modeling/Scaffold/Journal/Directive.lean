import Scaffold.Journal.Event
import Scaffold.Text.Search

/-! Directives: limits for events. A directive is for the events under a topic or for all, and for
those alone that have certain fields; or it is for what happens inside a scope, given by the name of
the scope, by its fields, or by a pattern for the value of a field. -/

namespace Scaffold.Journal
open Text

inductive ValueTest
  /-- A number or a truth value, written as such. No text passes. -/
  | constant
  /-- A text in which the search for a pattern ends with the text. -/
  | pattern (text : String) (p : Pattern)
  deriving DecidableEq, Repr

def ValueTest.passes : ValueTest → String → Bool
  | constant, _ => false
  | pattern _ p, value => p.endsIn value

structure FieldTest where
  name : String
  value? : Option ValueTest := none
  deriving DecidableEq, Repr

structure Directive where
  topic? : Option String := none
  scope? : Option String := none
  fields : List FieldTest := []
  level : Level
  deriving DecidableEq, Repr

namespace Directive

def covers (d : Directive) (topic : String) : Bool :=
  match d.topic? with
  | none => true
  | some start => start.toList.isPrefixOf topic.toList

/-! ## Outside of scopes -/

/-- Whether events by themselves can tell if the directive is for them: it names no scope and asks
for no value. -/
def isGeneral (d : Directive) : Bool :=
  d.scope?.isNone && d.fields.all (·.value?.isNone)

def concerns (d : Directive) (e : Event) : Bool :=
  d.covers e.topic && d.fields.all fun f => e.has f.name

def fieldNames (d : Directive) : List String :=
  d.fields.map (·.name)

/-- How long the topic is; no topic is shorter than an empty one. -/
def topicRank (d : Directive) : Nat :=
  match d.topic? with
  | none => 0
  | some start => start.utf8ByteSize + 1

/-- Whether a directive comes before another one that is for the same event: it has the longer
topic, or else more fields, or else those later in the alphabet. Of two that are alike the latter
comes first. -/
def precedes (d other : Directive) : Bool :=
  if d.topicRank != other.topicRank then other.topicRank < d.topicRank
  else if d.fields.length != other.fields.length then other.fields.length < d.fields.length
  else other.fieldNames < d.fieldNames

/-! ## Inside scopes -/

/-- Whether the directive is for scopes: it names one or asks for fields. -/
def isScoped (d : Directive) : Bool :=
  d.scope?.isSome || !d.fields.isEmpty

/-- What the value of a field must be. Of several tests for one field the last counts. -/
def valueTest? (d : Directive) (field : String) : Option ValueTest :=
  d.fields.reverse.findSome? fun f => if f.name == field then f.value? else none

def admits (d : Directive) (fields : List (String × String)) (field : String) : Bool :=
  match fields.lookup field with
  | none => false
  | some value => (d.valueTest? field).all (·.passes value)

def reaches (d : Directive) (scope : Scope) : Bool :=
  d.covers scope.topic && d.scope?.all (· == scope.name) &&
    d.fieldNames.all (d.admits scope.fields)

/-- Whether two directives are for the same scopes, as they are written. -/
def sameScopes (d other : Directive) : Bool :=
  d.topic? == other.topic? && d.scope? == other.scope? && d.fields == other.fields

theorem concerns_of_no_fields (d : Directive) (e : Event) (h : d.fields = []) :
    d.concerns e = d.covers e.topic := by
  simp [concerns, h]

end Directive
end Scaffold.Journal
