import Scaffold.Text.CharSet

/-! Patterns. A pattern describes texts; where it leaves a choice, the first alternative is
preferred, and a repetition prefers more or fewer rounds. A repetition of any number of rounds is
one round or more, or else nothing. -/

namespace Scaffold.Text

inductive Edge
  | textStart
  | textEnd
  | lineStart
  | lineEnd
  /-- The start of a line, where a carriage return and a line feed in a row end one line together.
  -/
  | returnedLineStart
  | returnedLineEnd
  /-- A change between letters of ASCII and other characters. -/
  | wordEdge
  | noWordEdge
  | wordStart
  | wordEnd
  deriving DecidableEq, Repr

def Edge.isWord (c? : Option Char) : Bool :=
  c?.any fun c => c.isAlphanum || c == '_'

/-- Whether a place lies on an edge, given the characters on both sides of it. -/
def Edge.holds : Edge → Option Char → Option Char → Bool
  | textStart, before?, _ => before?.isNone
  | textEnd, _, after? => after?.isNone
  | lineStart, before?, _ => before?.all (· == '\n')
  | lineEnd, _, after? => after?.all (· == '\n')
  | returnedLineStart, before?, after? =>
    before?.all fun c => c == '\n' || (c == '\r' && after? != some '\n')
  | returnedLineEnd, before?, after? =>
    after?.all fun c => c == '\r' || (c == '\n' && before? != some '\r')
  | wordEdge, before?, after? => isWord before? != isWord after?
  | noWordEdge, before?, after? => isWord before? == isWord after?
  | wordStart, before?, after? => !isWord before? && isWord after?
  | wordEnd, before?, after? => isWord before? && !isWord after?

inductive Pattern
  | empty
  | one (set : CharSet)
  | edge (e : Edge)
  | seq (a b : Pattern)
  | either (a b : Pattern)
  /-- One round or more, more of them preferred if `greedy`. -/
  | atLeastOnce (greedy : Bool) (a : Pattern)
  deriving DecidableEq, Repr

namespace Pattern

def atMostOnce (greedy : Bool) (a : Pattern) : Pattern :=
  if greedy then either a empty else either empty a

def anyTimes (greedy : Bool) (a : Pattern) : Pattern :=
  atMostOnce greedy (atLeastOnce greedy a)

def ofParts : List Pattern → Pattern
  | [] => empty
  | [a] => a
  | a :: rest => seq a (ofParts rest)

end Pattern
end Scaffold.Text
