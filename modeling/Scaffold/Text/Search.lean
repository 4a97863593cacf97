import Scaffold.Text.Pattern

/-! The search for a pattern in a text. The pattern is laid out as a route of numbered stages, and
the search goes through the text once. Several threads, each at a stage, stand in the order of
preference, and one more begins behind them at every byte. As soon as a thread has come to the end
of the route, all behind it are given up. The pattern ends with the text if a thread that was not
given up has come to the end there. -/

namespace Scaffold.Text

/-- What a stage asks for, and the stages that come after it. -/
inductive Stage
  | finished
  | one (set : CharSet) (next : Nat)
  | edge (e : Edge) (next : Nat)
  | fork (preferred other : Nat)

abbrev Route := Array Stage

namespace Stage

def forkOf (greedy : Bool) (again next : Nat) : Stage :=
  if greedy then fork again next else fork next again

end Stage

namespace Pattern

/-- Lays a pattern out in front of the stage `next`: its first stage, and the route with all of
them. -/
def layOut : Pattern → Nat → Route → Nat × Route
  | empty, next, r => (next, r)
  | one set, next, r => (r.size, r.push (.one set next))
  | edge e, next, r => (r.size, r.push (.edge e next))
  | seq a b, next, r =>
    let (second, r) := b.layOut next r
    a.layOut second r
  | either a b, next, r =>
    let (second, r) := b.layOut next r
    let (first, r) := a.layOut next r
    (r.size, r.push (.fork first second))
  | atLeastOnce greedy a, next, r =>
    let (again, laid) := a.layOut r.size (r.push .finished)
    (again, laid.setIfInBounds r.size (.forkOf greedy again next))

def stageCount : Pattern → Nat
  | empty => 0
  | one _ => 1
  | edge _ => 1
  | seq a b => a.stageCount + b.stageCount
  | either a b => a.stageCount + b.stageCount + 1
  | atLeastOnce _ a => a.stageCount + 1

theorem size_layOut (p : Pattern) (next : Nat) (r : Route) :
    (p.layOut next r).2.size = r.size + p.stageCount := by
  induction p generalizing next r with
  | empty => rfl
  | one => simp [layOut, stageCount]
  | edge => simp [layOut, stageCount]
  | seq a b iha ihb =>
    simp only [layOut, stageCount, iha, ihb]
    omega
  | either a b iha ihb =>
    simp only [layOut, stageCount, Array.size_push, iha, ihb]
    omega
  | atLeastOnce greedy a ih =>
    simp only [layOut, stageCount, Array.size_setIfInBounds, ih, Array.size_push]
    omega

end Pattern

structure Search where
  route : Route
  first : Nat

def Pattern.search (p : Pattern) : Search :=
  let (first, route) := p.layOut 0 #[.finished]
  ⟨route, first⟩

namespace Search

/-- A thread that has come to the end, or that takes a character of a set and goes on. -/
inductive Stop
  | finished
  | taking (set : CharSet) (next : Nat)

/-- Follows threads to where they stop, in the order of preference. A thread at a stage where one
has been before is dropped, for the earlier one is preferred. The number of steps is bounded by the
first number. -/
def settle (route : Route) (before? after? : Option Char) :
    Nat → List Nat → List Nat → List Stop
  | 0, _, _ => []
  | _ + 1, _, [] => []
  | steps + 1, met, n :: rest =>
    if met.contains n then settle route before? after? steps met rest
    else
      let go := settle route before? after? steps (n :: met)
      match route[n]? with
      | none => go rest
      | some .finished => .finished :: go rest
      | some (.one set next) => .taking set next :: go rest
      | some (.edge e next) => if e.holds before? after? then go (next :: rest) else go rest
      | some (.fork preferred other) => go (preferred :: other :: rest)

/-- Every stage is passed once, and adds one thread at most. -/
def stops (s : Search) (before? after? : Option Char) (threads : List Nat) : List Stop :=
  settle s.route before? after? (threads.length + 2 * s.route.size + 1) [] threads

def untilFinished : List Stop → List (CharSet × Nat) × Bool
  | [] => ([], false)
  | .finished :: _ => ([], true)
  | .taking set n :: rest => ((set, n) :: (untilFinished rest).1, (untilFinished rest).2)

def advance (c : Char) (waiting : List (CharSet × Nat)) : List Nat :=
  waiting.filterMap fun w => if w.1.contains c then some w.2 else none

/-- Whether a thread that begins between the bytes of a character comes to the end at once. All
other threads that begin there take nothing and are lost. -/
def endsWithin (s : Search) (c : Char) : Bool :=
  1 < c.utf8Size && (untilFinished (s.stops (some c) (some c) [s.first])).2

/-- Whether a thread comes to the end together with the text. While `beginning`, new threads begin.
-/
def endsWith (s : Search) (beginning : Bool) (before? : Option Char) (threads : List Nat) :
    List Char → Bool
  | [] =>
    (untilFinished (s.stops before? none (if beginning then threads ++ [s.first] else threads))).2
  | c :: rest =>
    let found := untilFinished
      (s.stops before? (some c) (if beginning then threads ++ [s.first] else threads))
    s.endsWith (beginning && !found.2 && !s.endsWithin c) (some c) (advance c found.1) rest

theorem endsWith_nil (s : Search) (before? : Option Char) (text : List Char) :
    s.endsWith false before? [] text = false := by
  induction text generalizing before? with
  | nil => rfl
  | cons c rest ih =>
    simp only [endsWith, Bool.false_and]
    exact ih (some c)

end Search

def Pattern.endsIn (p : Pattern) (text : String) : Bool :=
  p.search.endsWith true none [] text.toList

end Scaffold.Text
