import Scaffold.Failure
import Scaffold.SortedMap
import Scaffold.Text.Lines

/-! The value that fragment rules fold over: pieces of code in order, and named slots through which
a rule hands a text to later rules. Slots go where a fragment is inherited from, items where it is
appended. -/

namespace Scaffold.Code

structure Fragment where
  items : List String
  bindings : SortedMap String
  deriving DecidableEq, Inhabited

namespace Fragment

def empty : Fragment := ⟨[], .empty⟩

/-- An empty fragment that can read the slots of another. -/
def inheriting (other : Fragment) : Fragment := ⟨[], other.bindings⟩

def push (f : Fragment) (item : String) : Fragment :=
  { f with items := f.items ++ [item] }

def extend (f : Fragment) (items : List String) : Fragment :=
  { f with items := f.items ++ items }

/-- Takes over the items of another fragment and none of its slots. -/
def append (f other : Fragment) : Fragment :=
  { f with items := f.items ++ other.items }

def bind (f : Fragment) (slot value : String) : Fragment :=
  { f with bindings := f.bindings.insert slot value }

def binding (f : Fragment) (slot : String) : Except Failure String :=
  match f.bindings.get? slot with
  | some value => .ok value
  | none => .error (.unboundSlot slot)

def size (f : Fragment) : Nat :=
  f.items.length

def isEmpty (f : Fragment) : Bool :=
  f.items.isEmpty

/-- Every item on lines of its own, indented, with a terminator at its end. -/
def render (f : Fragment) (indent : Nat) (terminator : String) : String :=
  Text.Lines.join (f.items.map fun item => Text.Lines.indent indent item ++ terminator)

@[simp] theorem items_empty : empty.items = [] := rfl

@[simp] theorem items_inheriting (other : Fragment) : (inheriting other).items = [] := rfl

@[simp] theorem items_push (f : Fragment) (item : String) :
    (f.push item).items = f.items ++ [item] := rfl

@[simp] theorem items_extend (f : Fragment) (items : List String) :
    (f.extend items).items = f.items ++ items := rfl

@[simp] theorem items_append (f other : Fragment) :
    (f.append other).items = f.items ++ other.items := rfl

@[simp] theorem items_bind (f : Fragment) (slot value : String) :
    (f.bind slot value).items = f.items := rfl

@[simp] theorem binding_push (f : Fragment) (item slot : String) :
    (f.push item).binding slot = f.binding slot := rfl

@[simp] theorem binding_extend (f : Fragment) (items : List String) (slot : String) :
    (f.extend items).binding slot = f.binding slot := rfl

@[simp] theorem binding_append (f other : Fragment) (slot : String) :
    (f.append other).binding slot = f.binding slot := rfl

@[simp] theorem binding_inheriting (other : Fragment) (slot : String) :
    (inheriting other).binding slot = other.binding slot := rfl

theorem binding_bind (f : Fragment) (slot value other : String) :
    (f.bind slot value).binding other = if other = slot then .ok value else f.binding other := by
  simp only [binding, bind, SortedMap.get?_insert]
  by_cases h : other = slot <;> simp [h]

theorem binding_empty (slot : String) : empty.binding slot = .error (.unboundSlot slot) := rfl

end Fragment
end Scaffold.Code
