import Scaffold.Rules.Dispatch

/-! Sessions: named rule sets and registries that grow side by side. Every merge of a set is an
edition of its own, so lists are shared between registries exactly as far as one was made from the
other without a merge in between. Names that were not used before stand for empty sets and
registries. -/

namespace Scaffold.Rules

structure Session (V : Vocabulary) where
  sets : SortedMap (RuleSet V) := .empty
  registries : SortedMap (Registry V) := .empty
  editions : Nat := 0

namespace Session
variable {V : Vocabulary}

def empty : Session V := {}

instance : Inhabited (Session V) := ⟨empty⟩

def set (s : Session V) (name : String) : RuleSet V :=
  (s.sets.get? name).getD .empty

def registry (s : Session V) (name : String) : Registry V :=
  (s.registries.get? name).getD .empty

def putSet (s : Session V) (name : String) (set : RuleSet V) : Session V :=
  { s with sets := s.sets.insert name set }

def putRegistry (s : Session V) (name : String) (registry : Registry V) : Session V :=
  { s with registries := s.registries.insert name registry }

/-- Merges one set, as it is now, into a registry. -/
def mergeSet (s : Session V) (registry set : String) : Session V :=
  { s.putRegistry registry ((s.registry registry).merge s.editions (s.set set)) with
    editions := s.editions + 1 }

def merge (s : Session V) (registry : String) (sets : List String) : Session V :=
  sets.foldl (fun s set => s.mergeSet registry set) s

def clone (s : Session V) (source target : String) : Session V :=
  s.putRegistry target (s.registry source)

def record (s : Session V) (source target log : String) : Session V :=
  s.putRegistry target ((s.registry source).recording log)

def setInflector (s : Session V) (registry : String) (inflector : Inflector) : Session V :=
  s.putRegistry registry ((s.registry registry).withInflector inflector)

def shares (s : Session V) (a b : String) (k : V.Kind) : Bool :=
  (s.registry a).sharesFragmentRules (s.registry b) k

end Session
end Scaffold.Rules
