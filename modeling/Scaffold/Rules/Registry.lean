import Scaffold.Rules.Table

/-! Rule sets and registries. A rule set collects registrations in the order they are made; a
registry is the union of rule sets merged into it one after the other, with the inflector that its
rules see and, if it records, the name of the log that takes the paths it writes. -/

namespace Scaffold.Rules

structure Tables (V : Vocabulary) where
  directory : Table V (DirectoryBody V) := .empty
  file : Table V (FileBody V) := .empty
  fragment : Table V (FragmentBody V) := .empty

namespace Tables
variable {V : Vocabulary}

def append (t : Tables V) (edition : Nat) (other : Tables V) : Tables V where
  directory := t.directory.append edition other.directory
  file := t.file.append edition other.file
  fragment := t.fragment.append edition other.fragment

def size (t : Tables V) : Tier → Nat
  | .directory => t.directory.size
  | .file => t.file.size
  | .fragment => t.fragment.size

def count (t : Tables V) (k : V.Kind) : Tier → Nat
  | .directory => (t.directory.rulesFor k).length
  | .file => (t.file.rulesFor k).length
  | .fragment => (t.fragment.rulesFor k).length

def describeSizes (t : Tables V) : String :=
  ", ".intercalate (Tier.all.map fun tier => tier.name ++ ": " ++ toString (t.size tier))

end Tables

structure RuleSet (V : Vocabulary) where
  tables : Tables V := {}

namespace RuleSet
variable {V : Vocabulary} {k : V.Kind}

def empty : RuleSet V := {}

instance : Inhabited (RuleSet V) := ⟨empty⟩

/-- Registrations of a set under construction; its lists are its own, so they carry no edition. -/
def addDirectoryRule (s : RuleSet V) (key : Key V k) (body : DirectoryBody V k) : RuleSet V :=
  ⟨{ s.tables with directory := s.tables.directory.push 0 ⟨key, body⟩ }⟩

def addFileRule (s : RuleSet V) (key : Key V k) (body : FileBody V k) : RuleSet V :=
  ⟨{ s.tables with file := s.tables.file.push 0 ⟨key, body⟩ }⟩

def addFragmentRule (s : RuleSet V) (key : Key V k) (body : FragmentBody V k) : RuleSet V :=
  ⟨{ s.tables with fragment := s.tables.fragment.push 0 ⟨key, body⟩ }⟩

def size (s : RuleSet V) (tier : Tier) : Nat :=
  s.tables.size tier

def isEmpty (s : RuleSet V) : Bool :=
  Tier.all.all fun tier => s.size tier == 0

def describe (s : RuleSet V) : String :=
  "RuleSet \x7b " ++ s.tables.describeSizes ++ " \x7d"

end RuleSet

structure Registry (V : Vocabulary) where
  tables : Tables V := {}
  inflector : Inflector := .english
  log? : Option String := none

namespace Registry
variable {V : Vocabulary}

def empty : Registry V := {}

instance : Inhabited (Registry V) := ⟨empty⟩

def merge (r : Registry V) (edition : Nat) (s : RuleSet V) : Registry V :=
  { r with tables := r.tables.append edition s.tables }

/-- The registry of rule sets merged in order, each merge an edition of its own. -/
def ofSets (sets : List (RuleSet V)) : Registry V :=
  sets.zipIdx.foldl (fun r s => r.merge s.2 s.1) empty

def withInflector (r : Registry V) (inflector : Inflector) : Registry V :=
  { r with inflector := inflector }

def recording (r : Registry V) (log : String) : Registry V :=
  { r with log? := some log }

def size (r : Registry V) (tier : Tier) : Nat :=
  r.tables.size tier

def ruleCount (r : Registry V) (k : V.Kind) (tier : Tier) : Nat :=
  r.tables.count k tier

/-- Whether the fragment rules for a kind are one stored list in both registries. -/
def sharesFragmentRules (r other : Registry V) (k : V.Kind) : Bool :=
  r.tables.fragment.sharesList other.tables.fragment k

def describe (r : Registry V) : String :=
  "Registry \x7b " ++ r.tables.describeSizes ++ ", recording: " ++ toString r.log?.isSome ++ " \x7d"

end Registry
end Scaffold.Rules
