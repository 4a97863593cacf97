import Mathlib.Data.List.Induction
import Mathlib.Logic.Function.Basic
import Scaffold.Rules.Session

/-! Histories of a session and what they register. A history is a list of commands on named sets and
registries. Its ledger says for each name which registrations were made, in order, with no table.
In a reached session every table holds the registrations of the ledger, kind by kind, although each
merge may visit the kinds of a set in any order. -/

namespace Scaffold.Rules

abbrev Tier.Body (V : Vocabulary) : Tier → V.Kind → Type
  | .directory => DirectoryBody V
  | .file => FileBody V
  | .fragment => FragmentBody V

structure Registration (V : Vocabulary) where
  tier : Tier
  kind : V.Kind
  rule : Rule V (tier.Body V) kind

namespace Registration
variable {V : Vocabulary}

def rule? (tier : Tier) (kind : V.Kind) : Registration V → Option (Rule V (tier.Body V) kind)
  | ⟨t, k, rule⟩ =>
    if ht : t = tier then if hk : k = kind then some (ht ▸ hk ▸ rule) else none else none

@[simp] theorem rule?_self (r : Registration V) : r.rule? r.tier r.kind = some r.rule := by
  simp [rule?]

theorem rule?_of_tier_ne {tier : Tier} (kind : V.Kind) {r : Registration V} (h : r.tier ≠ tier) :
    r.rule? tier kind = none := by
  simp [rule?, h]

theorem rule?_of_kind_ne (tier : Tier) {kind : V.Kind} {r : Registration V} (h : r.kind ≠ kind) :
    r.rule? tier kind = none := by
  simp [rule?, h]

end Registration

def registered {V : Vocabulary} (tier : Tier) (kind : V.Kind) (log : List (Registration V)) :
    List (Rule V (tier.Body V) kind) :=
  log.filterMap (Registration.rule? tier kind)

theorem registered_append {V : Vocabulary} (tier : Tier) (kind : V.Kind)
    (log later : List (Registration V)) :
    registered tier kind (log ++ later) = registered tier kind log ++ registered tier kind later :=
  List.filterMap_append

/-! ## Tables -/

namespace Tables
variable {V : Vocabulary}

def table (t : Tables V) : (tier : Tier) → Table V (tier.Body V)
  | .directory => t.directory
  | .file => t.file
  | .fragment => t.fragment

/-- The tables hold the registrations of a log, tier by tier and kind by kind. -/
def Holds (t : Tables V) (log : List (Registration V)) : Prop :=
  ∀ tier kind, (t.table tier).rulesFor kind = registered tier kind log

/-- One union of tables: in each tier the kinds of the other tables are visited in some order. -/
def Joined (t : Tables V) (edition : Nat) (other result : Tables V) : Prop :=
  ∀ tier, ∃ entries, entries.Perm (other.table tier).entries ∧
    result.table tier = (t.table tier).appendEntries edition entries

theorem joined_append (t : Tables V) (edition : Nat) (other : Tables V) :
    t.Joined edition other (t.append edition other) := by
  intro tier
  refine ⟨(other.table tier).entries, List.Perm.refl _, ?_⟩
  cases tier <;> rfl

theorem holds_empty : ({} : Tables V).Holds [] := by
  intro tier kind
  cases tier <;> rfl

theorem Holds.joined {t other result : Tables V} {log later : List (Registration V)}
    {edition : Nat} (h : t.Holds log) (ho : other.Holds later)
    (join : t.Joined edition other result) : result.Holds (log ++ later) := by
  intro tier kind
  obtain ⟨entries, perm, eq⟩ := join tier
  rw [eq, Table.rulesFor_appendEntries_of_perm _ _ _ _ perm, h tier kind, ho tier kind,
    registered_append]

end Tables

namespace RuleSet
variable {V : Vocabulary}

def register (s : RuleSet V) : Registration V → RuleSet V
  | ⟨.directory, _, rule⟩ => s.addDirectoryRule rule.key rule.body
  | ⟨.file, _, rule⟩ => s.addFileRule rule.key rule.body
  | ⟨.fragment, _, rule⟩ => s.addFragmentRule rule.key rule.body

theorem table_register_same (s : RuleSet V) (r : Registration V) :
    (s.register r).tables.table r.tier = (s.tables.table r.tier).push 0 r.rule := by
  obtain ⟨tier, kind, rule⟩ := r
  cases tier <;> rfl

theorem table_register_other (s : RuleSet V) (r : Registration V) {tier : Tier}
    (h : r.tier ≠ tier) : (s.register r).tables.table tier = s.tables.table tier := by
  obtain ⟨t, kind, rule⟩ := r
  cases t <;> cases tier <;> first | exact absurd rfl h | rfl

theorem holds_register {s : RuleSet V} {log : List (Registration V)} (h : s.tables.Holds log)
    (r : Registration V) : (s.register r).tables.Holds (log ++ [r]) := by
  intro tier kind
  rw [registered_append, ← h tier kind]
  by_cases ht : r.tier = tier
  · subst ht
    rw [table_register_same]
    by_cases hk : kind = r.kind
    · subst hk
      rw [Table.push, Table.rulesFor_extend_same]
      simp [registered]
    · rw [Table.push, Table.rulesFor_extend_other _ _ hk]
      simp [registered, Registration.rule?_of_kind_ne _ (Ne.symm hk)]
  · rw [table_register_other s r ht]
    simp [registered, Registration.rule?_of_tier_ne _ ht]

end RuleSet

/-! ## Commands -/

/-- What is done to the named sets and registries of a session. -/
inductive Command (V : Vocabulary)
  | register (set : String) (registration : Registration V)
  | merge (registry : String) (sets : List String)
  /-- Takes a registry over into another name, with one more set. -/
  | withRules (source target set : String)
  | clone (source target : String)
  | record (source target log : String)
  | setInflector (registry : String) (inflector : Inflector)

namespace Session
variable {V : Vocabulary}

/-- What a command does when sets are visited in the order in which they are stored. -/
def perform (s : Session V) : Command V → Session V
  | .register set r => s.putSet set ((s.set set).register r)
  | .merge registry sets => s.merge registry sets
  | .withRules source target set => (s.clone source target).mergeSet target set
  | .clone source target => s.clone source target
  | .record source target log => s.record source target log
  | .setInflector registry inflector => s.setInflector registry inflector

def MergesSet (s : Session V) (registry set : String) (s' : Session V) : Prop :=
  ∃ tables, (s.registry registry).tables.Joined s.editions (s.set set).tables tables ∧
    s' = { s.putRegistry registry { s.registry registry with tables := tables } with
      editions := s.editions + 1 }

inductive Merges (registry : String) : Session V → List String → Session V → Prop
  | nil (s : Session V) : Merges registry s [] s
  | cons {s mid s' : Session V} {set : String} {sets : List String} :
      s.MergesSet registry set mid → Merges registry mid sets s' →
        Merges registry s (set :: sets) s'

/-- What a command may do, whatever order the kinds of a merged set are visited in. -/
inductive Step : Session V → Command V → Session V → Prop
  | register (s : Session V) (set : String) (r : Registration V) :
      Step s (.register set r) (s.putSet set ((s.set set).register r))
  | merge {s s' : Session V} {registry : String} {sets : List String} :
      Merges registry s sets s' → Step s (.merge registry sets) s'
  | withRules {s s' : Session V} {source target set : String} :
      (s.clone source target).MergesSet target set s' → Step s (.withRules source target set) s'
  | clone (s : Session V) (source target : String) :
      Step s (.clone source target) (s.clone source target)
  | record (s : Session V) (source target log : String) :
      Step s (.record source target log) (s.record source target log)
  | setInflector (s : Session V) (registry : String) (inflector : Inflector) :
      Step s (.setInflector registry inflector) (s.setInflector registry inflector)

inductive Reached : List (Command V) → Session V → Prop
  | start : Reached [] empty
  | step {history : List (Command V)} {s s' : Session V} {command : Command V} :
      Reached history s → Step s command s' → Reached (history ++ [command]) s'

theorem mergesSet_mergeSet (s : Session V) (registry set : String) :
    s.MergesSet registry set (s.mergeSet registry set) :=
  ⟨_, Tables.joined_append _ _ _, rfl⟩

theorem merges_merge (s : Session V) (registry : String) (sets : List String) :
    Merges registry s sets (s.merge registry sets) := by
  induction sets generalizing s with
  | nil => exact .nil s
  | cons set rest ih => exact .cons (s.mergesSet_mergeSet registry set) (ih _)

theorem step_perform (s : Session V) (command : Command V) :
    Step s command (s.perform command) := by
  cases command with
  | register set r => exact .register s set r
  | merge registry sets => exact .merge (s.merges_merge registry sets)
  | withRules source target set => exact .withRules (mergesSet_mergeSet _ target set)
  | clone source target => exact .clone s source target
  | record source target log => exact .record s source target log
  | setInflector registry inflector => exact .setInflector s registry inflector

theorem reached_perform (history : List (Command V)) :
    Reached history (history.foldl perform empty) := by
  induction history using List.reverseRecOn with
  | nil => exact .start
  | append_singleton history command ih =>
    rw [List.foldl_append]
    exact .step ih (step_perform _ command)

theorem set_putSet (s : Session V) (name other : String) (set : RuleSet V) :
    (s.putSet name set).set other = if other = name then set else s.set other := by
  simp only [Session.set, putSet, SortedMap.get?_insert]
  split <;> rfl

theorem registry_putRegistry (s : Session V) (name other : String) (r : Registry V) :
    (s.putRegistry name r).registry other = if other = name then r else s.registry other := by
  simp only [Session.registry, putRegistry, SortedMap.get?_insert]
  split <;> rfl

end Session
end Scaffold.Rules
