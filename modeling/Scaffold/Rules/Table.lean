import Scaffold.Keyed
import Scaffold.Rules.Rule

/-! Rule tables: for one tier, a list of rules for each kind of descriptor. A stored list is never
changed. Appending stores a new list under the kind, marked with the edition that the caller gives
to the append, so that two tables that hold lists of one kind and edition hold the same list. -/

namespace Scaffold.Rules

/-- A stored list and the append that made it. -/
structure Stored (α : Type) where
  edition : Nat
  items : List α

structure Table (V : Vocabulary) (Body : V.Kind → Type) where
  entries : List ((k : V.Kind) × Stored (Rule V Body k))
  distinct : (Keyed.keys entries).Nodup

namespace Table
variable {V : Vocabulary} {Body : V.Kind → Type}

def empty : Table V Body := ⟨[], List.nodup_nil⟩

def stored? (t : Table V Body) (k : V.Kind) : Option (Stored (Rule V Body k)) :=
  Keyed.lookup k t.entries

def rulesFor (t : Table V Body) (k : V.Kind) : List (Rule V Body k) :=
  match t.stored? k with
  | some list => list.items
  | none => []

def extend (t : Table V Body) (edition : Nat) (k : V.Kind) (rules : List (Rule V Body k)) :
    Table V Body :=
  ⟨Keyed.assign k ⟨edition, t.rulesFor k ++ rules⟩ t.entries,
    Keyed.nodup_keys_assign k _ t.distinct⟩

def push (t : Table V Body) (edition : Nat) {k : V.Kind} (rule : Rule V Body k) : Table V Body :=
  t.extend edition k [rule]

def appendEntries (t : Table V Body) (edition : Nat)
    (entries : List ((k : V.Kind) × Stored (Rule V Body k))) : Table V Body :=
  entries.foldl (fun t e => t.extend edition e.1 e.2.items) t

/-- Every list of another table after the list for the same kind. -/
def append (t : Table V Body) (edition : Nat) (other : Table V Body) : Table V Body :=
  t.appendEntries edition other.entries

def size (t : Table V Body) : Nat :=
  t.entries.foldr (fun e n => e.2.items.length + n) 0

/-- Whether the rules for a kind are the same stored list in both tables. -/
def sharesList (t other : Table V Body) (k : V.Kind) : Bool :=
  match t.stored? k, other.stored? k with
  | some a, some b => a.edition == b.edition
  | _, _ => false

@[simp] theorem rulesFor_empty (k : V.Kind) : (empty : Table V Body).rulesFor k = [] := rfl

theorem stored?_extend_same (t : Table V Body) (edition : Nat) (k : V.Kind)
    (rules : List (Rule V Body k)) :
    (t.extend edition k rules).stored? k = some ⟨edition, t.rulesFor k ++ rules⟩ :=
  Keyed.lookup_assign_same k _ t.entries

theorem stored?_extend_other (t : Table V Body) (edition : Nat) {k other : V.Kind}
    (h : other ≠ k) (rules : List (Rule V Body k)) :
    (t.extend edition k rules).stored? other = t.stored? other :=
  Keyed.lookup_assign_other h _ t.entries

theorem rulesFor_extend_same (t : Table V Body) (edition : Nat) (k : V.Kind)
    (rules : List (Rule V Body k)) :
    (t.extend edition k rules).rulesFor k = t.rulesFor k ++ rules := by
  rw [rulesFor, stored?_extend_same]

theorem rulesFor_extend_other (t : Table V Body) (edition : Nat) {k other : V.Kind}
    (h : other ≠ k) (rules : List (Rule V Body k)) :
    (t.extend edition k rules).rulesFor other = t.rulesFor other := by
  rw [rulesFor, stored?_extend_other t edition h, rulesFor]

def itemsFor (k : V.Kind) (entries : List ((k : V.Kind) × Stored (Rule V Body k))) :
    List (Rule V Body k) :=
  match Keyed.lookup k entries with
  | some list => list.items
  | none => []

theorem stored?_appendEntries (t : Table V Body) (edition : Nat) (k : V.Kind)
    {entries : List ((k : V.Kind) × Stored (Rule V Body k))}
    (distinct : (Keyed.keys entries).Nodup) :
    (t.appendEntries edition entries).stored? k =
      match Keyed.lookup k entries with
      | some list => some ⟨edition, t.rulesFor k ++ list.items⟩
      | none => t.stored? k := by
  induction entries generalizing t with
  | nil => rfl
  | cons head rest ih =>
    obtain ⟨kind, list⟩ := head
    have fresh : kind ∉ Keyed.keys rest := (List.nodup_cons.1 distinct).1
    have step := ih (t.extend edition kind list.items) (List.nodup_cons.1 distinct).2
    simp only [appendEntries, List.foldl_cons] at step ⊢
    rw [step]
    by_cases h : k = kind
    · subst h
      have absent : Keyed.lookup k rest = none := by
        refine Option.eq_none_iff_forall_ne_some.2 fun value hv => fresh ?_
        have hm := (Keyed.lookup_eq_some_iff (List.nodup_cons.1 distinct).2 k value).1 hv
        exact List.mem_map_of_mem hm
      simp [Keyed.lookup, absent, stored?_extend_same]
    · rw [rulesFor_extend_other t edition h, stored?_extend_other t edition h]
      simp [Keyed.lookup, Ne.symm h]

theorem rulesFor_appendEntries (t : Table V Body) (edition : Nat) (k : V.Kind)
    {entries : List ((k : V.Kind) × Stored (Rule V Body k))}
    (distinct : (Keyed.keys entries).Nodup) :
    (t.appendEntries edition entries).rulesFor k = t.rulesFor k ++ itemsFor k entries := by
  rw [rulesFor, stored?_appendEntries t edition k distinct, itemsFor]
  cases Keyed.lookup k entries with
  | none => exact (List.append_nil (t.rulesFor k)).symm
  | some list => rfl

theorem rulesFor_appendEntries_of_perm (t other : Table V Body) (edition : Nat) (k : V.Kind)
    {entries : List ((k : V.Kind) × Stored (Rule V Body k))} (h : entries.Perm other.entries) :
    (t.appendEntries edition entries).rulesFor k = t.rulesFor k ++ other.rulesFor k := by
  rw [rulesFor_appendEntries t edition k (Keyed.nodup_keys_of_perm h other.distinct)]
  simp only [itemsFor, rulesFor, stored?, Keyed.lookup_of_perm h other.distinct]

theorem rulesFor_append (t other : Table V Body) (edition : Nat) (k : V.Kind) :
    (t.append edition other).rulesFor k = t.rulesFor k ++ other.rulesFor k :=
  rulesFor_appendEntries_of_perm t other edition k (List.Perm.refl _)

end Table
end Scaffold.Rules
