/-! Maps from texts, kept as the list of their entries in strictly increasing order of the keys. Two
maps with the same answers are therefore equal, whatever the order in which they were filled. -/

namespace Scaffold

/-- Puts a value under a key, in place of the one it had. -/
def SortedMap.insertEntry {α : Type} (key : String) (value : α) :
    List (String × α) → List (String × α)
  | [] => [(key, value)]
  | (k, v) :: rest =>
    if key < k then (key, value) :: (k, v) :: rest
    else if key = k then (key, value) :: rest
    else (k, v) :: insertEntry key value rest

def SortedMap.Increasing {α : Type} (entries : List (String × α)) : Prop :=
  entries.Pairwise fun a b => a.1 < b.1

theorem SortedMap.lt_or_eq_or_lt (a b : String) : a < b ∨ a = b ∨ b < a := by
  by_cases h : a < b
  · exact .inl h
  · by_cases h' : b < a
    · exact .inr (.inr h')
    · exact .inr (.inl (String.le_antisymm (String.not_lt.1 h') (String.not_lt.1 h)))

theorem SortedMap.key_of_mem_insertEntry {α : Type} {key : String} {value : α} {e : String × α}
    {entries : List (String × α)} (h : e ∈ insertEntry key value entries) :
    e = (key, value) ∨ e ∈ entries := by
  induction entries with
  | nil => simpa [insertEntry] using h
  | cons head rest ih =>
    obtain ⟨k, v⟩ := head
    simp only [insertEntry] at h
    split at h
    · simpa using h
    · split at h
      · rcases List.mem_cons.1 h with h | h
        · exact .inl h
        · exact .inr (List.mem_cons_of_mem _ h)
      · rcases List.mem_cons.1 h with h | h
        · exact .inr (h ▸ List.mem_cons_self)
        · exact (ih h).imp_right (List.mem_cons_of_mem _)

theorem SortedMap.increasing_insertEntry {α : Type} (key : String) (value : α)
    {entries : List (String × α)} (h : Increasing entries) :
    Increasing (insertEntry key value entries) := by
  induction entries with
  | nil => simp [insertEntry, Increasing]
  | cons head rest ih =>
    obtain ⟨k, v⟩ := head
    have hrest : Increasing rest := (List.pairwise_cons.1 h).2
    have hk : ∀ e ∈ rest, k < e.1 := (List.pairwise_cons.1 h).1
    simp only [insertEntry]
    split
    · rename_i hlt
      refine List.pairwise_cons.2 ⟨fun e he => ?_, h⟩
      rcases List.mem_cons.1 he with rfl | he
      · exact hlt
      · exact String.lt_trans hlt (hk e he)
    · split
      · rename_i heq
        subst heq
        exact List.pairwise_cons.2 ⟨hk, hrest⟩
      · rename_i hlt hne
        have hkk : k < key := by
          rcases lt_or_eq_or_lt key k with h1 | h1 | h1
          · exact absurd h1 hlt
          · exact absurd h1 hne
          · exact h1
        refine List.pairwise_cons.2 ⟨fun e he => ?_, ih hrest⟩
        rcases key_of_mem_insertEntry he with rfl | he
        · exact hkk
        · exact hk e he

def SortedMap.lookup {α : Type} (key : String) : List (String × α) → Option α
  | [] => none
  | (k, v) :: rest => if key = k then some v else lookup key rest

structure SortedMap (α : Type) where
  entries : List (String × α)
  increasing : SortedMap.Increasing entries
  deriving DecidableEq

namespace SortedMap
variable {α : Type}

def empty : SortedMap α := ⟨[], List.Pairwise.nil⟩

instance : Inhabited (SortedMap α) := ⟨empty⟩

def insert (m : SortedMap α) (key : String) (value : α) : SortedMap α :=
  ⟨insertEntry key value m.entries, increasing_insertEntry key value m.increasing⟩

def get? (m : SortedMap α) (key : String) : Option α :=
  lookup key m.entries

def keys (m : SortedMap α) : List String :=
  m.entries.map (·.1)

def isEmpty (m : SortedMap α) : Bool :=
  m.entries.isEmpty

def ofList (entries : List (String × α)) : SortedMap α :=
  entries.foldl (fun m e => m.insert e.1 e.2) empty

theorem lookup_insertEntry (key other : String) (value : α) (entries : List (String × α)) :
    lookup other (insertEntry key value entries) =
      if other = key then some value else lookup other entries := by
  induction entries with
  | nil => rfl
  | cons head rest ih =>
    obtain ⟨k, v⟩ := head
    simp only [insertEntry]
    split
    · rfl
    · split
      · rename_i _ heq
        subst heq
        simp only [lookup]
        split <;> rfl
      · rename_i _ hne
        simp only [lookup, ih]
        split
        · rename_i heq
          rw [if_neg fun h => hne (h.symm.trans heq)]
        · rfl

theorem get?_insert (m : SortedMap α) (key other : String) (value : α) :
    (m.insert key value).get? other = if other = key then some value else m.get? other :=
  lookup_insertEntry key other value m.entries

theorem mem_map_key_iff (key : String) (entries : List (String × α)) :
    key ∈ entries.map (·.1) ↔ (lookup key entries).isSome := by
  induction entries with
  | nil => simp [lookup]
  | cons head rest ih =>
    rw [List.map_cons, List.mem_cons, ih, lookup]
    by_cases same : key = head.1
    · simp [same]
    · simp [same]

theorem mem_keys_iff (m : SortedMap α) (key : String) : key ∈ m.keys ↔ (m.get? key).isSome :=
  mem_map_key_iff key m.entries

theorem pairwise_keys (m : SortedMap α) : m.keys.Pairwise (· < ·) :=
  List.pairwise_map.2 m.increasing

theorem lookup_of_lt {key : String} {entries : List (String × α)}
    (below : ∀ e ∈ entries, key < e.1) : lookup key entries = none := by
  induction entries with
  | nil => rfl
  | cons head rest ih =>
    have first : key ≠ head.1 := fun same =>
      String.lt_irrefl head.1 (same ▸ below head List.mem_cons_self)
    rw [lookup, if_neg first, ih fun e he => below e (List.mem_cons_of_mem head he)]

theorem not_lt_of_lookup {key : String} {head : String × α} {rest : List (String × α)}
    (increasing : Increasing (head :: rest)) (found : lookup key (head :: rest) ≠ none) :
    ¬key < head.1 := by
  refine fun less => found (lookup_of_lt fun e he => ?_)
  rcases List.mem_cons.1 he with rfl | he
  · exact less
  · exact String.lt_trans less ((List.pairwise_cons.1 increasing).1 e he)

theorem entries_eq_of_lookup {entries others : List (String × α)} (first : Increasing entries)
    (second : Increasing others) (same : ∀ key, lookup key entries = lookup key others) :
    entries = others := by
  induction entries generalizing others with
  | nil =>
    cases others with
    | nil => rfl
    | cons other others => simpa [lookup] using same other.1
  | cons entry entries ih =>
    cases others with
    | nil => simpa [lookup] using same entry.1
    | cons other others =>
      have least : entry.1 = other.1 := by
        have above : ¬entry.1 < other.1 :=
          not_lt_of_lookup second (by rw [← same]; simp [lookup])
        have below : ¬other.1 < entry.1 := not_lt_of_lookup first (by rw [same]; simp [lookup])
        exact ((lt_or_eq_or_lt entry.1 other.1).resolve_left above).resolve_right below
      have value : entry.2 = other.2 := by simpa [lookup, least] using same entry.1
      obtain ⟨above, first⟩ := List.pairwise_cons.1 first
      obtain ⟨above', second⟩ := List.pairwise_cons.1 second
      rw [Prod.ext least value, ih first second fun key => ?_]
      by_cases here : key = entry.1
      · rw [here, lookup_of_lt above, least, lookup_of_lt above']
      · have further := same key
        rwa [lookup, lookup, if_neg here, if_neg (least ▸ here)] at further

theorem eq_of_get? {m n : SortedMap α} (same : ∀ key, m.get? key = n.get? key) : m = n := by
  obtain ⟨entries, increasing⟩ := m
  obtain ⟨others, increasing'⟩ := n
  obtain rfl := entries_eq_of_lookup increasing increasing' same
  rfl

end SortedMap
end Scaffold
