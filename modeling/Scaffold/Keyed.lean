/-! Lists of values under keys of a type with decidable equality, where the type of a value may
depend on its key. Assigning keeps the place of a key that is there and adds a new key at the end.
-/

namespace Scaffold.Keyed
variable {κ : Type} [DecidableEq κ] {β : κ → Type}

def lookup (key : κ) : List ((k : κ) × β k) → Option (β key)
  | [] => none
  | ⟨k, v⟩ :: rest => if h : k = key then some (h ▸ v) else lookup key rest

def assign (key : κ) (value : β key) : List ((k : κ) × β k) → List ((k : κ) × β k)
  | [] => [⟨key, value⟩]
  | ⟨k, v⟩ :: rest => if k = key then ⟨key, value⟩ :: rest else ⟨k, v⟩ :: assign key value rest

def keys (entries : List ((k : κ) × β k)) : List κ :=
  entries.map (·.1)

theorem lookup_assign_same (key : κ) (value : β key) (entries : List ((k : κ) × β k)) :
    lookup key (assign key value entries) = some value := by
  induction entries with
  | nil => simp [assign, lookup]
  | cons head rest ih =>
    obtain ⟨k, v⟩ := head
    simp only [assign]
    split
    · simp [lookup]
    · rename_i h
      simp [lookup, h, ih]

theorem lookup_assign_other {key other : κ} (h : other ≠ key) (value : β key)
    (entries : List ((k : κ) × β k)) :
    lookup other (assign key value entries) = lookup other entries := by
  induction entries with
  | nil => simp [assign, lookup, Ne.symm h]
  | cons head rest ih =>
    obtain ⟨k, v⟩ := head
    simp only [assign]
    split
    · rename_i hk
      subst hk
      simp [lookup, Ne.symm h]
    · simp only [lookup, ih]

theorem mem_keys_assign {key other : κ} (value : β key) (entries : List ((k : κ) × β k)) :
    other ∈ keys (assign key value entries) ↔ other = key ∨ other ∈ keys entries := by
  induction entries with
  | nil => simp [assign, keys]
  | cons head rest ih =>
    obtain ⟨k, v⟩ := head
    simp only [assign]
    split
    · rename_i hk
      subst hk
      simp [keys]
    · simp only [keys, List.map_cons, List.mem_cons] at ih ⊢
      rw [ih]
      constructor
      · rintro (h | h | h)
        · exact .inr (.inl h)
        · exact .inl h
        · exact .inr (.inr h)
      · rintro (h | h | h)
        · exact .inr (.inl h)
        · exact .inl h
        · exact .inr (.inr h)

theorem nodup_keys_assign (key : κ) (value : β key) {entries : List ((k : κ) × β k)}
    (h : (keys entries).Nodup) : (keys (assign key value entries)).Nodup := by
  induction entries with
  | nil => simp [assign, keys]
  | cons head rest ih =>
    obtain ⟨k, v⟩ := head
    have hk : k ∉ keys rest := (List.nodup_cons.1 h).1
    have hr : (keys rest).Nodup := (List.nodup_cons.1 h).2
    simp only [assign]
    split
    · rename_i heq
      subst heq
      exact h
    · rename_i hne
      refine List.nodup_cons.2 ⟨fun hm => ?_, ih hr⟩
      rcases (mem_keys_assign value rest).1 hm with he | hm
      · exact hne he
      · exact hk hm

theorem lookup_eq_some_iff {entries : List ((k : κ) × β k)} (distinct : (keys entries).Nodup)
    (key : κ) (value : β key) : lookup key entries = some value ↔ ⟨key, value⟩ ∈ entries := by
  induction entries with
  | nil => simp [lookup]
  | cons head rest ih =>
    obtain ⟨k, v⟩ := head
    have hk : k ∉ keys rest := (List.nodup_cons.1 distinct).1
    have hr : (keys rest).Nodup := (List.nodup_cons.1 distinct).2
    by_cases h : k = key
    · subst h
      have absent : ⟨k, value⟩ ∉ rest := fun hm => hk (List.mem_map_of_mem hm)
      simp [lookup, absent, eq_comm]
    · simp [lookup, h, ih hr, Ne.symm h]

omit [DecidableEq κ] in
theorem nodup_keys_of_perm {entries other : List ((k : κ) × β k)} (h : entries.Perm other)
    (distinct : (keys other).Nodup) : (keys entries).Nodup := by
  have hk : (keys entries).Perm (keys other) := h.map _
  exact hk.nodup_iff.2 distinct

theorem lookup_of_perm {entries other : List ((k : κ) × β k)} (h : entries.Perm other)
    (distinct : (keys other).Nodup) (key : κ) : lookup key entries = lookup key other := by
  ext value
  rw [lookup_eq_some_iff (nodup_keys_of_perm h distinct), lookup_eq_some_iff distinct, h.mem_iff]

end Scaffold.Keyed
