import Scaffold.Proofs.Model.References
import Scaffold.Proofs.Storage.FileNames

/-! What the check of a plan reports. The index file claims its name before any entity does, though
it is written behind all of them, and each entity claims the name of its own file; the first claim to
a name that is taken is reported together with the claim that took it. -/

namespace Scaffold.StorageDirectory
open Model
variable {d : StorageDirectory} {inflector : Inflector}

/-- What holds a file name when the files of some entities have been planned: the index file, or the
only one of the entities with that name. -/
inductive Holder (d : StorageDirectory) (inflector : Inflector) (planned : List Entity)
    (file : String) : String → Prop
  | index (generated : d.generateIndex = true) (named : d.indexFile = file) :
      Holder d inflector planned file "the index file"
  | entity {earlier : Entity}
      (only : planned.filter (fun e => d.fileName inflector e = file) = [earlier]) :
      Holder d inflector planned file ("entity " ++ earlier.name)

def indexClaims (d : StorageDirectory) : List (String × String) :=
  if d.generateIndex then [(d.indexFile, "the index file")] else []

def claim (d : StorageDirectory) (inflector : Inflector) (e : Entity) : String × String :=
  (d.fileName inflector e, "entity " ++ e.name)

theorem map_fst_indexClaims :
    d.indexClaims.map (·.1) = if d.generateIndex then [d.indexFile] else [] := by
  unfold indexClaims
  split <;> rfl

theorem nodup_indexClaims : (d.indexClaims.map (·.1)).Nodup := by
  rw [map_fst_indexClaims]
  split
  · exact List.nodup_singleton _
  · exact List.nodup_nil

theorem map_fst_claim {entities : List Entity} :
    (entities.map (d.claim inflector)).map (·.1) = entities.map (d.fileName inflector) := by
  rw [List.map_map]
  rfl

theorem checkEntities_eq_error_iff {taken : List (String × String)} {entities : List Entity}
    (distinct : (taken.map (·.1)).Nodup) {fault : ModelFault} :
    d.checkEntities inflector taken entities = .error fault ↔ ∃ before e after,
      entities = before ++ e :: after ∧
        ((taken ++ before.map (d.claim inflector)).map (·.1)).Nodup ∧
        ∃ owner, (d.fileName inflector e, owner) ∈ taken ++ before.map (d.claim inflector) ∧
          fault = .sharedFile owner ("entity " ++ e.name) (d.fileName inflector e) := by
  induction entities generalizing taken with
  | nil => exact iff_of_false error_ne_ok.symm not_exists_split_nil
  | cons e rest ih =>
    rw [checkEntities, exists_split_cons_iff]
    simp only [List.map_nil, List.append_nil, List.map_cons]
    cases found : taken.lookup (d.fileName inflector e) with
    | some earlier =>
      have held {owner : String} : (d.fileName inflector e, owner) ∈ taken ↔ owner = earlier := by
        rw [← lookup_eq_some_iff_mem distinct, found, Option.some.injEq, eq_comm]
      have present : d.fileName inflector e ∈ taken.map (·.1) :=
        List.mem_map.2 ⟨_, held.2 rfl, rfl⟩
      constructor
      · exact fun failed => .inl ⟨distinct, earlier, held.2 rfl, (Except.error.inj failed).symm⟩
      · rintro (⟨-, owner, member, rfl⟩ | ⟨_, _, _, -, nodup, -⟩)
        · rw [held.1 member]
        · rw [List.map_append, List.map_cons] at nodup
          exact absurd present (not_mem_front_of_nodup nodup)
    | none =>
      have absent : d.fileName inflector e ∉ taken.map (·.1) := by
        rw [← isSome_lookup_iff, found]
        exact Bool.false_ne_true
      have distinct' : ((taken ++ [d.claim inflector e]).map (·.1)).Nodup :=
        nodup_keys_concat distinct absent _
      change d.checkEntities inflector (taken ++ [d.claim inflector e]) rest = .error fault ↔ _
      rw [ih distinct']
      simp only [List.append_assoc, List.singleton_append]
      refine (or_iff_right ?_).symm
      rintro ⟨-, owner, held, -⟩
      exact absent (List.mem_map.2 ⟨_, held, rfl⟩)

theorem holder_iff {before : List Entity} {file owner : String}
    (distinct : ((d.indexClaims ++ before.map (d.claim inflector)).map (·.1)).Nodup) :
    (file, owner) ∈ d.indexClaims ++ before.map (d.claim inflector) ↔
      d.Holder inflector before file owner := by
  rw [List.map_append, map_fst_claim] at distinct
  have distinct := (List.nodup_append.1 distinct).2.1
  rw [List.mem_append, List.mem_map]
  constructor
  · rintro (held | ⟨earlier, he, same⟩)
    · unfold indexClaims at held
      split at held
      · rename_i generated
        obtain ⟨rfl, rfl⟩ := Prod.mk.inj (List.mem_singleton.1 held)
        exact .index generated rfl
      · cases held
    · obtain ⟨rfl, rfl⟩ := Prod.mk.inj same
      exact .entity (filter_eq_singleton distinct he)
  · rintro (⟨generated, rfl⟩ | @⟨earlier, only⟩)
    · rw [indexClaims, if_pos generated]
      exact .inl List.mem_cons_self
    · have member : earlier ∈ before.filter (fun e => d.fileName inflector e = file) :=
        only ▸ List.mem_cons_self
      obtain ⟨he, same⟩ := List.mem_filter.1 member
      exact .inr ⟨earlier, he, Prod.ext (of_decide_eq_true same) rfl⟩

/-- The check of a plan accepts distinct names only. What it reports otherwise is the first entity
in order whose name is taken, what has taken the name, and the name. -/
theorem checkFiles_outcome (d : StorageDirectory) (inflector : Inflector) :
    (d.checkFiles inflector = .ok () ↔ (d.plannedFiles inflector).Nodup) ∧
    ∀ fault, d.checkFiles inflector = .error fault ↔ ∃ before e after owner,
      d.entities = before ++ e :: after ∧
      ((if d.generateIndex then [d.indexFile] else []) ++
        before.map (d.fileName inflector)).Nodup ∧
      d.Holder inflector before (d.fileName inflector e) owner ∧
      fault = .sharedFile owner ("entity " ++ e.name) (d.fileName inflector e) ∧
      fault.message = owner ++ " and " ++ ("entity " ++ e.name) ++ " would both be written to " ++
        d.fileName inflector e := by
  refine ⟨checkFiles_eq_ok, fun fault => ?_⟩
  change d.checkEntities inflector d.indexClaims d.entities = .error fault ↔ _
  rw [checkEntities_eq_error_iff nodup_indexClaims]
  constructor
  · rintro ⟨before, e, after, split, distinct, owner, held, rfl⟩
    have holder := (holder_iff distinct).1 held
    rw [List.map_append, map_fst_indexClaims, map_fst_claim] at distinct
    exact ⟨before, e, after, owner, split, distinct, holder, rfl, rfl⟩
  · rintro ⟨before, e, after, owner, split, distinct, holder, rfl, -⟩
    rw [← map_fst_indexClaims, ← map_fst_claim, ← List.map_append] at distinct
    exact ⟨before, e, after, split, distinct, owner, (holder_iff distinct).2 holder, rfl⟩

end Scaffold.StorageDirectory
