import Scaffold.Proofs.Generation.RuleLists
import Scaffold.Proofs.Generation.Runs
import Scaffold.Proofs.Rules.Extensions
import Scaffold.Proofs.Storage.Acceptance

/-! Extensions of the bundled storage rules. The rules for the file of an entity only ask about
descriptors of that entity. So rules merged behind them that apply to none of these do not change
the file, whatever they do with the files of other entities. -/

namespace Scaffold.Storage
open Model Code Files Rules

theorem closed_registry (file : StorageFile) : registry.tables.Closed file.Covers where
  file := by
    intro k d covered rule hr inflector
    rw [rulesFor_file] at hr
    cases k with
    | storageFile =>
      obtain rfl := Option.some.inj covered
      simp only [fileRules, List.mem_cons, List.not_mem_nil, or_false] at hr
      rcases hr with rfl | rfl | rfl
      · exact asks_fileBody inflector file fun c about _ => about
      · exact asks_associateFileBody inflector file
      · exact asks_listByAssociatedKeyFileBody inflector file
    | storageIndex => cases covered
    | _ => cases hr
  fragment := by
    intro k d covered rule hr inflector acc
    rw [rulesFor_fragment] at hr
    cases k with
    | leadingFields =>
      obtain rfl := List.mem_singleton.1 hr
      exact Script.asks_pure _
    | constructorBody =>
      obtain rfl := Option.some.inj covered
      obtain rfl := List.mem_singleton.1 hr
      exact asks_constructorBodyBody inflector acc _ rfl
    | implementationFields =>
      simp only [fragmentRules, List.mem_cons, List.not_mem_nil, or_false] at hr
      rcases hr with rfl | rfl | rfl | rfl
      · exact asks_crudFieldBody inflector acc d
      · exact (Script.asks_lift _).bind fun _ => Script.asks_pure _
      · exact Script.asks_pure _
      · exact asks_filterKeysFieldBody inflector acc d
    | fieldValues =>
      obtain rfl := Option.some.inj covered
      simp only [fragmentRules, List.mem_cons, List.not_mem_nil, or_false] at hr
      rcases hr with rfl | rfl | rfl | rfl | rfl
      · exact asks_templateValueBody inflector acc ⟨file.entity, file.interfaceModule⟩
      · exact asks_crudValueBody inflector acc _ rfl
      · exact asks_searchValueBody inflector acc _
      · exact Script.asks_pure _
      · exact asks_filterKeysValueBody inflector acc _
    | parameterFields =>
      obtain rfl := List.mem_singleton.1 hr
      exact Script.asks_pure _
    | _ => cases hr

theorem closed_registry_index : registry.tables.Closed fun (k : Part) _ => k = .storageIndex where
  file := by
    rintro k d rfl rule hr inflector
    rw [rulesFor_file] at hr
    obtain rfl := List.mem_singleton.1 hr
    exact asks_indexBody inflector d
  fragment := by
    rintro k d rfl rule hr
    rw [rulesFor_fragment] at hr
    cases hr

/-- All rules are for the parts of the files of entities. -/
structure OnEntities (s : RuleSet parts) : Prop where
  directory : ∀ p, (∀ file : StorageFile, file.part? p = none) → s.tables.directory.rulesFor p = []
  file : ∀ p, (∀ file : StorageFile, file.part? p = none) → s.tables.file.rulesFor p = []
  fragment : ∀ p, (∀ file : StorageFile, file.part? p = none) → s.tables.fragment.rulesFor p = []

/-- File and fragment rules only apply to the parts of entities that pass the test. -/
structure SelectsEntities (s : RuleSet parts) (test : Entity → Bool) : Prop where
  file : ∀ (p : Part) (d : p.Descriptor), ∀ rule ∈ s.tables.file.rulesFor p,
    rule.applies d = true → (p.entity? d).any test = true
  fragment : ∀ (p : Part) (d : p.Descriptor), ∀ rule ∈ s.tables.fragment.rulesFor p,
    rule.applies d = true → (p.entity? d).any test = true

theorem SelectsEntities.passesOver {s : RuleSet parts} {test : Entity → Bool}
    (selects : SelectsEntities s test) {file : StorageFile} (other : test file.entity = false) :
    s.PassesOver file.Covers where
  file p d covered rule hr := by
    have told := selects.file p d rule hr
    rw [covered.entity?, Option.any_some, other] at told
    exact Bool.eq_false_iff.2 fun applies => Bool.false_ne_true (told applies)
  fragment p d covered rule hr := by
    have told := selects.fragment p d rule hr
    rw [covered.entity?, Option.any_some, other] at told
    exact Bool.eq_false_iff.2 fun applies => Bool.false_ne_true (told applies)

section Merges
variable {r : Registry parts} {s : RuleSet parts}

theorem OnEntities.passesOver_index (on : OnEntities s) :
    s.PassesOver fun (k : Part) _ => k = .storageIndex where
  file := by
    rintro k d rfl rule hr
    rw [on.file .storageIndex fun _ => rfl] at hr
    cases hr
  fragment := by
    rintro k d rfl rule hr
    rw [on.fragment .storageIndex fun _ => rfl] at hr
    cases hr

/-- The location is the file of an entity to whose parts some file or fragment rule applies. -/
def Selected (s : RuleSet parts) (inflector : Inflector) (path : Path) (d : StorageDirectory)
    (l : Location) : Prop :=
  ∃ e ∈ d.entities, ¬ s.PassesOver (d.storageFile e).Covers ∧
    (path.join (d.fileName inflector e)).target = l

theorem preserves_storageFile (bundled : r.tables = registry.tables) (quiet : s.tables.Quiet)
    (edition : Nat) (path : Path) (d : StorageDirectory) {e : Entity} (member : e ∈ d.entities)
    (depth : Nat) :
    (Script.emitFileAt (V := parts) (k := .storageFile) (path.join (d.fileName r.inflector e))
      (d.storageFile e)).Preserves (World.SameBut (Selected s r.inflector path d))
        (r.dispatch (depth + 1)) ((r.merge edition s).dispatch (depth + 1)) := by
  have bundledQuiet : r.tables.Quiet := bundled ▸ layered_registry.quiet
  by_cases passes : s.PassesOver (d.storageFile e).Covers
  · have closed : r.tables.Closed (d.storageFile e).Covers := bundled ▸ closed_registry _
    exact Registry.preserves_emitFileAt_of_passesOver (V := parts) (k := Part.storageFile)
      bundledQuiet quiet closed passes edition rfl
  · exact Registry.preserves_emitFileAt (V := parts) (k := Part.storageFile) bundledQuiet
      (bundledQuiet.append edition quiet) (.inl ⟨e, member, passes, rfl⟩)

theorem preserves_storageIndex (bundled : r.tables = registry.tables) (on : OnEntities s)
    (quiet : s.tables.Quiet) (edition : Nat) (path : Path) (d : StorageDirectory)
    {S : Location → Prop} (depth : Nat) :
    (Script.emitFileAt (V := parts) (k := .storageIndex) (path.join d.indexFile)
      d.storageIndex).Preserves (World.SameBut S) (r.dispatch (depth + 1))
        ((r.merge edition s).dispatch (depth + 1)) := by
  have bundledQuiet : r.tables.Quiet := bundled ▸ layered_registry.quiet
  have closed : r.tables.Closed fun (k : Part) _ => k = .storageIndex :=
    bundled ▸ closed_registry_index
  exact Registry.preserves_emitFileAt_of_passesOver (V := parts) (k := Part.storageIndex)
    bundledQuiet quiet closed on.passesOver_index edition rfl

theorem preserves_directoryBody (bundled : r.tables = registry.tables) (on : OnEntities s)
    (quiet : s.tables.Quiet) (edition : Nat) (path : Path) (d : StorageDirectory) (depth : Nat) :
    (directoryBody r.inflector path d).Preserves (World.SameBut (Selected s r.inflector path d))
      (r.dispatch (depth + 1)) ((r.merge edition s).dispatch (depth + 1)) := by
  have files := Script.preserves_forM fun e (member : e ∈ d.entities) =>
    preserves_storageFile bundled quiet edition path d member depth
  refine (Script.preserves_lift _).bind (files.bind ?_)
  cases d.generateIndex with
  | false => exact Script.preserves_lift (.ok ())
  | true => exact preserves_storageIndex bundled on quiet edition path d depth

theorem rulesFor_merge_directory (bundled : r.tables = registry.tables) (on : OnEntities s)
    (edition : Nat) :
    (r.merge edition s).tables.directory.rulesFor .storageDirectory =
      [⟨Part.storageDirectory.always, directoryBody⟩] := by
  have further := on.directory .storageDirectory fun _ => rfl
  simp only [Registry.merge, Tables.append, Table.rulesFor_append, bundled, further]
  rfl

/-- An extension of the bundled rules does not leak. The file of an entity to none of whose
descriptors the further rules apply is filled as without them, whatever their bodies do. If the
further rules are for parts of the files of entities and write no files of their own, and a storage
directory is written both ways, then only the files of entities to which they apply may differ. -/
theorem extension_confined (r : Registry parts) (bundled : r.tables = registry.tables)
    (s : RuleSet parts) (edition : Nat) :
    (∀ file : StorageFile, s.PassesOver file.Covers → ∀ (source : SourceFile) (w : World),
      (r.merge edition s).emitFile (V := parts) (k := .storageFile) source file w =
        r.emitFile (V := parts) (k := .storageFile) source file w) ∧
    (OnEntities s → s.tables.Quiet →
      ∀ (path : Path) (d : StorageDirectory) (w after extended : World),
        r.emitDirectoryAt (V := parts) (k := .storageDirectory) path d w = (.ok (), after) →
        (r.merge edition s).emitDirectoryAt (V := parts) (k := .storageDirectory) path d w =
          (.ok (), extended) →
        ∀ l, ¬ Selected s r.inflector path d l →
          extended.files.node? l = after.files.node? l) := by
  constructor
  · intro file passes source w
    have closed : r.tables.Closed file.Covers := bundled ▸ closed_registry file
    have agree := (Registry.SameOn.merge passes edition).agree (R := Eq) closed Registry.depthLimit
    have same := agree (.emitFile (k := Part.storageFile) source file) rfl w w rfl
    exact (Prod.ext same.1 same.2).symm
  · intro on quiet path d w after extended ran ran' l other
    have rules : r.tables.directory.rulesFor .storageDirectory =
        [⟨Part.storageDirectory.always, directoryBody⟩] := bundled ▸ rfl
    have filled := preserves_directoryBody bundled on quiet edition path d (Registry.depthLimit - 2)
    have whole := Registry.preserves_emitDirectoryAt (V := parts) (k := Part.storageDirectory) rules
      (rulesFor_merge_directory bundled on edition) rfl filled
    have same : World.SameBut (Selected s r.inflector path d) after extended :=
      whole (FileTree.SameBut.refl _ w.files) ran ran'
    exact (same.node?_eq other).symm

end Merges

def tenantRules : RuleSet parts :=
  (RuleSet.empty.addFragmentRule
    (Part.internalFields.when fun part => part.entity.name = "Owner")
    fun _ acc _ => return acc.push "pub tenant_id: String").addFileRule
    (Part.internalFunctions.when fun part => part.entity.name = "Owner")
    fun _ _ => FileScript.add "impl OwnerInternal \x7b\x7d"

def shelter : StorageDirectory where
  package := "store"
  interfaceModule := "crate::model"
  generateIndex := true
  indexModule := "store"
  fileSuffix := "_gen.rs"
  indexFile := "index.rs"
  entities := [sampleOwner, samplePet]

theorem onEntities_tenantRules : OnEntities tenantRules where
  directory p _ := rfl
  file p outside := by
    cases p with
    | internalFunctions => cases outside ⟨"", "", none, samplePet⟩
    | _ => rfl
  fragment p outside := by
    cases p with
    | internalFields => cases outside ⟨"", "", none, samplePet⟩
    | _ => rfl

theorem quiet_tenantRules : tenantRules.tables.Quiet where
  file := Table.all_empty.push 0 fun _ _ => FileScript.asks_add _
  fragment := Table.all_empty.push 0 fun _ _ _ => Script.asks_pure _

theorem selectsEntities_tenantRules :
    SelectsEntities tenantRules fun e => decide (e.name = "Owner") where
  file p d rule hr applies := by
    cases p with
    | internalFunctions =>
      obtain rfl := List.mem_singleton.1 hr
      exact applies
    | _ => cases hr
  fragment p d rule hr applies := by
    cases p with
    | internalFields =>
      obtain rfl := List.mem_singleton.1 hr
      exact applies
    | _ => cases hr

theorem extension_confined_shelter :
    (∀ (source : SourceFile) (w : World),
      (registry.merge 0 tenantRules).emitFile (V := parts) (k := .storageFile) source
          (shelter.storageFile samplePet) w =
        registry.emitFile (V := parts) (k := .storageFile) source
          (shelter.storageFile samplePet) w) ∧
    "impl OwnerInternal \x7b\x7d" ∈
      ((registry.merge 0 tenantRules).emitFile (V := parts) (k := .storageFile)
        { module := "store" } (shelter.storageFile sampleOwner) {}).1.2.items ∧
    ∃ after extended,
      registry.emitDirectoryAt (V := parts) (k := .storageDirectory) "out" shelter {} =
        (.ok (), after) ∧
      (registry.merge 0 tenantRules).emitDirectoryAt (V := parts) (k := .storageDirectory) "out"
        shelter {} = (.ok (), extended) ∧
      ∀ l, l ≠ ["out", "owner_gen.rs"] → extended.files.node? l = after.files.node? l := by
  have confined := extension_confined registry rfl tenantRules 0
  have passes : tenantRules.PassesOver (shelter.storageFile samplePet).Covers :=
    selectsEntities_tenantRules.passesOver (by decide)
  obtain ⟨after, ran⟩ : ∃ after, registry.emitDirectoryAt (V := parts) (k := .storageDirectory)
      "out" shelter {} = (.ok (), after) := ⟨_, Prod.ext (by decide +kernel) rfl⟩
  obtain ⟨extended, ran'⟩ : ∃ extended, (registry.merge 0 tenantRules).emitDirectoryAt (V := parts)
      (k := .storageDirectory) "out" shelter {} = (.ok (), extended) :=
    ⟨_, Prod.ext (by decide +kernel) rfl⟩
  refine ⟨confined.1 _ passes, by decide +kernel, after, extended, ran, ran',
    fun l other => ?_⟩
  refine confined.2 onEntities_tenantRules quiet_tenantRules "out" shelter {} _ _ ran ran' l ?_
  rintro ⟨e, member, selected, rfl⟩
  simp only [shelter, List.mem_cons, List.not_mem_nil, or_false] at member
  rcases member with rfl | rfl
  · exact other (by decide)
  · exact selected passes

end Scaffold.Storage
