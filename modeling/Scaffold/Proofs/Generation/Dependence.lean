import Scaffold.Proofs.Generation.Runs
import Scaffold.Proofs.Interface.Traits
import Scaffold.Proofs.Model.Dependence
import Scaffold.Proofs.Storage.Associations

/-! What the generated code for an entity depends on. Two documents with the same sections that
share a declaration, and agree on the shapes of what it mentions, plan the same storage file for it
and put the same trait into their interface files; other declarations and the order of all of them
do not enter. In particular reordering a document leaves the file of every entity as it was. -/

namespace Scaffold
open Model Code Rules Settings

namespace Interface

/-- At the place of an entity, an interface file holds what the entity contributes. It fails with
the fault of the first entity for which there is one. -/
def Contributes (inflector : Inflector) (file : InterfaceFile) (e : Entity)
    (trait : Except Failure (List String)) : Prop :=
  ∃ front back, file.entities = front ++ e :: back ∧ ∀ (source : SourceFile) (w : World),
    let emitted := ((registry.withInflector inflector).emitFile (V := parts) (k := .interfaceFile)
      source file w).1
    let before := front.mapM (traitItems inflector)
    let after := back.mapM (traitItems inflector)
    emitted.1 = (do let _ ← before; let _ ← trait; let _ ← after; return ()) ∧
      ∀ earlier group later, before = .ok earlier → trait = .ok group → after = .ok later →
        emitted.2.items = source.items ++ (earlier.flatten ++ (group ++ later.flatten))

theorem contributes_traitItems (inflector : Inflector) {file : InterfaceFile} {e : Entity}
    (member : e ∈ file.entities) : Contributes inflector file e (traitItems inflector e) := by
  obtain ⟨front, back, entities⟩ := List.append_of_mem member
  have each : file.entities.mapM (traitItems inflector) = (do
      let earlier ← front.mapM (traitItems inflector)
      let group ← traitItems inflector e
      let later ← back.mapM (traitItems inflector)
      return earlier ++ group :: later) := by
    rw [entities, List.mapM_append, List.mapM_cons]
    simp only [bind_assoc, pure_bind]
  refine ⟨front, back, entities, fun source w => ?_⟩
  rw [emitFile_eq_answers]
  refine ⟨?_, fun earlier group later before trait after => ?_⟩
  · change (answers inflector (.emitFile (V := parts) (k := .interfaceFile) source file)).1 = _
    rw [answers_interfaceFile_fst, each]
    cases front.mapM (traitItems inflector) with
    | error e => rfl
    | ok earlier =>
      cases traitItems inflector e with
      | error e => rfl
      | ok group => cases back.mapM (traitItems inflector) <;> rfl
  · rw [before, trait, after] at each
    have made : answers inflector (.emitFile (V := parts) (k := .interfaceFile) source file) =
        (.ok (), _) := answers_interfaceFile_iff.2 ⟨_, each, rfl⟩
    change (answers inflector
      (.emitFile (V := parts) (k := .interfaceFile) source file)).2.items = _
    rw [made]
    change source.items ++ _ = _
    rw [List.flatten_append, List.flatten_cons]

end Interface

namespace Generator

def interfacesOf (d : Document) (output : Output) (entities : List Entity) : InterfaceFile :=
  ⟨d.interfaces.module, output.header?, entities⟩

/-- A declaration makes one entity in two documents, with one planned storage file, which is a path
with a text or a fault, and one contribution to the interface files. -/
def SameCode (output : Output) (spec : EntitySpec) (d d' : Document)
    (entities entities' : List Entity) : Prop :=
  ∃ e, entities.filter (·.name = spec.name) = [e] ∧ entities'.filter (·.name = spec.name) = [e] ∧
    (∀ (r : Registry parts) (path : Path) (target : StorageSection),
      d.storage? = some target → d'.storage? = some target ∧
        ∃ planned : PlannedFile,
          planned.path = path.join ((directoryOf d target output entities).fileName r.inflector e) ∧
          planned.text = r.rendering (k := Part.storageFile)
            ((directoryOf d target output entities).storageFile e) ∧
          planned ∈ (directoryOf d target output entities).files r path ∧
          planned ∈ (directoryOf d' target output entities').files r path) ∧
    ∀ inflector, ∃ trait,
      trait = Interface.traitItems inflector e ∧
      Interface.Contributes inflector (interfacesOf d output entities) e trait ∧
      Interface.Contributes inflector (interfacesOf d' output entities') e trait

section Documents
variable {d d' : Document} {entities entities' : List Entity} {spec : EntitySpec}

theorem sameCode_of_sameMentions (output : Output) (interfaces : d.interfaces = d'.interfaces)
    (storage : d.storage? = d'.storage?) (resolved : d.resolve = .ok entities)
    (resolved' : d'.resolve = .ok entities') (declared : spec ∈ d.entities)
    (declared' : spec ∈ d'.entities) (mentions : d.SameMentions d' spec) :
    SameCode output spec d d' entities entities' := by
  obtain ⟨e, he, he', named⟩ :=
    Document.exists_common_entity resolved resolved' declared declared' mentions
  have one := filter_eq_singleton (Document.nodup_names resolved) he
  have one' := filter_eq_singleton (Document.nodup_names resolved') he'
  rw [named] at one one'
  refine ⟨e, one, one', fun r path target section_ => ⟨storage ▸ section_, ?_⟩, fun inflector => ?_⟩
  · have file : (directoryOf d' target output entities').storageFile e =
        (directoryOf d target output entities).storageFile e := by
      rw [StorageDirectory.storageFile, StorageDirectory.storageFile, directoryOf, directoryOf,
        interfaces]
    have listed := (directoryOf d' target output entities').storageFile_mem_files r path he'
    rw [file] at listed
    exact ⟨_, rfl, rfl, (directoryOf d target output entities).storageFile_mem_files r path he,
      listed⟩
  · exact ⟨_, rfl, Interface.contributes_traitItems inflector he,
      Interface.contributes_traitItems inflector he'⟩

theorem sameMentions_of_perm (resolved : d.resolve = .ok entities)
    (perm : d'.entities.Perm d.entities) (spec : EntitySpec) : d.SameMentions d' spec := by
  obtain ⟨shapes, of, -⟩ := Document.resolve_eq_ok_iff.1 resolved
  have distinct : (d.entities.map (·.name)).Nodup := of.map_name ▸ of.distinct
  intro name _ target ht target' ht' named named'
  have same : target = target' :=
    List.inj_on_of_nodup_map distinct ht (perm.mem_iff.1 ht') (named.trans named'.symm)
  exact same ▸ ⟨rfl, rfl, rfl⟩

end Documents

/-- The code generated for a declaration depends on the declaration, the sections of the document
and the shapes of what it mentions. Reordering the declarations of a document reorders its entities
in the same way and leaves the code of each as it was. -/
theorem generated_code_local (output : Output) :
    (∀ (d d' : Document) (entities entities' : List Entity) (spec : EntitySpec),
      d.interfaces = d'.interfaces → d.storage? = d'.storage? → d.resolve = .ok entities →
      d'.resolve = .ok entities' → spec ∈ d.entities → spec ∈ d'.entities →
      d.SameMentions d' spec → SameCode output spec d d' entities entities') ∧
    ∀ (d d' : Document) (entities : List Entity),
      d.interfaces = d'.interfaces → d.storage? = d'.storage? → d.resolve = .ok entities →
      d'.entities.Perm d.entities →
      ∃ entities', d'.resolve = .ok entities' ∧ entities'.Perm entities ∧
        (d'.entities.zip entities').Perm (d.entities.zip entities) ∧
        ∀ spec ∈ d.entities, SameCode output spec d d' entities entities' := by
  constructor
  · intro d d' entities entities' spec interfaces storage resolved resolved' declared declared'
    exact sameCode_of_sameMentions output interfaces storage resolved resolved' declared declared'
  · intro d d' entities interfaces storage resolved perm
    obtain ⟨entities', resolved', zipped⟩ := Document.resolve_perm resolved perm
    have length : entities.length = d.entities.length :=
      (Document.resolve_faithful resolved).length_eq.symm
    have length' : entities'.length = d'.entities.length :=
      (Document.resolve_faithful resolved').length_eq.symm
    have reordered := zipped.map Prod.snd
    rw [List.map_snd_zip (Nat.le_of_eq length),
      List.map_snd_zip (Nat.le_of_eq length')] at reordered
    refine ⟨entities', resolved', reordered, zipped, fun spec declared => ?_⟩
    exact sameCode_of_sameMentions output interfaces storage resolved resolved' declared
      (perm.mem_iff.2 declared) (sameMentions_of_perm resolved perm spec)

def stocked : Document :=
  { Storage.catalogue with storage? := some { module := "store", path := "store" } }

/-- The product of the catalogue among other entities. The category that it refers to has its old
table and key, and other capabilities. -/
def restocked : Document :=
  { stocked with
    entities := [
      { name := "Supplier", capabilities := [.search, .associate "Supplier"] },
      { name := "Category", fields := [⟨"name", "String", "key"⟩]
        capabilities := [.search, .storage { tableName? := some "cats" }] }] ++
      stocked.entities.take 1 }

theorem generated_code_local_stocked :
    (∃ entities entities' spec, stocked.resolve = .ok entities ∧ restocked.resolve = .ok entities' ∧
      stocked.entities ≠ restocked.entities ∧ spec ∈ stocked.entities ∧ spec ∈ restocked.entities ∧
      SameCode {} spec stocked restocked entities entities') ∧
    ∃ entities entities', stocked.resolve = .ok entities ∧
      ({ stocked with entities := stocked.entities.reverse } : Document).resolve = .ok entities' ∧
      entities'.Perm entities ∧ ∀ spec ∈ stocked.entities, SameCode {} spec stocked
        { stocked with entities := stocked.entities.reverse } entities entities' := by
  have resolved : stocked.resolve = .ok _ := rfl
  have resolved' : restocked.resolve = .ok _ := rfl
  have shapes : ∀ capability ∈ (stocked.entities.head (by decide)).capabilities,
      ∀ target ∈ stocked.entities, capability.target? = some target.name →
        ∀ target' ∈ restocked.entities, target'.name = target.name →
          target.typePath = target'.typePath ∧ target.fields = target'.fields ∧
            target.capabilities.filterMap CapabilitySpec.storage? =
              target'.capabilities.filterMap CapabilitySpec.storage? := by decide
  constructor
  · refine ⟨_, _, stocked.entities.head (by decide), resolved, resolved', by decide, by decide,
      by decide, (generated_code_local {}).1 stocked restocked _ _ _ rfl rfl resolved resolved'
        (by decide) (by decide) ?_⟩
    rintro name ⟨capability, member, mentioned⟩ target ht target' ht' rfl named
    obtain ⟨typePath, fields, storage⟩ :=
      shapes capability member target ht mentioned target' ht' named
    exact ⟨typePath, fields, storage⟩
  · obtain ⟨entities', reversed, perm, -, same⟩ := (generated_code_local {}).2 stocked
      { stocked with entities := stocked.entities.reverse } _ rfl rfl resolved
      (List.reverse_perm _)
    exact ⟨_, entities', resolved, reversed, perm, same⟩

end Generator
end Scaffold
