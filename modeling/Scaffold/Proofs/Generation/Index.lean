import Mathlib.Data.List.Nodup
import Scaffold.Proofs.Generation.Runs
import Scaffold.Proofs.Rules.Order
import Scaffold.Proofs.Rules.Repetition
import Scaffold.Proofs.Storage.Literals
import Scaffold.Proofs.Storage.Signatures

/-! The index provides what the files of a directory define. The file of an entity and the index are
made by different rules that derive the name of a constructor on their own; where a directory is
emitted the names agree, entity by entity, and since the names of the files were found to be
distinct the names of the constructors are, for both come from the entity in snake case. -/

namespace Scaffold.Storage
open Model Code Files Rules

/-- Apart from three types and implementation blocks a source file holds one function, the
constructor, whose head names it. -/
def DefinesConstructor (e : Entity) (source : SourceFile) (constructor : String) : Prop :=
  ∃ (argument : String) (internal implementation parameters statements values blocks : List String),
    source.items = [internalText e internal, implementationText e implementation,
      parametersText e parameters, constructorText e constructor argument statements values] ++
        blocks ∧
    ∀ block ∈ blocks, isImplementation block = true

section Names
variable {inflector : Inflector}

theorem constructors_eq {entities : List Entity} {constructors : List String}
    (made : entities.mapM (fun e => (namesOf e inflector).map (·.constructor)) = .ok constructors) :
    constructors = entities.map fun e => "new_" ++ inflector.snake e.name ++ "_repository" := by
  refine (map_eq_of_forall₂ (g := id) ((mapM_eq_ok_iff.1 made).imp fun e constructor each => ?_)
    |>.trans (List.map_id _)).symm
  obtain ⟨names, named, rfl⟩ := map_eq_ok.1 each
  obtain ⟨_, _, rfl⟩ := exists_of_namesOf named
  rfl

theorem nodup_constructors {d : StorageDirectory}
    (distinct : (d.entities.map (d.fileName inflector)).Nodup) :
    (d.entities.map fun e => "new_" ++ inflector.snake e.name ++ "_repository").Nodup := by
  have stems : (d.entities.map fun e => inflector.snake e.name).Nodup := by
    refine List.Nodup.of_map (· ++ d.fileSuffix) ?_
    rw [List.map_map]
    exact distinct
  have injective : Function.Injective fun stem => "new_" ++ stem ++ "_repository" :=
    fun stem other same => String.append_right_inj _ |>.1 (String.append_left_inj _ |>.1 same)
  have mapped := List.Nodup.map injective stems
  rw [List.map_map] at mapped
  exact mapped

end Names

section Files
variable {inflector : Inflector} {source : SourceFile}

theorem definesConstructor_of_emitted (file : StorageFile) {module : String} {w : World}
    (emitted : ((registry.withInflector inflector).emitFile (V := parts) (k := .storageFile)
      { module := module } file w).1 = (.ok (), source)) :
    DefinesConstructor file.entity source
      ("new_" ++ inflector.snake file.entity.name ++ "_repository") := by
  have succeeded := congrArg Prod.fst emitted
  obtain ⟨g, declared⟩ := ((emitFile_ok_iff _ w).1 succeeded).exists_groups inflector
  obtain ⟨c, of, items⟩ := exists_contents_of_emitted succeeded
  obtain ⟨_, _, names⟩ := exists_of_namesOf of.names
  rw [emitted, of.items_eq, names] at items
  exact ⟨_, _, _, _, _, _, _, items,
    fun _ member => isImplementation_of_mem_blocks of declared member⟩

theorem items_of_emitted {d : StorageIndex} {module : String} {w : World}
    (emitted : ((registry.withInflector inflector).emitFile (V := parts) (k := .storageIndex)
      { module := module } d w).1 = (.ok (), source)) :
    source.items = [indexText (Text.Literal.quoted d.indexModule)
      (["data::mapping::new_db", "data::mapping::new_context_builder"] ++
        d.entities.map fun e => "new_" ++ inflector.snake e.name ++ "_repository")] := by
  rw [emitIndex_eq_answers] at emitted
  obtain ⟨constructors, named, rfl⟩ := answers_storageIndex_iff.1 emitted
  have filled : runtimeConstructors ++ constructors ≠ [] := List.cons_ne_nil _ _
  rw [renderIndex_eq d.indexModule filled, constructors_eq named]
  rfl

end Files

/-! ## The directory -/

section Directory
variable {inflector : Inflector} {path : Path} {d : StorageDirectory} {w v : World}

theorem performAll_of_emitted (emitted : (registry.withInflector inflector).emitDirectoryAt
      (V := parts) (k := .storageDirectory) path d w = (.ok (), v)) :
    ∃ v', performAll Generator.log (Generator.storageTasks (registry.withInflector inflector) path d)
      { files := w.files } = (.ok (), v') ∧ v'.files = v.files := by
  have deep : 2 ≤ Registry.depthLimit - 2 := by decide
  have tasks : ((registry.withInflector inflector).recording Generator.log).emitDirectoryAt
      (V := parts) (k := .storageDirectory) path d = performAll Generator.log
        (Generator.storageTasks (registry.withInflector inflector) path d) :=
    Registry.emitDirectoryAt_eq_performAll (V := parts) rfl
      (Generator.run_directoryBody (Registry.layered_withInflector layered_registry _) deep)
  have alike : (registry.withInflector inflector).SameRules
      ((registry.withInflector inflector).recording Generator.log) := ⟨fun _ _ => rfl, rfl⟩
  obtain ⟨result, files⟩ := Registry.dispatch_sameRules alike Registry.depthLimit
    (.emitDirectoryAt (V := parts) (k := .storageDirectory) path d) trivial w
    { files := w.files } rfl
  rw [← tasks]
  refine ⟨Prod.snd _, Prod.ext ?_ rfl, ?_⟩
  · exact result.symm.trans (Prod.ext_iff.1 emitted).1
  · exact files.symm.trans (congrArg World.files (Prod.ext_iff.1 emitted).2)

theorem delivered_of_emitted (emitted : (registry.withInflector inflector).emitDirectoryAt
      (V := parts) (k := .storageDirectory) path d w = (.ok (), v)) :
    (d.plannedFiles inflector).Nodup ∧
      (∀ f ∈ d.files (registry.withInflector inflector) path, ∃ text, f.text = .ok text) ∧
      Delivered (d.files (registry.withInflector inflector) path) v.files := by
  obtain ⟨v', ran, files⟩ := performAll_of_emitted emitted
  have done := performAll_done ran
  have checked := done (.check ((d.checkFiles inflector).mapError Failure.model))
    (List.mem_cons_of_mem _ List.mem_cons_self)
  have free : d.checkFiles inflector = .ok () := by
    rw [← mapError_eq_ok (f := Failure.model)]
    generalize (d.checkFiles inflector).mapError Failure.model = result at checked
    cases checked
    rfl
  refine ⟨StorageDirectory.checkFiles_eq_ok.1 free, fun f hf => ?_, ?_⟩
  · have written := done (.file f)
      (List.mem_cons_of_mem _ (List.mem_cons_of_mem _ (List.mem_map.2 ⟨f, hf, rfl⟩)))
    cases written with
    | file text => exact ⟨text, rfl⟩
  · have delivered := performAll_delivers rfl ran
    rw [files] at delivered
    rw [← Task.files_map_file (d.files (registry.withInflector inflector) path)]
    exact delivered

theorem lastPlanned_index (path : Path) (r : Registry parts) (indexed : d.generateIndex = true) :
    lastPlanned (d.files r path) (path.join d.indexFile).target =
      some ⟨path.join d.indexFile, r.rendering (k := Part.storageIndex) d.storageIndex⟩ := by
  rw [StorageDirectory.files, if_pos indexed]
  exact lastPlanned_concat _ _

theorem text_of_lastPlanned (r : Registry parts) (distinct : (d.plannedFiles r.inflector).Nodup)
    {e : Entity} (he : e ∈ d.entities)
    (apart : ∀ name ∈ d.plannedFiles r.inflector,
      (path.join name).target = (path.join (d.fileName r.inflector e)).target →
        name = d.fileName r.inflector e)
    {last : PlannedFile}
    (h : lastPlanned (d.files r path) (path.join (d.fileName r.inflector e)).target = some last) :
    last.text = r.rendering (k := Part.storageFile) (d.storageFile e) := by
  obtain ⟨member, leads⟩ := mem_of_lastPlanned h
  obtain ⟨distinct, -, other⟩ := List.nodup_append.1 distinct
  have named : d.fileName r.inflector e ∈ d.entities.map (d.fileName r.inflector) :=
    List.mem_map.2 ⟨e, he, rfl⟩
  rcases List.mem_append.1 member with member | member
  · obtain ⟨e', he', rfl⟩ := List.mem_map.1 member
    have same := apart _ (List.mem_append_left _ (List.mem_map.2 ⟨e', he', rfl⟩)) leads
    rw [List.inj_on_of_nodup_map distinct he' he same]
  · cases indexed : d.generateIndex with
    | false =>
      rw [indexed] at member
      cases member
    | true =>
      simp only [indexed, if_true] at member other
      obtain rfl := List.mem_singleton.1 member
      have index : d.indexFile ∈ d.plannedFiles r.inflector :=
        List.mem_append_right _ (by simp [indexed])
      exact absurd (apart _ index leads).symm (other _ named _ List.mem_cons_self)

theorem index_delivered (indexed : d.generateIndex = true)
    (delivered : Delivered (d.files (registry.withInflector inflector) path) v.files) :
    ∃ index, ((registry.withInflector inflector).emitFile (V := parts) (k := .storageIndex)
        { module := d.package } d.storageIndex {}).1 = (.ok (), index) ∧
      v.files.status (path.join d.indexFile) = .ok (.file index.render.toUTF8) := by
  have lastOf := lastPlanned_index path (registry.withInflector inflector) indexed
  obtain ⟨-, last, text, lastOf', made, status⟩ := delivered _ (mem_of_lastPlanned lastOf).1
  obtain rfl := Option.some.inj (lastOf.symm.trans lastOf')
  obtain ⟨index, filled, rfl⟩ := (Registry.rendering_eq_ok_iff (V := parts)
    (k := Part.storageIndex) (d := d.storageIndex) rfl).1 made
  exact ⟨index, filled, status⟩

theorem storageFile_delivered (distinct : (d.plannedFiles inflector).Nodup)
    (texts : ∀ f ∈ d.files (registry.withInflector inflector) path, ∃ text, f.text = .ok text)
    (delivered : Delivered (d.files (registry.withInflector inflector) path) v.files) {e : Entity}
    (he : e ∈ d.entities) :
    ∃ source, ((registry.withInflector inflector).emitFile (V := parts) (k := .storageFile)
        { module := d.package } (d.storageFile e) {}).1 = (.ok (), source) ∧
      ((∀ name ∈ d.plannedFiles inflector,
        (path.join name).target = (path.join (d.fileName inflector e)).target →
          name = d.fileName inflector e) →
        v.files.status (path.join (d.fileName inflector e)) =
          .ok (.file source.render.toUTF8)) := by
  have member := StorageDirectory.storageFile_mem_files (registry.withInflector inflector) path he
  obtain ⟨text, made⟩ := texts _ member
  obtain ⟨source, filled, rfl⟩ := (Registry.rendering_eq_ok_iff (V := parts)
    (k := Part.storageFile) (d := d.storageFile e) rfl).1 made
  refine ⟨source, filled, fun apart => ?_⟩
  obtain ⟨-, last, text, lastOf, lastText, status⟩ := delivered _ member
  have same := text_of_lastPlanned _ distinct he apart lastOf
  rw [Except.ok.inj (made.symm.trans (same.symm.trans lastText))]
  exact status

end Directory

/-- Wherever a directory with an index is emitted, the index provides the constructors of the runtime
library and then, entity by entity, the constructor that the file of the entity defines, and no two
of these have one name. The index is in the tree as it was made, and so is the file of an entity
unless the name of another file leads to it. -/
theorem index_provides_constructors (inflector : Inflector) (path : Path) (d : StorageDirectory)
    (w v : World) (indexed : d.generateIndex = true)
    (emitted : (registry.withInflector inflector).emitDirectoryAt (V := parts)
      (k := .storageDirectory) path d w = (.ok (), v)) :
    ∃ (constructors : List String) (index : SourceFile) (literal : String),
      List.Forall₂ (fun e constructor => ∃ source,
        ((registry.withInflector inflector).emitFile (V := parts) (k := .storageFile)
          { module := d.package } (d.storageFile e) {}).1 = (.ok (), source) ∧
        DefinesConstructor e source constructor ∧
        ((∀ name ∈ d.plannedFiles inflector,
          (path.join name).target = (path.join (d.fileName inflector e)).target →
            name = d.fileName inflector e) →
          v.files.status (path.join (d.fileName inflector e)) =
            .ok (.file source.render.toUTF8))) d.entities constructors ∧
      ((registry.withInflector inflector).emitFile (V := parts) (k := .storageIndex)
        { module := d.package } d.storageIndex {}).1 = (.ok (), index) ∧
      index.items = [indexText literal
        (["data::mapping::new_db", "data::mapping::new_context_builder"] ++ constructors)] ∧
      Text.Literal.read? literal = some d.indexModule ∧
      v.files.status (path.join d.indexFile) = .ok (.file index.render.toUTF8) ∧
      constructors.Nodup := by
  obtain ⟨distinct, texts, delivered⟩ := delivered_of_emitted emitted
  obtain ⟨index, filled, status⟩ := index_delivered indexed delivered
  have items := items_of_emitted filled
  have constructors := nodup_constructors (List.nodup_append.1 distinct).1
  refine ⟨d.entities.map _, index, _, ?_, filled, items, Text.Literal.read?_quoted _, status,
    constructors⟩
  rw [List.forall₂_map_right_iff, List.forall₂_same]
  intro e he
  obtain ⟨source, filled, there⟩ := storageFile_delivered distinct texts delivered he
  have defined := definesConstructor_of_emitted (d.storageFile e) filled
  exact ⟨source, filled, defined, there⟩

def kennel : StorageDirectory where
  package := "store"
  interfaceModule := "crate::model"
  generateIndex := true
  indexModule := "store"
  fileSuffix := "_gen.rs"
  indexFile := "index.rs"
  entities := [sampleOwner, samplePet]

def kennelIndex : String :=
  "\n".intercalate [
    "/// index collects the repository constructors of this module",
    "pub fn index() -> data::mapping::Module \x7b",
    "    data::mapping::Module::new(\"store\")",
    "        .provide(data::mapping::new_db)",
    "        .provide(data::mapping::new_context_builder)",
    "        .provide(new_owner_repository)",
    "        .provide(new_pet_repository)",
    "\x7d"]

theorem index_provides_constructors_kennel :
    kennel.generateIndex = true ∧ ∃ (v : World) (constructors : List String) (index : SourceFile)
        (literal : String),
      (registry.withInflector .english).emitDirectoryAt (V := parts) (k := .storageDirectory) "out"
        kennel {} = (.ok (), v) ∧
      List.Forall₂ (fun e constructor => ∃ source, DefinesConstructor e source constructor ∧
        v.files.status (Path.join "out" (kennel.fileName .english e)) =
          .ok (.file source.render.toUTF8)) kennel.entities constructors ∧
      index.items = [indexText literal
        (["data::mapping::new_db", "data::mapping::new_context_builder"] ++ constructors)] ∧
      index.items = [kennelIndex] ∧
      v.files.status "out/index.rs" = .ok (.file index.render.toUTF8) ∧ constructors.Nodup := by
  obtain ⟨v, emitted⟩ : ∃ v, (registry.withInflector .english).emitDirectoryAt (V := parts)
      (k := .storageDirectory) "out" kennel {} = (.ok (), v) :=
    ⟨_, Prod.ext (by decide +kernel) rfl⟩
  obtain ⟨constructors, index, literal, defined, made, items, -, there, distinct⟩ :=
    index_provides_constructors .english "out" kennel {} v rfl emitted
  have apart : ∀ e ∈ kennel.entities, ∀ name ∈ kennel.plannedFiles .english,
      (Path.join "out" name).target = (Path.join "out" (kennel.fileName .english e)).target →
        name = kennel.fileName .english e := by
    simp only [kennel, List.forall_mem_cons]
    decide +kernel
  have text : ((registry.withInflector .english).emitFile (V := parts) (k := .storageIndex)
      { module := "store" } kennel.storageIndex {}).1.2.items = [kennelIndex] := by decide +kernel
  have listed : index.items = [kennelIndex] :=
    (congrArg (fun outcome => outcome.2.items) made).symm.trans text
  refine ⟨rfl, v, constructors, index, literal, emitted, ?_, items, listed, there, distinct⟩
  refine forall₂_imp_of_mem (fun e he constructor => ?_) defined
  rintro ⟨source, -, defines, placed⟩
  exact ⟨source, defines, placed (apart e he)⟩

end Scaffold.Storage
