import Scaffold.Proofs.Interface.Traits
import Scaffold.Proofs.Storage.Contents

/-! Which entities a storage file can be generated for. The rules fail in scattered places: names ask
for at most one set of storage options, stored operations for a key, filtered keys and associations
for a single key. Together they accept exactly the entities described here, and the interfaces of
such entities can always be generated. -/

namespace Scaffold.Storage
open Model Code Rules

def referents (e : Entity) : List Entity :=
  childrenOf e ++ (listingsOf e).map (·.associated)

/-- What an entity has to be like for its storage file. -/
structure Supported (e : Entity) : Prop where
  options : (e.capabilities.getAll Capability.storageType).length ≤ 1
  operations : (e.capabilities.getAll Capability.crudType).length ≤ 1
  storedKey : ∀ operations ∈ e.capabilities.getAll Capability.crudType,
    operations.isEmpty = false → e.keyFields ≠ []
  predicates : e.has Capability.searchType →
    (e.capabilities.getAll Capability.searchPredicatesType).length ≤ 1
  filteredKey : e.has Capability.filterKeysType → e.keyFields.length = 1
  associatedKey : e.has Capability.associateType ∨ e.has Capability.listByAssociatedKeyType →
    e.keyFields.length = 1
  referents : ∀ other ∈ referents e, other.keyFields.length = 1 ∧
    (other.capabilities.getAll Capability.storageType).length ≤ 1

/-! ## Fragments -/

section Bodies
variable {answers : Answers parts} {inflector : Inflector} {acc : Fragment} {part : LinkedPart}

theorem exists_hasOperations_bind_iff {β : Type} {e : Entity} {step : Bool → Except Failure β}
    (idle : ∃ b, step false = .ok b) :
    (∃ b, hasOperations e >>= step = .ok b) ↔
      (e.capabilities.getAll Capability.crudType).length ≤ 1 ∧
        ∀ operations ∈ e.capabilities.getAll Capability.crudType, operations.isEmpty = false →
          ∃ b, step true = .ok b := by
  unfold hasOperations
  cases found : e.capabilities.get Capability.crudType with
  | error fault =>
    refine iff_of_false nofun fun ⟨few, _⟩ => ?_
    obtain ⟨answer, ok⟩ := (Bag.exists_get_iff _ _).2 few
    rw [found] at ok
    cases ok
  | ok answer =>
    rw [(Bag.get_eq_ok_iff _ _ answer).1 found]
    cases answer with
    | none => exact iff_of_true idle ⟨Nat.zero_le 1, nofun⟩
    | some operations =>
      change (∃ b, step (!operations.isEmpty) = .ok b) ↔ _
      cases empty : operations.isEmpty <;> simp [empty, idle]

theorem exists_crudFieldBody_iff :
    (∃ made, (crudFieldBody inflector acc part).value answers = .ok made) ↔
      (part.entity.capabilities.getAll Capability.crudType).length ≤ 1 ∧
        ∀ operations ∈ part.entity.capabilities.getAll Capability.crudType,
          operations.isEmpty = false →
            (part.entity.capabilities.getAll Capability.storageType).length ≤ 1 ∧
              part.entity.keyFields ≠ [] := by
  simp only [crudFieldBody, Script.value_bind, Script.value_lift, Script.value_ite,
    Script.value_pure]
  rw [exists_hasOperations_bind_iff ⟨acc, rfl⟩]
  simp only [if_true, exists_bind_iff]
  simp [exists_namesOf_iff, exists_keyOf_iff]

theorem exists_searchFieldBody_iff :
    (∃ made, (searchFieldBody inflector acc part).value answers = .ok made) ↔
      (part.entity.capabilities.getAll Capability.storageType).length ≤ 1 := by
  simp only [searchFieldBody, Script.value_bind, Script.value_lift, Script.value_pure,
    exists_bind_iff]
  simp [exists_namesOf_iff]

theorem exists_filterKeysFieldBody_iff :
    (∃ made, (filterKeysFieldBody inflector acc part).value answers = .ok made) ↔
      (part.entity.capabilities.getAll Capability.storageType).length ≤ 1 ∧
        part.entity.keyFields ≠ [] := by
  simp only [filterKeysFieldBody, Script.value_bind, Script.value_lift, Script.value_pure,
    exists_bind_iff]
  simp [exists_namesOf_iff, exists_keyOf_iff]

variable {template : String}

theorem exists_templateValueBody (bound : acc.binding templateSlot = .ok template) :
    ∃ made, (templateValueBody inflector acc part).value answers = .ok made := by
  simp only [templateValueBody, Script.value_bind, Script.value_lift, Script.value_pure, bound]
  exact ⟨_, rfl⟩

theorem exists_crudValueBody_iff (bound : acc.binding templateSlot = .ok template)
    (further : ∃ made, answers (.buildFragment (V := parts) (k := .crudOptions) .empty
      ⟨part.entity⟩) = .ok made) :
    (∃ made, (crudValueBody inflector acc part).value answers = .ok made) ↔
      (part.entity.capabilities.getAll Capability.crudType).length ≤ 1 ∧
        ∀ operations ∈ part.entity.capabilities.getAll Capability.crudType,
          operations.isEmpty = false →
            (part.entity.capabilities.getAll Capability.storageType).length ≤ 1 := by
  obtain ⟨made, further⟩ := further
  simp only [crudValueBody, Script.value_bind, Script.value_lift, Script.value_ite,
    Script.value_pure, Script.value_buildFragment]
  rw [exists_hasOperations_bind_iff ⟨acc, rfl⟩]
  simp only [if_true, exists_bind_iff, bound, further]
  simp [exists_namesOf_iff]

theorem exists_searchValueBody_iff (bound : acc.binding templateSlot = .ok template) :
    (∃ made, (searchValueBody inflector acc part).value answers = .ok made) ↔
      (part.entity.capabilities.getAll Capability.searchPredicatesType).length ≤ 1 := by
  rw [← Bag.exists_get_iff]
  simp only [searchValueBody, Script.value_bind, Script.value_lift, Script.value_pure,
    exists_bind_iff, bound]
  simp only [Except.ok.injEq, exists_eq', and_true, exists_eq_left']
  exact exists_congr fun _ => mapError_eq_ok

theorem exists_filterKeysValueBody_iff (bound : acc.binding templateSlot = .ok template) :
    (∃ made, (filterKeysValueBody inflector acc part).value answers = .ok made) ↔
      part.entity.keyFields.length = 1 := by
  simp only [filterKeysValueBody, Script.value_bind, Script.value_lift, Script.value_pure,
    exists_bind_iff, bound]
  simp [exists_singleKeyOf_iff]

end Bodies

section Parts
variable (inflector : Inflector) (acc : Fragment) (part : LinkedPart)

theorem exists_implementationFields_iff
    (options : (part.entity.capabilities.getAll Capability.storageType).length ≤ 1) :
    (∃ made, answers inflector
      (.buildFragment (V := parts) (k := .implementationFields) acc part) = .ok made) ↔
      (part.entity.has Capability.crudType →
        (part.entity.capabilities.getAll Capability.crudType).length ≤ 1 ∧
          ∀ operations ∈ part.entity.capabilities.getAll Capability.crudType,
            operations.isEmpty = false → part.entity.keyFields ≠ []) ∧
        (part.entity.has Capability.filterKeysType → part.entity.keyFields ≠ []) := by
  rw [exists_answers_buildFragment_iff inflector (k := .implementationFields) (by decide)]
  simp only [fragmentRules, List.forall_mem_cons, Rule.applies, fieldsOf, Part.when,
    Key.admits_when, exists_crudFieldBody_iff, exists_searchFieldBody_iff,
    exists_filterKeysFieldBody_iff, options, true_and]
  refine and_congr_right fun _ => ⟨fun h => h.2.2.1, fun h => ⟨?_, ?_, h, List.forall_mem_nil _⟩⟩
  · exact fun _ => trivial
  · exact fun _ => ⟨_, rfl⟩

theorem exists_fieldValues_iff {acc : Fragment} {template : String}
    (bound : acc.binding templateSlot = .ok template)
    (options : (part.entity.capabilities.getAll Capability.storageType).length ≤ 1) :
    (∃ made, answers inflector
      (.buildFragment (V := parts) (k := .fieldValues) acc part) = .ok made) ↔
      (part.entity.has Capability.crudType →
        (part.entity.capabilities.getAll Capability.crudType).length ≤ 1) ∧
      (part.entity.has Capability.searchType →
        (part.entity.capabilities.getAll Capability.searchPredicatesType).length ≤ 1) ∧
      (part.entity.has Capability.filterKeysType → part.entity.keyFields.length = 1) := by
  rw [exists_answers_buildFragment_iff inflector (k := .fieldValues) (by decide)]
  have further : ∃ made, answers inflector (.buildFragment (V := parts) (k := .crudOptions) .empty
      ⟨part.entity⟩) = .ok made :=
    ⟨.empty, answers_of_no_rules inflector (k := .crudOptions) rfl .empty ⟨part.entity⟩⟩
  have slot : (Fragment.inheriting acc).binding templateSlot = .ok template := bound
  simp only [fragmentRules, List.forall_mem_cons, Rule.applies, valuesOf, Part.when,
    Key.admits_when, exists_crudValueBody_iff slot further, exists_searchValueBody_iff slot,
    exists_filterKeysValueBody_iff slot, options, implies_true, and_true]
  refine ⟨fun h => ⟨h.2.1, h.2.2.1, h.2.2.2.2.1⟩, fun h =>
    ⟨?_, h.1, h.2.1, ?_, h.2.2, List.forall_mem_nil _⟩⟩
  · exact fun _ => exists_templateValueBody slot
  · exact fun _ => ⟨_, rfl⟩

end Parts

/-! ## Blocks -/

section Blocks
variable {inflector : Inflector}

theorem keyFields_ne_nil_of_single {e : Entity} (single : e.keyFields.length = 1) :
    e.keyFields ≠ [] := by
  rintro none
  rw [none] at single
  cases single

theorem exists_associateMethod_iff {interfaceModule key : String} {names : Names}
    {keyField : Field} {child : Entity} :
    (∃ block, associateMethod inflector interfaceModule names keyField key child = .ok block) ↔
      child.keyFields.length = 1 ∧
        (child.capabilities.getAll Capability.storageType).length ≤ 1 := by
  refine (exists_bind_iff_of fun names => exists_bind_iff_of fun keyField =>
    exists_bind_iff_of fun key => iff_of_true ⟨_, rfl⟩ trivial).trans ?_
  rw [exists_namesOf_iff, exists_singleKeyOf_iff, exists_keyOf_iff]
  exact ⟨fun h => ⟨h.2.1, h.1⟩, fun h => ⟨h.2, h.1, keyFields_ne_nil_of_single h.1, trivial⟩⟩

theorem exists_listByMethod_iff {interfaceModule : String} {e : Entity} {names : Names}
    {keyField : Field} {listing : KeyListing Entity} :
    (∃ block, listByMethod inflector interfaceModule e names keyField listing = .ok block) ↔
      listing.associated.keyFields.length = 1 ∧
        (listing.associated.capabilities.getAll Capability.storageType).length ≤ 1 := by
  refine (exists_bind_iff_of fun names => exists_bind_iff_of fun keyField =>
    exists_bind_iff_of fun key => iff_of_true ⟨_, rfl⟩ trivial).trans ?_
  rw [exists_namesOf_iff, exists_singleKeyOf_iff, exists_keyOf_iff]
  exact ⟨fun h => ⟨h.2.1, h.1⟩, fun h => ⟨h.2, h.1, keyFields_ne_nil_of_single h.1, trivial⟩⟩

theorem exists_associateBlocks_iff (inflector : Inflector) (file : StorageFile) :
    (∃ blocks, associateBlocks inflector file = .ok blocks) ↔
      (file.entity.has Capability.associateType →
        (file.entity.capabilities.getAll Capability.storageType).length ≤ 1 ∧
          file.entity.keyFields.length = 1 ∧
          ∀ child ∈ childrenOf file.entity, child.keyFields.length = 1 ∧
            (child.capabilities.getAll Capability.storageType).length ≤ 1) := by
  have methods : ∀ names keyField key, (∃ blocks, (childrenOf file.entity).mapM
      (associateMethod inflector file.interfaceModule names keyField key) = .ok blocks) ↔
        ∀ child ∈ childrenOf file.entity, child.keyFields.length = 1 ∧
          (child.capabilities.getAll Capability.storageType).length ≤ 1 := by
    simp only [exists_mapM_iff, exists_associateMethod_iff, implies_true]
  refine exists_ite_iff.trans (imp_congr_right fun _ => (exists_bind_iff_of fun names =>
    exists_bind_iff_of fun keyField => exists_bind_iff_of fun key =>
      methods names keyField key).trans ?_)
  rw [exists_namesOf_iff, exists_singleKeyOf_iff, exists_keyOf_iff]
  refine ⟨fun h => ⟨h.1, h.2.1, h.2.2.2⟩, fun ⟨options, single, children⟩ => ?_⟩
  exact ⟨options, single, keyFields_ne_nil_of_single single, children⟩

theorem exists_listingBlocks_iff (inflector : Inflector) (file : StorageFile) :
    (∃ blocks, listingBlocks inflector file = .ok blocks) ↔
      (file.entity.has Capability.listByAssociatedKeyType →
        (file.entity.capabilities.getAll Capability.storageType).length ≤ 1 ∧
          file.entity.keyFields.length = 1 ∧
          ∀ listing ∈ listingsOf file.entity, listing.associated.keyFields.length = 1 ∧
            (listing.associated.capabilities.getAll Capability.storageType).length ≤ 1) := by
  have methods : ∀ names keyField, (∃ blocks, (listingsOf file.entity).mapM
      (listByMethod inflector file.interfaceModule file.entity names keyField) = .ok blocks) ↔
        ∀ listing ∈ listingsOf file.entity, listing.associated.keyFields.length = 1 ∧
          (listing.associated.capabilities.getAll Capability.storageType).length ≤ 1 := by
    simp only [exists_mapM_iff, exists_listByMethod_iff, implies_true]
  refine exists_ite_iff.trans (imp_congr_right fun _ => (exists_bind_iff_of fun names =>
    exists_bind_iff_of fun keyField => methods names keyField).trans ?_)
  rw [exists_namesOf_iff, exists_singleKeyOf_iff]

end Blocks

/-! ## Files -/

section Files
variable {inflector : Inflector} {file : StorageFile}

theorem binding_constructorStatements (e : Entity) (names : Names) :
    (Fragment.inheriting (constructorStatements e names)).binding templateSlot =
      .ok templateSlot := by
  rw [Fragment.binding_inheriting, constructorStatements, Fragment.binding_bind, if_pos rfl]

theorem Supported.of_contents {c : Contents} (of : c.Of inflector file) :
    Supported file.entity := by
  have options := (exists_namesOf_iff file.entity inflector).1 ⟨c.names, of.names⟩
  have fields := (exists_implementationFields_iff inflector _ _ options).1 ⟨c.fields, of.fields⟩
  have values := (exists_fieldValues_iff inflector _ (binding_constructorStatements _ _)
    options).1 ⟨c.values, of.values⟩
  have associates := (exists_associateBlocks_iff inflector file).1 ⟨c.associates, of.associates⟩
  have listings := (exists_listingBlocks_iff inflector file).1 ⟨c.listings, of.listings⟩
  refine ⟨options, ?_, ?_, values.2.1, values.2.2, ?_, ?_⟩
  · by_cases marked : file.entity.has Capability.crudType
    · exact values.1 marked
    · rw [(Bag.getAll_eq_nil_iff _ _).2 (Bool.eq_false_iff.2 marked)]
      exact Nat.zero_le 1
  · intro operations stored filled
    have marked := (Bag.has_iff _ _).2 (List.ne_nil_of_mem stored)
    exact (fields.1 marked).2 operations stored filled
  · rintro (marked | marked)
    · exact (associates marked).2.1
    · exact (listings marked).2.1
  · intro other referred
    rcases List.mem_append.1 referred with child | listed
    · have marked := (Bag.has_iff _ _).2 (List.ne_nil_of_mem child)
      exact (associates marked).2.2 other child
    · obtain ⟨listing, found, rfl⟩ := List.mem_map.1 listed
      have marked := (Bag.has_iff _ _).2 (List.ne_nil_of_mem found)
      exact (listings marked).2.2 listing found

theorem Supported.exists_contents (supported : Supported file.entity) :
    ∃ c : Contents, c.Of inflector file := by
  have options := supported.options
  obtain ⟨names, named⟩ := (exists_namesOf_iff file.entity inflector).2 options
  obtain ⟨fields, made⟩ := (exists_implementationFields_iff inflector
    (Fragment.empty.push (templateField file.entity names)) ⟨file.entity, file.interfaceModule⟩
    options).2 ⟨fun _ => ⟨supported.operations, supported.storedKey⟩,
      fun marked => keyFields_ne_nil_of_single (supported.filteredKey marked)⟩
  obtain ⟨values, valued⟩ := (exists_fieldValues_iff inflector
    ⟨file.entity, file.interfaceModule⟩ (binding_constructorStatements file.entity names)
    options).2 ⟨fun _ => supported.operations, supported.predicates, supported.filteredKey⟩
  obtain ⟨associates, associated⟩ := (exists_associateBlocks_iff inflector file).2
    fun marked => ⟨options, supported.associatedKey (.inl marked),
      fun child hc => supported.referents child (List.mem_append_left _ hc)⟩
  obtain ⟨listings, listed⟩ := (exists_listingBlocks_iff inflector file).2
    fun marked => ⟨options, supported.associatedKey (.inr marked),
      fun listing hl => supported.referents listing.associated
        (List.mem_append_right _ (List.mem_map_of_mem hl))⟩
  exact ⟨⟨names, fields, values, associates, listings⟩, named, made, valued, associated, listed⟩

theorem emitFile_ok_iff (source : SourceFile) (w : World) :
    ((registry.withInflector inflector).emitFile (V := parts) (k := .storageFile) source file
      w).1.1 = .ok () ↔ Supported file.entity := by
  rw [emitFile_eq_answers]
  constructor
  · intro succeeded
    obtain ⟨c, of, -⟩ := answers_storageFile_iff.1 (Prod.ext succeeded rfl)
    exact .of_contents of
  · intro supported
    obtain ⟨c, of⟩ := supported.exists_contents
    exact congrArg Prod.fst (answers_storageFile_iff.2 ⟨c, of, rfl⟩)

end Files

/-! ## Interfaces -/

section Interfaces
variable {inflector : Inflector} {e : Entity}

theorem exists_operationMethods (keyed : e.keyFields ≠ []) (op : Operation) :
    ∃ methods, Interface.operationMethods e op = .ok methods := by
  have key := (e.exists_keyCode_iff none).2 keyed
  cases op with
  | findByKey => exact exists_bind_iff.2 (key.imp fun _ h => ⟨h, _, rfl⟩)
  | delete => exact exists_bind_iff.2 (key.imp fun _ h => ⟨h, _, rfl⟩)
  | _ => exact ⟨_, rfl⟩

theorem Supported.exists_crudMethods (supported : Supported e)
    (marked : e.has Capability.crudType) : ∃ methods, Interface.crudMethods e = .ok methods := by
  obtain ⟨operations, single⟩ := List.length_eq_one_iff.1
    (Nat.le_antisymm supported.operations (List.length_pos_iff.2 ((Bag.has_iff _ _).1 marked)))
  have required : e.capabilities.require Capability.crudType e.name = .ok operations :=
    (Bag.require_eq_ok_iff _ _ _ _).2 single
  have each : ∀ op ∈ operations.toList, ∃ methods,
      (Interface.operationMethods e op).mapError Failure.key = .ok methods := by
    intro op member
    have filled : operations.isEmpty = false :=
      List.isEmpty_eq_false_iff.2 (List.ne_nil_of_mem member)
    have stored : operations ∈ e.capabilities.getAll Capability.crudType := by
      rw [single]
      exact List.mem_singleton_self _
    simp only [mapError_eq_ok]
    exact exists_operationMethods (supported.storedKey operations stored filled) op
  obtain ⟨methods, made⟩ := exists_mapM_iff.2 each
  exact ⟨methods.flatten, bind_eq_ok.2 ⟨operations, mapError_eq_ok.2 required,
    bind_eq_ok.2 ⟨methods, made, rfl⟩⟩⟩

theorem exists_associateMethods (keyed : e.keyFields ≠ [])
    (children : ∀ child ∈ childrenOf e, child.keyFields ≠ []) :
    ∃ methods, Interface.associateMethods inflector e = .ok methods := by
  obtain ⟨key, keyed⟩ := (e.exists_keyCode_iff none).2 keyed
  refine exists_bind_iff.2 ⟨key, mapError_eq_ok.2 keyed, exists_mapM_iff.2 fun child hc => ?_⟩
  obtain ⟨childKey, keyed⟩ := (child.exists_keyCode_iff none).2 (children child hc)
  exact ⟨_, mapError_eq_ok.2 (bind_eq_ok.2 ⟨childKey, keyed, rfl⟩)⟩

theorem exists_filterKeysMethods (keyed : e.keyFields ≠ []) :
    ∃ methods, Interface.filterKeysMethods e = .ok methods := by
  obtain ⟨key, keyed⟩ := (e.exists_keyCode_iff none).2 keyed
  exact ⟨_, bind_eq_ok.2 ⟨key, mapError_eq_ok.2 keyed, rfl⟩⟩

theorem exists_listByMethods
    (others : ∀ listing ∈ listingsOf e, listing.associated.keyFields ≠ []) :
    ∃ methods, Interface.listByMethods inflector e = .ok methods := by
  refine exists_mapM_iff.2 fun listing hl => ?_
  obtain ⟨key, keyed⟩ := (listing.associated.exists_keyCode_iff none).2 (others listing hl)
  exact ⟨_, mapError_eq_ok.2 (bind_eq_ok.2 ⟨key, keyed, rfl⟩)⟩

theorem Supported.exists_groups (supported : Supported e) (inflector : Inflector) :
    ∃ g : Interface.Groups, g.Of inflector e := by
  have keyed : ∀ other ∈ Storage.referents e, other.keyFields ≠ [] :=
    fun other ho => keyFields_ne_nil_of_single (supported.referents other ho).1
  have children : ∀ child ∈ childrenOf e, child.keyFields ≠ [] :=
    fun child hc => keyed child (List.mem_append_left _ hc)
  have others : ∀ listing ∈ listingsOf e, listing.associated.keyFields ≠ [] :=
    fun listing hl => keyed _ (List.mem_append_right _ (List.mem_map_of_mem hl))
  obtain ⟨crud, stored⟩ : ∃ methods, (if e.has Capability.crudType then Interface.crudMethods e
      else .ok []) = .ok methods := exists_ite_iff.2 supported.exists_crudMethods
  obtain ⟨associate, associated⟩ : ∃ methods, (if e.has Capability.associateType then
      Interface.associateMethods inflector e else .ok []) = .ok methods :=
    exists_ite_iff.2 fun marked => exists_associateMethods
      (keyFields_ne_nil_of_single (supported.associatedKey (.inl marked))) children
  obtain ⟨filterKeys, filtered⟩ : ∃ methods, (if e.has Capability.filterKeysType then
      Interface.filterKeysMethods e else .ok []) = .ok methods :=
    exists_ite_iff.2 fun marked => exists_filterKeysMethods
      (keyFields_ne_nil_of_single (supported.filteredKey marked))
  obtain ⟨listBy, listed⟩ : ∃ methods, (if e.has Capability.listByAssociatedKeyType then
      Interface.listByMethods inflector e else .ok []) = .ok methods :=
    exists_ite_iff.2 fun _ => exists_listByMethods others
  exact ⟨⟨crud, _, associate, filterKeys, listBy⟩,
    stored, (apply_ite Except.ok _ _ _).symm, associated, filtered, listed⟩

end Interfaces

/-- Storage files are generated for exactly the supported entities, whatever the source file and the
world are, and the interfaces of any entities for which they are generated are generated as well. -/
theorem emitFile_accepts_exactly_supported (inflector other : Inflector) :
    (∀ (file : StorageFile) (source : SourceFile) (w : World),
      ((registry.withInflector inflector).emitFile (V := parts) (k := .storageFile) source file
        w).1.1 = .ok () ↔ Supported file.entity) ∧
    ∀ interfaces : InterfaceFile,
      (∀ e ∈ interfaces.entities, ∃ (file : StorageFile) (source : SourceFile) (w : World),
        file.entity = e ∧ ((registry.withInflector inflector).emitFile (V := parts)
          (k := .storageFile) source file w).1.1 = .ok ()) →
      ∀ (source : SourceFile) (w : World),
        ((Interface.registry.withInflector other).emitFile (V := parts) (k := .interfaceFile)
          source interfaces w).1.1 = .ok () := by
  refine ⟨fun file source w => emitFile_ok_iff source w, fun interfaces stored source w => ?_⟩
  have groups : ∀ e ∈ interfaces.entities, ∃ g : Interface.Groups, g.Of other e := by
    intro e he
    obtain ⟨file, source, w, rfl, succeeded⟩ := stored e he
    exact ((emitFile_ok_iff source w).1 succeeded).exists_groups other
  obtain ⟨source', made⟩ := Interface.exists_answers_interfaceFile_iff.2 groups
  rw [Interface.emitFile_eq_answers]
  exact congrArg Prod.fst made

def samplePet : Entity where
  name := "Pet"
  typePath := "model::Pet"
  fields := [⟨"id", "u64", ⟨true⟩⟩, ⟨"name", "String", ⟨false⟩⟩]
  capabilities := ⟨[.storage { tableName? := some "animals" }]⟩

/-- An entity with every capability. -/
def sampleOwner : Entity where
  name := "Owner"
  typePath := "model::Owner"
  fields := [⟨"email", "String", ⟨true⟩⟩]
  capabilities := ⟨[.crud .full, .search, .searchPredicates [⟨"name", "Name", ["eq"]⟩],
    .associate samplePet, .filterKeys, .listByAssociatedKey ⟨samplePet, true⟩]⟩

theorem supported_samplePet : Supported samplePet :=
  ⟨by decide, by decide, by decide, by decide, by decide, by decide, by decide⟩

theorem supported_sampleOwner : Supported sampleOwner :=
  ⟨by decide, by decide, by decide, by decide, by decide, by decide, by decide⟩

theorem emitFile_accepts_exactly_supported_sample :
    (∀ e ∈ [sampleOwner, samplePet], ∃ (file : StorageFile) (source : SourceFile) (w : World),
      file.entity = e ∧ ((registry.withInflector .english).emitFile (V := parts)
        (k := .storageFile) source file w).1.1 = .ok ()) ∧
    ((Interface.registry.withInflector .english).emitFile (V := parts) (k := .interfaceFile)
      { module := "model" } { package := "model", entities := [sampleOwner, samplePet] }
      {}).1.1 = .ok () := by
  have stored : ∀ e ∈ [sampleOwner, samplePet], ∃ (file : StorageFile) (source : SourceFile)
      (w : World), file.entity = e ∧ ((registry.withInflector .english).emitFile (V := parts)
        (k := .storageFile) source file w).1.1 = .ok () := by
    intro e he
    have supported : Supported e := by
      simp only [List.mem_cons, List.not_mem_nil, or_false] at he
      rcases he with rfl | rfl
      · exact supported_sampleOwner
      · exact supported_samplePet
    refine ⟨{ package := "store", interfaceModule := "crate::model", entity := e },
      { module := "store" }, {}, rfl, ?_⟩
    exact ((emitFile_accepts_exactly_supported .english .english).1 _ _ _).2 supported
  exact ⟨stored, (emitFile_accepts_exactly_supported .english .english).2 _ stored _ _⟩

end Scaffold.Storage
