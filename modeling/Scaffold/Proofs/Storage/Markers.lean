import Scaffold.Proofs.Model.Markers
import Scaffold.Proofs.Rules.SameEffect
import Scaffold.Proofs.Storage.Contents

/-! The file of an entity depends on the capabilities of the entity only through the answers of its
bag: bags with the same answers give the same file, or the same failure at the same place. The rules
are compared one by one, first those that add to parts of the file, then those for the file. -/

namespace Scaffold.Storage
open Model Code Rules

section Questions
variable {inflector : Inflector} {bag other : Bag (Capability Entity)}

theorem namesOf_congr
    (same : bag.getAll Capability.storageType = other.getAll Capability.storageType) (e : Entity) :
    namesOf (e.withCapabilities bag) inflector = namesOf (e.withCapabilities other) inflector := by
  have asked : (e.withCapabilities bag).capabilities.get Capability.storageType =
      (e.withCapabilities other).capabilities.get Capability.storageType := Bag.get_congr same
  rw [namesOf, namesOf, Names.of, Names.of, asked]
  rfl

theorem hasOperations_eq (e : Entity) :
    hasOperations e =
      ((storedOperations e.capabilities).map fun ops => !ops.isEmpty).mapError .bag := by
  rw [hasOperations, storedOperations]
  rcases e.capabilities.get Capability.crudType with fault | _ | set <;> rfl

theorem hasOperations_congr (same : storedOperations bag = storedOperations other) (e : Entity) :
    hasOperations (e.withCapabilities bag) = hasOperations (e.withCapabilities other) := by
  rw [hasOperations_eq, hasOperations_eq]
  simp only [Entity.withCapabilities, same]

theorem hasOperations_of_unmarked {e : Entity} (unmarked : e.has Capability.crudType = false) :
    hasOperations e = .ok false := by
  have none := (Bag.getAll_eq_nil_iff _ _).2 unmarked
  rw [hasOperations, (Bag.get_eq_ok_iff _ _ Option.none).2 none]

theorem hasOperations_iff {e : Entity} {filled : Bool} (asked : hasOperations e = .ok filled) :
    filled = true ↔ ∃ set ∈ e.capabilities.getAll Capability.crudType, set.isEmpty = false := by
  unfold hasOperations at asked
  cases found : e.capabilities.get Capability.crudType with
  | error fault =>
    rw [found] at asked
    cases asked
  | ok answer =>
    rw [(Bag.get_eq_ok_iff _ _ answer).1 found]
    rw [found] at asked
    cases answer with
    | none =>
      obtain rfl := Except.ok.inj asked
      simp
    | some set =>
      obtain rfl := Except.ok.inj asked
      simp

end Questions

/-! ## Parts -/

section Lines
variable (inflector : Inflector) {slots : Fragment}

theorem lines_crudField (part : LinkedPart) :
    Rule.lines (V := parts) (answers inflector) inflector slots part
        ⟨fieldsOf Capability.crudType, crudFieldBody⟩ =
      ((crudFieldBody inflector (.inheriting slots) part).value (answers inflector)).map
        Fragment.items := by
  refine lines_eq_of_idle fun unmarked => ?_
  simp only [crudFieldBody, Script.value_bind, Script.value_lift, Script.value_ite,
    Script.value_pure, hasOperations_of_unmarked unmarked]
  rfl

theorem lines_crudValue (part : LinkedPart) :
    Rule.lines (V := parts) (answers inflector) inflector slots part
        ⟨valuesOf Capability.crudType, crudValueBody⟩ =
      ((crudValueBody inflector (.inheriting slots) part).value (answers inflector)).map
        Fragment.items := by
  refine lines_eq_of_idle fun unmarked => ?_
  simp only [crudValueBody, Script.value_bind, Script.value_lift, Script.value_ite,
    Script.value_pure, hasOperations_of_unmarked unmarked]
  rfl

variable {bag other : Bag (Capability Entity)} (same : SameAnswers bag other) (e : Entity)
  (interfaceModule : String)
include same

theorem lines_implementationFields_congr : ∀ rule ∈ fragmentRules .implementationFields,
    Rule.lines (V := parts) (k := Part.implementationFields) (answers inflector) inflector slots
        ⟨e.withCapabilities bag, interfaceModule⟩ rule =
      Rule.lines (V := parts) (k := Part.implementationFields) (answers inflector) inflector slots
        ⟨e.withCapabilities other, interfaceModule⟩ rule := by
  intro rule hr
  simp only [fragmentRules, List.mem_cons, List.not_mem_nil, or_false] at hr
  rcases hr with rfl | rfl | rfl | rfl
  · rw [lines_crudField, lines_crudField]
    simp only [crudFieldBody, Script.value_bind, Script.value_lift, Script.value_ite,
      Script.value_pure, hasOperations_congr same.operations, namesOf_congr same.storage]
    rfl
  · refine lines_congr_of_body (Entity.has_congr same.search e) ?_
    simp only [searchFieldBody, Script.value_bind, Script.value_lift, Script.value_pure,
      namesOf_congr same.storage]
    rfl
  · refine lines_congr_of_body (Entity.has_congr same.associate e) ?_
    simp only [associateFieldBody, Script.value_pure, childrenOf, Entity.withCapabilities,
      same.associate]
  · refine lines_congr_of_body (Entity.has_congr same.filterKeys e) ?_
    simp only [filterKeysFieldBody, Script.value_bind, Script.value_lift, Script.value_pure,
      namesOf_congr same.storage]
    rfl

theorem lines_fieldValues_congr : ∀ rule ∈ fragmentRules .fieldValues,
    Rule.lines (V := parts) (k := Part.fieldValues) (answers inflector) inflector slots
        ⟨e.withCapabilities bag, interfaceModule⟩ rule =
      Rule.lines (V := parts) (k := Part.fieldValues) (answers inflector) inflector slots
        ⟨e.withCapabilities other, interfaceModule⟩ rule := by
  intro rule hr
  simp only [fragmentRules, List.mem_cons, List.not_mem_nil, or_false] at hr
  rcases hr with rfl | rfl | rfl | rfl | rfl
  · rfl
  · rw [lines_crudValue, lines_crudValue]
    simp only [crudValueBody, Script.value_bind, Script.value_lift, Script.value_ite,
      Script.value_pure, Script.value_buildFragment, hasOperations_congr same.operations,
      namesOf_congr same.storage, answers_of_no_rules inflector (k := .crudOptions) rfl]
    rfl
  · refine lines_congr_of_body (Entity.has_congr same.search e) ?_
    simp only [searchValueBody, Script.value_bind, Script.value_lift, Script.value_pure,
      Entity.withCapabilities, Bag.get_congr same.predicates]
  · refine lines_congr_of_body (Entity.has_congr same.associate e) ?_
    simp only [associateValueBody, Script.value_pure, childrenOf, Entity.withCapabilities,
      same.associate]
  · exact lines_congr_of_body (Entity.has_congr same.filterKeys e) rfl

end Lines

section Parts
variable (inflector : Inflector) {bag other : Bag (Capability Entity)}
  (same : SameAnswers bag other) (e : Entity) (interfaceModule : String) (acc : Fragment)
include same

theorem answers_implementationFields_congr :
    answers inflector (.buildFragment (V := parts) (k := .implementationFields) acc
        ⟨e.withCapabilities bag, interfaceModule⟩) =
      answers inflector (.buildFragment (V := parts) (k := .implementationFields) acc
        ⟨e.withCapabilities other, interfaceModule⟩) := by
  rw [answers_buildFragment, answers_buildFragment]
  exact value_fragmentScript_congr
    (additive_fragmentRules (k := .implementationFields) inflector (by decide))
    (lines_implementationFields_congr inflector same e interfaceModule)

theorem answers_fieldValues_congr :
    answers inflector (.buildFragment (V := parts) (k := .fieldValues) acc
        ⟨e.withCapabilities bag, interfaceModule⟩) =
      answers inflector (.buildFragment (V := parts) (k := .fieldValues) acc
        ⟨e.withCapabilities other, interfaceModule⟩) := by
  rw [answers_buildFragment, answers_buildFragment]
  exact value_fragmentScript_congr
    (additive_fragmentRules (k := .fieldValues) inflector (by decide))
    (lines_fieldValues_congr inflector same e interfaceModule)

theorem answers_parameterFields_congr :
    answers inflector (.buildFragment (V := parts) (k := .parameterFields) acc
        ⟨e.withCapabilities bag, interfaceModule⟩) =
      answers inflector (.buildFragment (V := parts) (k := .parameterFields) acc
        ⟨e.withCapabilities other, interfaceModule⟩) := by
  rw [answers_parameterFields, answers_parameterFields]
  simp only [childrenOf, Entity.withCapabilities, same.associate]

theorem answers_constructorBody_congr :
    answers inflector (.buildFragment (V := parts) (k := .constructorBody) .empty
        ⟨e.withCapabilities bag⟩) =
      answers inflector (.buildFragment (V := parts) (k := .constructorBody) .empty
        ⟨e.withCapabilities other⟩) := by
  rw [answers_constructorBody, answers_constructorBody, namesOf_congr same.storage]
  rfl

end Parts

/-! ## Files -/

section Files
variable (inflector : Inflector) {bag other : Bag (Capability Entity)}
  (same : SameAnswers bag other) (file : StorageFile)
include same

theorem sameEffect_fileBody :
    FileScript.SameEffect (answers inflector)
      (fileBody inflector { file with entity := file.entity.withCapabilities bag })
      (fileBody inflector { file with entity := file.entity.withCapabilities other }) := by
  unfold fileBody
  simp only [namesOf_congr same.storage]
  refine .bind (.refl _) fun names => .bind (.refl _) fun _ => .bind (.refl _) fun _ => ?_
  refine .bind (FileScript.sameEffect_buildFragment ?_) fun leading => ?_
  · rw [answers_leadingFields, answers_leadingFields]
    rfl
  refine .bind (FileScript.sameEffect_buildFragment ?_) fun further => .bind (.refl _) fun _ => ?_
  · rw [answers_of_no_rules inflector (k := .internalFields) rfl,
      answers_of_no_rules inflector (k := .internalFields) rfl]
  refine .bind (FileScript.sameEffect_emitFile fun source => ?_) fun _ => ?_
  · rw [answers_internalFunctions, answers_internalFunctions]
  refine .bind (FileScript.sameEffect_buildFragment ?_) fun fields => .bind (.refl _) fun _ => ?_
  · exact answers_implementationFields_congr inflector same file.entity _ _
  refine .bind (FileScript.sameEffect_buildFragment ?_) fun parameters =>
    .bind (.refl _) fun _ => ?_
  · exact answers_parameterFields_congr inflector same file.entity _ _
  refine .bind (FileScript.sameEffect_buildFragment ?_) fun statements => ?_
  · exact answers_constructorBody_congr inflector same file.entity
  refine .bind (FileScript.sameEffect_buildFragment ?_) fun values => .refl _
  exact answers_fieldValues_congr inflector same file.entity _ _

theorem sameEffect_associateFileBody :
    FileScript.SameEffect (answers inflector)
      (associateFileBody inflector { file with entity := file.entity.withCapabilities bag })
      (associateFileBody inflector { file with entity := file.entity.withCapabilities other }) := by
  have children : childrenOf (file.entity.withCapabilities bag) =
      childrenOf (file.entity.withCapabilities other) := same.associate
  unfold associateFileBody
  simp only [namesOf_congr same.storage, children]
  exact .refl _

theorem sameEffect_listByAssociatedKeyFileBody :
    FileScript.SameEffect (answers inflector)
      (listByAssociatedKeyFileBody inflector
        { file with entity := file.entity.withCapabilities bag })
      (listByAssociatedKeyFileBody inflector
        { file with entity := file.entity.withCapabilities other }) := by
  have listings : (file.entity.withCapabilities bag).capabilities.getAll
      Capability.listByAssociatedKeyType = (file.entity.withCapabilities other).capabilities.getAll
      Capability.listByAssociatedKeyType := same.listings
  unfold listByAssociatedKeyFileBody
  simp only [namesOf_congr same.storage, listings]
  exact .refl _

theorem emitFile_congr (source : SourceFile) (w : World) :
    (registry.withInflector inflector).emitFile (V := parts) (k := .storageFile) source
        { file with entity := file.entity.withCapabilities bag } w =
      (registry.withInflector inflector).emitFile (V := parts) (k := .storageFile) source
        { file with entity := file.entity.withCapabilities other } w := by
  rw [emitFile_eq_answers, emitFile_eq_answers, answers_emitFile, answers_emitFile]
  refine congrArg (·, w) (sameEffect_fileScript ?_ source)
  intro rule hr
  simp only [fileRules, List.mem_cons, List.not_mem_nil, or_false] at hr
  rcases hr with rfl | rfl | rfl
  · exact ⟨rfl, sameEffect_fileBody inflector same file⟩
  · exact ⟨Entity.has_congr same.associate file.entity,
      sameEffect_associateFileBody inflector same file⟩
  · exact ⟨Entity.has_congr same.listings file.entity,
      sameEffect_listByAssociatedKeyFileBody inflector same file⟩

end Files

end Scaffold.Storage
