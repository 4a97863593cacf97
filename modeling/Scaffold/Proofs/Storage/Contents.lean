import Scaffold.Proofs.Generation.Layers
import Scaffold.Proofs.Generation.RuleLists
import Scaffold.Proofs.Model.Keys
import Scaffold.Proofs.Rules.Additive

/-! What the bundled rules put into the file of an entity: its internal type, the implementation,
the parameters and the constructor, then a block for every association and one for every listing.
The fragments inside are folds of additive rules, the statements of the constructor excepted, which
bind the slot of the template. -/

namespace Scaffold
open Model Code Rules

theorem Part.rank_lt_depthLimit (k : Part) : k.rank < Registry.depthLimit := by
  cases k <;> decide

namespace Storage

def answers (inflector : Inflector) : Answers parts :=
  (registry.withInflector inflector).answers

section Answers
variable (inflector : Inflector)

theorem emitFile_eq_answers (source : SourceFile) (file : StorageFile) (w : World) :
    (registry.withInflector inflector).emitFile (V := parts) (k := .storageFile) source file w =
      (answers inflector (.emitFile (V := parts) (k := .storageFile) source file), w) :=
  Registry.emitFile_eq_answers (k := Part.storageFile)
    (Registry.layered_withInflector layered_registry inflector) (Part.rank_lt_depthLimit _)
    source file w

theorem buildFragment_eq_answers (k : Part) (acc : Fragment) (d : k.Descriptor) (w : World) :
    (registry.withInflector inflector).buildFragment (V := parts) (k := k) acc d w =
      (answers inflector (.buildFragment (V := parts) (k := k) acc d), w) :=
  Registry.buildFragment_eq_answers (k := k)
    (Registry.layered_withInflector layered_registry inflector) (Part.rank_lt_depthLimit _) acc d w

theorem answers_buildFragment (k : Part) (acc : Fragment) (d : k.Descriptor) :
    answers inflector (.buildFragment (V := parts) (k := k) acc d) =
      (fragmentScript (V := parts) inflector d (fragmentRules k) acc).value (answers inflector) := by
  rw [← rulesFor_fragment]
  exact Registry.answers_buildFragment
    (Registry.layered_withInflector layered_registry inflector) (Part.rank_lt_depthLimit _) acc d

theorem answers_emitFile (k : Part) (source : SourceFile) (d : k.Descriptor) :
    answers inflector (.emitFile (V := parts) (k := k) source d) =
      (fileScript (V := parts) inflector d (fileRules k)).value (answers inflector) source := by
  rw [← rulesFor_file]
  exact Registry.answers_emitFile
    (Registry.layered_withInflector layered_registry inflector) (Part.rank_lt_depthLimit _) source d

end Answers
/-! ## Fragments -/

section Fragments
variable {answers : Answers parts} (inflector : Inflector) (part : LinkedPart)

theorem additive_crudFieldBody :
    Fragment.Additive fun acc => (crudFieldBody inflector acc part).value answers := by
  simp only [crudFieldBody, Script.value_bind, Script.value_lift, Script.value_ite,
    Script.value_pure]
  refine Fragment.additive_bind_left _ fun filled => ?_
  cases filled with
  | false => exact Fragment.additive_ok
  | true =>
    refine Fragment.additive_bind_left _ fun names => Fragment.additive_bind_left _ fun key => ?_
    exact Fragment.additive_push _

theorem additive_crudValueBody :
    Fragment.Additive fun acc => (crudValueBody inflector acc part).value answers := by
  simp only [crudValueBody, Script.value_bind, Script.value_lift, Script.value_ite,
    Script.value_pure]
  refine Fragment.additive_bind_left _ fun filled => ?_
  cases filled with
  | false => exact Fragment.additive_ok
  | true =>
    refine Fragment.additive_bind_left _ fun names => ?_
    refine Fragment.additive_binding _ fun template => ?_
    exact Fragment.additive_bind_left _ fun further => Fragment.additive_push _

theorem additive_searchFieldBody :
    Fragment.Additive fun acc => (searchFieldBody inflector acc part).value answers := by
  simp only [searchFieldBody, Script.value_bind, Script.value_lift, Script.value_pure]
  exact Fragment.additive_bind_left _ fun names => Fragment.additive_push _

theorem additive_searchValueBody :
    Fragment.Additive fun acc => (searchValueBody inflector acc part).value answers := by
  simp only [searchValueBody, Script.value_bind, Script.value_lift, Script.value_pure]
  refine Fragment.additive_binding _ fun template => ?_
  exact Fragment.additive_bind_left _ fun predicates? => Fragment.additive_push _

theorem additive_filterKeysFieldBody :
    Fragment.Additive fun acc => (filterKeysFieldBody inflector acc part).value answers := by
  simp only [filterKeysFieldBody, Script.value_bind, Script.value_lift, Script.value_pure]
  refine Fragment.additive_bind_left _ fun names => Fragment.additive_bind_left _ fun key => ?_
  exact Fragment.additive_push _

theorem additive_filterKeysValueBody :
    Fragment.Additive fun acc => (filterKeysValueBody inflector acc part).value answers := by
  simp only [filterKeysValueBody, Script.value_bind, Script.value_lift, Script.value_pure]
  refine Fragment.additive_bind_left _ fun keyField => ?_
  exact Fragment.additive_binding _ fun template => Fragment.additive_push _

theorem additive_templateValueBody :
    Fragment.Additive fun acc => (templateValueBody inflector acc part).value answers := by
  simp only [templateValueBody, Script.value_bind, Script.value_lift, Script.value_pure]
  exact Fragment.additive_binding _ fun template => Fragment.additive_push _

theorem additive_fragmentRules {k : Part} (other : k ≠ .constructorBody) (d : k.Descriptor) :
    ∀ rule ∈ fragmentRules k,
      Fragment.Additive fun acc => (rule.body inflector acc d).value answers := by
  intro rule hr
  cases k with
  | constructorBody => exact absurd rfl other
  | leadingFields =>
    obtain rfl := List.mem_singleton.1 hr
    exact Fragment.additive_push _
  | parameterFields =>
    obtain rfl := List.mem_singleton.1 hr
    exact Fragment.additive_extend _
  | implementationFields =>
    simp only [fragmentRules, List.mem_cons, List.not_mem_nil, or_false] at hr
    rcases hr with rfl | rfl | rfl | rfl
    · exact additive_crudFieldBody inflector d
    · exact additive_searchFieldBody inflector d
    · exact Fragment.additive_extend _
    · exact additive_filterKeysFieldBody inflector d
  | fieldValues =>
    simp only [fragmentRules, List.mem_cons, List.not_mem_nil, or_false] at hr
    rcases hr with rfl | rfl | rfl | rfl | rfl
    · exact additive_templateValueBody inflector d
    · exact additive_crudValueBody inflector d
    · exact additive_searchValueBody inflector d
    · exact Fragment.additive_extend _
    · exact additive_filterKeysValueBody inflector d
  | _ => cases hr

end Fragments

section Parts
variable (inflector : Inflector)

theorem exists_answers_buildFragment_iff {k : Part} (other : k ≠ .constructorBody)
    (acc : Fragment) (d : k.Descriptor) :
    (∃ made, answers inflector (.buildFragment (V := parts) (k := k) acc d) = .ok made) ↔
      ∀ rule ∈ fragmentRules k, rule.applies d → ∃ made,
        (rule.body inflector (.inheriting acc) d).value (answers inflector) = .ok made := by
  simp only [answers_buildFragment]
  exact exists_value_fragmentScript_iff (additive_fragmentRules inflector other d) acc

theorem answers_leadingFields (acc : Fragment) (part : EntityPart) :
    answers inflector (.buildFragment (V := parts) (k := .leadingFields) acc part) =
      .ok (acc.push ("pub inner: " ++ part.entity.typePath)) :=
  answers_buildFragment inflector .leadingFields acc part

theorem answers_of_no_rules {k : Part} (none : fragmentRules k = []) (acc : Fragment)
    (d : k.Descriptor) :
    answers inflector (.buildFragment (V := parts) (k := k) acc d) = .ok acc := by
  rw [answers_buildFragment, none]
  rfl

theorem answers_internalFunctions (source : SourceFile) (part : EntityPart) :
    answers inflector (.emitFile (V := parts) (k := .internalFunctions) source part) =
      (.ok (), source) :=
  answers_emitFile inflector .internalFunctions source part

theorem answers_parameterFields (acc : Fragment) (part : LinkedPart) :
    answers inflector (.buildFragment (V := parts) (k := .parameterFields) acc part) =
      .ok (acc.extend ((childrenOf part.entity).map
        (repositoryDeclaration inflector part.interfaceModule))) := by
  rw [answers_buildFragment, fragmentRules, value_fragmentScript_singleton]
  split
  · rfl
  · rename_i unmarked
    have none : childrenOf part.entity = [] :=
      (Bag.getAll_eq_nil_iff _ _).2 (Bool.eq_false_iff.2 unmarked)
    rw [none]
    exact congrArg Except.ok acc.extend_nil.symm

def constructorStatements (e : Entity) (names : Names) : Fragment :=
  (Fragment.empty.push (templateStatement (templateParameters e names false))).bind templateSlot
    templateSlot

theorem answers_constructorBody (e : Entity) :
    answers inflector (.buildFragment (V := parts) (k := .constructorBody) .empty ⟨e⟩) =
      (namesOf e inflector).map (constructorStatements e) := by
  rw [answers_buildFragment, fragmentRules, value_fragmentScript_singleton]
  change (constructorBodyBody inflector .empty ⟨e⟩).value (answers inflector) = _
  rw [constructorBodyBody]
  simp only [Script.value_bind, Script.value_lift, Script.value_buildFragment, Script.value_pure,
    answers_of_no_rules inflector (k := .internalFields) rfl]
  rfl

end Parts

/-! ## Files -/

/-- The entities by whose keys an entity is listed. -/
def listingsOf (e : Entity) : List (KeyListing Entity) :=
  e.capabilities.getAll Capability.listByAssociatedKeyType

section Blocks
variable (inflector : Inflector) (file : StorageFile)

def associateBlocks : Except Failure (List String) :=
  if file.entity.has Capability.associateType then do
    let names ← namesOf file.entity inflector
    let keyField ← singleKeyOf file.entity "Associate"
    let key ← keyOf file.entity file.interfaceModule
    (childrenOf file.entity).mapM
      (associateMethod inflector file.interfaceModule names keyField key)
  else .ok []

def listingBlocks : Except Failure (List String) :=
  if file.entity.has Capability.listByAssociatedKeyType then do
    let names ← namesOf file.entity inflector
    let keyField ← singleKeyOf file.entity "ListByAssociatedKey"
    (listingsOf file.entity).mapM
      (listByMethod inflector file.interfaceModule file.entity names keyField)
  else .ok []

end Blocks

/-- The declarations that every file has, given the fields of the implementation and their values. -/
def declarations (inflector : Inflector) (file : StorageFile) (names : Names)
    (fields values : Fragment) : List String :=
  let e := file.entity
  let leading := Fragment.empty.push ("pub inner: " ++ e.typePath)
  let parameters := Fragment.empty.extend
    ((childrenOf e).map (repositoryDeclaration inflector file.interfaceModule))
  [renderInternal names (leading.append .empty), renderImplementation e names fields,
    renderParameters e names parameters,
    renderConstructor e names parameters (constructorStatements e names) values]

structure Contents where
  names : Names
  fields : Fragment
  values : Fragment
  associates : List String
  listings : List String

namespace Contents

structure Of (inflector : Inflector) (file : StorageFile) (c : Contents) : Prop where
  names : namesOf file.entity inflector = .ok c.names
  fields : answers inflector (.buildFragment (V := parts) (k := .implementationFields)
    (Fragment.empty.push (templateField file.entity c.names))
    ⟨file.entity, file.interfaceModule⟩) = .ok c.fields
  values : answers inflector (.buildFragment (V := parts) (k := .fieldValues)
    (.inheriting (constructorStatements file.entity c.names))
    ⟨file.entity, file.interfaceModule⟩) = .ok c.values
  associates : associateBlocks inflector file = .ok c.associates
  listings : listingBlocks inflector file = .ok c.listings

def items (inflector : Inflector) (file : StorageFile) (c : Contents) : List String :=
  declarations inflector file c.names c.fields c.values ++ (c.associates ++ c.listings)

end Contents

section Files
variable {inflector : Inflector} {file : StorageFile} {source source' : SourceFile}

def opened (file : StorageFile) (source : SourceFile) : SourceFile :=
  { source with header? := file.header? <|> source.header? }.use runtimeModule

theorem makes_setHeader? {header? : Option String} {a : Unit} :
    (setHeader? header?).Makes (answers inflector) source a source' ↔
      source' = { source with header? := header? <|> source.header? } := by
  cases header? with
  | none =>
    rw [setHeader?, FileScript.makes_pure]
    exact and_iff_right rfl
  | some header => exact FileScript.makes_change

theorem makes_fileBody :
    (fileBody inflector file).Makes (answers inflector) source () source' ↔
      ∃ names fields values, namesOf file.entity inflector = .ok names ∧
        answers inflector (.buildFragment (V := parts) (k := .implementationFields)
          (Fragment.empty.push (templateField file.entity names))
          ⟨file.entity, file.interfaceModule⟩) = .ok fields ∧
        answers inflector (.buildFragment (V := parts) (k := .fieldValues)
          (.inheriting (constructorStatements file.entity names))
          ⟨file.entity, file.interfaceModule⟩) = .ok values ∧
        source' = (opened file source).addAll
          (declarations inflector file names fields values) := by
  unfold fileBody
  simp only [FileScript.makes_bind, FileScript.makes_lift, makes_setHeader?, build,
    FileScript.makes_buildFragment, FileScript.use, FileScript.add, FileScript.makes_change,
    FileScript.makes_emitFile, answers_leadingFields, answers_parameterFields,
    answers_constructorBody, answers_internalFunctions,
    answers_of_no_rules inflector (k := .internalFields) rfl, exists_and_left, exists_eq_left,
    and_assoc]
  constructor
  · rintro ⟨names, named, _, _, _, leading, _, further, _, _, between, added, fields, made, _, _,
      parameters, _, _, statements, values, valued, rfl⟩
    cases leading
    cases further
    cases added
    cases parameters
    rw [named] at statements
    cases statements
    refine ⟨names, named, fields, made, values, valued, ?_⟩
    simp [declarations, opened, SourceFile.addAll, SourceFile.add]
  · rintro ⟨names, named, fields, made, values, valued, rfl⟩
    refine ⟨names, named, (), (), _, rfl, _, rfl, (), (), _, rfl, fields, made, (), _, rfl, (), _,
      congrArg _ named, values, valued, ?_⟩
    simp [declarations, opened, SourceFile.addAll, SourceFile.add]

theorem appends_associateFileBody (marked : file.entity.has Capability.associateType) :
    (associateFileBody inflector file).Appends (answers inflector)
      (associateBlocks inflector file) := by
  rw [associateBlocks, if_pos marked]
  refine FileScript.appends_lift_bind fun names => FileScript.appends_lift_bind fun keyField => ?_
  exact FileScript.appends_lift_bind fun key => FileScript.appends_forM_add _ _

theorem appends_listByAssociatedKeyFileBody
    (marked : file.entity.has Capability.listByAssociatedKeyType) :
    (listByAssociatedKeyFileBody inflector file).Appends (answers inflector)
      (listingBlocks inflector file) := by
  rw [listingBlocks, if_pos marked]
  refine FileScript.appends_lift_bind fun names => FileScript.appends_lift_bind fun keyField => ?_
  exact FileScript.appends_forM_add _ _

theorem makes_blocks :
    (fileScript (V := parts) (k := Part.storageFile) inflector file
      [⟨fileOf Capability.associateType, associateFileBody⟩,
        ⟨fileOf Capability.listByAssociatedKeyType, listByAssociatedKeyFileBody⟩]).Makes
      (answers inflector) source () source' ↔
      ∃ associates, associateBlocks inflector file = .ok associates ∧
        ∃ listings, listingBlocks inflector file = .ok listings ∧
          source' = source.addAll (associates ++ listings) := by
  refine Iff.trans (makes_fileScript_cons_of_appends (associateBlocks inflector file)
    (fun marked => ?_) fun unmarked => ?_) ?_
  · exact appends_associateFileBody marked
  · exact if_neg unmarked
  refine exists_congr fun associates => and_congr_right fun _ => ?_
  refine Iff.trans (makes_fileScript_cons_of_appends (listingBlocks inflector file)
    (fun marked => ?_) fun unmarked => ?_) ?_
  · exact appends_listByAssociatedKeyFileBody marked
  · exact if_neg unmarked
  refine exists_congr fun listings => and_congr_right fun _ => ?_
  rw [makes_fileScript_nil, SourceFile.addAll_addAll]

theorem answers_storageFile_iff :
    answers inflector (.emitFile (V := parts) (k := .storageFile) source file) = (.ok (), source') ↔
      ∃ c : Contents, c.Of inflector file ∧
        source' = (opened file source).addAll (c.items inflector file) := by
  rw [answers_emitFile]
  change (fileScript (V := parts) (k := Part.storageFile) inflector file
    (fileRules .storageFile)).Makes (answers inflector) source () source' ↔ _
  rw [fileRules, makes_fileScript_cons]
  simp only [makes_blocks, Rule.applies, Part.always, Key.admits_always, if_true, makes_fileBody]
  constructor
  · rintro ⟨_, ⟨names, fields, values, named, made, valued, rfl⟩, associates, associated, listings,
      listed, rfl⟩
    refine ⟨⟨names, fields, values, associates, listings⟩,
      ⟨named, made, valued, associated, listed⟩, ?_⟩
    rw [SourceFile.addAll_addAll, Contents.items]
  · rintro ⟨c, of, rfl⟩
    refine ⟨_, ⟨c.names, c.fields, c.values, of.names, of.fields, of.values, rfl⟩, c.associates,
      of.associates, c.listings, of.listings, ?_⟩
    rw [SourceFile.addAll_addAll, Contents.items]

theorem exists_contents_of_emitted {w : World}
    (emitted : ((registry.withInflector inflector).emitFile (V := parts) (k := .storageFile)
      source file w).1.1 = .ok ()) :
    ∃ c : Contents, c.Of inflector file ∧
      ((registry.withInflector inflector).emitFile (V := parts) (k := .storageFile) source file
        w).1.2.items = source.items ++ c.items inflector file := by
  rw [emitFile_eq_answers] at emitted ⊢
  obtain ⟨c, of, made⟩ := answers_storageFile_iff.1 (Prod.ext emitted rfl)
  exact ⟨c, of, congrArg SourceFile.items made⟩

end Files

end Storage
end Scaffold
