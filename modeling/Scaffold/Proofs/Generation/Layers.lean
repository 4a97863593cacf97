import Scaffold.Interface.Rules
import Scaffold.Proofs.Rules.Layers
import Scaffold.Storage.Capabilities

/-! The bundled rules are layered: a whole file asks for its parts, the constructor and the field
values ask for the parts that they enclose, and no other part asks for anything. -/

namespace Scaffold
open Model Code Rules

/-- How far a part stands above the parts that its rules ask for. -/
def Part.rank : Part → Nat
  | .interfaceFile => 2
  | .storageFile => 2
  | .constructorBody => 1
  | .fieldValues => 1
  | _ => 0

/-! ## Interfaces -/

namespace Interface
variable {P : Call parts → Prop}

theorem asks_addEntity (e : Entity)
    (h : ∀ acc d, P (.buildFragment (k := Part.interfaceMethods) acc d)) :
    (addEntity e).Asks P := by
  have rest : (do
      let methods ← FileScript.buildFragment (V := parts) (k := .interfaceMethods) .empty ⟨e⟩
      FileScript.add (renderTrait e methods) : FileScript parts Unit).Asks P :=
    (FileScript.asks_buildFragment _ _ (h _ _)).bind fun _ => FileScript.asks_add _
  unfold addEntity
  cases e.keyDeclaration? with
  | none => exact (FileScript.asks_pure ()).bind fun _ => rest
  | some declaration => exact (FileScript.asks_add declaration).bind fun _ => rest

theorem asks_interfaceFileBody (inflector : Inflector) (file : InterfaceFile)
    (h : ∀ acc d, P (.buildFragment (k := Part.interfaceMethods) acc d)) :
    (interfaceFileBody inflector file).Asks P := by
  have entities := FileScript.asks_forM fun e (_ : e ∈ file.entities) => asks_addEntity e h
  have rest := (FileScript.asks_use (V := parts) (P := P) runtimeModule).bind fun _ => entities
  unfold interfaceFileBody
  cases file.header? with
  | none => exact rest
  | some header => exact (FileScript.asks_setHeader header).bind fun _ => rest

theorem asks_crudBody (inflector : Inflector) (acc : Fragment) (part : EntityPart) :
    (crudBody inflector acc part).Asks P := by
  refine (Script.asks_lift _).bind fun operations => Script.asks_foldlM (fun op _ acc => ?_) _
  exact (Script.asks_lift _).bind fun methods => Script.asks_pure _

theorem asks_associateBody (inflector : Inflector) (acc : Fragment) (part : EntityPart) :
    (associateBody inflector acc part).Asks P := by
  refine (Script.asks_lift _).bind fun key => Script.asks_foldlM (fun child _ acc => ?_) _
  exact (Script.asks_lift _).bind fun declared => Script.asks_pure _

theorem asks_filterKeysBody (inflector : Inflector) (acc : Fragment) (part : EntityPart) :
    (filterKeysBody inflector acc part).Asks P :=
  (Script.asks_lift _).bind fun _ => Script.asks_pure _

theorem asks_listByAssociatedKeyBody (inflector : Inflector) (acc : Fragment) (part : EntityPart) :
    (listByAssociatedKeyBody inflector acc part).Asks P := by
  refine Script.asks_foldlM (fun listing _ acc => ?_) _
  exact (Script.asks_lift _).bind fun declared => Script.asks_pure _

theorem layered_registry : registry.tables.Layered Part.rank := by
  refine Registry.layered_ofSets fun s hs => ?_
  simp only [ruleSets, List.mem_cons, List.not_mem_nil, or_false] at hs
  rcases hs with rfl | rfl | rfl | rfl | rfl | rfl
  · refine RuleSet.layered_addFileRule RuleSet.layered_empty fun inflector file => ?_
    refine asks_interfaceFileBody inflector file fun acc d => ?_
    exact (Call.below_buildFragment acc d).2 (by decide)
  all_goals
    refine RuleSet.layered_addFragmentRule RuleSet.layered_empty fun inflector acc part => ?_
  · exact asks_crudBody inflector acc part
  · exact Script.asks_pure _
  · exact asks_associateBody inflector acc part
  · exact asks_filterKeysBody inflector acc part
  · exact asks_listByAssociatedKeyBody inflector acc part

end Interface

/-! ## Storage -/

def StorageFile.part? (file : StorageFile) : (p : Part) → Option p.Descriptor
  | .interfaceFile => none
  | .interfaceMethods => none
  | .storageDirectory => none
  | .storageIndex => none
  | .storageFile => some file
  | .leadingFields => some ⟨file.entity⟩
  | .internalFields => some ⟨file.entity⟩
  | .internalFunctions => some ⟨file.entity⟩
  | .implementationFields => some ⟨file.entity, file.interfaceModule⟩
  | .fieldValues => some ⟨file.entity, file.interfaceModule⟩
  | .parameterFields => some ⟨file.entity, file.interfaceModule⟩
  | .constructorBody => some ⟨file.entity⟩
  | .crudOptions => some ⟨file.entity⟩

def StorageFile.Covers (file : StorageFile) (p : Part) (d : p.Descriptor) : Prop :=
  file.part? p = some d

theorem StorageFile.Covers.entity? {file : StorageFile} {p : Part} {d : p.Descriptor}
    (covered : file.Covers p d) : p.entity? d = some file.entity := by
  cases p with
  | interfaceFile => cases covered
  | interfaceMethods => cases covered
  | storageDirectory => cases covered
  | storageIndex => cases covered
  | _ =>
    obtain rfl := Option.some.inj covered
    rfl

namespace Storage
variable {P : Call parts → Prop}

theorem asks_setHeader? (header? : Option String) : (setHeader? header?).Asks P := by
  cases header? with
  | none => exact FileScript.asks_pure ()
  | some header => exact FileScript.asks_setHeader header

theorem asks_indexBody (inflector : Inflector) (d : StorageIndex) :
    (indexBody inflector d).Asks P := by
  refine (asks_setHeader? _).bind fun _ => (FileScript.asks_use _).bind fun _ => ?_
  exact (FileScript.asks_lift _).bind fun constructors => FileScript.asks_add _

theorem asks_build {k : Part} (acc : Fragment) (d : k.Descriptor)
    (h : P (.buildFragment (k := k) acc d)) : (build acc d).Asks P :=
  FileScript.asks_buildFragment (V := parts) acc d h

theorem asks_fileBody (inflector : Inflector) (file : StorageFile)
    (h : ∀ c : Call parts, c.About file.Covers → c.rank Part.rank < Part.rank .storageFile → P c) :
    (fileBody inflector file).Asks P := by
  have parted {k : Part} (acc : Fragment) (d : k.Descriptor) (covered : file.part? k = some d)
      (lower : k.rank < Part.rank .storageFile) : (build acc d).Asks P :=
    asks_build acc d (h (.buildFragment (k := k) acc d) covered lower)
  refine (FileScript.asks_lift _).bind fun names => (asks_setHeader? _).bind fun _ => ?_
  refine (FileScript.asks_use _).bind fun _ => ?_
  refine (parted _ _ rfl (by decide)).bind fun leading => ?_
  refine (parted _ _ rfl (by decide)).bind fun further => (FileScript.asks_add _).bind fun _ => ?_
  refine (FileScript.asks_emitFile (V := parts) _ fun source => ?_).bind fun _ => ?_
  · have lower : Part.rank .internalFunctions < Part.rank .storageFile := by decide
    exact h (.emitFile (k := Part.internalFunctions) source _) rfl lower
  refine (parted _ _ rfl (by decide)).bind fun fields => (FileScript.asks_add _).bind fun _ => ?_
  refine (parted _ _ rfl (by decide)).bind fun parameters => ?_
  refine (FileScript.asks_add _).bind fun _ => ?_
  refine (parted _ _ rfl (by decide)).bind fun statements => ?_
  exact (parted _ _ rfl (by decide)).bind fun values => FileScript.asks_add _

theorem asks_constructorBodyBody (inflector : Inflector) (acc : Fragment) (part : EntityPart)
    (h : P (.buildFragment (k := Part.internalFields) .empty ⟨part.entity⟩)) :
    (constructorBodyBody inflector acc part).Asks P := by
  refine (Script.asks_lift _).bind fun names => ?_
  exact (Script.asks_buildFragment (V := parts) _ _ h).bind fun further => Script.asks_pure _

theorem asks_templateValueBody (inflector : Inflector) (acc : Fragment) (part : LinkedPart) :
    (templateValueBody inflector acc part).Asks P :=
  (Script.asks_lift _).bind fun _ => Script.asks_pure _

theorem asks_crudFieldBody (inflector : Inflector) (acc : Fragment) (part : LinkedPart) :
    (crudFieldBody inflector acc part).Asks P := by
  refine (Script.asks_lift _).bind fun filled => ?_
  split
  · refine (Script.asks_lift _).bind fun names => (Script.asks_lift _).bind fun key => ?_
    exact Script.asks_pure _
  · exact Script.asks_pure _

theorem asks_crudValueBody (inflector : Inflector) (acc : Fragment) (part : LinkedPart)
    (h : P (.buildFragment (k := Part.crudOptions) .empty ⟨part.entity⟩)) :
    (crudValueBody inflector acc part).Asks P := by
  refine (Script.asks_lift _).bind fun filled => ?_
  split
  · refine (Script.asks_lift _).bind fun names => (Script.asks_lift _).bind fun template => ?_
    exact (Script.asks_buildFragment (V := parts) _ _ h).bind fun further => Script.asks_pure _
  · exact Script.asks_pure _

theorem asks_searchValueBody (inflector : Inflector) (acc : Fragment) (part : LinkedPart) :
    (searchValueBody inflector acc part).Asks P := by
  refine (Script.asks_lift _).bind fun template => (Script.asks_lift _).bind fun predicates? => ?_
  exact Script.asks_pure _

theorem asks_associateFileBody (inflector : Inflector) (file : StorageFile) :
    (associateFileBody inflector file).Asks P := by
  refine (FileScript.asks_lift _).bind fun names => (FileScript.asks_lift _).bind fun keyField => ?_
  refine (FileScript.asks_lift _).bind fun key => FileScript.asks_forM fun child _ => ?_
  exact (FileScript.asks_lift _).bind fun declared => FileScript.asks_add _

theorem asks_filterKeysFieldBody (inflector : Inflector) (acc : Fragment) (part : LinkedPart) :
    (filterKeysFieldBody inflector acc part).Asks P := by
  refine (Script.asks_lift _).bind fun names => (Script.asks_lift _).bind fun key => ?_
  exact Script.asks_pure _

theorem asks_filterKeysValueBody (inflector : Inflector) (acc : Fragment) (part : LinkedPart) :
    (filterKeysValueBody inflector acc part).Asks P := by
  refine (Script.asks_lift _).bind fun keyField => (Script.asks_lift _).bind fun template => ?_
  exact Script.asks_pure _

theorem asks_listByAssociatedKeyFileBody (inflector : Inflector) (file : StorageFile) :
    (listByAssociatedKeyFileBody inflector file).Asks P := by
  refine (FileScript.asks_lift _).bind fun names => (FileScript.asks_lift _).bind fun keyField => ?_
  refine FileScript.asks_forM fun listing _ => ?_
  exact (FileScript.asks_lift _).bind fun declared => FileScript.asks_add _

theorem layered_baseRules : baseRules.tables.Layered Part.rank := by
  refine RuleSet.layered_addFragmentRule (RuleSet.layered_addFragmentRule
    (RuleSet.layered_addFragmentRule (RuleSet.layered_addFileRule (RuleSet.layered_addFileRule
      (RuleSet.layered_addDirectoryRule RuleSet.layered_empty _ _) ?_) ?_) ?_) ?_) ?_
  · exact fun inflector d => asks_indexBody inflector d
  · refine fun inflector file => asks_fileBody inflector file fun c about lower => ?_
    exact ⟨about.quiet, lower⟩
  · exact fun _ _ _ => Script.asks_pure _
  · refine fun inflector acc part => asks_constructorBodyBody inflector acc part ?_
    exact (Call.below_buildFragment _ _).2 (by decide)
  · exact fun inflector acc part => asks_templateValueBody inflector acc part

theorem layered_crudRules : crudRules.tables.Layered Part.rank := by
  refine RuleSet.layered_addFragmentRule
    (RuleSet.layered_addFragmentRule RuleSet.layered_empty ?_) ?_
  · exact fun inflector acc part => asks_crudFieldBody inflector acc part
  · refine fun inflector acc part => asks_crudValueBody inflector acc part ?_
    exact (Call.below_buildFragment _ _).2 (by decide)

theorem layered_searchRules : searchRules.tables.Layered Part.rank := by
  refine RuleSet.layered_addFragmentRule
    (RuleSet.layered_addFragmentRule RuleSet.layered_empty ?_) ?_
  · exact fun _ _ _ => (Script.asks_lift _).bind fun _ => Script.asks_pure _
  · exact fun inflector acc part => asks_searchValueBody inflector acc part

theorem layered_associateRules : associateRules.tables.Layered Part.rank := by
  refine RuleSet.layered_addFileRule (RuleSet.layered_addFragmentRule
    (RuleSet.layered_addFragmentRule
      (RuleSet.layered_addFragmentRule RuleSet.layered_empty ?_) ?_) ?_) ?_
  · exact fun _ _ _ => Script.asks_pure _
  · exact fun _ _ _ => Script.asks_pure _
  · exact fun _ _ _ => Script.asks_pure _
  · exact fun inflector file => asks_associateFileBody inflector file

theorem layered_filterKeysRules : filterKeysRules.tables.Layered Part.rank := by
  refine RuleSet.layered_addFragmentRule
    (RuleSet.layered_addFragmentRule RuleSet.layered_empty ?_) ?_
  · exact fun inflector acc part => asks_filterKeysFieldBody inflector acc part
  · exact fun inflector acc part => asks_filterKeysValueBody inflector acc part

theorem layered_listByAssociatedKeyRules :
    listByAssociatedKeyRules.tables.Layered Part.rank := by
  refine RuleSet.layered_addFileRule RuleSet.layered_empty ?_
  exact fun inflector file => asks_listByAssociatedKeyFileBody inflector file

theorem layered_registry : registry.tables.Layered Part.rank := by
  refine Registry.layered_ofSets fun s hs => ?_
  simp only [ruleSets, List.mem_cons, List.not_mem_nil, or_false] at hs
  rcases hs with rfl | rfl | rfl | rfl | rfl | rfl
  · exact layered_baseRules
  · exact layered_crudRules
  · exact layered_searchRules
  · exact layered_associateRules
  · exact layered_filterKeysRules
  · exact layered_listByAssociatedKeyRules

end Storage
end Scaffold
