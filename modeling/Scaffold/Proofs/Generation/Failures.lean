import Scaffold.Proofs.Generation.RuleLists
import Scaffold.Proofs.Rules.Failures

/-! Failures of the input: settings that no run can use, a model that cannot be generated from, an
entity that declares a field twice. No file or fragment rule of the bundled packages ends in one of
them, and the directory rule does only when the check of the file names fails. -/

namespace Scaffold
open Model Code Rules

/-- Failures of the settings and of the document, which do not depend on any rule. -/
def Failure.ofInput : Failure → Bool
  | .settings _ => true
  | .model _ => true
  | .key (.duplicateField _ _) => true
  | _ => false

/-- Failures that rules and dispatch may end in. -/
def Failure.Later (e : Failure) : Prop :=
  e.ofInput = false

theorem Failure.later_ofDispatch (e : Failure) (h : e.OfDispatch) : e.Later := by
  cases e with
  | settings fault => exact h.elim
  | model fault => exact h.elim
  | key fault => exact h.elim
  | _ => rfl

/-! ## Keys and bags -/

def KeyFault.Later (fault : KeyFault) : Prop :=
  (Failure.key fault).Later

namespace Model.Entity
variable (e : Entity)

theorem failsWithin_keyCode (qualifier? : Option String) :
    FailsWithin KeyFault.Later (e.keyCode qualifier?) := by
  unfold keyCode
  split
  · exact failsWithin_error rfl
  · exact failsWithin_ok _
  · exact failsWithin_ok _

theorem failsWithin_singleKey (rule : String) :
    FailsWithin KeyFault.Later (e.singleKey rule) := by
  unfold singleKey
  split
  · exact failsWithin_ok _
  · exact failsWithin_error rfl

end Model.Entity

theorem Code.Fragment.failsWithin_binding (f : Fragment) (slot : String) :
    FailsWithin Failure.Later (f.binding slot) := by
  unfold binding
  split
  · exact failsWithin_ok _
  · exact failsWithin_error rfl

section Faults
variable {α : Type}

theorem failsWithin_bag (x : Except BagFault α) : FailsWithin Failure.Later (x.mapError .bag) :=
  FailsWithin.mapError (E := Failure.Later) fun _ _ => rfl

theorem failsWithin_key {x : Except KeyFault α} (h : FailsWithin KeyFault.Later x) :
    FailsWithin Failure.Later (x.mapError .key) :=
  FailsWithin.mapError (E := Failure.Later) h

end Faults

/-! ## Interfaces -/

namespace Interface
variable (inflector : Inflector) (acc : Fragment) (part : EntityPart)

theorem failsWithin_operationMethods (e : Entity) (op : Operation) :
    FailsWithin KeyFault.Later (operationMethods e op) := by
  cases op with
  | findByKey => exact (e.failsWithin_keyCode none).bind fun _ => failsWithin_ok _
  | delete => exact (e.failsWithin_keyCode none).bind fun _ => failsWithin_ok _
  | _ => exact failsWithin_ok _

theorem failsWithin_associateMethod (key : String) (child : Entity) :
    FailsWithin KeyFault.Later (associateMethod inflector key child) :=
  (child.failsWithin_keyCode none).bind fun _ => failsWithin_ok _

theorem failsWithin_listByMethod (e : Entity) (listing : KeyListing Entity) :
    FailsWithin KeyFault.Later (listByMethod inflector e listing) :=
  (listing.associated.failsWithin_keyCode none).bind fun _ => failsWithin_ok _

theorem failsWithin_crudBody : (crudBody inflector acc part).FailsWithin Failure.Later := by
  refine (Script.failsWithin_lift (failsWithin_bag _)).bind fun operations => ?_
  refine Script.failsWithin_foldlM (fun op _ acc => ?_) _
  have methods := failsWithin_key (failsWithin_operationMethods part.entity op)
  exact (Script.failsWithin_lift methods).bind fun _ => Script.failsWithin_pure _

theorem failsWithin_associateBody :
    (associateBody inflector acc part).FailsWithin Failure.Later := by
  have key := failsWithin_key (part.entity.failsWithin_keyCode none)
  refine (Script.failsWithin_lift key).bind fun key => ?_
  refine Script.failsWithin_foldlM (fun child _ acc => ?_) _
  have declared := failsWithin_key (failsWithin_associateMethod inflector key child)
  exact (Script.failsWithin_lift declared).bind fun _ => Script.failsWithin_pure _

theorem failsWithin_filterKeysBody :
    (filterKeysBody inflector acc part).FailsWithin Failure.Later := by
  have key := failsWithin_key (part.entity.failsWithin_keyCode none)
  exact (Script.failsWithin_lift key).bind fun _ => Script.failsWithin_pure _

theorem failsWithin_listByAssociatedKeyBody :
    (listByAssociatedKeyBody inflector acc part).FailsWithin Failure.Later := by
  refine Script.failsWithin_foldlM (fun listing _ acc => ?_) _
  have declared := failsWithin_key (failsWithin_listByMethod inflector part.entity listing)
  exact (Script.failsWithin_lift declared).bind fun _ => Script.failsWithin_pure _

theorem failsWithin_addEntity (e : Entity) : (addEntity e).FailsWithin Failure.Later := by
  have rest : (do
      let methods ← FileScript.buildFragment (V := parts) (k := .interfaceMethods) .empty ⟨e⟩
      FileScript.add (renderTrait e methods) : FileScript parts Unit).FailsWithin Failure.Later :=
    (FileScript.failsWithin_buildFragment _ _).bind fun _ => FileScript.failsWithin_change _
  unfold addEntity
  cases e.keyDeclaration? with
  | none => exact (FileScript.failsWithin_pure ()).bind fun _ => rest
  | some declaration => exact (FileScript.failsWithin_change _).bind fun _ => rest

theorem failsWithin_interfaceFileBody (file : InterfaceFile) :
    (interfaceFileBody inflector file).FailsWithin Failure.Later := by
  have rest : (do
      FileScript.use runtimeModule
      file.entities.forM addEntity : FileScript parts Unit).FailsWithin Failure.Later :=
    (FileScript.failsWithin_change _).bind fun _ =>
      FileScript.failsWithin_forM fun e _ => failsWithin_addEntity e
  unfold interfaceFileBody
  cases file.header? with
  | none => exact rest
  | some header => exact (FileScript.failsWithin_change _).bind fun _ => rest

theorem failWithin_registry : registry.tables.FailWithin Failure.Later where
  file := by
    intro k rule hr
    rw [rulesFor_file] at hr
    cases k with
    | interfaceFile =>
      obtain rfl := List.mem_singleton.1 hr
      exact failsWithin_interfaceFileBody
    | _ => cases hr
  fragment := by
    intro k rule hr
    rw [rulesFor_fragment] at hr
    cases k with
    | interfaceMethods =>
      simp only [fragmentRules, List.mem_cons, List.not_mem_nil, or_false] at hr
      rcases hr with rfl | rfl | rfl | rfl | rfl
      · exact failsWithin_crudBody
      · exact fun _ _ _ => Script.failsWithin_pure _
      · exact failsWithin_associateBody
      · exact failsWithin_filterKeysBody
      · exact failsWithin_listByAssociatedKeyBody
    | _ => cases hr

end Interface

/-! ## Storage -/

namespace Storage
variable (inflector : Inflector) (acc : Fragment)

theorem failsWithin_namesOf (e : Entity) : FailsWithin Failure.Later (namesOf e inflector) :=
  failsWithin_bag _

theorem failsWithin_keyOf (e : Entity) (qualifier : String) :
    FailsWithin Failure.Later (keyOf e qualifier) :=
  failsWithin_key (e.failsWithin_keyCode _)

theorem failsWithin_singleKeyOf (e : Entity) (rule : String) :
    FailsWithin Failure.Later (singleKeyOf e rule) :=
  failsWithin_key (e.failsWithin_singleKey _)

theorem failsWithin_hasOperations (e : Entity) : FailsWithin Failure.Later (hasOperations e) := by
  unfold hasOperations
  split
  · exact failsWithin_error rfl
  · exact failsWithin_ok _
  · exact failsWithin_ok _

theorem failsWithin_setHeader? (header? : Option String) :
    (setHeader? header?).FailsWithin Failure.Later := by
  cases header? with
  | none => exact FileScript.failsWithin_pure ()
  | some header => exact FileScript.failsWithin_change _

theorem failsWithin_indexBody (d : StorageIndex) :
    (indexBody inflector d).FailsWithin Failure.Later := by
  refine (failsWithin_setHeader? _).bind fun _ => (FileScript.failsWithin_change _).bind fun _ => ?_
  have constructors := failsWithin_mapM
    (fun e => (failsWithin_namesOf inflector e).map (·.constructor)) d.entities
  exact (FileScript.failsWithin_lift constructors).bind fun _ => FileScript.failsWithin_change _

theorem failsWithin_build {k : Part} (d : k.Descriptor) :
    (build acc d).FailsWithin Failure.Later :=
  FileScript.failsWithin_buildFragment (V := parts) acc d

theorem failsWithin_fileBody (file : StorageFile) :
    (fileBody inflector file).FailsWithin Failure.Later := by
  refine (FileScript.failsWithin_lift (failsWithin_namesOf _ _)).bind fun names => ?_
  refine (failsWithin_setHeader? _).bind fun _ => (FileScript.failsWithin_change _).bind fun _ => ?_
  refine (failsWithin_build _ _).bind fun leading => (failsWithin_build _ _).bind fun further => ?_
  refine (FileScript.failsWithin_change _).bind fun _ => ?_
  refine (FileScript.failsWithin_emitFile (V := parts) _).bind fun _ => ?_
  refine (failsWithin_build _ _).bind fun fields => ?_
  refine (FileScript.failsWithin_change _).bind fun _ => ?_
  refine (failsWithin_build _ _).bind fun parameters => ?_
  refine (FileScript.failsWithin_change _).bind fun _ => ?_
  refine (failsWithin_build _ _).bind fun statements => (failsWithin_build _ _).bind fun values => ?_
  exact FileScript.failsWithin_change _

theorem failsWithin_constructorBodyBody (part : EntityPart) :
    (constructorBodyBody inflector acc part).FailsWithin Failure.Later := by
  refine (Script.failsWithin_lift (failsWithin_namesOf _ _)).bind fun names => ?_
  exact (Script.failsWithin_buildFragment (V := parts) _ _).bind fun _ => Script.failsWithin_pure _

section Linked
variable (part : LinkedPart)

theorem failsWithin_templateValueBody :
    (templateValueBody inflector acc part).FailsWithin Failure.Later :=
  (Script.failsWithin_lift (acc.failsWithin_binding _)).bind fun _ => Script.failsWithin_pure _

theorem failsWithin_crudFieldBody :
    (crudFieldBody inflector acc part).FailsWithin Failure.Later := by
  refine (Script.failsWithin_lift (failsWithin_hasOperations _)).bind fun filled => ?_
  split
  · refine (Script.failsWithin_lift (failsWithin_namesOf _ _)).bind fun names => ?_
    exact (Script.failsWithin_lift (failsWithin_keyOf _ _)).bind fun _ => Script.failsWithin_pure _
  · exact Script.failsWithin_pure _

theorem failsWithin_crudValueBody :
    (crudValueBody inflector acc part).FailsWithin Failure.Later := by
  refine (Script.failsWithin_lift (failsWithin_hasOperations _)).bind fun filled => ?_
  split
  · refine (Script.failsWithin_lift (failsWithin_namesOf _ _)).bind fun names => ?_
    refine (Script.failsWithin_lift (acc.failsWithin_binding _)).bind fun template => ?_
    exact (Script.failsWithin_buildFragment (V := parts) _ _).bind fun _ =>
      Script.failsWithin_pure _
  · exact Script.failsWithin_pure _

theorem failsWithin_searchFieldBody :
    (searchFieldBody inflector acc part).FailsWithin Failure.Later :=
  (Script.failsWithin_lift (failsWithin_namesOf _ _)).bind fun _ => Script.failsWithin_pure _

theorem failsWithin_searchValueBody :
    (searchValueBody inflector acc part).FailsWithin Failure.Later := by
  refine (Script.failsWithin_lift (acc.failsWithin_binding _)).bind fun template => ?_
  exact (Script.failsWithin_lift (failsWithin_bag _)).bind fun _ => Script.failsWithin_pure _

theorem failsWithin_filterKeysFieldBody :
    (filterKeysFieldBody inflector acc part).FailsWithin Failure.Later := by
  refine (Script.failsWithin_lift (failsWithin_namesOf _ _)).bind fun names => ?_
  exact (Script.failsWithin_lift (failsWithin_keyOf _ _)).bind fun _ => Script.failsWithin_pure _

theorem failsWithin_filterKeysValueBody :
    (filterKeysValueBody inflector acc part).FailsWithin Failure.Later := by
  refine (Script.failsWithin_lift (failsWithin_singleKeyOf _ _)).bind fun keyField => ?_
  exact (Script.failsWithin_lift (acc.failsWithin_binding _)).bind fun _ =>
    Script.failsWithin_pure _

end Linked

theorem failsWithin_associateMethod (interfaceModule : String) (names : Names) (keyField : Field)
    (key : String) (child : Entity) :
    FailsWithin Failure.Later
      (associateMethod inflector interfaceModule names keyField key child) := by
  refine (failsWithin_namesOf inflector child).bind fun childNames => ?_
  refine (failsWithin_singleKeyOf child _).bind fun childKeyField => ?_
  exact (failsWithin_keyOf child _).bind fun childKey => failsWithin_ok _

theorem failsWithin_listByMethod (interfaceModule : String) (e : Entity) (names : Names)
    (keyField : Field) (listing : KeyListing Entity) :
    FailsWithin Failure.Later
      (listByMethod inflector interfaceModule e names keyField listing) := by
  refine (failsWithin_namesOf inflector listing.associated).bind fun otherNames => ?_
  refine (failsWithin_singleKeyOf listing.associated _).bind fun otherKeyField => ?_
  exact (failsWithin_keyOf listing.associated _).bind fun key => failsWithin_ok _

theorem failsWithin_associateFileBody (file : StorageFile) :
    (associateFileBody inflector file).FailsWithin Failure.Later := by
  refine (FileScript.failsWithin_lift (failsWithin_namesOf _ _)).bind fun names => ?_
  refine (FileScript.failsWithin_lift (failsWithin_singleKeyOf _ _)).bind fun keyField => ?_
  refine (FileScript.failsWithin_lift (failsWithin_keyOf _ _)).bind fun key => ?_
  refine FileScript.failsWithin_forM fun child _ => ?_
  exact (FileScript.failsWithin_lift (failsWithin_associateMethod _ _ _ _ _ _)).bind fun _ =>
    FileScript.failsWithin_change _

theorem failsWithin_listByAssociatedKeyFileBody (file : StorageFile) :
    (listByAssociatedKeyFileBody inflector file).FailsWithin Failure.Later := by
  refine (FileScript.failsWithin_lift (failsWithin_namesOf _ _)).bind fun names => ?_
  refine (FileScript.failsWithin_lift (failsWithin_singleKeyOf _ _)).bind fun keyField => ?_
  refine FileScript.failsWithin_forM fun listing _ => ?_
  exact (FileScript.failsWithin_lift (failsWithin_listByMethod _ _ _ _ _ _)).bind fun _ =>
    FileScript.failsWithin_change _

theorem failWithin_registry : registry.tables.FailWithin Failure.Later where
  file := by
    intro k rule hr
    rw [rulesFor_file] at hr
    cases k with
    | storageIndex =>
      obtain rfl := List.mem_singleton.1 hr
      exact failsWithin_indexBody
    | storageFile =>
      simp only [fileRules, List.mem_cons, List.not_mem_nil, or_false] at hr
      rcases hr with rfl | rfl | rfl
      · exact failsWithin_fileBody
      · exact failsWithin_associateFileBody
      · exact failsWithin_listByAssociatedKeyFileBody
    | _ => cases hr
  fragment := by
    intro k rule hr
    rw [rulesFor_fragment] at hr
    cases k with
    | leadingFields =>
      obtain rfl := List.mem_singleton.1 hr
      exact fun _ _ _ => Script.failsWithin_pure _
    | constructorBody =>
      obtain rfl := List.mem_singleton.1 hr
      exact failsWithin_constructorBodyBody
    | parameterFields =>
      obtain rfl := List.mem_singleton.1 hr
      exact fun _ _ _ => Script.failsWithin_pure _
    | implementationFields =>
      simp only [fragmentRules, List.mem_cons, List.not_mem_nil, or_false] at hr
      rcases hr with rfl | rfl | rfl | rfl
      · exact failsWithin_crudFieldBody
      · exact failsWithin_searchFieldBody
      · exact fun _ _ _ => Script.failsWithin_pure _
      · exact failsWithin_filterKeysFieldBody
    | fieldValues =>
      simp only [fragmentRules, List.mem_cons, List.not_mem_nil, or_false] at hr
      rcases hr with rfl | rfl | rfl | rfl | rfl
      · exact failsWithin_templateValueBody
      · exact failsWithin_crudValueBody
      · exact failsWithin_searchValueBody
      · exact fun _ _ _ => Script.failsWithin_pure _
      · exact failsWithin_filterKeysValueBody
    | _ => cases hr

theorem failsWithin_directoryBody {d : StorageDirectory}
    (checked : d.checkFiles inflector = .ok ()) (path : Path) :
    (directoryBody inflector path d).FailsWithin Failure.Later := by
  have again : FailsWithin Failure.Later ((d.checkFiles inflector).mapError Failure.model) := by
    rw [checked]
    exact failsWithin_ok ()
  refine (Script.failsWithin_lift again).bind fun _ => ?_
  refine (Script.failsWithin_forM fun e _ => ?_).bind fun _ => ?_
  · exact Script.failsWithin_emitFileAt (V := parts) _ _
  · split
    · exact Script.failsWithin_emitFileAt (V := parts) _ _
    · exact Script.failsWithin_pure ()

end Storage
end Scaffold
