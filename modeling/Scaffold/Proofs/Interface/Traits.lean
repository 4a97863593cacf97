import Scaffold.Proofs.Generation.Layers
import Scaffold.Proofs.Generation.RuleLists
import Scaffold.Proofs.Model.Keys
import Scaffold.Proofs.Rules.Additive

/-! The methods that the bundled rules declare in the repository trait of an entity: those of every
capability one after the other, each group made from the entity alone. An interface file holds the
traits of its entities in order, each behind the declaration of its composite key, if there is one.
-/

namespace Scaffold.Interface
open Model Code Rules

def answers (inflector : Inflector) : Answers parts :=
  (registry.withInflector inflector).answers

section Answers
variable (inflector : Inflector)

theorem emitFile_eq_answers (source : SourceFile) (file : InterfaceFile) (w : World) :
    (registry.withInflector inflector).emitFile (V := parts) (k := .interfaceFile) source file w =
      (answers inflector (.emitFile (V := parts) (k := .interfaceFile) source file), w) :=
  Registry.emitFile_eq_answers (k := Part.interfaceFile)
    (Registry.layered_withInflector layered_registry inflector) (by decide) source file w

theorem buildFragment_eq_answers (acc : Fragment) (part : EntityPart) (w : World) :
    (registry.withInflector inflector).buildFragment (V := parts) (k := .interfaceMethods) acc part
        w =
      (answers inflector (.buildFragment (V := parts) (k := .interfaceMethods) acc part), w) :=
  Registry.buildFragment_eq_answers (k := Part.interfaceMethods)
    (Registry.layered_withInflector layered_registry inflector) (by decide) acc part w

theorem answers_buildFragment (acc : Fragment) (part : EntityPart) :
    answers inflector (.buildFragment (V := parts) (k := .interfaceMethods) acc part) =
      (fragmentScript (V := parts) (k := Part.interfaceMethods) inflector part
        (fragmentRules .interfaceMethods) acc).value (answers inflector) := by
  rw [← rulesFor_fragment]
  exact Registry.answers_buildFragment (k := Part.interfaceMethods)
    (Registry.layered_withInflector layered_registry inflector) (by decide) acc part

theorem answers_emitFile (source : SourceFile) (file : InterfaceFile) :
    answers inflector (.emitFile (V := parts) (k := .interfaceFile) source file) =
      (fileScript (V := parts) (k := Part.interfaceFile) inflector file
        (fileRules .interfaceFile)).value (answers inflector) source := by
  rw [← rulesFor_file]
  exact Registry.answers_emitFile (k := Part.interfaceFile)
    (Registry.layered_withInflector layered_registry inflector) (by decide) source file

end Answers

/-! ## Methods by capability -/

section Groups
variable (inflector : Inflector) (e : Entity)

def crudMethods : Except Failure (List String) := do
  let operations ← (e.capabilities.require Capability.crudType e.name).mapError .bag
  let methods ← operations.toList.mapM fun op => (operationMethods e op).mapError Failure.key
  return methods.flatten

def associateMethods : Except Failure (List String) := do
  let key ← (e.keyCode none).mapError .key
  (e.capabilities.getAll Capability.associateType).mapM fun child =>
    (associateMethod inflector key child).mapError Failure.key

def filterKeysMethods : Except Failure (List String) := do
  let key ← (e.keyCode none).mapError .key
  return [filterKeysMethod key]

def listByMethods : Except Failure (List String) :=
  (e.capabilities.getAll Capability.listByAssociatedKeyType).mapM fun listing =>
    (listByMethod inflector e listing).mapError Failure.key

end Groups

section Bodies
variable {answers : Answers parts} (inflector : Inflector) (acc : Fragment) (part : EntityPart)

theorem value_crudBody :
    (crudBody inflector acc part).value answers = (crudMethods part.entity).map acc.extend := by
  simp only [crudBody, Script.value_bind, Script.value_lift, Script.value_foldlM,
    Script.value_pure, Fragment.foldlM_extend]
  unfold crudMethods
  cases part.entity.capabilities.require Capability.crudType part.entity.name with
  | error fault => rfl
  | ok operations =>
    change (operations.toList.mapM fun op => (operationMethods part.entity op).mapError _).map _ =
      ((operations.toList.mapM fun op => (operationMethods part.entity op).mapError _) >>=
        fun methods => Except.ok methods.flatten).map _
    cases operations.toList.mapM fun op =>
      (operationMethods part.entity op).mapError Failure.key with
    | error e => rfl
    | ok methods => simp only [List.flatMap_id']; rfl

theorem value_searchBody :
    (searchBody inflector acc part).value answers =
      (Except.ok (searchMethods part.entity)).map acc.extend := rfl

theorem value_associateBody :
    (associateBody inflector acc part).value answers =
      (associateMethods inflector part.entity).map acc.extend := by
  simp only [associateBody, Script.value_bind, Script.value_lift, Script.value_foldlM,
    Script.value_pure, Fragment.foldlM_push]
  unfold associateMethods
  cases part.entity.keyCode none with
  | error fault => rfl
  | ok key => rfl

theorem value_filterKeysBody :
    (filterKeysBody inflector acc part).value answers =
      (filterKeysMethods part.entity).map acc.extend := by
  simp only [filterKeysBody, Script.value_bind, Script.value_lift, Script.value_pure]
  unfold filterKeysMethods
  cases part.entity.keyCode none with
  | error fault => rfl
  | ok key => rfl

theorem value_listByAssociatedKeyBody :
    (listByAssociatedKeyBody inflector acc part).value answers =
      (listByMethods inflector part.entity).map acc.extend := by
  simp only [listByAssociatedKeyBody, Script.value_bind, Script.value_lift, Script.value_foldlM,
    Script.value_pure, Fragment.foldlM_push]
  rfl

end Bodies

/-- The methods of a trait, grouped by the capability that they are for. -/
structure Groups where
  crud : List String
  search : List String
  associate : List String
  filterKeys : List String
  listBy : List String

namespace Groups

def methods (g : Groups) : List String :=
  g.crud ++ (g.search ++ (g.associate ++ (g.filterKeys ++ g.listBy)))

structure Of (inflector : Inflector) (e : Entity) (g : Groups) : Prop where
  crud : (if e.has Capability.crudType then crudMethods e else .ok []) = .ok g.crud
  search : (if e.has Capability.searchType then .ok (searchMethods e) else .ok []) =
    (.ok g.search : Except Failure (List String))
  associate : (if e.has Capability.associateType then associateMethods inflector e else .ok []) =
    .ok g.associate
  filterKeys : (if e.has Capability.filterKeysType then filterKeysMethods e else .ok []) =
    .ok g.filterKeys
  listBy : (if e.has Capability.listByAssociatedKeyType then listByMethods inflector e
    else .ok []) = .ok g.listBy

end Groups

section Traits
variable {inflector : Inflector} {e : Entity}

theorem lines_carrying {α : Type} {T : MarkerType (Capability Entity) α}
    {body : FragmentBody parts .interfaceMethods} {methods : Except Failure (List String)}
    {answers : Answers parts}
    (value : ∀ acc, (body inflector acc ⟨e⟩).value answers = methods.map acc.extend)
    (slots : Fragment) :
    Rule.lines (V := parts) (k := Part.interfaceMethods) answers inflector slots ⟨e⟩
        ⟨carrying T, body⟩ =
      if e.has T then methods else .ok [] := by
  change (if e.has T then ((body inflector (.inheriting slots) ⟨e⟩).value answers).map _
    else _) = _
  rw [value]
  cases methods with
  | error e => rfl
  | ok methods => rfl

theorem additive_fragmentRules {answers : Answers parts} (part : EntityPart) :
    ∀ rule ∈ fragmentRules .interfaceMethods,
      Fragment.Additive fun acc => (rule.body inflector acc part).value answers := by
  intro rule hr
  simp only [fragmentRules, List.mem_cons, List.not_mem_nil, or_false] at hr
  rcases hr with rfl | rfl | rfl | rfl | rfl
  · simp only [value_crudBody]
    exact Fragment.additive_map_extend _
  · simp only [value_searchBody]
    exact Fragment.additive_map_extend _
  · simp only [value_associateBody]
    exact Fragment.additive_map_extend _
  · simp only [value_filterKeysBody]
    exact Fragment.additive_map_extend _
  · simp only [value_listByAssociatedKeyBody]
    exact Fragment.additive_map_extend _

theorem answers_interfaceMethods_iff {acc made : Fragment} :
    answers inflector (.buildFragment (V := parts) (k := .interfaceMethods) acc ⟨e⟩) = .ok made ↔
      ∃ g : Groups, g.Of inflector e ∧ made = acc.extend g.methods := by
  rw [answers_buildFragment, value_fragmentScript (additive_fragmentRules ⟨e⟩)]
  rw [fragmentRules, map_eq_ok]
  simp only [mapM_cons_eq_ok,
    lines_carrying fun acc => value_crudBody inflector acc ⟨e⟩,
    lines_carrying fun acc => value_searchBody inflector acc ⟨e⟩,
    lines_carrying fun acc => value_associateBody inflector acc ⟨e⟩,
    lines_carrying fun acc => value_filterKeysBody inflector acc ⟨e⟩,
    lines_carrying fun acc => value_listByAssociatedKeyBody inflector acc ⟨e⟩]
  constructor
  · rintro ⟨_, ⟨crud, _, h₁, ⟨search, _, h₂, ⟨associate, _, h₃, ⟨filterKeys, _, h₄,
      ⟨listBy, _, h₅, none, rfl⟩, rfl⟩, rfl⟩, rfl⟩, rfl⟩, rfl⟩
    obtain rfl := Except.ok.inj none
    refine ⟨⟨crud, search, associate, filterKeys, listBy⟩, ⟨h₁, h₂, h₃, h₄, h₅⟩, ?_⟩
    simp only [Groups.methods, List.flatten_cons, List.reverse_nil, List.flatten_nil,
      List.append_nil]
  · rintro ⟨g, of, rfl⟩
    refine ⟨_, ⟨g.crud, _, of.crud, ⟨g.search, _, of.search, ⟨g.associate, _, of.associate,
      ⟨g.filterKeys, _, of.filterKeys, ⟨g.listBy, _, of.listBy, rfl, rfl⟩, rfl⟩, rfl⟩, rfl⟩, rfl⟩,
      ?_⟩
    simp only [Groups.methods, List.flatten_cons, List.reverse_nil, List.flatten_nil,
      List.append_nil]

/-! ## The file -/

def traitItems (inflector : Inflector) (e : Entity) : Except Failure (List String) := do
  let methods ← answers inflector
    (.buildFragment (V := parts) (k := .interfaceMethods) .empty ⟨e⟩)
  return e.keyDeclaration?.toList ++ [renderTrait e methods]

theorem appends_addEntity :
    (addEntity e).Appends (answers inflector) (traitItems inflector e) := by
  have rendered : ∀ methods, (FileScript.add (renderTrait e methods) :
      FileScript parts Unit).Appends (answers inflector) (.ok [renderTrait e methods]) :=
    fun methods => FileScript.appends_add _
  have built := FileScript.appends_buildFragment_bind (V := parts) (k := Part.interfaceMethods)
    .empty ⟨e⟩ rendered
  unfold addEntity traitItems
  cases e.keyDeclaration? with
  | none =>
    refine Eq.mp (congrArg _ ?_) (FileScript.appends_pure.bind built)
    cases answers inflector (.buildFragment (V := parts) (k := .interfaceMethods) .empty ⟨e⟩)
    · rfl
    · rfl
  | some declaration =>
    refine Eq.mp (congrArg _ ?_) ((FileScript.appends_add declaration).bind built)
    cases answers inflector (.buildFragment (V := parts) (k := .interfaceMethods) .empty ⟨e⟩)
    · rfl
    · rfl

theorem ends_addEntity : (addEntity e).Ends (answers inflector) (traitItems inflector e) := by
  have built (declared : Option String) (file : SourceFile) :
      ((FileScript.buildFragment (V := parts) (k := .interfaceMethods) .empty ⟨e⟩ >>=
        fun methods => FileScript.add (renderTrait e methods) :
          FileScript parts Unit).value (answers inflector) file).1 =
        (answers inflector (.buildFragment (V := parts) (k := .interfaceMethods) .empty ⟨e⟩) >>=
          fun methods => .ok (declared.toList ++ [renderTrait e methods])).map fun _ => () := by
    rw [FileScript.value_bind, FileScript.value_buildFragment]
    cases answers inflector (.buildFragment (V := parts) (k := .interfaceMethods) .empty ⟨e⟩) with
    | error e => rfl
    | ok methods => rfl
  intro file
  unfold addEntity traitItems
  cases e.keyDeclaration? with
  | none => exact built none file
  | some declaration => exact built (some declaration) (file.add declaration)

theorem exists_traitItems_iff :
    (∃ items, traitItems inflector e = .ok items) ↔ ∃ g : Groups, g.Of inflector e := by
  unfold traitItems
  constructor
  · rintro ⟨items, made⟩
    obtain ⟨methods, built, -⟩ := bind_eq_ok.1 made
    obtain ⟨g, of, -⟩ := answers_interfaceMethods_iff.1 built
    exact ⟨g, of⟩
  · rintro ⟨g, of⟩
    exact ⟨_, bind_eq_ok.2 ⟨_, answers_interfaceMethods_iff.2 ⟨g, of, rfl⟩, rfl⟩⟩

def opened (file : InterfaceFile) (source : SourceFile) : SourceFile :=
  { source with header? := file.header? <|> source.header? }.use runtimeModule

section Files
variable {source source' : SourceFile} {file : InterfaceFile}

theorem value_interfaceFileBody (source : SourceFile) (file : InterfaceFile) :
    (interfaceFileBody inflector file).value (answers inflector) source =
      (file.entities.forM addEntity : FileScript parts Unit).value (answers inflector)
        (opened file source) := by
  unfold interfaceFileBody opened
  cases file.header? with
  | none => rw [FileScript.value_bind]; rfl
  | some header => rw [FileScript.value_bind]; rfl

theorem answers_interfaceFile (source : SourceFile) (file : InterfaceFile) :
    answers inflector (.emitFile (V := parts) (k := .interfaceFile) source file) =
      (file.entities.forM addEntity : FileScript parts Unit).value (answers inflector)
        (opened file source) := by
  rw [answers_emitFile, ← value_interfaceFileBody]
  change ((interfaceFileBody inflector file >>= pure : FileScript parts Unit).value _ _) = _
  rw [bind_pure]

theorem answers_interfaceFile_fst (source : SourceFile) (file : InterfaceFile) :
    (answers inflector (.emitFile (V := parts) (k := .interfaceFile) source file)).1 =
      (file.entities.mapM (traitItems inflector)).map fun _ => () := by
  rw [answers_interfaceFile, FileScript.ends_forM (fun _ => ends_addEntity)]
  cases file.entities.mapM (traitItems inflector) <;> rfl

theorem answers_interfaceFile_iff :
    answers inflector (.emitFile (V := parts) (k := .interfaceFile) source file) =
      (.ok (), source') ↔ ∃ groups, file.entities.mapM (traitItems inflector) = .ok groups ∧
        source' = (opened file source).addAll groups.flatten := by
  have entities : (file.entities.forM addEntity).Appends (answers inflector)
      ((file.entities.mapM (traitItems inflector)).map List.flatten) :=
    FileScript.appends_forM fun e _ => appends_addEntity
  rw [answers_interfaceFile]
  refine (entities _ _).trans ?_
  simp only [map_eq_ok]
  constructor
  · rintro ⟨_, ⟨groups, made, rfl⟩, rfl⟩
    exact ⟨groups, made, rfl⟩
  · rintro ⟨groups, made, rfl⟩
    exact ⟨_, ⟨groups, made, rfl⟩, rfl⟩

theorem exists_answers_interfaceFile_iff :
    (∃ source', answers inflector (.emitFile (V := parts) (k := .interfaceFile) source file) =
      (.ok (), source')) ↔ ∀ e ∈ file.entities, ∃ g : Groups, g.Of inflector e := by
  simp only [← exists_traitItems_iff, ← exists_mapM_iff]
  refine (exists_congr fun _ => answers_interfaceFile_iff).trans ?_
  exact ⟨fun ⟨_, groups, made, _⟩ => ⟨groups, made⟩, fun ⟨groups, made⟩ => ⟨_, groups, made, rfl⟩⟩

theorem emitFile_ok_iff (source : SourceFile) (file : InterfaceFile) (w : World) :
    ((registry.withInflector inflector).emitFile (V := parts) (k := .interfaceFile) source file
      w).1.1 = .ok () ↔ ∀ e ∈ file.entities, ∃ g : Groups, g.Of inflector e := by
  rw [emitFile_eq_answers, ← exists_answers_interfaceFile_iff]
  exact ⟨fun succeeded => ⟨_, Prod.ext succeeded rfl⟩, fun ⟨_, made⟩ => congrArg Prod.fst made⟩

end Files

end Traits
end Scaffold.Interface
