import Scaffold.Proofs.Storage.Acceptance
import Scaffold.Proofs.Storage.FileNames
import Scaffold.Proofs.Storage.Texts

/-! The constructor of a repository fits the structs that it is about. Three folds with rules of
their own make the fields of the implementation, the fields of the parameters and the values that
the constructor gives; here they are shown to be three views of one list of members. A member is a
field with its value, and the parameters have those members whose value is read from the parameter
of the same name.

The alignment is shown capability by capability, where it depends on the two rules of a capability
failing and staying silent together, and then for the concatenation. -/

namespace Scaffold.Storage
open Model Code Rules

/-- A field of the implementation and the value that the constructor gives to it. -/
structure Member where
  name : String
  type : String
  value : String

namespace Member

def declaration (m : Member) : String :=
  "pub " ++ m.name ++ ": " ++ m.type

def initialiser (m : Member) : String :=
  m.name ++ ": " ++ m.value

def fromParameters (m : Member) : Bool :=
  m.value == "params." ++ m.name

theorem fromParameters_eq_false {m : Member} (start : m.value.toList.head? ≠ some 'p') :
    m.fromParameters = false := by
  refine beq_eq_false_iff_ne.2 fun same => start ?_
  rw [same, String.toList_append]
  rfl

end Member

/-- The names that members of an implementation have: a template, or the repository of a child. -/
def IsMemberName (inflector : Inflector) (e : Entity) (name : String) : Prop :=
  name ∈ ["template", "crud_template", "search_template", "filter_keys_template"] ∨
    ∃ child ∈ childrenOf e, name = repositoryField inflector child

theorem IsMemberName.colon_not_mem {inflector : Inflector} {e : Entity} {name : String}
    (named : IsMemberName inflector e name) (plain : ∀ s, ':' ∉ (inflector.snake s).toList) :
    ':' ∉ name.toList := by
  rcases named with fixed | ⟨child, -, rfl⟩
  · revert name
    decide
  · rw [repositoryField, String.toList_append, List.mem_append, not_or]
    exact ⟨plain child.name, by decide⟩

theorem colon_not_mem_snake_english (s : String) : ':' ∉ (Inflector.english.snake s).toList :=
  Text.Words.mark_not_mem_snake ⟨by decide, by decide, by decide⟩ s

/-- Fields, values and parameters, in this order, of the same members. -/
def Aligned (named : String → Prop) (fields values parameters : List String) : Prop :=
  ∃ members : List Member, (∀ m ∈ members, named m.name) ∧
    fields = members.map Member.declaration ∧ values = members.map Member.initialiser ∧
    parameters = (members.filter Member.fromParameters).map Member.declaration

namespace Aligned
variable {named : String → Prop} {fields values parameters fields' values' parameters' :
  List String}

theorem nil : Aligned named [] [] [] :=
  ⟨[], nofun, rfl, rfl, rfl⟩

theorem single {field value : String} (m : Member) (name : named m.name)
    (start : m.value.toList.head? ≠ some 'p') (declared : field = m.declaration)
    (initialised : value = m.initialiser) : Aligned named [field] [value] [] := by
  refine ⟨[m], List.forall_mem_singleton.2 name, ?_, ?_, ?_⟩
  · rw [declared, List.map_singleton]
  · rw [initialised, List.map_singleton]
  · rw [List.filter_singleton, Member.fromParameters_eq_false start]
    rfl

theorem append (first : Aligned named fields values parameters)
    (second : Aligned named fields' values' parameters') :
    Aligned named (fields ++ fields') (values ++ values') (parameters ++ parameters') := by
  obtain ⟨members, names, rfl, rfl, rfl⟩ := first
  obtain ⟨members', names', rfl, rfl, rfl⟩ := second
  refine ⟨members ++ members', ?_, ?_, ?_, ?_⟩
  · exact List.forall_mem_append.2 ⟨names, names'⟩
  · rw [List.map_append]
  · rw [List.map_append]
  · rw [List.filter_append, List.map_append]

end Aligned

/-! ## The rules of the capabilities -/

section Capabilities
variable {answers : Answers parts} {inflector : Inflector} {slots slots' : Fragment}
  {part : LinkedPart} {fields values parameters : List String}

theorem Aligned.of_lines {named : String → Prop} {α : Type} {T : MarkerType (Capability Entity) α}
    {fieldBody : FragmentBody parts .implementationFields}
    {valueBody : FragmentBody parts .fieldValues}
    (declared : Rule.lines answers inflector slots part ⟨fieldsOf T, fieldBody⟩ = .ok fields)
    (initialised : Rule.lines answers inflector slots' part ⟨valuesOf T, valueBody⟩ = .ok values)
    (bodies : ∀ built valued,
      (fieldBody inflector (.inheriting slots) part).value answers = .ok built →
        (valueBody inflector (.inheriting slots') part).value answers = .ok valued →
          Aligned named built.items valued.items []) :
    Aligned named fields values [] := by
  cases marked : part.entity.has T with
  | false =>
    have passed : ¬part.entity.has T := Bool.not_eq_true _ ▸ marked
    rw [eq_nil_of_lines declared passed, eq_nil_of_lines initialised passed]
    exact .nil
  | true =>
    obtain ⟨built, made, rfl⟩ := exists_of_lines declared marked
    obtain ⟨valued, made', rfl⟩ := exists_of_lines initialised marked
    exact bodies built valued made made'

theorem templateValue_eq (field template options : String) (entries : Fragment) :
    templateValue field template options entries = field ++ ": " ++ ("data::mapping::" ++
      template ++ "::new(data::mapping::" ++ options ++ " \x7b\n" ++ entries.render 4 "," ++
        "\n\x7d)") := by
  have lead : ": data::mapping::" = ": " ++ "data::mapping::" := rfl
  rw [templateValue, lead]
  simp only [String.append_assoc]

theorem Aligned.template {named : String → Prop} {name template options field : String}
    {entries : Fragment} (type : String) (holds : named name)
    (declared : field = "pub " ++ name ++ ": " ++ type) :
    Aligned named [field] [templateValue name template options entries] [] := by
  refine .single ⟨name, type, _⟩ holds ?_ declared (templateValue_eq name template options entries)
  simp [String.toList_append]

theorem aligned_crud
    (declared : Rule.lines (V := parts) answers inflector slots part
      ⟨fieldsOf Capability.crudType, crudFieldBody⟩ = .ok fields)
    (initialised : Rule.lines (V := parts) answers inflector slots' part
      ⟨valuesOf Capability.crudType, crudValueBody⟩ = .ok values) :
    Aligned (IsMemberName inflector part.entity) fields values [] := by
  refine .of_lines declared initialised fun built valued made made' => ?_
  simp only [crudFieldBody, Script.value_bind, Script.value_lift, Script.value_ite,
    Script.value_pure] at made
  simp only [crudValueBody, Script.value_bind, Script.value_lift, Script.value_ite,
    Script.value_pure] at made'
  -- Both rules ask whether there are operations, so they add a line together or not at all.
  obtain ⟨filled, asked, made⟩ := bind_eq_ok.1 made
  obtain ⟨again, asked', made'⟩ := bind_eq_ok.1 made'
  obtain rfl := Except.ok.inj (asked.symm.trans asked')
  cases filled with
  | false =>
    obtain rfl := Except.ok.inj made
    obtain rfl := Except.ok.inj made'
    exact .nil
  | true =>
    obtain ⟨names, -, made⟩ := bind_eq_ok.1 made
    obtain ⟨key, -, made⟩ := bind_eq_ok.1 made
    obtain ⟨names', -, made'⟩ := bind_eq_ok.1 made'
    obtain ⟨template, -, made'⟩ := bind_eq_ok.1 made'
    obtain ⟨further, -, made'⟩ := bind_eq_ok.1 made'
    obtain rfl := Except.ok.inj made
    obtain rfl := Except.ok.inj made'
    refine .template ("data::mapping::CrudTemplate<" ++ part.entity.typePath ++ ", "
      ++ names.internal ++ ", " ++ key ++ ">") (.inl (by decide)) ?_
    simp only [← String.append_assoc, String.reduceAppend]

theorem aligned_search
    (declared : Rule.lines (V := parts) answers inflector slots part
      ⟨fieldsOf Capability.searchType, searchFieldBody⟩ = .ok fields)
    (initialised : Rule.lines (V := parts) answers inflector slots' part
      ⟨valuesOf Capability.searchType, searchValueBody⟩ = .ok values) :
    Aligned (IsMemberName inflector part.entity) fields values [] := by
  refine .of_lines declared initialised fun built valued made made' => ?_
  simp only [searchFieldBody, Script.value_bind, Script.value_lift, Script.value_pure] at made
  simp only [searchValueBody, Script.value_bind, Script.value_lift, Script.value_pure] at made'
  obtain ⟨names, -, made⟩ := bind_eq_ok.1 made
  obtain ⟨template, -, made'⟩ := bind_eq_ok.1 made'
  obtain ⟨predicates?, -, made'⟩ := bind_eq_ok.1 made'
  obtain rfl := Except.ok.inj made
  obtain rfl := Except.ok.inj made'
  refine .template ("data::mapping::SearchTemplate<" ++ part.entity.typePath ++ ", "
    ++ names.internal ++ ">") (.inl (by decide)) ?_
  simp only [← String.append_assoc, String.reduceAppend]

theorem aligned_filterKeys
    (declared : Rule.lines (V := parts) answers inflector slots part
      ⟨fieldsOf Capability.filterKeysType, filterKeysFieldBody⟩ = .ok fields)
    (initialised : Rule.lines (V := parts) answers inflector slots' part
      ⟨valuesOf Capability.filterKeysType, filterKeysValueBody⟩ = .ok values) :
    Aligned (IsMemberName inflector part.entity) fields values [] := by
  refine .of_lines declared initialised fun built valued made made' => ?_
  simp only [filterKeysFieldBody, Script.value_bind, Script.value_lift, Script.value_pure] at made
  simp only [filterKeysValueBody, Script.value_bind, Script.value_lift, Script.value_pure] at made'
  obtain ⟨names, -, made⟩ := bind_eq_ok.1 made
  obtain ⟨key, -, made⟩ := bind_eq_ok.1 made
  obtain ⟨keyField, -, made'⟩ := bind_eq_ok.1 made'
  obtain ⟨template, -, made'⟩ := bind_eq_ok.1 made'
  obtain rfl := Except.ok.inj made
  obtain rfl := Except.ok.inj made'
  refine .template ("data::mapping::FilterKeysTemplate<" ++ part.entity.typePath ++ ", "
    ++ names.internal ++ ", " ++ key ++ ">") (.inl (by decide)) ?_
  simp only [← String.append_assoc, String.reduceAppend]

theorem eq_map_childrenOf {line : Entity → String} {lines : List String}
    (made : (if part.entity.has Capability.associateType then
      .ok ((childrenOf part.entity).map line) else .ok [] : Except Failure (List String)) =
        .ok lines) : lines = (childrenOf part.entity).map line := by
  split at made
  · exact (Except.ok.inj made).symm
  · rename_i unmarked
    have none : childrenOf part.entity = [] :=
      (Bag.getAll_eq_nil_iff _ _).2 (Bool.eq_false_iff.2 unmarked)
    rw [none]
    exact (Except.ok.inj made).symm

def repositoryMember (inflector : Inflector) (interfaceModule : String) (child : Entity) : Member :=
  ⟨repositoryField inflector child,
    "std::sync::Arc<dyn " ++ qualify interfaceModule child.interfaceName ++ ">",
    "params." ++ repositoryField inflector child⟩

theorem fromParameters_repositoryMember (inflector : Inflector) (interfaceModule : String)
    (child : Entity) :
    (repositoryMember inflector interfaceModule child).fromParameters = true :=
  beq_self_eq_true _

theorem repositoryDeclaration_eq (inflector : Inflector) (interfaceModule : String)
    (child : Entity) : repositoryDeclaration inflector interfaceModule child =
      (repositoryMember inflector interfaceModule child).declaration := by
  have lead : ": std::sync::Arc<dyn " = ": " ++ "std::sync::Arc<dyn " := rfl
  rw [repositoryDeclaration, Member.declaration, repositoryMember, lead]
  simp only [String.append_assoc]

theorem repositoryValue_eq (inflector : Inflector) (interfaceModule : String) (child : Entity) :
    repositoryValue inflector child =
      (repositoryMember inflector interfaceModule child).initialiser := by
  have lead : ": params." = ": " ++ "params." := rfl
  rw [repositoryValue, Member.initialiser, repositoryMember, lead]
  simp only [String.append_assoc]

theorem aligned_associate
    (declared : Rule.lines (V := parts) answers inflector slots part
      ⟨fieldsOf Capability.associateType, associateFieldBody⟩ = .ok fields)
    (initialised : Rule.lines (V := parts) answers inflector slots' part
      ⟨valuesOf Capability.associateType, associateValueBody⟩ = .ok values) :
    Aligned (IsMemberName inflector part.entity) fields values
      ((childrenOf part.entity).map (repositoryDeclaration inflector part.interfaceModule)) := by
  rw [eq_map_childrenOf declared, eq_map_childrenOf initialised]
  refine ⟨(childrenOf part.entity).map (repositoryMember inflector part.interfaceModule),
    ?_, ?_, ?_, ?_⟩
  · exact List.forall_mem_map.2 fun child hc => .inr ⟨child, hc, rfl⟩
  · rw [List.map_map]
    exact List.map_congr_left fun child _ => repositoryDeclaration_eq _ _ child
  · rw [List.map_map]
    exact List.map_congr_left fun child _ => repositoryValue_eq _ part.interfaceModule child
  · rw [List.filter_eq_self.2 (List.forall_mem_map.2 fun child _ =>
      fromParameters_repositoryMember _ _ child), List.map_map]
    exact List.map_congr_left fun child _ => repositoryDeclaration_eq _ _ child

theorem aligned_templateField (e : Entity) (names : Names)
    (bound : slots.binding templateSlot = .ok templateSlot)
    (initialised : Rule.lines (V := parts) answers inflector slots part
      ⟨Part.fieldValues.always, templateValueBody⟩ = .ok values) :
    Aligned (IsMemberName inflector part.entity) [templateField e names] values [] := by
  obtain ⟨valued, made, rfl⟩ := exists_of_lines initialised rfl
  change (templateValueBody inflector (.inheriting slots) part).value answers = _ at made
  simp only [templateValueBody, Script.value_bind, Script.value_lift, Script.value_pure,
    Fragment.binding_inheriting, bound] at made
  obtain rfl := Except.ok.inj made
  have start : (templateSlot ++ ".clone()").toList.head? ≠ some 'p' := by decide
  rw [Fragment.items_push, Fragment.items_inheriting, List.nil_append]
  have named : IsMemberName inflector part.entity "template" := .inl List.mem_cons_self
  have declared : templateField e names = "pub " ++ "template" ++ ": " ++
      ("data::mapping::MappingTemplate<" ++ e.typePath ++ ", " ++ names.internal ++ ">") := by
    unfold templateField
    simp only [← String.append_assoc, String.reduceAppend]
  have value : "template: " ++ templateSlot ++ ".clone()" =
      "template" ++ ": " ++ (templateSlot ++ ".clone()") := by
    simp only [← String.append_assoc, String.reduceAppend]
  exact .single ⟨"template", _, templateSlot ++ ".clone()"⟩ named start declared value

end Capabilities

/-! ## The file -/

section Folds
variable {inflector : Inflector}

theorem exists_lines_of_answers {k : Part} (other : k ≠ .constructorBody) {acc made : Fragment}
    {d : k.Descriptor}
    (built : answers inflector (.buildFragment (V := parts) (k := k) acc d) = .ok made) :
    ∃ pieces, List.Forall₂ (fun rule lines =>
        Rule.lines (V := parts) (answers inflector) inflector acc d rule = .ok lines)
      (fragmentRules k) pieces ∧ made = acc.extend pieces.flatten := by
  rw [answers_buildFragment, value_fragmentScript (additive_fragmentRules inflector other d)]
    at built
  obtain ⟨pieces, each, rfl⟩ := map_eq_ok.1 built
  exact ⟨pieces, mapM_eq_ok_iff.1 each, rfl⟩

theorem Contents.Of.aligned {file : StorageFile} {c : Contents} (of : c.Of inflector file) :
    Aligned (IsMemberName inflector file.entity) c.fields.items c.values.items
      ((childrenOf file.entity).map (repositoryDeclaration inflector file.interfaceModule)) := by
  obtain ⟨pieces, declared, fields⟩ :=
    exists_lines_of_answers (k := .implementationFields) (by decide) of.fields
  obtain ⟨pieces', initialised, values⟩ :=
    exists_lines_of_answers (k := .fieldValues) (by decide) of.values
  rw [fields, values]
  cases declared with | cons crud declared =>
  cases declared with | cons search declared =>
  cases declared with | cons associate declared =>
  cases declared with | cons filterKeys declared =>
  cases declared
  cases initialised with | cons template initialised =>
  cases initialised with | cons crud' initialised =>
  cases initialised with | cons search' initialised =>
  cases initialised with | cons associate' initialised =>
  cases initialised with | cons filterKeys' initialised =>
  cases initialised
  have bound := binding_constructorStatements file.entity c.names
  have first := (aligned_templateField file.entity c.names bound template).append
    ((aligned_crud crud crud').append ((aligned_search search search').append
      ((aligned_associate associate associate').append
        (aligned_filterKeys filterKeys filterKeys'))))
  simpa using first

theorem Contents.Of.exists_fields {file : StorageFile} {c : Contents} (of : c.Of inflector file) :
    ∃ rest, c.fields.items = templateField file.entity c.names :: rest := by
  obtain ⟨pieces, -, fields⟩ :=
    exists_lines_of_answers (k := .implementationFields) (by decide) of.fields
  exact ⟨pieces.flatten, congrArg Fragment.items fields⟩

theorem Contents.Of.fields_ne_nil {file : StorageFile} {c : Contents} (of : c.Of inflector file) :
    c.fields.items ≠ [] := by
  obtain ⟨rest, fields⟩ := of.exists_fields
  rw [fields]
  exact List.cons_ne_nil _ _

theorem Contents.Of.values_ne_nil {file : StorageFile} {c : Contents} (of : c.Of inflector file) :
    c.values.items ≠ [] := by
  have filled := of.fields_ne_nil
  obtain ⟨members, -, fields, values, -⟩ := of.aligned
  rw [fields, Ne, List.map_eq_nil_iff] at filled
  rw [values, Ne, List.map_eq_nil_iff]
  exact filled

end Folds

structure Folds where
  fields : Fragment
  parameters : Fragment
  statements : Fragment
  values : Fragment

/-- The fragments are what the bundled rules fold in a world: the fields of the implementation
after that of the template, and the values with the slots of the statements before them. -/
structure Folds.Of (inflector : Inflector) (file : StorageFile) (names : Names) (w : World)
    (f : Folds) : Prop where
  fields : ((registry.withInflector inflector).buildFragment (V := parts)
    (k := .implementationFields) (Fragment.empty.push (templateField file.entity names))
    ⟨file.entity, file.interfaceModule⟩ w).1 = .ok f.fields
  parameters : ((registry.withInflector inflector).buildFragment (V := parts)
    (k := .parameterFields) .empty ⟨file.entity, file.interfaceModule⟩ w).1 = .ok f.parameters
  statements : ((registry.withInflector inflector).buildFragment (V := parts)
    (k := .constructorBody) .empty ⟨file.entity⟩ w).1 = .ok f.statements
  values : ((registry.withInflector inflector).buildFragment (V := parts) (k := .fieldValues)
    (.inheriting f.statements) ⟨file.entity, file.interfaceModule⟩ w).1 = .ok f.values

section Files
variable {inflector : Inflector} {file : StorageFile}

def Contents.folds (inflector : Inflector) (file : StorageFile) (c : Contents) : Folds where
  fields := c.fields
  parameters := Fragment.empty.extend
    ((childrenOf file.entity).map (repositoryDeclaration inflector file.interfaceModule))
  statements := constructorStatements file.entity c.names
  values := c.values

theorem Contents.Of.folds {c : Contents} (of : c.Of inflector file) (w : World) :
    (c.folds inflector file).Of inflector file c.names w := by
  refine ⟨?_, ?_, ?_, ?_⟩
  · rw [buildFragment_eq_answers]
    exact of.fields
  · rw [buildFragment_eq_answers]
    exact answers_parameterFields inflector .empty _
  · rw [buildFragment_eq_answers, answers_constructorBody, of.names]
    rfl
  · rw [buildFragment_eq_answers]
    exact of.values

theorem Contents.Of.items_eq {c : Contents} (of : c.Of inflector file) :
    c.items inflector file =
      [internalText file.entity ["pub inner: " ++ file.entity.typePath],
        implementationText file.entity c.fields.items,
        parametersText file.entity
          ((childrenOf file.entity).map (repositoryDeclaration inflector file.interfaceModule)),
        constructorText file.entity c.names.constructor
          (if (childrenOf file.entity).isEmpty then "_params" else "params")
          (constructorStatements file.entity c.names).items c.values.items] ++
      (c.associates ++ c.listings) := by
  have fields : c.fields.items ≠ [] := of.fields_ne_nil
  have values : c.values.items ≠ [] := of.values_ne_nil
  have stated : (constructorStatements file.entity c.names).items ≠ [] := List.cons_ne_nil _ _
  have inner : ((Fragment.empty.push ("pub inner: " ++ file.entity.typePath)).append .empty).items ≠
      [] := List.cons_ne_nil _ _
  have unused : (Fragment.empty.extend ((childrenOf file.entity).map
      (repositoryDeclaration inflector file.interfaceModule))).isEmpty =
        (childrenOf file.entity).isEmpty := by simp [Fragment.isEmpty]
  rw [Contents.items, declarations, renderInternal_eq of.names inner,
    renderImplementation_eq of.names fields, renderParameters_eq of.names,
    renderConstructor_eq of.names _ stated values, unused]
  rfl

theorem isEmpty_eq_not_any {members : List Member} {α : Type} {children : List α}
    {declare : α → String}
    (taken : children.map declare =
      (members.filter Member.fromParameters).map Member.declaration) :
    children.isEmpty = !members.any Member.fromParameters := by
  have lengths := congrArg List.isEmpty taken
  rw [List.isEmpty_map, List.isEmpty_map] at lengths
  rw [lengths, Bool.eq_iff_iff]
  simp

/-- The structs and the constructor in the file of an entity are views of one list of members. The
implementation declares the members in order and the constructor initialises them in order. The
parameters declare, in order, those that are initialised from the parameter of their name, and the
argument of the constructor is named as used just when there are such members. Where the inflector
puts no colon into names in snake case, the name of a member is what stands before the first colon
of its line. -/
theorem constructor_fits_structs (inflector : Inflector) (file : StorageFile) (source : SourceFile)
    (w : World)
    (emitted : ((registry.withInflector inflector).emitFile (V := parts) (k := .storageFile)
      source file w).1.1 = .ok ()) :
    ∃ (names : Names) (f : Folds) (members : List Member) (internal : String)
      (blocks : List String),
      namesOf file.entity inflector = .ok names ∧ f.Of inflector file names w ∧
      ((registry.withInflector inflector).emitFile (V := parts) (k := .storageFile) source file
        w).1.2.items = source.items ++ [internal,
          implementationText file.entity (members.map Member.declaration),
          parametersText file.entity
            ((members.filter Member.fromParameters).map Member.declaration),
          constructorText file.entity names.constructor
            (if members.any Member.fromParameters then "params" else "_params")
            f.statements.items (members.map Member.initialiser)] ++ blocks ∧
      f.fields.items = members.map Member.declaration ∧
      f.values.items = members.map Member.initialiser ∧
      f.parameters.items = (members.filter Member.fromParameters).map Member.declaration ∧
      ((∀ s, ':' ∉ (inflector.snake s).toList) → ∀ m ∈ members, ':' ∉ m.name.toList) := by
  obtain ⟨c, of, items⟩ := exists_contents_of_emitted emitted
  obtain ⟨members, named, fields, values, parameters⟩ := of.aligned
  refine ⟨c.names, c.folds inflector file, members,
    internalText file.entity ["pub inner: " ++ file.entity.typePath], c.associates ++ c.listings,
    of.names, of.folds w, ?_, fields, values, parameters,
    fun plain m hm => (named m hm).colon_not_mem plain⟩
  rw [items, of.items_eq, isEmpty_eq_not_any parameters, fields, values, parameters,
    List.append_assoc]
  cases members.any Member.fromParameters <;> rfl

end Files

def ownerFile : StorageFile where
  package := "store"
  interfaceModule := "crate::model"
  entity := sampleOwner

def ownerImplementation : String :=
  "\n".intercalate [
    "/// OwnerRepositoryImpl is the implementation of OwnerRepository",
    "pub struct OwnerRepositoryImpl \x7b",
    "    pub template: data::mapping::MappingTemplate<model::Owner, OwnerInternal>,",
    "    pub crud_template: data::mapping::CrudTemplate<model::Owner, OwnerInternal, String>,",
    "    pub search_template: data::mapping::SearchTemplate<model::Owner, OwnerInternal>,",
    "    pub pet_repository: std::sync::Arc<dyn crate::model::PetRepository>,",
    "    pub filter_keys_template: " ++
      "data::mapping::FilterKeysTemplate<model::Owner, OwnerInternal, String>,",
    "\x7d"]

def ownerParameters : String :=
  "\n".intercalate [
    "/// OwnerRepositoryParams are the parameters for OwnerRepository",
    "pub struct OwnerRepositoryParams \x7b",
    "    pub pet_repository: std::sync::Arc<dyn crate::model::PetRepository>,",
    "\x7d"]

theorem constructor_fits_structs_owner :
    ∃ (names : Names) (f : Folds) (members : List Member) (internal : String)
      (blocks : List String),
      namesOf sampleOwner .english = .ok names ∧ f.Of .english ownerFile names {} ∧
      ((registry.withInflector .english).emitFile (V := parts) (k := .storageFile)
        { module := "store" } ownerFile {}).1.2.items = [internal,
          implementationText sampleOwner (members.map Member.declaration),
          parametersText sampleOwner
            ((members.filter Member.fromParameters).map Member.declaration),
          constructorText sampleOwner names.constructor
            (if members.any Member.fromParameters then "params" else "_params")
            f.statements.items (members.map Member.initialiser)] ++ blocks ∧
      implementationText sampleOwner (members.map Member.declaration) = ownerImplementation ∧
      parametersText sampleOwner ((members.filter Member.fromParameters).map Member.declaration) =
        ownerParameters ∧
      ∀ m ∈ members, ':' ∉ m.name.toList := by
  have emitted : ((registry.withInflector .english).emitFile (V := parts) (k := .storageFile)
      { module := "store" } ownerFile {}).1.1 = .ok () :=
    (emitFile_ok_iff _ _).2 supported_sampleOwner
  obtain ⟨names, f, members, internal, blocks, named, of, items, fields, values, parameters,
    plain⟩ := constructor_fits_structs .english ownerFile { module := "store" } {} emitted
  have structs : (((registry.withInflector .english).emitFile (V := parts) (k := .storageFile)
      { module := "store" } ownerFile {}).1.2.items.drop 1).take 2 = [ownerImplementation,
        ownerParameters] := by decide +kernel
  rw [items] at structs
  obtain ⟨implementation, rest⟩ := List.cons.inj structs
  obtain ⟨taken, -⟩ := List.cons.inj rest
  exact ⟨names, f, members, internal, blocks, named, of, items, implementation, taken,
    plain colon_not_mem_snake_english⟩

end Scaffold.Storage
