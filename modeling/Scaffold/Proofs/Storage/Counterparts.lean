import Scaffold.Proofs.Interface.Declarations
import Scaffold.Proofs.Interface.Markers
import Scaffold.Proofs.Storage.Constructors
import Scaffold.Proofs.Storage.Markers

/-! The interface and the storage package react to the same capabilities. For each capability one
rule declares methods in the trait and another one a field of the implementation; whether they do is
asked for in different ways on the two sides. Wherever both succeed, a field for a capability is
there just when its methods are. -/

namespace Scaffold

/-! ## Methods of a trait -/

namespace Interface
open Model Code Rules

def storedNames : List String :=
  ["find_by_key", "exists_by_key", "list_all", "create", "update", "delete", "delete_entity"]

def HasMethod (methods : List String) (name : String) : Prop :=
  ∃ declared ∈ methods, named (name ++ "(") declared

theorem takeWhile_paren {name rest : List Char} (plain : '(' ∉ name) :
    (name ++ '(' :: rest).takeWhile (· != '(') = name := by
  rw [List.takeWhile_append_of_pos fun c hc => bne_iff_ne.2 (ne_of_mem_of_not_mem hc plain)]
  simp

theorem named_method {lead name : String} {arguments : List String} {value : String}
    (plain : '(' ∉ lead.toList) (plain' : '(' ∉ name.toList) :
    named (lead ++ "(") (method name arguments value) = true ↔ lead = name := by
  have opened : "(".toList = ['('] := rfl
  simp only [named, method, String.toList_append, List.isPrefixOf_iff_prefix, List.append_assoc,
    List.prefix_append_right_inj, opened, List.singleton_append]
  constructor
  · rintro ⟨rest, same⟩
    rw [List.append_assoc, List.singleton_append] at same
    have names := congrArg (List.takeWhile (· != '(')) same
    rw [takeWhile_paren plain, List.cons_append, takeWhile_paren plain'] at names
    exact String.toList_inj.1 names
  · rintro rfl
    rw [List.prefix_append_right_inj]
    exact ⟨_, rfl⟩

namespace TraitMethod

def plainName? : TraitMethod → Option String
  | findByKey => some "find_by_key"
  | existsByKey => some "exists_by_key"
  | listAll => some "list_all"
  | create => some "create"
  | update => some "update"
  | delete => some "delete"
  | deleteEntity => some "delete_entity"
  | search => some "search"
  | searchPredicates => some "search_predicates"
  | filterKeys => some "filter_keys"
  | associate _ => none
  | listBy _ => none

theorem named_signature (inflector : Inflector) (e : Entity) (key : Entity → String)
    {lead : String} (known : lead ∈ plainNames) (m : TraitMethod) :
    named (lead ++ "(") (m.signature inflector e key) = true ↔ m.plainName? = some lead := by
  have plain : ∀ name ∈ plainNames, '(' ∉ name.toList := by decide
  have told : ∀ {name : String} {arguments : List String} {value : String}, name ∈ plainNames →
      (named (lead ++ "(") (method name arguments value) = true ↔ some name = some lead) := by
    intro name arguments value hn
    rw [named_method (plain lead known) (plain name hn), Option.some.injEq, eq_comm]
  cases m with
  | associate child =>
    refine iff_of_false ?_ (by simp [plainName?])
    simp only [plainNames, List.mem_cons, List.not_mem_nil, or_false] at known
    rcases known with rfl | rfl | rfl | rfl | rfl | rfl | rfl | rfl | rfl | rfl <;>
      simp [named, signature, associateSignature, method, List.isPrefixOf]
  | listBy other =>
    refine iff_of_false ?_ (by simp [plainName?])
    simp only [plainNames, List.mem_cons, List.not_mem_nil, or_false] at known
    rcases known with rfl | rfl | rfl | rfl | rfl | rfl | rfl | rfl | rfl | rfl <;>
      simp [named, signature, listBySignature, method, List.isPrefixOf]
  | _ => exact told (by decide)

theorem Declares.exists_signature {inflector : Inflector} {e : Entity} {m : TraitMethod}
    {declared : String} (declares : m.Declares inflector e declared) :
    ∃ key, declared = m.signature inflector e key := by
  refine ⟨fun u => (u.keyCode none).toOption.getD "", declares.text _ fun u member => ?_⟩
  obtain ⟨key, has⟩ := declares.keys u member
  rw [has]
  rfl

end TraitMethod

theorem TraitMethod.exists_stored_name {op : Operation} {m : TraitMethod}
    (member : m ∈ ofOperation op) : ∃ name ∈ storedNames, m.plainName? = some name := by
  revert m
  cases op <;> simp [ofOperation, plainName?, storedNames]

theorem TraitMethod.ofOperation_ne_nil (op : Operation) : ofOperation op ≠ [] := by
  cases op <;> simp [ofOperation]

section Methods
variable {inflector : Inflector} {e : Entity} {g : Groups}

theorem Groups.Of.hasMethod_iff (of : g.Of inflector e) {name : String}
    (known : name ∈ plainNames) :
    HasMethod g.methods name ↔ ∃ m ∈ traitMethods e, m.plainName? = some name := by
  constructor
  · rintro ⟨declared, member, called⟩
    obtain ⟨m, hm, declares⟩ := exists_of_forall₂ of.declares member
    obtain ⟨key, rfl⟩ := declares.exists_signature
    exact ⟨m, hm, (TraitMethod.named_signature inflector e key known m).1 called⟩
  · rintro ⟨m, hm, called⟩
    obtain ⟨declared, member, declares⟩ := exists_of_forall₂ of.declares.flip hm
    obtain ⟨key, rfl⟩ := declares.exists_signature
    exact ⟨_, member, (TraitMethod.named_signature inflector e key known m).2 called⟩

theorem Groups.Of.exists_stored_iff (of : g.Of inflector e) :
    (∃ name ∈ storedNames, HasMethod g.methods name) ↔
      ∃ set ∈ e.capabilities.getAll Capability.crudType, set.isEmpty = false := by
  have known : ∀ name ∈ storedNames, name ∈ plainNames := by decide
  have further : "search" ∉ storedNames ∧ "search_predicates" ∉ storedNames ∧
      "filter_keys" ∉ storedNames := by decide
  constructor
  · rintro ⟨name, stored, found⟩
    obtain ⟨m, member, called⟩ := (of.hasMethod_iff (known name stored)).1 found
    simp only [traitMethods, List.mem_append, List.mem_flatMap, List.mem_map,
      List.mem_ite_nil_right, List.mem_cons, List.not_mem_nil, or_false] at member
    rcases member with ⟨set, hs, op, ho, -⟩ | ⟨-, rfl | rfl⟩ | ⟨child, -, rfl⟩ | ⟨-, rfl⟩ |
      ⟨listing, -, rfl⟩
    · refine ⟨set, hs, ?_⟩
      rw [OperationSet.isEmpty, List.isEmpty_eq_false_iff]
      exact List.ne_nil_of_mem ho
    · exact absurd (Option.some.inj called ▸ stored) further.1
    · exact absurd (Option.some.inj called ▸ stored) further.2.1
    · cases called
    · exact absurd (Option.some.inj called ▸ stored) further.2.2
    · cases called
  · rintro ⟨set, hs, filled⟩
    rw [OperationSet.isEmpty, List.isEmpty_eq_false_iff] at filled
    obtain ⟨op, ho⟩ := List.exists_mem_of_ne_nil _ filled
    obtain ⟨m, hm⟩ := List.exists_mem_of_ne_nil _ (TraitMethod.ofOperation_ne_nil op)
    obtain ⟨name, stored, called⟩ := TraitMethod.exists_stored_name hm
    refine ⟨name, stored, (of.hasMethod_iff (known name stored)).2 ⟨m, ?_, called⟩⟩
    exact List.mem_append_left _ (List.mem_flatMap.2 ⟨set, hs, List.mem_flatMap.2 ⟨op, ho, hm⟩⟩)

theorem exists_mem_traitMethods_iff {name : String} (further : name ∉ storedNames) :
    (∃ m ∈ traitMethods e, m.plainName? = some name) ↔
      (e.has Capability.searchType ∧ name ∈ ["search", "search_predicates"]) ∨
        (e.has Capability.filterKeysType ∧ name = "filter_keys") := by
  constructor
  · rintro ⟨m, member, called⟩
    simp only [traitMethods, List.mem_append, List.mem_flatMap, List.mem_map,
      List.mem_ite_nil_right, List.mem_cons, List.not_mem_nil, or_false] at member
    rcases member with ⟨set, -, op, -, hm⟩ | ⟨marked, rfl | rfl⟩ | ⟨child, -, rfl⟩ |
      ⟨marked, rfl⟩ | ⟨listing, -, rfl⟩
    · obtain ⟨known, stored, same⟩ := TraitMethod.exists_stored_name hm
      exact absurd (Option.some.inj (same.symm.trans called) ▸ stored) further
    · exact .inl ⟨marked, by rw [← Option.some.inj called]; decide⟩
    · exact .inl ⟨marked, by rw [← Option.some.inj called]; decide⟩
    · cases called
    · exact .inr ⟨marked, (Option.some.inj called).symm⟩
    · cases called
  · rintro (⟨marked, known⟩ | ⟨marked, rfl⟩)
    · simp only [List.mem_cons, List.not_mem_nil, or_false] at known
      rcases known with rfl | rfl
      · exact ⟨.search, by simp [traitMethods, marked], rfl⟩
      · exact ⟨.searchPredicates, by simp [traitMethods, marked], rfl⟩
    · exact ⟨.filterKeys, by simp [traitMethods, marked], rfl⟩

theorem Groups.Of.search_iff (of : g.Of inflector e) :
    HasMethod g.methods "search" ∧ HasMethod g.methods "search_predicates" ↔
      e.has Capability.searchType := by
  rw [of.hasMethod_iff (by decide), of.hasMethod_iff (by decide),
    exists_mem_traitMethods_iff (by decide), exists_mem_traitMethods_iff (by decide)]
  simp

theorem Groups.Of.filterKeys_iff (of : g.Of inflector e) :
    HasMethod g.methods "filter_keys" ↔ e.has Capability.filterKeysType := by
  rw [of.hasMethod_iff (by decide), exists_mem_traitMethods_iff (by decide)]
  simp

end Methods
end Interface

/-! ## Fields of an implementation -/

namespace Storage
open Model Code Rules

def DeclaresField (name line : String) : Prop :=
  ∃ type, line = "pub " ++ name ++ ": " ++ type

def isRepository (name : String) : Bool :=
  "_repository".toList.isSuffixOf name.toList

section Lines
variable {inflector : Inflector} {slots : Fragment} {part : LinkedPart} {fields : List String}

theorem declaresField_crud
    (declared : Rule.lines (V := parts) (answers inflector) inflector slots part
      ⟨fieldsOf Capability.crudType, crudFieldBody⟩ = .ok fields) :
    ∃ filled, hasOperations part.entity = .ok filled ∧
      List.Forall₂ DeclaresField (if filled then ["crud_template"] else []) fields := by
  rw [lines_crudField, map_eq_ok] at declared
  obtain ⟨built, made, rfl⟩ := declared
  simp only [crudFieldBody, Script.value_bind, Script.value_lift, Script.value_ite,
    Script.value_pure] at made
  obtain ⟨filled, asked, made⟩ := bind_eq_ok.1 made
  refine ⟨filled, asked, ?_⟩
  cases filled with
  | false =>
    obtain rfl := Except.ok.inj made
    exact .nil
  | true =>
    obtain ⟨names, -, made⟩ := bind_eq_ok.1 made
    obtain ⟨key, -, made⟩ := bind_eq_ok.1 made
    obtain rfl := Except.ok.inj made
    refine .cons ⟨"data::mapping::CrudTemplate<" ++ part.entity.typePath ++ ", "
      ++ names.internal ++ ", " ++ key ++ ">", ?_⟩ .nil
    simp only [← String.append_assoc, String.reduceAppend]

theorem declaresField_search
    (declared : Rule.lines (V := parts) (answers inflector) inflector slots part
      ⟨fieldsOf Capability.searchType, searchFieldBody⟩ = .ok fields) :
    List.Forall₂ DeclaresField
      (if part.entity.has Capability.searchType then ["search_template"] else []) fields := by
  by_cases marked : part.entity.has Capability.searchType
  · obtain ⟨built, made, rfl⟩ := exists_of_lines declared marked
    simp only [searchFieldBody, Script.value_bind, Script.value_lift, Script.value_pure] at made
    obtain ⟨names, -, made⟩ := bind_eq_ok.1 made
    obtain rfl := Except.ok.inj made
    rw [if_pos marked]
    refine .cons ⟨"data::mapping::SearchTemplate<" ++ part.entity.typePath ++ ", "
      ++ names.internal ++ ">", ?_⟩ .nil
    simp only [← String.append_assoc, String.reduceAppend]
  · rw [if_neg marked, eq_nil_of_lines declared marked]
    exact .nil

theorem declaresField_filterKeys
    (declared : Rule.lines (V := parts) (answers inflector) inflector slots part
      ⟨fieldsOf Capability.filterKeysType, filterKeysFieldBody⟩ = .ok fields) :
    List.Forall₂ DeclaresField
      (if part.entity.has Capability.filterKeysType then ["filter_keys_template"] else [])
      fields := by
  by_cases marked : part.entity.has Capability.filterKeysType
  · obtain ⟨built, made, rfl⟩ := exists_of_lines declared marked
    simp only [filterKeysFieldBody, Script.value_bind, Script.value_lift, Script.value_pure]
      at made
    obtain ⟨names, -, made⟩ := bind_eq_ok.1 made
    obtain ⟨key, -, made⟩ := bind_eq_ok.1 made
    obtain rfl := Except.ok.inj made
    rw [if_pos marked]
    refine .cons ⟨"data::mapping::FilterKeysTemplate<" ++ part.entity.typePath ++ ", "
      ++ names.internal ++ ", " ++ key ++ ">", ?_⟩ .nil
    simp only [← String.append_assoc, String.reduceAppend]
  · rw [if_neg marked, eq_nil_of_lines declared marked]
    exact .nil

theorem declaresField_associate
    (declared : Rule.lines (V := parts) (answers inflector) inflector slots part
      ⟨fieldsOf Capability.associateType, associateFieldBody⟩ = .ok fields) :
    List.Forall₂ DeclaresField ((childrenOf part.entity).map (repositoryField inflector))
      fields := by
  rw [eq_map_childrenOf declared, List.forall₂_map_left_iff, List.forall₂_map_right_iff]
  exact List.forall₂_same.2 fun child _ =>
    ⟨_, repositoryDeclaration_eq inflector part.interfaceModule child⟩

end Lines

/-- The names of the fields of an implementation, given whether there are stored operations. -/
def fieldNames (inflector : Inflector) (e : Entity) (filled : Bool) : List String :=
  "template" :: ((if filled then ["crud_template"] else []) ++
    ((if e.has Capability.searchType then ["search_template"] else []) ++
    ((childrenOf e).map (repositoryField inflector) ++
    if e.has Capability.filterKeysType then ["filter_keys_template"] else [])))

section Names
variable {inflector : Inflector} {e : Entity} {filled : Bool}

theorem isMemberName_of_mem_fieldNames {name : String}
    (member : name ∈ fieldNames inflector e filled) : IsMemberName inflector e name := by
  simp only [fieldNames, List.mem_cons, List.mem_append, List.mem_ite_nil_right, List.not_mem_nil,
    or_false, List.mem_map] at member
  rcases member with rfl | ⟨-, rfl⟩ | ⟨-, rfl⟩ | ⟨child, hc, rfl⟩ | ⟨-, rfl⟩
  · exact .inl (by decide)
  · exact .inl (by decide)
  · exact .inl (by decide)
  · exact .inr ⟨child, hc, rfl⟩
  · exact .inl (by decide)

theorem isRepository_repositoryField (child : Entity) :
    isRepository (repositoryField inflector child) = true := by
  rw [isRepository, List.isSuffixOf_iff_suffix, repositoryField, String.toList_append]
  exact List.suffix_append _ _

theorem filter_fieldNames :
    (fieldNames inflector e filled).filter isRepository =
      (childrenOf e).map (repositoryField inflector) := by
  have children : ((childrenOf e).map (repositoryField inflector)).filter isRepository =
      (childrenOf e).map (repositoryField inflector) := by
    refine List.filter_eq_self.2 (List.forall_mem_map.2 fun child _ => ?_)
    exact isRepository_repositoryField child
  have templates : isRepository "template" = false ∧ isRepository "crud_template" = false ∧
      isRepository "search_template" = false ∧ isRepository "filter_keys_template" = false := by
    decide
  have optional : ∀ {p : Prop} [Decidable p] {name : String}, isRepository name = false →
      (if p then [name] else []).filter isRepository = [] := by
    intro p _ name template
    split <;> simp [template]
  simp only [fieldNames, List.filter_cons, List.filter_append, children, templates,
    optional templates.2.1, optional templates.2.2.1, optional templates.2.2.2, List.nil_append,
    List.append_nil, Bool.false_eq_true, if_false]

theorem count_fieldNames {name : String} (template : isRepository name = false) :
    (fieldNames inflector e filled).count name =
      (if "template" = name then 1 else 0) + (if filled ∧ "crud_template" = name then 1 else 0) +
        (if e.has Capability.searchType ∧ "search_template" = name then 1 else 0) +
        if e.has Capability.filterKeysType ∧ "filter_keys_template" = name then 1 else 0 := by
  have children : ((childrenOf e).map (repositoryField inflector)).count name = 0 := by
    refine List.count_eq_zero.2 fun member => ?_
    obtain ⟨child, -, rfl⟩ := List.mem_map.1 member
    rw [isRepository_repositoryField] at template
    cases template
  have optional : ∀ {p : Prop} [Decidable p] {declared : String},
      (if p then [declared] else []).count name = if p ∧ declared = name then 1 else 0 := by
    intro p _ declared
    by_cases holds : p <;> simp [holds, List.count_singleton]
  simp only [fieldNames, List.count_cons, List.count_append, children, optional, beq_iff_eq]
  omega

theorem one_le_toNat_iff (b : Bool) : 1 ≤ b.toNat ↔ b = true := by
  cases b <;> simp

theorem count_templates :
    (fieldNames inflector e filled).count "crud_template" = filled.toNat ∧
      (fieldNames inflector e filled).count "search_template" =
        (e.has Capability.searchType).toNat ∧
      (fieldNames inflector e filled).count "filter_keys_template" =
        (e.has Capability.filterKeysType).toNat := by
  rw [count_fieldNames (by decide), count_fieldNames (by decide), count_fieldNames (by decide)]
  cases filled <;> cases e.has Capability.searchType <;> cases e.has Capability.filterKeysType <;>
    simp

end Names

/-! ## The file -/

/-- The fields of an implementation and the methods of a trait are for the same capabilities. -/
structure Counterparts (fields methods : List String) : Prop where
  crud : "crud_template" ∈ fields ↔
    ∃ name ∈ Interface.storedNames, Interface.HasMethod methods name
  search : "search_template" ∈ fields ↔
    Interface.HasMethod methods "search" ∧ Interface.HasMethod methods "search_predicates"
  filterKeys : "filter_keys_template" ∈ fields ↔ Interface.HasMethod methods "filter_keys"
  once : ∀ name ∈ ["crud_template", "search_template", "filter_keys_template"],
    fields.count name ≤ 1
  repositories : (fields.filter isRepository).length =
    (methods.filter (Interface.named "associate_")).length

section Files
variable {inflector : Inflector} {file : StorageFile}

theorem Contents.Of.declaresField {c : Contents} (of : c.Of inflector file) :
    ∃ filled, hasOperations file.entity = .ok filled ∧
      List.Forall₂ DeclaresField (fieldNames inflector file.entity filled) c.fields.items := by
  obtain ⟨pieces, declared, fields⟩ :=
    exists_lines_of_answers (k := .implementationFields) (by decide) of.fields
  rw [fields]
  cases declared with | cons crud declared =>
  cases declared with | cons search declared =>
  cases declared with | cons associate declared =>
  cases declared with | cons filterKeys declared =>
  cases declared
  obtain ⟨filled, asked, crud⟩ := declaresField_crud crud
  have template : DeclaresField "template" (templateField file.entity c.names) := by
    refine ⟨"data::mapping::MappingTemplate<" ++ file.entity.typePath ++ ", "
      ++ c.names.internal ++ ">", ?_⟩
    unfold templateField
    simp only [← String.append_assoc, String.reduceAppend]
  have further := List.rel_append crud (List.rel_append (declaresField_search search)
    (List.rel_append (declaresField_associate associate) (declaresField_filterKeys filterKeys)))
  refine ⟨filled, asked, .cons template ?_⟩
  simpa using further

theorem counterparts_fieldNames {other : Inflector} {e : Entity} {filled : Bool}
    {g : Interface.Groups} (asked : hasOperations e = .ok filled) (of : g.Of other e) :
    Counterparts (fieldNames inflector e filled) g.methods where
  crud := by
    rw [← List.one_le_count_iff, count_templates.1, of.exists_stored_iff, ← hasOperations_iff asked]
    exact one_le_toNat_iff _
  search := by
    rw [← List.one_le_count_iff, count_templates.2.1, of.search_iff]
    exact one_le_toNat_iff _
  filterKeys := by
    rw [← List.one_le_count_iff, count_templates.2.2, of.filterKeys_iff]
    exact one_le_toNat_iff _
  once := by
    intro name known
    simp only [List.mem_cons, List.not_mem_nil, or_false] at known
    rcases known with rfl | rfl | rfl
    · exact count_templates.1 ▸ Bool.toNat_le _
    · exact count_templates.2.1 ▸ Bool.toNat_le _
    · exact count_templates.2.2 ▸ Bool.toNat_le _
  repositories := by
    rw [filter_fieldNames, of.filter_associate, List.length_map]
    exact of.forall₂_associate.length_eq

/-- Wherever the storage file of an entity is generated and its methods are declared, the fields of
the implementation and the methods are for the same capabilities: a template for stored operations,
for searching or for filtering keys is there, once, just when the methods are, and there are as many
repositories of children as methods that associate them. Markers for stored operations that ask for
none can be left out on both sides. Where the inflector puts no colon into names in snake case, the
name of a field is what stands before the first colon of its line. -/
theorem fields_match_methods (inflector other : Inflector) (file : StorageFile)
    (source : SourceFile) (w v : World) {methods : Fragment}
    (emitted : ((registry.withInflector inflector).emitFile (V := parts) (k := .storageFile)
      source file w).1.1 = .ok ())
    (declared : ((Interface.registry.withInflector other).buildFragment (V := parts)
      (k := .interfaceMethods) .empty ⟨file.entity⟩ v).1 = .ok methods) :
    (∃ (fields fieldNames : List String) (internal : String) (rest : List String),
      ((registry.withInflector inflector).emitFile (V := parts) (k := .storageFile) source file
        w).1.2.items =
          source.items ++ internal :: implementationText file.entity fields :: rest ∧
      List.Forall₂ DeclaresField fieldNames fields ∧
      ((∀ s, ':' ∉ (inflector.snake s).toList) → ∀ name ∈ fieldNames, ':' ∉ name.toList) ∧
      Counterparts fieldNames methods.items) ∧
    ((∀ set ∈ file.entity.capabilities.getAll Capability.crudType, set.isEmpty = true) →
      let idle := file.entity.withCapabilities (withoutCrud file.entity.capabilities)
      (registry.withInflector inflector).emitFile (V := parts) (k := .storageFile) source
          { file with entity := idle } w =
        (registry.withInflector inflector).emitFile (V := parts) (k := .storageFile) source file
          w ∧
      (Interface.registry.withInflector other).buildFragment (V := parts) (k := .interfaceMethods)
          .empty ⟨idle⟩ v =
        (Interface.registry.withInflector other).buildFragment (V := parts) (k := .interfaceMethods)
          .empty ⟨file.entity⟩ v) := by
  have supported := (emitFile_ok_iff source w).1 emitted
  constructor
  · rw [Interface.buildFragment_eq_answers] at declared
    obtain ⟨g, of, rfl⟩ := Interface.answers_interfaceMethods_iff.1 declared
    obtain ⟨c, made, items⟩ := exists_contents_of_emitted emitted
    rw [made.items_eq] at items
    obtain ⟨filled, asked, fields⟩ := made.declaresField
    refine ⟨c.fields.items, fieldNames inflector file.entity filled, _, _, items, fields,
      fun plain => ?_, ?_⟩
    · exact fun name member => (isMemberName_of_mem_fieldNames member).colon_not_mem plain
    · exact (List.nil_append g.methods).symm ▸ counterparts_fieldNames asked of
  · intro idle
    have same := sameAnswers_withoutCrud supported.operations idle
    refine ⟨?_, ?_⟩
    · rw [emitFile_congr inflector same file source w, file.entity.withCapabilities_self]
    · rw [Interface.buildFragment_congr same file.entity, file.entity.withCapabilities_self]

end Files

/-- An entity that is marked for searching and filtering twice, for two children and for no stored
operation. -/
def markedTwice : StorageFile where
  package := "store"
  interfaceModule := "crate::model"
  entity := ⟨"Keeper", "Keeper", [⟨"email", "String", ⟨true⟩⟩], ⟨[.search, .crud (.ofList []),
    .filterKeys, .associate samplePet, .search, .associate samplePet, .filterKeys]⟩⟩

theorem fields_match_methods_markedTwice :
    ∃ (methods : Fragment) (fields fieldNames : List String),
      ((Interface.registry.withInflector .english).buildFragment (V := parts)
        (k := .interfaceMethods) .empty ⟨markedTwice.entity⟩ {}).1 = .ok methods ∧
      implementationText markedTwice.entity fields ∈
        ((registry.withInflector .english).emitFile (V := parts) (k := .storageFile)
          { module := "store" } markedTwice {}).1.2.items ∧
      List.Forall₂ DeclaresField fieldNames fields ∧
      Counterparts fieldNames methods.items ∧
      methods.items.length = 5 ∧
      (methods.items.filter (Interface.named "associate_")).length = 2 := by
  have emitted : ((registry.withInflector .english).emitFile (V := parts) (k := .storageFile)
      { module := "store" } markedTwice {}).1.1 = .ok () := (emitFile_ok_iff _ _).2
    ⟨by decide, by decide, by decide, by decide, by decide, by decide, by decide⟩
  obtain ⟨g, of⟩ := ((emitFile_ok_iff _ _).1 emitted).exists_groups .english
  have declared : ((Interface.registry.withInflector .english).buildFragment (V := parts)
      (k := .interfaceMethods) .empty ⟨markedTwice.entity⟩ {}).1 =
        .ok (Fragment.empty.extend g.methods) := by
    rw [Interface.buildFragment_eq_answers]
    exact Interface.answers_interfaceMethods_iff.2 ⟨g, of, rfl⟩
  obtain ⟨⟨fields, fieldNames, internal, rest, items, named, -, counterparts⟩, -⟩ :=
    fields_match_methods .english .english markedTwice _ {} {} emitted declared
  refine ⟨_, fields, fieldNames, declared, ?_, named, counterparts, ?_, ?_⟩
  · rw [items]
    simp
  · exact of.declares.length_eq.symm
  · have methods : (Fragment.empty.extend g.methods).items = g.methods := List.nil_append _
    rw [methods, of.filter_associate]
    exact of.forall₂_associate.length_eq.symm

end Storage
end Scaffold
