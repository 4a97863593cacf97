import Mathlib.Data.List.Nodup
import Scaffold.Proofs.Storage.Associations

/-! What an interface file declares, apart from its text: structs for composite keys and traits with
their methods. A method mentions keys of its own entity and of the entities that markers refer to,
which enter the bundled rules as shapes. Every composite key that is mentioned has its struct in the
file, since a shape has the name and the key fields of its entity, and no name is declared twice,
since all that names are made from is a distinct entity name and one of two suffixes. -/

namespace Scaffold.Interface
open Model Code Rules

/-! ## Methods -/

inductive TraitMethod
  | findByKey
  | existsByKey
  | listAll
  | create
  | update
  | delete
  | deleteEntity
  | search
  | searchPredicates
  | associate (child : Entity)
  | filterKeys
  | listBy (other : Entity)

namespace TraitMethod

/-- The entities whose keys the method is about. -/
def keyed (e : Entity) : TraitMethod → List Entity
  | findByKey | existsByKey | delete | filterKeys => [e]
  | associate child => [e, child]
  | listBy other => [other]
  | listAll | create | update | deleteEntity | search | searchPredicates => []

/-- The method of an entity as it is declared, given the types of keys. -/
def signature (inflector : Inflector) (e : Entity) (key : Entity → String) : TraitMethod → String
  | findByKey => method "find_by_key" ["key: &" ++ key e] e.typePath
  | existsByKey => method "exists_by_key" ["key: &" ++ key e] "bool"
  | listAll => method "list_all" ["params: data::ListParams"] (listOf e.typePath)
  | create => method "create" ["entity: &" ++ e.typePath] "()"
  | update => method "update" ["entity: &" ++ e.typePath] "()"
  | delete => method "delete" ["key: &" ++ key e] "()"
  | deleteEntity => method "delete_entity" ["entity: &" ++ e.typePath] "()"
  | search => method "search" ["criteria: &[data::SearchPredicate]", "params: &data::PageParams"]
      (listOf ("data::SearchResult<" ++ e.typePath ++ ">"))
  | searchPredicates => method "search_predicates" [] "Vec<data::SearchPredicateDescriptor>"
  | associate child =>
    associateSignature (inflector.snake (inflector.plural child.name)) (key e) (key child)
  | filterKeys => filterKeysMethod (key e)
  | listBy other => listBySignature (inflector.snake other.name) (key other) e.typePath

/-- A declared method is the one meant, with the keys of the entities that it is about unqualified.
Every one of these has a key, and nothing else in the declaration depends on keys. -/
structure Declares (inflector : Inflector) (e : Entity) (m : TraitMethod) (declared : String) :
    Prop where
  keys : ∀ u ∈ m.keyed e, ∃ key, u.keyCode none = .ok key
  text : ∀ key : Entity → String, (∀ u ∈ m.keyed e, u.keyCode none = .ok (key u)) →
    declared = m.signature inflector e key

def ofOperation : Operation → List TraitMethod
  | .findByKey => [findByKey, existsByKey]
  | .listAll => [listAll]
  | .create => [create]
  | .update => [update]
  | .delete => [delete, deleteEntity]

section Declares
variable {inflector : Inflector} {e : Entity} {m : TraitMethod} {declared : String}

theorem Declares.of_none (none : m.keyed e = [])
    (text : ∀ key, declared = m.signature inflector e key) : m.Declares inflector e declared := by
  refine ⟨fun u member => ?_, fun key _ => text key⟩
  rw [none] at member
  cases member

theorem Declares.of_own {own : String} (has : e.keyCode none = .ok own) (only : m.keyed e = [e])
    (text : ∀ key : Entity → String, key e = own → declared = m.signature inflector e key) :
    m.Declares inflector e declared := by
  refine ⟨fun u member => ?_, fun key agree => text key ?_⟩
  · rw [only] at member
    obtain rfl := List.mem_singleton.1 member
    exact ⟨own, has⟩
  · have same := agree e (only ▸ List.mem_singleton_self e)
    exact Except.ok.inj (same.symm.trans has)

theorem declares_operationMethods {op : Operation} {methods : List String}
    (made : operationMethods e op = .ok methods) :
    List.Forall₂ (Declares inflector e) (ofOperation op) methods := by
  cases op with
  | findByKey =>
    obtain ⟨key, has, made⟩ := bind_eq_ok.1 made
    obtain rfl := Except.ok.inj made
    refine .cons (.of_own has rfl fun key same => ?_) (.cons (.of_own has rfl fun key same => ?_)
      .nil)
    · rw [signature, same]
    · rw [signature, same]
  | delete =>
    obtain ⟨key, has, made⟩ := bind_eq_ok.1 made
    obtain rfl := Except.ok.inj made
    refine .cons (.of_own has rfl fun key same => ?_) (.cons (.of_none rfl fun _ => rfl) .nil)
    rw [signature, same]
  | listAll | create | update =>
    obtain rfl := Except.ok.inj made
    exact .cons (.of_none rfl fun _ => rfl) .nil

end Declares
end TraitMethod

section Declarations
variable {inflector : Inflector} {e : Entity} {declared : String}

theorem AssociateDeclaration.declares {child : Entity}
    (made : AssociateDeclaration inflector e child declared) :
    (TraitMethod.associate child).Declares inflector e declared := by
  obtain ⟨own, childKey, has, childHas, rfl⟩ := made
  refine ⟨?_, fun key agree => ?_⟩
  · exact List.forall_mem_cons.2 ⟨⟨own, has⟩, List.forall_mem_singleton.2 ⟨childKey, childHas⟩⟩
  · obtain ⟨same, others⟩ := List.forall_mem_cons.1 agree
    have sameChild := List.forall_mem_singleton.1 others
    rw [TraitMethod.signature, Except.ok.inj (has.symm.trans same),
      Except.ok.inj (childHas.symm.trans sameChild)]

theorem ListByDeclaration.declares {listing : KeyListing Entity}
    (made : ListByDeclaration inflector e listing declared) :
    (TraitMethod.listBy listing.associated).Declares inflector e declared := by
  obtain ⟨own, has, rfl⟩ := made
  refine ⟨List.forall_mem_singleton.2 ⟨own, has⟩, fun key agree => ?_⟩
  have same := List.forall_mem_singleton.1 agree
  rw [TraitMethod.signature, Except.ok.inj (has.symm.trans same)]

end Declarations

def traitMethods (e : Entity) : List TraitMethod :=
  (e.capabilities.getAll Capability.crudType).flatMap
      (fun operations => operations.toList.flatMap TraitMethod.ofOperation) ++
    ((if e.has Capability.searchType then [.search, .searchPredicates] else []) ++
    ((Storage.childrenOf e).map .associate ++
    ((if e.has Capability.filterKeysType then [.filterKeys] else []) ++
      (Storage.listingsOf e).map fun listing => .listBy listing.associated)))

namespace Groups.Of
variable {inflector : Inflector} {e : Entity} {g : Groups}

theorem declares_crud (of : g.Of inflector e) :
    List.Forall₂ (TraitMethod.Declares inflector e)
      ((e.capabilities.getAll Capability.crudType).flatMap
        fun operations => operations.toList.flatMap TraitMethod.ofOperation) g.crud := by
  have methods := of.crud
  split at methods
  · obtain ⟨operations, required, methods⟩ := bind_eq_ok.1 methods
    obtain ⟨groups, each, methods⟩ := bind_eq_ok.1 methods
    have single := (Bag.require_eq_ok_iff _ _ _ _).1 (mapError_eq_ok.1 required)
    rw [single, List.flatMap_singleton, ← Except.ok.inj methods]
    refine List.rel_flatten (List.forall₂_map_left_iff.2 ?_)
    exact (mapM_eq_ok_iff.1 each).imp fun op group made =>
      TraitMethod.declares_operationMethods (mapError_eq_ok.1 made)
  · rename_i unmarked
    rw [(Bag.getAll_eq_nil_iff _ _).2 (Bool.eq_false_iff.2 unmarked), ← Except.ok.inj methods]
    exact .nil

theorem declares_search (of : g.Of inflector e) :
    List.Forall₂ (TraitMethod.Declares inflector e)
      (if e.has Capability.searchType then [.search, .searchPredicates] else []) g.search := by
  have methods := of.search
  by_cases marked : e.has Capability.searchType
  · rw [if_pos marked] at methods ⊢
    rw [← Except.ok.inj methods]
    exact .cons (.of_none rfl fun _ => rfl) (.cons (.of_none rfl fun _ => rfl) .nil)
  · rw [if_neg marked] at methods ⊢
    rw [← Except.ok.inj methods]
    exact .nil

theorem declares_filterKeys (of : g.Of inflector e) :
    List.Forall₂ (TraitMethod.Declares inflector e)
      (if e.has Capability.filterKeysType then [.filterKeys] else []) g.filterKeys := by
  have methods := of.filterKeys
  by_cases marked : e.has Capability.filterKeysType
  · rw [if_pos marked] at methods ⊢
    obtain ⟨own, has, methods⟩ := bind_eq_ok.1 methods
    rw [← Except.ok.inj methods]
    refine .cons (.of_own (mapError_eq_ok.1 has) rfl fun key same => ?_) .nil
    rw [TraitMethod.signature, same]
  · rw [if_neg marked] at methods ⊢
    rw [← Except.ok.inj methods]
    exact .nil

theorem declares (of : g.Of inflector e) :
    List.Forall₂ (TraitMethod.Declares inflector e) (traitMethods e) g.methods := by
  have associate := List.forall₂_map_left_iff.2
    (of.forall₂_associate.imp fun _ _ made => made.declares)
  have listBy := List.forall₂_map_left_iff.2
    (of.forall₂_listBy.imp fun _ _ made => made.declares)
  exact List.rel_append of.declares_crud (List.rel_append of.declares_search
    (List.rel_append associate (List.rel_append of.declares_filterKeys listBy)))

end Groups.Of

/-- A declaration in an interface file: the struct of the key of an entity, or a trait. -/
inductive Declaration
  | struct (name owner : String) (fields : List Field)
  | trait (name entity : String) (methods : List String)

namespace Declaration

def name : Declaration → String
  | struct name _ _ => name
  | trait name _ _ => name

def text : Declaration → String
  | struct name owner fields =>
    "/// " ++ name ++ " is the key for " ++ owner ++ "\n"
      ++ "#[derive(Debug, Clone, PartialEq, Eq, Hash)]\n"
      ++ "pub struct " ++ name ++ " \x7b\n"
      ++ Text.Lines.join (fields.map KeyStrategy.declarationLine) ++ "\n\x7d"
  | trait name entity methods =>
    let head := "/// " ++ name ++ " is a repository for the type " ++ entity
      ++ "\npub trait " ++ name ++ ": Send + Sync"
    if methods.isEmpty then emptyBlock head
    else block head ((Fragment.empty.extend methods).render 4 ";")

section Entities
variable (e : Entity) (methods : List String)

end Entities
end Declaration

section Sections
variable {inflector : Inflector} {entities : List Entity} {sections : List (List Declaration)}

end Sections

end Scaffold.Interface
