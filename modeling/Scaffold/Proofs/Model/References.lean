import Scaffold.Proofs.Model.Resolution
import Scaffold.Proofs.Model.Keys

/-! Resolving a document is faithful to it. Entities stand in document order, each with one marker
for each capability that its declaration lists. An entity is built twice, once as the shape that
others refer to and once with its own references resolved; everything that generating code asks a
shape for is the same for both, whatever the references: forward, mutual or to the entity itself.

The limit is what a shape keeps. It has the storage options of its entity and no other capability,
so a question about any other capability of a target has no answer here. -/

namespace Scaffold.Storage
open Model

theorem Names.of_alike {shape e : Entity} (alike : shape.Alike e) (inflector : Inflector) :
    Names.of shape inflector = Names.of e inflector := by
  have same : shape.interfaceName = e.interfaceName := by
    rw [Entity.interfaceName, Entity.interfaceName, alike.name]
  have internal : shape.internalName = e.internalName := by
    rw [Entity.internalName, Entity.internalName, alike.name]
  rw [Names.of, Names.of, Bag.get_congr alike.storage, alike.name, same, internal]

end Scaffold.Storage

namespace Scaffold.Model

/-- A target gives the answers of the entity that it is the shape of. -/
structure Entity.Represents (target e : Entity) : Prop where
  name : target.name = e.name
  typePath : target.typePath = e.typePath
  fields : target.fields = e.fields
  keyStrategy : target.keyStrategy = e.keyStrategy
  keyCode : ∀ qualifier?, target.keyCode qualifier? = e.keyCode qualifier?
  keyDeclaration? : target.keyDeclaration? = e.keyDeclaration?
  singleKey : ∀ rule, target.singleKey rule = e.singleKey rule
  names : ∀ inflector, Storage.Names.of target inflector = Storage.Names.of e inflector
  markers : target.capabilities.markers =
    (e.capabilities.getAll Capability.storageType).map .storage

theorem Entity.ShapeOf.represents {shape e : Entity} (shapeOf : shape.ShapeOf e) :
    shape.Represents e := by
  have keyStrategy : shape.keyStrategy = e.keyStrategy := by
    rw [Entity.keyStrategy, Entity.keyStrategy, shapeOf.name, shapeOf.alike.keyFields]
  refine ⟨shapeOf.name, shapeOf.typePath, shapeOf.fields, keyStrategy, fun qualifier? => ?_, ?_,
    fun rule => ?_, Storage.Names.of_alike shapeOf.alike, shapeOf.markers⟩
  · rw [Entity.keyCode, Entity.keyCode, keyStrategy, shapeOf.name]
  · rw [Entity.keyDeclaration?, Entity.keyDeclaration?, keyStrategy, shapeOf.name]
  · rw [Entity.singleKey, Entity.singleKey, keyStrategy, shapeOf.name]

/-- Exactly one of the entities has the name, and the target represents it. -/
def RefersTo (entities : List Entity) (name : String) (target : Entity) : Prop :=
  ∃ e, entities.filter (·.name = name) = [e] ∧ target.Represents e

inductive CapabilitySpec.Declares (entities : List Entity) :
    CapabilitySpec → Capability Entity → Prop
  | everyOperation {set : OperationSet} (every : ∀ op, op ∈ set.toList) :
    Declares entities (.crud none) (.crud set)
  | operations {ops : List Operation} {set : OperationSet}
    (those : ∀ op, op ∈ set.toList ↔ op ∈ ops) : Declares entities (.crud (some ops)) (.crud set)
  | search : Declares entities .search .search
  | associate {child : String} {target : Entity} (refers : RefersTo entities child target) :
    Declares entities (.associate child) (.associate target)
  | filterKeys : Declares entities .filterKeys .filterKeys
  | listByAssociatedKey {associated : String} {reversed : Bool} {target : Entity}
    (refers : RefersTo entities associated target) :
    Declares entities (.listByAssociatedKey associated reversed)
      (.listByAssociatedKey ⟨target, reversed⟩)
  | storage {options : StorageOptions} : Declares entities (.storage options) (.storage options)
  | searchPredicates {predicates : List SearchPredicate} :
    Declares entities (.searchPredicates predicates) (.searchPredicates predicates)

structure EntitySpec.Describes (entities : List Entity) (spec : EntitySpec) (e : Entity) :
    Prop where
  name : e.name = spec.name
  typePath : e.typePath = if spec.typePath.isEmpty then spec.name else spec.typePath
  fields : e.fields = spec.fields.map FieldSpec.field
  capabilities : List.Forall₂ (CapabilitySpec.Declares entities) spec.capabilities
    e.capabilities.markers

section Names
variable {α β : Type} [DecidableEq β] {f : α → β} {list : List α}

theorem filter_eq_singleton {a : α} (distinct : (list.map f).Nodup) (member : a ∈ list) :
    list.filter (fun b => f b = f a) = [a] := by
  induction list with
  | nil => cases member
  | cons head rest ih =>
    obtain ⟨fresh, distinct⟩ := List.nodup_cons.1 distinct
    have apart {b : α} (hb : b ∈ rest) : f b ≠ f head := fun same =>
      fresh (List.mem_map.2 ⟨b, hb, same⟩)
    rcases List.mem_cons.1 member with rfl | later
    · have none : rest.filter (fun b => f b = f a) = [] :=
        List.filter_eq_nil_iff.2 fun b hb => by simpa using apart hb
      simp [none]
    · have other : f head ≠ f a := (apart later).symm
      simp [other, ih distinct later]

end Names

section Lookups
variable {entities : List Entity} {owner : String} {shapes : List (String × Entity)}

theorem CapabilitySpec.declares_of_eq_ok
    (found : ∀ name shape, shapes.lookup name = some shape → RefersTo entities name shape)
    {spec : CapabilitySpec} {capability : Capability Entity}
    (resolved : spec.resolve owner shapes = .ok capability) :
    spec.Declares entities capability := by
  cases spec with
  | crud operations? =>
    obtain rfl := Except.ok.inj resolved
    cases operations? with
    | none => exact .everyOperation fun op => OperationSet.mem_ofList.2 op.mem_all
    | some ops => exact .operations fun op => OperationSet.mem_ofList
  | associate child =>
    obtain ⟨shape, made, rfl⟩ := map_eq_ok.1 resolved
    exact .associate (found child shape (lookup_of_shapeOf made))
  | listByAssociatedKey associated reversed =>
    obtain ⟨shape, made, rfl⟩ := map_eq_ok.1 resolved
    exact .listByAssociatedKey (found associated shape (lookup_of_shapeOf made))
  | search | filterKeys | storage | searchPredicates =>
    obtain rfl := Except.ok.inj resolved
    constructor

theorem EntitySpec.describes_of_eq_ok
    (found : ∀ name shape, shapes.lookup name = some shape → RefersTo entities name shape)
    {spec : EntitySpec} {e : Entity} (resolved : spec.resolve shapes = .ok e) :
    spec.Describes entities e := by
  obtain ⟨capabilities, each, built⟩ := bind_eq_ok.1 resolved
  have markers : List.Forall₂ (CapabilitySpec.Declares entities) spec.capabilities capabilities :=
    (mapM_eq_ok_iff.1 each).imp fun _ _ made => CapabilitySpec.declares_of_eq_ok found made
  obtain rfl := Entity.build_eq_ok built
  rw [← Bag.markers_ofList capabilities] at markers
  exact ⟨rfl, rfl, rfl, markers⟩

end Lookups

/-- A document that resolves gives one entity for each declaration, in document order, and each is
the entity described: its markers are those declared, in their order, and a marker that names an
entity refers to the only entity with that name. -/
theorem Document.resolve_faithful {d : Document} {entities : List Entity}
    (resolved : d.resolve = .ok entities) :
    List.Forall₂ (EntitySpec.Describes entities) d.entities entities := by
  obtain ⟨shapes, of, each⟩ := resolve_eq_ok_iff.1 resolved
  have found : ∀ name shape, shapes.lookup name = some shape → RefersTo entities name shape := by
    intro name shape entry
    obtain ⟨e, he, rfl, shapeOf⟩ := exists_shapeOf_of_lookup of each entry
    exact ⟨e, filter_eq_singleton (nodup_names resolved) he, shapeOf.represents⟩
  exact each.imp fun _ _ made => EntitySpec.describes_of_eq_ok found made

/-- Two declarations that refer to each other, one also to itself. The other has two storage
options, so it has no names, and a key of two fields. -/
def network : Document where
  interfaces := { module := "model", path := "model.rs" }
  entities := [
    { name := "Person", fields := [⟨"id", "u64", "key"⟩]
      capabilities := [.associate "Person", .listByAssociatedKey "Team" true,
        .crud (some [.delete, .create, .delete])] },
    { name := "Team", typePath := "crate::team::Team"
      fields := [⟨"region", "String", " key , sorted"⟩, ⟨"slug", "String", "key"⟩]
      capabilities := [.storage { tableName? := some "teams" }, .associate "Person", .crud none,
        .storage {}] }]

def networkPerson (markers : List (Capability Entity)) : Entity :=
  ⟨"Person", "Person", [⟨"id", "u64", ⟨true⟩⟩], ⟨markers⟩⟩

def networkTeam (markers : List (Capability Entity)) : Entity :=
  ⟨"Team", "crate::team::Team", [⟨"region", "String", ⟨true⟩⟩, ⟨"slug", "String", ⟨true⟩⟩],
    ⟨.storage { tableName? := some "teams" } :: markers⟩⟩

theorem Document.resolve_faithful_network :
    let entities := [
      networkPerson [.associate (networkPerson []),
        .listByAssociatedKey ⟨networkTeam [.storage {}], true⟩, .crud (.ofList [.create, .delete])],
      networkTeam [.associate (networkPerson []), .crud .full, .storage {}]]
    network.resolve = .ok entities ∧
      List.Forall₂ (EntitySpec.Describes entities) network.entities entities := by
  have resolved : network.resolve = .ok _ := rfl
  exact ⟨resolved, Document.resolve_faithful resolved⟩

end Scaffold.Model
