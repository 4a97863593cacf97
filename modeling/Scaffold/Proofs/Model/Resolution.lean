import Mathlib.Data.List.Nodup
import Scaffold.Model.Document
import Scaffold.Proofs.Outcomes

/-! What resolving a document gives. A document resolves just when its shapes can be built, no two
declarations share a name and every reference is declared. Every entity then has a name of its own,
and whatever a marker refers to is the shape of the one entity with that name. -/

namespace Scaffold.Model

def Capability.referent? {ρ : Type} : Capability ρ → Option ρ
  | associate child => some child
  | listByAssociatedKey listing => some listing.associated
  | _ => none

/-- Entities that differ at most in capabilities other than storage options. -/
structure Entity.Alike (e other : Entity) : Prop where
  name : e.name = other.name
  typePath : e.typePath = other.typePath
  fields : e.fields = other.fields
  storage : e.capabilities.getAll Capability.storageType =
    other.capabilities.getAll Capability.storageType

theorem Entity.Alike.keyFields {e other : Entity} (alike : e.Alike other) :
    e.keyFields = other.keyFields := by
  rw [Entity.keyFields, Entity.keyFields, alike.fields]

/-- An entity as others refer to it: of its capabilities, the storage options only. -/
structure Entity.ShapeOf (shape e : Entity) : Prop where
  name : shape.name = e.name
  typePath : shape.typePath = e.typePath
  fields : shape.fields = e.fields
  markers : shape.capabilities.markers = (e.capabilities.getAll Capability.storageType).map .storage

theorem Capability.filterMap_storage (options : List StorageOptions) :
    (options.map (.storage : _ → Capability Entity)).filterMap Capability.storageType.read? =
      options := by
  rw [List.filterMap_map]
  exact List.filterMap_some

theorem Entity.ShapeOf.alike {shape e : Entity} (shapeOf : shape.ShapeOf e) : shape.Alike e := by
  have storage : shape.capabilities.getAll Capability.storageType =
      e.capabilities.getAll Capability.storageType := by
    rw [Bag.getAll, shapeOf.markers, Capability.filterMap_storage]
  exact ⟨shapeOf.name, shapeOf.typePath, shapeOf.fields, storage⟩

theorem Entity.build_eq_ok {name typePath : String} {fields : List Field}
    {capabilities : Bag (Capability Entity)} {e : Entity}
    (built : build name typePath fields capabilities = .ok e) :
    e = ⟨name, if typePath.isEmpty then name else typePath, fields, capabilities⟩ := by
  unfold build at built
  split at built
  · cases built
  · split at built
    · cases built
    · exact (Except.ok.inj built).symm

/-! ## One declaration -/

theorem CapabilitySpec.storage?_of_eq_ok {owner : String} {shapes : List (String × Entity)}
    {spec : CapabilitySpec} {capability : Capability Entity}
    (resolved : spec.resolve owner shapes = .ok capability) :
    Capability.storageType.read? capability = spec.storage? := by
  cases spec with
  | associate child =>
    obtain ⟨shape, -, rfl⟩ := map_eq_ok.1 resolved
    rfl
  | listByAssociatedKey associated reversed =>
    obtain ⟨shape, -, rfl⟩ := map_eq_ok.1 resolved
    rfl
  | _ =>
    obtain rfl := Except.ok.inj resolved
    rfl

theorem CapabilitySpec.lookup_of_shapeOf {owner name : String} {shapes : List (String × Entity)}
    {shape : Entity} (found : shapeOf owner shapes name = .ok shape) :
    shapes.lookup name = some shape := by
  unfold shapeOf at found
  split at found
  · rename_i other known
    rw [known, Except.ok.inj found]
  · cases found

theorem CapabilitySpec.lookup_of_referent {owner : String} {shapes : List (String × Entity)}
    {spec : CapabilitySpec} {capability : Capability Entity} {other : Entity}
    (resolved : spec.resolve owner shapes = .ok capability)
    (refers : capability.referent? = some other) : ∃ name, shapes.lookup name = some other := by
  cases spec with
  | associate child =>
    obtain ⟨shape, found, rfl⟩ := map_eq_ok.1 resolved
    exact ⟨child, Option.some.inj refers ▸ lookup_of_shapeOf found⟩
  | listByAssociatedKey associated reversed =>
    obtain ⟨shape, found, rfl⟩ := map_eq_ok.1 resolved
    exact ⟨associated, Option.some.inj refers ▸ lookup_of_shapeOf found⟩
  | _ =>
    obtain rfl := Except.ok.inj resolved
    cases refers

namespace EntitySpec
variable {spec : EntitySpec} {shapes : List (String × Entity)} {e shape : Entity}

theorem getAll_storage_of_eq_ok (resolved : spec.resolve shapes = .ok e) :
    e.capabilities.getAll Capability.storageType =
      spec.capabilities.filterMap CapabilitySpec.storage? := by
  obtain ⟨capabilities, each, built⟩ := bind_eq_ok.1 resolved
  rw [Entity.build_eq_ok built, Bag.getAll, Bag.markers_ofList]
  have read : spec.capabilities.map CapabilitySpec.storage? =
      capabilities.map Capability.storageType.read? :=
    map_eq_of_forall₂ <| (mapM_eq_ok_iff.1 each).imp fun _ _ made =>
      (CapabilitySpec.storage?_of_eq_ok made).symm
  have markers := congrArg (List.filterMap id) read
  rw [List.filterMap_map, List.filterMap_map] at markers
  exact markers.symm

theorem shapeOf_of_eq_ok (shaped : spec.shape = .ok shape)
    (resolved : spec.resolve shapes = .ok e) : shape.ShapeOf e := by
  have stored := getAll_storage_of_eq_ok resolved
  obtain ⟨capabilities, -, built⟩ := bind_eq_ok.1 resolved
  obtain rfl := Entity.build_eq_ok shaped
  obtain rfl := Entity.build_eq_ok built
  refine ⟨rfl, rfl, rfl, ?_⟩
  rw [Bag.markers_ofList, stored]

theorem name_of_eq_ok (resolved : spec.resolve shapes = .ok e) : e.name = spec.name := by
  obtain ⟨capabilities, -, built⟩ := bind_eq_ok.1 resolved
  rw [Entity.build_eq_ok built]

theorem lookup_of_referent (resolved : spec.resolve shapes = .ok e)
    {capability : Capability Entity} (member : capability ∈ e.capabilities.markers)
    {other : Entity} (refers : capability.referent? = some other) :
    ∃ name, shapes.lookup name = some other := by
  obtain ⟨capabilities, each, built⟩ := bind_eq_ok.1 resolved
  rw [Entity.build_eq_ok built, Bag.markers_ofList] at member
  obtain ⟨declared, -, made⟩ := exists_of_forall₂ (mapM_eq_ok_iff.1 each) member
  exact declared.lookup_of_referent made refers

end EntitySpec

/-! ## The shapes of a document -/

section Tables
variable {α : Type} {table : List (String × α)}

theorem isSome_lookup_iff {name : String} :
    (table.lookup name).isSome ↔ name ∈ table.map (·.1) := by
  rw [← not_iff_not, Option.not_isSome_iff_eq_none, List.lookup_eq_none_iff]
  simp only [bne_iff_ne, List.mem_map, not_exists, not_and]
  exact forall₂_congr fun entry _ => not_congr eq_comm

theorem lookup_eq_some_iff_mem (distinct : (table.map (·.1)).Nodup) {name : String} {a : α} :
    table.lookup name = some a ↔ (name, a) ∈ table := by
  induction table with
  | nil => simp
  | cons entry rest ih =>
    obtain ⟨key, value⟩ := entry
    obtain ⟨fresh, distinct⟩ := List.nodup_cons.1 distinct
    rw [List.lookup_cons, List.mem_cons, Prod.mk.injEq]
    cases same : name == key with
    | true =>
      obtain rfl := beq_iff_eq.1 same
      have absent : (name, a) ∉ rest := fun member => fresh (List.mem_map.2 ⟨_, member, rfl⟩)
      simp [eq_comm, absent]
    | false => simp [ne_of_beq_false same, ih distinct]

theorem nodup_keys_concat {name : String} (distinct : (table.map (·.1)).Nodup)
    (fresh : name ∉ table.map (·.1)) (a : α) : ((table ++ [(name, a)]).map (·.1)).Nodup := by
  rw [List.map_append, List.map_singleton, ← List.concat_eq_append]
  exact distinct.concat fresh

end Tables

theorem not_mem_front_of_nodup {α : Type} {front back : List α} {a : α}
    (distinct : (front ++ a :: back).Nodup) : a ∉ front := fun taken =>
  (List.nodup_append.1 distinct).2.2 _ taken _ List.mem_cons_self rfl

section Shapes
variable {shapes : List (String × Entity)} {specs : List EntitySpec}

/-- The shapes of declarations under their names, of which no two are the same. -/
structure ShapesOf (specs : List EntitySpec) (shapes : List (String × Entity)) : Prop where
  each : List.Forall₂ (fun spec entry => entry.1 = spec.name ∧ spec.shape = .ok entry.2) specs
    shapes
  distinct : (shapes.map (·.1)).Nodup

theorem ShapesOf.exists_of_lookup (of : ShapesOf specs shapes) {name : String} {shape : Entity}
    (found : shapes.lookup name = some shape) :
    ∃ spec ∈ specs, spec.name = name ∧ spec.shape = .ok shape := by
  have member := (lookup_eq_some_iff_mem of.distinct).1 found
  obtain ⟨spec, hs, named, shaped⟩ := exists_of_forall₂ of.each member
  exact ⟨spec, hs, named.symm, shaped⟩

theorem ShapesOf.map_name (of : ShapesOf specs shapes) :
    shapes.map (·.1) = specs.map (·.name) :=
  (map_eq_of_forall₂ (of.each.imp fun _ _ made => made.1.symm)).symm

theorem collectShapes_eq_ok_iff {result : List (String × Entity)}
    (distinct : (shapes.map (·.1)).Nodup) :
    Document.collectShapes shapes specs = .ok result ↔
      ∃ added, result = shapes ++ added ∧
        List.Forall₂ (fun spec entry => entry.1 = spec.name ∧ spec.shape = .ok entry.2) specs
          added ∧ (result.map (·.1)).Nodup := by
  induction specs generalizing shapes with
  | nil =>
    rw [Document.collectShapes]
    constructor
    · intro collected
      obtain rfl := Except.ok.inj collected
      exact ⟨[], (List.append_nil _).symm, .nil, distinct⟩
    · rintro ⟨added, rfl, none, -⟩
      rw [List.forall₂_nil_left_iff.1 none, List.append_nil]
  | cons spec rest ih =>
    rw [Document.collectShapes]
    cases shaped : spec.shape with
    | error e =>
      refine iff_of_false nofun ?_
      rintro ⟨_, -, related, -⟩
      obtain ⟨entry, _, ⟨-, made⟩, -⟩ := List.forall₂_cons_left_iff.1 related
      cases shaped.symm.trans made
    | ok shape =>
      have first {entry : String × Entity} :
          entry.1 = spec.name ∧ spec.shape = .ok entry.2 ↔ entry = (spec.name, shape) := by
        rw [shaped, Except.ok.injEq, Prod.ext_iff, eq_comm (a := shape)]
      simp only [List.forall₂_cons_left_iff, first]
      split
      · rename_i taken
        refine iff_of_false nofun ?_
        rintro ⟨_, rfl, ⟨_, added, rfl, -, rfl⟩, nodup⟩
        rw [List.map_append, List.map_cons] at nodup
        exact not_mem_front_of_nodup nodup (isSome_lookup_iff.1 taken)
      · rename_i fresh
        have fresh : spec.name ∉ shapes.map (·.1) := fun taken => fresh (isSome_lookup_iff.2 taken)
        rw [ih (nodup_keys_concat distinct fresh shape)]
        constructor
        · rintro ⟨added, rfl, related, nodup⟩
          refine ⟨(spec.name, shape) :: added, ?_, ⟨_, _, rfl, related, rfl⟩, nodup⟩
          rw [List.append_assoc, List.singleton_append]
        · rintro ⟨_, rfl, ⟨_, added, rfl, related, rfl⟩, nodup⟩
          refine ⟨added, ?_, related, nodup⟩
          rw [List.append_assoc, List.singleton_append]

theorem collectShapes_nil_eq_ok_iff :
    Document.collectShapes [] specs = .ok shapes ↔ ShapesOf specs shapes := by
  have none : (([] : List (String × Entity)).map (·.1)).Nodup := List.nodup_nil
  rw [collectShapes_eq_ok_iff none]
  constructor
  · rintro ⟨added, rfl, related, nodup⟩
    exact ⟨related, nodup⟩
  · rintro ⟨related, nodup⟩
    exact ⟨shapes, rfl, related, nodup⟩

end Shapes

/-! ## The document -/

namespace Document
variable {d : Document} {entities : List Entity}

theorem resolve_eq_ok_iff : d.resolve = .ok entities ↔ ∃ shapes, ShapesOf d.entities shapes ∧
    List.Forall₂ (fun spec e => spec.resolve shapes = .ok e) d.entities entities := by
  simp only [resolve, bind_eq_ok, collectShapes_nil_eq_ok_iff, mapM_eq_ok_iff]

theorem nodup_names (resolved : d.resolve = .ok entities) : (entities.map (·.name)).Nodup := by
  obtain ⟨shapes, of, each⟩ := resolve_eq_ok_iff.1 resolved
  have names : d.entities.map (·.name) = entities.map (·.name) :=
    map_eq_of_forall₂ (each.imp fun _ _ made => (EntitySpec.name_of_eq_ok made).symm)
  rw [← names, ← of.map_name]
  exact of.distinct

theorem exists_shapeOf_of_lookup {shapes : List (String × Entity)} (of : ShapesOf d.entities shapes)
    (each : List.Forall₂ (fun spec e => EntitySpec.resolve shapes spec = .ok e) d.entities entities)
    {name : String} {shape : Entity} (found : shapes.lookup name = some shape) :
    ∃ e ∈ entities, e.name = name ∧ shape.ShapeOf e := by
  obtain ⟨spec, hs, rfl, shaped⟩ := of.exists_of_lookup found
  obtain ⟨e, he, made⟩ := exists_of_forall₂ each.flip hs
  exact ⟨e, he, EntitySpec.name_of_eq_ok made, EntitySpec.shapeOf_of_eq_ok shaped made⟩

theorem exists_shapeOf_of_referent (resolved : d.resolve = .ok entities) {e : Entity}
    (he : e ∈ entities) {capability : Capability Entity}
    (member : capability ∈ e.capabilities.markers) {other : Entity}
    (refers : capability.referent? = some other) : ∃ target ∈ entities, other.ShapeOf target := by
  obtain ⟨shapes, of, each⟩ := resolve_eq_ok_iff.1 resolved
  obtain ⟨spec, -, made⟩ := exists_of_forall₂ each he
  obtain ⟨name, found⟩ := EntitySpec.lookup_of_referent made member refers
  obtain ⟨target, ht, -, shapeOf⟩ := exists_shapeOf_of_lookup of each found
  exact ⟨target, ht, shapeOf⟩

theorem alike_of_name (resolved : d.resolve = .ok entities) {e target other : Entity}
    (he : e ∈ entities) (ht : target ∈ entities)
    (refers : ∃ capability ∈ e.capabilities.markers, capability.referent? = some other)
    (named : other.name = target.name) : other.Alike target := by
  obtain ⟨capability, member, refers⟩ := refers
  obtain ⟨found, hf, shapeOf⟩ := exists_shapeOf_of_referent resolved he member refers
  obtain rfl : found = target :=
    List.inj_on_of_nodup_map (nodup_names resolved) hf ht (shapeOf.name.symm.trans named)
  exact shapeOf.alike

end Document
end Scaffold.Model
