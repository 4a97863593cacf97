import Mathlib.Data.List.Perm.Basic
import Scaffold.Proofs.Model.References

/-! What an entity of a resolved document depends on: its own declaration, and of the declarations
that it mentions only what their shapes are made of. Everything else in the document, and the order
of the declarations, makes no difference to it. -/

namespace Scaffold

section Pairs
variable {α β : Type} {R : α → β → Prop} {list : List α} {bs : List β}

theorem forall₂_zip_right (related : List.Forall₂ R list bs) :
    List.Forall₂ (fun a pair => pair.1 = a ∧ R a pair.2) list (list.zip bs) := by
  induction related with
  | nil => exact .nil
  | cons head _ ih => exact .cons ⟨rfl, head⟩ ih

theorem zip_map_snd_of_forall₂ {pairs : List (α × β)}
    (related : List.Forall₂ (fun a pair => pair.1 = a ∧ R a pair.2) list pairs) :
    list.zip (pairs.map (·.2)) = pairs := by
  induction related with
  | nil => rfl
  | cons head _ ih =>
    obtain ⟨rfl, -⟩ := head
    rw [List.map_cons, List.zip_cons_cons, ih]

theorem exists_zip_perm {list' : List α} (perm : list'.Perm list)
    (related : List.Forall₂ R list bs) :
    ∃ bs', List.Forall₂ R list' bs' ∧ (list'.zip bs').Perm (list.zip bs) := by
  obtain ⟨pairs, each, same⟩ := List.perm_comp_forall₂ perm (forall₂_zip_right related)
  refine ⟨pairs.map (·.2), ?_, ?_⟩
  · rw [List.forall₂_map_right_iff]
    exact each.imp fun _ _ pair => pair.2
  · rw [zip_map_snd_of_forall₂ each]
    exact same

end Pairs

namespace Model

section Specs
variable {shapes shapes' : List (String × Entity)}

theorem CapabilitySpec.resolve_congr {owner : String} {spec : CapabilitySpec}
    (same : ∀ name, spec.target? = some name → shapes.lookup name = shapes'.lookup name) :
    spec.resolve owner shapes = spec.resolve owner shapes' := by
  cases spec with
  | associate child => rw [resolve, resolve, shapeOf, shapeOf, same child rfl]
  | listByAssociatedKey associated reversed =>
    rw [resolve, resolve, shapeOf, shapeOf, same associated rfl]
  | _ => rfl

theorem CapabilitySpec.isSome_lookup_of_eq_ok {owner name : String} {spec : CapabilitySpec}
    {capability : Capability Entity} (resolved : spec.resolve owner shapes = .ok capability)
    (target : spec.target? = some name) : (shapes.lookup name).isSome := by
  cases spec with
  | associate child =>
    obtain rfl := Option.some.inj target
    obtain ⟨shape, found, -⟩ := map_eq_ok.1 resolved
    rw [lookup_of_shapeOf found]
    rfl
  | listByAssociatedKey associated reversed =>
    obtain rfl := Option.some.inj target
    obtain ⟨shape, found, -⟩ := map_eq_ok.1 resolved
    rw [lookup_of_shapeOf found]
    rfl
  | _ => cases target

namespace EntitySpec
variable {spec other : EntitySpec}

def Mentions (spec : EntitySpec) (name : String) : Prop :=
  ∃ capability ∈ spec.capabilities, capability.target? = some name

/-- What the shapes of two declarations are made of is the same, except for their names. -/
structure SameShape (spec other : EntitySpec) : Prop where
  typePath : spec.typePath = other.typePath
  fields : spec.fields = other.fields
  storage : spec.capabilities.filterMap CapabilitySpec.storage? =
    other.capabilities.filterMap CapabilitySpec.storage?

theorem SameShape.shape_eq (same : spec.SameShape other) (named : spec.name = other.name) :
    spec.shape = other.shape := by
  rw [shape, shape, build, build, named, same.typePath, same.fields, same.storage]

theorem resolve_congr
    (same : ∀ name, spec.Mentions name → shapes.lookup name = shapes'.lookup name) :
    spec.resolve shapes = spec.resolve shapes' := by
  have each : spec.capabilities.mapM (CapabilitySpec.resolve spec.name shapes) =
      spec.capabilities.mapM (CapabilitySpec.resolve spec.name shapes') :=
    mapM_congr fun capability member => CapabilitySpec.resolve_congr fun name target =>
      same name ⟨capability, member, target⟩
  rw [resolve, resolve, each]

theorem isSome_lookup_of_mentions {e : Entity} (resolved : spec.resolve shapes = .ok e)
    {name : String} (mentions : spec.Mentions name) : (shapes.lookup name).isSome := by
  obtain ⟨capability, member, target⟩ := mentions
  obtain ⟨capabilities, each, -⟩ := bind_eq_ok.1 resolved
  obtain ⟨marker, -, made⟩ := exists_of_forall₂ (mapM_eq_ok_iff.1 each).flip member
  exact CapabilitySpec.isSome_lookup_of_eq_ok made target

end EntitySpec

theorem lookup_of_perm (perm : shapes'.Perm shapes) (distinct : (shapes.map (·.1)).Nodup)
    (name : String) : shapes'.lookup name = shapes.lookup name := by
  have distinct' : (shapes'.map (·.1)).Nodup := (perm.map _).nodup_iff.2 distinct
  ext shape
  rw [lookup_eq_some_iff_mem distinct', lookup_eq_some_iff_mem distinct, perm.mem_iff]

theorem ShapesOf.exists_perm {specs specs' : List EntitySpec} (of : ShapesOf specs shapes)
    (perm : specs'.Perm specs) : ∃ shapes', ShapesOf specs' shapes' ∧ shapes'.Perm shapes := by
  obtain ⟨shapes', each, same⟩ := List.perm_comp_forall₂ perm of.each
  exact ⟨shapes', ⟨each, (same.map _).nodup_iff.2 of.distinct⟩, same⟩

end Specs

namespace Document
variable {d d' : Document} {entities entities' : List Entity} {spec : EntitySpec}

/-- Whatever a declaration mentions has one shape in two documents. -/
def SameMentions (d d' : Document) (spec : EntitySpec) : Prop :=
  ∀ name, spec.Mentions name → ∀ target ∈ d.entities, ∀ target' ∈ d'.entities,
    target.name = name → target'.name = name → target.SameShape target'

theorem exists_common_entity (resolved : d.resolve = .ok entities)
    (resolved' : d'.resolve = .ok entities') (declared : spec ∈ d.entities)
    (declared' : spec ∈ d'.entities) (mentions : SameMentions d d' spec) :
    ∃ e ∈ entities, e ∈ entities' ∧ e.name = spec.name := by
  obtain ⟨shapes, of, each⟩ := resolve_eq_ok_iff.1 resolved
  obtain ⟨shapes', of', each'⟩ := resolve_eq_ok_iff.1 resolved'
  obtain ⟨e, he, made⟩ := exists_of_forall₂ each.flip declared
  obtain ⟨e', he', made'⟩ := exists_of_forall₂ each'.flip declared'
  have lookups : ∀ name, spec.Mentions name → shapes.lookup name = shapes'.lookup name := by
    intro name mentioned
    obtain ⟨shape, found⟩ :=
      Option.isSome_iff_exists.1 (EntitySpec.isSome_lookup_of_mentions made mentioned)
    obtain ⟨shape', found'⟩ :=
      Option.isSome_iff_exists.1 (EntitySpec.isSome_lookup_of_mentions made' mentioned)
    obtain ⟨target, ht, named, shaped⟩ := of.exists_of_lookup found
    obtain ⟨target', ht', named', shaped'⟩ := of'.exists_of_lookup found'
    have same := mentions name mentioned target ht target' ht' named named'
    rw [same.shape_eq (named.trans named'.symm), shaped'] at shaped
    rw [found, found', Except.ok.inj shaped]
  rw [EntitySpec.resolve_congr lookups, made'] at made
  obtain rfl := Except.ok.inj made
  exact ⟨e', he, he', EntitySpec.name_of_eq_ok made'⟩

theorem resolve_perm (resolved : d.resolve = .ok entities) (perm : d'.entities.Perm d.entities) :
    ∃ entities', d'.resolve = .ok entities' ∧
      (d'.entities.zip entities').Perm (d.entities.zip entities) := by
  obtain ⟨shapes, of, each⟩ := resolve_eq_ok_iff.1 resolved
  obtain ⟨shapes', of', same⟩ := of.exists_perm perm
  have lookups := lookup_of_perm same of.distinct
  obtain ⟨entities', each', zipped⟩ := exists_zip_perm perm each
  refine ⟨entities', resolve_eq_ok_iff.2 ⟨shapes', of', each'.imp fun spec e made => ?_⟩, zipped⟩
  rw [EntitySpec.resolve_congr fun name _ => lookups name]
  exact made

end Document
end Model
end Scaffold
