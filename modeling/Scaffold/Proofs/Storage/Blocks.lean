import Scaffold.Proofs.Storage.Contents

/-! The blocks for associations and listings in the file of an entity: one for each marker, in the
order of the markers, made from the names and the single keys of the two entities. -/

namespace Scaffold
namespace Storage
open Model Code Rules

section Blocks
variable (inflector : Inflector) (e : Entity) (names : Names)

def AssociateBlock (child : Entity) (block : String) : Prop :=
  ∃ key childNames childKey, e.keyFields = [key] ∧ namesOf child inflector = .ok childNames ∧
    child.keyFields = [childKey] ∧
    block = renderAssociate names.implementation (inflector.snake (inflector.plural child.name))
      key.type childKey.type (associateParameters inflector names childNames key.name childKey.name
        (repositoryField inflector child))

def ListingBlock (listing : KeyListing Entity) (block : String) : Prop :=
  ∃ key otherNames otherKey, e.keyFields = [key] ∧
    namesOf listing.associated inflector = .ok otherNames ∧
    listing.associated.keyFields = [otherKey] ∧
    block = renderListBy names.implementation (inflector.snake listing.associated.name)
      otherKey.type e.typePath
      (joinClause inflector (listingTable names otherNames listing.reversed) names key.name)
      (filterClause inflector (listingTable names otherNames listing.reversed) otherNames
        otherKey.name)

end Blocks

section Files
variable {inflector : Inflector} {file : StorageFile} {c : Contents}

theorem associateBlock_of_eq_ok {interfaceModule block : String} {e child : Entity} {names : Names}
    {key : Field} (single : e.keyFields = [key])
    (made : associateMethod inflector interfaceModule names key key.type child = .ok block) :
    AssociateBlock inflector e names child block := by
  obtain ⟨childNames, named, made⟩ := bind_eq_ok.1 made
  obtain ⟨childKey, childSingle, made⟩ := bind_eq_ok.1 made
  obtain ⟨childType, keyed, made⟩ := bind_eq_ok.1 made
  have childSingle := (singleKeyOf_eq_ok_iff child _ _).1 childSingle
  rw [keyOf_of_single childSingle] at keyed
  obtain rfl := Except.ok.inj keyed
  exact ⟨key, childNames, childKey, single, named, childSingle, (Except.ok.inj made).symm⟩

theorem listingBlock_of_eq_ok {interfaceModule block : String} {e : Entity} {names : Names}
    {key : Field} {listing : KeyListing Entity} (single : e.keyFields = [key])
    (made : listByMethod inflector interfaceModule e names key listing = .ok block) :
    ListingBlock inflector e names listing block := by
  obtain ⟨otherNames, named, made⟩ := bind_eq_ok.1 made
  obtain ⟨otherKey, otherSingle, made⟩ := bind_eq_ok.1 made
  obtain ⟨otherType, keyed, made⟩ := bind_eq_ok.1 made
  have otherSingle := (singleKeyOf_eq_ok_iff listing.associated _ _).1 otherSingle
  rw [keyOf_of_single otherSingle] at keyed
  obtain rfl := Except.ok.inj keyed
  exact ⟨key, otherNames, otherKey, single, named, otherSingle, (Except.ok.inj made).symm⟩

namespace Contents.Of

theorem forall₂_associates (of : c.Of inflector file) :
    List.Forall₂ (AssociateBlock inflector file.entity c.names) (childrenOf file.entity)
      c.associates := by
  have blocks := of.associates
  unfold associateBlocks at blocks
  split at blocks
  · obtain ⟨names, named, blocks⟩ := bind_eq_ok.1 blocks
    obtain ⟨key, single, blocks⟩ := bind_eq_ok.1 blocks
    obtain ⟨type, keyed, blocks⟩ := bind_eq_ok.1 blocks
    have single := (singleKeyOf_eq_ok_iff file.entity _ _).1 single
    rw [keyOf_of_single single] at keyed
    obtain rfl := Except.ok.inj keyed
    obtain rfl := Except.ok.inj (of.names.symm.trans named)
    exact (mapM_eq_ok_iff.1 blocks).imp fun child block made => associateBlock_of_eq_ok single made
  · rename_i unmarked
    rw [childrenOf, (Bag.getAll_eq_nil_iff _ _).2 (Bool.eq_false_iff.2 unmarked),
      ← Except.ok.inj blocks]
    exact .nil

theorem forall₂_listings (of : c.Of inflector file) :
    List.Forall₂ (ListingBlock inflector file.entity c.names) (listingsOf file.entity)
      c.listings := by
  have blocks := of.listings
  unfold listingBlocks at blocks
  split at blocks
  · obtain ⟨names, named, blocks⟩ := bind_eq_ok.1 blocks
    obtain ⟨key, single, blocks⟩ := bind_eq_ok.1 blocks
    have single := (singleKeyOf_eq_ok_iff file.entity _ _).1 single
    obtain rfl := Except.ok.inj (of.names.symm.trans named)
    exact (mapM_eq_ok_iff.1 blocks).imp fun listing block made => listingBlock_of_eq_ok single made
  · rename_i unmarked
    rw [listingsOf, (Bag.getAll_eq_nil_iff _ _).2 (Bool.eq_false_iff.2 unmarked),
      ← Except.ok.inj blocks]
    exact .nil

end Contents.Of
end Files
end Storage
end Scaffold
