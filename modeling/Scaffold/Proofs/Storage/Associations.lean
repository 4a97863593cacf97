import Scaffold.Proofs.Model.References
import Scaffold.Proofs.Storage.Signatures
import Scaffold.Proofs.Storage.Texts

/-! Three methods go through the table of an association: the one with which the owner adds and
removes children, the listing of the owner by a child, and the reversed listing of the child by its
owner. They are generated in different files, each from one full entity and the shape of the other.
All three name one table and the same two columns, since an entity and its shape have the same names
and the same keys. -/

namespace Scaffold.Storage
open Model Code Rules

structure Link where
  table : String
  ownerColumn : String
  childColumn : String
  deriving DecidableEq, Repr

section Texts
variable (inflector : Inflector)

/-- The block adds and removes the associated children of an owner, stored in a link: its lines hand
over literals that read as the table and the two columns. -/
def AssociatesThrough (owner child : Entity) (link : Link) (block : String) : Prop :=
  ∃ key childKey table ownerColumn childColumn,
    owner.keyFields = [key] ∧ child.keyFields = [childKey] ∧
    Text.Literal.read? table = some link.table ∧
    Text.Literal.read? ownerColumn = some link.ownerColumn ∧
    Text.Literal.read? childColumn = some link.childColumn ∧
    block = associateText (owner.interfaceName ++ "Impl")
      (inflector.snake (inflector.plural child.name)) key.type childKey.type
      (repositoryField inflector child) table ownerColumn childColumn

/-- The block lists an entity by the key of another through a table, given the columns for the keys
of the two: the literals in its query read as a join and a condition on these columns. -/
def ListsThrough (e other : Entity) (table column otherColumn block : String) : Prop :=
  ∃ names key otherKey join filter, namesOf e inflector = .ok names ∧ e.keyFields = [key] ∧
    other.keyFields = [otherKey] ∧
    Text.Literal.read? join = some ("INNER JOIN " ++ table ++ " ON " ++ table ++ "." ++ column ++
      " = " ++ names.table ++ "." ++ inflector.snake key.name) ∧
    Text.Literal.read? filter = some (table ++ "." ++ otherColumn ++ " = ?") ∧
    block = listByText (e.interfaceName ++ "Impl") (inflector.snake other.name) otherKey.type
      e.typePath join filter

/-- Whatever storage file is generated for an entity, its blocks are as told: one for each
association, and after them those for the listings. -/
def EveryFile (e : Entity) (told : List String → List String → Prop) : Prop :=
  ∀ (file : StorageFile) (source : SourceFile) (w : World), file.entity = e →
    ((registry.withInflector inflector).emitFile (V := parts) (k := .storageFile) source file
      w).1.1 = .ok () →
    ∃ added associates listings,
      ((registry.withInflector inflector).emitFile (V := parts) (k := .storageFile) source file
        w).1.2.items = source.items ++ added ∧
      added.filter isImplementation = associates ++ listings ∧
      associates.length = (childrenOf e).length ∧ told associates listings

end Texts

section Alike
variable {inflector : Inflector} {e shape target : Entity} {names : Names} {block : String}

theorem namesOf_alike (alike : shape.Alike target) :
    namesOf shape inflector = namesOf target inflector := by
  rw [namesOf, namesOf, Names.of_alike alike]

theorem AssociateBlock.of_alike (alike : shape.Alike target)
    (made : AssociateBlock inflector e names shape block) :
    AssociateBlock inflector e names target block := by
  unfold AssociateBlock repositoryField at made ⊢
  rwa [namesOf_alike alike, alike.keyFields, alike.name] at made

theorem ListingBlock.of_alike {reversed : Bool} (alike : shape.Alike target)
    (made : ListingBlock inflector e names ⟨shape, reversed⟩ block) :
    ListingBlock inflector e names ⟨target, reversed⟩ block := by
  unfold ListingBlock at made ⊢
  rwa [namesOf_alike alike, alike.keyFields, alike.name] at made

end Alike

section Links
variable {inflector : Inflector} {owner child : Entity} {ownerNames childNames : Names}
  {ownerKey childKey : Field} {link : Link}

def Link.between (inflector : Inflector) (owner child : Names) (ownerKey childKey : Field) : Link :=
  ⟨owner.associationTable child, owner.associationColumn inflector ownerKey.name,
    child.associationColumn inflector childKey.name⟩

/-- The link is the one between two entities, if they have names and single keys. -/
def Link.Joins (link : Link) (inflector : Inflector) (owner child : Entity) : Prop :=
  ∀ ownerNames childNames ownerKey childKey, namesOf owner inflector = .ok ownerNames →
    namesOf child inflector = .ok childNames → owner.keyFields = [ownerKey] →
    child.keyFields = [childKey] →
    link = .between inflector ownerNames childNames ownerKey childKey

theorem Link.joins_between (named : namesOf owner inflector = .ok ownerNames)
    (childNamed : namesOf child inflector = .ok childNames) (single : owner.keyFields = [ownerKey])
    (childSingle : child.keyFields = [childKey]) :
    (between inflector ownerNames childNames ownerKey childKey).Joins inflector owner child := by
  intro _ _ _ _ h₁ h₂ h₃ h₄
  obtain rfl := Except.ok.inj (named.symm.trans h₁)
  obtain rfl := Except.ok.inj (childNamed.symm.trans h₂)
  obtain rfl := List.singleton_inj.1 (single.symm.trans h₃)
  obtain rfl := List.singleton_inj.1 (childSingle.symm.trans h₄)
  rfl

theorem Link.joins_of_eq (named : namesOf owner inflector = .ok ownerNames)
    (childNamed : namesOf child inflector = .ok childNames) (single : owner.keyFields = [ownerKey])
    (childSingle : child.keyFields = [childKey])
    (same : link = .between inflector ownerNames childNames ownerKey childKey) :
    link.Joins inflector owner child :=
  same ▸ Link.joins_between named childNamed single childSingle

theorem exists_joins (inflector : Inflector) (owner child : Entity) :
    ∃ link : Link, link.Joins inflector owner child := by
  by_cases determined : ∃ ownerNames childNames ownerKey childKey,
      namesOf owner inflector = .ok ownerNames ∧ namesOf child inflector = .ok childNames ∧
      owner.keyFields = [ownerKey] ∧ child.keyFields = [childKey]
  · obtain ⟨ownerNames, childNames, ownerKey, childKey, named, childNamed, single, childSingle⟩ :=
      determined
    exact ⟨_, Link.joins_between named childNamed single childSingle⟩
  · exact ⟨⟨"", "", ""⟩, fun _ _ _ _ h₁ h₂ h₃ h₄ =>
      absurd ⟨_, _, _, _, h₁, h₂, h₃, h₄⟩ determined⟩

variable {block : String}

theorem AssociateBlock.through (joins : link.Joins inflector owner child)
    (named : namesOf owner inflector = .ok ownerNames)
    (made : AssociateBlock inflector owner ownerNames child block) :
    AssociatesThrough inflector owner child link block := by
  obtain ⟨key, childNames, childKey, single, childNamed, childSingle, rfl⟩ := made
  obtain rfl := joins _ _ _ _ named childNamed single childSingle
  rw [renderAssociate_eq_associateText]
  obtain ⟨_, _, rfl⟩ := exists_of_namesOf named
  exact ⟨key, childKey, _, _, _, single, childSingle, Text.Literal.read?_quoted _,
    Text.Literal.read?_quoted _, Text.Literal.read?_quoted _, rfl⟩

theorem ListingBlock.through (joins : link.Joins inflector owner child)
    (named : namesOf owner inflector = .ok ownerNames)
    (made : ListingBlock inflector owner ownerNames ⟨child, false⟩ block) :
    ListsThrough inflector owner child link.table link.ownerColumn link.childColumn block := by
  obtain ⟨key, childNames, childKey, single, childNamed, childSingle, rfl⟩ := made
  obtain rfl := joins _ _ _ _ named childNamed single childSingle
  rw [renderListBy_eq_listByText]
  obtain ⟨_, _, rfl⟩ := exists_of_namesOf named
  exact ⟨_, key, childKey, _, _, named, single, childSingle, Text.Literal.read?_quoted _,
    Text.Literal.read?_quoted _, rfl⟩

theorem ListingBlock.through_reversed (joins : link.Joins inflector owner child)
    (named : namesOf child inflector = .ok childNames)
    (made : ListingBlock inflector child childNames ⟨owner, true⟩ block) :
    ListsThrough inflector child owner link.table link.childColumn link.ownerColumn block := by
  obtain ⟨key, ownerNames, ownerKey, single, ownerNamed, ownerSingle, rfl⟩ := made
  obtain rfl := joins _ _ _ _ ownerNamed named ownerSingle single
  rw [renderListBy_eq_listByText]
  obtain ⟨_, _, rfl⟩ := exists_of_namesOf named
  exact ⟨_, key, ownerKey, _, _, named, single, ownerSingle, Text.Literal.read?_quoted _,
    Text.Literal.read?_quoted _, rfl⟩

end Links

section Files
variable {inflector : Inflector} {e : Entity}

theorem everyFile_of_contents {told : List String → List String → Prop}
    (blocks : ∀ (file : StorageFile) (c : Contents), file.entity = e → c.Of inflector file →
      told c.associates c.listings) : EveryFile inflector e told := by
  rintro file source w rfl succeeded
  obtain ⟨g, declared⟩ := ((emitFile_ok_iff source w).1 succeeded).exists_groups inflector
  obtain ⟨c, of, items⟩ := exists_contents_of_emitted succeeded
  exact ⟨c.items inflector file, c.associates, c.listings, items, filter_items of declared,
    of.forall₂_associates.length_eq.symm, blocks file c rfl of⟩

end Files

section Documents
variable {d : Document} {entities : List Entity} {owner child : Entity}

theorem referent_of_mem_childrenOf {e shape : Entity} (member : shape ∈ childrenOf e) :
    ∃ capability ∈ e.capabilities.markers, capability.referent? = some shape := by
  obtain ⟨capability, held, read⟩ := List.mem_filterMap.1 member
  obtain rfl := (Capability.associateType.read?_eq_some_iff _ _).1 read
  exact ⟨_, held, rfl⟩

theorem referent_of_mem_listingsOf {e : Entity} {listing : KeyListing Entity}
    (member : listing ∈ listingsOf e) :
    ∃ capability ∈ e.capabilities.markers, capability.referent? = some listing.associated := by
  obtain ⟨capability, held, read⟩ := List.mem_filterMap.1 member
  obtain rfl := (Capability.listByAssociatedKeyType.read?_eq_some_iff _ _).1 read
  exact ⟨_, held, rfl⟩

/-- Any two entities of a document, which may be one, have a link that all their storage files
agree on: the owner associates the child through it and is listed by the child through it, and the
reversed listing of the child by the owner goes through it as well. -/
theorem association_sides_agree (resolved : d.resolve = .ok entities) (inflector : Inflector)
    (ho : owner ∈ entities) (hc : child ∈ entities) :
    ∃ link : Link,
      EveryFile inflector owner (fun associates listings =>
        List.Forall₂ (fun shape block => shape.name = child.name →
          AssociatesThrough inflector owner child link block) (childrenOf owner) associates ∧
        List.Forall₂ (fun listing block =>
          listing.associated.name = child.name → listing.reversed = false →
          ListsThrough inflector owner child link.table link.ownerColumn link.childColumn block)
          (listingsOf owner) listings) ∧
      EveryFile inflector child fun _ listings =>
        List.Forall₂ (fun listing block =>
          listing.associated.name = owner.name → listing.reversed = true →
          ListsThrough inflector child owner link.table link.childColumn link.ownerColumn block)
          (listingsOf child) listings := by
  obtain ⟨link, joins⟩ := exists_joins inflector owner child
  refine ⟨link, everyFile_of_contents ?_, everyFile_of_contents ?_⟩
  · rintro file c rfl of
    refine ⟨forall₂_imp_of_mem ?_ of.forall₂_associates, forall₂_imp_of_mem ?_ of.forall₂_listings⟩
    · intro shape member block made named
      have alike := Document.alike_of_name resolved ho hc (referent_of_mem_childrenOf member) named
      exact (made.of_alike alike).through joins of.names
    · rintro ⟨shape, reversed⟩ member block made named rfl
      have alike := Document.alike_of_name resolved ho hc (referent_of_mem_listingsOf member) named
      exact (made.of_alike alike).through joins of.names
  · rintro file c rfl of
    refine forall₂_imp_of_mem ?_ of.forall₂_listings
    rintro ⟨shape, reversed⟩ member block made named rfl
    have alike := Document.alike_of_name resolved hc ho (referent_of_mem_listingsOf member) named
    exact (made.of_alike alike).through_reversed joins of.names

end Documents

/-- Two entities with tables of their own that refer to each other. -/
def catalogue : Document where
  interfaces := { module := "model", path := "model.rs" }
  entities := [
    { name := "Product", fields := [⟨"sku", "String", "key"⟩]
      capabilities := [.storage { tableName? := some "goods" }, .associate "Category",
        .listByAssociatedKey "Category" false] },
    { name := "Category", fields := [⟨"name", "String", "key"⟩]
      capabilities := [.storage { tableName? := some "cats" },
        .listByAssociatedKey "Product" true] }]

def catalogued (name key table : String) (further : List (Capability Entity)) : Entity :=
  ⟨name, name, [⟨key, "String", ⟨true⟩⟩], ⟨.storage { tableName? := some table } :: further⟩⟩

def catalogueProduct : Entity :=
  catalogued "Product" "sku" "goods" [.associate (catalogued "Category" "name" "cats" []),
    .listByAssociatedKey ⟨catalogued "Category" "name" "cats" [], false⟩]

def catalogueCategory : Entity :=
  catalogued "Category" "name" "cats"
    [.listByAssociatedKey ⟨catalogued "Product" "sku" "goods" [], true⟩]

def catalogueOutcome (e : Entity) : Except Failure Unit × SourceFile :=
  ((registry.withInflector .english).emitFile (V := parts) (k := .storageFile)
    { module := "store" } { package := "store", interfaceModule := "crate::model", entity := e }
    {}).1

theorem association_sides_agree_catalogue :
    catalogue.resolve = .ok [catalogueProduct, catalogueCategory] ∧
    (catalogueOutcome catalogueProduct).1 = .ok () ∧
    (catalogueOutcome catalogueCategory).1 = .ok () ∧
    ∃ (link : Link) (associate listing reversed : String),
      (catalogueOutcome catalogueProduct).2.items.filter isImplementation = [associate, listing] ∧
      (catalogueOutcome catalogueCategory).2.items.filter isImplementation = [reversed] ∧
      AssociatesThrough .english catalogueProduct catalogueCategory link associate ∧
      ListsThrough .english catalogueProduct catalogueCategory link.table link.ownerColumn
        link.childColumn listing ∧
      ListsThrough .english catalogueCategory catalogueProduct link.table link.childColumn
        link.ownerColumn reversed := by
  have resolved : catalogue.resolve = .ok [catalogueProduct, catalogueCategory] := rfl
  have ofProduct : (catalogueOutcome catalogueProduct).1 = .ok () := (emitFile_ok_iff _ _).2
    ⟨by decide, by decide, by decide, by decide, by decide, by decide, by decide⟩
  have ofCategory : (catalogueOutcome catalogueCategory).1 = .ok () := (emitFile_ok_iff _ _).2
    ⟨by decide, by decide, by decide, by decide, by decide, by decide, by decide⟩
  refine ⟨resolved, ofProduct, ofCategory, ?_⟩
  obtain ⟨link, owned, listed⟩ := association_sides_agree resolved .english
    List.mem_cons_self (List.mem_cons_of_mem _ List.mem_cons_self)
  obtain ⟨products, _, _, items, blocks, -, associates, listings⟩ := owned _ _ _ rfl ofProduct
  obtain ⟨associate, _, associated, empty, rfl⟩ := List.forall₂_cons_left_iff.1 associates
  obtain rfl := List.forall₂_nil_left_iff.1 empty
  obtain ⟨listing, _, own, empty, rfl⟩ := List.forall₂_cons_left_iff.1 listings
  obtain rfl := List.forall₂_nil_left_iff.1 empty
  obtain ⟨categories, _, _, items', blocks', empty, listings⟩ := listed _ _ _ rfl ofCategory
  obtain rfl := List.length_eq_zero_iff.1 empty
  obtain ⟨reversed, _, through, empty, rfl⟩ := List.forall₂_cons_left_iff.1 listings
  obtain rfl := List.forall₂_nil_left_iff.1 empty
  exact ⟨link, associate, listing, reversed, (congrArg _ items).trans blocks,
    (congrArg _ items').trans blocks', associated rfl, own rfl rfl, through rfl rfl⟩

end Scaffold.Storage
