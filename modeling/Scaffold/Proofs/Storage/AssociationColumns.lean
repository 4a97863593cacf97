import Scaffold.Proofs.Storage.Associations
import Scaffold.Proofs.Storage.FileNames

/-! When the two columns of an association table are one. A column is named after an entity and its
key, with an underscore between the two as between the words of either; neither where the name ends
and the key begins can be told from it, nor on which side of the association the entity stands. So
the columns are the same just when one name and its key run on as the other do: for an entity that
is associated with itself, and for entities such as `Order` with the key `line_id` and `OrderLine`
with the key `id`. -/

namespace Scaffold

namespace Text

theorem Pieces.split_injective (cut : Char) : Function.Injective (split cut) := by
  intro s t same
  have chars : splitChars cut s.toList = splitChars cut t.toList :=
    List.map_injective_iff.2 (fun _ _ => String.ofList_inj.1) same
  have texts := congrArg [cut].intercalate chars
  rw [intercalate_splitChars, intercalate_splitChars] at texts
  exact String.toList_inj.1 texts

/-- The words of an identifier in small letters; one empty word where it has neither letters nor
digits. -/
def Words.inSmallLetters (s : String) : List String :=
  match (split s.toList).map small with
  | [] => [""]
  | words => words.map String.ofList

theorem Words.split_snake (s : String) :
    Pieces.split '_' (snake s) = inSmallLetters s := by
  have whole := separator_not_mem_words Letters.isSeparator_underscore s.toList
  unfold snake inSmallLetters
  cases words : (split s.toList).map small with
  | nil => rfl
  | cons word rest =>
    rw [words] at whole
    have joined : String.ofList (['_'].intercalate (word :: rest)) =
        (String.singleton '_').intercalate ((word :: rest).map String.ofList) := by
      rw [← String.toList_inj, String.toList_ofList, String.toList_intercalate, List.map_map]
      simp only [String.toList_singleton, Function.comp_def, String.toList_ofList, List.map_id']
    rw [joined]
    refine Pieces.split_intercalate (List.cons_ne_nil _ _) fun part hp => ?_
    obtain ⟨chars, hc, rfl⟩ := List.mem_map.1 hp
    rw [String.toList_ofList]
    exact whole chars hc

end Text

namespace Storage
open Model Code Rules

section Columns
variable {inflector : Inflector}

/-- The words of a column of an association table: those of the entity and those of its key. -/
def columnWords (inflector : Inflector) (e : Entity) (key : Field) : List String :=
  Text.Pieces.split '_' (inflector.snake e.name) ++ Text.Pieces.split '_' (inflector.snake key.name)

theorem associationColumn_eq_iff {e other : Entity} {names otherNames : Names} {key otherKey : Field}
    (named : namesOf e inflector = .ok names) (otherNamed : namesOf other inflector = .ok otherNames) :
    names.associationColumn inflector key.name =
        otherNames.associationColumn inflector otherKey.name ↔
      columnWords inflector e key = columnWords inflector other otherKey := by
  have cut (lead last : String) : Text.Pieces.split '_' lead ++ Text.Pieces.split '_' last =
      Text.Pieces.split '_' (lead ++ "_" ++ last) := (Text.Pieces.split_append_cut '_' lead last).symm
  obtain ⟨_, _, rfl⟩ := exists_of_namesOf named
  obtain ⟨_, _, rfl⟩ := exists_of_namesOf otherNamed
  rw [columnWords, columnWords, cut, cut, (Text.Pieces.split_injective '_').eq_iff]
  rfl

/-- The name of an entity runs on into its key as that of another does. -/
def RunAlike (inflector : Inflector) (e other : Entity) : Prop :=
  ∃ key otherKey, e.keyFields = [key] ∧ other.keyFields = [otherKey] ∧
    columnWords inflector e key = columnWords inflector other otherKey

theorem runAlike_iff {e other : Entity} {key otherKey : Field} (single : e.keyFields = [key])
    (otherSingle : other.keyFields = [otherKey]) :
    RunAlike inflector e other ↔
      columnWords inflector e key = columnWords inflector other otherKey := by
  constructor
  · rintro ⟨_, _, h₁, h₂, same⟩
    obtain rfl := List.singleton_inj.1 (single.symm.trans h₁)
    obtain rfl := List.singleton_inj.1 (otherSingle.symm.trans h₂)
    exact same
  · exact fun same => ⟨key, otherKey, single, otherSingle, same⟩

theorem runAlike_of_alike {e other : Entity} {key : Field} (single : e.keyFields = [key])
    (alike : other.Alike e) : RunAlike inflector e other := by
  refine ⟨key, key, single, alike.keyFields.trans single, ?_⟩
  rw [columnWords, columnWords, alike.name]

variable {e other : Entity} {names : Names} {block : String}

theorem AssociateBlock.columns (named : namesOf e inflector = .ok names)
    (made : AssociateBlock inflector e names other block) :
    ∃ link, AssociatesThrough inflector e other link block ∧
      (link.ownerColumn = link.childColumn ↔ RunAlike inflector e other) := by
  have through {link : Link} (joins : link.Joins inflector e other) := made.through joins named
  obtain ⟨key, otherNames, otherKey, single, otherNamed, otherSingle, -⟩ := made
  refine ⟨_, through (Link.joins_between named otherNamed single otherSingle), ?_⟩
  rw [runAlike_iff single otherSingle]
  exact associationColumn_eq_iff named otherNamed

theorem ListingBlock.columns {listing : KeyListing Entity}
    (named : namesOf e inflector = .ok names)
    (made : ListingBlock inflector e names listing block) :
    ∃ table column otherColumn,
      ListsThrough inflector e listing.associated table column otherColumn block ∧
      (column = otherColumn ↔ RunAlike inflector e listing.associated) := by
  obtain ⟨other, reversed⟩ := listing
  have parts := made
  obtain ⟨key, otherNames, otherKey, single, otherNamed, otherSingle, -⟩ := parts
  have columns : names.associationColumn inflector key.name =
      otherNames.associationColumn inflector otherKey.name ↔ RunAlike inflector e other := by
    rw [runAlike_iff single otherSingle]
    exact associationColumn_eq_iff named otherNamed
  cases reversed with
  | false =>
    have joins := Link.joins_between named otherNamed single otherSingle
    exact ⟨_, _, _, made.through joins named, columns⟩
  | true =>
    have joins := Link.joins_between otherNamed named otherSingle single
    exact ⟨_, _, _, made.through_reversed joins named, columns⟩

theorem everyFile_blocks (inflector : Inflector) (e : Entity) :
    EveryFile inflector e fun associates listings =>
      ∃ names, namesOf e inflector = .ok names ∧
        List.Forall₂ (AssociateBlock inflector e names) (childrenOf e) associates ∧
        List.Forall₂ (ListingBlock inflector e names) (listingsOf e) listings := by
  refine everyFile_of_contents ?_
  rintro file c rfl of
  exact ⟨c.names, of.names, of.forall₂_associates, of.forall₂_listings⟩

end Columns

/-- In every storage file of an entity of a document the two columns of an association are one just
when the entity runs on into its key as the other entity does, which an entity associated with itself
always does. With the transforms that a registry starts out with, the words of a column are those of
the entity and of its key. -/
theorem association_columns_eq_iff {d : Document} {entities : List Entity}
    (resolved : d.resolve = .ok entities) (inflector : Inflector) {e : Entity} (he : e ∈ entities) :
    EveryFile inflector e (fun associates listings =>
      List.Forall₂ (fun child block => ∃ link, AssociatesThrough inflector e child link block ∧
        (link.ownerColumn = link.childColumn ↔ RunAlike inflector e child) ∧
        (child.name = e.name → link.ownerColumn = link.childColumn)) (childrenOf e) associates ∧
      List.Forall₂ (fun listing block => ∃ table column otherColumn,
        ListsThrough inflector e listing.associated table column otherColumn block ∧
        (column = otherColumn ↔ RunAlike inflector e listing.associated) ∧
        (listing.associated.name = e.name → column = otherColumn)) (listingsOf e) listings) ∧
    ∀ (other : Entity) (key : Field), columnWords .english other key =
      Text.Words.inSmallLetters other.name ++ Text.Words.inSmallLetters key.name := by
  refine ⟨everyFile_of_contents ?_, fun other key => ?_⟩
  · rintro file c rfl of
    refine ⟨forall₂_imp_of_mem ?_ of.forall₂_associates, forall₂_imp_of_mem ?_ of.forall₂_listings⟩
    · intro child member block made
      obtain ⟨link, through, columns⟩ := made.columns of.names
      refine ⟨link, through, columns, fun itself => columns.2 ?_⟩
      obtain ⟨key, -, -, single, -⟩ := made
      exact runAlike_of_alike single <|
        Document.alike_of_name resolved he he (referent_of_mem_childrenOf member) itself
    · intro listing member block made
      obtain ⟨table, column, otherColumn, through, columns⟩ := made.columns of.names
      refine ⟨table, column, otherColumn, through, columns, fun itself => columns.2 ?_⟩
      obtain ⟨key, -, -, single, -⟩ := made
      exact runAlike_of_alike single <|
        Document.alike_of_name resolved he he (referent_of_mem_listingsOf member) itself
  · rw [← Text.Words.split_snake, ← Text.Words.split_snake]
    rfl

theorem association_columns_eq_iff_catalogue :
    catalogue.resolve = .ok [catalogueProduct, catalogueCategory] ∧
    (catalogueOutcome catalogueProduct).1 = .ok () ∧
    ∃ associate listing : String,
      (catalogueOutcome catalogueProduct).2.items.filter isImplementation = [associate, listing] ∧
      (∃ link, AssociatesThrough .english catalogueProduct (catalogued "Category" "name" "cats" [])
        link associate ∧ link.ownerColumn ≠ link.childColumn) ∧
      ∃ table column otherColumn, ListsThrough .english catalogueProduct
        (catalogued "Category" "name" "cats" []) table column otherColumn listing ∧
        column ≠ otherColumn := by
  have resolved : catalogue.resolve = .ok [catalogueProduct, catalogueCategory] := rfl
  have ofProduct : (catalogueOutcome catalogueProduct).1 = .ok () := (emitFile_ok_iff _ _).2
    ⟨by decide, by decide, by decide, by decide, by decide, by decide, by decide⟩
  have apart : ¬ RunAlike .english catalogueProduct (catalogued "Category" "name" "cats" []) :=
    (runAlike_iff rfl rfl).not.2 (by decide +kernel)
  obtain ⟨_, _, _, items, blocks, -, associates, listings⟩ :=
    (association_columns_eq_iff resolved .english List.mem_cons_self).1 _ _ _ rfl ofProduct
  obtain ⟨associate, _, ⟨link, through, columns, -⟩, empty, rfl⟩ :=
    List.forall₂_cons_left_iff.1 associates
  obtain rfl := List.forall₂_nil_left_iff.1 empty
  obtain ⟨listing, _, ⟨table, column, otherColumn, listed, columns', -⟩, empty, rfl⟩ :=
    List.forall₂_cons_left_iff.1 listings
  obtain rfl := List.forall₂_nil_left_iff.1 empty
  exact ⟨resolved, ofProduct, associate, listing, (congrArg _ items).trans blocks,
    ⟨link, through, columns.not.2 apart⟩, table, column, otherColumn, listed, columns'.not.2 apart⟩

/-- An entity that is associated with one whose name runs into its own key, and with itself. -/
def orders : Document where
  interfaces := { module := "model", path := "model_gen.rs" }
  entities := [
    { name := "Order", fields := [⟨"line_id", "String", "key"⟩]
      capabilities := [.associate "OrderLine", .associate "Order",
        .listByAssociatedKey "OrderLine" false] },
    { name := "OrderLine", fields := [⟨"id", "String", "key"⟩] }]

def ordersLine : Entity :=
  ⟨"OrderLine", "OrderLine", [⟨"id", "String", ⟨true⟩⟩], .empty⟩

def ordersShape : Entity :=
  ⟨"Order", "Order", [⟨"line_id", "String", ⟨true⟩⟩], .empty⟩

def ordersOrder : Entity :=
  { ordersShape with
    capabilities := ⟨[.associate ordersLine, .associate ordersShape,
      .listByAssociatedKey ⟨ordersLine, false⟩]⟩ }

def ordersOutcome : Except Failure Unit × SourceFile :=
  ((registry.withInflector .english).emitFile (V := parts) (k := .storageFile)
    { module := "store" }
    { package := "store", interfaceModule := "crate::model", entity := ordersOrder } {}).1

/-- A document resolves and the file of one of its entities is generated, and yet both columns have
one name in the association with the other entity, in that of the entity with itself, and in the
listing. -/
theorem association_columns_coincide :
    orders.resolve = .ok [ordersOrder, ordersLine] ∧ ordersOutcome.1 = .ok () ∧
    ∃ lines itself listing : String,
      ordersOutcome.2.items.filter isImplementation = [lines, itself, listing] ∧
      AssociatesThrough .english ordersOrder ordersLine
        ⟨"order_order_lines", "order_line_id", "order_line_id"⟩ lines ∧
      AssociatesThrough .english ordersOrder ordersShape
        ⟨"order_orders", "order_line_id", "order_line_id"⟩ itself ∧
      ListsThrough .english ordersOrder ordersLine "order_order_lines" "order_line_id"
        "order_line_id" listing := by
  have emitted : ordersOutcome.1 = .ok () := (emitFile_ok_iff _ _).2
    ⟨by decide, by decide, by decide, by decide, by decide, by decide, by decide⟩
  have linked : Link.Joins ⟨"order_order_lines", "order_line_id", "order_line_id"⟩ .english
      ordersOrder ordersLine := Link.joins_of_eq rfl rfl rfl rfl (by decide +kernel)
  have itselfLinked : Link.Joins ⟨"order_orders", "order_line_id", "order_line_id"⟩ .english
      ordersOrder ordersShape := Link.joins_of_eq rfl rfl rfl rfl (by decide +kernel)
  obtain ⟨_, _, _, items, filtered, -, names, named, associates, listings⟩ :=
    everyFile_blocks .english ordersOrder _ _ _ rfl emitted
  obtain ⟨lines, _, associated, rest, rfl⟩ := List.forall₂_cons_left_iff.1 associates
  obtain ⟨itself, _, associatedItself, empty, rfl⟩ := List.forall₂_cons_left_iff.1 rest
  obtain rfl := List.forall₂_nil_left_iff.1 empty
  obtain ⟨listing, _, listed, empty, rfl⟩ := List.forall₂_cons_left_iff.1 listings
  obtain rfl := List.forall₂_nil_left_iff.1 empty
  have through := associated.through linked named
  have throughItself := associatedItself.through itselfLinked named
  have listedThrough := listed.through linked named
  exact ⟨rfl, emitted, lines, itself, listing, (congrArg _ items).trans filtered, through,
    throughItself, listedThrough⟩

end Storage
end Scaffold
