import Scaffold.Proofs.Interface.Markers
import Scaffold.Proofs.Storage.Markers

/-! The order of capabilities of different types does not matter. Both packages look at a bag only
through its answers, which a rearrangement leaves as they are; so the methods of the trait and the
storage file of an entity are the same, and where one of them fails the same failure comes first. -/

namespace Scaffold.Generator
open Model Code Rules

/-- Rearranging the capabilities of an entity, among which each known type keeps its order, changes
neither what the interface package makes of its methods nor what the storage package makes of its
file, failures included. -/
theorem rearranged_capabilities_same_code (inflector : Inflector) (e : Entity)
    {bag : Bag (Capability Entity)} (rearranged : Rearranged e.capabilities bag) :
    (∀ (acc : Fragment) (w : World),
      (Interface.registry.withInflector inflector).buildFragment (V := parts)
          (k := .interfaceMethods) acc ⟨e.withCapabilities bag⟩ w =
        (Interface.registry.withInflector inflector).buildFragment (V := parts)
          (k := .interfaceMethods) acc ⟨e⟩ w) ∧
    ∀ (file : StorageFile) (source : SourceFile) (w : World), file.entity = e →
      (Storage.registry.withInflector inflector).emitFile (V := parts) (k := .storageFile) source
          { file with entity := e.withCapabilities bag } w =
        (Storage.registry.withInflector inflector).emitFile (V := parts) (k := .storageFile) source
          file w := by
  have same := rearranged.sameAnswers
  constructor
  · intro acc w
    rw [← Interface.buildFragment_congr same e acc w, e.withCapabilities_self]
  · rintro file source w rfl
    rw [← Storage.emitFile_congr inflector same file source w, file.entity.withCapabilities_self]

/-- A product without a key that has capabilities. -/
def shelved (capabilities : List (Capability Entity)) : Entity :=
  ⟨"Product", "Product", [⟨"sku", "String", {}⟩], ⟨capabilities⟩⟩

def shelvedInOrder : List (Capability Entity) :=
  [.crud (.ofList [.create, .findByKey]), .search, .foreign "tests::Audited" "",
    .searchPredicates [], .searchPredicates [⟨"sku", "Sku", []⟩]]

def shelvedMixed : List (Capability Entity) :=
  [.searchPredicates [], .search, .searchPredicates [⟨"sku", "Sku", []⟩],
    .crud (.ofList [.findByKey, .create, .findByKey]), .foreign "tests::Seasonal" "summer"]

def shelvedOutcome (capabilities : List (Capability Entity)) : Except Failure Unit × SourceFile :=
  ((Storage.registry.withInflector .english).emitFile (V := parts) (k := .storageFile)
    { module := "store" } ⟨"store", "crate::model", none, shelved capabilities⟩ {}).1

/-- The product wants a key and has its search predicates twice; the key is missed first, in
whatever order its capabilities come. -/
theorem rearranged_capabilities_same_code_shelved :
    Rearranged ⟨shelvedInOrder⟩ ⟨shelvedMixed⟩ ∧
    (shelvedOutcome shelvedInOrder).1 = .error (.key (.noKeyFields "Product")) ∧
    shelvedOutcome shelvedMixed = shelvedOutcome shelvedInOrder := by
  have rearranged : Rearranged ⟨shelvedInOrder⟩ ⟨shelvedMixed⟩ := by
    rintro (_ | _ | _ | _ | _ | _ | _)
    · exact .cons (.operations fun op => by cases op <;> decide) .nil
    all_goals exact List.forall₂_same.2 fun m _ => .itself m
  have same := (rearranged_capabilities_same_code .english (shelved shelvedInOrder) rearranged).2
    ⟨"store", "crate::model", none, shelved shelvedInOrder⟩ { module := "store" } {} rfl
  exact ⟨rearranged, rfl, congrArg Prod.fst same⟩

end Scaffold.Generator
