import Scaffold.Proofs.Generation.Runs
import Scaffold.Proofs.Interface.Declarations
import Scaffold.Proofs.Storage.Constructors

/-! Key types across the files of a document. The interface file declares the structs of composite
keys, and its traits use them unqualified. A storage file stands in another module: the key in the
type of its template for stored operations is the one that the trait uses, qualified by the path of
the interface module if it is composite and there is such a path. -/

namespace Scaffold

namespace Storage
open Model Code Rules

def mappingTemplateField (e : Entity) : String :=
  "pub template: data::mapping::MappingTemplate<" ++ e.typePath ++ ", " ++ e.internalName ++ ">"

def crudTemplateField (e : Entity) (key : String) : String :=
  "pub crud_template: data::mapping::CrudTemplate<" ++ e.typePath ++ ", " ++ e.internalName ++ ", "
    ++ key ++ ">"

section Fields
variable {answers : Answers parts} {inflector : Inflector} {slots : Fragment} {part : LinkedPart}
  {lines : List String} {operations : OperationSet}

theorem hasOperations_of_single {e : Entity}
    (stored : e.capabilities.getAll Capability.crudType = [operations])
    (nonempty : operations.isEmpty = false) : hasOperations e = .ok true := by
  have found := (Bag.get_eq_ok_iff _ _ (some operations)).2 stored
  simp only [hasOperations, found, nonempty, Bool.not_false]

theorem crud_lines (stored : part.entity.capabilities.getAll Capability.crudType = [operations])
    (nonempty : operations.isEmpty = false)
    (added : Rule.lines (V := parts) answers inflector slots part
      ⟨fieldsOf Capability.crudType, crudFieldBody⟩ = .ok lines) :
    ∃ key, keyOf part.entity part.interfaceModule = .ok key ∧
      lines = [crudTemplateField part.entity key] := by
  have marked : part.entity.has Capability.crudType := by
    rw [Entity.has, Bag.has_iff, stored]
    exact List.cons_ne_nil _ _
  obtain ⟨built, made, rfl⟩ := exists_of_lines added marked
  change (crudFieldBody inflector (.inheriting slots) part).value answers = _ at made
  simp only [crudFieldBody, Script.value_bind, Script.value_lift, Script.value_ite,
    Script.value_pure] at made
  -- There are operations, so the rule goes on to the names and the key.
  obtain ⟨filled, asked, made⟩ := bind_eq_ok.1 made
  obtain rfl := Except.ok.inj ((hasOperations_of_single stored nonempty).symm.trans asked)
  obtain ⟨names, named, made⟩ := bind_eq_ok.1 made
  obtain ⟨key, keyed, made⟩ := bind_eq_ok.1 made
  obtain rfl := Except.ok.inj made
  obtain ⟨_, _, rfl⟩ := exists_of_namesOf named
  exact ⟨key, keyed, rfl⟩

theorem Contents.Of.crudTemplateField {file : StorageFile} {c : Contents}
    (of : c.Of inflector file)
    (stored : file.entity.capabilities.getAll Capability.crudType = [operations])
    (nonempty : operations.isEmpty = false) :
    ∃ key rest, keyOf file.entity file.interfaceModule = .ok key ∧
      c.fields.items =
        mappingTemplateField file.entity :: Storage.crudTemplateField file.entity key :: rest := by
  obtain ⟨pieces, made, fields⟩ :=
    exists_lines_of_answers (k := .implementationFields) (by decide) of.fields
  obtain ⟨lines, others, crud, -, rfl⟩ := List.forall₂_cons_left_iff.1 made
  obtain ⟨key, keyed, rfl⟩ := crud_lines stored nonempty crud
  obtain ⟨_, _, names⟩ := exists_of_namesOf of.names
  refine ⟨key, others.flatten, keyed, ?_⟩
  rw [fields, names]
  rfl

end Fields

end Storage

namespace Generator
open Model Code Rules Settings

end Generator

end Scaffold
