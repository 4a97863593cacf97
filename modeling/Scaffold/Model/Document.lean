import Scaffold.Model.Entity

/-! Model documents: where generated code goes, and the entities to generate it for. A capability
that points at another entity names it. Resolving a document builds every entity, the names replaced
by the shapes of the entities they name; a shape keeps the storage options and no other capability.
-/

namespace Scaffold.Model

structure InterfaceSection where
  module : String
  path : String
  modulePath? : Option String := none
  deriving DecidableEq, Repr

/-- The path by which other modules reach the traits. -/
def InterfaceSection.modulePath (s : InterfaceSection) : String :=
  s.modulePath?.getD ("crate::" ++ s.module)

structure StorageSection where
  module : String
  path : String
  generateIndex : Bool := true
  indexModule? : Option String := none
  deriving DecidableEq, Repr

def StorageSection.indexModule (s : StorageSection) : String :=
  s.indexModule?.getD s.module

structure FieldSpec where
  name : String
  type : String
  tags : String := ""
  deriving DecidableEq, Repr

def FieldSpec.field (s : FieldSpec) : Field :=
  ⟨s.name, s.type, .parse s.tags⟩

inductive CapabilitySpec
  /-- Stored operations in the order of their declaration, or all of them. -/
  | crud (operations? : Option (List Operation))
  | search
  | associate (child : String)
  | filterKeys
  | listByAssociatedKey (associated : String) (reversed : Bool)
  | storage (options : StorageOptions)
  | searchPredicates (predicates : List SearchPredicate)
  deriving DecidableEq, Repr

namespace CapabilitySpec

def describe : CapabilitySpec → String
  | crud none => "crud"
  | crud (some ops) => "crud(" ++ ", ".intercalate (ops.map Operation.name) ++ ")"
  | search => "search"
  | associate child => "associate(" ++ child ++ ")"
  | filterKeys => "filter_keys"
  | listByAssociatedKey associated false => "list_by_associated_key(" ++ associated ++ ")"
  | listByAssociatedKey associated true => "list_by_associated_key(" ++ associated ++ ", reversed)"
  | storage options =>
    match options.tableName? with
    | some table => "mapping(table = " ++ table ++ ")"
    | none => "mapping"
  | searchPredicates predicates => "search_predicates(" ++ toString predicates.length ++ ")"

def target? : CapabilitySpec → Option String
  | associate child => some child
  | listByAssociatedKey associated _ => some associated
  | _ => none

def storage? : CapabilitySpec → Option StorageOptions
  | storage options => some options
  | _ => none

def shapeOf (owner : String) (shapes : List (String × Entity)) (name : String) :
    Except Failure Entity :=
  match shapes.lookup name with
  | some shape => .ok shape
  | none => .error (.model (.unknownEntity owner name))

def resolve (owner : String) (shapes : List (String × Entity)) :
    CapabilitySpec → Except Failure (Capability Entity)
  | crud operations? => .ok (.crud ((operations?.map OperationSet.ofList).getD .full))
  | search => .ok .search
  | associate child => (shapeOf owner shapes child).map .associate
  | filterKeys => .ok .filterKeys
  | listByAssociatedKey associated reversed =>
    (shapeOf owner shapes associated).map fun shape => .listByAssociatedKey ⟨shape, reversed⟩
  | storage options => .ok (.storage options)
  | searchPredicates predicates => .ok (.searchPredicates predicates)

end CapabilitySpec

structure EntitySpec where
  name : String
  typePath : String := ""
  fields : List FieldSpec := []
  capabilities : List CapabilitySpec := []
  deriving DecidableEq, Repr

namespace EntitySpec

def build (s : EntitySpec) (capabilities : List (Capability Entity)) : Except Failure Entity :=
  Entity.build s.name s.typePath (s.fields.map FieldSpec.field) (.ofList capabilities)

/-- The entity as others refer to it. -/
def shape (s : EntitySpec) : Except Failure Entity :=
  s.build ((s.capabilities.filterMap CapabilitySpec.storage?).map .storage)

def resolve (shapes : List (String × Entity)) (s : EntitySpec) : Except Failure Entity := do
  let capabilities ← s.capabilities.mapM (CapabilitySpec.resolve s.name shapes)
  s.build capabilities

end EntitySpec

structure Document where
  interfaces : InterfaceSection
  storage? : Option StorageSection := none
  entities : List EntitySpec := []
  deriving DecidableEq, Repr

namespace Document

/-- The shapes of entities after those already collected. A shape is built before its name is found
to be taken. -/
def collectShapes (shapes : List (String × Entity)) :
    List EntitySpec → Except Failure (List (String × Entity))
  | [] => .ok shapes
  | spec :: rest =>
    match spec.shape with
    | .error e => .error e
    | .ok shape =>
      if (shapes.lookup spec.name).isSome then .error (.model (.repeatedEntity spec.name))
      else collectShapes (shapes ++ [(spec.name, shape)]) rest

def resolve (d : Document) : Except Failure (List Entity) := do
  let shapes ← collectShapes [] d.entities
  d.entities.mapM (EntitySpec.resolve shapes)

end Document
end Scaffold.Model
