import Scaffold.Inflector
import Scaffold.Model.Entity

/-! The names that storage scaffolding derives from an entity: identifiers of the generated code,
the table that holds the entity, and the tables and columns of its associations. -/

namespace Scaffold.Storage
open Model

structure Names where
  entity : String
  internal : String
  implementation : String
  parameters : String
  constructor : String
  /-- The name of the entity in front of the tables and columns of its associations. -/
  tableLead : String
  table : String
  /-- The expression for the scope of the context, if one is asked for. -/
  contextScope? : Option String
  deriving DecidableEq, Repr

namespace Names

/-- The names of an entity. Storage options may give another table; two of them are a fault. -/
def of (e : Entity) (inflector : Inflector) : Except BagFault Names := do
  let options? ← e.capabilities.get Capability.storageType
  let snake := inflector.snake e.name
  return {
    entity := e.name
    internal := e.internalName
    implementation := e.interfaceName ++ "Impl"
    parameters := e.interfaceName ++ "Params"
    constructor := "new_" ++ snake ++ "_repository"
    tableLead := snake
    table := (options?.bind (·.tableName?)).getD (inflector.plural snake)
    contextScope? := options?.bind (·.contextScope?) }

/-- The table that joins an entity, which owns the association, to a child. -/
def associationTable (owner child : Names) : String :=
  owner.tableLead ++ "_" ++ child.table

/-- The column of an association table that holds the key of an entity. -/
def associationColumn (names : Names) (inflector : Inflector) (keyField : String) : String :=
  names.tableLead ++ "_" ++ inflector.snake keyField

end Names
end Scaffold.Storage
