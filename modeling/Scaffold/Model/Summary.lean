import Scaffold.Model.Document
import Scaffold.Text.Boxed
import Scaffold.Text.Json

/-! Summaries of the entities of a document, as a table and as JSON. The key comes from the resolved
entity and the capabilities from their declarations, so a document that does not resolve has no
summary. -/

namespace Scaffold.Model

structure Summary where
  name : String
  typePath : String
  key : String
  capabilities : List String
  deriving DecidableEq, Repr

namespace Summary

def of (e : Entity) (spec : EntitySpec) : Summary where
  name := e.name
  typePath := e.typePath
  key := e.keyStrategy.describe
  capabilities := spec.capabilities.map CapabilitySpec.describe

def collect (d : Document) : Except Failure (List Summary) := do
  let entities ← d.resolve
  return List.zipWith of entities d.entities

def row (s : Summary) : List String :=
  [s.name, s.typePath, s.key,
    if s.capabilities.isEmpty then "-" else Text.Lines.join s.capabilities]

def table (summaries : List Summary) : String :=
  if summaries.isEmpty then "No entities declared."
  else Text.Boxed.draw ["Entity", "Type", "Key", "Capabilities"] (summaries.map row)

def value (s : Summary) : Text.Json.Value :=
  .object [("name", .text s.name), ("type_path", .text s.typePath), ("key", .text s.key),
    ("capabilities", .list (s.capabilities.map .text))]

def json (summaries : List Summary) : String :=
  Text.Json.render 0 (.list (summaries.map value))

end Summary
end Scaffold.Model
