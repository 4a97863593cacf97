import Scaffold.Files.FileTree
import Scaffold.Model.Document
import Scaffold.Toml.Reader
import Scaffold.Toml.Record

/-! Reading model documents from TOML. Types are strict and unknown keys are passed over. The kind
of a capability selects the record that its other fields form. -/

namespace Scaffold.Model
open Toml Record

def InterfaceSection.ofValue? (v : Value) : Option InterfaceSection := do
  let [module, path, modulePath] ← read? ⟨[["module"], ["path"], ["module_path"]], false⟩ v | none
  return ⟨← needed text? module, ← needed text? path, ← optional text? modulePath⟩

def StorageSection.ofValue? (v : Value) : Option StorageSection := do
  let [module, path, generateIndex, indexModule] ←
    read? ⟨[["module"], ["path"], ["generate_index"], ["index_module"]], false⟩ v | none
  return ⟨← needed text? module, ← needed text? path, ← given flag? true generateIndex,
    ← optional text? indexModule⟩

def FieldSpec.ofValue? (v : Value) : Option FieldSpec := do
  let [name, type, tags] ← read? ⟨[["name"], ["ty", "type"], ["tags"]], false⟩ v | none
  return ⟨← needed text? name, ← needed text? type, ← given text? "" tags⟩

/-- An operation is its name, or a table with the name over an empty table. -/
def Operation.ofValue? : Value → Option Operation
  | .text name => Operation.ofName? name
  | .table [(name, .table [])] => Operation.ofName? name
  | _ => none

def SearchPredicate.ofValue? (v : Value) : Option SearchPredicate := do
  let [name, label, operators] ← read? ⟨[["name"], ["label"], ["operators"]], true⟩ v | none
  return ⟨← needed text? name, ← needed text? label, ← given (list? text?) [] operators⟩

namespace CapabilitySpec

/-- The kind of a capability and the record of its other fields. -/
def kindOf? : Value → Option (String × Value)
  | .table fields =>
    match field? "kind" fields with
    | some (.text kind) => some (kind, .table (fields.filter (·.1 != "kind")))
    | _ => none
  | .list (.text kind :: rest) => some (kind, .list rest)
  | _ => none

def crudOf? (v : Value) : Option CapabilitySpec := do
  let [operations] ← read? ⟨[["operations"]], true⟩ v | none
  return .crud (← optional (list? Operation.ofValue?) operations)

def associateOf? (v : Value) : Option CapabilitySpec := do
  let [child] ← read? ⟨[["child"]], true⟩ v | none
  return .associate (← needed text? child)

def listByAssociatedKeyOf? (v : Value) : Option CapabilitySpec := do
  let [associated, reversed] ← read? ⟨[["associated"], ["reversed"]], true⟩ v | none
  return .listByAssociatedKey (← needed text? associated) (← given flag? false reversed)

def storageOf? (v : Value) : Option CapabilitySpec := do
  let [tableName, contextScope] ← read? ⟨[["table_name"], ["context_scope"]], true⟩ v | none
  return .storage ⟨← optional text? tableName, ← optional text? contextScope⟩

def searchPredicatesOf? (v : Value) : Option CapabilitySpec := do
  let [predicates] ← read? ⟨[["predicates"]], true⟩ v | none
  return .searchPredicates (← needed (list? SearchPredicate.ofValue?) predicates)

def plainOf? (spec : CapabilitySpec) (v : Value) : Option CapabilitySpec :=
  (read? ⟨[], true⟩ v).map fun _ => spec

def ofKind? (kind : String) (v : Value) : Option CapabilitySpec :=
  if kind == "crud" then crudOf? v
  else if kind == "search" then plainOf? .search v
  else if kind == "associate" then associateOf? v
  else if kind == "filter_keys" then plainOf? .filterKeys v
  else if kind == "list_by_associated_key" then listByAssociatedKeyOf? v
  else if kind == "mapping" then storageOf? v
  else if kind == "search_predicates" then searchPredicatesOf? v
  else none

def ofValue? (v : Value) : Option CapabilitySpec := do
  let (kind, fields) ← kindOf? v
  ofKind? kind fields

end CapabilitySpec

def EntitySpec.ofValue? (v : Value) : Option EntitySpec := do
  let [name, typePath, fields, capabilities] ←
    read? ⟨[["name"], ["type_path"], ["fields"], ["capabilities"]], false⟩ v | none
  return ⟨← needed text? name, ← given text? "" typePath,
    ← given (list? FieldSpec.ofValue?) [] fields,
    ← given (list? CapabilitySpec.ofValue?) [] capabilities⟩

namespace Document

def ofValue? (v : Value) : Option Document := do
  let [interfaces, storage, entities] ←
    read? ⟨[["interfaces"], ["mapping"], ["entities"]], false⟩ v | none
  return ⟨← needed InterfaceSection.ofValue? interfaces,
    ← optional StorageSection.ofValue? storage,
    ← given (list? EntitySpec.ofValue?) [] entities⟩

def read (text : String) : Except Failure Document :=
  match (Toml.read? text).bind fun fields => ofValue? (.table fields) with
  | some d => .ok d
  | none => .error (.model .unreadable)

def load (files : Files.FileTree) (path : Path) : Except Failure Document :=
  match files.readText path with
  | .error fault => .error (.file path fault)
  | .ok text => read text

end Document
end Scaffold.Model
