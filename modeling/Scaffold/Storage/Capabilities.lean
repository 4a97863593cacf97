import Scaffold.Storage.Rules

/-! The rules of the single capabilities for storage scaffolding. A capability adds fields to the
implementation, the values that the constructor gives them, parameters that the values are taken
from, and methods in blocks of their own. -/

namespace Scaffold.Storage
open Model Code Rules

def fieldsOf {α : Type} (T : MarkerType (Capability Entity) α) : Key parts .implementationFields :=
  Part.implementationFields.when fun part => part.entity.has T

def valuesOf {α : Type} (T : MarkerType (Capability Entity) α) : Key parts .fieldValues :=
  Part.fieldValues.when fun part => part.entity.has T

def parametersOf {α : Type} (T : MarkerType (Capability Entity) α) : Key parts .parameterFields :=
  Part.parameterFields.when fun part => part.entity.has T

def fileOf {α : Type} (T : MarkerType (Capability Entity) α) : Key parts .storageFile :=
  Part.storageFile.when fun file => file.entity.has T

def templateValue (field template options : String) (entries : Fragment) : String :=
  field ++ ": data::mapping::" ++ template ++ "::new(data::mapping::" ++ options ++ " \x7b\n"
    ++ entries.render 4 "," ++ "\n\x7d)"

def templateOption (template : String) : String :=
  "template: " ++ template ++ ".clone()"

def keyOf (e : Entity) (qualifier : String) : Except Failure String :=
  (e.keyCode (some qualifier)).mapError .key

def singleKeyOf (e : Entity) (rule : String) : Except Failure Field :=
  (e.singleKey rule).mapError .key

/-! ## Stored operations -/

/-- Whether the entity has a set of stored operations that is not empty. -/
def hasOperations (e : Entity) : Except Failure Bool :=
  match e.capabilities.get Capability.crudType with
  | .error fault => .error (.bag fault)
  | .ok none => .ok false
  | .ok (some operations) => .ok (!operations.isEmpty)

def crudFieldBody : FragmentBody parts .implementationFields := fun inflector acc part => do
  let e := part.entity
  if ← hasOperations e then
    let names ← namesOf e inflector
    let key ← keyOf e part.interfaceModule
    return acc.push ("pub crud_template: data::mapping::CrudTemplate<" ++ e.typePath ++ ", "
      ++ names.internal ++ ", " ++ key ++ ">")
  else return acc

/-- The column that finds an entity by its key: one column cannot stand for a composite key. -/
def findColumn (e : Entity) (names : Names) (inflector : Inflector) : String :=
  match e.singleKey "Crud" with
  | .ok field =>
    "Some(" ++ Text.Literal.quoted (names.table ++ "." ++ inflector.snake field.name) ++ ")"
  | .error _ => "None"

def crudValueBody : FragmentBody parts .fieldValues := fun inflector acc part => do
  let e := part.entity
  if ← hasOperations e then
    let names ← namesOf e inflector
    let template ← acc.binding templateSlot
    let further ← Script.buildFragment (V := parts) (k := .crudOptions) .empty ⟨e⟩
    let options := ((Fragment.empty.push (templateOption template)).append further).push
      ("find_column: " ++ findColumn e names inflector)
    return acc.push (templateValue "crud_template" "CrudTemplate" "CrudTemplateOptions" options)
  else return acc

def crudRules : RuleSet parts :=
  (RuleSet.empty.addFragmentRule (fieldsOf Capability.crudType) crudFieldBody).addFragmentRule
    (valuesOf Capability.crudType) crudValueBody

/-! ## Search -/

def renderPredicate (p : SearchPredicate) : String :=
  "    data::SearchPredicateDescriptor::new(" ++ Text.Literal.quoted p.name ++ ", "
    ++ Text.Literal.quoted p.label ++ ", &["
    ++ ", ".intercalate (p.operators.map Text.Literal.quoted) ++ "]),"

def renderPredicates : Option (List SearchPredicate) → String
  | none => "Vec::new()"
  | some [] => "Vec::new()"
  | some predicates => "vec![\n" ++ Text.Lines.join (predicates.map renderPredicate) ++ "\n]"

def searchFieldBody : FragmentBody parts .implementationFields := fun inflector acc part => do
  let names ← namesOf part.entity inflector
  return acc.push ("pub search_template: data::mapping::SearchTemplate<" ++ part.entity.typePath
    ++ ", " ++ names.internal ++ ">")

def searchValueBody : FragmentBody parts .fieldValues := fun _ acc part => do
  let template ← acc.binding templateSlot
  let predicates? ← liftM (n := Except Failure)
    (part.entity.capabilities.get Capability.searchPredicatesType)
  let options := (Fragment.empty.push (templateOption template)).push
    ("search_predicates: " ++ renderPredicates predicates?)
  return acc.push (templateValue "search_template" "SearchTemplate" "SearchTemplateParams" options)

def searchRules : RuleSet parts :=
  (RuleSet.empty.addFragmentRule (fieldsOf Capability.searchType) searchFieldBody).addFragmentRule
    (valuesOf Capability.searchType) searchValueBody

/-! ## Associations -/

def repositoryField (inflector : Inflector) (child : Entity) : String :=
  inflector.snake child.name ++ "_repository"

def repositoryDeclaration (inflector : Inflector) (interfaceModule : String) (child : Entity) :
    String :=
  "pub " ++ repositoryField inflector child ++ ": std::sync::Arc<dyn "
    ++ qualify interfaceModule child.interfaceName ++ ">"

def repositoryValue (inflector : Inflector) (child : Entity) : String :=
  repositoryField inflector child ++ ": params." ++ repositoryField inflector child

def childrenOf (e : Entity) : List Entity :=
  e.capabilities.getAll Capability.associateType

def associateFieldBody : FragmentBody parts .implementationFields := fun inflector acc part =>
  return acc.extend
    ((childrenOf part.entity).map (repositoryDeclaration inflector part.interfaceModule))

def associateValueBody : FragmentBody parts .fieldValues := fun inflector acc part =>
  return acc.extend ((childrenOf part.entity).map (repositoryValue inflector))

def associateParameterBody : FragmentBody parts .parameterFields := fun inflector acc part =>
  return acc.extend
    ((childrenOf part.entity).map (repositoryDeclaration inflector part.interfaceModule))

def associateParameters (inflector : Inflector) (parent child : Names) (parentKey childKey : String)
    (childRepository : String) : Fragment :=
  Fragment.empty.extend [
    "association_table: " ++ Text.Literal.quoted (parent.associationTable child),
    "parent_column_name: " ++ Text.Literal.quoted (parent.associationColumn inflector parentKey),
    "child_column_name: " ++ Text.Literal.quoted (child.associationColumn inflector childKey),
    "parent_key: key",
    "add",
    "remove",
    "parent_repository: self",
    "child_repository: self." ++ childRepository ++ ".as_ref()"]

def renderAssociate (implementation method key childKey : String) (parameters : Fragment) :
    String :=
  block ("impl " ++ implementation)
    ("    pub fn associate_" ++ method ++ "(&self, ctx: &data::Context, key: &" ++ key
      ++ ", add: &[" ++ childKey ++ "], remove: &[" ++ childKey
      ++ "]) -> Result<(), data::Error> \x7b\n"
      ++ "        data::mapping::associate(ctx, data::mapping::AssociateParams \x7b\n"
      ++ parameters.render 12 "," ++ "\n        \x7d)\n    \x7d")

def associateMethod (inflector : Inflector) (interfaceModule : String) (names : Names)
    (keyField : Field) (key : String) (child : Entity) : Except Failure String := do
  let childNames ← namesOf child inflector
  let childKeyField ← singleKeyOf child "Associate"
  let childKey ← keyOf child interfaceModule
  return renderAssociate names.implementation (inflector.snake (inflector.plural child.name)) key
    childKey (associateParameters inflector names childNames keyField.name childKeyField.name
      (repositoryField inflector child))

def associateFileBody : FileBody parts .storageFile := fun inflector file => do
  let names ← namesOf file.entity inflector
  let keyField ← singleKeyOf file.entity "Associate"
  let key ← keyOf file.entity file.interfaceModule
  (childrenOf file.entity).forM fun child => do
    let declared ← associateMethod inflector file.interfaceModule names keyField key child
    FileScript.add declared

def associateRules : RuleSet parts :=
  (((RuleSet.empty.addFragmentRule (fieldsOf Capability.associateType)
    associateFieldBody).addFragmentRule (valuesOf Capability.associateType)
    associateValueBody).addFragmentRule (parametersOf Capability.associateType)
    associateParameterBody).addFileRule (fileOf Capability.associateType) associateFileBody

/-! ## Filtered keys -/

def filterKeysFieldBody : FragmentBody parts .implementationFields := fun inflector acc part => do
  let names ← namesOf part.entity inflector
  let key ← keyOf part.entity part.interfaceModule
  return acc.push ("pub filter_keys_template: data::mapping::FilterKeysTemplate<"
    ++ part.entity.typePath ++ ", " ++ names.internal ++ ", " ++ key ++ ">")

def filterKeysValueBody : FragmentBody parts .fieldValues := fun inflector acc part => do
  let keyField ← singleKeyOf part.entity "FilterKeys"
  let template ← acc.binding templateSlot
  let options := (Fragment.empty.push (templateOption template)).push
    ("find_column: " ++ Text.Literal.quoted (inflector.snake keyField.name))
  return acc.push (templateValue "filter_keys_template" "FilterKeysTemplate"
    "FilterKeysTemplateOptions" options)

def filterKeysRules : RuleSet parts :=
  (RuleSet.empty.addFragmentRule (fieldsOf Capability.filterKeysType)
    filterKeysFieldBody).addFragmentRule (valuesOf Capability.filterKeysType) filterKeysValueBody

/-! ## Listing by an associated key -/

/-- The table that joins an entity to the one whose key it is listed by. -/
def listingTable (names other : Names) (reversed : Bool) : String :=
  if reversed then other.associationTable names else names.associationTable other

def joinClause (inflector : Inflector) (table : String) (names : Names) (keyField : String) :
    String :=
  "INNER JOIN " ++ table ++ " ON " ++ table ++ "." ++ names.associationColumn inflector keyField
    ++ " = " ++ names.table ++ "." ++ inflector.snake keyField

def filterClause (inflector : Inflector) (table : String) (other : Names) (keyField : String) :
    String :=
  table ++ "." ++ other.associationColumn inflector keyField ++ " = ?"

def renderListBy (implementation method key typePath join filter : String) : String :=
  block ("impl " ++ implementation)
    ("    pub fn list_by_" ++ method ++ "(&self, ctx: &data::Context, key: &" ++ key
      ++ ", params: data::ListParams) -> Result<data::List<" ++ typePath
      ++ ">, data::Error> \x7b\n"
      ++ "        self.template.do_list(ctx, |query| query.join(" ++ Text.Literal.quoted join
      ++ ").filter(" ++ Text.Literal.quoted filter ++ ", key), params)\n    \x7d")

def listByMethod (inflector : Inflector) (interfaceModule : String) (e : Entity) (names : Names)
    (keyField : Field) (listing : KeyListing Entity) : Except Failure String := do
  let other := listing.associated
  let otherNames ← namesOf other inflector
  let otherKeyField ← singleKeyOf other "ListByAssociatedKey"
  let key ← keyOf other interfaceModule
  let table := listingTable names otherNames listing.reversed
  return renderListBy names.implementation (inflector.snake other.name) key e.typePath
    (joinClause inflector table names keyField.name)
    (filterClause inflector table otherNames otherKeyField.name)

def listByAssociatedKeyFileBody : FileBody parts .storageFile := fun inflector file => do
  let e := file.entity
  let names ← namesOf e inflector
  let keyField ← singleKeyOf e "ListByAssociatedKey"
  (e.capabilities.getAll Capability.listByAssociatedKeyType).forM fun listing => do
    let declared ← listByMethod inflector file.interfaceModule e names keyField listing
    FileScript.add declared

def listByAssociatedKeyRules : RuleSet parts :=
  RuleSet.empty.addFileRule (fileOf Capability.listByAssociatedKeyType) listByAssociatedKeyFileBody

/-- The base rules and those of every capability, in the order in which they are merged. -/
def ruleSets : List (RuleSet parts) :=
  [baseRules, crudRules, searchRules, associateRules, filterKeysRules, listByAssociatedKeyRules]

def registry : Registry parts :=
  .ofSets ruleSets

end Scaffold.Storage
