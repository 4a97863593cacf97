import Scaffold.Interface.Methods
import Scaffold.Rules.Registry

/-! The rules for repository interfaces: one file with a trait for every entity, the trait's methods
folded over the capabilities of the entity, and the declaration of a composite key before the trait
that uses it. -/

namespace Scaffold.Interface
open Model Code Rules

def renderTrait (e : Entity) (methods : Fragment) : String :=
  let name := e.interfaceName
  let head := "/// " ++ name ++ " is a repository for the type " ++ e.name
    ++ "\npub trait " ++ name ++ ": Send + Sync"
  if methods.isEmpty then emptyBlock head else block head (methods.render 4 ";")

def addEntity (e : Entity) : FileScript parts Unit := do
  match e.keyDeclaration? with
  | some declaration => FileScript.add declaration
  | none => pure ()
  let methods ← FileScript.buildFragment (V := parts) (k := .interfaceMethods) .empty ⟨e⟩
  FileScript.add (renderTrait e methods)

def interfaceFileBody : FileBody parts .interfaceFile := fun _ file => do
  match file.header? with
  | some header => FileScript.setHeader header
  | none => pure ()
  FileScript.use runtimeModule
  file.entities.forM addEntity

def crudBody : FragmentBody parts .interfaceMethods := fun _ acc part => do
  let operations ← liftM (n := Except Failure)
    (part.entity.capabilities.require Capability.crudType part.entity.name)
  operations.toList.foldlM (fun acc op => do
    let methods ← liftM (n := Except Failure) (operationMethods part.entity op)
    return acc.extend methods) acc

def searchBody : FragmentBody parts .interfaceMethods := fun _ acc part =>
  return acc.extend (searchMethods part.entity)

def associateBody : FragmentBody parts .interfaceMethods := fun inflector acc part => do
  let key ← liftM (n := Except Failure) (part.entity.keyCode none)
  (part.entity.capabilities.getAll Capability.associateType).foldlM (fun acc child => do
    let declared ← liftM (n := Except Failure) (associateMethod inflector key child)
    return acc.push declared) acc

def filterKeysBody : FragmentBody parts .interfaceMethods := fun _ acc part => do
  let key ← liftM (n := Except Failure) (part.entity.keyCode none)
  return acc.push (filterKeysMethod key)

def listByAssociatedKeyBody : FragmentBody parts .interfaceMethods := fun inflector acc part =>
  (part.entity.capabilities.getAll Capability.listByAssociatedKeyType).foldlM (fun acc listing => do
    let declared ← liftM (n := Except Failure) (listByMethod inflector part.entity listing)
    return acc.push declared) acc

def carrying {α : Type} (T : MarkerType (Capability Entity) α) : Key parts .interfaceMethods :=
  Part.interfaceMethods.when fun part => part.entity.has T

def baseRules : RuleSet parts :=
  RuleSet.empty.addFileRule Part.interfaceFile.always interfaceFileBody

def crudRules : RuleSet parts :=
  RuleSet.empty.addFragmentRule (carrying Capability.crudType) crudBody

def searchRules : RuleSet parts :=
  RuleSet.empty.addFragmentRule (carrying Capability.searchType) searchBody

def associateRules : RuleSet parts :=
  RuleSet.empty.addFragmentRule (carrying Capability.associateType) associateBody

def filterKeysRules : RuleSet parts :=
  RuleSet.empty.addFragmentRule (carrying Capability.filterKeysType) filterKeysBody

def listByAssociatedKeyRules : RuleSet parts :=
  RuleSet.empty.addFragmentRule (carrying Capability.listByAssociatedKeyType)
    listByAssociatedKeyBody

/-- The base rules and those of every capability, in the order in which they are merged. -/
def ruleSets : List (RuleSet parts) :=
  [baseRules, crudRules, searchRules, associateRules, filterKeysRules, listByAssociatedKeyRules]

def registry : Registry parts :=
  .ofSets ruleSets

end Scaffold.Interface
