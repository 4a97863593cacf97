import Scaffold.Inflector
import Scaffold.Parts

/-! The methods of repository traits, as they are declared for each capability. The key of the
entity itself and the keys of entities it refers to stand unqualified: they are declared in the same
file. -/

namespace Scaffold.Interface
open Model

def context : String := "ctx: &data::Context"

def result (value : String) : String :=
  "Result<" ++ value ++ ", data::Error>"

def listOf (type : String) : String :=
  "data::List<" ++ type ++ ">"

def method (name : String) (arguments : List String) (value : String) : String :=
  "fn " ++ name ++ "(" ++ ", ".intercalate ("&self" :: context :: arguments) ++ ") -> " ++
    result value

def operationMethods (e : Entity) : Operation → Except KeyFault (List String)
  | .findByKey => do
    let key ← e.keyCode none
    return [method "find_by_key" ["key: &" ++ key] e.typePath,
      method "exists_by_key" ["key: &" ++ key] "bool"]
  | .listAll => return [method "list_all" ["params: data::ListParams"] (listOf e.typePath)]
  | .create => return [method "create" ["entity: &" ++ e.typePath] "()"]
  | .update => return [method "update" ["entity: &" ++ e.typePath] "()"]
  | .delete => do
    let key ← e.keyCode none
    return [method "delete" ["key: &" ++ key] "()",
      method "delete_entity" ["entity: &" ++ e.typePath] "()"]

def searchMethods (e : Entity) : List String :=
  [method "search" ["criteria: &[data::SearchPredicate]", "params: &data::PageParams"]
      (listOf ("data::SearchResult<" ++ e.typePath ++ ">")),
    method "search_predicates" [] "Vec<data::SearchPredicateDescriptor>"]

def associateMethod (inflector : Inflector) (key : String) (child : Entity) :
    Except KeyFault String := do
  let childKey ← child.keyCode none
  return method ("associate_" ++ inflector.snake (inflector.plural child.name))
    ["key: &" ++ key, "add: &[" ++ childKey ++ "]", "remove: &[" ++ childKey ++ "]"] "()"

def filterKeysMethod (key : String) : String :=
  method "filter_keys" ["keys: &[" ++ key ++ "]"] ("Vec<" ++ key ++ ">")

def listByMethod (inflector : Inflector) (e : Entity) (listing : KeyListing Entity) :
    Except KeyFault String := do
  let key ← listing.associated.keyCode none
  return method ("list_by_" ++ inflector.snake listing.associated.name)
    ["key: &" ++ key, "params: data::ListParams"] (listOf e.typePath)

end Scaffold.Interface
