import Scaffold.Rules.Registry
import Scaffold.Storage.Names
import Scaffold.Storage.Plan

/-! The rules for storage scaffolding: a directory with a file for each entity and an index. The
file of an entity holds its internal type, the repository implementation, the parameters of the
constructor and the constructor. The constructor binds the name of its mapping template to a slot,
so that the values of the fields can refer to it. -/

namespace Scaffold.Storage
open Model Code Rules

/-- The slot that holds the name of the mapping template of a constructor. -/
def templateSlot : String := "template"

def namesOf (e : Entity) (inflector : Inflector) : Except Failure Names :=
  (Names.of e inflector).mapError .bag

def build {k : Part} (acc : Fragment) (d : k.Descriptor) : FileScript parts Fragment :=
  FileScript.buildFragment (V := parts) (k := k) acc d

def setHeader? (header? : Option String) : FileScript parts Unit :=
  match header? with
  | some header => FileScript.setHeader header
  | none => pure ()

def directoryBody : DirectoryBody parts .storageDirectory := fun inflector path d => do
  liftM (n := Except Failure) ((d.checkFiles inflector).mapError Failure.model)
  d.entities.forM fun e =>
    Script.emitFileAt (V := parts) (k := .storageFile) (path.join (d.fileName inflector e))
      ⟨d.package, d.interfaceModule, d.header?, e⟩
  if d.generateIndex then
    Script.emitFileAt (V := parts) (k := .storageIndex) (path.join d.indexFile)
      ⟨d.package, d.indexModule, d.header?, d.entities⟩

def runtimeConstructors : List String :=
  ["data::mapping::new_db", "data::mapping::new_context_builder"]

def provideLine (constructor : String) : String :=
  "        .provide(" ++ constructor ++ ")"

def renderIndex (indexModule : String) (constructors : List String) : String :=
  block ("/// index collects the repository constructors of this module\n"
      ++ "pub fn index() -> data::mapping::Module")
    ("    data::mapping::Module::new(" ++ Text.Literal.quoted indexModule ++ ")\n"
      ++ Text.Lines.join (constructors.map provideLine))

def indexBody : FileBody parts .storageIndex := fun inflector d => do
  setHeader? d.header?
  FileScript.use runtimeModule
  let constructors ← liftM (n := Except Failure)
    (d.entities.mapM fun e => (namesOf e inflector).map (·.constructor))
  FileScript.add (renderIndex d.indexModule (runtimeConstructors ++ constructors))

def renderInternal (names : Names) (fields : Fragment) : String :=
  block ("/// " ++ names.internal ++ " is the internal representation of " ++ names.entity
      ++ "\n#[derive(Debug, Clone, Default)]\npub struct " ++ names.internal)
    (fields.render 4 ",")

def renderImplementation (e : Entity) (names : Names) (fields : Fragment) : String :=
  block ("/// " ++ names.implementation ++ " is the implementation of " ++ e.interfaceName
      ++ "\npub struct " ++ names.implementation)
    (fields.render 4 ",")

def renderParameters (e : Entity) (names : Names) (fields : Fragment) : String :=
  let head := "/// " ++ names.parameters ++ " are the parameters for " ++ e.interfaceName
    ++ "\npub struct " ++ names.parameters
  if fields.isEmpty then emptyBlock head else block head (fields.render 4 ",")

/-- The constructor of an entity; its argument is named as unused when there are no parameters. -/
def renderConstructor (e : Entity) (names : Names) (parameters statements values : Fragment) :
    String :=
  block ("/// " ++ names.constructor ++ " creates a new " ++ e.interfaceName ++ "\npub fn "
      ++ names.constructor ++ "(" ++ (if parameters.isEmpty then "_params" else "params") ++ ": "
      ++ names.parameters ++ ") -> " ++ names.implementation)
    (statements.render 4 "" ++ "\n    " ++ names.implementation ++ " \x7b\n"
      ++ values.render 8 "," ++ "\n    \x7d")

def templateField (e : Entity) (names : Names) : String :=
  "pub template: data::mapping::MappingTemplate<" ++ e.typePath ++ ", " ++ names.internal ++ ">"

def fileBody : FileBody parts .storageFile := fun inflector file => do
  let e := file.entity
  let names ← namesOf e inflector
  setHeader? file.header?
  FileScript.use runtimeModule
  let leading ← build (k := .leadingFields) .empty ⟨e⟩
  let further ← build (k := .internalFields) .empty ⟨e⟩
  FileScript.add (renderInternal names (leading.append further))
  FileScript.emitFile (V := parts) (k := .internalFunctions) ⟨e⟩
  let fields ← build (k := .implementationFields) (Fragment.empty.push (templateField e names))
    ⟨e, file.interfaceModule⟩
  FileScript.add (renderImplementation e names fields)
  let parameters ← build (k := .parameterFields) .empty ⟨e, file.interfaceModule⟩
  FileScript.add (renderParameters e names parameters)
  let statements ← build (k := .constructorBody) .empty ⟨e⟩
  let values ← build (k := .fieldValues) (.inheriting statements) ⟨e, file.interfaceModule⟩
  FileScript.add (renderConstructor e names parameters statements values)

def leadingFieldsBody : FragmentBody parts .leadingFields := fun _ acc part =>
  return acc.push ("pub inner: " ++ part.entity.typePath)

def templateStatement (parameters : Fragment) : String :=
  "let " ++ templateSlot
    ++ " = data::mapping::MappingTemplate::new(data::mapping::MappingTemplateParams \x7b\n"
    ++ parameters.render 4 "," ++ "\n\x7d);"

/-- The parameters of a mapping template; `filled` tells that the internal type has fields of its
own. -/
def templateParameters (e : Entity) (names : Names) (filled : Bool) : Fragment :=
  let lead := match names.contextScope? with
    | some scope => Fragment.empty.push ("context_scope: Some(" ++ scope ++ ")")
    | none => .empty
  ((lead.push ("table: " ++ Text.Literal.quoted names.table)).push
    ("to_internal: |m: " ++ e.typePath ++ "| " ++ names.internal ++ " \x7b inner: m"
      ++ (if filled then ", ..Default::default()" else "") ++ " \x7d")).push
    ("from_internal: |m: " ++ names.internal ++ "| m.inner")

def constructorBodyBody : FragmentBody parts .constructorBody := fun inflector acc part => do
  let names ← namesOf part.entity inflector
  let further ← Script.buildFragment (V := parts) (k := .internalFields) .empty ⟨part.entity⟩
  let parameters := templateParameters part.entity names (!further.isEmpty)
  return (acc.push (templateStatement parameters)).bind templateSlot templateSlot

def templateValueBody : FragmentBody parts .fieldValues := fun _ acc _ => do
  let template ← acc.binding templateSlot
  return acc.push ("template: " ++ template ++ ".clone()")

def baseRules : RuleSet parts :=
  ((((((RuleSet.empty.addDirectoryRule Part.storageDirectory.always directoryBody).addFileRule
    Part.storageIndex.always indexBody).addFileRule
    Part.storageFile.always fileBody).addFragmentRule
    Part.leadingFields.always leadingFieldsBody).addFragmentRule
    Part.constructorBody.always constructorBodyBody).addFragmentRule
    Part.fieldValues.always templateValueBody)

end Scaffold.Storage
