import Scaffold.Model.Entity
import Scaffold.Rules.Registry

/-! The parts of the generated code. Each part is a kind of descriptor of its own, so that rules can
contribute to it for the entities they choose. -/

namespace Scaffold
open Model Rules

/-- The file with the repository trait of every entity. -/
structure InterfaceFile where
  package : String
  header? : Option String := none
  entities : List Entity

/-- The directory with the storage scaffolding of every entity. -/
structure StorageDirectory where
  package : String
  interfaceModule : String
  generateIndex : Bool
  indexModule : String
  fileSuffix : String
  indexFile : String
  header? : Option String := none
  entities : List Entity

/-- The file that lists every generated constructor. -/
structure StorageIndex where
  package : String
  indexModule : String
  header? : Option String := none
  entities : List Entity

/-- The file with the storage scaffolding of one entity. -/
structure StorageFile where
  package : String
  interfaceModule : String
  header? : Option String := none
  entity : Entity

structure EntityPart where
  entity : Entity

structure LinkedPart where
  entity : Entity
  interfaceModule : String

inductive Part
  | interfaceFile
  /-- The methods of the repository trait of an entity. -/
  | interfaceMethods
  | storageDirectory
  | storageIndex
  | storageFile
  /-- The fields that the internal type starts with. -/
  | leadingFields
  /-- Further fields of the internal type. -/
  | internalFields
  /-- Functions on the internal type, added to its file. -/
  | internalFunctions
  /-- The fields of the repository implementation. -/
  | implementationFields
  /-- The values that the constructor gives to the fields of the implementation. -/
  | fieldValues
  /-- The fields of the parameters of the constructor. -/
  | parameterFields
  /-- The statements of the constructor before the implementation is built. -/
  | constructorBody
  /-- Further options of the template for stored operations. -/
  | crudOptions
  deriving DecidableEq, Repr

namespace Part

def all : List Part :=
  [interfaceFile, interfaceMethods, storageDirectory, storageIndex, storageFile, leadingFields,
    internalFields, internalFunctions, implementationFields, fieldValues, parameterFields,
    constructorBody, crudOptions]

abbrev Descriptor : Part → Type
  | interfaceFile => InterfaceFile
  | interfaceMethods => EntityPart
  | storageDirectory => StorageDirectory
  | storageIndex => StorageIndex
  | storageFile => StorageFile
  | leadingFields => EntityPart
  | internalFields => EntityPart
  | internalFunctions => EntityPart
  | implementationFields => LinkedPart
  | fieldValues => LinkedPart
  | parameterFields => LinkedPart
  | constructorBody => EntityPart
  | crudOptions => EntityPart

def title : Part → String
  | interfaceFile => "datagen::data::Types"
  | interfaceMethods => "datagen::data::InterfaceMethods"
  | storageDirectory => "datagen::mapping::DirectoryMain"
  | storageIndex => "datagen::mapping::IndexMain"
  | storageFile => "datagen::mapping::FileMain"
  | leadingFields => "datagen::mapping::InternalSuperFields"
  | internalFields => "datagen::mapping::InternalFields"
  | internalFunctions => "datagen::mapping::InternalFunctions"
  | implementationFields => "datagen::mapping::ImplFields"
  | fieldValues => "datagen::mapping::ImplFieldAssignments"
  | parameterFields => "datagen::mapping::CtorParamsFields"
  | constructorBody => "datagen::mapping::Ctor"
  | crudOptions => "datagen::mapping::CrudTemplateParams"

/-- The module that a part is written in; only whole files have one. -/
def package? : (p : Part) → p.Descriptor → Option String
  | interfaceFile, d => some d.package
  | storageIndex, d => some d.package
  | storageFile, d => some d.package
  | _, _ => none

/-- Parts for a whole document belong to no entity. -/
def entity? : (p : Part) → p.Descriptor → Option Entity
  | interfaceFile, _ => none
  | storageDirectory, _ => none
  | storageIndex, _ => none
  | interfaceMethods, d => some d.entity
  | storageFile, d => some d.entity
  | leadingFields, d => some d.entity
  | internalFields, d => some d.entity
  | internalFunctions, d => some d.entity
  | implementationFields, d => some d.entity
  | fieldValues, d => some d.entity
  | parameterFields, d => some d.entity
  | constructorBody, d => some d.entity
  | crudOptions, d => some d.entity

end Part

abbrev parts : Vocabulary where
  Kind := Part
  Descriptor := Part.Descriptor
  title := Part.title
  package? := Part.package?
  kindEq := inferInstance

namespace Part

def always (p : Part) : Key parts p :=
  Key.always (V := parts) p

def when (p : Part) (test : p.Descriptor → Bool) : Key parts p :=
  Key.when (V := parts) p test

end Part

/-- The module path of the library that generated code is written against. -/
def runtimeModule : String := "crate::data"

def block (head body : String) : String :=
  head ++ " \x7b\n" ++ body ++ "\n\x7d"

def emptyBlock (head : String) : String :=
  head ++ " \x7b\x7d"

end Scaffold
