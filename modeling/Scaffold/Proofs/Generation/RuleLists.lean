import Scaffold.Interface.Rules
import Scaffold.Storage.Capabilities

/-! The bundled registries part by part: the rules for each part, in the order in which they run. The
other parts have no rules. -/

namespace Scaffold
open Model Rules

namespace Interface

def fileRules : (k : Part) → List (Rule parts (FileBody parts) k)
  | .interfaceFile => [⟨Part.interfaceFile.always, interfaceFileBody⟩]
  | _ => []

def fragmentRules : (k : Part) → List (Rule parts (FragmentBody parts) k)
  | .interfaceMethods => [
      ⟨carrying Capability.crudType, crudBody⟩,
      ⟨carrying Capability.searchType, searchBody⟩,
      ⟨carrying Capability.associateType, associateBody⟩,
      ⟨carrying Capability.filterKeysType, filterKeysBody⟩,
      ⟨carrying Capability.listByAssociatedKeyType, listByAssociatedKeyBody⟩]
  | _ => []

theorem rulesFor_file (k : Part) : registry.tables.file.rulesFor k = fileRules k := by
  cases k <;> rfl

theorem rulesFor_fragment (k : Part) : registry.tables.fragment.rulesFor k = fragmentRules k := by
  cases k <;> rfl

end Interface

namespace Storage

def directoryRules : (k : Part) → List (Rule parts (DirectoryBody parts) k)
  | .storageDirectory => [⟨Part.storageDirectory.always, directoryBody⟩]
  | _ => []

def fileRules : (k : Part) → List (Rule parts (FileBody parts) k)
  | .storageIndex => [⟨Part.storageIndex.always, indexBody⟩]
  | .storageFile => [
      ⟨Part.storageFile.always, fileBody⟩,
      ⟨fileOf Capability.associateType, associateFileBody⟩,
      ⟨fileOf Capability.listByAssociatedKeyType, listByAssociatedKeyFileBody⟩]
  | _ => []

def fragmentRules : (k : Part) → List (Rule parts (FragmentBody parts) k)
  | .leadingFields => [⟨Part.leadingFields.always, leadingFieldsBody⟩]
  | .constructorBody => [⟨Part.constructorBody.always, constructorBodyBody⟩]
  | .implementationFields => [
      ⟨fieldsOf Capability.crudType, crudFieldBody⟩,
      ⟨fieldsOf Capability.searchType, searchFieldBody⟩,
      ⟨fieldsOf Capability.associateType, associateFieldBody⟩,
      ⟨fieldsOf Capability.filterKeysType, filterKeysFieldBody⟩]
  | .fieldValues => [
      ⟨Part.fieldValues.always, templateValueBody⟩,
      ⟨valuesOf Capability.crudType, crudValueBody⟩,
      ⟨valuesOf Capability.searchType, searchValueBody⟩,
      ⟨valuesOf Capability.associateType, associateValueBody⟩,
      ⟨valuesOf Capability.filterKeysType, filterKeysValueBody⟩]
  | .parameterFields => [⟨parametersOf Capability.associateType, associateParameterBody⟩]
  | _ => []

theorem rulesFor_directory (k : Part) :
    registry.tables.directory.rulesFor k = directoryRules k := by
  cases k <;> rfl

theorem rulesFor_file (k : Part) : registry.tables.file.rulesFor k = fileRules k := by
  cases k <;> rfl

theorem rulesFor_fragment (k : Part) : registry.tables.fragment.rulesFor k = fragmentRules k := by
  cases k <;> rfl

end Storage
end Scaffold
