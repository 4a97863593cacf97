import Scaffold.Model.Capability
import Scaffold.Text.Blank
import Scaffold.Text.Lines

/-! Entities: a name, the path of the type, fields and capabilities. The key of an entity is made of
its key-tagged fields: none, one whose own type is the key type, or several that are gathered in a
type declared for them. -/

namespace Scaffold.Model

structure FieldTags where
  key : Bool := false
  deriving DecidableEq, Repr, Inhabited

/-- Reads comma-separated tags; a field is a key field when one of them is `key`. -/
def FieldTags.parse (tags : String) : FieldTags :=
  ⟨(Text.Pieces.split ',' tags).any fun tag => Text.Blank.trim tag == "key"⟩

structure Field where
  name : String
  type : String
  tags : FieldTags := {}
  deriving DecidableEq, Repr, Inhabited

/-- How the identity of an entity is expressed in generated code. -/
inductive KeyStrategy
  | none
  | direct (field : Field)
  | composite (typeName : String) (fields : List Field)
  deriving DecidableEq, Repr

namespace KeyStrategy

def resolve (entity : String) (keyFields : List Field) : KeyStrategy :=
  match keyFields with
  | [] => .none
  | [field] => .direct field
  | fields => .composite (entity ++ "Key") fields

def count : KeyStrategy → Nat
  | .none => 0
  | .direct _ => 1
  | .composite _ fields => fields.length

def describe : KeyStrategy → String
  | .none => "none"
  | .direct field => field.name ++ ": " ++ field.type
  | .composite typeName fields => typeName ++ "(" ++ ", ".intercalate (fields.map (·.name)) ++ ")"

def declarationLine (field : Field) : String :=
  "    pub " ++ field.name ++ ": " ++ field.type ++ ","

def declaration? (entity : String) : KeyStrategy → Option String
  | .composite typeName fields =>
    some ("/// " ++ typeName ++ " is the key for " ++ entity ++ "\n"
      ++ "#[derive(Debug, Clone, PartialEq, Eq, Hash)]\n"
      ++ "pub struct " ++ typeName ++ " \x7b\n"
      ++ Text.Lines.join (fields.map declarationLine) ++ "\n\x7d")
  | _ => Option.none

end KeyStrategy

/-- The item of a module, or the item alone when no module is named. -/
def qualify (module item : String) : String :=
  if module.isEmpty then item else module ++ "::" ++ item

structure Entity where
  name : String
  typePath : String
  fields : List Field
  capabilities : Bag (Capability Entity)

namespace Entity

instance : Inhabited Entity := ⟨⟨"", "", [], .empty⟩⟩

/-- The first field whose name an earlier field has, given the names met so far. -/
def repeatedField? (seen : List String) : List Field → Option String
  | [] => none
  | field :: rest =>
    if seen.contains field.name then some field.name
    else repeatedField? (seen ++ [field.name]) rest

/-- Builds an entity. The type path is the name when none is given. -/
def build (name typePath : String) (fields : List Field) (capabilities : Bag (Capability Entity)) :
    Except Failure Entity :=
  if Text.Blank.isBlankText name then .error (.model .blankName)
  else match repeatedField? [] fields with
    | some field => .error (.key (.duplicateField name field))
    | none => .ok ⟨name, if typePath.isEmpty then name else typePath, fields, capabilities⟩

def has {α : Type} (e : Entity) (T : MarkerType (Capability Entity) α) : Bool :=
  e.capabilities.has T

def interfaceName (e : Entity) : String :=
  e.name ++ "Repository"

def internalName (e : Entity) : String :=
  e.name ++ "Internal"

def keyFields (e : Entity) : List Field :=
  e.fields.filter (·.tags.key)

def keyStrategy (e : Entity) : KeyStrategy :=
  .resolve e.name e.keyFields

/-- The type of the key in generated code. A composite key type is qualified when code outside the
module of its declaration refers to it. -/
def keyCode (e : Entity) (qualifier? : Option String) : Except KeyFault String :=
  match e.keyStrategy with
  | .none => .error (.noKeyFields e.name)
  | .direct field => .ok field.type
  | .composite typeName _ => .ok (qualify (qualifier?.getD "") typeName)

def keyDeclaration? (e : Entity) : Option String :=
  e.keyStrategy.declaration? e.name

/-- The one key field, for a rule that cannot do with more or fewer. -/
def singleKey (e : Entity) (rule : String) : Except KeyFault Field :=
  match e.keyStrategy with
  | .direct field => .ok field
  | other => .error (.singleKeyRequired e.name rule other.count)

def shape (e : Entity) : Entity :=
  { e with capabilities := .empty }

end Entity
end Scaffold.Model
