import Scaffold.Bag

/-! The markers that an entity may carry. A marker that points at another entity holds a reference
of a type `ρ`; in an entity this is the entity pointed at. Types of markers from elsewhere enter as
foreign ones, under the name of their type. -/

namespace Scaffold.Model

inductive Operation
  | findByKey
  | listAll
  | create
  | update
  | delete
  deriving DecidableEq, Repr

namespace Operation

def all : List Operation := [findByKey, listAll, create, update, delete]

def name : Operation → String
  | findByKey => "find_by_key"
  | listAll => "list_all"
  | create => "create"
  | update => "update"
  | delete => "delete"

def ofName? (name : String) : Option Operation :=
  all.find? (·.name == name)

theorem mem_all (op : Operation) : op ∈ all := by
  cases op <;> decide

end Operation

/-- A set of operations, kept as a sublist of all of them: every set has one form. -/
structure OperationSet where
  toList : List Operation
  ordered : toList.Sublist Operation.all

namespace OperationSet

instance : DecidableEq OperationSet := fun a b =>
  decidable_of_iff (a.toList = b.toList) (by cases a; cases b; simp)

def ofList (ops : List Operation) : OperationSet :=
  ⟨Operation.all.filter ops.contains, List.filter_sublist⟩

def full : OperationSet := ofList Operation.all

instance : Inhabited OperationSet := ⟨full⟩

def supports (s : OperationSet) (op : Operation) : Bool :=
  s.toList.contains op

def isEmpty (s : OperationSet) : Bool :=
  s.toList.isEmpty

theorem mem_ofList {ops : List Operation} {op : Operation} :
    op ∈ (ofList ops).toList ↔ op ∈ ops := by
  simp [ofList, Operation.mem_all]

end OperationSet

structure StorageOptions where
  tableName? : Option String := none
  contextScope? : Option String := none
  deriving DecidableEq, Repr, Inhabited

structure SearchPredicate where
  name : String
  label : String
  operators : List String := []
  deriving DecidableEq, Repr, Inhabited

/-- The entity by whose key another is listed. The association table is named from the listed
entity, or, when reversed, from the one whose key is given. -/
structure KeyListing (ρ : Type) where
  associated : ρ
  reversed : Bool := false
  deriving DecidableEq

inductive Capability (ρ : Type)
  | crud (operations : OperationSet)
  | search
  | associate (child : ρ)
  | filterKeys
  | listByAssociatedKey (listing : KeyListing ρ)
  | storage (options : StorageOptions)
  | searchPredicates (predicates : List SearchPredicate)
  | foreign (type content : String)

namespace Capability
variable {ρ : Type}

instance : Inhabited (Capability ρ) := ⟨search⟩

def crudType : MarkerType (Capability ρ) OperationSet where
  title := "datagen::model::markers::Crud"
  wrap := crud
  read? | crud ops => some ops | _ => none
  read?_eq_some_iff m a := by cases m <;> simp

def searchType : MarkerType (Capability ρ) Unit where
  title := "datagen::model::markers::Search"
  wrap _ := search
  read? | search => some () | _ => none
  read?_eq_some_iff m a := by cases m <;> simp

def associateType : MarkerType (Capability ρ) ρ where
  title := "datagen::model::markers::Associate"
  wrap := associate
  read? | associate child => some child | _ => none
  read?_eq_some_iff m a := by cases m <;> simp

def filterKeysType : MarkerType (Capability ρ) Unit where
  title := "datagen::model::markers::FilterKeys"
  wrap _ := filterKeys
  read? | filterKeys => some () | _ => none
  read?_eq_some_iff m a := by cases m <;> simp

def listByAssociatedKeyType : MarkerType (Capability ρ) (KeyListing ρ) where
  title := "datagen::model::markers::ListByAssociatedKey"
  wrap := listByAssociatedKey
  read? | listByAssociatedKey listing => some listing | _ => none
  read?_eq_some_iff m a := by cases m <;> simp

def storageType : MarkerType (Capability ρ) StorageOptions where
  title := "datagen::model::markers::MappingOptions"
  wrap := storage
  read? | storage options => some options | _ => none
  read?_eq_some_iff m a := by cases m <;> simp

def searchPredicatesType : MarkerType (Capability ρ) (List SearchPredicate) where
  title := "datagen::model::markers::SearchPredicates"
  wrap := searchPredicates
  read? | searchPredicates predicates => some predicates | _ => none
  read?_eq_some_iff m a := by cases m <;> simp

def foreignType (type : String) : MarkerType (Capability ρ) String where
  title := type
  wrap := foreign type
  read? | foreign t content => if t = type then some content else none | _ => none
  read?_eq_some_iff m a := by cases m <;> simp

end Capability
end Scaffold.Model
