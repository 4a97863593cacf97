import Scaffold.Proofs.Code.Layout
import Scaffold.Proofs.Model.Keys
import Scaffold.Proofs.Text.Literal

/-! The texts of a storage file and of an index, line by line. A struct has a line for each field, the
constructor one for each value, the index one for each constructor, and the methods of associations
and listings name their tables and columns. Nothing here is taken from the functions that put the
texts together; for each of these one theorem says that it makes the text. -/

namespace Scaffold.Storage
open Model Code Rules
open Text Lines

theorem block_eq (head body : String) :
    block head body = head ++ " \x7b" ++ "\n" ++ body ++ "\n" ++ "\x7d" := by
  have opened : " \x7b\n" = " \x7b" ++ "\n" := rfl
  have closed : "\n\x7d" = "\n" ++ "\x7d" := rfl
  rw [block, opened, closed]
  simp only [String.append_assoc]

/-! ## Structs -/

def structText (documentation : List String) (name : String) (fields : List String) : String :=
  "\n".intercalate (documentation ++ ["pub struct " ++ name ++ " \x7b"] ++
    fields.flatMap (laidOut 4 ",") ++ ["\x7d"])

def internalText (e : Entity) (fields : List String) : String :=
  structText ["/// " ++ e.internalName ++ " is the internal representation of " ++ e.name,
    "#[derive(Debug, Clone, Default)]"] e.internalName fields

def implementationText (e : Entity) (fields : List String) : String :=
  structText ["/// " ++ e.interfaceName ++ "Impl is the implementation of " ++ e.interfaceName]
    (e.interfaceName ++ "Impl") fields

/-- Parameters without fields are on one line. -/
def parametersText (e : Entity) (fields : List String) : String :=
  let documentation :=
    "/// " ++ e.interfaceName ++ "Params are the parameters for " ++ e.interfaceName
  if fields = [] then
    "\n".intercalate [documentation, "pub struct " ++ e.interfaceName ++ "Params \x7b\x7d"]
  else structText [documentation] (e.interfaceName ++ "Params") fields

section Structs
variable {inflector : Inflector} {e : Entity} {names : Names} {fields : Fragment}

theorem flatMap_laidOut_ne_nil {items : List String} (filled : items ≠ []) (width : Nat)
    (terminator : String) : items.flatMap (laidOut width terminator) ≠ [] := by
  obtain ⟨item, member⟩ := List.exists_mem_of_ne_nil items filled
  intro none
  exact laidOut_ne_nil width terminator item (List.flatMap_eq_nil_iff.1 none item member)

theorem block_render (filled : fields.items ≠ []) {documentation : List String}
    (documented : documentation ≠ []) (name : String) :
    block (join documentation ++ "\n" ++ "pub struct " ++ name) (fields.render 4 ",") =
      structText documentation name fields.items := by
  have lines := flatMap_laidOut_ne_nil filled 4 ","
  rw [block_eq, fields.render_eq_join]
  refine Eq.trans ?_ (join_enclosed (List.append_ne_nil_of_left_ne_nil documented _) lines
    (List.cons_ne_nil "\x7d" [])).symm
  rw [join_append documented (List.cons_ne_nil _ _)]
  simp only [join, String.intercalate_singleton, String.append_assoc]

theorem renderInternal_eq (named : namesOf e inflector = .ok names) (filled : fields.items ≠ []) :
    renderInternal names fields = internalText e fields.items := by
  obtain ⟨_, _, rfl⟩ := exists_of_namesOf named
  have derived : "\n#[derive(Debug, Clone, Default)]\npub struct " =
      "\n" ++ "#[derive(Debug, Clone, Default)]" ++ "\n" ++ "pub struct " := rfl
  rw [internalText, ← block_render filled (List.cons_ne_nil _ _), renderInternal, derived]
  simp only [join, String.intercalate_cons_cons, String.intercalate_singleton, String.append_assoc]

theorem renderImplementation_eq (named : namesOf e inflector = .ok names)
    (filled : fields.items ≠ []) :
    renderImplementation e names fields = implementationText e fields.items := by
  obtain ⟨_, _, rfl⟩ := exists_of_namesOf named
  have started : "Impl is the implementation of " = "Impl" ++ " is the implementation of " := rfl
  have headed : "\npub struct " = "\n" ++ "pub struct " := rfl
  rw [implementationText, ← block_render filled (List.cons_ne_nil _ _), renderImplementation,
    started, headed]
  simp only [join, String.intercalate_singleton, String.append_assoc]

theorem renderParameters_eq (named : namesOf e inflector = .ok names) :
    renderParameters e names fields = parametersText e fields.items := by
  obtain ⟨_, _, rfl⟩ := exists_of_namesOf named
  have started : "Params are the parameters for " = "Params" ++ " are the parameters for " := rfl
  have headed : "\npub struct " = "\n" ++ "pub struct " := rfl
  have ended : "Params \x7b\x7d" = "Params" ++ " \x7b\x7d" := rfl
  rw [renderParameters, parametersText, started, headed, ended]
  by_cases none : fields.items = []
  · have empty : fields.isEmpty = true := by simp [Fragment.isEmpty, none]
    rw [if_pos none, if_pos empty, emptyBlock]
    simp only [String.intercalate_cons_cons, String.intercalate_singleton, String.append_assoc]
  · have filled : ¬fields.isEmpty = true := by simpa [Fragment.isEmpty] using none
    rw [if_neg none, if_neg filled, ← block_render none (List.cons_ne_nil _ _)]
    simp only [join, String.intercalate_singleton, String.append_assoc]

end Structs

/-! ## Functions -/

def constructorText (e : Entity) (constructor argument : String)
    (statements values : List String) : String :=
  "\n".intercalate (["/// " ++ constructor ++ " creates a new " ++ e.interfaceName,
    "pub fn " ++ constructor ++ "(" ++ argument ++ ": " ++ e.interfaceName ++ "Params) -> " ++
      e.interfaceName ++ "Impl \x7b"] ++
    statements.flatMap (laidOut 4 "") ++
    ["    " ++ e.interfaceName ++ "Impl \x7b"] ++
    values.flatMap (laidOut 8 ",") ++
    ["    \x7d", "\x7d"])

theorem renderConstructor_eq {inflector : Inflector} {e : Entity} {names : Names}
    (named : namesOf e inflector = .ok names) (parameters : Fragment) {statements values : Fragment}
    (stated : statements.items ≠ []) (valued : values.items ≠ []) :
    renderConstructor e names parameters statements values = constructorText e names.constructor
      (if parameters.isEmpty then "_params" else "params") statements.items values.items := by
  obtain ⟨_, _, rfl⟩ := exists_of_namesOf named
  have first := flatMap_laidOut_ne_nil stated 4 ""
  have second := flatMap_laidOut_ne_nil valued 8 ","
  have headed : "\npub fn " = "\n" ++ "pub fn " := rfl
  have opened : " \x7b\n" = " \x7b" ++ "\n" := rfl
  have implemented : "Impl \x7b" = "Impl" ++ " \x7b" := rfl
  have taken : "Params) -> " = "Params" ++ ") -> " := rfl
  have built : "\n    " = "\n" ++ "    " := rfl
  have closed : "\n    \x7d" = "\n" ++ "    \x7d" := rfl
  rw [renderConstructor, block_eq, statements.render_eq_join, values.render_eq_join,
    constructorText, headed, opened, implemented, taken, built, closed]
  refine Eq.trans ?_ (join_enclosed (List.append_ne_nil_of_right_ne_nil _ (List.cons_ne_nil _ _))
    second (List.cons_ne_nil _ _)).symm
  rw [join_enclosed (List.cons_ne_nil _ _) first (List.cons_ne_nil _ _)]
  simp only [join, String.intercalate_cons_cons, String.intercalate_singleton, String.append_assoc]

/-- The lines of the index, given the literal of its module. -/
def indexText (module : String) (constructors : List String) : String :=
  "\n".intercalate (["/// index collects the repository constructors of this module",
    "pub fn index() -> data::mapping::Module \x7b",
    "    data::mapping::Module::new(" ++ module ++ ")"] ++
    (constructors.map fun constructor => "        .provide(" ++ constructor ++ ")") ++
    ["\x7d"])

theorem renderIndex_eq (indexModule : String) {constructors : List String}
    (filled : constructors ≠ []) :
    renderIndex indexModule constructors =
      indexText (Literal.quoted indexModule) constructors := by
  have lines : constructors.map provideLine ≠ [] := by simpa using filled
  have documented : "/// index collects the repository constructors of this module\n" =
      "/// index collects the repository constructors of this module" ++ "\n" := rfl
  have headed : "pub fn index() -> data::mapping::Module \x7b" =
      "pub fn index() -> data::mapping::Module" ++ " \x7b" := rfl
  have named : ")\n" = ")" ++ "\n" := rfl
  rw [renderIndex, block_eq, indexText, documented, headed, named]
  refine Eq.trans ?_ (join_enclosed (List.cons_ne_nil _ _) lines (List.cons_ne_nil _ _)).symm
  simp only [join, String.intercalate_cons_cons, String.intercalate_singleton, String.append_assoc]

/-! ## Methods of associations and listings -/

/-- The lines of the method that adds and removes associated children, given the literals of the
table and of its two columns. -/
def associateText (implementation method key childKey repository : String)
    (table column childColumn : String) : String :=
  "\n".intercalate (["impl " ++ implementation ++ " \x7b",
    "    pub fn associate_" ++ method ++ "(&self, ctx: &data::Context, key: &" ++ key ++
      ", add: &[" ++ childKey ++ "], remove: &[" ++ childKey ++ "]) -> Result<(), data::Error> \x7b",
    "        data::mapping::associate(ctx, data::mapping::AssociateParams \x7b"] ++
    (["            association_table: " ++ table ++ ",",
      "            parent_column_name: " ++ column ++ ",",
      "            child_column_name: " ++ childColumn ++ ",",
      "            parent_key: key,",
      "            add,",
      "            remove,",
      "            parent_repository: self,"] ++
      laidOut 12 "," ("child_repository: self." ++ repository ++ ".as_ref()")) ++
    ["        \x7d)", "    \x7d", "\x7d"])

/-- The lines of the method that lists an entity through an association table, given the literals
of the clause that joins the table and of the condition on it. -/
def listByText (implementation method key typePath : String) (join filter : String) : String :=
  "\n".intercalate ["impl " ++ implementation ++ " \x7b",
    "    pub fn list_by_" ++ method ++ "(&self, ctx: &data::Context, key: &" ++ key ++
      ", params: data::ListParams) -> Result<data::List<" ++ typePath ++ ">, data::Error> \x7b",
    "        self.template.do_list(ctx, |query| query.join(" ++ join ++ ").filter(" ++ filter ++
      ", key), params)",
    "    \x7d",
    "\x7d"]

theorem isLine_quoted {lead : String} (whole : IsLine lead) (text : String) :
    IsLine (lead ++ Literal.quoted text) :=
  whole.append (Literal.line_breaks_not_mem_quoted text).1 (Literal.line_breaks_not_mem_quoted text).2

section Methods
variable (implementation method key : String)

theorem lines_associateParameters (inflector : Inflector) (parent child : Names)
    (parentKey childKey repository : String) :
    (associateParameters inflector parent child parentKey childKey repository).items.flatMap
        (laidOut 12 ",") =
      ["            association_table: " ++ Literal.quoted (parent.associationTable child) ++ ",",
        "            parent_column_name: " ++
          Literal.quoted (parent.associationColumn inflector parentKey) ++ ",",
        "            child_column_name: " ++
          Literal.quoted (child.associationColumn inflector childKey) ++ ",",
        "            parent_key: key,", "            add,", "            remove,",
        "            parent_repository: self,"] ++
      laidOut 12 "," ("child_repository: self." ++ repository ++ ".as_ref()") := by
  have table : IsLine "association_table: " := by decide
  have column : IsLine "parent_column_name: " := by decide
  have childColumn : IsLine "child_column_name: " := by decide
  have key : IsLine "parent_key: key" := by decide
  have add : IsLine "add" := by decide
  have remove : IsLine "remove" := by decide
  have owner : IsLine "parent_repository: self" := by decide
  have wide : blanks 12 = "            " := rfl
  simp only [associateParameters, Fragment.items_extend, Fragment.items_empty, List.nil_append,
    List.flatMap_cons, List.flatMap_nil, List.append_nil,
    laidOut_of_isLine (isLine_quoted table _),
    laidOut_of_isLine (isLine_quoted column _),
    laidOut_of_isLine (isLine_quoted childColumn _), laidOut_of_isLine key,
    laidOut_of_isLine add, laidOut_of_isLine remove, laidOut_of_isLine owner, wide]
  simp only [← String.append_assoc, String.reduceAppend]
  rfl

theorem renderAssociate_eq_associateText (childKey repository : String) (inflector : Inflector)
    (parent child : Names) (parentKey childKeyField : String) :
    renderAssociate implementation method key childKey
        (associateParameters inflector parent child parentKey childKeyField repository) =
      associateText implementation method key childKey repository
        (Literal.quoted (parent.associationTable child))
        (Literal.quoted (parent.associationColumn inflector parentKey))
        (Literal.quoted (child.associationColumn inflector childKeyField)) := by
  have lines := lines_associateParameters inflector parent child parentKey childKeyField repository
  have returned : "]) -> Result<(), data::Error> \x7b\n" =
      "]) -> Result<(), data::Error> \x7b" ++ "\n" := rfl
  have told : "        data::mapping::associate(ctx, data::mapping::AssociateParams \x7b\n" =
      "        data::mapping::associate(ctx, data::mapping::AssociateParams \x7b" ++ "\n" := rfl
  have closed : "\n        \x7d)\n    \x7d" = "\n" ++ "        \x7d)" ++ "\n" ++ "    \x7d" := rfl
  rw [renderAssociate, block_eq, Fragment.render_eq_join, associateText, ← lines, returned, told,
    closed]
  refine Eq.trans ?_ (join_enclosed (List.cons_ne_nil _ _) ?_ (List.cons_ne_nil _ _)).symm
  · simp only [join, String.intercalate_cons_cons, String.intercalate_singleton,
      String.append_assoc]
  · exact flatMap_laidOut_ne_nil (List.cons_ne_nil _ _) 12 ","

theorem renderListBy_eq_listByText (typePath join filter : String) :
    renderListBy implementation method key typePath join filter =
      listByText implementation method key typePath (Literal.quoted join)
        (Literal.quoted filter) := by
  have returned : ">, data::Error> \x7b\n" = ">, data::Error> \x7b" ++ "\n" := rfl
  have closed : ", key), params)\n    \x7d" = ", key), params)" ++ "\n" ++ "    \x7d" := rfl
  rw [renderListBy, block_eq, listByText, returned, closed]
  simp only [String.intercalate_cons_cons, String.intercalate_singleton, String.append_assoc]

end Methods

end Scaffold.Storage
