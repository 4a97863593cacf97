import Scaffold.Proofs.Storage.Acceptance
import Scaffold.Proofs.Storage.Blocks

/-! The methods for associations and listings appear twice: declared in the repository trait of an
entity, and with a body in a block of its own in the storage file. The two texts are made by
different rules from differently qualified keys. Both rules want a single key, whose type needs no
qualification, so wherever a storage file is generated the signatures are the same texts in the same
order. -/

namespace Scaffold

/-! ## Declared methods -/

namespace Interface
open Model Code Rules

/-- Whether a declared method has a name that starts with a text. -/
def named (lead declared : String) : Bool :=
  ("fn " ++ lead).toList.isPrefixOf declared.toList

def associateSignature (name key childKey : String) : String :=
  method ("associate_" ++ name)
    ["key: &" ++ key, "add: &[" ++ childKey ++ "]", "remove: &[" ++ childKey ++ "]"] "()"

def listBySignature (name key typePath : String) : String :=
  method ("list_by_" ++ name) ["key: &" ++ key, "params: data::ListParams"] (listOf typePath)

/-- The names of the methods that no other entity enters. -/
def plainNames : List String :=
  ["find_by_key", "exists_by_key", "list_all", "create", "update", "delete", "delete_entity",
    "search", "search_predicates", "filter_keys"]

/-- A method that is for no association and no listing. -/
def Plain (declared : String) : Prop :=
  ∃ name ∈ plainNames, ∃ arguments value, declared = method name arguments value

theorem Plain.not_named {declared : String} (plain : Plain declared) :
    named "associate_" declared = false ∧ named "list_by_" declared = false := by
  obtain ⟨name, known, arguments, value, rfl⟩ := plain
  simp only [plainNames, List.mem_cons, List.not_mem_nil, or_false] at known
  rcases known with rfl | rfl | rfl | rfl | rfl | rfl | rfl | rfl | rfl | rfl <;>
    simp [named, method, List.isPrefixOf]

theorem named_associateSignature (name key childKey : String) :
    named "associate_" (associateSignature name key childKey) = true ∧
      named "list_by_" (associateSignature name key childKey) = false := by
  simp [named, associateSignature, method, List.isPrefixOf]

theorem named_listBySignature (name key typePath : String) :
    named "associate_" (listBySignature name key typePath) = false ∧
      named "list_by_" (listBySignature name key typePath) = true := by
  simp [named, listBySignature, method, List.isPrefixOf]

section Declarations
variable (inflector : Inflector) (e : Entity)

def AssociateDeclaration (child : Entity) (declared : String) : Prop :=
  ∃ key childKey, e.keyCode none = .ok key ∧ child.keyCode none = .ok childKey ∧
    declared = associateSignature (inflector.snake (inflector.plural child.name)) key childKey

def ListByDeclaration (listing : KeyListing Entity) (declared : String) : Prop :=
  ∃ key, listing.associated.keyCode none = .ok key ∧
    declared = listBySignature (inflector.snake listing.associated.name) key e.typePath

end Declarations

theorem plain_operationMethods {e : Entity} {op : Operation} {methods : List String}
    (made : operationMethods e op = .ok methods) : ∀ declared ∈ methods, Plain declared := by
  have plain : ∀ name arguments value, name ∈ plainNames → Plain (method name arguments value) :=
    fun name arguments value known => ⟨name, known, arguments, value, rfl⟩
  cases op with
  | findByKey =>
    obtain ⟨key, -, made⟩ := bind_eq_ok.1 made
    obtain rfl := Except.ok.inj made
    exact List.forall_mem_cons.2 ⟨plain _ _ _ (by decide),
      List.forall_mem_singleton.2 (plain _ _ _ (by decide))⟩
  | delete =>
    obtain ⟨key, -, made⟩ := bind_eq_ok.1 made
    obtain rfl := Except.ok.inj made
    exact List.forall_mem_cons.2 ⟨plain _ _ _ (by decide),
      List.forall_mem_singleton.2 (plain _ _ _ (by decide))⟩
  | _ =>
    obtain rfl := Except.ok.inj made
    exact List.forall_mem_singleton.2 (plain _ _ _ (by decide))

namespace Groups.Of
variable {inflector : Inflector} {e : Entity} {g : Groups}

theorem plain_crud (of : g.Of inflector e) : ∀ declared ∈ g.crud, Plain declared := by
  refine forall_mem_of_ite of.crud fun made => ?_
  obtain ⟨operations, -, made⟩ := bind_eq_ok.1 made
  obtain ⟨methods, each, made⟩ := bind_eq_ok.1 made
  rw [← Except.ok.inj made]
  intro declared member
  obtain ⟨group, hg, member⟩ := List.mem_flatten.1 member
  obtain ⟨op, -, grouped⟩ := exists_of_forall₂ (mapM_eq_ok_iff.1 each) hg
  exact plain_operationMethods (mapError_eq_ok.1 grouped) declared member

theorem plain_search (of : g.Of inflector e) : ∀ declared ∈ g.search, Plain declared := by
  refine forall_mem_of_ite of.search fun made => ?_
  rw [← Except.ok.inj made]
  exact List.forall_mem_cons.2 ⟨⟨"search", by decide, _, _, rfl⟩,
    List.forall_mem_singleton.2 ⟨"search_predicates", by decide, _, _, rfl⟩⟩

theorem plain_filterKeys (of : g.Of inflector e) : ∀ declared ∈ g.filterKeys, Plain declared := by
  refine forall_mem_of_ite of.filterKeys fun made => ?_
  obtain ⟨key, -, made⟩ := bind_eq_ok.1 made
  rw [← Except.ok.inj made]
  exact List.forall_mem_singleton.2 ⟨"filter_keys", by decide, _, _, rfl⟩

theorem forall₂_associate (of : g.Of inflector e) :
    List.Forall₂ (AssociateDeclaration inflector e) (Storage.childrenOf e) g.associate := by
  have methods := of.associate
  split at methods
  · obtain ⟨key, keyed, methods⟩ := bind_eq_ok.1 methods
    refine (mapM_eq_ok_iff.1 methods).imp fun child declared made => ?_
    obtain ⟨childKey, childKeyed, made⟩ := bind_eq_ok.1 (mapError_eq_ok.1 made)
    exact ⟨key, childKey, mapError_eq_ok.1 keyed, childKeyed, (Except.ok.inj made).symm⟩
  · rename_i unmarked
    rw [Storage.childrenOf, (Bag.getAll_eq_nil_iff _ _).2 (Bool.eq_false_iff.2 unmarked),
      ← Except.ok.inj methods]
    exact .nil

theorem forall₂_listBy (of : g.Of inflector e) :
    List.Forall₂ (ListByDeclaration inflector e) (Storage.listingsOf e) g.listBy := by
  have methods := of.listBy
  split at methods
  · refine (mapM_eq_ok_iff.1 methods).imp fun listing declared made => ?_
    obtain ⟨key, keyed, made⟩ := bind_eq_ok.1 (mapError_eq_ok.1 made)
    exact ⟨key, keyed, (Except.ok.inj made).symm⟩
  · rename_i unmarked
    rw [Storage.listingsOf, (Bag.getAll_eq_nil_iff _ _).2 (Bool.eq_false_iff.2 unmarked),
      ← Except.ok.inj methods]
    exact .nil

theorem exists_associateSignature (of : g.Of inflector e) {declared : String}
    (member : declared ∈ g.associate) :
    ∃ name key childKey, declared = associateSignature name key childKey := by
  obtain ⟨child, -, key, childKey, -, -, same⟩ := exists_of_forall₂ of.forall₂_associate member
  exact ⟨_, key, childKey, same⟩

theorem exists_listBySignature (of : g.Of inflector e) {declared : String}
    (member : declared ∈ g.listBy) :
    ∃ name key typePath, declared = listBySignature name key typePath := by
  obtain ⟨listing, -, key, -, same⟩ := exists_of_forall₂ of.forall₂_listBy member
  exact ⟨_, key, _, same⟩

theorem filter_methods (of : g.Of inflector e) {lead : String}
    (none : ∀ declared, Plain declared → named lead declared = false) :
    g.methods.filter (named lead) =
      g.associate.filter (named lead) ++ g.listBy.filter (named lead) := by
  have empty : ∀ {group : List String}, (∀ declared ∈ group, Plain declared) →
      group.filter (named lead) = [] := fun plain =>
    List.filter_eq_nil_iff.2 fun m hm => Bool.eq_false_iff.1 (none m (plain m hm))
  simp only [methods, List.filter_append, empty of.plain_crud, empty of.plain_search,
    empty of.plain_filterKeys, List.nil_append]

theorem filter_associate (of : g.Of inflector e) :
    g.methods.filter (named "associate_") = g.associate := by
  have associate : g.associate.filter (named "associate_") = g.associate := by
    refine List.filter_eq_self.2 fun declared member => ?_
    obtain ⟨name, key, childKey, rfl⟩ := of.exists_associateSignature member
    exact (named_associateSignature name key childKey).1
  have listBy : g.listBy.filter (named "associate_") = [] := by
    refine List.filter_eq_nil_iff.2 fun declared member => ?_
    obtain ⟨name, key, typePath, rfl⟩ := of.exists_listBySignature member
    exact Bool.eq_false_iff.1 (named_listBySignature name key typePath).1
  rw [of.filter_methods fun _ plain => plain.not_named.1, associate, listBy, List.append_nil]

end Groups.Of
end Interface

/-! ## Blocks -/

namespace Storage
open Model Code Rules

def methodBlock (implementation signature body : String) : String :=
  block ("impl " ++ implementation)
    ("    pub " ++ signature ++ " \x7b\n" ++ body ++ "\n    \x7d")

def isImplementation (item : String) : Bool :=
  "impl ".toList.isPrefixOf item.toList

theorem isImplementation_methodBlock (implementation signature body : String) :
    isImplementation (methodBlock implementation signature body) = true := by
  simp [isImplementation, methodBlock, block]

section Texts
variable (implementation name key : String)

theorem associateSignature_text (childKey : String) :
    Interface.associateSignature name key childKey =
      "fn associate_" ++ name ++ "(&self, ctx: &data::Context, key: &" ++ key ++ ", add: &["
        ++ childKey ++ "], remove: &[" ++ childKey ++ "]) -> Result<(), data::Error>" := by
  have arguments : ∀ a b c d e : String, ", ".intercalate [a, b, c, d, e] =
      a ++ ", " ++ b ++ ", " ++ c ++ ", " ++ d ++ ", " ++ e := fun _ _ _ _ _ => rfl
  have lead : "fn associate_" = "fn " ++ "associate_" := rfl
  have first : "(&self, ctx: &data::Context, key: &" =
      "(" ++ ("&self" ++ ", " ++ "ctx: &data::Context" ++ ", " ++ "key: &") := rfl
  have added : ", add: &[" = ", " ++ "add: &[" := rfl
  have removed : "], remove: &[" = "]" ++ ", " ++ "remove: &[" := rfl
  have result : "]) -> Result<(), data::Error>" =
      "]" ++ (") -> " ++ ("Result<" ++ "()" ++ ", data::Error>")) := rfl
  rw [lead, first, added, removed, result]
  simp only [Interface.associateSignature, Interface.method, Interface.result, Interface.context,
    arguments, String.append_assoc]

theorem renderAssociate_eq_methodBlock (childKey : String) (parameters : Fragment) :
    ∃ body, renderAssociate implementation name key childKey parameters =
      methodBlock implementation (Interface.associateSignature name key childKey) body := by
  refine ⟨"        data::mapping::associate(ctx, data::mapping::AssociateParams \x7b\n"
    ++ parameters.render 12 "," ++ "\n        \x7d)", ?_⟩
  have lead : "    pub fn associate_" = "    pub " ++ "fn associate_" := rfl
  have opened : "]) -> Result<(), data::Error> \x7b\n" =
      "]) -> Result<(), data::Error>" ++ " \x7b\n" := rfl
  have closed : "\n        \x7d)\n    \x7d" = "\n        \x7d)" ++ "\n    \x7d" := rfl
  rw [renderAssociate, methodBlock, associateSignature_text, lead, opened, closed]
  simp only [String.append_assoc]

theorem listBySignature_text (typePath : String) :
    Interface.listBySignature name key typePath =
      "fn list_by_" ++ name ++ "(&self, ctx: &data::Context, key: &" ++ key
        ++ ", params: data::ListParams) -> Result<data::List<" ++ typePath
        ++ ">, data::Error>" := by
  have arguments : ∀ a b c d : String, ", ".intercalate [a, b, c, d] =
      a ++ ", " ++ b ++ ", " ++ c ++ ", " ++ d := fun _ _ _ _ => rfl
  have lead : "fn list_by_" = "fn " ++ "list_by_" := rfl
  have first : "(&self, ctx: &data::Context, key: &" =
      "(" ++ ("&self" ++ ", " ++ "ctx: &data::Context" ++ ", " ++ "key: &") := rfl
  have result : ", params: data::ListParams) -> Result<data::List<" =
      ", " ++ "params: data::ListParams" ++ (") -> " ++ ("Result<" ++ "data::List<")) := rfl
  have last : ">, data::Error>" = ">" ++ ", data::Error>" := rfl
  rw [lead, first, result, last]
  simp only [Interface.listBySignature, Interface.method, Interface.result, Interface.context,
    Interface.listOf, arguments, String.append_assoc]

theorem renderListBy_eq_methodBlock (typePath join filter : String) :
    ∃ body, renderListBy implementation name key typePath join filter =
      methodBlock implementation (Interface.listBySignature name key typePath) body := by
  refine ⟨"        self.template.do_list(ctx, |query| query.join(" ++ Text.Literal.quoted join
    ++ ").filter(" ++ Text.Literal.quoted filter ++ ", key), params)", ?_⟩
  have lead : "    pub fn list_by_" = "    pub " ++ "fn list_by_" := rfl
  have opened : ">, data::Error> \x7b\n" = ">, data::Error>" ++ " \x7b\n" := rfl
  have closed : ", key), params)\n    \x7d" = ", key), params)" ++ "\n    \x7d" := rfl
  rw [renderListBy, methodBlock, listBySignature_text, lead, opened, closed]
  simp only [String.append_assoc]

end Texts

section Files
variable {inflector : Inflector} {file : StorageFile}

def Implements (e : Entity) (block signature : String) : Prop :=
  ∃ body, block = methodBlock (e.interfaceName ++ "Impl") signature body

variable {c : Contents} {g : Interface.Groups}

theorem forall₂_associates (of : c.Of inflector file) (declared : g.Of inflector file.entity) :
    List.Forall₂ (Implements file.entity) c.associates g.associate := by
  refine forall₂_of_common ?_ of.forall₂_associates declared.forall₂_associate
  rintro child block signature ⟨key, childNames, childKey, single, -, childSingle, rfl⟩
    ⟨type, childType, keyed, childKeyed, rfl⟩
  rw [Entity.keyCode_of_single single] at keyed
  rw [Entity.keyCode_of_single childSingle] at childKeyed
  obtain rfl := Except.ok.inj keyed
  obtain rfl := Except.ok.inj childKeyed
  obtain ⟨_, _, names⟩ := exists_of_namesOf of.names
  rw [names]
  exact renderAssociate_eq_methodBlock _ _ _ _ _

theorem forall₂_listings (of : c.Of inflector file) (declared : g.Of inflector file.entity) :
    List.Forall₂ (Implements file.entity) c.listings g.listBy := by
  refine forall₂_of_common ?_ of.forall₂_listings declared.forall₂_listBy
  rintro listing block signature ⟨key, otherNames, otherKey, -, -, otherSingle, rfl⟩
    ⟨type, keyed, rfl⟩
  rw [Entity.keyCode_of_single otherSingle] at keyed
  obtain rfl := Except.ok.inj keyed
  obtain ⟨_, _, names⟩ := exists_of_namesOf of.names
  rw [names]
  exact renderListBy_eq_methodBlock _ _ _ _ _ _

theorem Implements.isImplementation {e : Entity} {block signature : String}
    (h : Implements e block signature) : isImplementation block = true := by
  obtain ⟨body, rfl⟩ := h
  exact isImplementation_methodBlock _ _ _

theorem not_isImplementation_of_mem_declarations {names : Names} {fields values : Fragment}
    {item : String} (member : item ∈ declarations inflector file names fields values) :
    isImplementation item = false := by
  have commented : ∀ head body : String, isImplementation (block ("/// " ++ head) body) = false ∧
      isImplementation (emptyBlock ("/// " ++ head)) = false := by
    intro head body
    simp [isImplementation, block, emptyBlock, List.isPrefixOf]
  simp only [declarations, List.mem_cons, List.not_mem_nil, or_false] at member
  rcases member with rfl | rfl | rfl | rfl
  · simp only [renderInternal, String.append_assoc, commented]
  · simp only [renderImplementation, String.append_assoc, commented]
  · simp only [renderParameters, String.append_assoc]
    split
    · exact (commented _ "").2
    · exact (commented _ _).1
  · simp only [renderConstructor, String.append_assoc, commented]

theorem isImplementation_of_mem_blocks (of : c.Of inflector file)
    (declared : g.Of inflector file.entity) {block : String}
    (member : block ∈ c.associates ++ c.listings) : isImplementation block = true := by
  rcases List.mem_append.1 member with member | member
  · obtain ⟨_, -, implements⟩ := exists_of_forall₂ (forall₂_associates of declared).flip member
    exact Implements.isImplementation implements
  · obtain ⟨_, -, implements⟩ := exists_of_forall₂ (forall₂_listings of declared).flip member
    exact Implements.isImplementation implements

theorem filter_items (of : c.Of inflector file) (declared : g.Of inflector file.entity) :
    (c.items inflector file).filter isImplementation = c.associates ++ c.listings := by
  have declarations : (declarations inflector file c.names c.fields c.values).filter
      isImplementation = [] := List.filter_eq_nil_iff.2 fun _ member =>
    Bool.eq_false_iff.1 (not_isImplementation_of_mem_declarations member)
  have blocks : (c.associates ++ c.listings).filter isImplementation =
      c.associates ++ c.listings :=
    List.filter_eq_self.2 fun _ member => isImplementation_of_mem_blocks of declared member
  rw [Contents.items, List.filter_append, declarations, blocks, List.nil_append]

end Files

end Storage
end Scaffold
