import Scaffold.Proofs.Storage.Blocks
import Scaffold.Proofs.Storage.Constructors
import Scaffold.Proofs.Storage.Markers
import Scaffold.Proofs.Storage.Texts
import Scaffold.Proofs.Text.Lines
import Scaffold.Proofs.Text.Literal

/-! The literals in storage files keep their texts. A literal is printed into a line of a block, which
goes through up to three indentations before it is part of a file; the line comes through as it is,
since a literal has no line break and every such line is followed by the end of its block. So each
literal stands on a line of the file, where reading it gives back the text. -/

namespace Scaffold.Storage
open Model Code Rules
open Text Lines

/-! ## Lines with literals -/

/-- A piece of a line of code: as it stands, or the literal of a text. -/
inductive Segment
  | code (text : String)
  | literal (text : String)

namespace Segment

def print : Segment → String
  | code text => text
  | literal text => Literal.quoted text

/-- Whether a piece is free of line breaks; a literal always is. -/
def unbroken : Segment → Bool
  | code text => !text.toList.contains '\n' && !text.toList.contains '\r'
  | literal _ => true

theorem line_breaks_not_mem_print {s : Segment} (whole : s.unbroken = true) :
    '\n' ∉ s.print.toList ∧ '\r' ∉ s.print.toList := by
  cases s with
  | code text => simpa [unbroken, print] using whole
  | literal text => exact Literal.line_breaks_not_mem_quoted text

end Segment

def printed (line : List Segment) : String :=
  String.join (line.map Segment.print)

theorem isLine_printed {lead : String} {rest : List Segment} (filled : lead ≠ "")
    (whole : (Segment.code lead :: rest).all Segment.unbroken = true) :
    IsLine (printed (.code lead :: rest)) := by
  have breaks : ∀ s ∈ Segment.code lead :: rest, '\n' ∉ s.print.toList ∧ '\r' ∉ s.print.toList :=
    fun s member => s.line_breaks_not_mem_print (List.all_eq_true.1 whole s member)
  refine ⟨?_, ?_, ?_⟩
  · simp [printed, Segment.print, filled]
  · rw [printed, String.toList_join, List.mem_flatMap]
    rintro ⟨text, member, inside⟩
    obtain ⟨s, hs, rfl⟩ := List.mem_map.1 member
    exact (breaks s hs).1 inside
  · rw [printed, String.toList_join, List.mem_flatMap]
    rintro ⟨text, member, inside⟩
    obtain ⟨s, hs, rfl⟩ := List.mem_map.1 member
    exact (breaks s hs).2 inside

def listed : List String → List Segment
  | [] => []
  | [text] => [.literal text]
  | text :: rest => .literal text :: .code ", " :: listed rest

theorem printed_append (line more : List Segment) :
    printed (line ++ more) = printed line ++ printed more := by
  simp [printed]

theorem printed_listed (texts : List String) :
    printed (listed texts) = ", ".intercalate (texts.map Literal.quoted) := by
  fun_induction listed texts with
  | case1 => rfl
  | case2 text => simp [printed, Segment.print]
  | case3 text rest other ih =>
    have more : rest.map Literal.quoted ≠ [] := fun none => other (List.map_eq_nil_iff.1 none)
    rw [List.map_cons, String.intercalate_cons_of_ne_nil more, ← ih]
    simp [printed, Segment.print, String.append_assoc]

def predicateLine (p : SearchPredicate) : List Segment :=
  [.code "data::SearchPredicateDescriptor::new(", .literal p.name, .code ", ", .literal p.label,
    .code ", &["] ++ listed p.operators ++ [.code "]),"]

/-- The lines with literals in the file of an entity with its names, and how far each is indented. -/
inductive LiteralLine (inflector : Inflector) (e : Entity) (names : Names) :
    Nat → List Segment → Prop
  | table : LiteralLine inflector e names 8 [.code "table: ", .literal names.table, .code ","]
  | storedColumn {operations : OperationSet} {key : Field}
      (stored : operations ∈ e.capabilities.getAll Capability.crudType)
      (filled : operations.isEmpty = false) (single : e.keyFields = [key]) :
    LiteralLine inflector e names 12 [.code "find_column: Some(",
      .literal (names.table ++ "." ++ inflector.snake key.name), .code "),"]
  | filteredColumn {key : Field} (marked : e.has Capability.filterKeysType)
      (single : e.keyFields = [key]) :
    LiteralLine inflector e names 12 [.code "find_column: ", .literal (inflector.snake key.name),
      .code ","]
  | predicate {predicates : List SearchPredicate} {p : SearchPredicate}
      (marked : e.has Capability.searchType)
      (given : predicates ∈ e.capabilities.getAll Capability.searchPredicatesType)
      (member : p ∈ predicates) :
    LiteralLine inflector e names 16 (predicateLine p)
  | associationTable {child : Entity} {childNames : Names} (member : child ∈ childrenOf e)
      (named : namesOf child inflector = .ok childNames) :
    LiteralLine inflector e names 12 [.code "association_table: ",
      .literal (names.associationTable childNames), .code ","]
  | parentColumn {child : Entity} {key : Field} (member : child ∈ childrenOf e)
      (single : e.keyFields = [key]) :
    LiteralLine inflector e names 12 [.code "parent_column_name: ",
      .literal (names.associationColumn inflector key.name), .code ","]
  | childColumn {child : Entity} {childNames : Names} {childKey : Field}
      (member : child ∈ childrenOf e) (named : namesOf child inflector = .ok childNames)
      (single : child.keyFields = [childKey]) :
    LiteralLine inflector e names 12 [.code "child_column_name: ",
      .literal (childNames.associationColumn inflector childKey.name), .code ","]
  | listing {listing : KeyListing Entity} {otherNames : Names} {key otherKey : Field}
      (member : listing ∈ listingsOf e)
      (named : namesOf listing.associated inflector = .ok otherNames)
      (single : e.keyFields = [key]) (otherSingle : listing.associated.keyFields = [otherKey]) :
    LiteralLine inflector e names 8
      [.code "self.template.do_list(ctx, |query| query.join(",
        .literal (joinClause inflector (listingTable names otherNames listing.reversed) names
          key.name), .code ").filter(",
        .literal (filterClause inflector (listingTable names otherNames listing.reversed)
          otherNames otherKey.name), .code ", key), params)"]

theorem unbroken_listed (texts : List String) :
    (listed texts).all Segment.unbroken = true := by
  have comma : (Segment.code ", ").unbroken = true := by decide
  fun_induction listed texts with
  | case1 => rfl
  | case2 text => rfl
  | case3 text rest other ih => simp [Segment.unbroken, ih]

section Lines
variable {inflector : Inflector} {e : Entity} {names : Names} {width : Nat} {line : List Segment}

theorem LiteralLine.isLine (h : LiteralLine inflector e names width line) :
    IsLine (printed line) := by
  cases h with
  | @predicate predicates p marked given member =>
    have whole : (predicateLine p).all Segment.unbroken = true := by
      rw [predicateLine, List.all_append, List.all_append, unbroken_listed]
      rfl
    exact isLine_printed (by decide) whole
  | _ => exact isLine_printed (by decide) rfl

end Lines

/-! ## Blocks around a line -/

section Blocks
variable {item line : String}

theorem templateValue_eq_append (field template options : String) (entries : Fragment) :
    templateValue field template options entries =
      field ++ ": data::mapping::" ++ template ++ "::new(data::mapping::" ++ options ++ " \x7b" ++
        ("\n" ++ entries.render 4 "," ++ "\n" ++ "\x7d)") := by
  have opened : " \x7b\n" = " \x7b" ++ "\n" := rfl
  have closed : "\n\x7d)" = "\n" ++ "\x7d)" := rfl
  rw [templateValue, opened, closed]
  simp only [String.append_assoc]

theorem templateStatement_eq_append (parameters : Fragment) :
    templateStatement parameters =
      "let " ++ templateSlot
        ++ " = data::mapping::MappingTemplate::new(data::mapping::MappingTemplateParams \x7b" ++
        ("\n" ++ parameters.render 4 "," ++ "\n" ++ "\x7d);") := by
  have opened : " = data::mapping::MappingTemplate::new(data::mapping::MappingTemplateParams \x7b\n" =
      " = data::mapping::MappingTemplate::new(data::mapping::MappingTemplateParams \x7b" ++ "\n" :=
    rfl
  have closed : "\n\x7d);" = "\n" ++ "\x7d);" := rfl
  rw [templateStatement, opened, closed]
  simp only [String.append_assoc]

variable {f : Fragment}

theorem encloses_templateValue_item (field template options : String) (member : item ∈ f.items)
    (whole : IsLine item) :
    Encloses (templateValue field template options f) (blanks 4 ++ item ++ ",") := by
  rw [templateValue_eq_append]
  exact (Fragment.encloses_render_item member whole 4 "," ⟨'\x7d', by decide⟩).append_left _

theorem encloses_templateValue (field template options : String) (member : item ∈ f.items)
    (enclosed : Encloses item line) (whole : IsLine line) :
    Encloses (templateValue field template options f) (blanks 4 ++ line) := by
  rw [templateValue_eq_append]
  exact (((Fragment.encloses_render member enclosed whole 4 ",").append_left _).append_right
    _).append_right _ |>.append_left _

theorem encloses_templateStatement_item (member : item ∈ f.items) (whole : IsLine item) :
    Encloses (templateStatement f) (blanks 4 ++ item ++ ",") := by
  rw [templateStatement_eq_append]
  exact (Fragment.encloses_render_item member whole 4 "," ⟨'\x7d', by decide⟩).append_left _

theorem encloses_block {body : String} (enclosed : Encloses body line) (head : String) :
    Encloses (block head body) line :=
  ((enclosed.append_left _).append_right _)

theorem encloses_renderConstructor_statement (e : Entity) (names : Names)
    (parameters : Fragment) {statements : Fragment} (values : Fragment) (member : item ∈ statements.items)
    (enclosed : Encloses item line) (whole : IsLine line) :
    Encloses (renderConstructor e names parameters statements values) (blanks 4 ++ line) := by
  refine encloses_block ?_ _
  have moved := Fragment.encloses_render member enclosed whole 4 ""
  exact ((((moved.append_right _).append_right _).append_right _).append_right _).append_right _

theorem encloses_renderConstructor_value (e : Entity) (names : Names)
    (parameters statements : Fragment) {values : Fragment} (member : item ∈ values.items)
    (enclosed : Encloses item line) (whole : IsLine line) :
    Encloses (renderConstructor e names parameters statements values) (blanks 8 ++ line) := by
  refine encloses_block ?_ _
  exact ((Fragment.encloses_render member enclosed whole 8 ",").append_left _).append_right _

theorem encloses_renderAssociate_item (implementation method key childKey : String)
    (member : item ∈ f.items) (whole : IsLine item) :
    Encloses (renderAssociate implementation method key childKey f)
      (blanks 12 ++ item ++ ",") := by
  refine encloses_block ?_ _
  have opened : "        data::mapping::associate(ctx, data::mapping::AssociateParams \x7b\n" =
      "        data::mapping::associate(ctx, data::mapping::AssociateParams \x7b" ++ "\n" := rfl
  have closed : "\n        \x7d)\n    \x7d" = "\n" ++ "        \x7d)\n    \x7d" := rfl
  have visible : Visible "        \x7d)\n    \x7d" := ⟨'\x7d', by decide⟩
  have moved := Fragment.encloses_render_item member whole 12 "," visible
  rw [opened, closed]
  have done := moved.append_left ("    pub fn associate_" ++ method
    ++ "(&self, ctx: &data::Context, key: &" ++ key ++ ", add: &[" ++ childKey ++ "], remove: &["
    ++ childKey ++ "]) -> Result<(), data::Error> \x7b\n"
    ++ "        data::mapping::associate(ctx, data::mapping::AssociateParams \x7b")
  simpa only [String.append_assoc] using done

theorem blanks_blanks (width more : Nat) (line : String) :
    blanks width ++ (blanks more ++ line) = blanks (width + more) ++ line := by
  rw [← String.append_assoc, blanks, blanks, blanks, ← String.ofList_append,
    List.replicate_append_replicate]

theorem encloses_option {e : Entity} {names : Names} {field template options : String}
    {parameters statements values : Fragment}
    (member : templateValue field template options f ∈ values.items) (option : item ∈ f.items)
    (whole : IsLine item) :
    Encloses (renderConstructor e names parameters statements values)
      (blanks 12 ++ (item ++ ",")) := by
  have moved : IsLine (blanks 4 ++ item ++ ",") :=
    (whole.blanks 4).append (by decide) (by decide)
  have enclosed := encloses_renderConstructor_value e names parameters statements member
    (encloses_templateValue_item field template options option whole) moved
  rwa [String.append_assoc, blanks_blanks] at enclosed

end Blocks

/-! ## Values -/

section Values
variable {inflector : Inflector} {file : StorageFile} {c : Contents}

theorem Contents.Of.exists_lines (of : c.Of inflector file)
    (rule : Rule parts (FragmentBody parts) .fieldValues)
    (member : rule ∈ fragmentRules .fieldValues) :
    ∃ lines, Rule.lines (V := parts) (k := Part.fieldValues) (answers inflector) inflector
        (.inheriting (constructorStatements file.entity c.names))
        ⟨file.entity, file.interfaceModule⟩ rule = .ok lines ∧ lines ⊆ c.values.items := by
  obtain ⟨pieces, each, values⟩ :=
    exists_lines_of_answers (k := .fieldValues) (by decide) of.values
  obtain ⟨lines, piece, added⟩ := exists_of_forall₂ each.flip member
  refine ⟨lines, added, fun line hl => ?_⟩
  rw [values, Fragment.items_extend]
  exact List.mem_append_right _ (List.mem_flatten.2 ⟨lines, piece, hl⟩)

theorem Contents.Of.exists_crudValue (of : c.Of inflector file) {operations : OperationSet}
    (stored : operations ∈ file.entity.capabilities.getAll Capability.crudType)
    (filled : operations.isEmpty = false) :
    ∃ options : Fragment, templateValue "crud_template" "CrudTemplate" "CrudTemplateOptions"
        options ∈ c.values.items ∧
      "find_column: " ++ findColumn file.entity c.names inflector ∈ options.items := by
  obtain ⟨lines, added, within⟩ := of.exists_lines
    ⟨valuesOf Capability.crudType, crudValueBody⟩ (by simp [fragmentRules])
  rw [lines_crudValue, map_eq_ok] at added
  obtain ⟨valued, made, rfl⟩ := added
  simp only [crudValueBody, Script.value_bind, Script.value_lift, Script.value_ite,
    Script.value_pure, Script.value_buildFragment] at made
  obtain ⟨some_operation, asked, made⟩ := bind_eq_ok.1 made
  obtain rfl := (hasOperations_iff asked).2 ⟨operations, stored, filled⟩
  obtain ⟨names, named, made⟩ := bind_eq_ok.1 made
  obtain ⟨template, -, made⟩ := bind_eq_ok.1 made
  obtain ⟨further, -, made⟩ := bind_eq_ok.1 made
  obtain rfl := Except.ok.inj made
  obtain rfl := Except.ok.inj (of.names.symm.trans named)
  exact ⟨_, within (Fragment.mem_items_push _ _), Fragment.mem_items_push _ _⟩

theorem Contents.Of.exists_searchValue (of : c.Of inflector file)
    (marked : file.entity.has Capability.searchType) {predicates : List SearchPredicate}
    (given : predicates ∈ file.entity.capabilities.getAll Capability.searchPredicatesType) :
    ∃ options : Fragment, templateValue "search_template" "SearchTemplate" "SearchTemplateParams"
        options ∈ c.values.items ∧
      "search_predicates: " ++ renderPredicates (some predicates) ∈ options.items := by
  obtain ⟨lines, added, within⟩ := of.exists_lines
    ⟨valuesOf Capability.searchType, searchValueBody⟩ (by simp [fragmentRules])
  obtain ⟨valued, made, rfl⟩ := exists_of_lines added marked
  simp only [searchValueBody, Script.value_bind, Script.value_lift, Script.value_pure] at made
  obtain ⟨template, -, made⟩ := bind_eq_ok.1 made
  obtain ⟨predicates?, found, made⟩ := bind_eq_ok.1 made
  obtain rfl := Except.ok.inj made
  have answer := (Bag.get_eq_ok_iff _ _ _).1 (mapError_eq_ok.1 found)
  rw [answer, Option.mem_toList] at given
  cases given
  exact ⟨_, within (Fragment.mem_items_push _ _), Fragment.mem_items_push _ _⟩

theorem Contents.Of.exists_filterKeysValue (of : c.Of inflector file)
    (marked : file.entity.has Capability.filterKeysType) {key : Field}
    (single : file.entity.keyFields = [key]) :
    ∃ options : Fragment, templateValue "filter_keys_template" "FilterKeysTemplate"
        "FilterKeysTemplateOptions" options ∈ c.values.items ∧
      "find_column: " ++ Literal.quoted (inflector.snake key.name) ∈ options.items := by
  obtain ⟨lines, added, within⟩ := of.exists_lines
    ⟨valuesOf Capability.filterKeysType, filterKeysValueBody⟩ (by simp [fragmentRules])
  obtain ⟨valued, made, rfl⟩ := exists_of_lines added marked
  simp only [filterKeysValueBody, Script.value_bind, Script.value_lift, Script.value_pure] at made
  obtain ⟨keyField, keyed, made⟩ := bind_eq_ok.1 made
  obtain ⟨template, -, made⟩ := bind_eq_ok.1 made
  obtain rfl := Except.ok.inj made
  have fields := (singleKeyOf_eq_ok_iff _ _ _).1 keyed
  obtain rfl := List.singleton_inj.1 (single.symm.trans fields)
  exact ⟨_, within (Fragment.mem_items_push _ _), Fragment.mem_items_push _ _⟩

end Values

/-! ## Files -/

theorem printed_predicateLine (p : SearchPredicate) :
    printed (predicateLine p) = "data::SearchPredicateDescriptor::new(" ++ Literal.quoted p.name
      ++ ", " ++ Literal.quoted p.label ++ ", &["
      ++ ", ".intercalate (p.operators.map Literal.quoted) ++ "])," := by
  rw [predicateLine, printed_append, printed_append, printed_listed]
  simp only [printed, Segment.print, List.map_cons, List.map_nil, String.join_cons,
    String.join_nil, String.append_assoc, String.append_empty]

theorem renderPredicate_eq (p : SearchPredicate) :
    renderPredicate p = blanks 4 ++ printed (predicateLine p) := by
  have wide : blanks 4 = "    " := rfl
  unfold renderPredicate
  simp only [wide, printed_predicateLine, ← String.append_assoc, String.reduceAppend]

theorem encloses_renderPredicates {predicates : List SearchPredicate} {p : SearchPredicate}
    (member : p ∈ predicates) :
    Encloses ("search_predicates: " ++ renderPredicates (some predicates))
      (blanks 4 ++ printed (predicateLine p)) := by
  have ends : Visible "]" := ⟨']', by decide⟩
  have lines := encloses_join (List.mem_map_of_mem (f := renderPredicate) member) ends
  have opened : "vec![\n" = "vec![" ++ "\n" := rfl
  have closed : "\n]" = "\n" ++ "]" := rfl
  have whole := lines.append_left ("search_predicates: " ++ "vec![")
  rw [← renderPredicate_eq, renderPredicates, opened, closed]
  · simpa only [String.append_assoc] using whole
  · exact List.ne_nil_of_mem member

section Items
variable {inflector : Inflector} {file : StorageFile} {c : Contents} {width : Nat}
  {line : List Segment}

theorem constructor_mem_items (inflector : Inflector) (file : StorageFile) (c : Contents) :
    renderConstructor file.entity c.names (Fragment.empty.extend ((childrenOf file.entity).map
      (repositoryDeclaration inflector file.interfaceModule)))
      (constructorStatements file.entity c.names) c.values ∈ c.items inflector file := by
  simp [Contents.items, declarations]

theorem encloses_table (e : Entity) (names : Names) (parameters values : Fragment) :
    Encloses (renderConstructor e names parameters (constructorStatements e names) values)
      (blanks 8 ++ printed [.code "table: ", .literal names.table, .code ","]) := by
  have item : "table: " ++ Literal.quoted names.table ∈
      (templateParameters e names false).items := by
    simp [templateParameters]
  have whole : IsLine ("table: " ++ Literal.quoted names.table) :=
    isLine_quoted (by decide) _
  have moved : IsLine (blanks 4 ++ ("table: " ++ Literal.quoted names.table) ++ ",") :=
    (whole.blanks 4).append (by decide) (by decide)
  have statement : templateStatement (templateParameters e names false) ∈
      (constructorStatements e names).items := by
    simp [constructorStatements]
  have enclosed := encloses_renderConstructor_statement e names parameters values statement
    (encloses_templateStatement_item item whole) moved
  rw [String.append_assoc, blanks_blanks] at enclosed
  simpa [printed, Segment.print, String.append_assoc] using enclosed

theorem encloses_predicate {e : Entity} {names : Names} {parameters statements values options :
    Fragment} {predicates : List SearchPredicate} {p : SearchPredicate} (member : p ∈ predicates)
    (value : templateValue "search_template" "SearchTemplate" "SearchTemplateParams" options ∈
      values.items)
    (option : "search_predicates: " ++ renderPredicates (some predicates) ∈ options.items)
    (whole : IsLine (printed (predicateLine p))) :
    Encloses (renderConstructor e names parameters statements values)
      (blanks 16 ++ printed (predicateLine p)) := by
  have inside := encloses_templateValue "search_template" "SearchTemplate" "SearchTemplateParams"
    option (encloses_renderPredicates member) (whole.blanks 4)
  have enclosed := encloses_renderConstructor_value e names parameters statements value inside
    ((whole.blanks 4).blanks 4)
  rwa [blanks_blanks, blanks_blanks] at enclosed

theorem encloses_query (implementation method key typePath join filter : String) :
    Encloses (renderListBy implementation method key typePath join filter)
      (blanks 8 ++ printed [.code "self.template.do_list(ctx, |query| query.join(",
        .literal join, .code ").filter(", .literal filter, .code ", key), params)"]) := by
  have wide : blanks 8 = "        " := rfl
  have lead : "        self.template.do_list(ctx, |query| query.join(" =
      "        " ++ "self.template.do_list(ctx, |query| query.join(" := rfl
  have whole : blanks 8 ++ printed [.code "self.template.do_list(ctx, |query| query.join(",
      .literal join, .code ").filter(", .literal filter, .code ", key), params)"] =
        "        self.template.do_list(ctx, |query| query.join(" ++ Literal.quoted join ++
          ").filter(" ++ Literal.quoted filter ++ ", key), params)" := by
    simp only [wide, lead, printed, Segment.print, List.map_cons, List.map_nil, String.join_cons,
      String.join_nil, String.append_empty, String.append_assoc]
  have visible : Visible "\x7d" := ⟨'\x7d', by decide⟩
  rw [renderListBy_eq_listByText, whole]
  exact @encloses_join_between [_, _, "    \x7d"] _ _ _
    (List.mem_cons_of_mem _ List.mem_cons_self) visible

theorem printed_single (lead text : String) :
    printed [.code lead, .literal text, .code ","] = lead ++ Literal.quoted text ++ "," := by
  simp [printed, Segment.print, String.append_assoc]

theorem Contents.Of.exists_association (of : c.Of inflector file) {child : Entity}
    (member : child ∈ childrenOf file.entity) :
    ∃ key childNames childKey, file.entity.keyFields = [key] ∧
      namesOf child inflector = .ok childNames ∧ child.keyFields = [childKey] ∧
      ∃ block ∈ c.items inflector file, ∀ item ∈ (associateParameters inflector c.names childNames
        key.name childKey.name (repositoryField inflector child)).items, IsLine item →
          Encloses block (blanks 12 ++ (item ++ ",")) := by
  obtain ⟨block, made, key, childNames, childKey, single, named, childSingle, rfl⟩ :=
    exists_of_forall₂ of.forall₂_associates.flip member
  refine ⟨key, childNames, childKey, single, named, childSingle, _,
    List.mem_append_right _ (List.mem_append_left _ made), fun item listed whole => ?_⟩
  rw [← String.append_assoc]
  exact encloses_renderAssociate_item _ _ _ _ listed whole

theorem findColumn_of_single {e : Entity} {key : Field} (single : e.keyFields = [key])
    (names : Names) (inflector : Inflector) :
    "find_column: " ++ findColumn e names inflector = "find_column: Some(" ++
      Literal.quoted (names.table ++ "." ++ inflector.snake key.name) ++ ")" := by
  have found : e.singleKey "Crud" = .ok key := (e.singleKey_eq_ok_iff _ _).2 single
  have lead : "find_column: Some(" = "find_column: " ++ "Some(" := rfl
  rw [findColumn, found, lead]
  simp only [String.append_assoc]

theorem printed_optional (lead text : String) :
    printed [.code lead, .literal text, .code "),"] =
      lead ++ Literal.quoted text ++ ")" ++ "," := by
  have closed : ")," = ")" ++ "," := rfl
  simp only [printed, Segment.print, List.map_cons, List.map_nil, String.join_cons,
    String.join_nil, String.append_empty, closed, String.append_assoc]

theorem Contents.Of.exists_item (of : c.Of inflector file)
    (h : LiteralLine inflector file.entity c.names width line) :
    ∃ item ∈ c.items inflector file, Encloses item (blanks width ++ printed line) := by
  have constructor_mem := constructor_mem_items inflector file c
  cases h with
  | table => exact ⟨_, constructor_mem, encloses_table _ _ _ _⟩
  | @storedColumn operations key stored filled single =>
    obtain ⟨options, member, listed⟩ := of.exists_crudValue stored filled
    rw [findColumn_of_single single] at listed
    have quoted : IsLine ("find_column: Some(" ++
        Literal.quoted (c.names.table ++ "." ++ inflector.snake key.name)) :=
      isLine_quoted (by decide) _
    have whole : IsLine (_ ++ ")") := quoted.append (by decide) (by decide)
    refine ⟨_, constructor_mem, ?_⟩
    rw [printed_optional]
    exact encloses_option member listed whole
  | filteredColumn marked single =>
    obtain ⟨options, member, listed⟩ := of.exists_filterKeysValue marked single
    refine ⟨_, constructor_mem, ?_⟩
    rw [printed_single]
    exact encloses_option member listed (isLine_quoted (by decide) _)
  | @predicate predicates p marked given member =>
    obtain ⟨options, value, listed⟩ := of.exists_searchValue marked given
    have printed : LiteralLine inflector file.entity c.names 16 (predicateLine p) :=
      .predicate marked given member
    exact ⟨_, constructor_mem, encloses_predicate member value listed printed.isLine⟩
  | associationTable member named =>
    obtain ⟨key, childNames, childKey, -, childNamed, -, block, made, lines⟩ :=
      of.exists_association member
    obtain rfl := Except.ok.inj (named.symm.trans childNamed)
    refine ⟨block, made, ?_⟩
    rw [printed_single]
    exact lines _ (by simp [associateParameters]) (isLine_quoted (by decide) _)
  | parentColumn member single =>
    obtain ⟨key, childNames, childKey, single', -, -, block, made, lines⟩ :=
      of.exists_association member
    obtain rfl := List.singleton_inj.1 (single.symm.trans single')
    refine ⟨block, made, ?_⟩
    rw [printed_single]
    exact lines _ (by simp [associateParameters]) (isLine_quoted (by decide) _)
  | childColumn member named single =>
    obtain ⟨key, childNames, childKey, -, childNamed, single', block, made, lines⟩ :=
      of.exists_association member
    obtain rfl := Except.ok.inj (named.symm.trans childNamed)
    obtain rfl := List.singleton_inj.1 (single.symm.trans single')
    refine ⟨block, made, ?_⟩
    rw [printed_single]
    exact lines _ (by simp [associateParameters]) (isLine_quoted (by decide) _)
  | listing member named single otherSingle =>
    obtain ⟨block, made, key, otherNames, otherKey, single', named', otherSingle', rfl⟩ :=
      exists_of_forall₂ of.forall₂_listings.flip member
    obtain rfl := Except.ok.inj (named.symm.trans named')
    obtain rfl := List.singleton_inj.1 (single.symm.trans single')
    obtain rfl := List.singleton_inj.1 (otherSingle.symm.trans otherSingle')
    exact ⟨_, List.mem_append_right _ (List.mem_append_right _ made), encloses_query _ _ _ _ _ _⟩

end Items

/-! ## The index -/

section Index
variable {inflector : Inflector} {d : StorageIndex} {source source' : SourceFile}

theorem emitIndex_eq_answers (inflector : Inflector) (source : SourceFile) (d : StorageIndex)
    (w : World) :
    (registry.withInflector inflector).emitFile (V := parts) (k := .storageIndex) source d w =
      (answers inflector (.emitFile (V := parts) (k := .storageIndex) source d), w) :=
  Registry.emitFile_eq_answers (k := Part.storageIndex)
    (Registry.layered_withInflector layered_registry inflector) (Part.rank_lt_depthLimit _)
    source d w

theorem answers_storageIndex_iff :
    answers inflector (.emitFile (V := parts) (k := .storageIndex) source d) = (.ok (), source') ↔
      ∃ constructors, d.entities.mapM (fun e => (namesOf e inflector).map (·.constructor)) =
          .ok constructors ∧
        source' = ({ source with header? := d.header? <|> source.header? }.use runtimeModule).add
          (renderIndex d.indexModule (runtimeConstructors ++ constructors)) := by
  rw [answers_emitFile]
  change (fileScript (V := parts) (k := Part.storageIndex) inflector d
    (fileRules .storageIndex)).Makes (answers inflector) source () source' ↔ _
  rw [fileRules, makes_fileScript_cons]
  simp only [makes_fileScript_nil, Rule.applies, Part.always, Key.admits_always, if_true]
  unfold indexBody
  simp only [FileScript.makes_bind, FileScript.makes_lift, makes_setHeader?, FileScript.use,
    FileScript.add, FileScript.makes_change]
  constructor
  · rintro ⟨_, ⟨_, _, rfl, _, _, rfl, constructors, _, ⟨made, rfl⟩, rfl⟩, rfl⟩
    exact ⟨constructors, made, rfl⟩
  · rintro ⟨constructors, made, rfl⟩
    exact ⟨_, ⟨(), _, rfl, (), _, rfl, constructors, _, ⟨made, rfl⟩, rfl⟩, rfl⟩

def indexLine (d : StorageIndex) : List Segment :=
  [.code "data::mapping::Module::new(", .literal d.indexModule, .code ")"]

theorem encloses_indexLine (d : StorageIndex) {constructors : List String}
    (filled : constructors ≠ []) :
    Encloses (renderIndex d.indexModule constructors) (blanks 4 ++ printed (indexLine d)) := by
  have wide : blanks 4 = "    " := rfl
  have lead : "    data::mapping::Module::new(" = "    " ++ "data::mapping::Module::new(" := rfl
  have whole : blanks 4 ++ printed (indexLine d) =
      "    data::mapping::Module::new(" ++ Literal.quoted d.indexModule ++ ")" := by
    simp only [wide, lead, indexLine, printed, Segment.print, List.map_cons, List.map_nil,
      String.join_cons, String.join_nil, String.append_empty, String.append_assoc]
  have visible : Visible "\x7d" := ⟨'\x7d', by decide⟩
  rw [renderIndex_eq d.indexModule filled, whole]
  exact encloses_join_between (List.mem_cons_of_mem _ List.mem_cons_self) visible

end Index

/-! ## The texts -/

/-- The line stands in a text as it was printed, indented, and reading its literals gives back what
they were made from. -/
structure Survives (text : String) (width : Nat) (line : List Segment) : Prop where
  stands : ∃ before after, text = before ++ "\n" ++ (blanks width ++ printed line) ++ "\n" ++ after
  single : '\n' ∉ (printed line).toList ∧ '\r' ∉ (printed line).toList
  read : ∀ original, .literal original ∈ line →
    Literal.read? (Literal.quoted original) = some original

theorem Survives.of_encloses {text : String} {width : Nat} {line : List Segment}
    (enclosed : Encloses text (blanks width ++ printed line)) (whole : IsLine (printed line)) :
    Survives text width line := by
  obtain ⟨before, after, stands, -⟩ := enclosed
  exact ⟨⟨before, after, stands⟩, ⟨whole.feed, whole.carriage⟩,
    fun original _ => Literal.read?_quoted original⟩

/-- Every literal in a generated storage file or index stands on one line of its text, printed as
it was made however often the line was indented, and is read back as the string it was made from. -/
theorem literals_survive (inflector : Inflector) :
    (∀ (file : StorageFile) (source : SourceFile) (w : World),
      ((registry.withInflector inflector).emitFile (V := parts) (k := .storageFile) source file
        w).1.1 = .ok () →
      ∃ names, namesOf file.entity inflector = .ok names ∧
        ∀ width line, LiteralLine inflector file.entity names width line →
          Survives ((registry.withInflector inflector).emitFile (V := parts) (k := .storageFile)
            source file w).1.2.render width line) ∧
    ∀ (d : StorageIndex) (source : SourceFile) (w : World),
      ((registry.withInflector inflector).emitFile (V := parts) (k := .storageIndex) source d
        w).1.1 = .ok () →
      Survives ((registry.withInflector inflector).emitFile (V := parts) (k := .storageIndex)
        source d w).1.2.render 4 (indexLine d) := by
  constructor
  · intro file source w emitted
    obtain ⟨c, of, items⟩ := exists_contents_of_emitted emitted
    refine ⟨c.names, of.names, fun width line printed => .of_encloses ?_ printed.isLine⟩
    obtain ⟨item, made, enclosed⟩ := of.exists_item printed
    refine SourceFile.encloses_render ?_ enclosed
    rw [items]
    exact List.mem_append_right _ made
  · intro d source w emitted
    rw [emitIndex_eq_answers] at emitted ⊢
    obtain ⟨constructors, -, outcome⟩ := answers_storageIndex_iff.1 (Prod.ext emitted rfl)
    have filled : runtimeConstructors ++ constructors ≠ [] := List.cons_ne_nil _ _
    have enclosed := encloses_indexLine d filled
    refine .of_encloses (SourceFile.encloses_render ?_ enclosed) (isLine_printed (by decide) rfl)
    have items := congrArg SourceFile.items outcome
    rw [items]
    exact List.mem_append_right _ (List.mem_singleton_self _)

/-- A search predicate with control characters and a combining accent in its texts. -/
def brokenPredicate : SearchPredicate :=
  ⟨"\r\n", "e\u0301", ["\t", "\u0000"]⟩

/-- A file for an entity whose table has a quote, a backslash and line breaks in its name. -/
def brokenTexts : StorageFile where
  package := "store"
  interfaceModule := "crate::model"
  entity := ⟨"Pet", "Pet", [⟨"id", "u64", ⟨true⟩⟩],
    ⟨[.storage { tableName? := some "a\"b\\\n\r" }, .crud .full, .search,
      .searchPredicates [brokenPredicate]]⟩⟩

def brokenIndex : StorageIndex where
  package := "store"
  indexModule := "\\\"\n"
  entities := []

theorem literals_survive_broken :
    ((registry.withInflector .english).emitFile (V := parts) (k := .storageFile)
      { module := "store" } brokenTexts {}).1.1 = .ok () ∧
    Survives ((registry.withInflector .english).emitFile (V := parts) (k := .storageFile)
      { module := "store" } brokenTexts {}).1.2.render 8
        [.code "table: ", .literal "a\"b\\\n\r", .code ","] ∧
    Survives ((registry.withInflector .english).emitFile (V := parts) (k := .storageFile)
      { module := "store" } brokenTexts {}).1.2.render 16
        (predicateLine brokenPredicate) ∧
    Survives ((registry.withInflector .english).emitFile (V := parts) (k := .storageIndex)
      { module := "store" } brokenIndex {}).1.2.render 4 (indexLine brokenIndex) := by
  have emitted : ((registry.withInflector .english).emitFile (V := parts) (k := .storageFile)
      { module := "store" } brokenTexts {}).1.1 = .ok () := (emitFile_ok_iff _ _).2
    ⟨by decide, by decide, by decide, by decide, by decide, by decide, by decide⟩
  have indexed : ((registry.withInflector .english).emitFile (V := parts) (k := .storageIndex)
      { module := "store" } brokenIndex {}).1.1 = .ok () := by
    rw [emitIndex_eq_answers]
    exact congrArg Prod.fst (answers_storageIndex_iff.2 ⟨[], rfl, rfl⟩)
  obtain ⟨names, named, lines⟩ := (literals_survive .english).1 _ _ _ emitted
  have table : names.table = "a\"b\\\n\r" := by
    obtain rfl := Except.ok.inj named
    rfl
  have given : [brokenPredicate] ∈
      brokenTexts.entity.capabilities.getAll Capability.searchPredicatesType :=
    List.mem_singleton_self _
  exact ⟨emitted, table ▸ lines _ _ .table,
    lines _ _ (.predicate rfl given (List.mem_singleton_self _)),
    (literals_survive .english).2 _ _ _ indexed⟩

end Scaffold.Storage
