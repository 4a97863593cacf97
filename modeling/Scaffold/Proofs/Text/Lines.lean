import Mathlib.Data.List.Basic
import Scaffold.Code.Fragment
import Scaffold.Code.SourceFile

/-! A line of a text through indentation. Code is put together from blocks that are cut into lines,
moved to the right and joined again, several times over. A line that is not empty, holds no line
break and has further text below it in its block is moved as a whole and nothing else happens to it;
so it can be followed from the innermost block to the file. -/

namespace Scaffold.Text.Lines

/-- A text that makes a line, whatever is above and below it. -/
structure IsLine (line : String) : Prop where
  filled : line ≠ ""
  feed : '\n' ∉ line.toList
  carriage : '\r' ∉ line.toList

instance (line : String) : Decidable (IsLine line) :=
  decidable_of_iff (line ≠ "" ∧ '\n' ∉ line.toList ∧ '\r' ∉ line.toList)
    ⟨fun ⟨filled, feed, carriage⟩ => ⟨filled, feed, carriage⟩,
      fun whole => ⟨whole.filled, whole.feed, whole.carriage⟩⟩

def blanks (width : Nat) : String :=
  String.ofList (List.replicate width ' ')

def Visible (text : String) : Prop :=
  ∃ c ∈ text.toList, c ≠ '\n' ∧ c ≠ '\r'

/-- The line stands between two line feeds of a text, and further below there is something else. -/
def Encloses (text line : String) : Prop :=
  ∃ before after, text = before ++ "\n" ++ line ++ "\n" ++ after ∧ Visible after

theorem Visible.append {text : String} (visible : Visible text) (more : String) :
    Visible (text ++ more) := by
  obtain ⟨c, member, seen⟩ := visible
  exact ⟨c, by simp [member], seen⟩

namespace Encloses
variable {text line : String}

theorem append_left (enclosed : Encloses text line) (lead : String) :
    Encloses (lead ++ text) line := by
  obtain ⟨before, after, rfl, visible⟩ := enclosed
  exact ⟨lead ++ before, after, by simp only [String.append_assoc], visible⟩

theorem append_right (enclosed : Encloses text line) (more : String) :
    Encloses (text ++ more) line := by
  obtain ⟨before, after, rfl, visible⟩ := enclosed
  exact ⟨before, after ++ more, by simp only [String.append_assoc], visible.append more⟩

end Encloses

theorem IsLine.append {front back : String} (first : IsLine front) (feed : '\n' ∉ back.toList)
    (carriage : '\r' ∉ back.toList) : IsLine (front ++ back) := by
  refine ⟨?_, ?_, ?_⟩
  · simp [first.filled]
  · simp [first.feed, feed]
  · simp [first.carriage, carriage]

theorem IsLine.blanks {line : String} (whole : IsLine line) (width : Nat) :
    IsLine (blanks width ++ line) := by
  have others : ∀ mark ≠ ' ', mark ∉ (Lines.blanks width).toList := by
    intro mark other member
    rw [Lines.blanks, String.toList_ofList] at member
    exact other (List.eq_of_mem_replicate member)
  refine ⟨?_, ?_, ?_⟩
  · simp [whole.filled]
  · simp [whole.feed, others '\n' (by decide)]
  · simp [whole.carriage, others '\r' (by decide)]

/-! ## Splitting -/

theorem linesAfter_append_feed (line a b : List Char) :
    linesAfter line (a ++ '\n' :: b) = linesAfter line (a ++ ['\n']) ++ linesAfter [] b := by
  induction a generalizing line with
  | nil => rfl
  | cons c a ih =>
    by_cases feed : c = '\n'
    · simp [linesAfter, feed, ih]
    · simp [linesAfter, feed, ih]

theorem linesAfter_ne_nil (line a : List Char) : linesAfter line (a ++ ['\n']) ≠ [] := by
  induction a generalizing line with
  | nil => simp [linesAfter]
  | cons c a ih =>
    by_cases feed : c = '\n'
    · simp [linesAfter, feed]
    · simp [linesAfter, feed, ih]

theorem linesAfter_append {cs : List Char} (line rest : List Char) (feed : '\n' ∉ cs) :
    linesAfter line (cs ++ rest) = linesAfter (cs.reverse ++ line) rest := by
  induction cs generalizing line with
  | nil => rfl
  | cons c cs ih =>
    rw [List.mem_cons, not_or] at feed
    simp [linesAfter, Ne.symm feed.1, ih _ feed.2]

theorem split_of_isLine {line : String} (whole : IsLine line) :
    split line.toList = [line.toList] ∧ split (line.toList ++ ['\n']) = [line.toList] := by
  have filled : line.toList ≠ [] := mt String.toList_eq_nil_iff.1 whole.filled
  have same : withoutReturn line.toList = line.toList := by
    refine if_neg fun last => whole.carriage ?_
    exact List.mem_of_getLast? last
  constructor
  · have chars := linesAfter_append [] [] whole.feed
    rw [List.append_nil, List.append_nil] at chars
    rw [split, chars]
    simp [linesAfter, filled]
  · rw [split, linesAfter_append [] ['\n'] whole.feed]
    simp [linesAfter, same]

theorem exists_mem_linesAfter {c : Char} (line : List Char) {cs : List Char} (seen : c ≠ '\n' ∧ c ≠ '\r')
    (member : c ∈ line ∨ c ∈ cs) : ∃ l ∈ linesAfter line cs, c ∈ l := by
  induction cs generalizing line with
  | nil =>
    have open_line := member.resolve_right List.not_mem_nil
    exact ⟨line.reverse, by simp [linesAfter, List.ne_nil_of_mem open_line], by simpa using open_line⟩
  | cons d cs ih =>
    by_cases feed : d = '\n'
    · subst feed
      simp only [linesAfter, beq_self_eq_true, if_true, List.mem_cons]
      rcases member with open_line | below
      · refine ⟨_, .inl rfl, ?_⟩
        have kept : c ∈ line.reverse := List.mem_reverse.2 open_line
        unfold withoutReturn
        split
        · rename_i ends
          have whole := List.dropLast_append_getLast? '\r' ends
          rw [← whole] at kept
          simpa [seen.2] using kept
        · exact kept
      · obtain ⟨l, hl, hc⟩ := ih [] (.inr ((List.mem_cons.1 below).resolve_left seen.1))
        exact ⟨l, .inr hl, hc⟩
    · have further : c ∈ d :: line ∨ c ∈ cs := by
        rcases member with open_line | below
        · exact .inl (List.mem_cons_of_mem _ open_line)
        · exact (List.mem_cons.1 below).imp_left fun same => List.mem_cons.2 (.inl same)
      simpa [linesAfter, feed] using ih (d :: line) further

/-! ## Joining -/

theorem join_append {texts more : List String} (first : texts ≠ []) (second : more ≠ []) :
    join (texts ++ more) = join texts ++ "\n" ++ join more :=
  String.intercalate_append_of_ne_nil first second

theorem join_cons (text : String) {more : List String} (below : more ≠ []) :
    join (text :: more) = text ++ "\n" ++ join more := by
  rw [← List.singleton_append, join_append (List.cons_ne_nil _ _) below]
  simp [join]

theorem exists_join_eq {texts : List String} {text : String} (member : text ∈ texts) :
    ∃ before after, join texts = before ++ text ++ after ∧
      (before = "" ∨ ∃ above, before = above ++ "\n") ∧
      (after = "" ∨ ∃ below, after = "\n" ++ below) := by
  obtain ⟨front, back, rfl⟩ := List.append_of_mem member
  obtain ⟨after, tail, below⟩ : ∃ after, join (text :: back) = text ++ after ∧
      (after = "" ∨ ∃ below, after = "\n" ++ below) := by
    cases back with
    | nil => exact ⟨"", by simp [join], .inl rfl⟩
    | cons next back =>
      refine ⟨"\n" ++ join (next :: back), ?_, .inr ⟨_, rfl⟩⟩
      rw [join_cons text (List.cons_ne_nil next back), String.append_assoc]
  cases front with
  | nil => exact ⟨"", after, by simpa using tail, .inl rfl, below⟩
  | cons first front =>
    refine ⟨join (first :: front) ++ "\n", after, ?_, .inr ⟨_, rfl⟩, below⟩
    rw [join_append (List.cons_ne_nil _ _) (List.cons_ne_nil _ _), tail]
    simp only [String.append_assoc]

theorem encloses_join {texts : List String} {line tail : String} (member : line ∈ texts)
    (visible : Visible tail) : Encloses ("\n" ++ join texts ++ "\n" ++ tail) line := by
  obtain ⟨before, after, whole, above, below⟩ := exists_join_eq member
  have front : ∃ lead, "\n" ++ before = lead ++ "\n" := by
    rcases above with rfl | ⟨above, rfl⟩
    · exact ⟨"", rfl⟩
    · exact ⟨"\n" ++ above, String.append_assoc.symm⟩
  have back : ∃ rest, after ++ "\n" = "\n" ++ rest := by
    rcases below with rfl | ⟨below, rfl⟩
    · exact ⟨"", rfl⟩
    · exact ⟨below ++ "\n", String.append_assoc⟩
  obtain ⟨lead, front⟩ := front
  obtain ⟨rest, back⟩ := back
  refine ⟨lead, rest ++ tail, ?_, ?_⟩
  · calc "\n" ++ join texts ++ "\n" ++ tail
        = ("\n" ++ before) ++ line ++ (after ++ "\n") ++ tail := by
          simp only [whole, String.append_assoc]
      _ = lead ++ "\n" ++ line ++ "\n" ++ (rest ++ tail) := by
          simp only [front, back, String.append_assoc]
  · obtain ⟨c, member, seen⟩ := visible
    exact ⟨c, by simp [member], seen⟩

theorem encloses_join_between {texts : List String} {first line tail : String}
    (member : line ∈ texts) (visible : Visible tail) :
    Encloses (join (first :: texts ++ [tail])) line := by
  have below : texts ++ [tail] ≠ [] := List.append_ne_nil_of_right_ne_nil _ (List.cons_ne_nil _ _)
  have parts : join (first :: texts ++ [tail]) = first ++ ("\n" ++ join texts ++ "\n" ++ tail) := by
    rw [List.cons_append, join_cons first below,
      join_append (List.ne_nil_of_mem member) (List.cons_ne_nil _ _)]
    simp only [join, String.intercalate_singleton, String.append_assoc]
  rw [parts]
  exact (encloses_join member visible).append_left first

theorem Encloses.join {texts : List String} {text line : String} (member : text ∈ texts)
    (enclosed : Encloses text line) : Encloses (Lines.join texts) line := by
  obtain ⟨before, after, whole, -, -⟩ := exists_join_eq member
  rw [whole]
  exact (enclosed.append_left before).append_right after

/-! ## Indentation -/

theorem indent_eq_join (width : Nat) (block : String) :
    indent width block =
      join ((split block.toList).map fun line => String.ofList (indentLine width line)) := by
  apply String.toList_inj.1
  rw [toList_join, indent, String.toList_ofList, indentChars, List.map_map]
  simp [Function.comp_def]

theorem ofList_indentLine {line : String} (whole : IsLine line) (width : Nat) :
    String.ofList (indentLine width line.toList) = blanks width ++ line := by
  have filled : line.toList.isEmpty = false := by
    simpa [List.isEmpty_eq_false_iff] using whole.filled
  rw [indentLine, filled]
  simp [blanks]

theorem indent_of_isLine {line : String} (whole : IsLine line) (width : Nat) :
    indent width line = blanks width ++ line := by
  rw [indent_eq_join, (split_of_isLine whole).1, List.map_singleton, ofList_indentLine whole]
  simp [join]

theorem Visible.indent {text : String} (visible : Visible text) (width : Nat) :
    Visible (Lines.indent width text) := by
  obtain ⟨c, member, seen⟩ := visible
  obtain ⟨line, split, inside⟩ := exists_mem_linesAfter [] seen (.inr member)
  have moved : c ∈ indentLine width line := by
    simp [indentLine, List.ne_nil_of_mem inside, inside]
  obtain ⟨before, after, whole, -, -⟩ := exists_join_eq
    (List.mem_map_of_mem (f := fun line => String.ofList (indentLine width line)) split)
  refine ⟨c, ?_, seen⟩
  rw [indent_eq_join]
  unfold Lines.split
  simp [whole, moved]

theorem Encloses.indent {text line : String} (enclosed : Encloses text line)
    (whole : IsLine line) (width : Nat) :
    Encloses (Lines.indent width text) (blanks width ++ line) := by
  obtain ⟨before, after, rfl, visible⟩ := enclosed
  have pieces : split (before ++ "\n" ++ line ++ "\n" ++ after).toList =
      split (before.toList ++ ['\n']) ++ ([line.toList] ++ split after.toList) := by
    have chars : (before ++ "\n" ++ line ++ "\n" ++ after).toList =
        before.toList ++ '\n' :: (line.toList ++ '\n' :: after.toList) := by
      simp
    rw [chars, split, linesAfter_append_feed, linesAfter_append_feed [] line.toList]
    exact congrArg (_ ++ ·) (congrArg (· ++ _) (split_of_isLine whole).2)
  have above : split (before.toList ++ ['\n']) ≠ [] := linesAfter_ne_nil [] before.toList
  have below : split after.toList ≠ [] := by
    obtain ⟨c, member, seen⟩ := visible
    obtain ⟨_, piece, -⟩ := exists_mem_linesAfter [] seen (.inr member)
    exact List.ne_nil_of_mem piece
  refine ⟨Lines.join ((split (before.toList ++ ['\n'])).map fun line =>
    String.ofList (indentLine width line)), Lines.indent width after, ?_, visible.indent width⟩
  rw [indent_eq_join, indent_eq_join, pieces, List.map_append, List.map_append,
    join_append (by simpa using above) (by simp), join_append (by simp) (by simpa using below),
    List.map_singleton, ofList_indentLine whole]
  simp [Lines.join, String.append_assoc]

end Scaffold.Text.Lines

/-! ## Fragments and files -/

namespace Scaffold.Code
open Text Lines

namespace Fragment
variable {f : Fragment} {item line : String}

theorem mem_items_push (f : Fragment) (item : String) : item ∈ (f.push item).items :=
  List.mem_append_right _ (List.mem_singleton_self item)

theorem encloses_render (member : item ∈ f.items) (enclosed : Encloses item line)
    (whole : IsLine line) (width : Nat) (terminator : String) :
    Encloses (f.render width terminator) (blanks width ++ line) := by
  have moved := (enclosed.indent whole width).append_right terminator
  exact moved.join (List.mem_map_of_mem member)

theorem encloses_render_item (member : item ∈ f.items) (whole : IsLine item) (width : Nat)
    (terminator : String) {tail : String} (visible : Visible tail) :
    Encloses ("\n" ++ f.render width terminator ++ "\n" ++ tail)
      (blanks width ++ item ++ terminator) := by
  have texts : blanks width ++ item ++ terminator ∈
      f.items.map fun item => Lines.indent width item ++ terminator := by
    rw [← indent_of_isLine whole]
    exact List.mem_map_of_mem member
  exact encloses_join texts visible

end Fragment

theorem SourceFile.encloses_render {f : SourceFile} {item line : String} (member : item ∈ f.items)
    (enclosed : Encloses item line) : Encloses f.render line := by
  obtain ⟨front, back, items⟩ := List.append_of_mem member
  rw [SourceFile.render, items, List.map_append, List.map_cons, String.join_append,
    String.join_cons]
  exact (((enclosed.append_left "\n").append_right "\n").append_right _).append_left _
    |>.append_left _

end Scaffold.Code
