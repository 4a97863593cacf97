import Scaffold.Proofs.Text.Lines
import Scaffold.Text.Pieces

/-! The layout of the items of a fragment. Items are cut into lines, moved to the right and put one
below the other; cut at its line feeds, the text gives these lines back item by item. The lines of
an item are told here by its pieces between line feeds, so that nothing is taken from the function
that finds them. -/

namespace Scaffold.Text.Lines

/-! ## Lines and pieces -/

/-- The lines that the pieces of a text between its line feeds make. A piece that a line feed ends
is a line, without the carriage return that the line feed takes along; what follows the last line
feed is one if there is anything. -/
def ofPieces : List (List Char) → List (List Char)
  | [] => []
  | [last] => if last = [] then [] else [last]
  | piece :: next :: rest => withoutReturn piece :: ofPieces (next :: rest)

theorem ofPieces_cons (piece : List Char) {rest : List (List Char)} (more : rest ≠ []) :
    ofPieces (piece :: rest) = withoutReturn piece :: ofPieces rest := by
  cases rest with
  | nil => exact absurd rfl more
  | cons next rest => rfl

theorem linesAfter_eq_ofPieces (line cs : List Char) :
    linesAfter line cs = ofPieces (Pieces.piecesAfter '\n' line cs) := by
  induction cs generalizing line with
  | nil => simp [linesAfter, Pieces.piecesAfter, ofPieces]
  | cons c cs ih =>
    rw [linesAfter, Pieces.piecesAfter]
    split
    · rw [ofPieces_cons _ (Pieces.piecesAfter_ne_nil '\n' [] cs), ih]
    · exact ih (c :: line)

theorem split_eq_ofPieces (cs : List Char) : split cs = ofPieces (Pieces.splitChars '\n' cs) :=
  linesAfter_eq_ofPieces [] cs

theorem feed_not_mem_withoutReturn {line : List Char} (clear : '\n' ∉ line) :
    '\n' ∉ withoutReturn line := by
  unfold withoutReturn
  split
  · exact fun member => clear (List.dropLast_subset line member)
  · exact clear

theorem feed_not_mem_of_mem_ofPieces {pieces : List (List Char)} {line : List Char}
    (clear : ∀ piece ∈ pieces, '\n' ∉ piece) (member : line ∈ ofPieces pieces) : '\n' ∉ line := by
  fun_induction ofPieces pieces with
  | case1 => cases member
  | case2 => cases member
  | case3 last filled =>
    rw [List.mem_singleton.1 member]
    exact clear last (List.mem_singleton_self last)
  | case4 piece next rest ih =>
    rcases List.mem_cons.1 member with rfl | member
    · exact feed_not_mem_withoutReturn (clear piece List.mem_cons_self)
    · exact ih (fun p below => clear p (List.mem_cons_of_mem piece below)) member

/-! ## Items -/

/-- The lines of an item, one empty line if it has none. -/
def itemLines (item : String) : List String :=
  match ofPieces (Pieces.splitChars '\n' item.toList) with
  | [] => [""]
  | lines => lines.map String.ofList

def padded (width : Nat) (line : String) : String :=
  if line = "" then "" else blanks width ++ line

def terminated (terminator : String) : List String → List String
  | [] => []
  | [last] => [last ++ terminator]
  | line :: next :: rest => line :: terminated terminator (next :: rest)

/-- The lines of an item as they stand in a block. -/
def laidOut (width : Nat) (terminator item : String) : List String :=
  terminated terminator ((itemLines item).map (padded width))

theorem itemLines_ne_nil (item : String) : itemLines item ≠ [] := by
  unfold itemLines
  split
  · simp
  next lines filled => simpa using filled

theorem terminated_ne_nil {terminator : String} {lines : List String} (filled : lines ≠ []) :
    terminated terminator lines ≠ [] := by
  fun_cases terminated terminator lines <;> simp_all

theorem join_terminated {terminator : String} {lines : List String} (filled : lines ≠ []) :
    join (terminated terminator lines) = join lines ++ terminator := by
  fun_induction terminated terminator lines with
  | case1 => exact absurd rfl filled
  | case2 last => simp [join]
  | case3 line next rest ih =>
    have further : next :: rest ≠ [] := List.cons_ne_nil next rest
    rw [join_cons line (terminated_ne_nil further), ih further, join_cons line further]
    simp only [String.append_assoc]

theorem feed_not_mem_of_mem_terminated {terminator line : String} {lines : List String}
    (plain : '\n' ∉ terminator.toList) (clear : ∀ line ∈ lines, '\n' ∉ line.toList)
    (member : line ∈ terminated terminator lines) : '\n' ∉ line.toList := by
  fun_induction terminated terminator lines with
  | case1 => cases member
  | case2 last =>
    rw [List.mem_singleton.1 member]
    simp [clear last (List.mem_singleton_self last), plain]
  | case3 first next rest ih =>
    rcases List.mem_cons.1 member with rfl | member
    · exact clear _ List.mem_cons_self
    · exact ih (fun l below => clear l (List.mem_cons_of_mem first below)) member

theorem feed_not_mem_padded {line : String} (clear : '\n' ∉ line.toList) (width : Nat) :
    '\n' ∉ (padded width line).toList := by
  unfold padded
  split
  · simp
  · simp [blanks, clear]

theorem feed_not_mem_of_mem_itemLines {item line : String} (member : line ∈ itemLines item) :
    '\n' ∉ line.toList := by
  unfold itemLines at member
  split at member
  · rw [List.mem_singleton.1 member]
    simp
  · obtain ⟨chars, inside, rfl⟩ := List.mem_map.1 member
    rw [String.toList_ofList]
    exact feed_not_mem_of_mem_ofPieces
      (fun _ => Pieces.not_mem_of_mem_piecesAfter List.not_mem_nil) inside

theorem feed_not_mem_of_mem_laidOut {width : Nat} {terminator item line : String}
    (plain : '\n' ∉ terminator.toList) (member : line ∈ laidOut width terminator item) :
    '\n' ∉ line.toList := by
  refine feed_not_mem_of_mem_terminated plain (fun moved inside => ?_) member
  obtain ⟨own, among, rfl⟩ := List.mem_map.1 inside
  exact feed_not_mem_padded (feed_not_mem_of_mem_itemLines among) width

theorem laidOut_ne_nil (width : Nat) (terminator item : String) :
    laidOut width terminator item ≠ [] :=
  terminated_ne_nil (by simpa using itemLines_ne_nil item)

theorem padded_ofList (width : Nat) (line : List Char) :
    padded width (String.ofList line) = String.ofList (indentLine width line) := by
  unfold padded indentLine
  cases line with
  | nil => rfl
  | cons c line => simp [blanks]

theorem indent_eq_join_padded (width : Nat) (item : String) :
    indent width item = join ((itemLines item).map (padded width)) := by
  rw [indent_eq_join, split_eq_ofPieces, itemLines]
  split
  next none => simp [none, join, padded]
  next lines filled => simp only [List.map_map, Function.comp_def, padded_ofList]

theorem indent_append_eq_join (width : Nat) (terminator item : String) :
    indent width item ++ terminator = join (laidOut width terminator item) := by
  rw [laidOut, join_terminated (by simpa using itemLines_ne_nil item), indent_eq_join_padded]

theorem laidOut_of_isLine {item : String} (whole : IsLine item) (width : Nat)
    (terminator : String) : laidOut width terminator item = [blanks width ++ item ++ terminator] := by
  have pieces : ofPieces (Pieces.splitChars '\n' item.toList) = [item.toList] := by
    rw [← split_eq_ofPieces]
    exact (split_of_isLine whole).1
  simp [laidOut, itemLines, pieces, padded, whole.filled, terminated]

theorem join_enclosed {above lines below : List String} (first : above ≠ []) (second : lines ≠ [])
    (third : below ≠ []) : join (above ++ lines ++ below) =
      join above ++ "\n" ++ join lines ++ "\n" ++ join below := by
  rw [join_append (List.append_ne_nil_of_left_ne_nil first lines) third, join_append first second]

theorem join_map_join {items : List String} {lines : String → List String}
    (filled : ∀ item, lines item ≠ []) :
    join (items.map fun item => join (lines item)) = join (items.flatMap lines) := by
  induction items with
  | nil => rfl
  | cons item rest ih =>
    cases rest with
    | nil => simp [join]
    | cons next rest =>
      have below : (next :: rest).flatMap lines ≠ [] := by simp [filled]
      rw [List.map_cons, join_cons _ (by simp), ih, ← join_append (filled item) below]
      rfl

end Scaffold.Text.Lines

namespace Scaffold.Code.Fragment
open Text Lines

theorem render_eq_join (f : Fragment) (width : Nat) (terminator : String) :
    f.render width terminator = join (f.items.flatMap (laidOut width terminator)) := by
  rw [render, ← join_map_join (laidOut_ne_nil width terminator)]
  simp only [indent_append_eq_join]

/-- A rendered fragment, cut at its line feeds, is the lines of its items in their order, each with
blanks before it unless it is empty and the last of an item with the terminator; and the items of
another fragment are appended on lines of their own. -/
theorem render_layout {f : Fragment} (filled : f.isEmpty = false) {terminator : String}
    (plain : '\n' ∉ terminator.toList) (width : Nat) :
    Pieces.split '\n' (f.render width terminator) =
        f.items.flatMap (laidOut width terminator) ∧
      ∀ other : Fragment, other.isEmpty = false → (f.append other).render width terminator =
        f.render width terminator ++ "\n" ++ other.render width terminator := by
  have items : f.items ≠ [] := by simpa [isEmpty] using filled
  constructor
  · have lines : f.items.flatMap (laidOut width terminator) ≠ [] := by
      obtain ⟨item, member⟩ := List.exists_mem_of_ne_nil f.items items
      intro none
      exact laidOut_ne_nil width terminator item (List.flatMap_eq_nil_iff.1 none item member)
    rw [render_eq_join]
    refine Pieces.split_intercalate lines fun line member => ?_
    obtain ⟨item, -, inside⟩ := List.mem_flatMap.1 member
    exact feed_not_mem_of_mem_laidOut plain inside
  · intro other more
    have others : other.items ≠ [] := by simpa [isEmpty] using more
    rw [render, items_append, List.map_append, join_append (by simpa using items)
      (by simpa using others)]
    rfl

/-- Both ends of lines, an empty line, carriage returns that stay, and items without a visible
line. -/
def rareLines : Fragment :=
  empty.extend ["a: Foo (\r\n\n  x\r: 1,\n)\n", "", "\n", "b\r"]

theorem render_layout_rareLines :
    Pieces.split '\n' (rareLines.render 2 ";") =
        ["  a: Foo (", "", "    x\r: 1,", "  );", ";", ";", "  b\r;"] ∧
      (rareLines.append rareLines).render 2 ";" =
        rareLines.render 2 ";" ++ "\n" ++ rareLines.render 2 ";" := by
  have plain : '\n' ∉ ";".toList := by decide
  have filled : rareLines.isEmpty = false := rfl
  obtain ⟨lines, appended⟩ := render_layout filled plain 2
  refine ⟨lines.trans ?_, appended rareLines filled⟩
  decide

end Scaffold.Code.Fragment
