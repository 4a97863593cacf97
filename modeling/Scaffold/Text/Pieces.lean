/-! Cutting a text at every occurrence of one character. A text without that character is its own
only piece, so there is always one piece more than there are cuts. -/

namespace Scaffold.Text.Pieces

/-- The pieces of a text; `piece` holds the characters of the open piece, the last one first. -/
def piecesAfter (cut : Char) (piece : List Char) : List Char → List (List Char)
  | [] => [piece.reverse]
  | c :: rest =>
    if c == cut then piece.reverse :: piecesAfter cut [] rest else piecesAfter cut (c :: piece) rest

def splitChars (cut : Char) (cs : List Char) : List (List Char) :=
  piecesAfter cut [] cs

def split (cut : Char) (s : String) : List String :=
  (splitChars cut s.toList).map String.ofList

theorem piecesAfter_ne_nil (cut : Char) (piece cs : List Char) : piecesAfter cut piece cs ≠ [] := by
  induction cs generalizing piece with
  | nil => simp [piecesAfter]
  | cons c rest ih =>
    simp only [piecesAfter]
    split
    · simp
    · exact ih _

theorem intercalate_piecesAfter (cut : Char) (piece cs : List Char) :
    [cut].intercalate (piecesAfter cut piece cs) = piece.reverse ++ cs := by
  induction cs generalizing piece with
  | nil => simp [piecesAfter, List.intercalate]
  | cons c rest ih =>
    simp only [piecesAfter]
    split
    · rename_i h
      have hc : c = cut := eq_of_beq h
      have key := ih []
      cases hp : piecesAfter cut [] rest with
      | nil => exact absurd hp (piecesAfter_ne_nil cut [] rest)
      | cons a b =>
        rw [hp] at key
        simp only [List.intercalate, List.intersperse, List.flatten_cons, List.reverse_nil,
          List.nil_append] at key ⊢
        rw [key, hc]
        rfl
    · rw [ih]
      simp

theorem intercalate_splitChars (cut : Char) (cs : List Char) :
    [cut].intercalate (splitChars cut cs) = cs := by
  simpa [splitChars] using intercalate_piecesAfter cut [] cs

theorem mem_intercalate {α : Type} {joint : List α} {parts : List (List α)} {a : α}
    (h : a ∈ joint.intercalate parts) : a ∈ joint ∨ ∃ part ∈ parts, a ∈ part := by
  induction parts with
  | nil => cases h
  | cons part rest ih =>
    cases rest with
    | nil =>
      rw [List.intercalate_singleton] at h
      exact .inr ⟨part, List.mem_cons_self, h⟩
    | cons next rest =>
      rw [List.intercalate_cons_cons, List.mem_append, List.mem_append] at h
      rcases h with (h | h) | h
      · exact .inr ⟨part, List.mem_cons_self, h⟩
      · exact .inl h
      · exact (ih h).imp_right fun ⟨p, hp, ha⟩ => ⟨p, List.mem_cons_of_mem part hp, ha⟩

theorem piecesAfter_append_cut (cut : Char) (piece cs rest : List Char) :
    piecesAfter cut piece (cs ++ cut :: rest) =
      piecesAfter cut piece cs ++ splitChars cut rest := by
  induction cs generalizing piece with
  | nil => simp [piecesAfter, splitChars]
  | cons c cs ih =>
    simp only [List.cons_append, piecesAfter, ih]
    split <;> rfl

theorem piecesAfter_of_not_mem (cut : Char) (piece : List Char) {cs : List Char} (h : cut ∉ cs) :
    piecesAfter cut piece cs = [piece.reverse ++ cs] := by
  induction cs generalizing piece with
  | nil => simp [piecesAfter]
  | cons c cs ih =>
    obtain ⟨hc, rest⟩ := not_or.1 (mt List.mem_cons.2 h)
    simp [piecesAfter, Ne.symm hc, ih _ rest]

theorem not_mem_of_mem_piecesAfter {cut : Char} {piece cs part : List Char}
    (hp : cut ∉ piece) (h : part ∈ piecesAfter cut piece cs) : cut ∉ part := by
  induction cs generalizing piece with
  | nil =>
    rw [piecesAfter, List.mem_singleton] at h
    simpa [h] using hp
  | cons c cs ih =>
    rw [piecesAfter] at h
    split at h
    · rcases List.mem_cons.1 h with rfl | h
      · simpa using hp
      · exact ih List.not_mem_nil h
    · rename_i hc
      refine ih (fun hm => ?_) h
      rcases List.mem_cons.1 hm with rfl | hm
      · exact hc (beq_self_eq_true _)
      · exact hp hm

theorem getLast?_piecesAfter {cut : Char} {piece cs : List Char}
    (h : (piecesAfter cut piece cs).getLast? = some []) :
    piece = [] ∧ cs = [] ∨ cs.getLast? = some cut := by
  induction cs generalizing piece with
  | nil => simpa [piecesAfter] using h
  | cons c rest ih =>
    rw [piecesAfter] at h
    right
    split at h
    · rename_i hc
      obtain rfl := eq_of_beq hc
      rw [List.getLast?_cons, List.getLast?_eq_some_getLast (piecesAfter_ne_nil c [] rest),
        Option.getD_some, ← List.getLast?_eq_some_getLast] at h
      rcases ih h with ⟨-, rfl⟩ | last
      · rfl
      · rw [List.getLast?_cons, last]
        rfl
    · rcases ih h with ⟨absurd, -⟩ | last
      · cases absurd
      · rw [List.getLast?_cons, last]
        rfl

theorem split_of_not_mem {cut : Char} {s : String} (h : cut ∉ s.toList) : split cut s = [s] := by
  simp [split, splitChars, piecesAfter_of_not_mem cut [] h]

theorem split_append_cut (cut : Char) (s rest : String) :
    split cut (s ++ String.singleton cut ++ rest) = split cut s ++ split cut rest := by
  simp [split, splitChars, piecesAfter_append_cut]

theorem not_mem_of_mem_split {cut : Char} {s part : String} (h : part ∈ split cut s) :
    cut ∉ part.toList := by
  obtain ⟨chars, hm, rfl⟩ := List.mem_map.1 h
  simpa using not_mem_of_mem_piecesAfter List.not_mem_nil hm

theorem getLast?_split {cut : Char} {s : String} (h : (split cut s).getLast? = some "") :
    s = "" ∨ s.toList.getLast? = some cut := by
  rw [split, List.getLast?_map] at h
  obtain ⟨last, hl, empty⟩ := Option.map_eq_some_iff.1 h
  obtain rfl : last = [] := by simpa using empty
  exact (getLast?_piecesAfter hl).imp_left fun e => String.toList_inj.1 e.2

theorem split_intercalate {cut : Char} {parts : List String} (hne : parts ≠ [])
    (h : ∀ part ∈ parts, cut ∉ part.toList) :
    split cut ((String.singleton cut).intercalate parts) = parts := by
  induction parts with
  | nil => exact absurd rfl hne
  | cons part rest ih =>
    have head := split_of_not_mem (h part List.mem_cons_self)
    cases rest with
    | nil => simpa using head
    | cons next rest =>
      rw [String.intercalate_cons_cons, split_append_cut, head,
        ih (List.cons_ne_nil _ _) fun p hp => h p (List.mem_cons_of_mem part hp)]
      rfl

end Scaffold.Text.Pieces
