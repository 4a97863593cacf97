import Mathlib.Data.Nat.Digits.Defs
import Scaffold.Text.Literal

/-! Literals keep their text: reading a literal gives back what was quoted, whatever characters it
holds, and a literal has no line break. Reading undoes escaping character by character; the escape
of a character without a form of its own is undone digit by digit. -/

namespace Scaffold.Text.Literal

/-! ## Hexadecimal digits -/

theorem hexValue?_digitChar : ∀ {d : Nat}, d < 16 →
    hexValue? (Nat.digitChar d) = some d ∧ Nat.digitChar d ≠ '\x7d' := by
  decide

theorem exists_digit_of_mem_hexDigits {n : Nat} {c : Char} (member : c ∈ hexDigits n) :
    ∃ d < 16, c = Nat.digitChar d := by
  induction n using Nat.strongRecOn with
  | ind n ih =>
    unfold hexDigits at member
    by_cases small : n < 16
    · rw [Nat.toDigits_of_lt_base small] at member
      exact ⟨n, small, List.mem_singleton.1 member⟩
    · rw [Nat.toDigits_of_base_le (by decide) (Nat.le_of_not_lt small)] at member
      rcases List.mem_append.1 member with front | last
      · exact ih (n / 16) (by omega) front
      · exact ⟨n % 16, by omega, List.mem_singleton.1 last⟩

theorem readBody_point_digit {value digits d : Nat} (small : d < 16) (room : digits < 6)
    (rest : List Char) :
    readBody (.point value digits) (Nat.digitChar d :: rest) =
      readBody (.point (16 * value + d) (digits + 1)) rest := by
  obtain ⟨read, other⟩ := hexValue?_digitChar small
  simp [readBody, other, read, room]

theorem readBody_point_hexDigits {n : Nat} (room : (hexDigits n).length ≤ 6) (rest : List Char) :
    readBody (.point 0 0) (hexDigits n ++ rest) =
      readBody (.point n (hexDigits n).length) rest := by
  induction n using Nat.strongRecOn generalizing rest with
  | ind n ih =>
    unfold hexDigits at room ih ⊢
    by_cases small : n < 16
    · rw [Nat.toDigits_of_lt_base small, List.singleton_append,
        readBody_point_digit small (by decide), Nat.mul_zero, Nat.zero_add]
      rfl
    · rw [Nat.toDigits_of_base_le (by decide) (Nat.le_of_not_lt small), List.length_append,
        List.length_singleton] at room ⊢
      rw [List.append_assoc, ih (n / 16) (by omega) (by omega), List.singleton_append,
        readBody_point_digit (by omega) (by omega), Nat.div_add_mod]

theorem length_hexDigits_char (c : Char) :
    0 < (hexDigits c.toNat).length ∧ (hexDigits c.toNat).length ≤ 6 := by
  have bound : c.toNat < 16 ^ 6 := by
    have valid : c.toNat.isValidChar := c.valid
    unfold Nat.isValidChar at valid
    omega
  exact ⟨Nat.length_toDigits_pos, Nat.toDigits_length 16 c.toNat 6 (by decide) bound⟩

/-! ## Characters -/

theorem readBody_escape (c : Char) (rest : List Char) :
    readBody .plain (escape c ++ rest) = (readBody .plain rest).map (c :: ·) := by
  unfold escape
  by_cases quote : c = '"'
  · subst quote
    rfl
  by_cases backslash : c = '\\'
  · subst backslash
    rfl
  by_cases feed : c = '\n'
  · subst feed
    rfl
  by_cases carriage : c = '\r'
  · subst carriage
    rfl
  by_cases tab : c = '\t'
  · subst tab
    rfl
  by_cases zero : c.toNat = 0
  · obtain rfl : c = Char.ofNat 0 := by rw [← zero, Char.ofNat_toNat]
    rfl
  by_cases plain : Printable.isPlain c
  · simp [quote, backslash, feed, carriage, tab, zero, plain, readBody]
  · obtain ⟨some_digit, room⟩ := length_hexDigits_char c
    have point : readBody (.point 0 0) (hexDigits c.toNat ++ '\x7d' :: rest) =
        (readBody .plain rest).map (c :: ·) := by
      have valid : c.toNat.isValidChar := c.valid
      rw [readBody_point_hexDigits room]
      simp [readBody, some_digit, valid, Char.ofNat_toNat]
    simpa [quote, backslash, feed, carriage, tab, zero, plain, readBody] using point

theorem line_breaks_not_mem_escape (c : Char) : '\n' ∉ escape c ∧ '\r' ∉ escape c := by
  have digits : '\n' ∉ hexDigits c.toNat ∧ '\r' ∉ hexDigits c.toNat := by
    have other : ∀ d < 16, '\n' ≠ Nat.digitChar d ∧ '\r' ≠ Nat.digitChar d := by decide
    constructor
    · intro member
      obtain ⟨d, small, same⟩ := exists_digit_of_mem_hexDigits member
      exact (other d small).1 same
    · intro member
      obtain ⟨d, small, same⟩ := exists_digit_of_mem_hexDigits member
      exact (other d small).2 same
  unfold escape
  by_cases feed : c = '\n'
  · subst feed
    decide
  by_cases carriage : c = '\r'
  · subst carriage
    decide
  split
  · decide
  split
  · decide
  split
  · decide
  split
  · decide
  split
  · decide
  split
  · decide
  split
  · simp [Ne.symm feed, Ne.symm carriage]
  · simp [digits]

/-! ## Literals -/

theorem readBody_body (cs : List Char) : readBody .plain (body cs) = some cs := by
  induction cs with
  | nil => rfl
  | cons c rest ih =>
    have first : body (c :: rest) = escape c ++ body rest := List.flatMap_cons
    rw [first, readBody_escape, ih]
    rfl

theorem read?_quoted (s : String) : read? (quoted s) = some s := by
  have chars : (quoted s).toList = '"' :: (body s.toList ++ ['"']) := by
    simp [quoted]
  unfold read?
  rw [chars]
  simp [readBody_body]

theorem line_breaks_not_mem_quoted (s : String) :
    '\n' ∉ (quoted s).toList ∧ '\r' ∉ (quoted s).toList := by
  have inside : ∀ mark, (∀ c, mark ∉ escape c) → mark ∉ body s.toList := by
    intro mark none member
    obtain ⟨c, -, escaped⟩ := List.mem_flatMap.1 member
    exact none c escaped
  simp [quoted, inside '\n' fun c => (line_breaks_not_mem_escape c).1,
    inside '\r' fun c => (line_breaks_not_mem_escape c).2]

end Scaffold.Text.Literal
