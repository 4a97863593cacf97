import Mathlib.Data.List.Basic

/-! The order of texts is the order of their bytes. Texts are compared character by character. The
bytes of a character begin with one that tells their number, a greater one for a greater number, and
go on with the digits of its code to the base 64, the first digit first; so the bytes of a smaller
character are smaller at the first place where they differ, whatever follows. -/

namespace Scaffold.Text.ByteOrder

def bytes (s : String) : List UInt8 :=
  s.toByteArray.data.toList

theorem bytes_eq_flatMap (s : String) : bytes s = s.toList.flatMap String.utf8EncodeChar := by
  rw [bytes, ← String.ofList_toList (s := s), String.toByteArray_ofList, List.utf8Encode,
    List.data_toByteArray, String.toList_ofList]

theorem cons_lt_cons {m n : Nat} {front back : List UInt8} (small : n < 256)
    (less : m < n ∨ m = n ∧ front < back) :
    UInt8.ofNat m :: front < UInt8.ofNat n :: back := by
  rcases less with less | ⟨rfl, less⟩
  · have first : UInt8.ofNat m < UInt8.ofNat n := by
      rw [UInt8.lt_iff_toNat_lt, UInt8.toNat_ofNat_of_lt' (Nat.lt_trans less small),
        UInt8.toNat_ofNat_of_lt' small]
      exact less
    exact List.cons_lt_cons_iff.2 (.inl first)
  · exact List.cons_lt_cons_iff.2 (.inr ⟨rfl, less⟩)

theorem digit_lt {v w unit radix base : Nat} {front back : List UInt8} (less : v < w)
    (above : v / unit / radix = w / unit / radix) (small : radix + base ≤ 256)
    (positive : 0 < radix) (below : v / unit = w / unit → front < back) :
    UInt8.ofNat (v / unit % radix + base) :: front <
      UInt8.ofNat (w / unit % radix + base) :: back := by
  have bound : w / unit % radix < radix := Nat.mod_lt _ positive
  by_cases same : v / unit = w / unit
  · exact cons_lt_cons (by omega) (.inr ⟨by rw [same], below same⟩)
  · have digits : v / unit < w / unit :=
      Nat.lt_of_le_of_ne (Nat.div_le_div_right (Nat.le_of_lt less)) same
    have first := Nat.div_add_mod (v / unit) radix
    have second := Nat.div_add_mod (w / unit) radix
    rw [above] at first
    exact cons_lt_cons (by omega) (.inl (by omega))

theorem last_digit_lt {v w : Nat} {front back : List UInt8} (less : v < w)
    (above : v / 64 = w / 64) :
    UInt8.ofNat (v % 64 + 128) :: front < UInt8.ofNat (w % 64 + 128) :: back := by
  have units : UInt8.ofNat (v / 1 % 64 + 128) :: front < UInt8.ofNat (w / 1 % 64 + 128) :: back :=
    digit_lt less (by simpa using above) (by decide) (by decide) (by omega)
  simpa using units

theorem utf8EncodeChar_lt {c d : Char} (less : c < d) (front back : List UInt8) :
    String.utf8EncodeChar c ++ front < String.utf8EncodeChar d ++ back := by
  have codes : c.val.toNat < d.val.toNat := UInt32.lt_iff_toNat_lt.1 less
  have bound : d.val.toNat < 1114112 := by
    have valid := d.valid
    simp only [UInt32.isValidChar, Nat.isValidChar] at valid
    omega
  generalize first : c.val.toNat = v at codes
  generalize second : d.val.toNat = w at codes bound
  simp only [String.utf8EncodeChar, first, second]
  -- One case for each pair of lengths; of unequal ones the leading byte tells the greater.
  split_ifs
  any_goals omega
  · exact cons_lt_cons (by omega) (.inl codes)
  · exact cons_lt_cons (by omega) (.inl (by omega))
  · exact cons_lt_cons (by omega) (.inl (by omega))
  · exact cons_lt_cons (by omega) (.inl (by omega))
  · exact digit_lt codes (by omega) (by decide) (by decide) fun same => last_digit_lt codes same
  · exact cons_lt_cons (by omega) (.inl (by omega))
  · exact cons_lt_cons (by omega) (.inl (by omega))
  · exact digit_lt codes (by omega) (by decide) (by decide) fun same =>
      digit_lt codes (by omega) (by decide) (by decide) fun same => last_digit_lt codes same
  · exact cons_lt_cons (by omega) (.inl (by omega))
  · exact digit_lt codes (by omega) (by decide) (by decide) fun same =>
      digit_lt codes (by omega) (by decide) (by decide) fun same =>
        digit_lt codes (by omega) (by decide) (by decide) fun same => last_digit_lt codes same

theorem flatMap_lt {a b : List Char} (less : a < b) :
    a.flatMap String.utf8EncodeChar < b.flatMap String.utf8EncodeChar := by
  induction less with
  | nil =>
    rename_i d _
    obtain ⟨byte, bytes, filled⟩ :=
      List.exists_cons_of_ne_nil (String.utf8EncodeChar_ne_nil (c := d))
    rw [List.flatMap_cons, filled]
    exact List.Lex.nil
  | rel first => exact utf8EncodeChar_lt first _ _
  | cons _ ih => exact List.append_left_lt ih

theorem bytes_lt {a b : String} (less : a < b) : bytes a < bytes b := by
  rw [bytes_eq_flatMap, bytes_eq_flatMap]
  exact flatMap_lt less

end Scaffold.Text.ByteOrder
