import Scaffold.Storage.Plan
import Scaffold.Text.Pieces

/-! The names of storage files. The words of a name in snake case hold no separator, be it a mark such
as a slash or a colon or the underscore between them. So a file name has a slash only if the settings
put it there, and the check of a plan succeeds just when no name is taken twice. -/

namespace Scaffold

namespace Text

/-- A character before the small letters that is neither letter nor digit. -/
structure Letters.IsSeparator (c : Char) : Prop where
  positive : 0 < c.toNat
  low : c.toNat < 97
  plain : isAlphanumeric c = false

theorem Letters.isSeparator_underscore : IsSeparator '_' :=
  ⟨by decide, by decide, by decide⟩

/-- A character before the letters that is no digit. -/
structure Letters.IsMark (c : Char) : Prop where
  positive : 0 < c.toNat
  low : c.toNat < 65
  plain : isAlphanumeric c = false

theorem Letters.isMark_slash : IsMark '/' :=
  ⟨by decide, by decide, by decide⟩

theorem Letters.IsMark.isSeparator {c : Char} (isMark : IsMark c) : IsSeparator c :=
  ⟨isMark.positive, Nat.lt_trans isMark.low (by decide), isMark.plain⟩

section Separators
variable {separator : Char}

namespace Casing

theorem ofNat_ne_separator (separates : Letters.IsSeparator separator) {n : Nat}
    (above : 96 < n) : Char.ofNat n ≠ separator := by
  intro same
  have low := separates.low
  have positive := separates.positive
  by_cases valid : n.isValidChar
  · have code : (Char.ofNat n).toNat = n := by
      rw [Char.ofNat, dif_pos valid]
      rfl
    rw [same] at code
    omega
  · have code : (Char.ofNat n).toNat = 0 := by
      rw [Char.ofNat, dif_neg valid]
      rfl
    rw [same] at code
    omega

theorem toLower_ne_separator (separates : Letters.IsSeparator separator) {c : Char}
    (h : c ≠ separator) : c.toLower ≠ separator := by
  unfold Char.toLower
  split
  · rename_i capital
    intro same
    have first : 65 ≤ c.val.toNat := UInt32.le_iff_toNat_le.1 capital.1
    have last : c.val.toNat ≤ 90 := UInt32.le_iff_toNat_le.1 capital.2
    have low : separator.val.toNat < 97 := separates.low
    have code : (c.val + 32).toNat = separator.val.toNat := congrArg (fun c => c.val.toNat) same
    rw [UInt32.toNat_add] at code
    change (c.val.toNat + 32) % 2 ^ 32 = separator.val.toNat at code
    omega
  · exact h

theorem lt_smallRuns : smallRuns.all (fun r => 96 < r.2.2.2) = true := by
  decide +kernel

theorem separator_not_mem_small (separates : Letters.IsSeparator separator) {c : Char}
    (h : c ≠ separator) : separator ∉ small c := by
  unfold small
  split
  · simpa using (toLower_ne_separator separates h).symm
  · split
    · intro member
      have low := separates.low
      rcases List.mem_cons.1 member with rfl | member
      · exact absurd low (by decide)
      · rw [List.mem_singleton.1 member] at low
        exact absurd low (by decide)
    · split
      · rename_i n found
        unfold shifted? at found
        split at found
        · rename_i run hr
          have lower := List.all_eq_true.1 lt_smallRuns run (List.mem_of_find?_eq_some hr)
          obtain rfl := Option.some.inj found
          have above := of_decide_eq_true lower
          simpa using (ofNat_ne_separator separates
            (Nat.lt_of_lt_of_le above (Nat.le_add_right _ _))).symm
        · cases found
      · simpa using h.symm

end Casing

namespace Words

theorem separator_not_mem_small (separates : Letters.IsSeparator separator) {word : List Char}
    (h : separator ∉ word) : separator ∉ small word := by
  fun_induction small word with
  | case1 => exact List.not_mem_nil
  | case2 =>
    intro member
    have low := separates.low
    rw [List.mem_singleton.1 member] at low
    exact absurd low (by decide)
  | case3 c other =>
    exact Casing.separator_not_mem_small separates fun e => h (e ▸ List.mem_cons_self)
  | case4 c next rest ih =>
    rw [List.mem_append, not_or]
    refine ⟨Casing.separator_not_mem_small separates fun e => h (e ▸ List.mem_cons_self),
      ih fun hm => ?_⟩
    exact h (List.mem_cons_of_mem c hm)

theorem isAlphanumeric_of_mem_split {cs word : List Char} {c : Char} (hw : word ∈ split cs)
    (hc : c ∈ word) : Letters.isAlphanumeric c = true := by
  have member : c ∈ (split cs).flatten := List.mem_flatten_of_mem hw hc
  rw [flatten_split] at member
  exact (List.mem_filter.1 member).2

theorem separator_not_mem_words (separates : Letters.IsSeparator separator) (cs : List Char) :
    ∀ word ∈ (split cs).map small, separator ∉ word := by
  intro word hw
  obtain ⟨raw, hr, rfl⟩ := List.mem_map.1 hw
  refine separator_not_mem_small separates fun member => ?_
  have letter := isAlphanumeric_of_mem_split hr member
  rw [separates.plain] at letter
  cases letter

theorem mark_not_mem_snake {mark : Char} (isMark : Letters.IsMark mark) (s : String) :
    mark ∉ (snake s).toList := by
  rw [snake, String.toList_ofList]
  intro member
  rcases Pieces.mem_intercalate member with joint | ⟨word, hw, member⟩
  · have low := isMark.low
    rw [List.mem_singleton.1 joint] at low
    exact absurd low (by decide)
  · exact separator_not_mem_words isMark.isSeparator _ word hw member

end Words
end Separators
end Text

namespace StorageDirectory
open Model
variable {d : StorageDirectory} {inflector : Inflector}

theorem checkEntities_eq_ok {taken : List (String × String)} {entities : List Entity} :
    d.checkEntities inflector taken entities = .ok () ↔
      (entities.map (d.fileName inflector)).Nodup ∧
        ∀ e ∈ entities, d.fileName inflector e ∉ taken.map (·.1) := by
  induction entities generalizing taken with
  | nil => simp [checkEntities]
  | cons e rest ih =>
    rw [checkEntities]
    cases found : taken.lookup (d.fileName inflector e) with
    | some earlier =>
      obtain ⟨front, back, eq, -⟩ := List.lookup_eq_some_iff.1 found
      have present : d.fileName inflector e ∈ taken.map (·.1) := by simp [eq]
      refine ⟨nofun, fun free => absurd present (free.2 e List.mem_cons_self)⟩
    | none =>
      have absent : d.fileName inflector e ∉ taken.map (·.1) := by
        intro hm
        obtain ⟨entry, hm, same⟩ := List.mem_map.1 hm
        have differs := List.lookup_eq_none_iff.1 found entry hm
        rw [bne_iff_ne] at differs
        exact differs same.symm
      simp only [ih]
      constructor
      · rintro ⟨distinct, free⟩
        refine ⟨List.nodup_cons.2 ⟨fun hm => ?_, distinct⟩,
          List.forall_mem_cons.2 ⟨absent, fun other ho hm => ?_⟩⟩
        · obtain ⟨other, ho, same⟩ := List.mem_map.1 hm
          exact free other ho (by simp [same])
        · exact free other ho (by simp [hm])
      · rintro ⟨distinct, free⟩
        obtain ⟨new, distinct⟩ := List.nodup_cons.1 distinct
        refine ⟨distinct, fun other ho hm => ?_⟩
        rw [List.map_append] at hm
        rcases List.mem_append.1 hm with hm | hm
        · exact free other (List.mem_cons_of_mem e ho) hm
        · exact new (List.mem_map.2 ⟨other, ho, List.mem_singleton.1 hm⟩)

theorem checkFiles_eq_ok :
    d.checkFiles inflector = .ok () ↔ (d.plannedFiles inflector).Nodup := by
  rw [checkFiles, checkEntities_eq_ok, plannedFiles]
  cases d.generateIndex with
  | false => simp
  | true => simp [List.nodup_append]

theorem slash_not_mem_plannedFiles (suffix : '/' ∉ d.fileSuffix.toList)
    (index : '/' ∉ d.indexFile.toList) {name : String} (h : name ∈ d.plannedFiles .english) :
    '/' ∉ name.toList := by
  rcases List.mem_append.1 h with h | h
  · obtain ⟨e, -, rfl⟩ := List.mem_map.1 h
    rw [fileName, String.toList_append, List.mem_append, not_or]
    exact ⟨Text.Words.mark_not_mem_snake Text.Letters.isMark_slash e.name, suffix⟩
  · split at h
    · rwa [List.mem_singleton.1 h]
    · cases h

end StorageDirectory
end Scaffold
