import Scaffold.Proofs.Files.Growth

/-! Trees after a list of writes. Where a text was written last it is the content of the file, and
elsewhere the tree is as it was, but for directories added in a set of locations. What matters is
where the written paths lead, so two paths that lead to one location count as one file. -/

namespace Scaffold.Files

def lastText (writes : List (Path × String)) (l : Location) : Option String :=
  ((writes.filter (·.1.target = l)).getLast?).map (·.2)

theorem lastText_nil (l : Location) : lastText [] l = none := rfl

theorem lastText_concat (writes : List (Path × String)) (p : Path) (text : String) (l : Location) :
    lastText (writes ++ [(p, text)]) l = if p.target = l then some text else lastText writes l := by
  rw [lastText, List.filter_append]
  by_cases h : p.target = l <;> simp [h, lastText]

theorem lastText_eq_none {writes : List (Path × String)} {l : Location} :
    lastText writes l = none ↔ ∀ f ∈ writes, f.1.target ≠ l := by
  simp [lastText]

theorem exists_lastText {writes : List (Path × String)} {f : Path × String} (h : f ∈ writes) :
    ∃ text, lastText writes f.1.target = some text := by
  cases hl : lastText writes f.1.target with
  | none => exact absurd rfl (lastText_eq_none.1 hl f h)
  | some text => exact ⟨text, rfl⟩

/-- The tree `t'` is `t` after the writes, with more directories in the set. -/
structure Written (S : Location → Prop) (t : FileTree) (writes : List (Path × String))
    (t' : FileTree) : Prop where
  resolves : ∀ f ∈ writes, t'.resolve f.1 = .ok f.1.target
  named : ∀ f ∈ writes, f.1.EndsInName
  holds : ∀ l text, lastText writes l = some text → t'.node? l = some (.file text.toUTF8)
  rest : ∀ l, lastText writes l = none →
    t'.node? l = t.node? l ∨ t.node? l = none ∧ t'.node? l = some .directory ∧ S l

namespace Written
variable {S : Location → Prop} {t t' t'' : FileTree} {writes : List (Path × String)}

theorem start (S : Location → Prop) (t : FileTree) : Written S t [] t :=
  ⟨by simp, by simp, fun l text h => by simp [lastText_nil] at h, fun _ _ => .inl rfl⟩

theorem adds (h : Written S t writes t') (adds : t'.Adds S t'') : Written S t writes t'' where
  resolves f hf := adds.keeps.resolve (h.resolves f hf)
  named := h.named
  holds l text last := adds.node? (h.holds l text last)
  rest l last := by
    rcases adds l with same | ⟨missing, made, hl⟩
    · rw [same]
      exact h.rest l last
    · rcases h.rest l last with same | ⟨_, made', _⟩
      · exact .inr ⟨same ▸ missing, made, hl⟩
      · rw [missing] at made'
        cases made'

theorem write (h : Written S t writes t') {p : Path} {text : String}
    (write : t'.write p text.toUTF8 = .ok t'') : Written S t (writes ++ [(p, text)]) t'' := by
  obtain ⟨hl, free, rfl, resolved, named⟩ := FileTree.write_ok write
  have keeps := FileTree.keeps_put hl free text.toUTF8
  refine ⟨fun f hf => ?_, fun f hf => ?_, fun l text' last => ?_, fun l last => ?_⟩
  · rcases List.mem_append.1 hf with hf | hf
    · exact keeps.resolve (h.resolves f hf)
    · obtain rfl := List.mem_singleton.1 hf
      exact resolved
  · rcases List.mem_append.1 hf with hf | hf
    · exact h.named f hf
    · obtain rfl := List.mem_singleton.1 hf
      exact named
  · rw [lastText_concat] at last
    rw [FileTree.node?_put t' hl]
    by_cases hp : p.target = l
    · rw [if_pos hp] at last
      rw [if_pos hp.symm, Option.some.inj last]
    · rw [if_neg hp] at last
      rw [if_neg (Ne.symm hp)]
      exact h.holds l text' last
  · rw [lastText_concat] at last
    rw [FileTree.node?_put t' hl]
    by_cases hp : p.target = l
    · rw [if_pos hp] at last
      cases last
    · rw [if_neg hp] at last
      rw [if_neg (Ne.symm hp)]
      exact h.rest l last

theorem writeFile (h : Written S t writes t') {p : Path} (passes : ∀ l, p.Passes l → S l)
    (text : String) :
    (∃ e, (t'.writeFile p text).1 = .error e ∧ Written S t writes (t'.writeFile p text).2) ∨
      (t'.writeFile p text).1 = .ok () ∧
        Written S t (writes ++ [(p, text)]) (t'.writeFile p text).2 := by
  have prepared := h.adds ((FileTree.prepareFile_adds t' p).mono passes)
  unfold FileTree.writeFile
  split
  · rename_i e t' hp
    rw [hp] at prepared
    exact .inl ⟨e, rfl, prepared⟩
  · rename_i t' hp
    rw [hp] at prepared
    split
    · rename_i written
      exact .inr ⟨rfl, prepared.write written⟩
    · rename_i e _
      exact .inl ⟨.file p e, rfl, prepared⟩

theorem file_unchanged (h : Written S t writes t') {l : Location}
    (other : ∀ f ∈ writes, f.1.target ≠ l) (content : ByteArray) :
    t'.node? l = some (.file content) ↔ t.node? l = some (.file content) := by
  rcases h.rest l (lastText_eq_none.2 other) with same | ⟨missing, made, -⟩
  · rw [same]
  · simp [missing, made]

end Written
end Scaffold.Files
