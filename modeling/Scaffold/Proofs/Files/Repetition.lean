import Scaffold.Proofs.Files.Comparison
import Scaffold.Proofs.Files.Written

/-! Operations made again. What was seen to exist is found again, and a file that was written opens
again at the same location, in every later tree that keeps the kinds of its entries. Then nothing is
made a second time: the directories are there and the texts replace those of the first time. A list
of texts written over a tree that holds the last of them everywhere gives back the very same tree,
entry by entry. -/

namespace Scaffold.Files.FileTree
variable {t t' u : FileTree} {p : Path} {l : Location}

/-! ## Entries put again -/

theorem place_self {n : Node} {entries : List (Location × Node)}
    (h : search l entries = some n) : place l n entries = entries := by
  induction entries with
  | nil => cases h
  | cons head rest ih =>
    obtain ⟨location, m⟩ := head
    simp only [search] at h
    simp only [place]
    split at h
    · rename_i here
      rw [if_pos here, ← Option.some.inj h]
    · rename_i elsewhere
      rw [if_neg elsewhere, ih h]

theorem node?_eq_search (t : FileTree) (hl : l ≠ []) : t.node? l = search l t.entries :=
  if_neg hl

theorem put_self (hl : l ≠ []) {n : Node} (h : t.node? l = some n) : t.put l n = t := by
  rw [node?_eq_search t hl] at h
  rw [put, place_self h]

theorem status_eq_ok {n : Node} :
    t.status p = .ok n ↔ ∃ l, t.resolve p = .ok l ∧ t.node? l = some n := by
  unfold status
  cases t.resolve p with
  | error e => simp
  | ok l => cases h : t.node? l <;> simp [h]

/-- A path that a directory was seen to exist at. The empty path is seen to without a directory. -/
def HasDirectory (t : FileTree) (p : Path) : Prop :=
  p.text = "" ∨ t.status p = .ok .directory

theorem Keeps.hasDirectory (keeps : t.Keeps t') (h : t.HasDirectory p) : t'.HasDirectory p := by
  refine h.imp_right fun found => ?_
  obtain ⟨l, resolved, directory⟩ := status_eq_ok.1 found
  exact status_eq_ok.2 ⟨l, keeps.resolve resolved, keeps.directory directory⟩

theorem status_of_isDirectory (h : t.isDirectory p = true) : t.status p = .ok .directory := by
  unfold isDirectory at h
  split at h
  · assumption
  · cases h

theorem makeDirectory_status (h : t.makeDirectory p = .ok t') : t'.status p = .ok .directory := by
  obtain ⟨l, hl, -, -, rfl, resolved⟩ := makeDirectory_ok h
  exact status_eq_ok.2 ⟨l, resolved, by simp [node?_put t hl]⟩

theorem makeDirectories_ok {depth : Nat} (h : t.makeDirectories p depth = (.ok (), t')) :
    t'.HasDirectory p := by
  cases depth with
  | zero => cases h
  | succ depth =>
    unfold makeDirectories at h
    split at h
    · rename_i empty
      exact .inl (String.isEmpty_iff.1 empty)
    · split at h
      · rename_i made
        cases h
        exact .inr (makeDirectory_status made)
      · split at h
        · cases h
        · split at h
          · cases h
          · split at h
            · rename_i made
              cases h
              exact .inr (makeDirectory_status made)
            · split at h
              · rename_i directory
                cases h
                exact .inr (status_of_isDirectory directory)
              · cases h
      · split at h
        · rename_i directory
          cases h
          exact .inr (status_of_isDirectory directory)
        · cases h

theorem ensureDirectory_ok (h : t.ensureDirectory p = (.ok (), t')) : t'.HasDirectory p := by
  unfold ensureDirectory at h
  split at h
  · rename_i found
    cases h
    exact .inr found
  · cases h
  · split at h
    · rename_i made
      cases h
      exact makeDirectories_ok made
    · cases h
  · cases h

theorem ensureDirectory_again (h : t.HasDirectory p) : t.ensureDirectory p = (.ok (), t) := by
  unfold ensureDirectory
  rcases h with empty | found
  · have missing : t.status p = .error .notFound := by
      simp [status, resolve, admit?, empty]
    have made : t.makeDirectoryPath p = (.ok (), t) := by
      simp [makeDirectoryPath, makeDirectories, empty]
    simp only [missing, made]
  · simp only [found]

/-! ## Files written again -/

theorem Keeps.approach (keeps : t.Keeps t') {steps : List Path.Step} {last : Location × Path.Step}
    (h : t.approach steps = .ok last) : t'.approach steps = .ok last := by
  unfold FileTree.approach at h ⊢
  split at h
  · cases h
  · rename_i location walked
    rw [keeps.walk walked]
    split at h
    · rename_i directory
      simpa only [keeps.directory directory] using h
    · cases h
    · cases h

theorem Keeps.openForWriting (keeps : t.Keeps t') (h : t.openForWriting p = .ok l)
    (free : t'.node? l ≠ some .directory) : t'.openForWriting p = .ok l := by
  unfold FileTree.openForWriting at h ⊢
  split at h
  · cases h
  · split at h
    · cases h
    · rename_i location name approached
      rw [keeps.approach approached]
      split at h
      · cases h
      · rename_i slash
        split at h
        · cases h
        · rename_i short
          split at h
          · cases h
          · obtain rfl := Except.ok.inj h
            change (if _ then _ else if _ then _ else _) = _
            rw [if_neg slash, if_neg short]
            split
            · rename_i directory
              exact absurd directory free
            · rfl
    · cases h

/-- A path at which a file was written: its directory is there, it opens where it leads to, and a
file is there. -/
structure HasFile (t : FileTree) (p : Path) : Prop where
  parent : ∀ parent, p.parent?.filter (!·.isEmpty) = some parent → t.HasDirectory parent
  opens : t.openForWriting p = .ok p.target
  resolves : t.resolve p = .ok p.target
  file : ∃ content, t.node? p.target = some (.file content)

theorem Keeps.file (keeps : t.Keeps t') {content : ByteArray}
    (h : t.node? l = some (.file content)) : ∃ content, t'.node? l = some (.file content) := by
  obtain ⟨n, found, kind⟩ := keeps l _ h
  cases n with
  | directory => cases kind.1 rfl
  | file content' => exact ⟨content', found⟩

theorem ne_directory {content : ByteArray} (h : t.node? l = some (.file content)) :
    t.node? l ≠ some .directory := by
  rw [h]
  nofun

theorem Keeps.hasFile (keeps : t.Keeps t') (h : t.HasFile p) : t'.HasFile p := by
  obtain ⟨content, held⟩ := h.file
  obtain ⟨content', found⟩ := keeps.file held
  refine ⟨fun parent hp => keeps.hasDirectory (h.parent parent hp), ?_,
    keeps.resolve h.resolves, content', found⟩
  exact keeps.openForWriting h.opens (ne_directory found)

theorem prepareFile_ok (h : t.prepareFile p = (.ok (), u)) {parent : Path}
    (hp : p.parent?.filter (!·.isEmpty) = some parent) : u.HasDirectory parent := by
  unfold prepareFile at h
  rw [hp] at h
  simp only at h
  split at h
  · cases h
  · rename_i ensured
    obtain ⟨-, rfl⟩ := Prod.mk.inj h
    exact ensureDirectory_ok ensured

theorem writeFile_hasFile {text : String} (h : t.writeFile p text = (.ok (), u)) :
    u.HasFile p := by
  obtain ⟨v, prepared, put⟩ := writeFile_ok h
  obtain ⟨hl, free, rfl, resolved, -⟩ := write_ok put
  have keeps := keeps_put hl free text.toUTF8
  have file : (v.put p.target (.file text.toUTF8)).node? p.target = some (.file text.toUTF8) := by
    simp [node?_put v hl]
  refine ⟨fun parent hp => keeps.hasDirectory (prepareFile_ok prepared hp), ?_, resolved, _, file⟩
  unfold write at put
  split at put
  · cases put
  · rename_i l opened
    obtain rfl := openForWriting_target opened
    exact keeps.openForWriting opened (ne_directory file)

theorem prepareFile_again (h : t.HasFile p) : t.prepareFile p = (.ok (), t) := by
  obtain ⟨content, held⟩ := h.file
  have checked : t.checkFile p = .ok () := by
    unfold checkFile
    rw [status_eq_ok.2 ⟨_, h.resolves, held⟩]
  unfold prepareFile
  cases hp : p.parent?.filter (!·.isEmpty) with
  | none => simp only [checked]
  | some parent => simp only [ensureDirectory_again (h.parent parent hp), checked]

theorem writeFile_again (h : t.HasFile p) (text : String) :
    t.writeFile p text = (.ok (), t.put p.target (.file text.toUTF8)) := by
  unfold writeFile write
  simp only [prepareFile_again h, h.opens]

theorem HasFile.target_ne_nil (h : t.HasFile p) : p.target ≠ [] := by
  obtain ⟨content, held⟩ := h.file
  intro root
  rw [root] at held
  cases held

theorem HasFile.keeps_put (h : t.HasFile p) (text : String) :
    t.Keeps (t.put p.target (.file text.toUTF8)) := by
  obtain ⟨content, held⟩ := h.file
  exact FileTree.keeps_put h.target_ne_nil (ne_directory held) _

end Scaffold.Files.FileTree
