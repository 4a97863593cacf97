import Scaffold.Proofs.Files.Repetition

/-! Bringing a path into being only adds. What was in the tree stays, in its kind, whatever the path
goes through and wherever the operation stops; a content changes only where a text was written, and
what is new lies on the way of the path. What an operation has reached it reaches again without a
change. -/

namespace Scaffold.Files

theorem fromUTF8?_toUTF8 (text : String) : String.fromUTF8? text.toUTF8 = some text := by
  rw [String.fromUTF8?]
  exact dif_pos text.isValidUTF8

namespace FileTree
variable {t t' u : FileTree} {p : Path} {S : Location → Prop}

/-- What an operation on a path makes of a tree: every entry stays in its kind and every content but
those of the written files, and nothing is new but directories on the way of the path and those
files. -/
structure OnlyAdds (t : FileTree) (p : Path) (written : Location → Prop) (t' : FileTree) : Prop where
  keeps : t.Keeps t'
  contents : ∀ l content, ¬written l → t.node? l = some (.file content) →
    t'.node? l = some (.file content)
  fresh : ∀ l n, t.node? l = none → t'.node? l = some n →
    n = .directory ∧ p.Passes l ∨ written l ∧ ∃ content, n = .file content

theorem Adds.onlyAdds (h : t.Adds p.Passes t') (written : Location → Prop) :
    t.OnlyAdds p written t' where
  keeps := h.keeps
  contents _ _ _ found := h.node? found
  fresh l n missing found := by
    rcases h l with same | ⟨-, made, passes⟩
    · rw [same, missing] at found
      cases found
    · rw [made] at found
      exact .inl ⟨(Option.some.inj found).symm, passes⟩

theorem Adds.onlyAdds_write (h : t.Adds p.Passes u) {content : ByteArray}
    (put : u.write p content = .ok t') : t.OnlyAdds p (· = p.target) t' := by
  obtain ⟨hl, free, rfl, -⟩ := write_ok put
  refine ⟨h.keeps.trans (keeps_put hl free content), fun l held other found => ?_,
    fun l n missing found => ?_⟩
  · rw [node?_put u hl, if_neg other]
    exact h.node? found
  · rw [node?_put u hl] at found
    split at found
    · rename_i here
      exact .inr ⟨here, content, (Option.some.inj found).symm⟩
    · exact (h.onlyAdds (· = p.target)).fresh l n missing found

/-! ## Directories -/

theorem ensureDirectory_status (h : t.ensureDirectory p = (.ok (), u)) (named : p.text ≠ "") :
    u.status p = .ok .directory :=
  (ensureDirectory_ok h).resolve_left named

theorem ensureDirectory_of_file {content : ByteArray} (found : t.status p = .ok (.file content)) :
    t.ensureDirectory p = (.error (.notADirectory p), t) := by
  simp only [ensureDirectory, found]

theorem ensureDirectory_eq_notADirectory_iff (q : Path) :
    (t.ensureDirectory p).1 = .error (.notADirectory q) ↔
      q = p ∧ ∃ content, t.status p = .ok (.file content) := by
  unfold ensureDirectory
  split
  next found => simp [found]
  next content found => simp [found, eq_comm]
  next missing => split <;> simp [missing]
  next e _ found => simp [found]

/-! ## Files -/

theorem writeFile_error_adds {text : String} {e : Failure} (h : t.writeFile p text = (.error e, u)) :
    t.Adds p.Above u := by
  have prepared := prepareFile_adds_above t p
  unfold writeFile at h
  split at h
  next ready =>
    cases h
    rwa [ready] at prepared
  next ready =>
    rw [ready] at prepared
    split at h
    · cases h
    · cases h
      exact prepared

theorem writeFile_ok_adds {text : String} (h : t.writeFile p text = (.ok (), u)) :
    ∃ v, t.Adds p.Above v ∧ v.write p text.toUTF8 = .ok u := by
  obtain ⟨v, ready, put⟩ := writeFile_ok h
  have prepared := prepareFile_adds_above t p
  rw [ready] at prepared
  exact ⟨v, prepared, put⟩

theorem writeFile_onlyAdds (t : FileTree) (p : Path) (text : String) :
    t.OnlyAdds p (fun l => l = p.target ∧ (t.writeFile p text).1 = .ok ())
      (t.writeFile p text).2 := by
  rcases h : t.writeFile p text with ⟨e | _, u⟩
  · exact ((writeFile_error_adds h).mono fun _ => Path.Above.passes).onlyAdds _
  · obtain ⟨v, prepared, put⟩ := writeFile_ok_adds h
    simpa only [and_true] using (prepared.mono fun _ => Path.Above.passes).onlyAdds_write put

theorem writeFile_node? {text : String} (h : t.writeFile p text = (.ok (), u)) :
    u.node? p.target = some (.file text.toUTF8) := by
  obtain ⟨v, -, put⟩ := writeFile_ok h
  obtain ⟨hl, -, rfl, -⟩ := write_ok put
  rw [node?_put v hl, if_pos rfl]

theorem readText_of_node? {text : String} (resolved : t.resolve p = .ok p.target)
    (held : t.node? p.target = some (.file text.toUTF8)) : t.readText p = .ok text := by
  simp only [readText, status_eq_ok.2 ⟨_, resolved, held⟩, fromUTF8?_toUTF8]

theorem writeFile_settles {text : String} (h : t.writeFile p text = (.ok (), u)) :
    u.readText p = .ok text ∧ u.writeFile p text = (.ok (), u) := by
  have file := writeFile_hasFile h
  have held := writeFile_node? h
  refine ⟨readText_of_node? file.resolves held, ?_⟩
  rw [writeFile_again file, put_self file.target_ne_nil held]

/-- Seeing to a directory, preparing a file and writing it only add to a tree, whether they succeed
or stop on the way. A directory that was seen to and a text that was written are there, and are left
alone when asked for again; a path of the wrong kind is told as such and nothing else is. -/
theorem materialisation_only_adds (t : FileTree) (p : Path) :
    t.OnlyAdds p (fun _ => False) (t.ensureDirectory p).2 ∧
    t.OnlyAdds p (fun _ => False) (t.prepareFile p).2 ∧
    (∀ text, t.OnlyAdds p (fun l => l = p.target ∧ (t.writeFile p text).1 = .ok ())
      (t.writeFile p text).2) ∧
    (∀ u, t.ensureDirectory p = (.ok (), u) → p.text ≠ "" →
      u.status p = .ok .directory ∧ u.ensureDirectory p = (.ok (), u)) ∧
    (∀ q, (t.ensureDirectory p).1 = .error (.notADirectory q) ↔
      q = p ∧ ∃ content, t.status p = .ok (.file content)) ∧
    (∀ q, (t.ensureDirectory p).1 = .error (.notADirectory q) → (t.ensureDirectory p).2 = t) ∧
    ∀ text u, t.writeFile p text = (.ok (), u) →
      u.readText p = .ok text ∧ u.writeFile p text = (.ok (), u) := by
  refine ⟨(ensureDirectory_adds t p).onlyAdds _, (prepareFile_adds t p).onlyAdds _,
    writeFile_onlyAdds t p, fun u ensured named => ?_, ensureDirectory_eq_notADirectory_iff,
    fun q refused => ?_, fun text u => writeFile_settles⟩
  · exact ⟨ensureDirectory_status ensured named, ensureDirectory_again (ensureDirectory_ok ensured)⟩
  · obtain ⟨-, content, found⟩ := (ensureDirectory_eq_notADirectory_iff q).1 refused
    rw [ensureDirectory_of_file found]

def noted : FileTree :=
  ⟨[(["notes"], .file "n".toUTF8)]⟩

/-- A way up and down again: `site` is made although the walk leaves it. The file is no directory, and
stays as it is. -/
theorem materialisation_only_adds_noted :
    (noted.ensureDirectory "notes").1 = .error (.notADirectory "notes") ∧
    ∃ u, noted.writeFile "site/../pages/index" "home" = (.ok (), u) ∧
      u.node? ["site"] = some .directory ∧ u.node? ["notes"] = some (.file "n".toUTF8) ∧
      u.readText "site/../pages/index" = .ok "home" ∧
      u.writeFile "site/../pages/index" "home" = (.ok (), u) := by
  have succeeds : (noted.writeFile "site/../pages/index" "home").1.toOption.isSome = true := by
    decide +kernel
  have passed : (noted.writeFile "site/../pages/index" "home").2.node? ["site"] =
      some .directory := by
    decide +kernel
  have elsewhere : ["notes"] ≠ Path.target "site/../pages/index" := by decide
  obtain ⟨-, -, -, -, refused, -⟩ := materialisation_only_adds noted "notes"
  obtain ⟨-, -, only, -, -, -, settles⟩ := materialisation_only_adds noted "site/../pages/index"
  refine ⟨(refused "notes").2 ⟨rfl, "n".toUTF8, rfl⟩, ?_⟩
  have kept := (only "home").contents ["notes"] "n".toUTF8 (fun h => elsewhere h.1) rfl
  cases h : noted.writeFile "site/../pages/index" "home" with
  | mk result u =>
    rw [h] at succeeds passed kept
    cases result with
    | error e => cases succeeds
    | ok done => exact ⟨u, rfl, passed, kept, settles "home" u h⟩

end FileTree
end Scaffold.Files
