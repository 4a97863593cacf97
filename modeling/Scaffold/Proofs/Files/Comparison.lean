import Scaffold.Proofs.Files.Growth

/-! Trees that differ in the contents of some files only. What an operation does depends on the
kinds of the entries on its way and never on what files hold, so it has the same outcome in both
trees and leaves trees that differ there only. Different texts may be written where the trees
differ anyway. -/

namespace Scaffold.Files.FileTree
variable {t t' u u' : FileTree} {p : Path} {S : Location → Prop}

theorem writeFile_ok {text : String} (h : t.writeFile p text = (.ok (), u)) :
    ∃ v, t.prepareFile p = (.ok (), v) ∧ v.write p text.toUTF8 = .ok u := by
  unfold writeFile at h
  split at h
  · cases h
  · rename_i v prepared
    split at h
    · rename_i put
      cases h
      exact ⟨v, prepared, put⟩
    · cases h

/-- The trees are the same but for the contents of files at locations of a set. -/
def SameBut (S : Location → Prop) (t t' : FileTree) : Prop :=
  ∀ l, t.node? l = t'.node? l ∨
    S l ∧ ∃ content content', t.node? l = some (.file content) ∧ t'.node? l = some (.file content')

def SameOutcome {α : Type} (S : Location → Prop) (x x' : α × FileTree) : Prop :=
  x.1 = x'.1 ∧ x.2.SameBut S x'.2

theorem SameOutcome.exists_eq {α : Type} {x x' : α × FileTree} (same : SameOutcome S x x') :
    ∃ result t t', x = (result, t) ∧ x' = (result, t') ∧ t.SameBut S t' :=
  ⟨x.1, x.2, x'.2, rfl, Prod.ext same.1.symm rfl, same.2⟩

namespace SameBut

theorem refl (S : Location → Prop) (t : FileTree) : t.SameBut S t :=
  fun _ => .inl rfl

theorem node?_eq (same : t.SameBut S t') {l : Location} (other : ¬ S l) :
    t.node? l = t'.node? l :=
  (same l).resolve_right fun differ => other differ.1

theorem put (same : t.SameBut S t') {l : Location} (hl : l ≠ []) {n n' : Node}
    (alike : n = n' ∨ S l ∧ ∃ content content', n = .file content ∧ n' = .file content') :
    (t.put l n).SameBut S (t'.put l n') := by
  intro other
  rw [node?_put t hl, node?_put t' hl]
  split
  · rename_i here
    rw [here]
    rcases alike with rfl | ⟨member, content, content', rfl, rfl⟩
    · exact .inl rfl
    · exact .inr ⟨member, content, content', rfl, rfl⟩
  · exact same other

/-! ## Walks -/

theorem advance (same : t.SameBut S t') (location : Location) (step : Path.Step) :
    t.advance location step = t'.advance location step := by
  unfold FileTree.advance
  rcases same location with here | ⟨-, content, content', here, here'⟩
  · rw [here]
    cases step with
    | stay => rfl
    | up => rfl
    | child name =>
      rcases same (location ++ [name]) with there | ⟨-, content, content', there, there'⟩
      · simp only [there]
      · simp only [there, there']
  · rw [here, here']

theorem walk (same : t.SameBut S t') (location : Location) (steps : List Path.Step) :
    t.walk location steps = t'.walk location steps := by
  induction steps generalizing location with
  | nil => rfl
  | cons step rest ih =>
    rw [walk_cons, walk_cons, same.advance]
    exact bind_congr fun next => ih next

theorem status (same : t.SameBut S t') (p : Path) :
    t.status p = t'.status p ∨ ∃ content content',
      t.status p = .ok (.file content) ∧ t'.status p = .ok (.file content') := by
  unfold FileTree.status FileTree.resolve
  rw [same.walk]
  cases admit? p with
  | error e => exact .inl rfl
  | ok _ =>
    cases t'.walk [] p.steps with
    | error e => exact .inl rfl
    | ok l =>
      rcases same l with here | ⟨-, content, content', here, here'⟩
      · exact .inl (by simp only [here])
      · exact .inr ⟨content, content', by simp only [here], by simp only [here']⟩

theorem isDirectory (same : t.SameBut S t') (p : Path) : t.isDirectory p = t'.isDirectory p := by
  unfold FileTree.isDirectory
  rcases same.status p with here | ⟨content, content', here, here'⟩
  · rw [here]
  · rw [here, here']

theorem checkFile (same : t.SameBut S t') (p : Path) : t.checkFile p = t'.checkFile p := by
  unfold FileTree.checkFile
  rcases same.status p with here | ⟨content, content', here, here'⟩
  · rw [here]
  · rw [here, here']

theorem approach (same : t.SameBut S t') (steps : List Path.Step) :
    t.approach steps = t'.approach steps := by
  unfold FileTree.approach
  rw [same.walk]
  cases t'.walk [] steps.dropLast with
  | error e => rfl
  | ok l =>
    rcases same l with here | ⟨-, content, content', here, here'⟩
    · simp only [here]
    · simp only [here, here']

/-! ## Directories -/

theorem makeDirectory (same : t.SameBut S t') (p : Path) :
    (∃ e, t.makeDirectory p = .error e ∧ t'.makeDirectory p = .error e) ∨
      ∃ u u', t.makeDirectory p = .ok u ∧ t'.makeDirectory p = .ok u' ∧ u.SameBut S u' := by
  unfold FileTree.makeDirectory
  rw [same.approach]
  cases admit? p with
  | error e => exact .inl ⟨e, rfl, rfl⟩
  | ok _ =>
    rcases t'.approach (stepsWithoutSlash p) with e | ⟨location, step⟩
    · exact .inl ⟨e, rfl, rfl⟩
    cases step with
    | stay => exact .inl ⟨_, rfl, rfl⟩
    | up => exact .inl ⟨_, rfl, rfl⟩
    | child name =>
      simp only
      split
      · exact .inl ⟨_, rfl, rfl⟩
      rcases same (location ++ [name]) with there | ⟨-, content, content', there, there'⟩
      · rw [there]
        cases t'.node? (location ++ [name]) with
        | some n => exact .inl ⟨_, rfl, rfl⟩
        | none => exact .inr ⟨_, _, rfl, rfl, same.put (by simp) (.inl rfl)⟩
      · rw [there, there']
        exact .inl ⟨_, rfl, rfl⟩

theorem refuse (same : t.SameBut S t') (p : Path) (e : FileFault) :
    SameOutcome S (if t.isDirectory p then (Except.ok (), t) else (.error e, t))
      (if t'.isDirectory p then (Except.ok (), t') else (.error e, t')) := by
  rw [same.isDirectory]
  split
  · exact ⟨rfl, same⟩
  · exact ⟨rfl, same⟩

theorem makeDirectories (same : t.SameBut S t') (p : Path) (depth : Nat) :
    SameOutcome S (t.makeDirectories p depth) (t'.makeDirectories p depth) := by
  induction depth generalizing t t' p with
  | zero => exact ⟨rfl, same⟩
  | succ depth ih =>
    unfold FileTree.makeDirectories
    split
    · exact ⟨rfl, same⟩
    rcases same.makeDirectory p with ⟨e, here, here'⟩ | ⟨u, u', here, here', made⟩
    · rw [here, here']
      cases e with
      | notFound =>
        simp only
        cases p.parent? with
        | none => exact ⟨rfl, same⟩
        | some parent =>
          obtain ⟨result, t, t', above, above', same⟩ := (ih same parent).exists_eq
          simp only [above, above']
          cases result with
          | error e => exact ⟨rfl, same⟩
          | ok _ =>
            rcases same.makeDirectory p with ⟨e, here, here'⟩ | ⟨u, u', here, here', made⟩
            · simp only [here, here']
              exact same.refuse p e
            · simp only [here, here']
              exact ⟨rfl, made⟩
      | _ => exact same.refuse p _
    · rw [here, here']
      exact ⟨rfl, made⟩

theorem ensureDirectory (same : t.SameBut S t') (p : Path) :
    SameOutcome S (t.ensureDirectory p) (t'.ensureDirectory p) := by
  unfold FileTree.ensureDirectory makeDirectoryPath
  rcases same.status p with here | ⟨content, content', here, here'⟩
  · rw [here]
    split
    · exact ⟨rfl, same⟩
    · exact ⟨rfl, same⟩
    · obtain ⟨result, u, u', made, made', same⟩ :=
        (same.makeDirectories p (p.text.length + 1)).exists_eq
      rw [made, made']
      cases result with
      | error e => exact ⟨rfl, same⟩
      | ok _ => exact ⟨rfl, same⟩
    · exact ⟨rfl, same⟩
  · rw [here, here']
    exact ⟨rfl, same⟩

theorem prepareFile (same : t.SameBut S t') (p : Path) :
    SameOutcome S (t.prepareFile p) (t'.prepareFile p) := by
  unfold FileTree.prepareFile
  cases p.parent?.filter (!·.isEmpty) with
  | none => exact ⟨same.checkFile p, same⟩
  | some parent =>
    obtain ⟨result, u, u', ensured, ensured', same⟩ := (same.ensureDirectory parent).exists_eq
    simp only [ensured, ensured']
    cases result with
    | error e => exact ⟨rfl, same⟩
    | ok _ => exact ⟨same.checkFile p, same⟩

/-! ## Files -/

theorem writeFile (same : t.SameBut S t') {text text' : String}
    (wrote : t.writeFile p text = (.ok (), u)) (wrote' : t'.writeFile p text' = (.ok (), u'))
    (alike : text = text' ∨ S p.target) : u.SameBut S u' := by
  obtain ⟨v, prepared, put⟩ := writeFile_ok wrote
  obtain ⟨v', prepared', put'⟩ := writeFile_ok wrote'
  have ready := (same.prepareFile p).2
  rw [prepared, prepared'] at ready
  obtain ⟨hl, -, rfl, -⟩ := write_ok put
  obtain ⟨-, -, rfl, -⟩ := write_ok put'
  refine ready.put hl ?_
  rcases alike with rfl | member
  · exact .inl rfl
  · exact .inr ⟨member, _, _, rfl, rfl⟩

end SameBut
end Scaffold.Files.FileTree
