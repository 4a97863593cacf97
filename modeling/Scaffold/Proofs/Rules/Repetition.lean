import Scaffold.Proofs.Files.Repetition
import Scaffold.Proofs.Rules.Emission

/-! Tasks done again. What a task did stays done through every later task, since no task changes the
kind of an entry that is there. So after all tasks of a list succeeded each of them can be done
again: the checks are the same, the directories are there, and the same texts are written over the
files of the first time, which leaves the tree as it is. -/

namespace Scaffold.Rules
open Files

variable {log : String} {task : Task} {tasks : List Task} {w v : World} {t t' : FileTree}

inductive Task.Done (t : FileTree) : Task → Prop
  | check : Done t (.check (.ok ()))
  | directory {path : Path} (there : t.HasDirectory path) : Done t (.directory path)
  | file {path : Path} (text : String) (there : t.HasFile path) : Done t (.file ⟨path, .ok text⟩)

theorem Task.Done.keeps (done : task.Done t) (keeps : t.Keeps t') : task.Done t' := by
  cases done with
  | check => exact .check
  | directory there => exact .directory (keeps.hasDirectory there)
  | file text there => exact .file text (keeps.hasFile there)

theorem perform_keeps (log : String) (task : Task) (w : World) :
    w.files.Keeps (task.perform log w).2.files := by
  cases task with
  | check result => exact FileTree.Keeps.refl w.files
  | directory path => exact (FileTree.ensureDirectory_adds w.files path).keeps
  | file f =>
    have prepared := (FileTree.prepareFile_adds w.files f.path).keeps
    simp only [Task.perform]
    split
    · rename_i hp
      rwa [hp] at prepared
    · rename_i files hp
      rw [hp] at prepared
      cases f.text with
      | error e => exact prepared
      | ok text =>
        have wrote := prepared.trans (files.writeFile_keeps f.path text)
        simp only
        split
        · rename_i hw
          rwa [hw] at wrote
        · rename_i hw
          rwa [hw] at wrote

theorem performAll_keeps (log : String) (tasks : List Task) (w : World) :
    w.files.Keeps (performAll log tasks w).2.files := by
  induction tasks generalizing w with
  | nil => exact FileTree.Keeps.refl w.files
  | cons task rest ih =>
    have first := perform_keeps log task w
    unfold performAll inTurn
    split
    · rename_i ran
      rwa [ran] at first
    · rename_i ran
      rw [ran] at first
      exact first.trans (ih _)

theorem perform_done (h : task.perform log w = (.ok (), v)) : task.Done v.files := by
  cases task with
  | check result =>
    obtain ⟨rfl, -⟩ := Prod.mk.inj h
    exact .check
  | directory path =>
    obtain ⟨ensured, rfl⟩ := Prod.mk.inj h
    exact .directory (FileTree.ensureDirectory_ok (Prod.ext ensured rfl))
  | file f =>
    obtain ⟨path, text⟩ := f
    simp only [Task.perform] at h
    split at h
    · cases h
    · cases text with
      | error e => cases h
      | ok text =>
        simp only at h
        split at h
        · cases h
        · rename_i files wrote
          obtain ⟨-, rfl⟩ := Prod.mk.inj h
          exact .file text (FileTree.writeFile_hasFile wrote)

theorem inTurn_ok {run next : World → Except Failure Unit × World}
    (h : inTurn run next w = (.ok (), v)) :
    ∃ u, run w = (.ok (), u) ∧ next u = (.ok (), v) := by
  unfold inTurn at h
  split at h
  · cases h
  · rename_i u ran
    exact ⟨u, ran, h⟩

theorem performAll_done (h : performAll log tasks w = (.ok (), v)) :
    ∀ task ∈ tasks, task.Done v.files := by
  induction tasks generalizing w with
  | nil => simp
  | cons task rest ih =>
    obtain ⟨u, first, later⟩ := inTurn_ok h
    have kept := performAll_keeps log rest u
    rw [later] at kept
    exact List.forall_mem_cons.2 ⟨(perform_done first).keeps kept, ih later⟩

end Scaffold.Rules
