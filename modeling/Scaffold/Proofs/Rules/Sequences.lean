import Scaffold.Rules.Dispatch

/-! The rules for a descriptor as one script. Dispatch runs the rules of a kind one after the other;
the scripts here are their bodies in sequence, so that what holds of scripts because it holds of
their steps holds of dispatch. -/

namespace Scaffold.Rules
open Code Files

section Runs
variable {V : Vocabulary} {α β : Type} (handle : Handler V)

theorem Script.run_andThen (s : Script V α) (f : α → Script V β) (w : World) :
    (s >>= f).run.run handle w =
      match s.run.run handle w with
      | (.ok a, w) => (f a).run.run handle w
      | (.error e, w) => (.error e, w) := by
  change (s.run >>= ExceptT.bindCont f).run handle w = _
  rw [Program.run_bind]
  generalize s.run.run handle w = ran
  obtain ⟨e | a, w⟩ := ran
  · rfl
  · rfl

theorem FileScript.run_andThen (s : FileScript V α) (f : α → FileScript V β) (file : SourceFile)
    (w : World) :
    ((s >>= f).run.run file).run handle w =
      match (s.run.run file).run handle w with
      | ((.ok a, file), w) => ((f a).run.run file).run handle w
      | ((.error e, file), w) => ((.error e, file), w) := by
  change (s.run.run file >>= fun x => (ExceptT.bindCont f x.1).run x.2).run handle w = _
  rw [Program.run_bind]
  generalize (s.run.run file).run handle w = ran
  obtain ⟨⟨e | a, file⟩, w⟩ := ran
  · rfl
  · rfl

end Runs

section Sequences
variable {V : Vocabulary} {k : V.Kind} (handle : Handler V) (inflector : Inflector)

def fragmentScript (d : V.Descriptor k) (rules : List (Rule V (FragmentBody V) k))
    (acc : Fragment) : Script V Fragment :=
  rules.foldlM (fun acc rule => if rule.applies d then rule.body inflector acc d else pure acc) acc

def fileScript (d : V.Descriptor k) (rules : List (Rule V (FileBody V) k)) : FileScript V Unit :=
  rules.forM fun rule => if rule.applies d then rule.body inflector d else pure ()

def directoryScript (path : Path) (d : V.Descriptor k)
    (rules : List (Rule V (DirectoryBody V) k)) : Script V Unit :=
  rules.forM fun rule => if rule.applies d then rule.body inflector path d else pure ()

theorem foldFragment_eq_run (d : V.Descriptor k) (rules : List (Rule V (FragmentBody V) k))
    (acc : Fragment) (w : World) :
    foldFragment handle inflector d rules acc w =
      (fragmentScript inflector d rules acc).run.run handle w := by
  induction rules generalizing acc w with
  | nil => rfl
  | cons rule rest ih =>
    rw [foldFragment, fragmentScript, List.foldlM_cons, Script.run_andThen]
    split
    · generalize (rule.body inflector acc d).run.run handle w = ran
      obtain ⟨e | acc, w⟩ := ran
      · rfl
      · exact ih acc w
    · exact ih acc w

theorem fillFile_eq_run (d : V.Descriptor k) (rules : List (Rule V (FileBody V) k))
    (file : SourceFile) (w : World) :
    fillFile handle inflector d rules file w =
      ((fileScript inflector d rules).run.run file).run handle w := by
  induction rules generalizing file w with
  | nil => rfl
  | cons rule rest ih =>
    change _ = (((if rule.applies d then rule.body inflector d else pure ()) >>= fun _ =>
      fileScript inflector d rest : FileScript V Unit).run.run file).run handle w
    rw [fillFile, FileScript.run_andThen]
    split
    · generalize ((rule.body inflector d).run.run file).run handle w = ran
      obtain ⟨⟨e | _, file⟩, w⟩ := ran
      · rfl
      · exact ih file w
    · exact ih file w

theorem fillDirectory_eq_run (path : Path) (d : V.Descriptor k)
    (rules : List (Rule V (DirectoryBody V) k)) (w : World) :
    fillDirectory handle inflector path d rules w =
      (directoryScript inflector path d rules).run.run handle w := by
  induction rules generalizing w with
  | nil => rfl
  | cons rule rest ih =>
    change _ = ((if rule.applies d then rule.body inflector path d else pure ()) >>= fun _ =>
      directoryScript inflector path d rest : Script V Unit).run.run handle w
    rw [fillDirectory, Script.run_andThen]
    split
    · generalize (rule.body inflector path d).run.run handle w = ran
      obtain ⟨e | _, w⟩ := ran
      · rfl
      · exact ih w
    · exact ih w

end Sequences
end Scaffold.Rules
