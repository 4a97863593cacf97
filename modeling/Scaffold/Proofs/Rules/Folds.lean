import Scaffold.Proofs.Rules.Calls

/-! Dispatch as monadic folds. Run by a handler, a script is a computation that may fail over the
state of the world, and a script for a source file one over the file and the world. In these monads
each tier is a left fold over the rules that apply, which ends with the first failure. -/

namespace Scaffold.Rules
open Code Files

section Runs
variable {V : Vocabulary} {α β : Type}

def Script.perform (handle : Handler V) (s : Script V α) : ExceptT Failure (StateM World) α :=
  ExceptT.mk fun w => s.run.run handle w

def FileScript.perform (handle : Handler V) (s : FileScript V α) :
    ExceptT Failure (StateT SourceFile (StateM World)) α :=
  ExceptT.mk fun file w => (s.run.run file).run handle w

theorem Script.run_perform (handle : Handler V) (s : Script V α) (w : World) :
    (s.perform handle).run.run w = s.run.run handle w := rfl

theorem FileScript.run_perform (handle : Handler V) (s : FileScript V α) (file : SourceFile)
    (w : World) : ((s.perform handle).run.run file).run w = (s.run.run file).run handle w := rfl

theorem run_bind_world (x : ExceptT Failure (StateM World) α)
    (f : α → ExceptT Failure (StateM World) β) (w : World) :
    ((x >>= f).run.run w : Except Failure β × World) =
      match (x.run.run w : Except Failure α × World) with
      | (.ok a, w) => (f a).run.run w
      | (.error e, w) => (.error e, w) := by
  change (match x.run.run w with | (r, w) => ((ExceptT.bindCont f r).run w : _ × World)) = _
  obtain ⟨e | a, w⟩ : Except Failure α × World := x.run.run w
  · rfl
  · rfl

theorem run_bind_file (x : ExceptT Failure (StateT SourceFile (StateM World)) α)
    (f : α → ExceptT Failure (StateT SourceFile (StateM World)) β) (file : SourceFile) (w : World) :
    (((x >>= f).run.run file).run w : (Except Failure β × SourceFile) × World) =
      match ((x.run.run file).run w : (Except Failure α × SourceFile) × World) with
      | ((.ok a, file), w) => ((f a).run.run file).run w
      | ((.error e, file), w) => ((.error e, file), w) := by
  change (match (x.run.run file).run w with
    | ((r, file), w) => (((ExceptT.bindCont f r).run file).run w : (_ × SourceFile) × World)) = _
  obtain ⟨⟨e | a, file⟩, w⟩ : (Except Failure α × SourceFile) × World := (x.run.run file).run w
  · rfl
  · rfl

end Runs

section Folds
variable {V : Vocabulary} {k : V.Kind} (handle : Handler V) (inflector : Inflector)

def inOrderFragment (rules : List (Rule V (FragmentBody V) k)) (d : V.Descriptor k)
    (acc : Fragment) : ExceptT Failure (StateM World) Fragment :=
  rules.foldlM (fun acc rule => (rule.body inflector acc d).perform handle) acc

def inOrderFile (rules : List (Rule V (FileBody V) k)) (d : V.Descriptor k) :
    ExceptT Failure (StateT SourceFile (StateM World)) Unit :=
  forM rules fun rule => (rule.body inflector d).perform handle

def inOrderDirectory (rules : List (Rule V (DirectoryBody V) k)) (path : Path)
    (d : V.Descriptor k) : ExceptT Failure (StateM World) Unit :=
  forM rules fun rule => (rule.body inflector path d).perform handle

theorem foldFragment_eq (rules : List (Rule V (FragmentBody V) k)) (d : V.Descriptor k)
    (acc : Fragment) (w : World) :
    foldFragment handle inflector d rules acc w =
      (inOrderFragment handle inflector (rules.filter (·.applies d)) d acc).run.run w := by
  induction rules generalizing acc w with
  | nil => rfl
  | cons rule rest ih =>
    by_cases h : rule.applies d
    · simp only [foldFragment, h, if_true, List.filter_cons, inOrderFragment, List.foldlM_cons,
        run_bind_world, Script.run_perform]
      generalize (rule.body inflector acc d).run.run handle w = x
      obtain ⟨e | acc, w⟩ := x
      · rfl
      · exact ih acc w
    · simp only [foldFragment, h, List.filter_cons]
      exact ih acc w

theorem fillFile_eq (rules : List (Rule V (FileBody V) k)) (d : V.Descriptor k)
    (file : SourceFile) (w : World) :
    fillFile handle inflector d rules file w =
      ((inOrderFile handle inflector (rules.filter (·.applies d)) d).run.run file).run w := by
  induction rules generalizing file w with
  | nil => rfl
  | cons rule rest ih =>
    by_cases h : rule.applies d
    · simp only [fillFile, h, if_true, List.filter_cons, inOrderFile, List.forM_cons,
        run_bind_file, FileScript.run_perform]
      generalize ((rule.body inflector d).run.run file).run handle w = x
      obtain ⟨⟨e | _, file⟩, w⟩ := x
      · rfl
      · exact ih file w
    · simp only [fillFile, h, List.filter_cons]
      exact ih file w

theorem fillDirectory_eq (rules : List (Rule V (DirectoryBody V) k)) (path : Path)
    (d : V.Descriptor k) (w : World) :
    fillDirectory handle inflector path d rules w =
      (inOrderDirectory handle inflector (rules.filter (·.applies d)) path d).run.run w := by
  induction rules generalizing w with
  | nil => rfl
  | cons rule rest ih =>
    by_cases h : rule.applies d
    · simp only [fillDirectory, h, if_true, List.filter_cons, inOrderDirectory, List.forM_cons,
        run_bind_world, Script.run_perform]
      generalize (rule.body inflector path d).run.run handle w = x
      obtain ⟨e | _, w⟩ := x
      · rfl
      · exact ih w
    · simp only [fillDirectory, h, List.filter_cons]
      exact ih w

end Folds
end Scaffold.Rules
