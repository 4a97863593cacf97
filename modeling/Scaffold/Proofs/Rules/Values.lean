import Scaffold.Proofs.Outcomes
import Scaffold.Proofs.Rules.Layers
import Scaffold.Proofs.Rules.Sequences

/-! The values of scripts. Where calls are answered without looking at a world, a script has a value
that no world enters: what it returns, and for a source file what it makes of the file. The quiet
calls to a registry with layered rules are answered so, and their answers are the values of the
rules in sequence. This takes depth and world out of everything that is said about one file. -/

namespace Scaffold

namespace Rules
open Code Files

/-- Answers to calls that do not depend on a world. -/
abbrev Answers (V : Vocabulary) : Type :=
  (c : Call V) → c.Answer

namespace Program
variable {V : Vocabulary} {α β : Type} {answers : Answers V}

def value (answers : Answers V) : Program V α → α
  | .done a => a
  | .ask c next => (next (answers c)).value answers

theorem value_bind (p : Program V α) (f : α → Program V β) :
    (p >>= f).value answers = (f (p.value answers)).value answers := by
  induction p with
  | done a => rfl
  | ask c next ih => exact ih (answers c)

theorem run_eq_value {P : Call V → Prop} {handle : Handler V} {p : Program V α} (asks : p.Asks P)
    (h : ∀ c, P c → ∀ w, handle c w = (answers c, w)) (w : World) :
    p.run handle w = (p.value answers, w) := by
  induction p with
  | done a => rfl
  | ask c next ih =>
    rw [run_ask, h c asks.1 w]
    exact ih (answers c) (asks.2 _)

end Program

namespace Script
variable {V : Vocabulary} {k : V.Kind} {α β γ : Type} {answers : Answers V}

def value (answers : Answers V) (s : Script V α) : Except Failure α :=
  Program.value answers s.run

@[simp] theorem value_pure (a : α) : (pure a : Script V α).value answers = .ok a := rfl

@[simp] theorem value_lift (x : Except Failure α) :
    (monadLift x : Script V α).value answers = x := rfl

@[simp] theorem value_buildFragment (acc : Fragment) (d : V.Descriptor k) :
    (Script.buildFragment acc d).value answers = answers (.buildFragment acc d) := rfl

@[simp] theorem value_bind (s : Script V α) (f : α → Script V β) :
    (s >>= f).value answers = s.value answers >>= fun a => (f a).value answers := by
  change Program.value answers (s.run >>= ExceptT.bindCont f) = _
  rw [Program.value_bind]
  change Program.value answers (ExceptT.bindCont f (s.value answers)) = _
  cases s.value answers with
  | error e => rfl
  | ok a => rfl

@[simp] theorem value_ite (p : Prop) [Decidable p] (s t : Script V α) :
    (if p then s else t).value answers = if p then s.value answers else t.value answers :=
  apply_ite _ _ _ _

theorem value_foldlM (f : β → γ → Script V β) (b : β) (list : List γ) :
    (list.foldlM f b).value answers = list.foldlM (fun b c => (f b c).value answers) b := by
  induction list generalizing b with
  | nil => rfl
  | cons c rest ih =>
    rw [List.foldlM_cons, List.foldlM_cons, value_bind]
    exact bind_congr fun b => ih b

end Script

namespace FileScript
variable {V : Vocabulary} {k : V.Kind} {α β γ : Type} {answers : Answers V}
  {file file' : SourceFile}

/-- The result of a script for a source file, and the file as far as it got. -/
def value (answers : Answers V) (s : FileScript V α) (file : SourceFile) :
    Except Failure α × SourceFile :=
  Program.value answers (s.run.run file)

/-- The script succeeds with a result and leaves the file changed to another. -/
def Makes (answers : Answers V) (s : FileScript V α) (file : SourceFile) (a : α)
    (file' : SourceFile) : Prop :=
  s.value answers file = (.ok a, file')

@[simp] theorem makes_pure {a a' : α} :
    (pure a : FileScript V α).Makes answers file a' file' ↔ a' = a ∧ file' = file := by
  change ((.ok a, file) : Except Failure α × SourceFile) = (.ok a', file') ↔ _
  rw [Prod.mk.injEq, Except.ok.injEq]
  exact and_congr eq_comm eq_comm

@[simp] theorem makes_lift {x : Except Failure α} {a : α} :
    (monadLift x : FileScript V α).Makes answers file a file' ↔ x = .ok a ∧ file' = file := by
  change ((x, file) : Except Failure α × SourceFile) = (.ok a, file') ↔ _
  rw [Prod.mk.injEq]
  exact and_congr_right fun _ => eq_comm

@[simp] theorem makes_change {f : SourceFile → SourceFile} {a : Unit} :
    (FileScript.change f : FileScript V Unit).Makes answers file a file' ↔ file' = f file := by
  change ((.ok (), f file) : Except Failure Unit × SourceFile) = (.ok (), file') ↔ _
  rw [Prod.mk.injEq, eq_self, true_and]
  exact eq_comm

@[simp] theorem makes_buildFragment {acc made : Fragment} {d : V.Descriptor k} :
    (FileScript.buildFragment acc d).Makes answers file made file' ↔
      answers (.buildFragment acc d) = .ok made ∧ file' = file := by
  change ((answers (.buildFragment acc d), file) : Except Failure Fragment × SourceFile) =
    (.ok made, file') ↔ _
  rw [Prod.mk.injEq]
  exact and_congr_right fun _ => eq_comm

@[simp] theorem makes_emitFile {d : V.Descriptor k} {a : Unit} :
    (FileScript.emitFile d).Makes answers file a file' ↔
      answers (.emitFile file d) = (.ok (), file') := Iff.rfl

theorem value_buildFragment (acc : Fragment) (d : V.Descriptor k) (file : SourceFile) :
    (FileScript.buildFragment acc d).value answers file =
      (answers (.buildFragment acc d), file) := rfl

theorem value_bind (s : FileScript V α) (f : α → FileScript V β) (file : SourceFile) :
    (s >>= f).value answers file =
      match s.value answers file with
      | (.ok a, between) => (f a).value answers between
      | (.error e, between) => (.error e, between) := by
  change Program.value answers
    (s.run.run file >>= fun x => (ExceptT.bindCont f x.1).run x.2) = _
  rw [Program.value_bind]
  change Program.value answers ((ExceptT.bindCont f (s.value answers file).1).run
    (s.value answers file).2) = _
  generalize s.value answers file = made
  obtain ⟨e | a, between⟩ := made
  · rfl
  · rfl

@[simp] theorem makes_bind {s : FileScript V α} {f : α → FileScript V β} {b : β} :
    (s >>= f).Makes answers file b file' ↔
      ∃ a between, s.Makes answers file a between ∧ (f a).Makes answers between b file' := by
  unfold Makes
  rw [value_bind]
  generalize s.value answers file = made
  obtain ⟨e | a, between⟩ := made
  · refine ⟨nofun, fun ⟨_, _, h, _⟩ => nomatch h⟩
  · refine ⟨fun h => ⟨a, between, rfl, h⟩, fun ⟨_, _, h, next⟩ => ?_⟩
    cases h
    exact next

theorem makes_lift_bind {x : Except Failure α} {f : α → FileScript V β} {b : β} :
    (monadLift x >>= f : FileScript V β).Makes answers file b file' ↔
      ∃ a, x = .ok a ∧ (f a).Makes answers file b file' := by
  simp only [makes_bind, makes_lift]
  constructor
  · rintro ⟨a, _, ⟨computed, rfl⟩, next⟩
    exact ⟨a, computed, next⟩
  · rintro ⟨a, computed, next⟩
    exact ⟨a, file, ⟨computed, rfl⟩, next⟩

theorem makes_buildFragment_bind {acc : Fragment} {d : V.Descriptor k}
    {f : Fragment → FileScript V β} {b : β} :
    (FileScript.buildFragment acc d >>= f).Makes answers file b file' ↔
      ∃ made, answers (.buildFragment acc d) = .ok made ∧ (f made).Makes answers file b file' := by
  simp only [makes_bind, makes_buildFragment]
  constructor
  · rintro ⟨made, _, ⟨built, rfl⟩, next⟩
    exact ⟨made, built, next⟩
  · rintro ⟨made, built, next⟩
    exact ⟨made, file, ⟨built, rfl⟩, next⟩

end FileScript

section Sequences
variable {V : Vocabulary} {k : V.Kind} {answers : Answers V} {inflector : Inflector}
  {d : V.Descriptor k} {file file' : SourceFile} {a : Unit}

theorem value_fragmentScript_cons {rule : Rule V (FragmentBody V) k}
    {rest : List (Rule V (FragmentBody V) k)} (acc : Fragment) :
    (fragmentScript inflector d (rule :: rest) acc).value answers =
      (if rule.applies d then (rule.body inflector acc d).value answers else .ok acc) >>=
        fun acc => (fragmentScript inflector d rest acc).value answers := by
  rw [fragmentScript, List.foldlM_cons, Script.value_bind, Script.value_ite, Script.value_pure]
  rfl

theorem value_fragmentScript_singleton {rule : Rule V (FragmentBody V) k} (acc : Fragment) :
    (fragmentScript inflector d [rule] acc).value answers =
      if rule.applies d then (rule.body inflector acc d).value answers else .ok acc := by
  rw [value_fragmentScript_cons]
  exact bind_pure _

theorem makes_fileScript_nil :
    (fileScript inflector d []).Makes answers file a file' ↔ file' = file :=
  FileScript.makes_pure.trans (and_iff_right rfl)

theorem makes_fileScript_cons {rule : Rule V (FileBody V) k}
    {rest : List (Rule V (FileBody V) k)} :
    (fileScript inflector d (rule :: rest)).Makes answers file a file' ↔
      ∃ between, (if rule.applies d then (rule.body inflector d).Makes answers file () between
          else between = file) ∧
        (fileScript inflector d rest).Makes answers between a file' := by
  change ((if rule.applies d then rule.body inflector d else pure ()) >>= fun _ =>
    fileScript inflector d rest : FileScript V Unit).Makes answers file a file' ↔ _
  rw [FileScript.makes_bind]
  by_cases applies : rule.applies d
  · simp only [applies, if_true]
    exact ⟨fun ⟨_, between, made⟩ => ⟨between, made⟩, fun ⟨between, made⟩ => ⟨(), between, made⟩⟩
  · simp only [applies, Bool.false_eq_true, if_false, FileScript.makes_pure]
    constructor
    · rintro ⟨_, between, ⟨-, same⟩, tail⟩
      exact ⟨between, same, tail⟩
    · rintro ⟨between, same, tail⟩
      exact ⟨(), between, ⟨trivial, same⟩, tail⟩

end Sequences

/-! ## Registries -/

namespace Registry
variable {V : Vocabulary} {rank : V.Kind → Nat} {r : Registry V} {k : V.Kind}

def answers (r : Registry V) : Answers V :=
  fun c => (r.dispatch depthLimit c {}).1

theorem dispatch_eq_answers (layered : r.tables.Layered rank) {c : Call V} {bound depth : Nat}
    (below : c.Below rank bound) (limit : bound ≤ depthLimit) (deep : bound ≤ depth) (w : World) :
    r.dispatch depth c w = (r.answers c, w) := by
  obtain ⟨same, kept, -⟩ :=
    dispatch_agree layered rfl rfl w {} bound depth depthLimit deep limit c below w {} ⟨rfl, rfl⟩
  exact Prod.ext same kept

theorem layered_withInflector (layered : r.tables.Layered rank) (inflector : Inflector) :
    (r.withInflector inflector).tables.Layered rank :=
  layered

theorem answers_buildFragment (layered : r.tables.Layered rank) (limit : rank k < depthLimit)
    (acc : Fragment) (d : V.Descriptor k) :
    r.answers (.buildFragment acc d) =
      (fragmentScript r.inflector d (r.tables.fragment.rulesFor k) acc).value r.answers := by
  have asks := asks_fragmentScript
    (fun rule hr acc => layered.fragment k rule hr r.inflector acc d) acc
  have run := Program.run_eq_value asks
    (fun c below w => dispatch_eq_answers layered below (Nat.le_of_lt limit)
      (Nat.le_sub_one_of_lt limit) w) {}
  change (foldFragment (r.dispatch (depthLimit - 1)) r.inflector d (r.tables.fragment.rulesFor k)
    acc {}).1 = _
  rw [foldFragment_eq_run, run]
  rfl

theorem answers_emitFile (layered : r.tables.Layered rank) (limit : rank k < depthLimit)
    (file : SourceFile) (d : V.Descriptor k) :
    r.answers (.emitFile file d) =
      (fileScript r.inflector d (r.tables.file.rulesFor k)).value r.answers file := by
  have asks := asks_fileScript (fun rule hr => layered.file k rule hr r.inflector d)
  have run := Program.run_eq_value (asks file)
    (fun c below w => dispatch_eq_answers layered below (Nat.le_of_lt limit)
      (Nat.le_sub_one_of_lt limit) w) {}
  change (fillFile (r.dispatch (depthLimit - 1)) r.inflector d (r.tables.file.rulesFor k) file
    {}).1 = _
  rw [fillFile_eq_run, run]
  rfl

theorem buildFragment_eq_answers (layered : r.tables.Layered rank) (limit : rank k < depthLimit)
    (acc : Fragment) (d : V.Descriptor k) (w : World) :
    r.buildFragment acc d w = (r.answers (.buildFragment acc d), w) :=
  dispatch_eq_answers layered ((Call.below_buildFragment acc d).2 (Nat.lt_succ_self _)) limit limit w

theorem emitFile_eq_answers (layered : r.tables.Layered rank) (limit : rank k < depthLimit)
    (file : SourceFile) (d : V.Descriptor k) (w : World) :
    r.emitFile file d w = (r.answers (.emitFile file d), w) :=
  dispatch_eq_answers layered ((Call.below_emitFile file d).2 (Nat.lt_succ_self _)) limit limit w

end Registry
end Rules
end Scaffold
