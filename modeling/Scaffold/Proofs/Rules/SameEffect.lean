import Scaffold.Proofs.Rules.Additive

/-! Scripts with the same effect. Two descriptors that no rule can tell apart are still passed on in
calls, so the scripts that rules run for them are different programs; what they do to a source file
is compared here step by step, calls being compared by their answers. -/

namespace Scaffold.Rules
open Code

namespace FileScript
variable {V : Vocabulary} {k : V.Kind} {α β : Type} {answers : Answers V}
  {s t : FileScript V α} {f g : α → FileScript V β}

/-- Both scripts give the same result and leave the same file, whatever file they are given. -/
def SameEffect (answers : Answers V) (s t : FileScript V α) : Prop :=
  ∀ file, s.value answers file = t.value answers file

theorem SameEffect.refl (s : FileScript V α) : SameEffect answers s s :=
  fun _ => rfl

theorem SameEffect.bind (first : SameEffect answers s t)
    (next : ∀ a, SameEffect answers (f a) (g a)) : SameEffect answers (s >>= f) (t >>= g) := by
  intro file
  rw [value_bind, value_bind, first file]
  generalize t.value answers file = made
  obtain ⟨e | a, between⟩ := made
  · rfl
  · exact next a between

theorem sameEffect_buildFragment {acc : Fragment} {d other : V.Descriptor k}
    (same : answers (.buildFragment acc d) = answers (.buildFragment acc other)) :
    SameEffect answers (FileScript.buildFragment acc d) (FileScript.buildFragment acc other) := by
  intro file
  rw [value_buildFragment, value_buildFragment, same]

theorem sameEffect_emitFile {d other : V.Descriptor k}
    (same : ∀ file, answers (.emitFile file d) = answers (.emitFile file other)) :
    SameEffect answers (FileScript.emitFile d) (FileScript.emitFile other) :=
  same

end FileScript

section Sequences
variable {V : Vocabulary} {k : V.Kind} {answers : Answers V} {inflector : Inflector}
  {d other : V.Descriptor k}

/-- A rule does the same for two descriptors if it applies to both or neither, and its body does. -/
def FileBody.SameFor (answers : Answers V) (inflector : Inflector) (d other : V.Descriptor k)
    (rule : Rule V (FileBody V) k) : Prop :=
  rule.applies d = rule.applies other ∧
    FileScript.SameEffect answers (rule.body inflector d) (rule.body inflector other)

theorem sameEffect_fileScript {rules : List (Rule V (FileBody V) k)}
    (same : ∀ rule ∈ rules, FileBody.SameFor answers inflector d other rule) :
    FileScript.SameEffect answers (fileScript inflector d rules)
      (fileScript inflector other rules) := by
  induction rules with
  | nil => exact .refl _
  | cons rule rest ih =>
    have tail := ih fun rule hr => same rule (List.mem_cons_of_mem _ hr)
    obtain ⟨applies, body⟩ := same rule List.mem_cons_self
    change FileScript.SameEffect answers
      ((if rule.applies d then rule.body inflector d else pure ()) >>= fun _ =>
        fileScript inflector d rest)
      ((if rule.applies other then rule.body inflector other else pure ()) >>= fun _ =>
        fileScript inflector other rest)
    refine .bind ?_ fun _ => tail
    rw [applies]
    split
    · exact body
    · exact .refl _

theorem value_fragmentScript_congr {rules : List (Rule V (FragmentBody V) k)} {acc : Fragment}
    (additive : ∀ d, ∀ rule ∈ rules,
      Fragment.Additive fun acc => (rule.body inflector acc d).value answers)
    (same : ∀ rule ∈ rules,
      Rule.lines answers inflector acc d rule = Rule.lines answers inflector acc other rule) :
    (fragmentScript inflector d rules acc).value answers =
      (fragmentScript inflector other rules acc).value answers := by
  rw [value_fragmentScript (additive d), value_fragmentScript (additive other), mapM_congr same]

theorem lines_congr_of_body {rule : Rule V (FragmentBody V) k} {slots : Fragment}
    (applies : rule.applies d = rule.applies other)
    (body : (rule.body inflector (.inheriting slots) d).value answers =
      (rule.body inflector (.inheriting slots) other).value answers) :
    Rule.lines answers inflector slots d rule = Rule.lines answers inflector slots other rule := by
  rw [Rule.lines, Rule.lines, applies, body]

theorem lines_eq_of_idle {rule : Rule V (FragmentBody V) k} {slots : Fragment}
    (idle : rule.applies d = false →
      (rule.body inflector (.inheriting slots) d).value answers = .ok (.inheriting slots)) :
    Rule.lines answers inflector slots d rule =
      ((rule.body inflector (.inheriting slots) d).value answers).map Fragment.items := by
  unfold Rule.lines
  split
  · rfl
  · rename_i passed
    rw [idle (Bool.eq_false_iff.2 passed)]
    rfl

end Sequences
end Scaffold.Rules
