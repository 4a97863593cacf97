import Scaffold.Proofs.Rules.Failures

/-! What scripts ensure under one handler. A script ensures a result when, in whatever world it runs,
it returns a result of one set or fails within another. Other than failing within a set, this speaks
about a handler at hand: of its answers only those count that the script really asks for, so it also
serves where other calls to the same handler would fail. In the same way the calls that a run makes
are fewer than those that the script could make. -/

namespace Scaffold

/-- A result of one set, or a failure of another. -/
def EndsIn {ε α : Type} (E : ε → Prop) (Q : α → Prop) : Except ε α → Prop
  | .ok a => Q a
  | .error e => E e

section Results
variable {ε α β : Type} {E : ε → Prop} {Q R : α → Prop}

theorem EndsIn.mono {x : Except ε α} (h : EndsIn E Q x) (sub : ∀ a, Q a → R a) : EndsIn E R x := by
  cases x with
  | error e => exact h
  | ok a => exact sub a h

theorem FailsWithin.endsIn {x : Except ε α} (h : FailsWithin E x) : EndsIn E (fun _ => True) x := by
  cases x with
  | error e => exact h e rfl
  | ok a => trivial

end Results

namespace Rules
open Code Files

namespace Script
variable {V : Vocabulary} {k : V.Kind} {α β γ : Type} {handle : Handler V} {E : Failure → Prop}
  {Q : α → Prop} {R : β → Prop}

def Ensures (handle : Handler V) (E : Failure → Prop) (Q : α → Prop) (s : Script V α) : Prop :=
  ∀ w, EndsIn E Q (s.run.run handle w).1

theorem ensures_pure {a : α} (h : Q a) : (pure a : Script V α).Ensures handle E Q :=
  fun _ => h

theorem ensures_lift {x : Except Failure α} (h : EndsIn E Q x) :
    (monadLift x : Script V α).Ensures handle E Q :=
  fun _ => h

theorem Ensures.mono {Q' : α → Prop} {s : Script V α} (h : s.Ensures handle E Q)
    (sub : ∀ a, Q a → Q' a) : s.Ensures handle E Q' :=
  fun w => (h w).mono sub

theorem Ensures.bind {s : Script V α} {f : α → Script V β} (hs : s.Ensures handle E Q)
    (hf : ∀ a, Q a → (f a).Ensures handle E R) : (s >>= f).Ensures handle E R := by
  intro w
  have first := hs w
  rw [run_andThen]
  generalize s.run.run handle w = ran at first ⊢
  obtain ⟨e | a, v⟩ := ran
  · exact first
  · exact hf a first v

theorem ensures_lift_bind {x : Except Failure α} {f : α → Script V β} (h : Scaffold.FailsWithin E x)
    (hf : ∀ a, (f a).Ensures handle E R) : (monadLift x >>= f : Script V β).Ensures handle E R :=
  (ensures_lift h.endsIn).bind fun a _ => hf a

theorem ensures_buildFragment {acc : Fragment} {d : V.Descriptor k} {Q : Fragment → Prop}
    (h : ∀ w, EndsIn E Q (handle (.buildFragment acc d) w).1) :
    (Script.buildFragment acc d).Ensures handle E Q :=
  h

end Script

namespace FileScript
variable {V : Vocabulary} {k : V.Kind} {α β γ : Type} {handle : Handler V} {E : Failure → Prop}
  {Q : α → Prop} {R : β → Prop}

def Ensures (handle : Handler V) (E : Failure → Prop) (Q : α → Prop) (s : FileScript V α) : Prop :=
  ∀ file w, EndsIn E Q ((s.run.run file).run handle w).1.1

theorem ensures_lift {x : Except Failure α} (h : EndsIn E Q x) :
    (monadLift x : FileScript V α).Ensures handle E Q :=
  fun _ _ => h

theorem Ensures.bind {s : FileScript V α} {f : α → FileScript V β} (hs : s.Ensures handle E Q)
    (hf : ∀ a, Q a → (f a).Ensures handle E R) : (s >>= f).Ensures handle E R := by
  intro file w
  have first := hs file w
  rw [run_andThen]
  generalize (s.run.run file).run handle w = ran at first ⊢
  obtain ⟨⟨e | a, file⟩, v⟩ := ran
  · exact first
  · exact hf a first file v

theorem ensures_lift_bind {x : Except Failure α} {f : α → FileScript V β} (h : Scaffold.FailsWithin E x)
    (hf : ∀ a, (f a).Ensures handle E R) :
    (monadLift x >>= f : FileScript V β).Ensures handle E R :=
  (ensures_lift h.endsIn).bind fun a _ => hf a

theorem ensures_change (f : SourceFile → SourceFile) :
    (FileScript.change f : FileScript V Unit).Ensures handle E fun _ => True :=
  fun _ _ => trivial

theorem ensures_buildFragment {acc : Fragment} {d : V.Descriptor k} {Q : Fragment → Prop}
    (h : ∀ w, EndsIn E Q (handle (.buildFragment acc d) w).1) :
    (FileScript.buildFragment acc d).Ensures handle E Q :=
  fun _ w => h w

theorem ensures_emitFile {d : V.Descriptor k}
    (h : ∀ file w, Scaffold.FailsWithin E (handle (.emitFile file d) w).1.1) :
    (FileScript.emitFile d).Ensures handle E fun _ => True :=
  fun file w => (h file w).endsIn

theorem ensures_forM {f : γ → FileScript V Unit} {list : List γ}
    (each : ∀ c ∈ list, (f c).Ensures handle E fun _ => True) :
    (list.forM f).Ensures handle E fun _ => True := by
  induction list with
  | nil => exact fun _ _ => trivial
  | cons c rest ih =>
    refine (each c List.mem_cons_self).bind fun _ _ => ih fun c' hc => ?_
    exact each c' (List.mem_cons_of_mem c hc)

end FileScript

/-! ## Calls made -/

def Program.calls {V : Vocabulary} {α : Type} (handle : Handler V) :
    Program V α → World → List (Call V)
  | .done _, _ => []
  | .ask c next, w => c :: (next (handle c w).1).calls handle (handle c w).2

namespace Program
variable {V : Vocabulary} {α β : Type} {handle : Handler V} {P : Call V → Prop}

theorem calls_bind (p : Program V α) (f : α → Program V β) (w : World) :
    (p >>= f).calls handle w =
      p.calls handle w ++ (f (p.run handle w).1).calls handle (p.run handle w).2 := by
  induction p generalizing w with
  | done a => rfl
  | ask c next ih => exact congrArg (c :: ·) (ih _ _)

theorem Asks.of_mem_calls {p : Program V α} (asks : p.Asks P) {w : World} {c : Call V}
    (made : c ∈ p.calls handle w) : P c := by
  induction p generalizing w with
  | done a => cases made
  | ask c' next ih =>
    rcases List.mem_cons.1 made with rfl | later
    · exact asks.1
    · exact ih _ (asks.2 _) later

end Program

namespace FileScript
variable {V : Vocabulary} {k : V.Kind} {α β : Type} {handle : Handler V} {P : Call V → Prop}

/-- Every call that the script makes, whatever file and world it starts from, is in the set. -/
def Calls (handle : Handler V) (P : Call V → Prop) (s : FileScript V α) : Prop :=
  ∀ file w, ∀ c ∈ (s.run.run file).calls handle w, P c

theorem Asks.calls {s : FileScript V α} (asks : s.Asks P) : s.Calls handle P :=
  fun file _ _ made => (asks file).of_mem_calls made

theorem calls_andThen (s : FileScript V α) (f : α → FileScript V β) (file : SourceFile)
    (w : World) :
    ((s >>= f).run.run file).calls handle w = (s.run.run file).calls handle w ++
      match (s.run.run file).run handle w with
      | ((.ok a, file), w) => ((f a).run.run file).calls handle w
      | ((.error _, _), _) => [] := by
  change (s.run.run file >>= fun x => (ExceptT.bindCont f x.1).run x.2).calls handle w = _
  rw [Program.calls_bind]
  generalize (s.run.run file).run handle w = ran
  obtain ⟨⟨e | a, file⟩, w⟩ := ran
  · rfl
  · rfl

theorem Calls.bind {s : FileScript V α} {f : α → FileScript V β} (hs : s.Calls handle P)
    (hf : ∀ a, (f a).Calls handle P) : (s >>= f).Calls handle P := by
  intro file w c made
  rw [calls_andThen] at made
  rcases List.mem_append.1 made with first | later
  · exact hs file w c first
  · split at later
    · exact hf _ _ _ c later
    · cases later

theorem calls_buildFragment_bind {acc : Fragment} {d : V.Descriptor k}
    {f : Fragment → FileScript V β} (asked : P (.buildFragment acc d))
    (hf : ∀ made w v, handle (.buildFragment acc d) w = (.ok made, v) → (f made).Calls handle P) :
    (FileScript.buildFragment acc d >>= f).Calls handle P := by
  intro file w c made
  rw [calls_andThen] at made
  rcases List.mem_append.1 made with first | later
  · obtain rfl := List.mem_singleton.1 first
    exact asked
  · have ran : ((FileScript.buildFragment acc d).run.run file).run handle w =
        (((handle (.buildFragment acc d) w).1, file), (handle (.buildFragment acc d) w).2) := rfl
    rw [ran] at later
    rcases answered : handle (.buildFragment acc d) w with ⟨e | built, v⟩
    · rw [answered] at later
      cases later
    · rw [answered] at later
      exact hf built w v answered file v c later

end FileScript

/-! ## Rules in sequence -/

section Sequences
variable {V : Vocabulary} {k : V.Kind} {handle : Handler V} {inflector : Inflector}
  {d : V.Descriptor k} {E : Failure → Prop} {P : Fragment → Prop}

theorem foldFragment_endsIn {rules : List (Rule V (FragmentBody V) k)}
    (each : ∀ rule ∈ rules, rule.applies d = true → ∀ acc, P acc →
      (rule.body inflector acc d).Ensures handle E P)
    {acc : Fragment} (start : P acc) (w : World) :
    EndsIn E P (foldFragment handle inflector d rules acc w).1 := by
  induction rules generalizing acc w with
  | nil => exact start
  | cons rule rest ih =>
    have later := fun rule hr => each rule (List.mem_cons_of_mem _ hr)
    unfold foldFragment
    split
    next applies =>
      have first := each rule List.mem_cons_self applies acc start w
      split
      next made v ran =>
        rw [ran] at first
        exact ih later first v
      next e v ran =>
        rw [ran] at first
        exact first
    next => exact ih later start w

theorem foldFragment_cons_endsIn {body : FragmentBody V k}
    {rest : List (Rule V (FragmentBody V) k)} {acc : Fragment}
    (first : (body inflector acc d).Ensures handle E P)
    (later : ∀ rule ∈ rest, rule.applies d = true → ∀ acc, P acc →
      (rule.body inflector acc d).Ensures handle E P) (w : World) :
    EndsIn E P (foldFragment handle inflector d (⟨.always k, body⟩ :: rest) acc w).1 := by
  have established := first w
  simp only [foldFragment, Rule.applies, Key.admits_always, if_true]
  split
  next made v ran =>
    rw [ran] at established
    exact foldFragment_endsIn later established v
  next e v ran =>
    rw [ran] at established
    exact established

theorem fillFile_failsWithin {rules : List (Rule V (FileBody V) k)}
    (each : ∀ rule ∈ rules, rule.applies d = true →
      (rule.body inflector d).Ensures handle E fun _ => True) (file : SourceFile) (w : World) :
    FailsWithin E (fillFile handle inflector d rules file w).1.1 := by
  induction rules generalizing file w with
  | nil => exact failsWithin_ok ()
  | cons rule rest ih =>
    have later := fun rule hr => each rule (List.mem_cons_of_mem _ hr)
    unfold fillFile
    split
    next applies =>
      have first := each rule List.mem_cons_self applies file w
      split
      next file' v ran => exact ih later file' v
      next e file' v ran =>
        rw [ran] at first
        exact failsWithin_error first
    next => exact ih later file w

end Sequences
end Rules
end Scaffold
