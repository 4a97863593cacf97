import Mathlib.Data.List.Forall2
import Scaffold.Failure

/-! When a computation that may fail succeeds, and what a traversal of a list makes: its results
stand side by side with the elements that they are made of. -/

namespace Scaffold

section Outcomes
variable {ε α β : Type}

theorem error_ne_ok {fault : ε} {a : α} : (.error fault : Except ε α) ≠ .ok a :=
  nofun

theorem not_exists_error_eq_ok {fault : ε} : ¬ ∃ a, (.error fault : Except ε α) = .ok a :=
  not_exists.2 fun _ => error_ne_ok

theorem bind_eq_error {x : Except ε α} {f : α → Except ε β} {fault : ε} :
    x >>= f = .error fault ↔ x = .error fault ∨ ∃ a, x = .ok a ∧ f a = .error fault := by
  cases x with
  | error fault' =>
    constructor
    · exact fun failed => .inl (congrArg _ (Except.error.inj failed))
    · rintro (failed | ⟨_, made, -⟩)
      · exact congrArg _ (Except.error.inj failed)
      · cases made
  | ok a =>
    constructor
    · exact fun failed => .inr ⟨a, rfl, failed⟩
    · rintro (failed | ⟨_, made, failed⟩)
      · cases failed
      · exact Except.ok.inj made ▸ failed

theorem exists_bind_iff {x : Except ε α} {f : α → Except ε β} :
    (∃ b, x >>= f = .ok b) ↔ ∃ a, x = .ok a ∧ ∃ b, f a = .ok b := by
  simp only [bind_eq_ok]
  exact ⟨fun ⟨b, a, first, next⟩ => ⟨a, first, b, next⟩,
    fun ⟨a, first, b, next⟩ => ⟨b, a, first, next⟩⟩

theorem exists_bind_iff_of {x : Except ε α} {f : α → Except ε β} {p : Prop}
    (next : ∀ a, (∃ b, f a = .ok b) ↔ p) :
    (∃ b, x >>= f = .ok b) ↔ (∃ a, x = .ok a) ∧ p := by
  simp only [exists_bind_iff, next, exists_and_right]

theorem exists_ite_iff {p : Prop} [Decidable p] {x : Except ε α} {a : α} :
    (∃ b, (if p then x else .ok a) = .ok b) ↔ (p → ∃ b, x = .ok b) := by
  split
  · rename_i holds
    exact ⟨fun h _ => h, fun h => h holds⟩
  · rename_i fails
    exact iff_of_true ⟨a, rfl⟩ fun holds => absurd holds fails

theorem forall_mem_of_ite {p : Prop} [Decidable p] {x : Except ε (List β)} {bs : List β}
    {P : β → Prop} (made : (if p then x else .ok []) = .ok bs)
    (each : x = .ok bs → ∀ b ∈ bs, P b) : ∀ b ∈ bs, P b := by
  split at made
  · exact each made
  · rw [← Except.ok.inj made]
    exact nofun

theorem map_eq_ok {f : α → β} {x : Except ε α} {b : β} :
    x.map f = .ok b ↔ ∃ a, x = .ok a ∧ b = f a := by
  cases x with
  | error e => exact iff_of_false nofun nofun
  | ok a =>
    constructor
    · exact fun made => ⟨a, rfl, (Except.ok.inj made).symm⟩
    · rintro ⟨_, same, rfl⟩
      exact same ▸ rfl

theorem exists_map_iff {f : α → β} {x : Except ε α} :
    (∃ b, x.map f = .ok b) ↔ ∃ a, x = .ok a := by
  cases x with
  | error fault => exact iff_of_false not_exists_error_eq_ok not_exists_error_eq_ok
  | ok a => exact iff_of_true ⟨_, rfl⟩ ⟨_, rfl⟩

theorem map_eq_error {f : α → β} {x : Except ε α} {fault : ε} :
    x.map f = .error fault ↔ x = .error fault := by
  cases x with
  | error fault' => exact ⟨congrArg _ ∘ Except.error.inj, congrArg _ ∘ Except.error.inj⟩
  | ok a => exact iff_of_false error_ne_ok.symm error_ne_ok.symm

end Outcomes

section Traversals
variable {ε α β γ : Type} {f : α → Except ε β}

theorem mapM_cons_eq_ok {a : α} {rest : List α} {results : List β} :
    (a :: rest).mapM f = .ok results ↔
      ∃ b bs, f a = .ok b ∧ rest.mapM f = .ok bs ∧ results = b :: bs := by
  rw [List.mapM_cons, bind_eq_ok]
  constructor
  · rintro ⟨b, head, h⟩
    obtain ⟨bs, tail, h⟩ := bind_eq_ok.1 h
    exact ⟨b, bs, head, tail, (Except.ok.inj h).symm⟩
  · rintro ⟨b, bs, head, tail, rfl⟩
    exact ⟨b, head, bind_eq_ok.2 ⟨bs, tail, rfl⟩⟩

theorem exists_mapM_iff {list : List α} :
    (∃ results, list.mapM f = .ok results) ↔ ∀ a ∈ list, ∃ b, f a = .ok b := by
  induction list with
  | nil => exact iff_of_true ⟨[], rfl⟩ nofun
  | cons a rest ih =>
    rw [List.forall_mem_cons, ← ih]
    simp only [mapM_cons_eq_ok]
    constructor
    · rintro ⟨_, b, bs, head, tail, -⟩
      exact ⟨⟨b, head⟩, bs, tail⟩
    · rintro ⟨⟨b, head⟩, bs, tail⟩
      exact ⟨_, b, bs, head, tail, rfl⟩

theorem exists_split_cons_iff {P : List α → α → Prop} {a : α} {rest : List α} :
    (∃ before b after, a :: rest = before ++ b :: after ∧ P before b) ↔
      P [] a ∨ ∃ before b after, rest = before ++ b :: after ∧ P (a :: before) b := by
  constructor
  · rintro ⟨before, b, after, same, holds⟩
    cases before with
    | nil =>
      obtain ⟨rfl, rfl⟩ := List.cons.inj same
      exact .inl holds
    | cons _ before =>
      obtain ⟨rfl, rfl⟩ := List.cons.inj same
      exact .inr ⟨before, b, after, rfl, holds⟩
  · rintro (holds | ⟨before, b, after, rfl, holds⟩)
    · exact ⟨[], a, rest, rfl, holds⟩
    · exact ⟨a :: before, b, after, rfl, holds⟩

theorem not_exists_split_nil {P : List α → α → Prop} :
    ¬ ∃ before b after, [] = before ++ b :: after ∧ P before b := by
  rintro ⟨before, b, after, same, -⟩
  exact List.append_ne_nil_of_right_ne_nil before (List.cons_ne_nil b after) same.symm

theorem mapM_cons_eq_error {a : α} {rest : List α} {fault : ε} :
    (a :: rest).mapM f = .error fault ↔
      f a = .error fault ∨ (∃ b, f a = .ok b) ∧ rest.mapM f = .error fault := by
  have collected (b : β) : (do let bs ← rest.mapM f; pure (b :: bs)) = Except.error fault ↔
      rest.mapM f = .error fault := by
    rw [bind_eq_error]
    refine or_iff_left ?_
    rintro ⟨_, -, made⟩
    cases made
  rw [List.mapM_cons, bind_eq_error]
  simp only [collected, exists_and_right]

theorem mapM_eq_error_iff {list : List α} {fault : ε} :
    list.mapM f = .error fault ↔ ∃ before a after, list = before ++ a :: after ∧
      (∀ b ∈ before, ∃ result, f b = .ok result) ∧ f a = .error fault := by
  induction list with
  | nil => exact iff_of_false error_ne_ok.symm not_exists_split_nil
  | cons a rest ih =>
    rw [exists_split_cons_iff, mapM_cons_eq_error, ih]
    simp only [List.forall_mem_cons, List.not_mem_nil, false_imp_iff, implies_true, true_and,
      and_assoc]
    refine or_congr_right ⟨?_, ?_⟩
    · rintro ⟨head, before, b, after, split, each, failed⟩
      exact ⟨before, b, after, split, head, each, failed⟩
    · rintro ⟨before, b, after, split, head, each, failed⟩
      exact ⟨head, before, b, after, split, each, failed⟩

theorem mapM_congr {g : α → Except ε β} {list : List α} (same : ∀ a ∈ list, f a = g a) :
    list.mapM f = list.mapM g := by
  induction list with
  | nil => rfl
  | cons a rest ih =>
    have tail := ih fun b hb => same b (List.mem_cons_of_mem a hb)
    rw [List.mapM_cons, List.mapM_cons, same a List.mem_cons_self, tail]

theorem mapM_eq_ok_iff {list : List α} {bs : List β} :
    list.mapM f = .ok bs ↔ List.Forall₂ (fun a b => f a = .ok b) list bs := by
  induction list generalizing bs with
  | nil =>
    rw [List.forall₂_nil_left_iff]
    exact ⟨fun made => (Except.ok.inj made).symm, fun none => none ▸ rfl⟩
  | cons a rest ih =>
    rw [mapM_cons_eq_ok, List.forall₂_cons_left_iff]
    constructor
    · rintro ⟨b, bs, head, tail, rfl⟩
      exact ⟨b, bs, head, ih.1 tail, rfl⟩
    · rintro ⟨b, bs, head, tail, rfl⟩
      exact ⟨b, bs, head, ih.2 tail, rfl⟩

theorem forall₂_of_common {R : α → β → Prop} {S : α → γ → Prop} {T : β → γ → Prop}
    {list : List α} {bs : List β} {cs : List γ} (related : ∀ a b c, R a b → S a c → T b c)
    (first : List.Forall₂ R list bs) (second : List.Forall₂ S list cs) : List.Forall₂ T bs cs := by
  induction first generalizing cs with
  | nil =>
    rw [List.forall₂_nil_left_iff.1 second]
    exact .nil
  | cons head _ ih =>
    cases second with
    | cons head' tail' => exact .cons (related _ _ _ head head') (ih tail')

theorem exists_of_forall₂ {R : α → β → Prop} {list : List α} {bs : List β}
    (related : List.Forall₂ R list bs) {b : β} (member : b ∈ bs) : ∃ a ∈ list, R a b := by
  induction related with
  | nil => cases member
  | @cons a _ _ _ head _ ih =>
    rcases List.mem_cons.1 member with rfl | member
    · exact ⟨a, List.mem_cons_self, head⟩
    · obtain ⟨a', ha, made⟩ := ih member
      exact ⟨a', List.mem_cons_of_mem _ ha, made⟩

theorem forall₂_imp_of_mem {R S : α → β → Prop} {list : List α} {bs : List β}
    (implies : ∀ a ∈ list, ∀ b, R a b → S a b) (related : List.Forall₂ R list bs) :
    List.Forall₂ S list bs :=
  ((List.forall₂_and_left list bs).2 ⟨implies, related⟩).imp fun _ b h => h.1 b h.2

theorem map_eq_of_forall₂ {f : α → γ} {g : β → γ} {list : List α} {bs : List β}
    (related : List.Forall₂ (fun a b => f a = g b) list bs) : list.map f = bs.map g := by
  rw [← List.forall₂_map_right_iff, ← List.forall₂_map_left_iff, List.forall₂_eq_eq_eq] at related
  exact related

end Traversals
end Scaffold
