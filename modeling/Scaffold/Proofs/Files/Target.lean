import Scaffold.Files.FileTree

/-! Where paths lead. In a tree without links the steps of a path alone say where a walk ends, if it
ends at all; the tree decides only whether every step can be made. So each path has a target and
locations that it passes on the way, before any tree is known. -/

namespace Scaffold
namespace Files

def Location.step (location : Location) : Path.Step → Location
  | .stay => location
  | .up => location.dropLast
  | .child name => location ++ [name]

def Location.follow (location : Location) (steps : List Path.Step) : Location :=
  steps.foldl Location.step location

theorem Location.follow_append (location : Location) (steps later : List Path.Step) :
    location.follow (steps ++ later) = (location.follow steps).follow later :=
  List.foldl_append

namespace FileTree
variable {t : FileTree} {location l : Location}

def advance (t : FileTree) (location : Location) (step : Path.Step) : Except FileFault Location :=
  match t.node? location with
  | none => .error .notFound
  | some (.file _) => .error .notADirectory
  | some .directory =>
    match step with
    | .stay => .ok location
    | .up => .ok location.dropLast
    | .child name =>
      if name.utf8ByteSize > nameLimit then .error .nameTooLong
      else match t.node? (location ++ [name]) with
        | none => .error .notFound
        | some _ => .ok (location ++ [name])

theorem walk_cons (t : FileTree) (location : Location) (step : Path.Step)
    (rest : List Path.Step) :
    t.walk location (step :: rest) = t.advance location step >>= fun l => t.walk l rest := by
  rw [walk.eq_def, advance.eq_def]
  cases t.node? location with
  | none => rfl
  | some n =>
    cases n with
    | file content => rfl
    | directory =>
      cases step with
      | stay => rfl
      | up => rfl
      | child name =>
        simp only
        split
        · rfl
        · cases t.node? (location ++ [name]) <;> rfl

theorem walk_append (t : FileTree) (location : Location) (steps later : List Path.Step) :
    t.walk location (steps ++ later) = t.walk location steps >>= fun l => t.walk l later := by
  induction steps generalizing location with
  | nil => rfl
  | cons step rest ih =>
    rw [List.cons_append, walk_cons, walk_cons, bind_assoc]
    exact congrArg _ (funext ih)

theorem advance_eq_ok {step : Path.Step} :
    t.advance location step = .ok l ↔ l = location.step step ∧
      t.node? location = some .directory ∧ ∀ name, step = .child name →
        name.utf8ByteSize ≤ nameLimit ∧ (t.node? (location ++ [name])).isSome := by
  unfold advance
  split
  · rename_i h
    simp [h]
  · rename_i h
    simp [h]
  · rename_i h
    cases step with
    | stay => simpa [h, Location.step] using eq_comm
    | up => simpa [h, Location.step] using eq_comm
    | child name =>
      simp only [Location.step, h, Path.Step.child.injEq, forall_eq', true_and]
      split
      · rename_i long
        simp [Nat.not_le.2 long]
      · rename_i short
        split
        · rename_i missing
          simp [missing]
        · rename_i found
          simpa [found, Nat.not_lt.1 short] using eq_comm

theorem walk_ok {steps : List Path.Step} (h : t.walk location steps = .ok l) :
    l = location.follow steps := by
  induction steps generalizing location with
  | nil => exact (Except.ok.inj h).symm
  | cons step rest ih =>
    rw [walk_cons] at h
    obtain ⟨next, advanced, h⟩ := bind_eq_ok.1 h
    obtain ⟨rfl, -⟩ := advance_eq_ok.1 advanced
    exact ih h

end FileTree
end Files

open Files

namespace Path
variable {p q : Path}

def target (p : Path) : Location :=
  Location.follow [] p.steps

/-- The locations on the way of a path, its target included. -/
def Passes (p : Path) (location : Location) : Prop :=
  ∃ n, location = Location.follow [] (p.steps.take n)

theorem passes_of_prefix {steps : List Step} (h : steps <+: p.steps) :
    p.Passes (Location.follow [] steps) := by
  obtain ⟨rest, h⟩ := h
  refine ⟨steps.length, ?_⟩
  rw [← h, List.take_left]

theorem passes_root (p : Path) : p.Passes [] :=
  ⟨0, rfl⟩

def EndsInName (p : Path) : Prop :=
  ∃ before name, p.steps = before ++ [.child name]

theorem EndsInName.target_ne_nil (h : p.EndsInName) : p.target ≠ [] := by
  obtain ⟨before, name, steps⟩ := h
  rw [target, steps, Location.follow_append]
  exact List.append_ne_nil_of_right_ne_nil _ (List.cons_ne_nil name [])

/-! ## Parents -/

theorem dropIdle_suffix (pieces : List String) : dropIdle pieces <:+ pieces := by
  fun_induction dropIdle pieces with
  | case1 => exact List.suffix_refl []
  | case2 first => exact List.suffix_refl [first]
  | case3 last next before idle ih => exact ih.trans (List.suffix_cons last _)
  | case4 last next before named => exact List.suffix_refl _

theorem dropIdle_ne_nil {pieces : List String} (h : pieces ≠ []) : dropIdle pieces ≠ [] := by
  fun_induction dropIdle pieces with
  | case1 => exact h
  | case2 first => exact List.cons_ne_nil _ _
  | case3 last next before idle ih => exact ih (List.cons_ne_nil _ _)
  | case4 last next before named => exact List.cons_ne_nil _ _

theorem steps_intercalate {kept : List String} (hne : kept ≠ []) (h : kept <+: p.pieces) :
    steps ⟨"/".intercalate kept⟩ <+: p.steps := by
  have split : pieces ⟨"/".intercalate kept⟩ = kept :=
    Text.Pieces.split_intercalate hne fun part hp => Text.Pieces.not_mem_of_mem_split (h.subset hp)
  rw [steps, split]
  exact h.map stepOf

theorem eq_root_of_stays {l : Location} (stays : ∀ step ∈ p.steps, step = .stay)
    (h : p.Passes l) : l = [] := by
  obtain ⟨n, rfl⟩ := h
  have taken : ∀ step ∈ p.steps.take n, step = .stay :=
    fun step hs => stays step (List.mem_of_mem_take hs)
  generalize p.steps.take n = steps at taken
  induction steps with
  | nil => rfl
  | cons step rest ih =>
    rw [taken step List.mem_cons_self]
    exact ih fun s hs => taken s (List.mem_cons_of_mem step hs)

theorem Passes.of_parent {l : Location} (parent : p.parent? = some q) (h : q.Passes l) :
    p.Passes l := by
  unfold parent? at parent
  split at parent
  · cases parent
  · split at parent
    · cases parent
    · cases parent
      rw [eq_root_of_stays (by decide) h]
      exact p.passes_root
  · rename_i last before notAll kept
    split at parent
    · cases parent
      rw [eq_root_of_stays (by decide) h]
      exact p.passes_root
    · cases parent
      have suffix := (dropIdle_suffix before).trans
        ((List.suffix_cons last before).trans (kept ▸ dropIdle_suffix p.pieces.reverse))
      have kept : (dropIdle before).reverse <+: p.pieces := by
        simpa using List.reverse_prefix.2 suffix
      obtain ⟨n, rfl⟩ := h
      refine passes_of_prefix ((List.take_prefix n _).trans (steps_intercalate ?_ kept))
      simpa using dropIdle_ne_nil notAll

/-- The locations on the way to the parent of a path. -/
def Above (p : Path) (location : Location) : Prop :=
  ∃ parent, p.parent? = some parent ∧ parent.Passes location

theorem Above.passes {l : Location} (h : p.Above l) : p.Passes l := by
  obtain ⟨parent, hp, passes⟩ := h
  exact passes.of_parent hp

/-! ## Continued paths -/

theorem steps_append_slash (front rest : String) :
    steps ⟨front ++ "/" ++ rest⟩ = steps ⟨front⟩ ++ steps ⟨rest⟩ := by
  have cut : pieces ⟨front ++ "/" ++ rest⟩ = pieces ⟨front⟩ ++ pieces ⟨rest⟩ :=
    Text.Pieces.split_append_cut '/' front rest
  rw [steps, cut, List.map_append]
  rfl

theorem steps_empty : steps ⟨""⟩ = [.stay] := by decide

theorem follow_steps_append_empty (front : String) (location : Location) :
    location.follow (steps ⟨front ++ "/"⟩) = location.follow (steps ⟨front⟩) := by
  have split := steps_append_slash front ""
  rw [String.append_empty] at split
  rw [split, steps_empty, Location.follow_append]
  rfl

theorem steps_join (p : Path) {rest : String} (h : isAbsolute ⟨rest⟩ = false) :
    ∃ before, (p.join rest).steps = before ++ steps ⟨rest⟩ ∧
      Location.follow [] before = p.target := by
  rw [join, h, if_neg Bool.false_ne_true]
  split
  · rename_i ends
    rcases Bool.or_eq_true_iff.1 ends with empty | slash
    · obtain ⟨text⟩ := p
      obtain rfl : text = "" := String.isEmpty_iff.1 empty
      rw [String.empty_append]
      exact ⟨[], rfl, rfl⟩
    · obtain ⟨front, split⟩ := List.getLast?_eq_some_iff.1 (eq_of_beq slash)
      have text : p.text = String.ofList front ++ "/" := by
        rw [← String.toList_inj, split]
        simp
      refine ⟨steps ⟨String.ofList front⟩, ?_, ?_⟩
      · rw [text, steps_append_slash]
      · rw [← follow_steps_append_empty, ← text]
        rfl
  · exact ⟨p.steps, steps_append_slash p.text rest, rfl⟩

theorem target_join (p : Path) {rest : String} (h : isAbsolute ⟨rest⟩ = false) :
    (p.join rest).target = p.target.follow (steps ⟨rest⟩) := by
  obtain ⟨before, steps, led⟩ := p.steps_join h
  rw [target, steps, Location.follow_append, led]

theorem steps_of_not_mem {name : String} (h : '/' ∉ name.toList) :
    steps ⟨name⟩ = [stepOf name] := by
  rw [steps, pieces, Text.Pieces.split_of_not_mem h]
  rfl

theorem isAbsolute_of_not_mem {name : String} (h : '/' ∉ name.toList) :
    isAbsolute ⟨name⟩ = false := by
  rw [isAbsolute, beq_eq_false_iff_ne]
  exact fun first => h (List.mem_of_mem_head? first)

theorem target_join_name (p : Path) {name : String} (h : '/' ∉ name.toList)
    (ends : (p.join name).EndsInName) : (p.join name).target = p.target ++ [name] := by
  obtain ⟨before, steps, -⟩ := p.steps_join (isAbsolute_of_not_mem h)
  obtain ⟨before', name', steps'⟩ := ends
  rw [steps_of_not_mem h, steps'] at steps
  have last : Step.child name' = stepOf name :=
    List.head_eq_of_cons_eq (List.append_inj' steps rfl).2
  have same : stepOf name = .child name := by
    unfold stepOf at last ⊢
    split at last
    · cases last
    · rename_i named
      split at last
      · cases last
      · rename_i below
        rw [if_neg named, if_neg below]
  rw [target_join p (isAbsolute_of_not_mem h), steps_of_not_mem h, same]
  rfl

end Path
end Scaffold
