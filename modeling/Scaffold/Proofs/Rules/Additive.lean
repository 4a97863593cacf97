import Scaffold.Proofs.Rules.Values

/-! Additive steps. Most bodies of fragment rules add to the fragment before them what they would
make of an empty one with the same slots, and bind nothing. A sequence of such rules adds the pieces
of its rules one behind the other, so a part of the generated code can be described rule by rule. -/

namespace Scaffold

namespace Code.Fragment
variable (f : Fragment)

theorem extend_nil : f.extend [] = f := by
  simp [extend]

theorem extend_extend (items more : List String) :
    (f.extend items).extend more = f.extend (items ++ more) := by
  simp [extend]

/-- The step adds to any fragment what it makes of an empty one with the same slots. -/
def Additive (step : Fragment → Except Failure Fragment) : Prop :=
  ∀ acc, step acc = (step (inheriting acc)).map acc.append

section Steps
variable {α β : Type}

theorem additive_ok : Additive .ok := by
  intro acc
  change _ = Except.ok (acc.extend [])
  rw [extend_nil]

theorem additive_extend (items : List String) : Additive fun acc => .ok (acc.extend items) :=
  fun _ => rfl

theorem additive_push (item : String) : Additive fun acc => .ok (acc.push item) :=
  fun _ => rfl

theorem additive_map_extend (items : Except Failure (List String)) :
    Additive fun acc => items.map acc.extend := by
  cases items with
  | error e => exact fun _ => rfl
  | ok items => exact additive_extend items

theorem additive_bind_left (x : Except Failure α) {step : α → Fragment → Except Failure Fragment}
    (h : ∀ a, Additive (step a)) : Additive fun acc => x >>= fun a => step a acc := by
  cases x with
  | error e => exact fun _ => rfl
  | ok a => exact h a

theorem additive_binding (slot : String) {step : String → Fragment → Except Failure Fragment}
    (h : ∀ value, Additive (step value)) :
    Additive fun acc => acc.binding slot >>= fun value => step value acc :=
  fun acc => additive_bind_left (acc.binding slot) h acc

theorem foldlM_extend (f : β → Except Failure α) (items : α → List String) (acc : Fragment)
    (list : List β) :
    list.foldlM (fun acc b => f b >>= fun a => .ok (acc.extend (items a))) acc =
      (list.mapM f).map fun made => acc.extend (made.flatMap items) := by
  induction list generalizing acc with
  | nil => exact congrArg Except.ok acc.extend_nil.symm
  | cons b rest ih =>
    rw [List.foldlM_cons, List.mapM_cons]
    cases f b with
    | error e => rfl
    | ok a =>
      refine (ih (acc.extend (items a))).trans ?_
      cases rest.mapM f with
      | error e => rfl
      | ok made => exact congrArg Except.ok (acc.extend_extend (items a) (made.flatMap items))

theorem foldlM_push (f : β → Except Failure String) (acc : Fragment) (list : List β) :
    list.foldlM (fun acc b => f b >>= fun item => .ok (acc.push item)) acc =
      (list.mapM f).map acc.extend := by
  refine (foldlM_extend f (fun item => [item]) acc list).trans ?_
  simp only [List.flatMap_singleton']

end Steps
end Code.Fragment

def Code.SourceFile.addAll (f : SourceFile) (items : List String) : SourceFile :=
  { f with items := f.items ++ items }

namespace Code.SourceFile
variable (f : SourceFile)

theorem addAll_nil : f.addAll [] = f := by
  simp [addAll]

theorem addAll_addAll (items more : List String) :
    (f.addAll items).addAll more = f.addAll (items ++ more) := by
  simp [addAll]

end Code.SourceFile

namespace Rules
open Code

/-! ## Source files -/

namespace FileScript
variable {V : Vocabulary} {k : V.Kind} {α γ : Type} {answers : Answers V}

/-- The script adds items to whatever file it is given, if the items can be made. -/
def Appends (answers : Answers V) (s : FileScript V Unit) (made : Except Failure (List String)) :
    Prop :=
  ∀ file file', s.Makes answers file () file' ↔ ∃ items, made = .ok items ∧
    file' = file.addAll items

theorem appends_pure : Appends answers (pure () : FileScript V Unit) (.ok []) := by
  intro file file'
  rw [makes_pure]
  constructor
  · rintro ⟨-, rfl⟩
    exact ⟨[], rfl, file'.addAll_nil.symm⟩
  · rintro ⟨items, none, rfl⟩
    obtain rfl := Except.ok.inj none
    exact ⟨rfl, file.addAll_nil⟩

theorem appends_add (item : String) :
    Appends answers (FileScript.add item : FileScript V Unit) (.ok [item]) := by
  intro file file'
  rw [FileScript.add, makes_change]
  constructor
  · exact fun made => ⟨[item], rfl, made⟩
  · rintro ⟨items, single, made⟩
    obtain rfl := Except.ok.inj single
    exact made

theorem appends_lift_bind {x : Except Failure α} {f : α → FileScript V Unit}
    {made : α → Except Failure (List String)} (h : ∀ a, Appends answers (f a) (made a)) :
    Appends answers (monadLift x >>= f) (x >>= made) := by
  intro file file'
  rw [makes_lift_bind]
  cases x with
  | error e => exact iff_of_false nofun nofun
  | ok a =>
    refine Iff.trans ?_ (h a file file')
    exact ⟨fun ⟨_, same, next⟩ => Except.ok.inj same ▸ next, fun next => ⟨a, rfl, next⟩⟩

theorem Appends.bind {s next : FileScript V Unit} {made further : Except Failure (List String)}
    (first : Appends answers s made) (second : Appends answers next further) :
    Appends answers (s >>= fun _ => next) (made >>= fun items => further.map (items ++ ·)) := by
  intro file file'
  rw [makes_bind]
  cases made with
  | error e =>
    refine iff_of_false ?_ nofun
    rintro ⟨_, between, failed, -⟩
    obtain ⟨items, none, -⟩ := (first file between).1 failed
    cases none
  | ok items =>
    have same : ∀ more, (file.addAll items).addAll more = file.addAll (items ++ more) :=
      file.addAll_addAll items
    cases further with
    | error e =>
      refine iff_of_false ?_ nofun
      rintro ⟨_, between, -, failed⟩
      obtain ⟨items, none, -⟩ := (second between file').1 failed
      cases none
    | ok more =>
      constructor
      · rintro ⟨_, between, one, two⟩
        obtain ⟨_, made, rfl⟩ := (first file between).1 one
        obtain ⟨_, added, rfl⟩ := (second _ file').1 two
        obtain rfl := Except.ok.inj made
        obtain rfl := Except.ok.inj added
        exact ⟨items ++ more, rfl, same more⟩
      · rintro ⟨_, all, rfl⟩
        obtain rfl := Except.ok.inj all
        refine ⟨(), file.addAll items, (first _ _).2 ⟨items, rfl, rfl⟩, ?_⟩
        exact (second _ _).2 ⟨more, rfl, (same more).symm⟩

theorem appends_buildFragment_bind (acc : Fragment) (d : V.Descriptor k)
    {f : Fragment → FileScript V Unit} {made : Fragment → Except Failure (List String)}
    (h : ∀ built, Appends answers (f built) (made built)) :
    Appends answers (FileScript.buildFragment acc d >>= f)
      (answers (.buildFragment acc d) >>= made) := by
  intro file file'
  rw [makes_buildFragment_bind]
  cases answers (.buildFragment acc d) with
  | error e => exact iff_of_false nofun nofun
  | ok built =>
    refine Iff.trans ?_ (h built file file')
    exact ⟨fun ⟨_, same, next⟩ => Except.ok.inj same ▸ next, fun next => ⟨built, rfl, next⟩⟩

theorem appends_forM {f : γ → FileScript V Unit} {made : γ → Except Failure (List String)}
    {list : List γ} (h : ∀ c ∈ list, Appends answers (f c) (made c)) :
    Appends answers (list.forM f) ((list.mapM made).map List.flatten) := by
  induction list with
  | nil => exact appends_pure
  | cons c rest ih =>
    have items : ((c :: rest).mapM made).map List.flatten =
        made c >>= fun items => ((rest.mapM made).map List.flatten).map (items ++ ·) := by
      rw [List.mapM_cons]
      cases made c with
      | error e => rfl
      | ok head => cases rest.mapM made <;> rfl
    rw [items]
    exact (h c List.mem_cons_self).bind (ih fun c hc => h c (List.mem_cons_of_mem _ hc))

/-- Whatever file it is given, the script succeeds or fails as the making of the items does. -/
def Ends (answers : Answers V) (s : FileScript V Unit) (made : Except Failure (List String)) :
    Prop :=
  ∀ file, (s.value answers file).1 = made.map fun _ => ()

theorem ends_forM {f : γ → FileScript V Unit} {made : γ → Except Failure (List String)}
    (h : ∀ c, Ends answers (f c) (made c)) (list : List γ) :
    Ends answers (list.forM f) ((list.mapM made).map List.flatten) := by
  induction list with
  | nil => exact fun _ => rfl
  | cons c rest ih =>
    intro file
    have head := h c file
    change ((f c >>= fun _ => rest.forM f : FileScript V Unit).value answers file).1 = _
    rw [value_bind, List.mapM_cons]
    generalize (f c).value answers file = outcome at head
    obtain ⟨failed | _, between⟩ := outcome
    · cases hc : made c with
      | error e =>
        rw [hc] at head
        exact head
      | ok items =>
        rw [hc] at head
        cases head
    · cases hc : made c with
      | error e =>
        rw [hc] at head
        cases head
      | ok items =>
        refine (ih between).trans ?_
        change _ = Except.map _ (Except.map _
          (rest.mapM made >>= fun pieces => Except.ok (items :: pieces)))
        cases rest.mapM made with
        | error e => rfl
        | ok pieces => rfl

theorem appends_forM_add (f : γ → Except Failure String) (list : List γ) :
    Appends answers
      (list.forM fun c => do
        let item ← monadLift (f c)
        FileScript.add item : FileScript V Unit) (list.mapM f) := by
  induction list with
  | nil => exact appends_pure
  | cons c rest ih =>
    have head : Appends answers (monadLift (f c) >>= FileScript.add : FileScript V Unit)
        (f c >>= fun item => .ok [item]) := appends_lift_bind appends_add
    have items : (f c >>= fun item => rest.mapM f >>= fun items => .ok (item :: items)) =
        (f c >>= fun item => .ok [item]) >>= fun items => (rest.mapM f).map (items ++ ·) := by
      cases f c with
      | error e => rfl
      | ok item => cases rest.mapM f <;> rfl
    rw [List.mapM_cons]
    exact items ▸ head.bind ih

end FileScript

/-! ## Rules in sequence -/

section Sequences
variable {V : Vocabulary} {k : V.Kind} {answers : Answers V} {inflector : Inflector}
  {d : V.Descriptor k}

theorem makes_fileScript_cons_of_appends {rule : Rule V (FileBody V) k}
    {rest : List (Rule V (FileBody V) k)} (made : Except Failure (List String))
    (body : rule.applies d → (rule.body inflector d).Appends answers made)
    (passed : ¬ rule.applies d → made = .ok []) {file file' : SourceFile} {a : Unit} :
    (fileScript inflector d (rule :: rest)).Makes answers file a file' ↔
      ∃ items, made = .ok items ∧
        (fileScript inflector d rest).Makes answers (file.addAll items) a file' := by
  rw [makes_fileScript_cons]
  by_cases applies : rule.applies d
  · simp only [applies, if_true, body applies _ _]
    constructor
    · rintro ⟨_, ⟨items, added, rfl⟩, next⟩
      exact ⟨items, added, next⟩
    · rintro ⟨items, added, next⟩
      exact ⟨_, ⟨items, added, rfl⟩, next⟩
  · rw [passed applies]
    simp only [applies, Bool.false_eq_true, if_false, exists_eq_left, Except.ok.injEq,
      exists_eq_left', file.addAll_nil]

/-- What a rule adds to fragments with the slots of a given one: nothing if it does not apply. -/
def Rule.lines (answers : Answers V) (inflector : Inflector) (slots : Fragment)
    (d : V.Descriptor k) (rule : Rule V (FragmentBody V) k) : Except Failure (List String) :=
  if rule.applies d then
    ((rule.body inflector (.inheriting slots) d).value answers).map Fragment.items
  else .ok []

theorem value_fragmentScript {rules : List (Rule V (FragmentBody V) k)}
    (additive : ∀ rule ∈ rules,
      Fragment.Additive fun acc => (rule.body inflector acc d).value answers)
    (acc : Fragment) :
    (fragmentScript inflector d rules acc).value answers =
      (rules.mapM (Rule.lines answers inflector acc d)).map
        fun pieces => acc.extend pieces.flatten := by
  induction rules generalizing acc with
  | nil => exact congrArg Except.ok acc.extend_nil.symm
  | cons rule rest ih =>
    have tail := ih fun rule hr => additive rule (List.mem_cons_of_mem _ hr)
    have head : (if rule.applies d then (rule.body inflector acc d).value answers else .ok acc) =
        (Rule.lines answers inflector acc d rule).map acc.extend := by
      unfold Rule.lines
      split
      · have added := additive rule List.mem_cons_self acc
        change (rule.body inflector acc d).value answers =
          ((rule.body inflector (.inheriting acc) d).value answers).map acc.append at added
        rw [added]
        cases (rule.body inflector (.inheriting acc) d).value answers with
        | error e => rfl
        | ok piece => rfl
      · exact congrArg Except.ok acc.extend_nil.symm
    rw [value_fragmentScript_cons, head, List.mapM_cons]
    cases Rule.lines answers inflector acc d rule with
    | error e => rfl
    | ok items =>
      change (fragmentScript inflector d rest (acc.extend items)).value answers =
        Except.map (fun pieces : List (List String) => acc.extend pieces.flatten)
          (rest.mapM (Rule.lines answers inflector acc d) >>=
            fun pieces => Except.ok (items :: pieces))
      rw [tail]
      change Except.map _ (rest.mapM (Rule.lines answers inflector acc d)) = _
      cases rest.mapM (Rule.lines answers inflector acc d) with
      | error e => rfl
      | ok pieces => exact congrArg Except.ok (acc.extend_extend items pieces.flatten)

theorem exists_of_lines {acc : Fragment} {rule : Rule V (FragmentBody V) k} {lines : List String}
    (added : Rule.lines answers inflector acc d rule = .ok lines) (applies : rule.applies d) :
    ∃ built, (rule.body inflector (.inheriting acc) d).value answers = .ok built ∧
      lines = built.items :=
  map_eq_ok.1 ((if_pos applies).symm.trans added)

theorem eq_nil_of_lines {acc : Fragment} {rule : Rule V (FragmentBody V) k} {lines : List String}
    (added : Rule.lines answers inflector acc d rule = .ok lines) (passed : ¬rule.applies d) :
    lines = [] :=
  (Except.ok.inj ((if_neg passed).symm.trans added)).symm

theorem exists_lines_iff {acc : Fragment} {rule : Rule V (FragmentBody V) k} :
    (∃ lines, Rule.lines answers inflector acc d rule = .ok lines) ↔
      (rule.applies d → ∃ made,
        (rule.body inflector (.inheriting acc) d).value answers = .ok made) := by
  unfold Rule.lines
  split
  · rename_i applies
    cases (rule.body inflector (.inheriting acc) d).value answers with
    | error e => exact iff_of_false nofun fun h => nomatch h applies
    | ok made => exact iff_of_true ⟨_, rfl⟩ fun _ => ⟨made, rfl⟩
  · rename_i passed
    exact iff_of_true ⟨[], rfl⟩ fun applies => absurd applies passed

theorem exists_value_fragmentScript_iff {rules : List (Rule V (FragmentBody V) k)}
    (additive : ∀ rule ∈ rules,
      Fragment.Additive fun acc => (rule.body inflector acc d).value answers) (acc : Fragment) :
    (∃ made, (fragmentScript inflector d rules acc).value answers = .ok made) ↔
      ∀ rule ∈ rules, rule.applies d → ∃ made,
        (rule.body inflector (.inheriting acc) d).value answers = .ok made := by
  have each : (∃ pieces, rules.mapM (Rule.lines answers inflector acc d) = .ok pieces) ↔
      ∀ rule ∈ rules, rule.applies d → ∃ made,
        (rule.body inflector (.inheriting acc) d).value answers = .ok made := by
    simp only [exists_mapM_iff, exists_lines_iff]
  rw [← each, value_fragmentScript additive]
  cases rules.mapM (Rule.lines answers inflector acc d) with
  | error e => exact iff_of_false nofun nofun
  | ok pieces => exact iff_of_true ⟨_, rfl⟩ ⟨pieces, rfl⟩

end Sequences
end Rules
end Scaffold
