import Mathlib.Algebra.BigOperators.Finprod
import Scaffold.Rules.Table

/-! Rule tables side by side. Rules are pushed to one table, a table is appended to another one, and
a table is cloned under a further name. An append may visit the kinds of the appended table in any
order. Whatever the order, the rules of the appended table come behind those that were there, kind
by kind: none is lost and none is counted twice, every other table stays as it is, and no table that
was filled in this way ever stores an empty list. -/

namespace Scaffold.Rules

namespace Table
variable {V : Vocabulary} {Body : V.Kind → Type} {t other joined : Table V Body}

/-! ## Stored lists -/

def Full (t : Table V Body) : Prop :=
  ∀ k list, t.stored? k = some list → list.items ≠ []

theorem full_empty : (empty : Table V Body).Full := by
  intro k list found
  cases found

theorem Full.push (h : t.Full) (edition : Nat) {k : V.Kind} (rule : Rule V Body k) :
    (t.push edition rule).Full := by
  intro other list found
  by_cases same : other = k
  · subst same
    rw [Table.push, stored?_extend_same] at found
    obtain rfl := Option.some.inj found
    simp
  · rw [Table.push, stored?_extend_other t edition same] at found
    exact h other list found

theorem Full.rulesFor_eq_nil_iff (h : t.Full) (k : V.Kind) :
    t.rulesFor k = [] ↔ t.stored? k = none := by
  unfold rulesFor
  cases found : t.stored? k with
  | none => simp
  | some list => simp [h k list found]

theorem stored?_appendEntries_of_perm (t other : Table V Body) (edition : Nat) (k : V.Kind)
    {entries : List ((k : V.Kind) × Stored (Rule V Body k))} (h : entries.Perm other.entries) :
    (t.appendEntries edition entries).stored? k =
      match other.stored? k with
      | some list => some ⟨edition, t.rulesFor k ++ list.items⟩
      | none => t.stored? k := by
  rw [stored?_appendEntries t edition k (Keyed.nodup_keys_of_perm h other.distinct),
    Keyed.lookup_of_perm h other.distinct]
  rfl

theorem Full.appendEntries (h : t.Full) (ho : other.Full) (edition : Nat)
    {entries : List ((k : V.Kind) × Stored (Rule V Body k))} (order : entries.Perm other.entries) :
    (t.appendEntries edition entries).Full := by
  intro k list found
  rw [stored?_appendEntries_of_perm t other edition k order] at found
  cases stored : other.stored? k with
  | none =>
    rw [stored] at found
    exact h k list found
  | some added =>
    rw [stored] at found
    obtain rfl := Option.some.inj found
    exact List.append_ne_nil_of_right_ne_nil _ (ho k added stored)

/-! ## Sizes -/

theorem rulesFor_of_mem {k : V.Kind} {list : Stored (Rule V Body k)}
    (stored : ⟨k, list⟩ ∈ t.entries) : t.rulesFor k = list.items := by
  have found : t.stored? k = some list := (Keyed.lookup_eq_some_iff t.distinct k list).2 stored
  rw [rulesFor, found]

theorem mem_keys_of_rulesFor {k : V.Kind} (has : t.rulesFor k ≠ []) :
    k ∈ Keyed.keys t.entries := by
  unfold rulesFor at has
  cases found : t.stored? k with
  | none =>
    rw [found] at has
    exact absurd rfl has
  | some list =>
    exact List.mem_map_of_mem ((Keyed.lookup_eq_some_iff t.distinct k list).1 found)

theorem finite_kinds (t : Table V Body) : {k | t.rulesFor k ≠ []}.Finite :=
  (List.finite_toSet (Keyed.keys t.entries)).subset fun _ => mem_keys_of_rulesFor

theorem support_counts (t : Table V Body) :
    Function.support (fun k => (t.rulesFor k).length) = {k | t.rulesFor k ≠ []} := by
  ext k
  simp

theorem size_eq_sum (t : Table V Body) :
    t.size = (t.entries.map fun e => e.2.items.length).sum := by
  rw [List.sum_eq_foldr, List.foldr_map]
  rfl

theorem size_eq_finsum (t : Table V Body) : t.size = ∑ᶠ k, (t.rulesFor k).length := by
  have covers : Function.support (fun k => (t.rulesFor k).length) ⊆
      ((Keyed.keys t.entries).toFinset : Set V.Kind) := by
    rw [support_counts]
    intro k has
    simpa using mem_keys_of_rulesFor has
  rw [finsum_eq_finsetSum_of_support_subset _ covers, List.sum_toFinset _ t.distinct, Keyed.keys,
    List.map_map, size_eq_sum]
  refine congrArg List.sum (List.map_congr_left fun e stored => ?_)
  exact congrArg List.length (rulesFor_of_mem stored).symm

theorem size_congr (rules : ∀ k, t.rulesFor k = other.rulesFor k) : t.size = other.size := by
  rw [size_eq_finsum, size_eq_finsum]
  exact finsum_congr fun k => congrArg List.length (rules k)

theorem size_of_rulesFor_append
    (rules : ∀ k, joined.rulesFor k = t.rulesFor k ++ other.rulesFor k) :
    joined.size = t.size + other.size := by
  have finite : ∀ t : Table V Body, Function.HasFiniteSupport fun k => (t.rulesFor k).length := by
    intro t
    rw [Function.HasFiniteSupport, support_counts]
    exact t.finite_kinds
  rw [size_eq_finsum, size_eq_finsum, size_eq_finsum,
    ← finsum_add_distrib (finite t) (finite other)]
  exact finsum_congr fun k => by rw [rules k, List.length_append]

end Table

/-! ## Tables under names -/

abbrev Shelf (V : Vocabulary) (Body : V.Kind → Type) : Type :=
  String → Table V Body

namespace Shelf
variable {V : Vocabulary} {Body : V.Kind → Type} {s s' : Shelf V Body} {target source : String}

inductive Change (V : Vocabulary) (Body : V.Kind → Type)
  | push (target : String) {k : V.Kind} (rule : Rule V Body k)
  | append (target source : String)
  | clone (source target : String)

/-- What a change may do, whatever order the kinds of an appended table are visited in. A table is
never appended to itself. -/
inductive Step : Shelf V Body → Change V Body → Shelf V Body → Prop
  | push (s : Shelf V Body) (target : String) (edition : Nat) {k : V.Kind} (rule : Rule V Body k) :
      Step s (.push target rule) (Function.update s target ((s target).push edition rule))
  | append (s : Shelf V Body) {target source : String} (apart : source ≠ target) (edition : Nat)
      {visited : List ((k : V.Kind) × Stored (Rule V Body k))}
      (order : visited.Perm (s source).entries) :
      Step s (.append target source)
        (Function.update s target ((s target).appendEntries edition visited))
  | clone (s : Shelf V Body) (source target : String) :
      Step s (.clone source target) (Function.update s target (s source))

inductive Reached : List (Change V Body) → Shelf V Body → Prop
  | start : Reached [] fun _ => .empty
  | step {history : List (Change V Body)} {s s' : Shelf V Body} {change : Change V Body} :
      Reached history s → Step s change s' → Reached (history ++ [change]) s'

theorem full_update (h : ∀ name, (s name).Full) {t : Table V Body} (full : t.Full)
    (target : String) : ∀ name, (Function.update s target t name).Full :=
  (Function.forall_update_iff s fun _ t => t.Full).2 ⟨full, fun name _ => h name⟩

theorem Step.full {change : Change V Body} (step : Step s change s')
    (h : ∀ name, (s name).Full) : ∀ name, (s' name).Full := by
  cases step with
  | push target edition rule => exact full_update h ((h target).push edition rule) target
  | @append target source _ edition _ order =>
    exact full_update h ((h target).appendEntries (h source) edition order) target
  | clone source target => exact full_update h (h source) target

theorem Reached.full {history : List (Change V Body)} (reached : Reached history s) :
    ∀ name, (s name).Full := by
  induction reached with
  | start => exact fun _ => Table.full_empty
  | step _ step ih => exact step.full ih

theorem Step.rulesFor_append (step : Step s (.append target source) s') (name : String)
    (k : V.Kind) :
    (s' name).rulesFor k =
      if name = target then (s target).rulesFor k ++ (s source).rulesFor k
      else (s name).rulesFor k := by
  cases step with
  | append apart edition order =>
    split
    · rename_i here
      rw [here, Function.update_self, Table.rulesFor_appendEntries_of_perm _ _ _ _ order]
    · rename_i elsewhere
      rw [Function.update_of_ne elsewhere]

/-- In whatever order the kinds of an appended table are visited, as they are stored or otherwise,
its rules come behind those that were there, kind by kind, and so the outcome is the same for every
order. The sizes add up, and a size counts the rules of all kinds. Every other table is left as it
is, the appended one among them. Where neither of the two tables stores an empty list, nor does the
outcome, and tables that were filled by pushing, appending and cloning never store one. -/
theorem append_in_any_order (s : Shelf V Body) {target source : String} (apart : source ≠ target)
    (edition : Nat) {visited : List ((k : V.Kind) × Stored (Rule V Body k))}
    (order : visited.Perm (s source).entries) :
    let s' := Function.update s target ((s target).appendEntries edition visited)
    Step s (.append target source) s' ∧
    Step s (.append target source)
      (Function.update s target ((s target).append edition (s source))) ∧
    (∀ other, Step s (.append target source) other → ∀ name,
      (∀ k, (other name).rulesFor k = (s' name).rulesFor k) ∧
      (other name).size = (s' name).size) ∧
    (∀ k, (s' target).rulesFor k = (s target).rulesFor k ++ (s source).rulesFor k) ∧
    (s' target).size = (s target).size + (s source).size ∧
    (∀ name, {k | (s' name).rulesFor k ≠ []}.Finite ∧
      (s' name).size = ∑ᶠ k, ((s' name).rulesFor k).length) ∧
    s' source = s source ∧
    (∀ name, name ≠ target → s' name = s name) ∧
    ((s target).Full → (s source).Full → (s' target).Full) ∧
    ∀ history, Reached history s → ∀ name, (s name).Full ∧ (s' name).Full := by
  intro s'
  have step : Step s (.append target source) s' := .append s apart edition order
  have rules : ∀ k, (s' target).rulesFor k = (s target).rulesFor k ++ (s source).rulesFor k := by
    intro k
    rw [step.rulesFor_append, if_pos rfl]
  have kept : ∀ name, name ≠ target → s' name = s name := fun name elsewhere =>
    Function.update_of_ne elsewhere _ s
  refine ⟨step, .append s apart edition (List.Perm.refl _), fun other step' name => ?_, rules,
    Table.size_of_rulesFor_append rules, fun name => ⟨Table.finite_kinds _, Table.size_eq_finsum _⟩,
    kept source apart, kept, fun full full' => ?_, fun history reached name => ?_⟩
  · have same : ∀ k, (other name).rulesFor k = (s' name).rulesFor k := by
      intro k
      rw [step'.rulesFor_append, step.rulesFor_append]
    exact ⟨same, Table.size_congr same⟩
  · have made : s' target = (s target).appendEntries edition visited := Function.update_self ..
    rw [made]
    exact full.appendEntries full' edition order
  · exact ⟨reached.full name, step.full reached.full name⟩

end Shelf

abbrev twoKinds : Vocabulary where
  Kind := Bool
  Descriptor _ := String
  title kind := if kind then "note" else "text"
  package? _ _ := none
  kindEq := inferInstance

namespace Shelf

def labelled (kind : Bool) (label : String) : Rule twoKinds (fun _ => String) kind :=
  ⟨Key.always (V := twoKinds) kind, label⟩

/-- Two tables with rules for the same kind and one for a kind that only the second has. -/
def twoTables : Shelf twoKinds fun _ => String :=
  let s := fun _ => Table.empty
  let s := Function.update s "base" ((s "base").push 0 (labelled false "text"))
  let s := Function.update s "extra" ((s "extra").push 0 (labelled true "note"))
  Function.update s "extra" ((s "extra").push 0 (labelled false "more"))

theorem reached_twoTables :
    Reached [.push "base" (labelled false "text"), .push "extra" (labelled true "note"),
      .push "extra" (labelled false "more")] twoTables :=
  .step (.step (.step .start (.push ..)) (.push ..)) (.push ..)

theorem append_in_any_order_backwards :
    let visited := (twoTables "extra").entries.reverse
    let joined := (twoTables "base").appendEntries 1 visited
    "extra" ≠ "base" ∧ visited.Perm (twoTables "extra").entries ∧
    (joined.rulesFor false).map Rule.body = ["text", "more"] ∧
    (joined.rulesFor true).map Rule.body = ["note"] ∧ joined.size = 3 ∧ joined.Full := by
  intro visited joined
  have apart : "extra" ≠ "base" := by decide
  have order : visited.Perm (twoTables "extra").entries := List.reverse_perm _
  obtain ⟨-, -, -, rules, sizes, -, -, -, -, full⟩ := append_in_any_order twoTables apart 1 order
  rw [Function.update_self] at rules sizes
  refine ⟨apart, order, ?_, ?_, sizes.trans rfl, ?_⟩
  · rw [rules]
    rfl
  · rw [rules]
    rfl
  · have base := (full _ reached_twoTables "base").2
    rwa [Function.update_self] at base

end Shelf
end Scaffold.Rules
