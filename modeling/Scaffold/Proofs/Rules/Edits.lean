import Scaffold.Proofs.Rules.Ensures

/-! Folds told as edits. A rule for a part goes on from the fragment that it is given: it adds items,
takes over those of other fragments and binds slots. An account of a fold lists what the rules did,
in the order in which they ran, and a slot holds what the last edit of the account that binds it has
bound. -/

namespace Scaffold
namespace Code

inductive Edit
  | push (item : String)
  | extend (items : List String)
  | append (other : Fragment)
  | bind (slot value : String)

def Edit.bound? (slot : String) : Edit → Option String
  | .bind other value => if other = slot then some value else none
  | _ => none

def lastBound (slot : String) (edits : List Edit) : Option String :=
  (edits.filterMap (Edit.bound? slot)).getLast?

theorem lastBound_append (slot : String) (edits later : List Edit) :
    lastBound slot (edits ++ later) = (lastBound slot later).or (lastBound slot edits) := by
  rw [lastBound, List.filterMap_append, List.getLast?_append]
  rfl

namespace Fragment
variable {f : Fragment} {slot : String}

def edit (f : Fragment) : Edit → Fragment
  | .push item => f.push item
  | .extend items => f.extend items
  | .append other => f.append other
  | .bind slot value => f.bind slot value

def edited (f : Fragment) (edits : List Edit) : Fragment :=
  edits.foldl edit f

theorem edited_append (f : Fragment) (edits later : List Edit) :
    f.edited (edits ++ later) = (f.edited edits).edited later :=
  List.foldl_append

theorem binding_edit (f : Fragment) (slot : String) (e : Edit) :
    (f.edit e).binding slot = match e.bound? slot with
      | some value => .ok value
      | none => f.binding slot := by
  cases e with
  | push item => rfl
  | extend items => rfl
  | append other => rfl
  | bind other value =>
    rw [edit, binding_bind, Edit.bound?]
    by_cases same : other = slot
    · rw [if_pos same.symm, if_pos same]
    · rw [if_neg (Ne.symm same), if_neg same]

theorem binding_edited (f : Fragment) (slot : String) (edits : List Edit) :
    (f.edited edits).binding slot = match lastBound slot edits with
      | some value => .ok value
      | none => f.binding slot := by
  induction edits generalizing f with
  | nil => rfl
  | cons e rest ih =>
    have first : lastBound slot [e] = e.bound? slot := by
      cases bound : e.bound? slot <;> simp [lastBound, bound]
    change ((f.edit e).edited rest).binding slot = _
    rw [ih, ← List.singleton_append, lastBound_append, first, binding_edit]
    cases lastBound slot rest <;> rfl

def Binds (f : Fragment) (slot : String) : Prop :=
  ∃ value, f.binding slot = .ok value

theorem Binds.edited (h : f.Binds slot) (edits : List Edit) : (f.edited edits).Binds slot := by
  unfold Binds
  rw [binding_edited]
  cases lastBound slot edits with
  | none => exact h
  | some value => exact ⟨value, rfl⟩

theorem binding_inherited {edits : List Edit} (bound : (empty.edited edits).Binds slot)
    (later : List Edit) :
    ∃ value, lastBound slot (edits ++ later) = some value ∧
      ((inheriting (empty.edited edits)).edited later).binding slot = .ok value := by
  obtain ⟨held, found⟩ := bound
  rw [binding_edited] at found
  rw [lastBound_append, binding_edited, binding_inheriting, binding_edited]
  cases lastBound slot later with
  | some value => exact ⟨value, rfl, rfl⟩
  | none =>
    cases first : lastBound slot edits with
    | some value => exact ⟨value, rfl, rfl⟩
    | none =>
      rw [first] at found
      cases found

end Fragment
end Code

namespace Rules
open Code

section Accounts
variable {V : Vocabulary} {k : V.Kind} {handle : Handler V} {inflector : Inflector}
  {d : V.Descriptor k} {E : Failure → Prop} {slot : String}

/-- An account of a fold that succeeds: from a fragment and a world, through the edits of each rule
that applies, to the fragment that is made and the world that is left. -/
inductive Account (handle : Handler V) (inflector : Inflector) (d : V.Descriptor k) :
    List (Rule V (FragmentBody V) k) → Fragment → World → List Edit → Fragment → World → Prop
  | finished (acc : Fragment) (w : World) : Account handle inflector d [] acc w [] acc w
  | passedOver {rule rest acc w edits made v} (skipped : rule.applies d = false)
      (later : Account handle inflector d rest acc w edits made v) :
      Account handle inflector d (rule :: rest) acc w edits made v
  | applied {rule rest acc w own u edits made v} (applies : rule.applies d = true)
      (ran : (rule.body inflector acc d).run.run handle w = (.ok (acc.edited own), u))
      (later : Account handle inflector d rest (acc.edited own) u edits made v) :
      Account handle inflector d (rule :: rest) acc w (own ++ edits) made v

theorem Account.made_eq {rules : List (Rule V (FragmentBody V) k)} {acc made : Fragment}
    {w v : World} {edits : List Edit} (account : Account handle inflector d rules acc w edits made v) :
    made = acc.edited edits := by
  induction account with
  | finished acc w => rfl
  | passedOver _ _ ih => exact ih
  | applied _ _ _ ih => rw [ih, Fragment.edited_append]

/-- The rule goes on from any fragment that binds a slot by edits, unless it fails within a set. -/
def Rule.OnlyEdits (handle : Handler V) (inflector : Inflector) (E : Failure → Prop) (slot : String)
    (rule : Rule V (FragmentBody V) k) (d : V.Descriptor k) : Prop :=
  rule.applies d = true → ∀ acc, acc.Binds slot →
    (rule.body inflector acc d).Ensures handle E fun made => ∃ edits, made = acc.edited edits

variable {rules : List (Rule V (FragmentBody V) k)} {acc made : Fragment} {w v : World}

theorem Rule.OnlyEdits.binds {rule : Rule V (FragmentBody V) k}
    (edits : rule.OnlyEdits handle inflector E slot d) (applies : rule.applies d = true)
    (acc : Fragment) (bound : acc.Binds slot) :
    (rule.body inflector acc d).Ensures handle E (·.Binds slot) := by
  refine (edits applies acc bound).mono ?_
  rintro made ⟨edits, rfl⟩
  exact bound.edited edits

theorem exists_account (each : ∀ rule ∈ rules, rule.OnlyEdits handle inflector E slot d)
    (bound : acc.Binds slot) (h : foldFragment handle inflector d rules acc w = (.ok made, v)) :
    ∃ edits, Account handle inflector d rules acc w edits made v := by
  induction rules generalizing acc w with
  | nil =>
    cases h
    exact ⟨[], .finished _ _⟩
  | cons rule rest ih =>
    have rest_edits := fun rule hr => each rule (List.mem_cons_of_mem _ hr)
    unfold foldFragment at h
    split at h
    next applies =>
      have first := each rule List.mem_cons_self applies acc bound w
      split at h
      next made' u ran =>
        rw [ran] at first
        obtain ⟨own, rfl⟩ := first
        obtain ⟨edits, account⟩ := ih rest_edits (bound.edited own) h
        exact ⟨own ++ edits, .applied applies ran account⟩
      · cases h
    next skipped =>
      obtain ⟨edits, account⟩ := ih rest_edits bound h
      exact ⟨edits, .passedOver (eq_false_of_ne_true skipped) account⟩

theorem exists_account_cons {body : FragmentBody V k}
    (first : (body inflector acc d).Ensures handle E fun made =>
      made.Binds slot ∧ ∃ edits, made = acc.edited edits)
    (later : ∀ rule ∈ rules, rule.OnlyEdits handle inflector E slot d)
    (h : foldFragment handle inflector d (⟨.always k, body⟩ :: rules) acc w = (.ok made, v)) :
    ∃ edits, Account handle inflector d (⟨.always k, body⟩ :: rules) acc w edits made v := by
  have established := first w
  simp only [foldFragment, Rule.applies, Key.admits_always, if_true] at h
  split at h
  next made' u ran =>
    rw [ran] at established
    obtain ⟨bound, own, rfl⟩ := established
    obtain ⟨edits, account⟩ := exists_account later bound h
    exact ⟨own ++ edits, .applied rfl ran account⟩
  · cases h

end Accounts
end Rules
end Scaffold
