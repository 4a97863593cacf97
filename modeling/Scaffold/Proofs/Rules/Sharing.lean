import Scaffold.Proofs.Rules.Order
import Scaffold.Proofs.Rules.Tables

/-! Shared rule lists. Every merge of one set into one registry is an append with a number of its
own. The origins of a session list, for each registry, the appends that its rules went through, the
registries being copied or not; no table is looked at. Two registries share their fragment rules for
a kind exactly when the last append that had such rules is the same one for both. So copies share
everything, a merge ends the sharing for the kinds that the set has rules for and for no other, and
what is done to one registry leaves all others as they are. -/

namespace Scaffold.Rules

/-! ## Appends -/

/-- One merge of a set into a registry: its number among all merges, and what the set held then. -/
structure Append (V : Vocabulary) where
  number : Nat
  log : List (Registration V)

namespace Append
variable {V : Vocabulary}

def last (k : V.Kind) (appends : List (Append V)) : Option (Append V) :=
  (appends.filter fun a => registered .fragment k a.log ≠ []).getLast?

theorem mem_of_last {k : V.Kind} {appends : List (Append V)} {a : Append V}
    (h : last k appends = some a) : a ∈ appends :=
  (List.mem_filter.1 (List.mem_of_getLast? h)).1

theorem last_concat_same {k : V.Kind} {a : Append V} (has : registered .fragment k a.log ≠ [])
    (appends : List (Append V)) : last k (appends ++ [a]) = some a := by
  simp [last, List.filter_append, has]

theorem last_concat_other {k : V.Kind} {a : Append V} (lacks : registered .fragment k a.log = [])
    (appends : List (Append V)) : last k (appends ++ [a]) = last k appends := by
  simp [last, List.filter_append, lacks]

end Append

structure Origins (V : Vocabulary) where
  ledger : Ledger V := .empty
  merges : Nat := 0
  appends : String → List (Append V) := fun _ => []

namespace Origins
variable {V : Vocabulary}

def append (o : Origins V) (registry set : String) : Origins V :=
  { o with
    merges := o.merges + 1
    appends := Function.update o.appends registry
      (o.appends registry ++ [⟨o.merges, o.ledger.sets set⟩]) }

def copy (o : Origins V) (source target : String) : Origins V :=
  { o with appends := Function.update o.appends target (o.appends source) }

def follow (o : Origins V) : Command V → Origins V
  | .register _ _ => o
  | .merge registry sets => sets.foldl (fun o set => o.append registry set) o
  | .withRules source target set => (o.copy source target).append target set
  | .clone source target => o.copy source target
  | .record source target _ => o.copy source target
  | .setInflector _ _ => o

def perform (o : Origins V) (command : Command V) : Origins V :=
  { o.follow command with ledger := o.ledger.perform command }

def after (history : List (Command V)) : Origins V :=
  history.foldl perform {}

theorem after_append (history : List (Command V)) (command : Command V) :
    after (history ++ [command]) = (after history).perform command :=
  List.foldl_append

theorem ledger_after (history : List (Command V)) :
    (after history).ledger = Ledger.after history := by
  induction history using List.reverseRecOn with
  | nil => rfl
  | append_singleton history command ih =>
    rw [after_append, Ledger.after_append, ← ih]
    rfl

theorem copy_self (o : Origins V) (name : String) : o.copy name name = o := by
  rw [copy, Function.update_eq_self]

end Origins

/-! ## Sessions -/

namespace Session
variable {V : Vocabulary} {s s' : Session V} {o : Origins V} {a b registry set : String}
  {k : V.Kind}

def list? (s : Session V) (name : String) (k : V.Kind) :
    Option (Stored (Rule V (FragmentBody V) k)) :=
  (s.registry name).tables.fragment.stored? k

theorem shares_iff : s.shares a b k = true ↔
    ∃ x y, s.list? a k = some x ∧ s.list? b k = some y ∧ x.edition = y.edition := by
  unfold shares Registry.sharesFragmentRules Table.sharesList list?
  cases (s.registry a).tables.fragment.stored? k with
  | none => simp
  | some x =>
    cases (s.registry b).tables.fragment.stored? k with
    | none => simp
    | some y => simp

theorem list?_putRegistry (s : Session V) (name other : String) (r : Registry V) (k : V.Kind) :
    (s.putRegistry name r).list? other k =
      if other = name then r.tables.fragment.stored? k else s.list? other k := by
  unfold list?
  rw [registry_putRegistry]
  split
  · rfl
  · rfl

theorem list?_copy {source target : String} {r : Registry V}
    (tables : r.tables = (s.registry source).tables) (name : String) (k : V.Kind) :
    (s.putRegistry target r).list? name k = s.list? (if name = target then source else name) k := by
  rw [list?_putRegistry]
  split
  · rw [tables, list?]
  · rfl

theorem list?_mergesSet (merged : s.MergesSet registry set s') (name : String) (k : V.Kind) :
    s'.list? name k =
      if name = registry then
        match (s.set set).tables.fragment.stored? k with
        | some list =>
          some ⟨s.editions, (s.registry registry).tables.fragment.rulesFor k ++ list.items⟩
        | none => s.list? registry k
      else s.list? name k := by
  obtain ⟨tables, joined, rfl⟩ := merged
  obtain ⟨entries, perm, eq⟩ := joined .fragment
  refine (s.list?_putRegistry registry name _ k).trans ?_
  split
  · have extended : tables.fragment =
        (s.registry registry).tables.fragment.appendEntries s.editions entries := eq
    change tables.fragment.stored? k = _
    rw [extended, Table.stored?_appendEntries_of_perm _ (s.set set).tables.fragment _ k perm]
    cases (s.set set).tables.fragment.stored? k with
    | none => rfl
    | some list => rfl
  · rfl

theorem list?_of_mergesSet (merged : s.MergesSet registry set s') {name : String}
    {x : Stored (Rule V (FragmentBody V) k)} (found : s'.list? name k = some x) :
    s.list? name k = some x ∨ name = registry ∧ x.edition = s.editions ∧
      ∃ before list, (s.set set).tables.fragment.stored? k = some list ∧
        x.items = before ++ list.items := by
  rw [list?_mergesSet merged] at found
  split at found
  · rename_i here
    cases stored : (s.set set).tables.fragment.stored? k with
    | none =>
      rw [stored] at found
      exact .inl (here ▸ found)
    | some list =>
      rw [stored] at found
      obtain rfl := Option.some.inj found
      exact .inr ⟨here, rfl, _, list, rfl, rfl⟩
  · exact .inl found

/-- The stored lists of a session come from the appends of its origins. -/
structure Tracks (s : Session V) (o : Origins V) : Prop where
  editions : s.editions = o.merges
  sets : ∀ name, (s.set name).tables.fragment.Full
  registries : ∀ name, (s.registry name).tables.fragment.Full
  origin : ∀ name k, (s.list? name k).map Stored.edition =
    (Append.last k (o.appends name)).map Append.number
  numbered : ∀ name, ∀ x ∈ o.appends name, x.number < o.merges
  distinct : ∀ a b, ∀ x ∈ o.appends a, ∀ y ∈ o.appends b, x.number = y.number → x = y
  alike : ∀ a b k x y, s.list? a k = some x → s.list? b k = some y → x.edition = y.edition → x = y

theorem tracks_empty : (empty : Session V).Tracks {} where
  editions := rfl
  sets _ := Table.full_empty
  registries _ := Table.full_empty
  origin _ _ := rfl
  numbered _ _ h := absurd h List.not_mem_nil
  distinct _ _ _ h := absurd h List.not_mem_nil
  alike _ _ _ _ _ found := nomatch found

namespace Tracks

theorem withLedger (h : s.Tracks o) (ledger : Ledger V) : s.Tracks { o with ledger := ledger } :=
  ⟨h.editions, h.sets, h.registries, h.origin, h.numbered, h.distinct, h.alike⟩

theorem exists_last (h : s.Tracks o) {name : String} {x : Stored (Rule V (FragmentBody V) k)}
    (found : s.list? name k = some x) :
    ∃ append, Append.last k (o.appends name) = some append ∧ append.number = x.edition := by
  have origin := h.origin name k
  rw [found] at origin
  exact Option.map_eq_some_iff.1 origin.symm

theorem exists_list (h : s.Tracks o) {name : String} {append : Append V}
    (last : Append.last k (o.appends name) = some append) :
    ∃ x, s.list? name k = some x ∧ x.edition = append.number := by
  have origin := h.origin name k
  rw [last] at origin
  exact Option.map_eq_some_iff.1 origin

theorem earlier (h : s.Tracks o) {name : String} {x : Stored (Rule V (FragmentBody V) k)}
    (found : s.list? name k = some x) : x.edition < s.editions := by
  obtain ⟨append, last, number⟩ := h.exists_last found
  rw [← number, h.editions]
  exact h.numbered name append (Append.mem_of_last last)

theorem shares_iff_last (h : s.Tracks o) (a b : String) (k : V.Kind) :
    s.shares a b k = true ↔ ∃ append, Append.last k (o.appends a) = some append ∧
      Append.last k (o.appends b) = some append := by
  rw [shares_iff]
  constructor
  · rintro ⟨x, y, found, found', same⟩
    obtain ⟨append, last, number⟩ := h.exists_last found
    obtain ⟨append', last', number'⟩ := h.exists_last found'
    have one : append = append' := h.distinct a b append (Append.mem_of_last last) append'
      (Append.mem_of_last last') (number.trans (same.trans number'.symm))
    rw [← one] at last'
    exact ⟨append, last, last'⟩
  · rintro ⟨append, last, last'⟩
    obtain ⟨x, found, number⟩ := h.exists_list last
    obtain ⟨y, found', number'⟩ := h.exists_list last'
    exact ⟨x, y, found, found', number.trans number'.symm⟩

theorem rulesFor_eq_of_shares (h : s.Tracks o) (shared : s.shares a b k = true) :
    (s.registry a).tables.fragment.rulesFor k = (s.registry b).tables.fragment.rulesFor k := by
  obtain ⟨x, y, found, found', same⟩ := shares_iff.1 shared
  have one : x = y := h.alike a b k x y found found' same
  unfold list? at found found'
  rw [Table.rulesFor, Table.rulesFor, found, found', one]

/-! ## Steps -/

theorem register (h : s.Tracks o) (set : String) (r : Registration V) :
    (s.putSet set ((s.set set).register r)).Tracks o := by
  refine ⟨h.editions, fun name => ?_, h.registries, h.origin, h.numbered, h.distinct, h.alike⟩
  rw [set_putSet]
  split
  · have full := h.sets set
    obtain ⟨tier, kind, rule⟩ := r
    cases tier with
    | directory => exact full
    | file => exact full
    | fragment => exact full.push 0 _
  · exact h.sets name

theorem copy (h : s.Tracks o) {source target : String} {r : Registry V}
    (tables : r.tables = (s.registry source).tables) :
    (s.putRegistry target r).Tracks (o.copy source target) := by
  have appends : ∀ name, (o.copy source target).appends name =
      o.appends (if name = target then source else name) := by
    intro name
    simp only [Origins.copy, Function.update_apply]
    split
    · rfl
    · rfl
  refine ⟨h.editions, h.sets, fun name => ?_, fun name k => ?_, fun name => ?_, fun a b => ?_,
    fun a b k => ?_⟩
  · rw [registry_putRegistry]
    split
    · rw [tables]
      exact h.registries source
    · exact h.registries name
  · rw [list?_copy tables, appends]
    exact h.origin _ k
  · rw [appends]
    exact h.numbered _
  · rw [appends, appends]
    exact h.distinct _ _
  · rw [list?_copy tables, list?_copy tables]
    exact h.alike _ _ k

theorem fragment_eq_nil_iff (h : s.Tracks o) {log : List (Registration V)}
    (holds : (s.set set).tables.Holds log) (k : V.Kind) :
    registered .fragment k log = [] ↔ (s.set set).tables.fragment.stored? k = none := by
  rw [← holds .fragment k]
  exact (h.sets set).rulesFor_eq_nil_iff k

theorem mergesSet (h : s.Tracks o) (holds : (s.set set).tables.Holds (o.ledger.sets set))
    (merged : s.MergesSet registry set s') : s'.Tracks (o.append registry set) := by
  have appended : ∀ {name x}, x ∈ (o.append registry set).appends name →
      x ∈ o.appends name ∨ x = ⟨o.merges, o.ledger.sets set⟩ := by
    intro name x member
    simp only [Origins.append, Function.update_apply] at member
    split at member
    · rename_i here
      rw [here]
      simpa using member
    · exact .inl member
  constructor
  case editions =>
    obtain ⟨tables, -, rfl⟩ := merged
    exact congrArg (· + 1) h.editions
  case sets =>
    obtain ⟨tables, -, rfl⟩ := merged
    exact h.sets
  case registries =>
    intro name k x found
    rcases list?_of_mergesSet merged found with old | ⟨-, -, before, list, stored, items⟩
    · exact h.registries name k x old
    · rw [items]
      exact List.append_ne_nil_of_right_ne_nil before (h.sets set k list stored)
  case origin =>
    intro name k
    rw [list?_mergesSet merged]
    simp only [Origins.append, Function.update_apply]
    split
    · cases stored : (s.set set).tables.fragment.stored? k with
      | none =>
        rw [Append.last_concat_other ((h.fragment_eq_nil_iff holds k).2 stored)]
        exact h.origin registry k
      | some list =>
        have has : registered .fragment k (o.ledger.sets set) ≠ [] := by
          rw [Ne, h.fragment_eq_nil_iff holds k, stored]
          nofun
        rw [Append.last_concat_same has]
        exact congrArg some h.editions
    · exact h.origin name k
  case numbered =>
    intro name x member
    rcases appended member with old | rfl
    · exact Nat.lt_succ_of_lt (h.numbered name x old)
    · exact Nat.lt_succ_self o.merges
  case distinct =>
    intro a b x member y member' same
    rcases appended member with old | rfl
    · rcases appended member' with old' | rfl
      · exact h.distinct a b x old y old' same
      · exact absurd same (Nat.ne_of_lt (h.numbered a x old))
    · rcases appended member' with old' | rfl
      · exact absurd same.symm (Nat.ne_of_lt (h.numbered b y old'))
      · rfl
  case alike =>
    intro a b k x y found found' same
    rcases list?_of_mergesSet merged found with old | ⟨here, edition, -⟩
    · rcases list?_of_mergesSet merged found' with old' | ⟨-, edition', -⟩
      · exact h.alike a b k x y old old' same
      · exact absurd (same.trans edition') (Nat.ne_of_lt (h.earlier old))
    · rcases list?_of_mergesSet merged found' with old' | ⟨here', -⟩
      · exact absurd (same.symm.trans edition) (Nat.ne_of_lt (h.earlier old'))
      · rw [here] at found
        rw [here', found] at found'
        exact Option.some.inj found'

theorem merges {sets : List String} (merged : Merges registry s sets s') (h : s.Tracks o)
    (holds : ∀ name, (s.set name).tables.Holds (o.ledger.sets name)) :
    s'.Tracks (sets.foldl (fun o set => o.append registry set) o) := by
  induction merged generalizing o with
  | nil s => exact h
  | @cons s mid s' set sets first rest ih =>
    refine ih (h.mergesSet (holds set) first) ?_
    obtain ⟨tables, -, rfl⟩ := first
    exact holds

theorem step (h : s.Tracks o) (follows : s.Follows o.ledger) {command : Command V}
    (step : Step s command s') : s'.Tracks (o.perform command) := by
  refine Tracks.withLedger ?_ _
  cases step with
  | register set r => exact h.register set r
  | merge merged => exact merges merged h follows.sets
  | withRules merged => exact (h.copy rfl).mergesSet (follows.sets _) merged
  | clone source target => exact h.copy rfl
  | record source target log => exact h.copy rfl
  | setInflector registry inflector =>
    have same : (s.putRegistry registry ((s.registry registry).withInflector inflector)).Tracks
        (o.copy registry registry) := h.copy rfl
    rwa [Origins.copy_self] at same

end Tracks

theorem Reached.tracks {history : List (Command V)} (h : Reached history s) :
    s.Tracks (Origins.after history) := by
  induction h with
  | start => exact tracks_empty
  | step reached step ih =>
    rw [Origins.after_append]
    refine ih.step ?_ step
    rw [Origins.ledger_after]
    exact reached.follows

/-! ## Sharing after a step -/

theorem shares_congr {c d : String} (left : s'.list? a k = s.list? c k)
    (right : s'.list? b k = s.list? d k) : s'.shares a b k = true ↔ s.shares c d k = true := by
  rw [shares_iff, shares_iff, left, right]

theorem Tracks.shares_self_iff (h : s.Tracks o) (name : String) (k : V.Kind) :
    s.shares name name k = true ↔ (s.registry name).ruleCount k .fragment ≠ 0 := by
  have full := (h.registries name).rulesFor_eq_nil_iff k
  have counted : (s.registry name).ruleCount k .fragment =
      ((s.registry name).tables.fragment.rulesFor k).length := rfl
  rw [counted, Ne, List.length_eq_zero_iff, full, shares_iff]
  unfold list?
  cases (s.registry name).tables.fragment.stored? k with
  | none => simp
  | some list => simp

theorem shares_copy {source : String} {r : Registry V} (target : String)
    (tables : r.tables = (s.registry source).tables) (a b : String) (k : V.Kind) :
    (s.putRegistry target r).shares a b k = true ↔
      s.shares (if a = target then source else a) (if b = target then source else b) k = true :=
  shares_congr (list?_copy tables a k) (list?_copy tables b k)

theorem Tracks.shares_mergesSet (h : s.Tracks o) {log : List (Registration V)}
    (holds : (s.set set).tables.Holds log) (merged : s.MergesSet registry set s')
    (other : b ≠ registry) (k : V.Kind) :
    s'.shares registry b k = true ↔
      s.shares registry b k = true ∧ registered .fragment k log = [] := by
  have kept : s'.list? b k = s.list? b k := by
    rw [list?_mergesSet merged, if_neg other]
  have new := list?_mergesSet merged registry k
  rw [if_pos rfl] at new
  rw [h.fragment_eq_nil_iff holds k]
  cases stored : (s.set set).tables.fragment.stored? k with
  | none =>
    rw [stored] at new
    rw [shares_congr new kept]
    simp
  | some list =>
    rw [stored] at new
    refine iff_of_false (fun shared => ?_) (fun both => nomatch both.2)
    obtain ⟨x, y, found, found', same⟩ := shares_iff.1 shared
    rw [new] at found
    rw [kept] at found'
    obtain rfl := Option.some.inj found
    exact absurd same.symm (Nat.ne_of_lt (h.earlier found'))

theorem Tracks.shares_merges {sets : List String} (merged : Merges registry s sets s')
    (h : s.Tracks o) (holds : ∀ name, (s.set name).tables.Holds (o.ledger.sets name))
    (other : b ≠ registry) (k : V.Kind) :
    s'.shares registry b k = true ↔ s.shares registry b k = true ∧
      ∀ set ∈ sets, registered .fragment k (o.ledger.sets set) = [] := by
  induction merged generalizing o with
  | nil s => simp
  | @cons s mid s' set sets first rest ih =>
    have later : ∀ name,
        (mid.set name).tables.Holds ((o.append registry set).ledger.sets name) := by
      obtain ⟨tables, -, rfl⟩ := first
      exact holds
    rw [ih (h.mergesSet (holds set) first) later, h.shares_mergesSet (holds set) first other k,
      List.forall_mem_cons, and_assoc]
    rfl

theorem Tracks.shares_eq_false (h : s.Tracks o)
    (apart : ∀ append ∈ o.appends a, append ∉ o.appends b) (k : V.Kind) :
    s.shares a b k = false := by
  rw [Bool.eq_false_iff]
  intro shared
  obtain ⟨append, last, last'⟩ := (h.shares_iff_last a b k).1 shared
  exact apart append (Append.mem_of_last last) (Append.mem_of_last last')

theorem Tracks.shares_clone (h : s.Tracks o) {source target : String} {command : Command V}
    (copies : command = .clone source target ∨ ∃ log, command = .record source target log)
    (step : Step s command s') (k : V.Kind) :
    (s'.shares source target k = true ↔ (s.registry source).ruleCount k .fragment ≠ 0) ∧
      ∀ b, b ≠ target → (s'.shares target b k = true ↔ s.shares source b k = true) := by
  obtain ⟨r, tables, rfl⟩ : ∃ r : Registry V, r.tables = (s.registry source).tables ∧
      s' = s.putRegistry target r := by
    rcases copies with rfl | ⟨log, rfl⟩
    · cases step with
      | clone => exact ⟨s.registry source, rfl, rfl⟩
    · cases step with
      | record => exact ⟨(s.registry source).recording log, rfl, rfl⟩
  refine ⟨?_, fun b other => ?_⟩
  · rw [shares_copy target tables, if_pos rfl, ite_self]
    exact h.shares_self_iff source k
  · rw [shares_copy target tables, if_pos rfl, if_neg other]

theorem Tracks.shares_withRules (h : s.Tracks o) (follows : s.Follows o.ledger)
    {source target : String} (step : Step s (.withRules source target set) s') (other : b ≠ target)
    (k : V.Kind) :
    s'.shares target b k = true ↔
      s.shares source b k = true ∧ registered .fragment k (o.ledger.sets set) = [] := by
  cases step with
  | withRules merged =>
    have tables : (s.registry source).tables = (s.registry source).tables := rfl
    have copied : (s.putRegistry target (s.registry source)).Tracks (o.copy source target) :=
      h.copy tables
    rw [copied.shares_mergesSet (follows.sets set) merged other k]
    have same := shares_copy target tables target b k
    rw [if_pos rfl, if_neg other] at same
    exact and_congr_left' same

theorem shares_setInflector {inflector : Inflector}
    (step : Step s (.setInflector registry inflector) s') (a b : String) (k : V.Kind) :
    s'.shares a b k = s.shares a b k := by
  cases step with
  | setInflector =>
    have tables : ((s.registry registry).withInflector inflector).tables =
        (s.registry registry).tables := rfl
    have same := shares_copy registry tables a b k
    have name : ∀ c, (if c = registry then registry else c) = c := by
      intro c
      split
      · rename_i here
        exact here.symm
      · rfl
    rw [name, name] at same
    exact Bool.eq_iff_iff.2 same

end Session

def Command.target? {V : Vocabulary} : Command V → Option String
  | .register _ _ => none
  | .merge registry _ => some registry
  | .withRules _ target _ => some target
  | .clone _ target => some target
  | .record _ target _ => some target
  | .setInflector registry _ => some registry

namespace Session
variable {V : Vocabulary} {s s' : Session V} {name registry set : String}

theorem registry_putRegistry_other (s : Session V) (r : Registry V) (other : name ≠ registry) :
    (s.putRegistry registry r).registry name = s.registry name := by
  rw [registry_putRegistry, if_neg other]

theorem registry_mergesSet (merged : s.MergesSet registry set s') (other : name ≠ registry) :
    s'.registry name = s.registry name := by
  obtain ⟨tables, -, rfl⟩ := merged
  exact registry_putRegistry_other s _ other

theorem registry_merges {sets : List String} (merged : Merges registry s sets s')
    (other : name ≠ registry) : s'.registry name = s.registry name := by
  induction merged with
  | nil s => rfl
  | cons first rest ih => rw [ih, registry_mergesSet first other]

theorem Step.registry_eq {command : Command V} (step : Step s command s')
    (other : command.target? ≠ some name) : s'.registry name = s.registry name := by
  have elsewhere : ∀ {target}, command.target? = some target → name ≠ target := by
    intro target eq same
    exact other (same ▸ eq)
  cases step with
  | register set r => rfl
  | merge merged => exact registry_merges merged (elsewhere rfl)
  | withRules merged =>
    rw [registry_mergesSet merged (elsewhere rfl)]
    exact registry_putRegistry_other _ _ (elsewhere rfl)
  | clone source target => exact registry_putRegistry_other _ _ (elsewhere rfl)
  | record source target log => exact registry_putRegistry_other _ _ (elsewhere rfl)
  | setInflector registry inflector => exact registry_putRegistry_other _ _ (elsewhere rfl)

/-- Whatever the history of a session, two registries share their fragment rules for a kind exactly
when the last append with such rules is the same one for both, and then the rules are equal. Copies
share every list. A merge ends the sharing of its registry with others for the kinds that a merged
set has fragment rules for, and keeps it for all other kinds, so registries that have no append in
common never share. A command changes no registry but the one that it gives something to, and no
sharing among the others. -/
theorem shares_iff_same_append {history : List (Command V)} (reached : s.Reached history) :
    let o := Origins.after history
    (∀ a b k, s.shares a b k = true ↔ ∃ append, Append.last k (o.appends a) = some append ∧
      Append.last k (o.appends b) = some append) ∧
    (∀ a b k, s.shares a b k = true →
      (s.registry a).tables.fragment.rulesFor k = (s.registry b).tables.fragment.rulesFor k) ∧
    (∀ a b, (∀ append ∈ o.appends a, append ∉ o.appends b) → ∀ k, s.shares a b k = false) ∧
    (∀ command source target,
      (command = .clone source target ∨ ∃ log, command = .record source target log) →
      ∀ s', Step s command s' → ∀ k,
        (s'.shares source target k = true ↔ (s.registry source).ruleCount k .fragment ≠ 0) ∧
        ∀ b, b ≠ target → (s'.shares target b k = true ↔ s.shares source b k = true)) ∧
    (∀ registry sets s', Step s (.merge registry sets) s' → ∀ b, b ≠ registry → ∀ k,
      (s'.shares registry b k = true ↔ s.shares registry b k = true ∧
        ∀ set ∈ sets, registered .fragment k ((Ledger.after history).sets set) = [])) ∧
    (∀ source target set s', Step s (.withRules source target set) s' → ∀ b, b ≠ target → ∀ k,
      (s'.shares target b k = true ↔ s.shares source b k = true ∧
        registered .fragment k ((Ledger.after history).sets set) = [])) ∧
    (∀ registry inflector s', Step s (.setInflector registry inflector) s' → ∀ a b k,
      s'.shares a b k = s.shares a b k) ∧
    (∀ command s', Step s command s' → ∀ a, command.target? ≠ some a →
      s'.registry a = s.registry a ∧
      ∀ b, command.target? ≠ some b → ∀ k, s'.shares a b k = s.shares a b k) := by
  intro o
  have tracks : s.Tracks o := reached.tracks
  have ledger : o.ledger = Ledger.after history := Origins.ledger_after history
  have follows : s.Follows o.ledger := ledger ▸ reached.follows
  rw [← ledger]
  refine ⟨tracks.shares_iff_last, fun a b k => tracks.rulesFor_eq_of_shares,
    fun a b => tracks.shares_eq_false, fun command source target copies s' step =>
      tracks.shares_clone copies step, ?_, fun source target set s' step b other =>
      tracks.shares_withRules follows step other, fun registry inflector s' =>
      shares_setInflector, ?_⟩
  · intro registry sets s' step b other k
    cases step with
    | merge merged => exact tracks.shares_merges merged follows.sets other k
  · intro command s' step a other
    have kept := Step.registry_eq step other
    refine ⟨kept, fun b other' k => ?_⟩
    rw [shares, shares, kept, Step.registry_eq step other']

end Session

def adding (kind : Bool) (item : String) : Registration twoKinds where
  tier := .fragment
  kind := kind
  rule := ⟨Key.always (V := twoKinds) kind, fun _ acc _ => pure (acc.push item)⟩

/-- Two sets for a kind each, merged into a registry and one of them again after it was cloned, and
one merged into a registry of its own. -/
def partlyMerged : List (Command twoKinds) :=
  [.register "notes" (adding true "note"), .register "texts" (adding false "text"),
    .merge "r" ["notes", "texts"], .clone "r" "s", .merge "r" ["notes"], .merge "t" ["texts"]]

theorem shares_iff_same_append_partlyMerged :
    let s := partlyMerged.foldl Session.perform .empty
    s.shares "r" "s" false = true ∧ s.shares "r" "s" true = false ∧
      s.shares "s" "t" false = false := by
  intro s
  obtain ⟨exact, -⟩ := Session.shares_iff_same_append (Session.reached_perform partlyMerged)
  have numbers : ∀ {a b k}, s.shares a b k = true →
      (Append.last k ((Origins.after partlyMerged).appends a)).map Append.number =
        (Append.last k ((Origins.after partlyMerged).appends b)).map Append.number := by
    intro a b k shared
    obtain ⟨append, last, last'⟩ := (exact a b k).1 shared
    rw [last, last']
  refine ⟨(exact "r" "s" false).2 ⟨_, rfl, rfl⟩, ?_, ?_⟩
  · exact Bool.eq_false_iff.2 fun shared => absurd (numbers shared) (by decide)
  · exact Bool.eq_false_iff.2 fun shared => absurd (numbers shared) (by decide)

end Scaffold.Rules
