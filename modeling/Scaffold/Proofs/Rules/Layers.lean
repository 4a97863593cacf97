import Scaffold.Proofs.Rules.Calls

/-! Layered rules. Kinds have ranks, and a body for a kind only folds fragments and fills source
files of kinds of smaller rank. Then the answer to such a call is the same at every depth beyond the
rank, whatever the files and logs are, and it leaves them alone. Directory rules are not
restricted. -/

namespace Scaffold.Rules
open Code Files

namespace Call
variable {V : Vocabulary}

def rank (rank : V.Kind → Nat) : Call V → Nat
  | .buildFragment (k := k) .. => rank k
  | .emitFile (k := k) .. => rank k
  | .emitFileAt (k := k) .. => rank k
  | .emitDirectoryAt (k := k) .. => rank k

/-- Calls that fold a fragment or fill a source file, and so write nothing. -/
def Quiet : Call V → Prop
  | .buildFragment .. => True
  | .emitFile .. => True
  | .emitFileAt .. => False
  | .emitDirectoryAt .. => False

def About (D : (k : V.Kind) → V.Descriptor k → Prop) : Call V → Prop
  | .buildFragment (k := k) _ d => D k d
  | .emitFile (k := k) _ d => D k d
  | .emitFileAt .. => False
  | .emitDirectoryAt .. => False

theorem About.quiet {D : (k : V.Kind) → V.Descriptor k → Prop} {c : Call V} (h : c.About D) :
    c.Quiet := by
  cases c with
  | buildFragment acc d => trivial
  | emitFile file d => trivial
  | emitFileAt path d => exact h
  | emitDirectoryAt path d => exact h

theorem Quiet.about {c : Call V} (h : c.Quiet) : c.About fun _ _ => True := by
  cases c with
  | buildFragment acc d => trivial
  | emitFile file d => trivial
  | emitFileAt path d => exact h
  | emitDirectoryAt path d => exact h

def Below (rank : V.Kind → Nat) (bound : Nat) (c : Call V) : Prop :=
  c.Quiet ∧ c.rank rank < bound

theorem Below.mono {rank : V.Kind → Nat} {bound larger : Nat} (le : bound ≤ larger) {c : Call V}
    (h : c.Below rank bound) : c.Below rank larger :=
  ⟨h.1, Nat.lt_of_lt_of_le h.2 le⟩

theorem below_buildFragment {rank : V.Kind → Nat} {bound : Nat} {k : V.Kind} (acc : Fragment)
    (d : V.Descriptor k) : (Call.buildFragment acc d).Below rank bound ↔ rank k < bound :=
  ⟨And.right, fun h => ⟨trivial, h⟩⟩

theorem below_emitFile {rank : V.Kind → Nat} {bound : Nat} {k : V.Kind} (file : SourceFile)
    (d : V.Descriptor k) : (Call.emitFile file d).Below rank bound ↔ rank k < bound :=
  ⟨And.right, fun h => ⟨trivial, h⟩⟩

end Call

/-! ## Rules that all have a property -/

namespace Table
variable {V : Vocabulary} {Body : V.Kind → Type} {P : (k : V.Kind) → Body k → Prop}

def All (P : (k : V.Kind) → Body k → Prop) (t : Table V Body) : Prop :=
  ∀ k, ∀ rule ∈ t.rulesFor k, P k rule.body

theorem all_empty : All P (empty : Table V Body) := by
  intro k rule h
  simp at h

theorem All.extend {t : Table V Body} (h : t.All P) (edition : Nat) {k : V.Kind}
    {rules : List (Rule V Body k)} (hr : ∀ rule ∈ rules, P k rule.body) :
    (t.extend edition k rules).All P := by
  intro other rule hm
  by_cases hk : other = k
  · subst hk
    rw [rulesFor_extend_same, List.mem_append] at hm
    exact hm.elim (h other rule) (hr rule)
  · rw [rulesFor_extend_other t edition hk] at hm
    exact h other rule hm

theorem All.push {t : Table V Body} (h : t.All P) (edition : Nat) {k : V.Kind}
    {rule : Rule V Body k} (hr : P k rule.body) : (t.push edition rule).All P := by
  refine h.extend edition fun r hm => ?_
  rw [List.mem_singleton.1 hm]
  exact hr

theorem All.append {t other : Table V Body} (h : t.All P) (edition : Nat) (ho : other.All P) :
    (t.append edition other).All P := by
  intro k rule hm
  rw [rulesFor_append, List.mem_append] at hm
  exact hm.elim (h k rule) (ho k rule)

end Table

/-! ## Layers -/

/-- File and fragment bodies of a kind only make quiet calls about kinds of smaller rank. -/
structure Tables.Layered {V : Vocabulary} (rank : V.Kind → Nat) (t : Tables V) : Prop where
  file : t.file.All fun k body => ∀ inflector d, (body inflector d).Asks (Call.Below rank (rank k))
  fragment : t.fragment.All fun k body =>
    ∀ inflector acc d, (body inflector acc d).Asks (Call.Below rank (rank k))

namespace RuleSet
variable {V : Vocabulary} {rank : V.Kind → Nat} {k : V.Kind} {s : RuleSet V}

theorem layered_empty : (empty : RuleSet V).tables.Layered rank :=
  ⟨Table.all_empty, Table.all_empty⟩

theorem layered_addDirectoryRule (h : s.tables.Layered rank) (key : Key V k)
    (body : DirectoryBody V k) : (s.addDirectoryRule key body).tables.Layered rank :=
  ⟨h.file, h.fragment⟩

theorem layered_addFileRule (h : s.tables.Layered rank) {key : Key V k} {body : FileBody V k}
    (hb : ∀ inflector d, (body inflector d).Asks (Call.Below rank (rank k))) :
    (s.addFileRule key body).tables.Layered rank :=
  ⟨h.file.push 0 hb, h.fragment⟩

theorem layered_addFragmentRule (h : s.tables.Layered rank) {key : Key V k}
    {body : FragmentBody V k}
    (hb : ∀ inflector acc d, (body inflector acc d).Asks (Call.Below rank (rank k))) :
    (s.addFragmentRule key body).tables.Layered rank :=
  ⟨h.file, h.fragment.push 0 hb⟩

end RuleSet

namespace Registry
variable {V : Vocabulary} {rank : V.Kind → Nat}

theorem layered_merge {r : Registry V} {s : RuleSet V} (h : r.tables.Layered rank) (edition : Nat)
    (hs : s.tables.Layered rank) : (r.merge edition s).tables.Layered rank :=
  ⟨h.file.append edition hs.file, h.fragment.append edition hs.fragment⟩

def mergeAll (r : Registry V) (further : List (RuleSet V × Nat)) : Registry V :=
  further.foldl (fun r s => r.merge s.2 s.1) r

theorem mergeAll_rules (r : Registry V) (further : List (RuleSet V × Nat)) :
    (r.mergeAll further).inflector = r.inflector ∧
    (∀ k, (r.mergeAll further).tables.file.rulesFor k =
      r.tables.file.rulesFor k ++ further.flatMap (·.1.tables.file.rulesFor k)) ∧
    ∀ k, (r.mergeAll further).tables.fragment.rulesFor k =
      r.tables.fragment.rulesFor k ++ further.flatMap (·.1.tables.fragment.rulesFor k) := by
  induction further generalizing r with
  | nil => exact ⟨rfl, fun k => (List.append_nil _).symm, fun k => (List.append_nil _).symm⟩
  | cons s rest ih =>
    obtain ⟨inflector, file, fragment⟩ := ih (r.merge s.2 s.1)
    refine ⟨inflector, fun k => (file k).trans ?_, fun k => (fragment k).trans ?_⟩
    · rw [merge, Tables.append, Table.rulesFor_append, List.flatMap_cons, List.append_assoc]
    · rw [merge, Tables.append, Table.rulesFor_append, List.flatMap_cons, List.append_assoc]

theorem layered_mergeAll {r : Registry V} (h : r.tables.Layered rank)
    {further : List (RuleSet V × Nat)} (hs : ∀ s ∈ further, s.1.tables.Layered rank) :
    (r.mergeAll further).tables.Layered rank := by
  induction further generalizing r with
  | nil => exact h
  | cons s rest ih =>
    have merged := layered_merge h s.2 (hs s List.mem_cons_self)
    exact ih merged fun s' hm => hs s' (List.mem_cons_of_mem s hm)

theorem layered_ofSets {sets : List (RuleSet V)} (h : ∀ s ∈ sets, s.tables.Layered rank) :
    (ofSets sets).tables.Layered rank := by
  refine layered_mergeAll (r := empty) ⟨Table.all_empty, Table.all_empty⟩ fun s hs => ?_
  exact h s.1 (List.fst_mem_of_mem_zipIdx hs)

theorem dispatch_agree {r r' : Registry V} (layered : r.tables.Layered rank)
    (tables : r'.tables = r.tables) (inflector : r'.inflector = r.inflector) (w w' : World)
    (bound n m : Nat) (hn : bound ≤ n) (hm : bound ≤ m) :
    Handler.Agree (Call.Below rank bound) (fun v v' => v = w ∧ v' = w') (r.dispatch n)
      (r'.dispatch m) := by
  induction bound generalizing n m with
  | zero =>
    intro c below
    exact absurd below.2 (Nat.not_lt_zero _)
  | succ bound ih =>
    obtain ⟨n, rfl⟩ : ∃ n', n = n' + 1 := ⟨n - 1, by omega⟩
    obtain ⟨m, rfl⟩ : ∃ m', m = m' + 1 := ⟨m - 1, by omega⟩
    have agree := ih n m (by omega) (by omega)
    intro c below v v' worlds
    rw [dispatch_succ, dispatch_succ]
    cases c with
    | emitFileAt path d => exact absurd below.1 id
    | emitDirectoryAt path d => exact absurd below.1 id
    | @buildFragment k acc d =>
      have le : rank k ≤ bound := Nat.le_of_lt_succ below.2
      simp only [answer, tables, inflector]
      refine foldFragment_agree agree r.inflector d (fun rule hr acc => ?_) acc worlds
      exact (layered.fragment k rule hr _ _ _).mono fun c => Call.Below.mono le
    | @emitFile k file d =>
      have le : rank k ≤ bound := Nat.le_of_lt_succ below.2
      simp only [answer, tables, inflector]
      refine fillFile_agree agree r.inflector d (fun rule hr => ?_) file worlds
      exact (layered.file k rule hr _ _).mono fun c => Call.Below.mono le

end Registry
end Scaffold.Rules
