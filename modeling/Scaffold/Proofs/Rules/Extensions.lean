import Scaffold.Proofs.Files.Comparison
import Scaffold.Proofs.Rules.Atomicity
import Scaffold.Proofs.Rules.Emission

/-! Registries extended by further rules. If the further rules apply to none of the descriptors that
the rules for one lead to, the extended registry answers calls about it as the registry does,
whatever the further rules would do elsewhere. If no rule writes files on its own, two runs that
write the same paths, one through each registry, leave trees that differ only in the contents of the
files that the registries fill differently. -/

namespace Scaffold.Rules
open Code Files

section Sets
variable {V : Vocabulary}

/-- The file and fragment rules for the descriptors of a set only ask about the set. -/
structure Tables.Closed (D : (k : V.Kind) → V.Descriptor k → Prop) (t : Tables V) : Prop where
  file : ∀ k d, D k d → ∀ rule ∈ t.file.rulesFor k, ∀ inflector,
    (rule.body inflector d).Asks (Call.About D)
  fragment : ∀ k d, D k d → ∀ rule ∈ t.fragment.rulesFor k, ∀ inflector acc,
    (rule.body inflector acc d).Asks (Call.About D)

/-- File and fragment rules only make quiet calls, so that they write no files. -/
structure Tables.Quiet (t : Tables V) : Prop where
  file : t.file.All fun _ body => ∀ inflector d, (body inflector d).Asks Call.Quiet
  fragment : t.fragment.All fun _ body => ∀ inflector acc d, (body inflector acc d).Asks Call.Quiet

/-- No file or fragment rule applies to a descriptor of the set. -/
structure RuleSet.PassesOver (s : RuleSet V) (D : (k : V.Kind) → V.Descriptor k → Prop) :
    Prop where
  file : ∀ k d, D k d → ∀ rule ∈ s.tables.file.rulesFor k, rule.applies d = false
  fragment : ∀ k d, D k d → ∀ rule ∈ s.tables.fragment.rulesFor k, rule.applies d = false

theorem Tables.Layered.quiet {rank : V.Kind → Nat} {t : Tables V} (layered : t.Layered rank) :
    t.Quiet where
  file k rule hr inflector d := (layered.file k rule hr inflector d).mono fun _ => And.left
  fragment k rule hr inflector acc d :=
    (layered.fragment k rule hr inflector acc d).mono fun _ => And.left

theorem Tables.Quiet.append {t other : Tables V} (quiet : t.Quiet) (edition : Nat)
    (further : other.Quiet) : (t.append edition other).Quiet :=
  ⟨quiet.file.append edition further.file, quiet.fragment.append edition further.fragment⟩

theorem Tables.Quiet.closed {t : Tables V} (quiet : t.Quiet) : t.Closed fun _ _ => True where
  file k d _ rule hr inflector := (quiet.file k rule hr inflector d).mono fun _ => Call.Quiet.about
  fragment k d _ rule hr inflector acc :=
    (quiet.fragment k rule hr inflector acc d).mono fun _ => Call.Quiet.about

end Sets

/-! ## Further rules that do not apply -/

namespace Registry
variable {V : Vocabulary} {D : (k : V.Kind) → V.Descriptor k → Prop} {r r' : Registry V}
  {s : RuleSet V}

/-- The same file and fragment rules apply to the descriptors of a set, with the same inflector. -/
structure SameOn (D : (k : V.Kind) → V.Descriptor k → Prop) (r r' : Registry V) : Prop where
  inflector : r'.inflector = r.inflector
  file : ∀ k d, D k d → (r'.tables.file.rulesFor k).filter (·.applies d) =
    (r.tables.file.rulesFor k).filter (·.applies d)
  fragment : ∀ k d, D k d → (r'.tables.fragment.rulesFor k).filter (·.applies d) =
    (r.tables.fragment.rulesFor k).filter (·.applies d)

theorem SameOn.refl (r : Registry V) : SameOn D r r :=
  ⟨rfl, fun _ _ _ => rfl, fun _ _ _ => rfl⟩

theorem SameOn.merge (passes : s.PassesOver D) (edition : Nat) :
    SameOn D r (r.merge edition s) := by
  refine ⟨rfl, fun k d member => ?_, fun k d member => ?_⟩
  · have none : (s.tables.file.rulesFor k).filter (·.applies d) = [] :=
      List.filter_eq_nil_iff.2 fun rule hr => by simp [passes.file k d member rule hr]
    simp only [Registry.merge, Tables.append, Table.rulesFor_append, List.filter_append, none,
      List.append_nil]
  · have none : (s.tables.fragment.rulesFor k).filter (·.applies d) = [] :=
      List.filter_eq_nil_iff.2 fun rule hr => by simp [passes.fragment k d member rule hr]
    simp only [Registry.merge, Tables.append, Table.rulesFor_append, List.filter_append, none,
      List.append_nil]

/-- Where the same rules apply to all that they ask about, calls are answered alike. By induction on
the depth; quiet calls look at no world, so that any relation between worlds is kept. -/
theorem SameOn.agree (same : SameOn D r r') (closed : r.tables.Closed D)
    {R : World → World → Prop} (depth : Nat) :
    Handler.Agree (Call.About D) R (r.dispatch depth) (r'.dispatch depth) := by
  induction depth with
  | zero => exact fun c _ w w' related => ⟨rfl, related⟩
  | succ depth ih =>
    intro c about w w' related
    rw [dispatch_succ, dispatch_succ]
    cases c with
    | emitFileAt path d => exact absurd about id
    | emitDirectoryAt path d => exact absurd about id
    | @buildFragment k acc d =>
      simp only [answer, same.inflector]
      rw [← foldFragment_filter _ _ _ (r'.tables.fragment.rulesFor k), same.fragment k d about,
        foldFragment_filter]
      exact foldFragment_agree ih r.inflector d
        (fun rule hr acc => closed.fragment k d about rule hr r.inflector acc) acc related
    | @emitFile k file d =>
      simp only [answer, same.inflector]
      rw [← fillFile_filter _ _ _ (r'.tables.file.rulesFor k), same.file k d about,
        fillFile_filter]
      exact fillFile_agree ih r.inflector d
        (fun rule hr => closed.file k d about rule hr r.inflector) file related

theorem dispatch_quiet (quiet : r.tables.Quiet) (depth : Nat) {c : Call V} (asked : c.Quiet)
    (w : World) : (r.dispatch depth c w).2 = w := by
  have kept := (SameOn.refl r).agree (R := fun v _ => v = w) quiet.closed depth
  exact (kept c asked.about w w rfl).2

end Registry

/-! ## Two runs -/

/-- Worlds whose files are the same but for some contents; what was logged may differ. -/
def World.SameBut (S : Location → Prop) (w w' : World) : Prop :=
  w.files.SameBut S w'.files

namespace Script
variable {V : Vocabulary} {R : World → World → Prop} {handle handle' : Handler V}

/-- If the script succeeds with either handler, it takes related worlds to related worlds. -/
def Preserves (R : World → World → Prop) (handle handle' : Handler V) (s : Script V Unit) : Prop :=
  ∀ ⦃w w' v v'⦄, R w w' → s.run.run handle w = (.ok (), v) →
    s.run.run handle' w' = (.ok (), v') → R v v'

theorem preserves_lift (result : Except Failure Unit) :
    Preserves R handle handle' (monadLift result) := by
  intro w w' v v' related ran ran'
  obtain ⟨-, rfl⟩ := Prod.mk.inj ran
  obtain ⟨-, rfl⟩ := Prod.mk.inj ran'
  exact related

theorem run_bind_ok {s : Script V Unit} {f : Unit → Script V Unit} {w v : World}
    (h : (s >>= f).run.run handle w = (.ok (), v)) :
    ∃ u, s.run.run handle w = (.ok (), u) ∧ (f ()).run.run handle u = (.ok (), v) := by
  rw [run_andThen] at h
  split at h
  · rename_i u first
    exact ⟨u, first, h⟩
  · cases h

theorem Preserves.bind {s : Script V Unit} {f : Unit → Script V Unit}
    (first : s.Preserves R handle handle') (second : (f ()).Preserves R handle handle') :
    (s >>= f).Preserves R handle handle' := by
  intro w w' v v' related whole whole'
  obtain ⟨u, ran, went⟩ := run_bind_ok whole
  obtain ⟨u', ran', went'⟩ := run_bind_ok whole'
  exact second (first related ran ran') went went'

theorem preserves_forM {γ : Type} {f : γ → Script V Unit} {list : List γ}
    (each : ∀ c ∈ list, (f c).Preserves R handle handle') :
    Preserves R handle handle' (list.forM f) := by
  induction list with
  | nil => exact preserves_lift (.ok ())
  | cons c rest ih =>
    have head := each c List.mem_cons_self
    exact head.bind (ih fun c' hc => each c' (List.mem_cons_of_mem c hc))

end Script

namespace Registry
variable {V : Vocabulary} {k : V.Kind} {r r' : Registry V} {s : RuleSet V} {S : Location → Prop}

theorem emitFileAt_ok (quiet : r.tables.Quiet) {depth : Nat} {path : Path} {d : V.Descriptor k}
    {w v : World} (h : r.dispatch (depth + 1) (.emitFileAt path d) w = (.ok (), v)) :
    ∃ module files file, V.package? k d = some module ∧
      w.files.prepareFile path = (.ok (), files) ∧
      (r.dispatch (depth + 1) (.emitFile { module := module } d) { w with files := files }).1 =
        (.ok (), file) ∧
      files.writeFile path file.render = (.ok (), v.files) := by
  obtain ⟨module, files, file, u, package, prepared, filled, written⟩ := emitFileAt_stages h
  have still := r.dispatch_quiet quiet (depth + 1) (c := .emitFile { module := module } d) trivial
    { w with files := files }
  rw [filled] at still
  obtain rfl := still
  exact ⟨module, files, file, package, prepared, congrArg Prod.fst filled, written⟩

theorem preserves_emitFileAt (quiet : r.tables.Quiet) (quiet' : r'.tables.Quiet) {depth : Nat}
    {path : Path} {d : V.Descriptor k}
    (alike : S path.target ∨ ∀ source w w', (r.dispatch (depth + 1) (.emitFile source d) w).1 =
      (r'.dispatch (depth + 1) (.emitFile source d) w').1) :
    (Script.emitFileAt path d).Preserves (World.SameBut S) (r.dispatch (depth + 1))
      (r'.dispatch (depth + 1)) := by
  intro w w' v v' same whole whole'
  obtain ⟨module, files, file, package, prepared, made, wrote⟩ := emitFileAt_ok quiet whole
  obtain ⟨_, files', file', package', prepared', made', wrote'⟩ := emitFileAt_ok quiet' whole'
  obtain rfl := Option.some.inj (package.symm.trans package')
  have ready := (same.prepareFile path).2
  rw [prepared, prepared'] at ready
  refine ready.writeFile wrote wrote' ?_
  rcases alike with member | alike
  · exact .inr member
  · have texts := made.symm.trans ((alike _ _ _).trans made')
    exact .inl (congrArg SourceFile.render (Prod.mk.inj texts).2)

theorem preserves_emitFileAt_of_passesOver {D : (k : V.Kind) → V.Descriptor k → Prop}
    (quiet : r.tables.Quiet) (further : s.tables.Quiet) (closed : r.tables.Closed D)
    (passes : s.PassesOver D) (edition : Nat) {depth : Nat} {path : Path} {d : V.Descriptor k}
    (member : D k d) :
    (Script.emitFileAt path d).Preserves (World.SameBut S) (r.dispatch (depth + 1))
      ((r.merge edition s).dispatch (depth + 1)) := by
  refine preserves_emitFileAt quiet (quiet.append edition further) (.inr fun source w w' => ?_)
  have agree := (SameOn.merge passes edition).agree (R := fun _ _ => True) closed (depth + 1)
  exact (agree (.emitFile source d) member w w' trivial).1

theorem preserves_emitDirectoryAt {body : DirectoryBody V k}
    (rules : r.tables.directory.rulesFor k = [⟨.always k, body⟩])
    (rules' : r'.tables.directory.rulesFor k = [⟨.always k, body⟩])
    {depth : Nat} {path : Path} {d : V.Descriptor k}
    (inflector : r'.inflector = r.inflector)
    (filled : (body r.inflector path d).Preserves (World.SameBut S) (r.dispatch depth)
      (r'.dispatch depth)) :
    (Script.emitDirectoryAt path d).Preserves (World.SameBut S) (r.dispatch (depth + 1))
      (r'.dispatch (depth + 1)) := by
  intro w w' v v' same whole whole'
  obtain ⟨result, files, files', ensured, ensured', same⟩ :=
    (same.ensureDirectory path).exists_eq
  change r.fillDirectoryOf (r.dispatch depth) path d w = _ at whole
  change r'.fillDirectoryOf (r'.dispatch depth) path d w' = _ at whole'
  simp only [fillDirectoryOf, rules, ensured] at whole
  simp only [fillDirectoryOf, rules', ensured', inflector] at whole'
  cases result with
  | error e => cases whole
  | ok _ =>
    simp only [fillDirectory_single] at whole whole'
    have ready : World.SameBut S { w with files := files } { w' with files := files' } := same
    exact filled ready whole whole'

end Registry
end Scaffold.Rules
