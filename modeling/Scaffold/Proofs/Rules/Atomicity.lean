import Scaffold.Proofs.Files.Materialisation
import Scaffold.Proofs.Rules.Logs

/-! Writing the file of a descriptor, or no file at all. Between the preparation of the path and the
writing of the text, any number of rules run, and each of them may fail. As long as the rules write
no files themselves, whatever goes wrong leaves every file as it was, and a call that succeeds leaves
the text of the source file that the rules made. -/

namespace Scaffold.Rules
open Code Files

section Filling
variable {V : Vocabulary} {k : V.Kind} {handle : Handler V} {inflector : Inflector}
  {d : V.Descriptor k} {S : Location → Prop}

theorem fillFile_adds {rules : List (Rule V (FileBody V) k)}
    (each : ∀ rule ∈ rules, rule.applies d = true → ∀ source (w : World),
      w.files.Adds S (((rule.body inflector d).run.run source).run handle w).2.files)
    (source : SourceFile) (w : World) :
    w.files.Adds S (fillFile handle inflector d rules source w).2.files := by
  induction rules generalizing source w with
  | nil => exact FileTree.Adds.refl S w.files
  | cons rule rest ih =>
    have later := ih fun rule hr => each rule (List.mem_cons_of_mem _ hr)
    unfold fillFile
    split
    next applies =>
      have first := each rule List.mem_cons_self applies source w
      split
      next source' v ran =>
        rw [ran] at first
        exact first.trans (later source' v)
      next e source' v ran =>
        rw [ran] at first
        exact first
    next => exact later source w

end Filling

namespace Registry
variable {V : Vocabulary} {k : V.Kind} {r : Registry V} {S : Location → Prop} {depth : Nat}
  {d : V.Descriptor k} {path : Path} {w v : World}

/-- The file rules for a descriptor write no files: each that applies adds directories of a set at
most, whatever it starts from and however it ends. -/
def WritesNoFiles (r : Registry V) (S : Location → Prop) (depth : Nat) (d : V.Descriptor k) : Prop :=
  ∀ rule ∈ r.tables.file.rulesFor k, rule.applies d = true → ∀ source (w : World),
    w.files.Adds S (((rule.body r.inflector d).run.run source).run (r.dispatch depth) w).2.files

theorem emitFile_adds (still : r.WritesNoFiles S depth d) (source : SourceFile) (w : World) :
    w.files.Adds S (r.dispatch (depth + 1) (.emitFile source d) w).2.files :=
  fillFile_adds still source w

theorem emitFileAt_without_package (none : V.package? k d = none) (path : Path) (w : World) :
    r.dispatch (depth + 1) (.emitFileAt path d) w = (.error (.missingPackage (V.title k)), w) := by
  change r.writeFileOf (r.dispatch depth) path d w = _
  simp only [writeFileOf, none]

theorem emitFileAt_stages (h : r.dispatch (depth + 1) (.emitFileAt path d) w = (.ok (), v)) :
    ∃ module ready file u, V.package? k d = some module ∧
      w.files.prepareFile path = (.ok (), ready) ∧
      r.dispatch (depth + 1) (.emitFile { module := module } d) { w with files := ready } =
        ((.ok (), file), u) ∧
      u.files.writeFile path file.render = (.ok (), v.files) := by
  change r.writeFileOf (r.dispatch depth) path d w = _ at h
  unfold writeFileOf at h
  split at h
  · cases h
  next module package =>
    split at h
    · cases h
    next ready prepared =>
      split at h
      · cases h
      next file u filled =>
        split at h
        · cases h
        next after written =>
          obtain ⟨-, rfl⟩ := Prod.mk.inj h
          refine ⟨module, ready, file, u, package, prepared, filled, written.trans ?_⟩
          cases r.log? <;> rfl

theorem emitFileAt_error_adds (still : r.WritesNoFiles S depth d) {e : Failure}
    (h : r.dispatch (depth + 1) (.emitFileAt path d) w = (.error e, v)) :
    w.files.Adds (fun l => path.Above l ∨ S l) v.files := by
  change r.writeFileOf (r.dispatch depth) path d w = _ at h
  have prepared : w.files.Adds (fun l => path.Above l ∨ S l) (w.files.prepareFile path).2 :=
    (FileTree.prepareFile_adds_above w.files path).mono fun _ => Or.inl
  unfold writeFileOf at h
  split at h
  · cases h
    exact FileTree.Adds.refl _ _
  next module package =>
    split at h
    next refused =>
      cases h
      rwa [refused] at prepared
    next ready ensured =>
      rw [ensured] at prepared
      have filling := prepared.trans
        ((fillFile_adds still { module := module } { w with files := ready }).mono fun _ => Or.inr)
      split at h
      next filled =>
        cases h
        rwa [filled] at filling
      next file u filled =>
        rw [filled] at filling
        split at h
        next refused =>
          cases h
          exact filling.trans ((FileTree.writeFile_error_adds refused).mono fun _ => Or.inl)
        · cases h

/-- Writing the file of a descriptor whose rules write no files leaves all files as they were or the
one file written, at whatever depth the call is made. Without a module to write in, nothing happens.
A call that fails adds directories above the path at most, beside those that the rules made. A call
that succeeds leaves the text of the source file that the rules filled for the module, from an empty
one, whatever was at the path before. -/
theorem emitFileAt_all_or_nothing (still : r.WritesNoFiles S depth d) (path : Path) (w : World) :
    (V.package? k d = none → r.dispatch (depth + 1) (.emitFileAt path d) w =
      (.error (.missingPackage (V.title k)), w)) ∧
    (∀ e v, r.dispatch (depth + 1) (.emitFileAt path d) w = (.error e, v) →
      w.files.Adds (fun l => path.Above l ∨ S l) v.files) ∧
    ∀ v, r.dispatch (depth + 1) (.emitFileAt path d) w = (.ok (), v) →
      ∃ module ready file, V.package? k d = some module ∧
        w.files.prepareFile path = (.ok (), ready) ∧
        (r.dispatch (depth + 1) (.emitFile { module := module } d)
          { w with files := ready }).1 = (.ok (), file) ∧
        v.files.readText path = .ok file.render ∧
        ∀ l, l ≠ path.target → v.files.node? l = w.files.node? l ∨
          w.files.node? l = none ∧ v.files.node? l = some .directory ∧ (path.Above l ∨ S l) := by
  refine ⟨fun none => emitFileAt_without_package none path w,
    fun e v h => emitFileAt_error_adds still h, fun v h => ?_⟩
  obtain ⟨module, ready, file, u, package, prepared, filled, written⟩ := emitFileAt_stages h
  refine ⟨module, ready, file, package, prepared, congrArg Prod.fst filled,
    (FileTree.writeFile_settles written).1, fun l other => ?_⟩
  have preparing := FileTree.prepareFile_adds_above w.files path
  have filling := emitFile_adds still { module := module } { w with files := ready }
  obtain ⟨last, above, put⟩ := FileTree.writeFile_ok_adds written
  rw [prepared] at preparing
  rw [filled] at filling
  have added : w.files.Adds (fun l => path.Above l ∨ S l) last :=
    (preparing.mono fun _ => Or.inl).trans
      ((filling.mono fun _ => Or.inr).trans (above.mono fun _ => Or.inl))
  obtain ⟨named, -, same, -⟩ := FileTree.write_ok put
  rw [same, FileTree.node?_put last named, if_neg other]
  exact added l

end Registry

/-- Pages with one item, and a rule after it that fails on drafts. -/
def pageRegistry : Registry pages :=
  Registry.empty.merge 0
    ((RuleSet.empty.addFileRule (Key.always (V := pages) ()) fun _ d =>
      FileScript.add ("about " ++ d)).addFileRule (Key.when (V := pages) () (· == "draft"))
        fun _ _ => throw (.unboundSlot "date"))

def pageWorld : World where
  files := ⟨[(["out"], .directory), (["out", "page"], .file "old".toUTF8)]⟩

theorem pageRegistry_writesNoFiles (d : String) :
    pageRegistry.WritesNoFiles (k := ()) (fun _ => False) (Registry.depthLimit - 1) d := by
  intro rule hr applies source w
  have rules : rule ∈ [_, _] := hr
  simp only [List.mem_cons, List.not_mem_nil, or_false] at rules
  rcases rules with rfl | rfl
  · exact FileTree.Adds.refl _ w.files
  · exact FileTree.Adds.refl _ w.files

/-- A page without a module, a draft and a page that replaces the old one. -/
theorem emitFileAt_all_or_nothing_pages :
    pageRegistry.emitFileAt (k := ()) "out/page" "" pageWorld =
      (.error (.missingPackage "page"), pageWorld) ∧
    (∃ e v, pageRegistry.emitFileAt (k := ()) "out/page" "draft" pageWorld = (.error e, v) ∧
      v.files.node? ["out", "page"] = some (.file "old".toUTF8)) ∧
    ∃ v, pageRegistry.emitFileAt (k := ()) "out/page" "news" pageWorld = (.ok (), v) ∧
      v.files.readText "out/page" = .ok "// module: news\n\nabout news\n" := by
  have law (d : String) := Registry.emitFileAt_all_or_nothing (pageRegistry_writesNoFiles d)
    "out/page" pageWorld
  refine ⟨(law "").1 rfl, ?_, ?_⟩
  · have fails : (pageRegistry.emitFileAt (k := ()) "out/page" "draft"
        pageWorld).1.toOption.isNone = true := by
      decide +kernel
    rcases h : pageRegistry.emitFileAt (k := ()) "out/page" "draft" pageWorld with ⟨e | _, v⟩
    · exact ⟨e, v, rfl, ((law "draft").2.1 e v h).node? rfl⟩
    · rw [h] at fails
      cases fails
  · have succeeds : (pageRegistry.emitFileAt (k := ()) "out/page" "news"
        pageWorld).1.toOption.isSome = true := by
      decide +kernel
    rcases h : pageRegistry.emitFileAt (k := ()) "out/page" "news" pageWorld with ⟨e | _, v⟩
    · rw [h] at succeeds
      cases succeeds
    · obtain ⟨module, ready, file, package, -, filled, text, -⟩ := (law "news").2.2 v h
      obtain rfl : "news" = module := Option.some.inj package
      obtain rfl : { module := "news", items := ["about news"] } = file :=
        (Prod.mk.inj filled).2
      exact ⟨v, rfl, text.trans (congrArg Except.ok (by decide +kernel))⟩

end Scaffold.Rules
