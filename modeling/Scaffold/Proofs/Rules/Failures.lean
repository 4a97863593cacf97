import Scaffold.Proofs.Rules.Layers
import Scaffold.Proofs.Rules.Sequences

/-! The failures that rules can end in. A script fails within a set when every failure that it ends
in is of the set, as long as the calls that it makes fail within the set. If the file and fragment
rules of a registry do, then so does every dispatch that fills no directory: what it adds to the
failures of its rules are those of dispatch itself. Directory rules are judged for the descriptor at
hand, since theirs is the outermost call. -/

namespace Scaffold

/-- A result whose failure, if it is one, is of a set. -/
def FailsWithin {ε α : Type} (E : ε → Prop) (x : Except ε α) : Prop :=
  ∀ e, x = .error e → E e

section Results
variable {ε ε' α β : Type} {E F : ε → Prop}

theorem failsWithin_ok (a : α) : FailsWithin E (.ok a) := nofun

theorem failsWithin_error {e : ε} (h : E e) : FailsWithin E (.error e : Except ε α) := by
  intro e' same
  obtain rfl := Except.error.inj same
  exact h

theorem FailsWithin.mono {x : Except ε α} (h : FailsWithin E x) (sub : ∀ e, E e → F e) :
    FailsWithin F x :=
  fun e failed => sub e (h e failed)

theorem FailsWithin.bind {x : Except ε α} {f : α → Except ε β} (hx : FailsWithin E x)
    (hf : ∀ a, FailsWithin E (f a)) : FailsWithin E (x >>= f) := by
  cases x with
  | error e => exact failsWithin_error (hx e rfl)
  | ok a => exact hf a

theorem FailsWithin.map {x : Except ε α} (h : FailsWithin E x) (f : α → β) :
    FailsWithin E (x.map f) := by
  cases x with
  | error e => exact failsWithin_error (h e rfl)
  | ok a => exact failsWithin_ok _

theorem FailsWithin.mapError {x : Except ε α} {E : ε' → Prop} {f : ε → ε'}
    (h : FailsWithin (fun e => E (f e)) x) : FailsWithin E (x.mapError f) := by
  cases x with
  | error e => exact failsWithin_error (h e rfl)
  | ok a => exact failsWithin_ok a

theorem failsWithin_mapM {f : α → Except ε β} (h : ∀ a, FailsWithin E (f a)) (list : List α) :
    FailsWithin E (list.mapM f) := by
  induction list with
  | nil => exact failsWithin_ok []
  | cons a rest ih =>
    rw [List.mapM_cons]
    exact (h a).bind fun b => ih.bind fun bs => failsWithin_ok _

end Results

def Failure.OfDispatch : Failure → Prop
  | .notADirectory _ => True
  | .notAFile _ => True
  | .file _ _ => True
  | .missingPackage _ => True
  | .nesting => True
  | _ => False

namespace Files.FileTree
variable (t : FileTree) (p : Path)

theorem failsWithin_ensureDirectory : FailsWithin Failure.OfDispatch (t.ensureDirectory p).1 := by
  unfold ensureDirectory
  split
  · exact failsWithin_ok ()
  · exact failsWithin_error trivial
  · split
    · exact failsWithin_ok ()
    · exact failsWithin_error trivial
  · exact failsWithin_error trivial

theorem failsWithin_checkFile : FailsWithin Failure.OfDispatch (t.checkFile p) := by
  unfold checkFile
  split
  · exact failsWithin_error trivial
  · exact failsWithin_ok ()
  · exact failsWithin_ok ()
  · exact failsWithin_error trivial

theorem failsWithin_prepareFile : FailsWithin Failure.OfDispatch (t.prepareFile p).1 := by
  unfold prepareFile
  split
  · exact t.failsWithin_checkFile p
  · rename_i parent _
    have ensured := t.failsWithin_ensureDirectory parent
    split
    · rename_i e tree failed
      rw [failed] at ensured
      exact ensured
    · rename_i tree _
      exact tree.failsWithin_checkFile p

theorem failsWithin_writeFile (content : String) :
    FailsWithin Failure.OfDispatch (t.writeFile p content).1 := by
  have prepared := t.failsWithin_prepareFile p
  unfold writeFile
  split
  · rename_i e tree failed
    rw [failed] at prepared
    exact prepared
  · split
    · exact failsWithin_ok ()
    · exact failsWithin_error trivial

end Files.FileTree

namespace Rules
open Code Files

/-! ## Handlers and scripts -/

section Calls
variable {V : Vocabulary}

def Call.FailsWithin (E : Failure → Prop) : (c : Call V) → c.Answer → Prop
  | .buildFragment .., answer => Scaffold.FailsWithin E answer
  | .emitFile .., answer => Scaffold.FailsWithin E answer.1
  | .emitFileAt .., answer => Scaffold.FailsWithin E answer
  | .emitDirectoryAt .., answer => Scaffold.FailsWithin E answer

def Call.BelowDirectories : Call V → Prop
  | .emitDirectoryAt .. => False
  | _ => True

def Handler.FailsWithin (E : Failure → Prop) (handle : Handler V) : Prop :=
  ∀ c : Call V, c.BelowDirectories → ∀ w, c.FailsWithin E (handle c w).1

def Script.FailsWithin {α : Type} (E : Failure → Prop) (s : Script V α) : Prop :=
  ∀ handle : Handler V, handle.FailsWithin E → ∀ w, Scaffold.FailsWithin E (s.run.run handle w).1

def FileScript.FailsWithin {α : Type} (E : Failure → Prop) (s : FileScript V α) : Prop :=
  ∀ handle : Handler V, handle.FailsWithin E →
    ∀ file w, Scaffold.FailsWithin E ((s.run.run file).run handle w).1.1

end Calls

namespace Script
variable {V : Vocabulary} {k : V.Kind} {α β γ : Type} {E : Failure → Prop}

theorem failsWithin_pure (a : α) : (pure a : Script V α).FailsWithin E :=
  fun _ _ _ => failsWithin_ok a

theorem failsWithin_lift {x : Except Failure α} (h : Scaffold.FailsWithin E x) :
    (monadLift x : Script V α).FailsWithin E :=
  fun _ _ _ => h

theorem FailsWithin.bind {s : Script V α} {f : α → Script V β} (hs : s.FailsWithin E)
    (hf : ∀ a, (f a).FailsWithin E) : (s >>= f).FailsWithin E := by
  intro handle within w
  have first := hs handle within w
  rw [run_andThen]
  generalize s.run.run handle w = ran at first ⊢
  obtain ⟨e | a, w⟩ := ran
  · exact failsWithin_error (first e rfl)
  · exact hf a handle within w

theorem failsWithin_foldlM {f : β → γ → Script V β} {list : List γ}
    (h : ∀ c ∈ list, ∀ b, (f b c).FailsWithin E) (b : β) : (list.foldlM f b).FailsWithin E := by
  induction list generalizing b with
  | nil => exact failsWithin_pure b
  | cons c rest ih =>
    rw [List.foldlM_cons]
    exact (h c List.mem_cons_self b).bind (ih fun c hc => h c (List.mem_cons_of_mem _ hc))

theorem failsWithin_forM {f : γ → Script V Unit} {list : List γ}
    (h : ∀ c ∈ list, (f c).FailsWithin E) : (list.forM f).FailsWithin E := by
  induction list with
  | nil => exact failsWithin_pure ()
  | cons c rest ih =>
    exact (h c List.mem_cons_self).bind fun _ => ih fun c hc => h c (List.mem_cons_of_mem _ hc)

theorem failsWithin_buildFragment (acc : Fragment) (d : V.Descriptor k) :
    (Script.buildFragment acc d).FailsWithin E :=
  fun _ within w => within (.buildFragment acc d) trivial w

theorem failsWithin_emitFileAt (path : Path) (d : V.Descriptor k) :
    (Script.emitFileAt path d).FailsWithin E :=
  fun _ within w => within (.emitFileAt path d) trivial w

end Script

namespace FileScript
variable {V : Vocabulary} {k : V.Kind} {α β γ : Type} {E : Failure → Prop}

theorem failsWithin_pure (a : α) : (pure a : FileScript V α).FailsWithin E :=
  fun _ _ _ _ => failsWithin_ok a

theorem failsWithin_lift {x : Except Failure α} (h : Scaffold.FailsWithin E x) :
    (monadLift x : FileScript V α).FailsWithin E :=
  fun _ _ _ _ => h

theorem FailsWithin.bind {s : FileScript V α} {f : α → FileScript V β} (hs : s.FailsWithin E)
    (hf : ∀ a, (f a).FailsWithin E) : (s >>= f).FailsWithin E := by
  intro handle within file w
  have first := hs handle within file w
  rw [run_andThen]
  generalize (s.run.run file).run handle w = ran at first ⊢
  obtain ⟨⟨e | a, file⟩, w⟩ := ran
  · exact failsWithin_error (first e rfl)
  · exact hf a handle within file w

theorem failsWithin_forM {f : γ → FileScript V Unit} {list : List γ}
    (h : ∀ c ∈ list, (f c).FailsWithin E) : (list.forM f).FailsWithin E := by
  induction list with
  | nil => exact failsWithin_pure ()
  | cons c rest ih =>
    exact (h c List.mem_cons_self).bind fun _ => ih fun c hc => h c (List.mem_cons_of_mem _ hc)

theorem failsWithin_change (f : SourceFile → SourceFile) :
    (FileScript.change f : FileScript V Unit).FailsWithin E :=
  fun _ _ _ _ => failsWithin_ok ()

theorem failsWithin_buildFragment (acc : Fragment) (d : V.Descriptor k) :
    (FileScript.buildFragment acc d).FailsWithin E :=
  fun _ within _ w => within (.buildFragment acc d) trivial w

theorem failsWithin_emitFile (d : V.Descriptor k) : (FileScript.emitFile d).FailsWithin E :=
  fun _ within file w => within (.emitFile file d) trivial w

end FileScript

/-! ## Dispatch -/

structure Tables.FailWithin {V : Vocabulary} (E : Failure → Prop) (t : Tables V) : Prop where
  file : t.file.All fun _ body => ∀ inflector d, (body inflector d).FailsWithin E
  fragment : t.fragment.All fun _ body => ∀ inflector acc d, (body inflector acc d).FailsWithin E

section Sequences
variable {V : Vocabulary} {k : V.Kind} {E : Failure → Prop} {inflector : Inflector}
  {d : V.Descriptor k}

theorem failsWithin_fragmentScript {rules : List (Rule V (FragmentBody V) k)}
    (bodies : ∀ rule ∈ rules, ∀ acc, (rule.body inflector acc d).FailsWithin E) (acc : Fragment) :
    (fragmentScript inflector d rules acc).FailsWithin E := by
  refine Script.failsWithin_foldlM (fun rule hr acc => ?_) acc
  split
  · exact bodies rule hr acc
  · exact Script.failsWithin_pure acc

theorem failsWithin_fileScript {rules : List (Rule V (FileBody V) k)}
    (bodies : ∀ rule ∈ rules, (rule.body inflector d).FailsWithin E) :
    (fileScript inflector d rules).FailsWithin E := by
  refine FileScript.failsWithin_forM fun rule hr => ?_
  split
  · exact bodies rule hr
  · exact FileScript.failsWithin_pure ()

theorem failsWithin_directoryScript {path : Path} {rules : List (Rule V (DirectoryBody V) k)}
    (bodies : ∀ rule ∈ rules, (rule.body inflector path d).FailsWithin E) :
    (directoryScript inflector path d rules).FailsWithin E := by
  refine Script.failsWithin_forM fun rule hr => ?_
  split
  · exact bodies rule hr
  · exact Script.failsWithin_pure ()

end Sequences

namespace Registry
variable {V : Vocabulary} {E : Failure → Prop} {r : Registry V} {handle : Handler V}

theorem failWithin_withInflector (rules : r.tables.FailWithin E) (inflector : Inflector) :
    (r.withInflector inflector).tables.FailWithin E :=
  rules

theorem failWithin_recording (rules : r.tables.FailWithin E) (log : String) :
    (r.recording log).tables.FailWithin E :=
  rules

theorem failsWithin_fillFile {k : V.Kind} (rules : r.tables.FailWithin E)
    (within : handle.FailsWithin E) (file : SourceFile) (d : V.Descriptor k) (w : World) :
    FailsWithin E (fillFile handle r.inflector d (r.tables.file.rulesFor k) file w).1.1 := by
  rw [fillFile_eq_run]
  exact failsWithin_fileScript (fun rule hr => rules.file k rule hr r.inflector d) handle within
    file w

theorem failsWithin_writeFileOf {k : V.Kind} {d : V.Descriptor k}
    (own : ∀ e : Failure, e.OfDispatch → E e)
    (filling : ∀ file w, FailsWithin E
      (fillFile handle r.inflector d (r.tables.file.rulesFor k) file w).1.1)
    (path : Path) (w : World) : FailsWithin E (r.writeFileOf handle path d w).1 := by
  unfold writeFileOf
  split
  · exact failsWithin_error (own _ trivial)
  · rename_i module _
    have prepared := (w.files.failsWithin_prepareFile path).mono own
    split
    · rename_i e files failed
      rw [failed] at prepared
      exact prepared
    · rename_i files _
      have filled := filling { module := module } { w with files := files }
      split
      · rename_i e file w failed
        rw [failed] at filled
        exact failsWithin_error (filled e rfl)
      · rename_i file w _
        have written := (w.files.failsWithin_writeFile path file.render).mono own
        unfold SourceFile.writeTo
        split
        · rename_i e files failed
          rw [failed] at written
          exact written
        · exact failsWithin_ok ()

theorem failsWithin_dispatch (rules : r.tables.FailWithin E)
    (own : ∀ e : Failure, e.OfDispatch → E e) (depth : Nat) :
    (r.dispatch depth).FailsWithin E := by
  induction depth with
  | zero =>
    intro c below w
    cases c with
    | emitDirectoryAt path d => exact below.elim
    | buildFragment acc d => exact failsWithin_error (own _ trivial)
    | emitFile file d => exact failsWithin_error (own _ trivial)
    | emitFileAt path d => exact failsWithin_error (own _ trivial)
  | succ depth within =>
    intro c below w
    rw [dispatch_succ]
    cases c with
    | emitDirectoryAt path d => exact below.elim
    | buildFragment acc d =>
      rw [answer, foldFragment_eq_run]
      exact failsWithin_fragmentScript
        (fun rule hr acc => rules.fragment _ rule hr r.inflector acc d) acc _ within w
    | emitFile file d => exact failsWithin_fillFile rules within file d w
    | emitFileAt path d =>
      exact failsWithin_writeFileOf own (fun file => failsWithin_fillFile rules within file d) path w

theorem failsWithin_emitFileAt {k : V.Kind} (rules : r.tables.FailWithin E)
    (own : ∀ e : Failure, e.OfDispatch → E e) (path : Path) (d : V.Descriptor k) (w : World) :
    FailsWithin E (r.emitFileAt path d w).1 :=
  failsWithin_dispatch rules own depthLimit (.emitFileAt path d) trivial w

theorem failsWithin_emitDirectoryAt {k : V.Kind} (rules : r.tables.FailWithin E)
    (own : ∀ e : Failure, e.OfDispatch → E e) {path : Path} {d : V.Descriptor k}
    (bodies : ∀ rule ∈ r.tables.directory.rulesFor k, (rule.body r.inflector path d).FailsWithin E)
    (w : World) : FailsWithin E (r.emitDirectoryAt path d w).1 := by
  have ensured := (w.files.failsWithin_ensureDirectory path).mono own
  change FailsWithin E (r.fillDirectoryOf (r.dispatch (depthLimit - 1)) path d w).1
  unfold fillDirectoryOf
  split
  · rename_i e files failed
    rw [failed] at ensured
    exact ensured
  · rw [fillDirectory_eq_run]
    exact failsWithin_directoryScript bodies _ (failsWithin_dispatch rules own (depthLimit - 1)) _

end Registry
end Rules
end Scaffold
