import Scaffold.Proofs.Rules.Sequences

/-! The calls that programs may make. A program asks within a set of calls when every call that it
can reach, whatever it was answered before, is in the set. Two handlers that answer the calls of the
set alike, up to a relation between their worlds, cannot be told apart by such a program, nor by
rules in sequence whose bodies are such programs. -/

namespace Scaffold.Rules
open Code Files

/-- Every call that the program can reach is in the set. -/
def Program.Asks {V : Vocabulary} {α : Type} (P : Call V → Prop) : Program V α → Prop
  | .done _ => True
  | .ask c next => P c ∧ ∀ answer, (next answer).Asks P

/-- Handlers with the same answers to the calls of a set, and with worlds that stay related. -/
def Handler.Agree {V : Vocabulary} (P : Call V → Prop) (R : World → World → Prop)
    (handle other : Handler V) : Prop :=
  ∀ c, P c → ∀ w w', R w w' → (handle c w).1 = (other c w').1 ∧ R (handle c w).2 (other c w').2

section Programs
variable {V : Vocabulary} {α β : Type} {P Q : Call V → Prop} {R : World → World → Prop}
  {handle other : Handler V}

@[simp] theorem Program.asks_done (a : α) : (Program.done a : Program V α).Asks P := trivial

@[simp] theorem Program.asks_ask (c : Call V) (next : c.Answer → Program V α) :
    (Program.ask c next).Asks P ↔ P c ∧ ∀ answer, (next answer).Asks P := Iff.rfl

theorem Program.Asks.mono {p : Program V α} (h : p.Asks P) (sub : ∀ c, P c → Q c) :
    p.Asks Q := by
  induction p with
  | done a => trivial
  | ask c next ih => exact ⟨sub c h.1, fun answer => ih answer (h.2 answer)⟩

theorem Program.Asks.bind {p : Program V α} {f : α → Program V β} (hp : p.Asks P)
    (hf : ∀ a, (f a).Asks P) : (p >>= f).Asks P := by
  induction p with
  | done a => exact hf a
  | ask c next ih => exact ⟨hp.1, fun answer => ih answer (hp.2 answer)⟩

theorem Program.asks_true (p : Program V α) : p.Asks fun _ => True := by
  induction p with
  | done a => trivial
  | ask c next ih => exact ⟨trivial, ih⟩

theorem Program.run_agree (agree : Handler.Agree P R handle other) {p : Program V α}
    (asks : p.Asks P) {w w' : World} (related : R w w') :
    (p.run handle w).1 = (p.run other w').1 ∧ R (p.run handle w).2 (p.run other w').2 := by
  induction p generalizing w w' with
  | done a => exact ⟨rfl, related⟩
  | ask c next ih =>
    obtain ⟨same, after⟩ := agree c asks.1 w w' related
    have rest := ih (handle c w).1 (asks.2 _) after
    rw [Program.run_ask, Program.run_ask, ← same]
    exact rest

end Programs

/-! ## Scripts -/

def Script.Asks {V : Vocabulary} {α : Type} (P : Call V → Prop) (s : Script V α) : Prop :=
  s.run.Asks P

/-- A script for a source file asks within a set when it does for every state of the file. -/
def FileScript.Asks {V : Vocabulary} {α : Type} (P : Call V → Prop) (s : FileScript V α) : Prop :=
  ∀ file, (s.run.run file).Asks P

namespace Script
variable {V : Vocabulary} {α β : Type} {P Q : Call V → Prop} {k : V.Kind}

theorem asks_pure (a : α) : (pure a : Script V α).Asks P := trivial

theorem asks_lift (e : Except Failure α) : (monadLift e : Script V α).Asks P := trivial

theorem Asks.bind {s : Script V α} {f : α → Script V β} (hs : s.Asks P)
    (hf : ∀ a, (f a).Asks P) : (s >>= f).Asks P := by
  refine Program.Asks.bind hs fun result => ?_
  cases result with
  | error e => trivial
  | ok a => exact hf a

theorem Asks.mono {s : Script V α} (h : s.Asks P) (sub : ∀ c, P c → Q c) : s.Asks Q :=
  Program.Asks.mono h sub

theorem asks_foldlM {γ : Type} {f : β → γ → Script V β} {list : List γ}
    (h : ∀ c ∈ list, ∀ b, (f b c).Asks P) (b : β) : (list.foldlM f b).Asks P := by
  induction list generalizing b with
  | nil => exact asks_pure b
  | cons c rest ih =>
    rw [List.foldlM_cons]
    exact (h c List.mem_cons_self b).bind (ih fun c hc => h c (List.mem_cons_of_mem _ hc))

theorem asks_forM {γ : Type} {f : γ → Script V Unit} {list : List γ}
    (h : ∀ c ∈ list, (f c).Asks P) : (list.forM f).Asks P := by
  induction list with
  | nil => exact asks_pure ()
  | cons c rest ih =>
    exact (h c List.mem_cons_self).bind fun _ => ih fun c hc => h c (List.mem_cons_of_mem _ hc)

theorem asks_buildFragment (acc : Fragment) (d : V.Descriptor k) (h : P (.buildFragment acc d)) :
    (Script.buildFragment acc d).Asks P := ⟨h, fun _ => trivial⟩

end Script

namespace FileScript
variable {V : Vocabulary} {α β : Type} {P Q : Call V → Prop} {k : V.Kind}

theorem asks_pure (a : α) : (pure a : FileScript V α).Asks P := fun _ => trivial

theorem asks_lift (e : Except Failure α) : (monadLift e : FileScript V α).Asks P :=
  fun _ => trivial

theorem Asks.bind {s : FileScript V α} {f : α → FileScript V β} (hs : s.Asks P)
    (hf : ∀ a, (f a).Asks P) : (s >>= f).Asks P := by
  intro file
  refine Program.Asks.bind (hs file) fun result => ?_
  obtain ⟨e | a, file⟩ := result
  · trivial
  · exact hf a file

theorem Asks.mono {s : FileScript V α} (h : s.Asks P) (sub : ∀ c, P c → Q c) : s.Asks Q :=
  fun file => (h file).mono sub

theorem asks_forM {γ : Type} {f : γ → FileScript V Unit} {list : List γ}
    (h : ∀ c ∈ list, (f c).Asks P) : (list.forM f).Asks P := by
  induction list with
  | nil => exact asks_pure ()
  | cons c rest ih =>
    exact (h c List.mem_cons_self).bind fun _ => ih fun c hc => h c (List.mem_cons_of_mem _ hc)

theorem asks_change (f : SourceFile → SourceFile) :
    (FileScript.change f : FileScript V Unit).Asks P :=
  fun _ => trivial

theorem asks_add (item : String) : (FileScript.add item : FileScript V Unit).Asks P :=
  asks_change _

theorem asks_use (path : String) : (FileScript.use path : FileScript V Unit).Asks P :=
  asks_change _

theorem asks_setHeader (header : String) :
    (FileScript.setHeader header : FileScript V Unit).Asks P :=
  asks_change _

theorem asks_buildFragment (acc : Fragment) (d : V.Descriptor k) (h : P (.buildFragment acc d)) :
    (FileScript.buildFragment acc d).Asks P := fun _ => ⟨h, fun _ => trivial⟩

theorem asks_emitFile (d : V.Descriptor k) (h : ∀ file, P (.emitFile file d)) :
    (FileScript.emitFile d).Asks P := fun file => ⟨h file, fun _ => trivial⟩

end FileScript

/-! ## Rules in sequence -/

section Sequences
variable {V : Vocabulary} {k : V.Kind} {P : Call V → Prop} {R : World → World → Prop}
  {handle other : Handler V} {inflector : Inflector} {d : V.Descriptor k}

theorem asks_fragmentScript {rules : List (Rule V (FragmentBody V) k)}
    (asks : ∀ rule ∈ rules, ∀ acc, (rule.body inflector acc d).Asks P) (acc : Fragment) :
    (fragmentScript inflector d rules acc).Asks P := by
  refine Script.asks_foldlM (fun rule hr acc => ?_) acc
  split
  · exact asks rule hr acc
  · exact Script.asks_pure acc

theorem asks_fileScript {rules : List (Rule V (FileBody V) k)}
    (asks : ∀ rule ∈ rules, (rule.body inflector d).Asks P) :
    (fileScript inflector d rules).Asks P := by
  refine FileScript.asks_forM fun rule hr => ?_
  split
  · exact asks rule hr
  · exact FileScript.asks_pure ()

theorem asks_directoryScript {path : Path} {rules : List (Rule V (DirectoryBody V) k)}
    (asks : ∀ rule ∈ rules, (rule.body inflector path d).Asks P) :
    (directoryScript inflector path d rules).Asks P := by
  refine Script.asks_forM fun rule hr => ?_
  split
  · exact asks rule hr
  · exact Script.asks_pure ()

theorem foldFragment_agree (agree : Handler.Agree P R handle other) (inflector : Inflector)
    (d : V.Descriptor k) {rules : List (Rule V (FragmentBody V) k)}
    (asks : ∀ rule ∈ rules, ∀ acc, (rule.body inflector acc d).Asks P) (acc : Fragment)
    {w w' : World} (related : R w w') :
    (foldFragment handle inflector d rules acc w).1 =
        (foldFragment other inflector d rules acc w').1 ∧
      R (foldFragment handle inflector d rules acc w).2
        (foldFragment other inflector d rules acc w').2 := by
  rw [foldFragment_eq_run, foldFragment_eq_run]
  exact Program.run_agree agree (asks_fragmentScript asks acc) related

theorem fillFile_agree (agree : Handler.Agree P R handle other) (inflector : Inflector)
    (d : V.Descriptor k) {rules : List (Rule V (FileBody V) k)}
    (asks : ∀ rule ∈ rules, (rule.body inflector d).Asks P) (file : SourceFile)
    {w w' : World} (related : R w w') :
    (fillFile handle inflector d rules file w).1 = (fillFile other inflector d rules file w').1 ∧
      R (fillFile handle inflector d rules file w).2
        (fillFile other inflector d rules file w').2 := by
  rw [fillFile_eq_run, fillFile_eq_run]
  exact Program.run_agree agree (asks_fileScript asks file) related

theorem fillDirectory_agree (agree : Handler.Agree P R handle other) (inflector : Inflector)
    (path : Path) (d : V.Descriptor k) {rules : List (Rule V (DirectoryBody V) k)}
    (asks : ∀ rule ∈ rules, (rule.body inflector path d).Asks P) {w w' : World}
    (related : R w w') :
    (fillDirectory handle inflector path d rules w).1 =
        (fillDirectory other inflector path d rules w').1 ∧
      R (fillDirectory handle inflector path d rules w).2
        (fillDirectory other inflector path d rules w').2 := by
  rw [fillDirectory_eq_run, fillDirectory_eq_run]
  exact Program.run_agree agree (asks_directoryScript asks) related

end Sequences
end Scaffold.Rules
