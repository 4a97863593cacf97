import Scaffold.Code.Fragment
import Scaffold.Code.SourceFile

/-! What the bodies of rules may do. A body computes on its own, and it calls back into the registry
it was started from: to fold a fragment, to fill a source file, to write a file or to fill a
directory. A program is the tree of these calls, each followed by what is done with its answer, so
that a body has no other effect and everything that it does can be followed call by call. -/

namespace Scaffold.Rules
open Code

/-- The things that rules generate code for: kinds of descriptors, the name of each kind, and the
module that a descriptor is written in, if it has one. -/
structure Vocabulary where
  Kind : Type
  Descriptor : Kind → Type
  title : Kind → String
  package? : (k : Kind) → Descriptor k → Option String
  kindEq : DecidableEq Kind

instance (V : Vocabulary) : DecidableEq V.Kind := V.kindEq

inductive Call (V : Vocabulary)
  | buildFragment {k : V.Kind} (acc : Fragment) (d : V.Descriptor k)
  | emitFile {k : V.Kind} (file : SourceFile) (d : V.Descriptor k)
  | emitFileAt {k : V.Kind} (path : Path) (d : V.Descriptor k)
  | emitDirectoryAt {k : V.Kind} (path : Path) (d : V.Descriptor k)

/-- The type of the answer to a call. A source file is returned as far as it got. -/
abbrev Call.Answer {V : Vocabulary} : Call V → Type
  | .buildFragment .. => Except Failure Fragment
  | .emitFile .. => Except Failure Unit × SourceFile
  | .emitFileAt .. => Except Failure Unit
  | .emitDirectoryAt .. => Except Failure Unit

inductive Program (V : Vocabulary) (α : Type)
  | done (result : α)
  | ask (call : Call V) (next : call.Answer → Program V α)

namespace Program
variable {V : Vocabulary} {α β γ : Type}

def andThen : Program V α → (α → Program V β) → Program V β
  | done a, f => f a
  | ask call next, f => ask call fun answer => (next answer).andThen f

instance : Monad (Program V) where
  pure := done
  bind := andThen

@[simp] theorem pure_eq (a : α) : (pure a : Program V α) = done a := rfl

@[simp] theorem bind_done (a : α) (f : α → Program V β) : (done a : Program V α) >>= f = f a := rfl

@[simp] theorem bind_ask (call : Call V) (next : call.Answer → Program V α)
    (f : α → Program V β) :
    (ask call next : Program V α) >>= f = ask call fun answer => next answer >>= f := rfl

theorem andThen_done (p : Program V α) : p.andThen done = p := by
  induction p with
  | done a => rfl
  | ask call next ih => simp only [andThen, ih]

theorem andThen_assoc (p : Program V α) (f : α → Program V β) (g : β → Program V γ) :
    (p.andThen f).andThen g = p.andThen fun a => (f a).andThen g := by
  induction p with
  | done a => rfl
  | ask call next ih => simp only [andThen, ih]

instance : LawfulMonad (Program V) := LawfulMonad.mk' (Program V) andThen_done (fun _ _ => rfl)
  (fun p f g => andThen_assoc p f g)

def call (c : Call V) : Program V c.Answer :=
  ask c done

end Program

abbrev Script (V : Vocabulary) := ExceptT Failure (Program V)

/-- Programs that fill a source file and may fail; what was added before a failure stays. -/
abbrev FileScript (V : Vocabulary) := ExceptT Failure (StateT SourceFile (Program V))

instance : MonadLift (Except KeyFault) (Except Failure) := ⟨Except.mapError .key⟩

instance : MonadLift (Except BagFault) (Except Failure) := ⟨Except.mapError .bag⟩

instance {m : Type → Type} [Monad m] : MonadLift (Except Failure) (ExceptT Failure m) :=
  ⟨fun e => ExceptT.mk (pure e)⟩

namespace Script
variable {V : Vocabulary} {k : V.Kind}

def buildFragment (acc : Fragment) (d : V.Descriptor k) : Script V Fragment :=
  ExceptT.mk (Program.call (.buildFragment acc d))

def emitFileAt (path : Path) (d : V.Descriptor k) : Script V Unit :=
  ExceptT.mk (Program.call (.emitFileAt path d))

def emitDirectoryAt (path : Path) (d : V.Descriptor k) : Script V Unit :=
  ExceptT.mk (Program.call (.emitDirectoryAt path d))

end Script

namespace FileScript
variable {V : Vocabulary} {k : V.Kind}

def buildFragment (acc : Fragment) (d : V.Descriptor k) : FileScript V Fragment :=
  ExceptT.mk (StateT.lift (Program.call (.buildFragment acc d)))

def emitFile (d : V.Descriptor k) : FileScript V Unit :=
  ExceptT.mk fun file => Program.call (.emitFile file d)

def change (f : SourceFile → SourceFile) : FileScript V Unit :=
  ExceptT.mk fun file => pure (.ok (), f file)

def add (item : String) : FileScript V Unit :=
  change fun file => file.add item

def use (path : String) : FileScript V Unit :=
  change fun file => file.use path

def setHeader (header : String) : FileScript V Unit :=
  change fun file => file.setHeader header

end FileScript
end Scaffold.Rules
