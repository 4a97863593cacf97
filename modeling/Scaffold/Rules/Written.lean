import Scaffold.Rules.Rule

/-! Rules written as lists of actions. The actions of a rule run in order and the first failure
stops them. A descriptor enters an action by its label alone; descriptors that an action dispatches
to are part of the action. -/

namespace Scaffold.Rules
open Code

structure Target (V : Vocabulary) where
  {kind : V.Kind}
  descriptor : V.Descriptor kind

inductive FragmentAction (V : Vocabulary)
  | fail (what : String)
  | push (item : String)
  /-- Pushes a text followed by the label. -/
  | pushLabel (lead : String)
  /-- Pushes a text followed by the number of items so far. -/
  | pushSize (lead : String)
  | pushPlural (word : String)
  | pushSnake (word : String)
  | bind (slot value : String)
  | pushBinding (slot : String)
  /-- Appends the items of a fragment built from nothing. -/
  | appendFragment (target : Target V)
  /-- Appends the items of a fragment built with the slots bound so far. -/
  | inheritFragment (target : Target V)
  /-- Goes on with what the rules for another descriptor make of the fragment. -/
  | throughFragment (target : Target V)
  | reset

inductive FileAction (V : Vocabulary)
  | fail (what : String)
  | add (item : String)
  | addLabel (lead : String)
  | use (path : String)
  | setHeader (header : String)
  /-- Adds the text of a fragment built from nothing. -/
  | addFragment (target : Target V) (indent : Nat) (terminator : String)
  | emitFile (target : Target V)

/-- The path of a directory action continues the directory; `{name}` stands for the label. -/
inductive DirectoryAction (V : Vocabulary)
  | fail (what : String)
  | emitFileAt (rest : String) (target : Target V)
  | emitDirectoryAt (rest : String) (target : Target V)

variable {V : Vocabulary}

namespace FragmentAction

def run (inflector : Inflector) (label : String) (acc : Fragment) :
    FragmentAction V → Script V Fragment
  | fail what => throw (.unsupported what)
  | push item => pure (acc.push item)
  | pushLabel lead => pure (acc.push (lead ++ label))
  | pushSize lead => pure (acc.push (lead ++ toString acc.size))
  | pushPlural word => pure (acc.push (inflector.plural word))
  | pushSnake word => pure (acc.push (inflector.snake word))
  | bind slot value => pure (acc.bind slot value)
  | pushBinding slot => do
    let value ← acc.binding slot
    pure (acc.push value)
  | appendFragment target => do
    let built ← Script.buildFragment .empty target.descriptor
    pure (acc.append built)
  | inheritFragment target => do
    let built ← Script.buildFragment (.inheriting acc) target.descriptor
    pure (acc.append built)
  | throughFragment target => Script.buildFragment acc target.descriptor
  | reset => pure .empty

def body {k : V.Kind} (label : V.Descriptor k → String) (actions : List (FragmentAction V)) :
    FragmentBody V k :=
  fun inflector acc d => actions.foldlM (fun acc a => a.run inflector (label d) acc) acc

end FragmentAction

namespace FileAction

def run (label : String) : FileAction V → FileScript V Unit
  | fail what => throw (.unsupported what)
  | add item => FileScript.add item
  | addLabel lead => FileScript.add (lead ++ label)
  | use path => FileScript.use path
  | setHeader header => FileScript.setHeader header
  | addFragment target indent terminator => do
    let built ← FileScript.buildFragment .empty target.descriptor
    FileScript.add (built.render indent terminator)
  | emitFile target => FileScript.emitFile target.descriptor

def body {k : V.Kind} (label : V.Descriptor k → String) (actions : List (FileAction V)) :
    FileBody V k :=
  fun _ d => actions.forM (run (label d))

end FileAction

namespace DirectoryAction

/-- The path that an action of a descriptor with a label means. -/
def target (directory : Path) (label rest : String) : Path :=
  directory.join (rest.replace "\x7bname\x7d" label)

def run (directory : Path) (label : String) : DirectoryAction V → Script V Unit
  | fail what => throw (.unsupported what)
  | emitFileAt rest d => Script.emitFileAt (target directory label rest) d.descriptor
  | emitDirectoryAt rest d => Script.emitDirectoryAt (target directory label rest) d.descriptor

def body {k : V.Kind} (label : V.Descriptor k → String) (actions : List (DirectoryAction V)) :
    DirectoryBody V k :=
  fun _ directory d => actions.forM (run directory (label d))

end DirectoryAction
end Scaffold.Rules
