import Scaffold.Text.Letters
import Scaffold.Text.SetReader

/-! Reading patterns. A character stands for itself unless it is one of the signs of the notation:
`|` separates alternatives, `*`, `+` and `?` repeat what is before them, a `.` is any character but
a line end, brackets hold sets, parentheses group, `^` and `$` are the ends of the text, and a
backslash opens an escape. Options in parentheses hold up to the end of the group. A brace would
count repetitions, which the notation lacks, and is refused; so is what is nested too deeply. -/

namespace Scaffold.Text.PatternReader

/-! ## Groups -/

inductive GroupHead
  /-- A group with options of its own. -/
  | group (options : PatternOptions)
  /-- Options for what comes after. -/
  | setting (options : PatternOptions)

def setOption? (options : PatternOptions) (on : Bool) (c : Char) : Option PatternOptions :=
  if c == 'i' then some { options with fold := on }
  else if c == 'm' then some { options with lines := on }
  else if c == 's' then some { options with dotAll := on }
  else if c == 'U' then some { options with swap := on }
  else if c == 'x' then some { options with spaced := on }
  else if c == 'R' then some { options with returns := on }
  else if c == 'u' then some { options with asciiSets := !on }
  else none

/-- Options after `(?`, each of them at most once. -/
def optionLetters? (options : PatternOptions) (on : Bool) (met : List Char) :
    List Char → Option (GroupHead × List Char)
  | [] => none
  | c :: rest =>
    if c == ':' then if met.head? == some '-' then none else some (.group options, rest)
    else if c == ')' then
      if met.isEmpty || met.head? == some '-' then none else some (.setting options, rest)
    else if met.contains c then none
    else if c == '-' then optionLetters? options false (c :: met) rest
    else match setOption? options on c with
      | some options => optionLetters? options on (c :: met) rest
      | none => none

def isNameStart (c : Char) : Bool :=
  c == '_' || Letters.isAlphabetic c

def isNameChar (c : Char) : Bool :=
  c == '_' || c == '.' || c == '[' || c == ']' || Letters.isAlphanumeric c

def groupName? (cs : List Char) : Option (List Char × List Char) :=
  match cs.span (· != '>') with
  | (c :: name, _ :: rest) =>
    if isNameStart c && name.all isNameChar then some (c :: name, rest) else none
  | _ => none

def groupHead? (options : PatternOptions) :
    List Char → Option (GroupHead × Option (List Char) × List Char)
  | '?' :: 'P' :: '<' :: rest =>
    (groupName? rest).map fun named => (.group options, some named.1, named.2)
  | '?' :: '<' :: rest => (groupName? rest).map fun named => (.group options, some named.1, named.2)
  | '?' :: rest => (optionLetters? options true [] rest).map fun head => (head.1, none, head.2)
  | rest => some (.group options, none, rest)

/-! ## Patterns -/

structure Progress where
  options : PatternOptions
  /-- The alternatives before the last `|`, the latest first. -/
  before : List (Nested Pattern) := []
  /-- The parts since then, the latest first. -/
  parts : List (Nested Pattern) := []
  /-- Whether the last part can be repeated. -/
  repeatable : Bool := false

namespace Progress

def push (s : Progress) (p : Nested Pattern) : Progress :=
  { s with parts := p :: s.parts, repeatable := true }

/-- Other options for what comes next. They are a part that is empty. -/
def set (s : Progress) (options : PatternOptions) : Progress :=
  { s with options := options, parts := ⟨.empty, 0⟩ :: s.parts, repeatable := false }

def row (s : Progress) : Nested Pattern :=
  .ofRow Pattern.ofParts s.parts.reverse

def branch (s : Progress) : Progress :=
  { s with before := s.row :: s.before, parts := [], repeatable := false }

def alternatives : List Pattern → Pattern
  | [] => .empty
  | [p] => p
  | p :: rest => .either p (alternatives rest)

def finish (s : Progress) : Nested Pattern :=
  .ofRow alternatives (s.row :: s.before).reverse

def repeat? (s : Progress) (sign : Char) (lazy : Bool) : Option Progress :=
  match s.repeatable, s.parts with
  | true, p :: rest =>
    let greedy := lazy == s.options.swap
    let rounds : Pattern → Pattern :=
      if sign == '*' then .anyTimes greedy
      else if sign == '+' then .atLeastOnce greedy
      else .atMostOnce greedy
    some { s with parts := p.wrap rounds :: rest }
  | _, _ => none

end Progress

def dot? (options : PatternOptions) : Option Pattern :=
  if options.asciiSets then none
  else if options.dotAll then some (.one .any)
  else if options.returns then some (.one (.negated (.union (.single '\n') (.single '\r'))))
  else some (.one (.negated (.single '\n')))

def literal? (options : PatternOptions) (c : Char) : Option Pattern :=
  (options.letters? (.single c)).map .one

/-- The pattern of a character that is no sign, or of a sign that stands for a set or an edge. -/
def plain? (options : PatternOptions) (c : Char) : Option Pattern :=
  if c == '.' then dot? options
  else if c == '^' then
    some (.edge (if !options.lines then .textStart
      else if options.returns then .returnedLineStart else .lineStart))
  else if c == '$' then
    some (.edge (if !options.lines then .textEnd
      else if options.returns then .returnedLineEnd else .lineEnd))
  else literal? options c

def ofEscape? (options : PatternOptions) : SetReader.Escape → Option Pattern
  | .literal c => literal? options c
  | .set s => some (.one s)
  | .edge e => some (.edge e)

/-- Reads up to the end of the group or of the text. The names of groups met so far are carried
along, for none may be given twice. -/
def read? : Nat → List (List Char) → Progress → List Char →
    Option (Nested Pattern × List (List Char) × List Char)
  | 0, _, _, _ => none
  | steps + 1, names, s, cs =>
    match s.options.skip cs with
    | [] => some (s.finish, names, [])
    | c :: rest =>
      if c == ')' then some (s.finish, names, c :: rest)
      else if c == '|' then read? steps names s.branch rest
      else if c == '*' || c == '+' || c == '?' then
        let lazy := rest.head? == some '?'
        match s.repeat? c lazy with
        | some s => read? steps names s (if lazy then rest.drop 1 else rest)
        | none => none
      else if c == '(' then
        match groupHead? s.options (s.options.skip rest) with
        | none => none
        | some (.setting options, _, rest) => read? steps names (s.set options) rest
        | some (.group options, name?, rest) =>
          if name?.any names.contains then none
          else match read? steps (name?.toList ++ names) { options := options } rest with
            | some (p, names, ')' :: rest) => read? steps names (s.push (p.wrap id)) rest
            | _ => none
      else if c == '[' then
        match SetReader.set? s.options (rest.length + 1) rest with
        | some (set, rest) => read? steps names (s.push ⟨.one set.value, set.depth⟩) rest
        | none => none
      else if c == '\\' then
        match SetReader.escape? s.options rest with
        | some (e, rest) =>
          match ofEscape? s.options e with
          | some p => read? steps names (s.push ⟨p, 0⟩) rest
          | none => none
        | none => none
      else if c == '\x7b' then none
      else match plain? s.options c with
        | some p => read? steps names (s.push ⟨p, 0⟩) rest
        | none => none

def depthLimit : Nat := 250

end PatternReader

def Pattern.read? (text : String) : Option Pattern :=
  match PatternReader.read? (text.toList.length + 1) [] { options := {} } text.toList with
  | some (p, _, []) => if p.depth ≤ PatternReader.depthLimit then some p.value else none
  | _ => none

end Scaffold.Text
