import Scaffold.Toml.Draft
import Scaffold.Toml.Quoted
import Scaffold.Toml.Scalar

/-! Reading TOML documents. A document is a sequence of lines: blank ones, headers, and keys with
their values; lists and inline tables may be nested and keys may be dotted up to a fixed depth. A
text that is no document gives nothing: what is wrong with it is not told. -/

namespace Scaffold.Toml.Reader

/-- Lists and tables nest, and keys are dotted, less deep than this. -/
def depthLimit : Nat := 79

def skipBlanks (cs : List Char) : List Char :=
  cs.dropWhile Quoted.isBlank

def isCommentChar (c : Char) : Bool :=
  Quoted.isPlain c

/-- What follows the end of a line, if the line has nothing but blanks and a comment left. -/
def lineEnd? (cs : List Char) : Option (List Char) :=
  let rest := match skipBlanks cs with
    | '#' :: comment => comment.dropWhile isCommentChar
    | rest => rest
  match rest with
  | [] => some []
  | '\n' :: rest => some rest
  | '\r' :: '\n' :: rest => some rest
  | _ => none

/-- Skips blanks, line ends and comments; a comment has to end. -/
def skipGap (inComment : Bool) : List Char → Option (List Char)
  | [] => if inComment then none else some []
  | '\n' :: rest => skipGap false rest
  | '\r' :: '\n' :: rest => skipGap false rest
  | c :: rest =>
    if inComment then if isCommentChar c then skipGap true rest else none
    else if Quoted.isBlank c then skipGap false rest
    else if c == '#' then skipGap true rest
    else some (c :: rest)

def isKeyChar (c : Char) : Bool :=
  c.isAlphanum || c == '_' || c == '-'

def key? : List Char → Option (String × List Char)
  | [] => none
  | c :: rest =>
    if c == '"' || c.toNat == 0x27 then Quoted.readLine c rest
    else if isKeyChar c then
      some (String.ofList ((c :: rest).takeWhile isKeyChar), (c :: rest).dropWhile isKeyChar)
    else none

def keyPath? : Nat → List Char → Option (List String × List Char)
  | 0, _ => none
  | depth + 1, cs => do
    let (key, rest) ← key? (skipBlanks cs)
    match skipBlanks rest with
    | '.' :: rest =>
      let (keys, rest) ← keyPath? depth rest
      some (key :: keys, rest)
    | rest => some ([key], rest)

abbrev ValueReader := List Char → Option (Value × List Char)

def pair? (value : ValueReader) (cs : List Char) : Option ((List String × Value) × List Char) := do
  let (path, rest) ← keyPath? depthLimit cs
  match rest with
  | '=' :: rest =>
    let (v, rest) ← value (skipBlanks rest)
    some ((path, v), rest)
  | _ => none

def items? (value : ValueReader) : Nat → List Char → Option (List Value × List Char)
  | 0, _ => none
  | fuel + 1, cs =>
    match skipGap false cs with
    | none => none
    | some (']' :: rest) => some ([], rest)
    | some cs =>
      match value cs with
      | none => none
      | some (v, rest) =>
        match skipGap false rest with
        | some (',' :: rest) => (items? value fuel rest).map fun r => (v :: r.1, r.2)
        | some (']' :: rest) => some ([v], rest)
        | _ => none

/-- The pairs of an inline table, the first of which is there. -/
def pairs? (value : ValueReader) : Nat → List Char → Option (List (List String × Value) × List Char)
  | 0, _ => none
  | fuel + 1, cs =>
    match pair? value cs with
    | none => none
    | some (p, rest) =>
      match skipBlanks rest with
      | ',' :: rest => (pairs? value fuel rest).map fun r => (p :: r.1, r.2)
      | '\x7d' :: rest => some ([p], rest)
      | _ => none

def assignPair (fields : Draft.Fields) (pair : List String × Value) : Option Draft.Fields :=
  let (dotted, key) := Draft.splitLast pair.1
  Draft.assign dotted key pair.2 fields

def tableOf? (pairs : List (List String × Value)) : Option Value :=
  (pairs.foldlM assignPair []).map fun fields => .table (Draft.toFields fields)

def inlineTable? (value : ValueReader) (cs : List Char) : Option (Value × List Char) :=
  match skipBlanks cs with
  | '\x7d' :: rest => some (.table [], rest)
  | cs => do
    let (pairs, rest) ← pairs? value (cs.length + 1) cs
    let table ← tableOf? pairs
    some (table, rest)

def value? : Nat → ValueReader
  | depth, cs =>
    match cs with
    | [] => none
    | c :: rest =>
      if c == '"' || c.toNat == 0x27 then (Quoted.read c rest).map fun r => (.text r.1, r.2)
      else if c == '[' then
        match depth with
        | 0 => none
        | depth + 1 =>
          (items? (value? depth) (rest.length + 1) rest).map fun r => (.list r.1, r.2)
      else if c == '\x7b' then
        match depth with
        | 0 => none
        | depth + 1 => inlineTable? (value? depth) rest
      else
        let (word, rest) := Scalar.word cs
        (Scalar.value? word).map fun v => (v, rest)

/-- What has been read of a document: its tables, and the path of the header read last. -/
structure Progress where
  root : Draft.Fields := []
  path : List String := []

def header? (s : Progress) (cs : List Char) : Option (Progress × List Char) := do
  let (path, rest) ← keyPath? depthLimit cs
  match rest with
  | ']' :: rest =>
    let rest ← lineEnd? rest
    let (before, key) := Draft.splitLast path
    let root ← Draft.within before (Draft.openTable key) s.root
    some (⟨root, path⟩, rest)
  | _ => none

def repeatedHeader? (s : Progress) (cs : List Char) : Option (Progress × List Char) := do
  let (path, rest) ← keyPath? depthLimit cs
  match rest with
  | ']' :: ']' :: rest =>
    let rest ← lineEnd? rest
    let (before, key) := Draft.splitLast path
    let root ← Draft.within before (Draft.openElement key) s.root
    some (⟨root, path⟩, rest)
  | _ => none

def assignment? (s : Progress) (cs : List Char) : Option (Progress × List Char) := do
  let ((path, v), rest) ← pair? (value? depthLimit) cs
  let rest ← lineEnd? rest
  let (dotted, key) := Draft.splitLast path
  let root ← Draft.within s.path (Draft.assign dotted key v) s.root
  some ({ s with root := root }, rest)

def line? (s : Progress) (cs : List Char) : Option (Progress × List Char) :=
  match cs with
  | '[' :: '[' :: rest => repeatedHeader? s rest
  | '[' :: rest => header? s rest
  | c :: _ =>
    if c == '#' || c == '\n' || c == '\r' then (lineEnd? cs).map fun rest => (s, rest)
    else assignment? s cs
  | [] => none

/-- Reads lines to the end of the document. Every line takes a character. -/
def lines? : Nat → Progress → List Char → Option Progress
  | 0, _, _ => none
  | fuel + 1, s, cs =>
    match skipBlanks cs with
    | [] => some s
    | cs =>
      match line? s cs with
      | none => none
      | some (s, rest) => lines? fuel s rest

/-- A byte order mark at the start is no part of the document. -/
def withoutMark : List Char → List Char
  | c :: rest => if c.toNat == 0xFEFF then rest else c :: rest
  | [] => []

end Reader

def read? (text : String) : Option (List (String × Value)) :=
  let cs := Reader.withoutMark text.toList
  (Reader.lines? (cs.length + 1) {} cs).map fun s => Draft.toFields s.root

end Scaffold.Toml
