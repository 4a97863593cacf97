import Scaffold.Files.FileTree

/-! A tree as a list of paths and texts. Bytes that are no UTF-8 text are shown by the replacement
character, one for each longest start of a character that is not completed. -/

namespace Scaffold.Files

/-- What a decoder expects next: the bits so far, the number of bytes to come, and the range that
the next one must be in. -/
structure Pending where
  bits : Nat
  missing : Nat
  low : Nat
  high : Nat

def replacement : Char := Char.ofNat 0xFFFD

def startChar (b : Nat) : Char ⊕ Pending :=
  if b < 0x80 then .inl (Char.ofNat b)
  else if b < 0xC2 then .inl replacement
  else if b < 0xE0 then .inr ⟨b - 0xC0, 1, 0x80, 0xBF⟩
  else if b < 0xF0 then
    .inr ⟨b - 0xE0, 2, if b == 0xE0 then 0xA0 else 0x80, if b == 0xED then 0x9F else 0xBF⟩
  else if b < 0xF5 then
    .inr ⟨b - 0xF0, 3, if b == 0xF0 then 0x90 else 0x80, if b == 0xF4 then 0x8F else 0xBF⟩
  else .inl replacement

def decodeAfter (pending? : Option Pending) : List Nat → List Char
  | [] => if pending?.isSome then [replacement] else []
  | b :: rest =>
    let start (before : List Char) : List Char :=
      before ++ match startChar b with
        | .inl c => c :: decodeAfter none rest
        | .inr p => decodeAfter (some p) rest
    match pending? with
    | none => start []
    | some p =>
      if p.low ≤ b && b ≤ p.high then
        let bits := p.bits * 64 + (b - 0x80)
        if p.missing ≤ 1 then Char.ofNat bits :: decodeAfter none rest
        else decodeAfter (some ⟨bits, p.missing - 1, 0x80, 0xBF⟩) rest
      else start [replacement]

/-- The text of bytes, with replacement characters where there is none. -/
def decode (content : ByteArray) : String :=
  match String.fromUTF8? content with
  | some text => text
  | none => String.ofList (decodeAfter none (content.toList.map UInt8.toNat))

namespace FileTree

def pathOf (location : Location) : String :=
  "/".intercalate location

/-- Every entry below the root by its path, in increasing order; directories have no text. -/
def listing (t : FileTree) : List (String × Option String) :=
  (t.entries.map fun e => (pathOf e.1, match e.2 with
    | .directory => none
    | .file content => some (decode content))).mergeSort fun a b => a.1 ≤ b.1

/-- A tree with directories and files put in one after the other, the directories above them
included; what is refused is left out. -/
def furnish (t : FileTree) (path : Path) (content? : Option ByteArray) : FileTree :=
  match content? with
  | none => (t.makeDirectoryPath path).2
  | some content =>
    let t := match path.parent? with
      | some parent => (t.makeDirectoryPath parent).2
      | none => t
    match t.write path content with
    | .ok t => t
    | .error _ => t

end FileTree
end Scaffold.Files
