import Scaffold.Failure

/-! A file system as a value. A location is the list of names from the root to an entry; the tree
holds the entries below the root, which is a directory itself and the parent of itself. A relative
path starts at the root too, which stands for the working directory. Every operation walks its path
step by step, so a path through a file, through something missing or through a name that is too long
is refused for the reason met first. There are no links, and an operation that is refused changes
nothing. -/

namespace Scaffold.Files

abbrev Location := List String

inductive Node
  | directory
  | file (content : ByteArray)

instance : DecidableEq Node
  | .directory, .directory => isTrue rfl
  | .directory, .file _ => isFalse nofun
  | .file _, .directory => isFalse nofun
  | .file a, .file b =>
    match ByteArray.instDecidableEq a b with
    | isTrue h => isTrue (congrArg Node.file h)
    | isFalse h => isFalse fun e => h (Node.file.inj e)

structure FileTree where
  entries : List (Location × Node)

namespace FileTree

def empty : FileTree := ⟨[]⟩

instance : Inhabited FileTree := ⟨empty⟩

def search (location : Location) : List (Location × Node) → Option Node
  | [] => none
  | (l, n) :: rest => if location = l then some n else search location rest

/-- The entry at a location; the root is always a directory. -/
def node? (t : FileTree) (location : Location) : Option Node :=
  if location = [] then some .directory else search location t.entries

/-- The list of entries with one entry put in, in place of what was at its location. -/
def place (location : Location) (n : Node) : List (Location × Node) → List (Location × Node)
  | [] => [(location, n)]
  | (l, m) :: rest => if location = l then (l, n) :: rest else (l, m) :: place location n rest

def put (t : FileTree) (location : Location) (n : Node) : FileTree :=
  ⟨place location n t.entries⟩

theorem search_place (location other : Location) (n : Node) (entries : List (Location × Node)) :
    search other (place location n entries) =
      if other = location then some n else search other entries := by
  induction entries with
  | nil => rfl
  | cons head rest ih =>
    obtain ⟨l, m⟩ := head
    simp only [place]
    split
    · rename_i h
      subst h
      simp only [search]
      split <;> rfl
    · rename_i h
      simp only [search, ih]
      split
      · rename_i h'
        rw [if_neg fun e => h (e.symm.trans h')]
      · rfl

theorem node?_put (t : FileTree) {location : Location} (h : location ≠ []) (n : Node)
    (other : Location) :
    (t.put location n).node? other = if other = location then some n else t.node? other := by
  simp only [node?, put, search_place]
  by_cases ho : other = []
  · subst ho
    simp [Ne.symm h]
  · simp [ho]

/-- The longest name of one entry, in bytes. -/
def nameLimit : Nat := 255

/-- A path text is shorter than this, in bytes. -/
def pathLimit : Nat := 4096

/-- Walks from a location; every step but the first must find a directory under it. -/
def walk (t : FileTree) (location : Location) : List Path.Step → Except FileFault Location
  | [] => .ok location
  | step :: rest =>
    match t.node? location with
    | none => .error .notFound
    | some (.file _) => .error .notADirectory
    | some .directory =>
      match step with
      | .stay => walk t location rest
      | .up => walk t location.dropLast rest
      | .child name =>
        if name.utf8ByteSize > nameLimit then .error .nameTooLong
        else match t.node? (location ++ [name]) with
          | none => .error .notFound
          | some _ => walk t (location ++ [name]) rest

def admit? (p : Path) : Except FileFault Unit :=
  if p.text.toList.contains (Char.ofNat 0) then .error .nulInName
  else if p.text.isEmpty then .error .notFound
  else if p.text.utf8ByteSize ≥ pathLimit then .error .nameTooLong
  else .ok ()

def resolve (t : FileTree) (p : Path) : Except FileFault Location :=
  match admit? p with
  | .error e => .error e
  | .ok () => t.walk [] p.steps

def status (t : FileTree) (p : Path) : Except FileFault Node :=
  match t.resolve p with
  | .error e => .error e
  | .ok location =>
    match t.node? location with
    | some n => .ok n
    | none => .error .notFound

def isDirectory (t : FileTree) (p : Path) : Bool :=
  match t.status p with
  | .ok .directory => true
  | _ => false

def isFile (t : FileTree) (p : Path) : Bool :=
  match t.status p with
  | .ok (.file _) => true
  | _ => false

def exists? (t : FileTree) (p : Path) : Bool :=
  match t.status p with
  | .ok _ => true
  | .error _ => false

/-- The directory in which a walk makes its last step, and that step. -/
def approach (t : FileTree) (steps : List Path.Step) : Except FileFault (Location × Path.Step) :=
  match t.walk [] steps.dropLast with
  | .error e => .error e
  | .ok location =>
    match t.node? location with
    | some .directory => .ok (location, steps.getLast?.getD .stay)
    | some (.file _) => .error .notADirectory
    | none => .error .notFound

def stepsWithoutSlash (p : Path) : List Path.Step :=
  ((p.pieces.reverse.dropWhile (· == "")).reverse).map Path.stepOf

def makeDirectory (t : FileTree) (p : Path) : Except FileFault FileTree :=
  match admit? p with
  | .error e => .error e
  | .ok () =>
    match t.approach (stepsWithoutSlash p) with
    | .error e => .error e
    | .ok (location, .child name) =>
      if name.utf8ByteSize > nameLimit then .error .nameTooLong
      else match t.node? (location ++ [name]) with
        | some _ => .error .alreadyExists
        | none => .ok (t.put (location ++ [name]) .directory)
    | .ok _ => .error .alreadyExists

/-- Makes a directory after the missing directories above it. Directories made before a refusal
stay. -/
def makeDirectories (t : FileTree) (p : Path) : Nat → Except FileFault Unit × FileTree
  | 0 => (.error .notFound, t)
  | depth + 1 =>
    if p.text.isEmpty then (.ok (), t)
    else match t.makeDirectory p with
      | .ok t => (.ok (), t)
      | .error .notFound =>
        match p.parent? with
        | none => (.error (.other "failed to create whole tree"), t)
        | some parent =>
          match makeDirectories t parent depth with
          | (.error e, t) => (.error e, t)
          | (.ok (), t) =>
            match t.makeDirectory p with
            | .ok t => (.ok (), t)
            | .error e => if t.isDirectory p then (.ok (), t) else (.error e, t)
      | .error e => if t.isDirectory p then (.ok (), t) else (.error e, t)

/-- Makes a directory after the missing directories above it. A path has fewer parents than
characters. -/
def makeDirectoryPath (t : FileTree) (p : Path) : Except FileFault Unit × FileTree :=
  t.makeDirectories p (p.text.length + 1)

def openForWriting (t : FileTree) (p : Path) : Except FileFault Location :=
  match admit? p with
  | .error e => .error e
  | .ok () =>
    match t.approach (stepsWithoutSlash p) with
    | .error e => .error e
    | .ok (location, .child name) =>
      if p.text.toList.getLast? == some '/' then .error .isADirectory
      else if name.utf8ByteSize > nameLimit then .error .nameTooLong
      else match t.node? (location ++ [name]) with
        | some .directory => .error .isADirectory
        | _ => .ok (location ++ [name])
    | .ok _ => .error .isADirectory

def write (t : FileTree) (p : Path) (content : ByteArray) : Except FileFault FileTree :=
  match t.openForWriting p with
  | .error e => .error e
  | .ok location => .ok (t.put location (.file content))

/-- Opens a file to add to its end: it is made when it is missing and else kept as it is. -/
def openForAppending (t : FileTree) (p : Path) : Except FileFault FileTree :=
  match t.openForWriting p with
  | .error e => .error e
  | .ok location =>
    match t.node? location with
    | some _ => .ok t
    | none => .ok (t.put location (.file ByteArray.empty))

def readText (t : FileTree) (p : Path) : Except FileFault String :=
  match t.status p with
  | .error e => .error e
  | .ok .directory => .error .isADirectory
  | .ok (.file content) =>
    match String.fromUTF8? content with
    | some text => .ok text
    | none => .error .notText

end FileTree
end Scaffold.Files
