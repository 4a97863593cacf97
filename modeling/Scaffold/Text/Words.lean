import Scaffold.Text.Casing

/-! Words of an identifier and its casings. A word ends at every character that is neither letter
nor digit, before a capital that follows a small letter, and before the last capital of a run of
capitals that a small letter follows, so that an acronym is one word. -/

namespace Scaffold.Text.Words
open Letters

/-- The case last seen in the word being read. -/
inductive Mode
  | boundary
  | small
  | capital
  deriving DecidableEq, Repr

/-- The mode after a character: a character without case leaves it as it was. -/
def Mode.after (mode : Mode) (c : Char) : Mode :=
  if isSmall c then .small else if isCapital c then .capital else mode

/-- The words of a run of letters and digits; `word` holds the characters of the open word, the last
one first. -/
def wordsOfRun (mode : Mode) (word : List Char) : List Char → List (List Char)
  | [] => if word.isEmpty then [] else [word.reverse]
  | [c] => [(c :: word).reverse]
  | c :: next :: rest =>
    if mode.after c = .small ∧ isCapital next then
      (c :: word).reverse :: wordsOfRun .boundary [] (next :: rest)
    else if mode = .capital ∧ isCapital c ∧ isSmall next then
      word.reverse :: wordsOfRun .boundary [c] (next :: rest)
    else
      wordsOfRun (mode.after c) (c :: word) (next :: rest)

/-- The runs of letters and digits of a text, the empty ones included; `run` holds the characters of
the open run, the last one first. -/
def runsAfter (run : List Char) : List Char → List (List Char)
  | [] => [run.reverse]
  | c :: rest =>
    if isAlphanumeric c then runsAfter (c :: run) rest else run.reverse :: runsAfter [] rest

def split (cs : List Char) : List (List Char) :=
  (runsAfter [] cs).flatMap (wordsOfRun .boundary [])

/-- The small form of a word: a sigma that ends it takes its final form. -/
def small : List Char → List Char
  | [] => []
  | [c] => if c == 'Σ' then ['ς'] else Casing.small c
  | c :: next :: rest => Casing.small c ++ small (next :: rest)

def capitalised : List Char → List Char
  | [] => []
  | c :: rest => Casing.capital c ++ small rest

def snake (s : String) : String :=
  String.ofList (['_'].intercalate ((split s.toList).map small))

def upperCamel (s : String) : String :=
  String.ofList ((split s.toList).flatMap capitalised)

def lowerCamel (s : String) : String :=
  String.ofList (match split s.toList with
    | [] => []
    | first :: rest => small first ++ rest.flatMap capitalised)

theorem flatten_wordsOfRun (mode : Mode) (word cs : List Char) :
    (wordsOfRun mode word cs).flatten = word.reverse ++ cs := by
  induction cs generalizing mode word with
  | nil =>
    rw [wordsOfRun]
    split
    · rename_i h
      simp [List.isEmpty_iff.1 h]
    · simp
  | cons c rest ih =>
    cases rest with
    | nil => simp [wordsOfRun]
    | cons next rest =>
      simp only [wordsOfRun]
      split
      · simp [ih]
      · split
        · simp [ih]
        · simp [ih]

theorem flatten_runsAfter (run cs : List Char) :
    (runsAfter run cs).flatten = run.reverse ++ cs.filter isAlphanumeric := by
  induction cs generalizing run with
  | nil => simp [runsAfter]
  | cons c rest ih =>
    simp only [runsAfter]
    split
    · rename_i h
      simp [ih, h]
    · rename_i h
      simp [ih, h]

theorem flatten_split (cs : List Char) : (split cs).flatten = cs.filter isAlphanumeric := by
  have runs (rs : List (List Char)) :
      (rs.flatMap (wordsOfRun .boundary [])).flatten = rs.flatten := by
    induction rs with
    | nil => rfl
    | cons r rest ih =>
      rw [List.flatMap_cons, List.flatten_append, ih, flatten_wordsOfRun]
      rfl
  rw [split, runs, flatten_runsAfter]
  rfl

theorem small_ascii_single {c : Char} (h : c.toNat < 0x80) : small [c] = [c.toLower] := by
  have hne : (c == 'Σ') = false := by
    apply Bool.eq_false_iff.2
    intro hc
    rw [eq_of_beq hc] at h
    revert h
    decide
  simp [small, hne, Casing.small_ascii h]

end Scaffold.Text.Words
