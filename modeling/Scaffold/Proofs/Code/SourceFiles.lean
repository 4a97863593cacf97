import Mathlib.Data.List.Induction
import Mathlib.Data.List.Nodup
import Scaffold.Code.SourceFile
import Scaffold.Proofs.Text.ByteOrder

/-! The text of a source file after any history of additions. A history counts only by the header
that it sets last, the items that it adds in their order, and the set of paths that it uses: what is
used is kept in increasing order with every path once, so neither the order nor the repetition of
uses shows. -/

namespace Scaffold.Code.SourceFile
open Text

/-! ## Histories -/

inductive Step
  | setHeader (header : String)
  | use (path : String)
  | add (item : String)

namespace Step

def header? : Step → Option String
  | setHeader header => some header
  | _ => none

def path? : Step → Option String
  | use path => some path
  | _ => none

def item? : Step → Option String
  | add item => some item
  | _ => none

end Step

def step (f : SourceFile) : Step → SourceFile
  | .setHeader header => f.setHeader header
  | .use path => f.use path
  | .add item => f.add item

def after (module : String) (steps : List Step) : SourceFile :=
  steps.foldl step { module := module }

def lastHeader? (steps : List Step) : Option String :=
  (steps.filterMap Step.header?).getLast?

def usedPaths (steps : List Step) : List String :=
  steps.filterMap Step.path?

def addedItems (steps : List Step) : List String :=
  steps.filterMap Step.item?

structure Holds (f : SourceFile) (module : String) (steps : List Step) : Prop where
  module_eq : f.module = module
  header : f.header? = lastHeader? steps
  items : f.items = addedItems steps
  uses : ∀ path, f.uses.get? path = if path ∈ usedPaths steps then some () else none

variable {f : SourceFile} {module : String} {steps : List Step}

theorem Holds.step (holds : f.Holds module steps) (s : Step) :
    (f.step s).Holds module (steps ++ [s]) := by
  obtain ⟨module_eq, header, items, uses⟩ := holds
  cases s with
  | setHeader text =>
    refine ⟨module_eq, ?_, ?_, fun path => ?_⟩
    · simp [SourceFile.step, setHeader, lastHeader?, Step.header?]
    · simp [SourceFile.step, setHeader, items, addedItems, Step.item?]
    · simpa [SourceFile.step, setHeader, usedPaths, Step.path?] using uses path
  | use used =>
    refine ⟨module_eq, ?_, ?_, fun path => ?_⟩
    · simp [SourceFile.step, use, header, lastHeader?, Step.header?]
    · simp [SourceFile.step, use, items, addedItems, Step.item?]
    · by_cases same : path = used
      · simp [SourceFile.step, use, SortedMap.get?_insert, same, usedPaths, Step.path?]
      · simpa [SourceFile.step, use, SortedMap.get?_insert, same, usedPaths, Step.path?] using
          uses path
  | add item =>
    refine ⟨module_eq, ?_, ?_, fun path => ?_⟩
    · simp [SourceFile.step, add, header, lastHeader?, Step.header?]
    · simp [SourceFile.step, add, items, addedItems, Step.item?]
    · simpa [SourceFile.step, add, usedPaths, Step.path?] using uses path

theorem holds_after (module : String) (steps : List Step) :
    (after module steps).Holds module steps := by
  induction steps using List.reverseRecOn with
  | nil => exact ⟨rfl, rfl, rfl, fun _ => rfl⟩
  | append_singleton steps s ih =>
    rw [after, List.foldl_concat]
    exact ih.step s

/-! ## Texts -/

/-- Two histories with the same header in the end, the same items and the same set of paths. -/
structure SameContent (steps others : List Step) : Prop where
  header : lastHeader? steps = lastHeader? others
  items : addedItems steps = addedItems others
  paths : ∀ path, path ∈ usedPaths steps ↔ path ∈ usedPaths others

theorem Holds.eq {g : SourceFile} {others : List Step} (first : f.Holds module steps)
    (second : g.Holds module others) (same : SameContent steps others) : f = g := by
  have uses : f.uses = g.uses := by
    refine SortedMap.eq_of_get? fun path => ?_
    rw [first.uses, second.uses]
    simp only [same.paths]
  have header := first.header.trans (same.header.trans second.header.symm)
  have items := first.items.trans (same.items.trans second.items.symm)
  have module_eq := first.module_eq.trans second.module_eq.symm
  cases f
  cases g
  cases module_eq
  cases header
  cases uses
  cases items
  rfl

theorem mem_imports_iff (holds : f.Holds module steps) (path : String) :
    path ∈ f.imports ↔ path ∈ usedPaths steps := by
  rw [imports, SortedMap.mem_keys_iff, holds.uses]
  split <;> simp [*]

theorem pairwise_imports (f : SourceFile) :
    f.imports.Pairwise fun a b => ByteOrder.bytes a < ByteOrder.bytes b :=
  f.uses.pairwise_keys.imp ByteOrder.bytes_lt

theorem count_imports (holds : f.Holds module steps) (path : String) :
    f.imports.count path = if path ∈ usedPaths steps then 1 else 0 := by
  have distinct : f.imports.Nodup := by
    refine f.uses.pairwise_keys.imp ?_
    rintro a _ less rfl
    exact String.lt_irrefl a less
  rw [distinct.count]
  simp only [mem_imports_iff holds]

def importBlock (entries : List String) : String :=
  if entries = [] then "" else "\n" ++ String.join (entries.map fun path => "use " ++ path ++ ";\n")

/-- The text of a file is told by what its history has in common with others: the header set last,
the items in order, and the set of used paths, each with one entry in the import block and the
entries in increasing order of their bytes. -/
theorem render_by_content (module : String) (steps : List Step) :
    (∀ others, SameContent steps others →
        (after module steps).render = (after module others).render) ∧
      ∃ entries : List String,
        (∀ path, entries.count path = if path ∈ usedPaths steps then 1 else 0) ∧
        (entries.Pairwise fun a b => ByteOrder.bytes a < ByteOrder.bytes b) ∧
        (after module steps).render =
          ((lastHeader? steps).map (· ++ "\n")).getD "" ++ "// module: " ++ module ++ "\n"
            ++ importBlock entries
            ++ String.join ((addedItems steps).map fun item => "\n" ++ item ++ "\n") := by
  have holds := holds_after module steps
  refine ⟨fun others same => ?_, (after module steps).imports, count_imports holds,
    pairwise_imports _, ?_⟩
  · rw [holds.eq (holds_after module others) same]
  · have block : renderImports (after module steps).imports =
        importBlock (after module steps).imports := by
      simp [renderImports, importBlock]
    rw [render, holds.header, holds.module_eq, holds.items, block]
    cases lastHeader? steps <;> rfl

/-- A history with a header that is replaced and a path that is used twice. -/
def wordyHistory : List Step :=
  [.use "std::fmt", .setHeader "// draft", .use "été::jour", .add "pub struct A;", .use "std::fmt",
    .setHeader "// final"]

def plainHistory : List Step :=
  [.setHeader "// final", .use "été::jour", .use "std::fmt", .add "pub struct A;"]

theorem render_by_content_histories :
    SameContent wordyHistory plainHistory ∧
      (after "store" wordyHistory).render = (after "store" plainHistory).render := by
  have same : SameContent wordyHistory plainHistory := by
    refine ⟨rfl, rfl, fun path => ?_⟩
    change path ∈ ["std::fmt", "été::jour", "std::fmt"] ↔ path ∈ ["été::jour", "std::fmt"]
    simp only [List.mem_cons, List.not_mem_nil, or_false]
    constructor
    · rintro (first | second | first)
      · exact .inr first
      · exact .inl second
      · exact .inr first
    · rintro (second | first)
      · exact .inr (.inl second)
      · exact .inl first
  exact ⟨same, (render_by_content "store" wordyHistory).1 plainHistory same⟩

end Scaffold.Code.SourceFile
