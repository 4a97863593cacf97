import Scaffold.Files.Materialise
import Scaffold.Proofs.Files.Target

/-! What the operations on a tree change. Seeing to it that a directory exists only adds directories
on the way to it, also when it fails in the middle. Writing changes the one location that the path
leads to, and a path that was written resolves. Walks that succeed still do in a tree with the same
entries of the same kinds. -/

namespace Scaffold.Files.FileTree
variable {t t' t'' : FileTree} {p q : Path} {S S' : Location → Prop}

/-- Every entry is in the other tree too, with the same kind. -/
def Keeps (t t' : FileTree) : Prop :=
  ∀ l n, t.node? l = some n → ∃ n', t'.node? l = some n' ∧ (n' = .directory ↔ n = .directory)

/-- The other tree has more directories, at locations of a set, and is else the same. -/
def Adds (S : Location → Prop) (t t' : FileTree) : Prop :=
  ∀ l, t'.node? l = t.node? l ∨ t.node? l = none ∧ t'.node? l = some .directory ∧ S l

theorem Keeps.directory (keeps : t.Keeps t') {l : Location} (h : t.node? l = some .directory) :
    t'.node? l = some .directory := by
  obtain ⟨n, found, kind⟩ := keeps l .directory h
  rw [found, kind.2 rfl]

theorem Keeps.isSome (keeps : t.Keeps t') {l : Location} (h : (t.node? l).isSome) :
    (t'.node? l).isSome := by
  obtain ⟨n, hn⟩ := Option.isSome_iff_exists.1 h
  obtain ⟨n', found, -⟩ := keeps l n hn
  rw [found]
  rfl

theorem Keeps.walk (keeps : t.Keeps t') {location l : Location} {steps : List Path.Step}
    (h : t.walk location steps = .ok l) : t'.walk location steps = .ok l := by
  induction steps generalizing location with
  | nil => exact h
  | cons step rest ih =>
    rw [walk_cons] at h ⊢
    obtain ⟨next, advanced, h⟩ := bind_eq_ok.1 h
    obtain ⟨eq, directory, named⟩ := advance_eq_ok.1 advanced
    have same : t'.advance location step = .ok next := by
      refine advance_eq_ok.2 ⟨eq, keeps.directory directory, fun name hn => ?_⟩
      exact ⟨(named name hn).1, keeps.isSome (named name hn).2⟩
    exact bind_eq_ok.2 ⟨next, same, ih h⟩

theorem Keeps.resolve (keeps : t.Keeps t') {l : Location} (h : t.resolve p = .ok l) :
    t'.resolve p = .ok l := by
  unfold FileTree.resolve at h ⊢
  split at h
  · cases h
  · exact keeps.walk h

theorem Keeps.refl (t : FileTree) : t.Keeps t :=
  fun _ n found => ⟨n, found, Iff.rfl⟩

theorem Keeps.trans (keeps : t.Keeps t') (later : t'.Keeps t'') : t.Keeps t'' := by
  intro l n found
  obtain ⟨n', found', kind⟩ := keeps l n found
  obtain ⟨n'', found'', kind'⟩ := later l n' found'
  exact ⟨n'', found'', kind'.trans kind⟩

theorem Adds.refl (S : Location → Prop) (t : FileTree) : t.Adds S t :=
  fun _ => .inl rfl

theorem Adds.mono (h : t.Adds S t') (sub : ∀ l, S l → S' l) : t.Adds S' t' :=
  fun l => (h l).imp_right fun ⟨missing, made, hl⟩ => ⟨missing, made, sub l hl⟩

theorem Adds.trans (h : t.Adds S t') (later : t'.Adds S t'') : t.Adds S t'' := by
  intro l
  rcases later l with same | ⟨missing, made, hl⟩
  · rw [same]
    exact h l
  · rcases h l with same | ⟨_, made', _⟩
    · exact .inr ⟨same ▸ missing, made, hl⟩
    · rw [missing] at made'
      cases made'

theorem Adds.node? (h : t.Adds S t') {l : Location} {n : Node} (found : t.node? l = some n) :
    t'.node? l = some n := by
  rcases h l with same | ⟨missing, -, -⟩
  · rw [same, found]
  · rw [missing] at found
    cases found

theorem Adds.keeps (h : t.Adds S t') : t.Keeps t' :=
  fun _ n found => ⟨n, h.node? found, Iff.rfl⟩

theorem adds_put {l : Location} (hl : l ≠ []) (missing : t.node? l = none) (member : S l) :
    t.Adds S (t.put l .directory) := by
  intro other
  rw [node?_put t hl]
  split
  · rename_i h
    rw [h]
    exact .inr ⟨missing, rfl, member⟩
  · exact .inl rfl

/-! ## Directories -/

theorem stepsWithoutSlash_isPrefix (p : Path) : stepsWithoutSlash p <+: p.steps := by
  refine List.IsPrefix.map Path.stepOf ?_
  rw [← List.reverse_suffix, List.reverse_reverse]
  exact List.dropWhile_suffix _

theorem approach_child {steps : List Path.Step} {l : Location} {name : String}
    (h : t.approach steps = .ok (l, .child name)) :
    ∃ before, steps = before ++ [.child name] ∧ t.walk [] before = .ok l ∧
      t.node? l = some .directory := by
  unfold approach at h
  split at h
  · cases h
  · rename_i location walked
    split at h
    · rename_i directory
      obtain ⟨rfl, last⟩ := Prod.mk.inj (Except.ok.inj h)
      cases hl : steps.getLast? with
      | none =>
        rw [hl] at last
        cases last
      | some step =>
        rw [hl] at last
        obtain rfl : step = .child name := last
        obtain ⟨before, rfl⟩ := List.getLast?_eq_some_iff.1 hl
        rw [List.dropLast_concat] at walked
        exact ⟨before, rfl, walked, directory⟩
    · cases h
    · cases h

theorem steps_eq_stays (p : Path) :
    ∃ n, p.steps = stepsWithoutSlash p ++ List.replicate n .stay := by
  obtain ⟨n, idle⟩ : ∃ n, p.pieces.reverse.takeWhile (· == "") = List.replicate n "" := by
    refine ⟨_, List.eq_replicate_of_mem fun piece h => ?_⟩
    exact eq_of_beq (List.all_eq_true.1 List.all_takeWhile piece h)
  have cut := congrArg List.reverse
    (List.takeWhile_append_dropWhile (p := (· == "")) (l := p.pieces.reverse))
  rw [List.reverse_append, idle, List.reverse_replicate, List.reverse_reverse] at cut
  refine ⟨n, ?_⟩
  rw [Path.steps, ← cut, List.map_append, List.map_replicate]
  rfl

theorem walk_stays {location : Location} (h : t.node? location = some .directory) (n : Nat) :
    t.walk location (List.replicate n .stay) = .ok location := by
  induction n with
  | zero => rfl
  | succ n ih =>
    rw [List.replicate_succ, walk_cons]
    exact bind_eq_ok.2 ⟨location, advance_eq_ok.2 ⟨rfl, h, nofun⟩, ih⟩

theorem walk_put {before : List Path.Step} {location : Location} {name : String} {n : Node}
    (keeps : t.Keeps (t.put (location ++ [name]) n)) (walked : t.walk [] before = .ok location)
    (directory : t.node? location = some .directory) (short : name.utf8ByteSize ≤ nameLimit) :
    (t.put (location ++ [name]) n).walk [] (before ++ [.child name]) =
      .ok (location ++ [name]) := by
  have last : (t.put (location ++ [name]) n).advance location (.child name) =
      .ok (location ++ [name]) := by
    refine advance_eq_ok.2 ⟨rfl, keeps.directory directory, fun other eq => ?_⟩
    obtain rfl := Path.Step.child.inj eq
    exact ⟨short, by simp [node?_put t]⟩
  rw [walk_append]
  refine bind_eq_ok.2 ⟨location, keeps.walk walked, ?_⟩
  rw [walk_cons]
  exact bind_eq_ok.2 ⟨_, last, rfl⟩

theorem makeDirectory_ok (h : t.makeDirectory p = .ok t') :
    ∃ l, l ≠ [] ∧ t.node? l = none ∧ p.Passes l ∧ t' = t.put l .directory ∧
      t'.resolve p = .ok l := by
  unfold makeDirectory at h
  split at h
  · cases h
  · rename_i admitted
    split at h
    · cases h
    · rename_i location name approached
      obtain ⟨before, steps, walked, directory⟩ := approach_child approached
      split at h
      · cases h
      · rename_i short
        split at h
        · cases h
        · rename_i missing
          obtain rfl := Except.ok.inj h
          have hl : location ++ [name] ≠ [] := by simp
          refine ⟨location ++ [name], hl, missing, ?_, rfl, ?_⟩
          · have passes := Path.passes_of_prefix (stepsWithoutSlash_isPrefix p)
            rwa [steps, Location.follow_append, ← walk_ok walked] at passes
          · have keeps := (adds_put (S := fun _ => True) hl missing trivial).keeps
            obtain ⟨n, stays⟩ := steps_eq_stays p
            rw [resolve, admitted, stays, steps]
            simp only
            rw [walk_append]
            refine bind_eq_ok.2 ⟨_, walk_put keeps walked directory (Nat.not_lt.1 short), ?_⟩
            exact walk_stays (by simp [node?_put t]) n
    · cases h

theorem makeDirectory_adds (h : t.makeDirectory p = .ok t') : t.Adds p.Passes t' := by
  obtain ⟨l, hl, missing, passes, rfl, -⟩ := makeDirectory_ok h
  exact adds_put hl missing passes

theorem makeDirectories_adds (t : FileTree) (p : Path) (depth : Nat) :
    t.Adds p.Passes (t.makeDirectories p depth).2 := by
  induction depth generalizing t p with
  | zero => exact Adds.refl _ t
  | succ depth ih =>
    unfold makeDirectories
    split
    · exact Adds.refl _ t
    · split
      · rename_i made
        exact makeDirectory_adds made
      · split
        · exact Adds.refl _ t
        · rename_i parent hp
          have above := (ih t parent).mono fun l => Path.Passes.of_parent hp
          split
          · rename_i e t' made
            rwa [made] at above
          · rename_i t' made
            rw [made] at above
            split
            · rename_i made
              exact above.trans (makeDirectory_adds made)
            · split
              · exact above
              · exact above
      · split
        · exact Adds.refl _ t
        · exact Adds.refl _ t

theorem ensureDirectory_adds (t : FileTree) (p : Path) :
    t.Adds p.Passes (t.ensureDirectory p).2 := by
  have made := makeDirectories_adds t p (p.text.length + 1)
  unfold ensureDirectory
  split
  · exact Adds.refl _ t
  · exact Adds.refl _ t
  · rw [makeDirectoryPath]
    split
    · rename_i h
      rwa [h] at made
    · rename_i h
      rwa [h] at made
  · exact Adds.refl _ t

theorem prepareFile_adds_above (t : FileTree) (p : Path) :
    t.Adds p.Above (t.prepareFile p).2 := by
  unfold prepareFile
  split
  · exact Adds.refl _ t
  · rename_i parent hp
    have above : t.Adds p.Above (t.ensureDirectory parent).2 :=
      (ensureDirectory_adds t parent).mono fun l passes =>
        ⟨parent, (Option.filter_eq_some_iff.1 hp).1, passes⟩
    split
    · rename_i h
      rwa [h] at above
    · rename_i h
      rwa [h] at above

theorem prepareFile_adds (t : FileTree) (p : Path) : t.Adds p.Passes (t.prepareFile p).2 :=
  (prepareFile_adds_above t p).mono fun _ => Path.Above.passes

/-! ## Files -/

theorem stepsWithoutSlash_eq (hne : p.text ≠ "") (slash : p.text.toList.getLast? ≠ some '/') :
    stepsWithoutSlash p = p.steps := by
  have last : p.pieces.reverse.head? ≠ some "" := by
    rw [List.head?_reverse]
    exact fun h => (Text.Pieces.getLast?_split h).elim hne slash
  have kept : p.pieces.reverse.dropWhile (· == "") = p.pieces.reverse := by
    cases hp : p.pieces.reverse with
    | nil => rfl
    | cons piece before =>
      rw [hp] at last
      rw [List.dropWhile_cons_of_neg]
      simpa using last
  rw [stepsWithoutSlash, kept, List.reverse_reverse]
  rfl

theorem keeps_put {l : Location} (hl : l ≠ []) (h : t.node? l ≠ some .directory)
    (content : ByteArray) : t.Keeps (t.put l (.file content)) := by
  intro other n found
  rw [node?_put t hl]
  split
  · rename_i eq
    subst eq
    refine ⟨.file content, rfl, ?_, ?_⟩
    · intro directory
      cases directory
    · rintro rfl
      exact absurd found h
  · exact ⟨n, found, Iff.rfl⟩

theorem text_ne_empty (h : admit? p = .ok ()) : p.text ≠ "" := by
  intro empty
  unfold admit? at h
  split at h
  · cases h
  · rw [if_pos (String.isEmpty_iff.2 empty)] at h
    cases h

theorem openForWriting_ok {l : Location} (h : t.openForWriting p = .ok l) :
    admit? p = .ok () ∧ t.node? l ≠ some .directory ∧
      ∃ before dir name, p.steps = before ++ [.child name] ∧ t.walk [] before = .ok dir ∧
        t.node? dir = some .directory ∧ name.utf8ByteSize ≤ nameLimit ∧ l = dir ++ [name] := by
  unfold openForWriting at h
  split at h
  · cases h
  · rename_i admitted
    split at h
    · cases h
    · rename_i dir name approached
      obtain ⟨before, steps, walked, directory⟩ := approach_child approached
      split at h
      · cases h
      · rename_i slash
        rw [beq_iff_eq] at slash
        rw [stepsWithoutSlash_eq (text_ne_empty admitted) slash] at steps
        split at h
        · cases h
        · rename_i short
          split at h
          · cases h
          · rename_i free
            obtain rfl := Except.ok.inj h
            exact ⟨admitted, free, before, dir, name, steps, walked, directory,
              Nat.not_lt.1 short, rfl⟩
    · cases h

theorem openForWriting_target {l : Location} (h : t.openForWriting p = .ok l) : p.target = l := by
  obtain ⟨-, -, before, dir, name, steps, walked, -, -, rfl⟩ := openForWriting_ok h
  rw [Path.target, steps, Location.follow_append, ← walk_ok walked]
  rfl

theorem write_ok {content : ByteArray} (h : t.write p content = .ok t') :
    p.target ≠ [] ∧ t.node? p.target ≠ some .directory ∧
      t' = t.put p.target (.file content) ∧ t'.resolve p = .ok p.target ∧ p.EndsInName := by
  unfold write at h
  split at h
  · cases h
  · rename_i l opened
    obtain rfl := Except.ok.inj h
    obtain ⟨admitted, free, before, dir, name, steps, walked, directory, short, rfl⟩ :=
      openForWriting_ok opened
    have hl : dir ++ [name] ≠ [] := List.append_ne_nil_of_right_ne_nil dir (List.cons_ne_nil _ _)
    rw [openForWriting_target opened]
    refine ⟨hl, free, rfl, ?_, before, name, steps⟩
    rw [resolve, admitted, steps]
    exact walk_put (keeps_put hl free content) walked directory short

theorem writeFile_keeps (t : FileTree) (p : Path) (text : String) :
    t.Keeps (t.writeFile p text).2 := by
  have prepared := (prepareFile_adds t p).keeps
  unfold writeFile
  split
  · rename_i hp
    rwa [hp] at prepared
  · rename_i hp
    rw [hp] at prepared
    split
    · rename_i put
      obtain ⟨hl, free, rfl, -⟩ := write_ok put
      exact prepared.trans (keeps_put hl free _)
    · exact prepared

end Scaffold.Files.FileTree
