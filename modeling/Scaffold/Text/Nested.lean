/-! Values read from a notation, with how deep the notation is nested. A part that holds no other
part has depth 0, every part around others is one level, and so is a row of two parts or more. -/

namespace Scaffold.Text

structure Nested (α : Type) where
  value : α
  depth : Nat := 0

namespace Nested

def wrap (whole : α → β) (a : Nested α) : Nested β :=
  ⟨whole a.value, a.depth + 1⟩

def rowDepth (depths : List Nat) : Nat :=
  let deepest := depths.foldr max 0
  if depths.length ≤ 1 then deepest else deepest + 1

def ofRow (whole : List α → β) (parts : List (Nested α)) : Nested β :=
  ⟨whole (parts.map (·.value)), rowDepth (parts.map (·.depth))⟩

@[simp] theorem wrap_depth (whole : α → β) (a : Nested α) : (a.wrap whole).depth = a.depth + 1 :=
  rfl

theorem depth_le_ofRow (whole : List α → β) {a : Nested α} {parts : List (Nested α)}
    (h : a ∈ parts) : a.depth ≤ (ofRow whole parts).depth := by
  have deepest : ∀ depths : List Nat, a.depth ∈ depths → a.depth ≤ depths.foldr max 0 := by
    intro depths
    induction depths with
    | nil => simp
    | cons d rest ih =>
      intro member
      simp only [List.foldr_cons]
      rcases List.mem_cons.1 member with rfl | later
      · omega
      · have := ih later
        omega
  have := deepest (parts.map fun p => p.depth) (List.mem_map.2 ⟨a, h, rfl⟩)
  simp only [ofRow, rowDepth]
  split <;> omega

end Nested
end Scaffold.Text
