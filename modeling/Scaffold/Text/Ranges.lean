/-! Tables of code points. A property of characters is kept as its list of closed ranges, or, where
capital and small letters alternate, of ranges with a stride. The tables start above ASCII: a
function on characters answers for ASCII on its own and asks the table for the rest. -/

namespace Scaffold.Text.Ranges

def contains (table : List (Nat × Nat)) (c : Char) : Bool :=
  table.any fun r => r.1 ≤ c.toNat && c.toNat ≤ r.2

/-- Tests whether some range `(first, last, stride)` of the table meets the character. -/
def meets (table : List (Nat × Nat × Nat)) (c : Char) : Bool :=
  table.any fun r => r.1 ≤ c.toNat && c.toNat ≤ r.2.1 && (c.toNat - r.1) % r.2.2 == 0

theorem contains_iff (table : List (Nat × Nat)) (c : Char) :
    contains table c = true ↔ ∃ r ∈ table, r.1 ≤ c.toNat ∧ c.toNat ≤ r.2 := by
  simp [contains]

end Scaffold.Text.Ranges
