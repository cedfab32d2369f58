/-!
# Ranges of code points

A character class of the Unicode standard is written as a sorted list of closed ranges of code
points. This module holds the range and membership in a list of them; each table lives in the
module named for its property.
-/

namespace SnippetAssist.Text

/-- The closed range of code points from `lo` to `hi`. -/
structure CodeRange where
  lo : Nat
  hi : Nat

/-- `n` lies in the range. -/
def CodeRange.contains (r : CodeRange) (n : Nat) : Bool :=
  r.lo ≤ n && n ≤ r.hi

/-- A character belongs to a table when one of its ranges holds its code point. -/
def inTable (table : List CodeRange) (c : Char) : Bool :=
  table.any (·.contains c.toNat)

theorem inTable_iff {table : List CodeRange} {c : Char} :
    inTable table c = true ↔ ∃ r ∈ table, r.lo ≤ c.toNat ∧ c.toNat ≤ r.hi := by
  simp [inTable, CodeRange.contains]

end SnippetAssist.Text
