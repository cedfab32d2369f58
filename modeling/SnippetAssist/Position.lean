/-!
# Positions in a text

A position is a line and a column, both counted from zero; the column counts the bytes of the
UTF-8 encoding from the start of the line. A position inside a template is relative to the point
where the template is inserted: on the template's first line it shifts the column of that point,
on a later line it keeps its own column.
-/

namespace SnippetAssist

/-- A line and a byte column, both counted from zero. -/
structure Position where
  line : Nat
  col : Nat
deriving DecidableEq, Repr

namespace Position

/-- The position `p`, given relative to `origin`, in the coordinates of the whole text. -/
def relativeTo (p origin : Position) : Position :=
  if p.line = 0 then ⟨origin.line, origin.col + p.col⟩ else ⟨origin.line + p.line, p.col⟩

/-- The position as people count it: `line:column`, both from one. -/
def display (p : Position) : String := Nat.repr (p.line + 1) ++ ":" ++ Nat.repr (p.col + 1)

@[simp] theorem relativeTo_first_line (col : Nat) (origin : Position) :
    (⟨0, col⟩ : Position).relativeTo origin = ⟨origin.line, origin.col + col⟩ := rfl

theorem relativeTo_later_line {p : Position} (h : p.line ≠ 0) (origin : Position) :
    p.relativeTo origin = ⟨origin.line + p.line, p.col⟩ := by
  simp [relativeTo, h]

end Position

end SnippetAssist
