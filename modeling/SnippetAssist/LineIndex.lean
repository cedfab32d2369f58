import SnippetAssist.Position
import SnippetAssist.Text.Utf8

/-!
# Line index

The byte offsets at which the lines of a text start, for converting between offsets and
positions. A line starts at offset zero and after every line feed. An offset past the end of the
text stands for the end; a column past the end of its line stands for the line's end, just
before its line feed; a line that the text does not have has no offset.
-/

namespace SnippetAssist

/-- The byte offsets at which the lines of a text start, and the text's length in bytes. -/
structure LineIndex where
  starts : List Nat
  length : Nat

namespace LineIndex

/-- The offsets just after each line feed of `cs`, which starts at byte `offset`. -/
def breaksFrom (offset : Nat) : List Char → List Nat
  | [] => []
  | c :: rest =>
    let next := offset + c.utf8Size
    if c = '\n' then next :: breaksFrom next rest else breaksFrom next rest

/-- The line index of a text. -/
def ofChars (cs : List Char) : LineIndex := ⟨0 :: breaksFrom 0 cs, Text.byteLength cs⟩

/-- The line index of a text. -/
def ofString (s : String) : LineIndex := ofChars s.toList

/-- The position of a byte offset: the last line that starts at or before it, and the distance
from that start. -/
def lineCol (idx : LineIndex) (offset : Nat) : Position :=
  let o := min offset idx.length
  let line := idx.starts.countP (· ≤ o) - 1
  ⟨line, o - idx.starts.getD line 0⟩

/-- The byte offset of a position, the column cut at the end of its line; `none` for a line the
text does not have. -/
def offset? (idx : LineIndex) (p : Position) : Option Nat := do
  let start ← idx.starts[p.line]?
  let lineEnd := match idx.starts[p.line + 1]? with
    | some next => next - 1
    | none => idx.length
  pure (min (start + p.col) lineEnd)

/-- The number of lines: one more than the number of line feeds. -/
def lineCount (idx : LineIndex) : Nat := idx.starts.length

theorem offset?_eq_none_iff (idx : LineIndex) (p : Position) :
    idx.offset? p = none ↔ idx.lineCount ≤ p.line := by
  unfold offset? lineCount
  cases h : idx.starts[p.line]? with
  | none => simpa [List.getElem?_eq_none_iff] using h
  | some s =>
    have := (List.getElem?_eq_some_iff.mp h).1
    simp only [Option.bind_eq_bind, Option.bind_some, Option.pure_def, reduceCtorEq, false_iff, Nat.not_le]
    omega

end LineIndex

end SnippetAssist
