/-!
# Byte offsets in a text

Columns and offsets count the bytes of the UTF-8 encoding, while texts are lists of characters.
This module converts between the two: the byte length of a text, the split at a byte offset
(possible only on a character boundary), and the longest prefix within a number of bytes.
-/

namespace SnippetAssist.Text

/-- The number of bytes of the UTF-8 encoding of `cs`. -/
def byteLength (cs : List Char) : Nat := (cs.map Char.utf8Size).foldr (· + ·) 0

/-- The characters before and after byte offset `n`, if `n` is a character boundary of `cs`. -/
def splitAtByte? : List Char → Nat → Option (List Char × List Char)
  | cs, 0 => some ([], cs)
  | [], _ + 1 => none
  | c :: rest, n + 1 =>
    if c.utf8Size ≤ n + 1 then
      (splitAtByte? rest (n + 1 - c.utf8Size)).map fun (a, b) => (c :: a, b)
    else none

/-- The longest prefix of `cs` whose encoding takes at most `n` bytes: the split at the last
character boundary at or before `n`. -/
def prefixWithin : List Char → Nat → List Char
  | [], _ => []
  | c :: rest, n => if c.utf8Size ≤ n then c :: prefixWithin rest (n - c.utf8Size) else []

@[simp] theorem byteLength_nil : byteLength [] = 0 := rfl

@[simp] theorem byteLength_cons (c : Char) (cs : List Char) :
    byteLength (c :: cs) = c.utf8Size + byteLength cs := by
  simp [byteLength]

theorem byteLength_append (a b : List Char) :
    byteLength (a ++ b) = byteLength a + byteLength b := by
  induction a with
  | nil => simp
  | cons c a ih => simp [ih, Nat.add_assoc]

theorem prefixWithin_prefix (cs : List Char) (n : Nat) : prefixWithin cs n <+: cs := by
  induction cs generalizing n with
  | nil => simp [prefixWithin]
  | cons c rest ih =>
    simp only [prefixWithin]
    split
    · exact List.cons_prefix_cons.mpr ⟨rfl, ih _⟩
    · exact List.nil_prefix

theorem byteLength_prefixWithin_le (cs : List Char) (n : Nat) :
    byteLength (prefixWithin cs n) ≤ n := by
  induction cs generalizing n with
  | nil => simp [prefixWithin]
  | cons c rest ih =>
    simp only [prefixWithin]
    split
    · have := ih (n - c.utf8Size); simp; omega
    · simp

end SnippetAssist.Text
