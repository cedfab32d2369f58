import SnippetAssist.Text.CodeRange

/-!
# White space

The Unicode property White_Space, and trimming by it. Names, descriptions and templates are
trimmed with this class, and the completion context trims lines with it, so a no-break space or
an ideographic space counts as blank there just as a tab does.
-/

namespace SnippetAssist.Text

/-- The code points with the Unicode property White_Space. -/
def whiteSpaceTable : List CodeRange := [
  ⟨0x9, 0xD⟩, ⟨0x20, 0x20⟩, ⟨0x85, 0x85⟩, ⟨0xA0, 0xA0⟩, ⟨0x1680, 0x1680⟩, ⟨0x2000, 0x200A⟩,
  ⟨0x2028, 0x2029⟩, ⟨0x202F, 0x202F⟩, ⟨0x205F, 0x205F⟩, ⟨0x3000, 0x3000⟩]

/-- `c` has the Unicode property White_Space. -/
def isWhiteSpace (c : Char) : Bool := inTable whiteSpaceTable c

/-- The characters after the leading white space. -/
def trimStart (cs : List Char) : List Char := cs.dropWhile isWhiteSpace

/-- The characters before the trailing white space. -/
def trimEnd (cs : List Char) : List Char := (cs.reverse.dropWhile isWhiteSpace).reverse

/-- The characters between the leading and the trailing white space. -/
def trim (cs : List Char) : List Char := trimEnd (trimStart cs)

/-- A text is blank when it holds white space only. -/
def isBlank (cs : List Char) : Bool := cs.all isWhiteSpace

end SnippetAssist.Text
