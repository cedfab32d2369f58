/-!
# Searching in a text

Tests for a piece of text at the start, at the end, or anywhere inside another, on lists of
characters. Searching by characters agrees with searching by bytes, since a character's encoding
never starts inside another's.
-/

namespace SnippetAssist.Text

/-- `pat` occurs somewhere in `cs`. -/
def hasInfix (pat : List Char) : List Char → Bool
  | [] => pat.isEmpty
  | c :: rest => pat.isPrefixOf (c :: rest) || hasInfix pat rest

/-- `cs` without `suffix` at its end, or all of `cs` when it does not end so. -/
def dropSuffix (cs suffix : List Char) : List Char :=
  if suffix.isSuffixOf cs then cs.take (cs.length - suffix.length) else cs

theorem hasInfix_iff (pat cs : List Char) : hasInfix pat cs = true ↔ pat <:+: cs := by
  induction cs with
  | nil => simp [hasInfix, List.isEmpty_iff]
  | cons c rest ih =>
    simp only [hasInfix, Bool.or_eq_true, ih, List.isPrefixOf_iff_prefix]
    constructor
    · rintro (h | h)
      · exact h.isInfix
      · exact h.trans (List.suffix_cons c rest).isInfix
    · intro h
      rcases List.infix_cons_iff.mp h with h | h
      · exact Or.inl h
      · exact Or.inr h

end SnippetAssist.Text
