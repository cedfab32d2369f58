import SnippetAssist.Context.Basic
import SnippetAssist.Text.Utf8

/-!
# The tokens around the cursor

The context splits the text before the cursor into the part before the token being typed and the
token, the longest suffix of identifier characters (`EndsWithIdent`, stated by what its
characters are and where it stops). The split falls on a character boundary: cutting the text
at its byte length less the token's byte length gives exactly the two parts, so the cut is never
inside the encoding of a character (`splitAtByte?_sub_byteLength`). The identifier before the token
is the longest such suffix of the part before the token, trailing white space removed; whether the
cursor follows a dot or a colon is read from the last character of that part; and the cursor is
at the start of its line when what remains of the line, the token cut from its end when it ends
with it, is white space only.
-/

namespace SnippetAssist

namespace Text

/-- A text cut at the byte length of one of its prefixes splits into that prefix and the rest:
the byte length of a prefix is a character boundary. -/
theorem splitAtByte?_byteLength (a b : List Char) :
    splitAtByte? (a ++ b) (byteLength a) = some (a, b) := by
  induction a with
  | nil => cases b <;> rfl
  | cons c a ih =>
    obtain ⟨k, hk⟩ : ∃ k, c.utf8Size + byteLength a = k + 1 :=
      ⟨c.utf8Size + byteLength a - 1, by have := c.utf8Size_pos; omega⟩
    have hrest : k + 1 - c.utf8Size = byteLength a := by omega
    rw [List.cons_append, byteLength_cons, hk, splitAtByte?, if_pos (by omega), hrest, ih]
    rfl

/-- Cutting a text at its byte length less the byte length of a suffix splits off that suffix: the
cut is on a character boundary. -/
theorem splitAtByte?_sub_byteLength {cs a b : List Char} (h : cs = a ++ b) :
    splitAtByte? cs (byteLength cs - byteLength b) = some (a, b) := by
  subst h
  rw [byteLength_append, Nat.add_sub_cancel]
  exact splitAtByte?_byteLength a b

/-- Cutting a suffix that a text ends with leaves what stands before it. -/
theorem dropSuffix_append (l s : List Char) : dropSuffix (l ++ s) s = l := by
  have hsuf : s.isSuffixOf (l ++ s) = true := List.isSuffixOf_iff_suffix.mpr (List.suffix_append l s)
  rw [dropSuffix, if_pos hsuf, List.length_append, Nat.add_sub_cancel, List.take_left]

theorem dropSuffix_of_not_suffix {cs s : List Char} (h : ¬ s <:+ cs) : dropSuffix cs s = cs := by
  rw [dropSuffix, if_neg (by rwa [List.isSuffixOf_iff_suffix])]

theorem isBlank_iff_forall {cs : List Char} : isBlank cs = true ↔ ∀ c ∈ cs, isWhiteSpace c = true :=
  List.all_eq_true

end Text

namespace Context

/-- `cs` is `rest` followed by `tok`, the longest suffix of `cs` made of identifier characters:
each character of `tok` is one, and the character just before it, if there is one, is not. -/
structure EndsWithIdent (cs rest tok : List Char) : Prop where
  split : cs = rest ++ tok
  ident : ∀ c ∈ tok, isIdentChar c = true
  boundary : ∀ c, rest.getLast? = some c → isIdentChar c = false

/-- The trailing identifier of a text is its longest suffix of identifier characters. -/
theorem endsWithIdent_trailingIdent (cs : List Char) :
    EndsWithIdent cs (withoutTrailingIdent cs) (trailingIdent cs) where
  split := (withoutTrailingIdent_append_trailingIdent cs).symm
  ident c hc := by
    rw [trailingIdent, List.mem_reverse] at hc
    exact List.all_eq_true.mp List.all_takeWhile c hc
  boundary c hc := by
    -- The last character left is the first that the reversed scan stopped at.
    rw [withoutTrailingIdent, List.getLast?_reverse] at hc
    have hstop := List.head?_dropWhile_not isIdentChar cs.reverse
    rw [hc] at hstop
    exact hstop

/-- The last character of a text is `c` exactly when the text ends with `c`. -/
theorem getLast?_beq_iff (cs : List Char) (c : Char) :
    (cs.getLast? == some c) = true ↔ ∃ a, cs = a ++ [c] := by
  rw [beq_iff_eq, List.getLast?_eq_some_iff]

/-- The context reads the text before the cursor as the part before the token and the token, the
longest suffix of identifier characters, cut at a character boundary. The identifier before the
token is the longest such suffix of that part with its trailing white space removed; the cursor
follows a dot or a colon when that part ends with one; and it is at the start of its line when the
line, the token cut from its end when it ends with it, is white space only. -/
theorem context_token_layout (textBefore textAfter currentLine : String) :
    let ctx := analyze textBefore textAfter currentLine
    let tok := ctx.currentToken.toList
    ∃ B, Text.splitAtByte? textBefore.toList
          (Text.byteLength textBefore.toList - Text.byteLength tok) = some (B, tok) ∧
      EndsWithIdent textBefore.toList B tok ∧
      (∃ P, EndsWithIdent (Text.trimEnd B) P ctx.previousToken.toList) ∧
      (ctx.afterDot = true ↔ ∃ A, B = A ++ ['.']) ∧
      (ctx.afterColon = true ↔ ∃ A, B = A ++ [':']) ∧
      (∀ L, currentLine.toList = L ++ tok →
        (ctx.lineStart = true ↔ ∀ c ∈ L, Text.isWhiteSpace c = true)) ∧
      (¬ tok <:+ currentLine.toList →
        (ctx.lineStart = true ↔ ∀ c ∈ currentLine.toList, Text.isWhiteSpace c = true)) := by
  intro ctx tok
  have htok : tok = trailingIdent textBefore.toList := String.toList_ofList
  have hsplit := endsWithIdent_trailingIdent textBefore.toList
  rw [← htok] at hsplit
  have hline : ctx.lineStart =
      Text.isBlank (Text.dropSuffix currentLine.toList (trailingIdent textBefore.toList)) := rfl
  refine ⟨withoutTrailingIdent textBefore.toList, ?_, hsplit, ?_, ?_, ?_, ?_, ?_⟩
  · exact Text.splitAtByte?_sub_byteLength hsplit.split
  · have hprev : ctx.previousToken.toList =
        trailingIdent (Text.trimEnd (withoutTrailingIdent textBefore.toList)) :=
      String.toList_ofList
    rw [hprev]
    exact ⟨_, endsWithIdent_trailingIdent _⟩
  · exact getLast?_beq_iff _ '.'
  · exact getLast?_beq_iff _ ':'
  · intro L hL
    rw [hline, ← htok, hL, Text.dropSuffix_append, Text.isBlank_iff_forall]
  · intro hnot
    rw [hline, ← htok, Text.dropSuffix_of_not_suffix hnot, Text.isBlank_iff_forall]

end Context

end SnippetAssist
