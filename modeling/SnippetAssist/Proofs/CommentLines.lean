import SnippetAssist.Proofs.RequestWindow

/-!
# A comment runs to the end of its line

A line opens a comment once two hyphens stand together outside a quoted string. The scan that
decides it answers at the first such pair and never looks further, so whatever follows cannot
take the comment back: every extension of a line that opens a comment opens one too
(`opensComment_append`). The line a request reads is the end of the text before the cursor
after its last line feed, so typing characters other than a line feed extends that line by
exactly what was typed (`currentLine_typed`). Together: once the cursor stands in a comment,
typing more on the same line keeps it there, and completions stay empty.
-/

namespace SnippetAssist

namespace Context

/-- An answer of the comment scan is final: from any state, a line that opens a comment keeps
opening one whatever follows it. -/
theorem opensCommentFrom_append {q : Option Char} {p : Char} {l : List Char} (s : List Char)
    (h : opensCommentFrom q p l = true) : opensCommentFrom q p (l ++ s) = true := by
  -- The scan of `l ++ s` takes the same steps as the scan of `l` until `l` runs out, and the
  -- scan of `l` answers before that.
  induction l generalizing q p with
  | nil => simp [opensCommentFrom] at h
  | cons c rest ih =>
    rw [List.cons_append]
    cases q with
    | some q => exact ih h
    | none =>
      simp only [opensCommentFrom] at h ⊢
      split at h
      · rw [if_pos ‹_›]
        exact ih h
      · rw [if_neg ‹_›]
        split at h
        · rw [if_pos ‹_›]
        · rw [if_neg ‹_›]
          exact ih h

theorem opensComment_append {l : List Char} (s : List Char) (h : opensComment l = true) :
    opensComment (l ++ s) = true :=
  opensCommentFrom_append s h

/-- The cursor is in a comment when its line opens one. -/
theorem analyze_inComment (textBefore textAfter currentLine : String) :
    (analyze textBefore textAfter currentLine).inComment = opensComment currentLine.toList := rfl

end Context

namespace Text

/-- Characters other than a line feed, added at the end of a text, extend its last line. -/
theorem lastLine_append {cs s : List Char} (hs : '\n' ∉ s) : lastLine (cs ++ s) = lastLine cs ++ s := by
  have hkeep : ∀ c ∈ s.reverse, decide (c ≠ '\n') = true := by
    intro c hc
    rw [List.mem_reverse] at hc
    simpa using (fun h : c = '\n' => hs (h ▸ hc))
  rw [lastLine, lastLine, List.reverse_append, List.takeWhile_append_of_pos hkeep,
    List.reverse_append, List.reverse_reverse]

end Text

namespace Request

/-- A request is in a comment when its line opens one. -/
theorem context_inComment (r : Request) :
    r.context.inComment = Context.opensComment r.currentLine.toList :=
  Context.analyze_inComment _ _ _

/-- Typing characters other than a line feed extends the cursor's line by what was typed. -/
theorem currentLine_typed (r : Request) {s : String} (hs : '\n' ∉ s.toList) :
    ({ r with textBefore := r.textBefore ++ s } : Request).currentLine = r.currentLine ++ s := by
  apply String.toList_injective
  simp only [currentLine_toList, String.toList_append]
  exact Text.lastLine_append hs

end Request

/-- No completion is offered inside a comment. -/
theorem completions_of_inComment {r : Request} (h : r.context.inComment = true) (repo : Repository)
    (usage : Usage) (n : Nat) : completions r repo usage n = [] := by
  simp [completions, h]

/-- Once a comment is open before the cursor, it stays open while the line is extended, and so
does the silence of completion: whatever is typed on the same line brings no completion back. -/
theorem comment_silences_rest_of_line :
    (∀ l s : String, Context.opensComment l.toList = true →
      Context.opensComment (l ++ s).toList = true) ∧
    ∀ (r : Request) (s : String), r.context.inComment = true → '\n' ∉ s.toList →
      ({ r with textBefore := r.textBefore ++ s } : Request).context.inComment = true ∧
      ∀ repo usage n, completions { r with textBefore := r.textBefore ++ s } repo usage n = [] := by
  have hline : ∀ l s : String, Context.opensComment l.toList = true →
      Context.opensComment (l ++ s).toList = true := by
    intro l s h
    rw [String.toList_append]
    exact Context.opensComment_append _ h
  refine ⟨hline, ?_⟩
  intro r s hr hs
  have htyped : ({ r with textBefore := r.textBefore ++ s } : Request).context.inComment = true := by
    rw [Request.context_inComment, Request.currentLine_typed r hs]
    rw [Request.context_inComment] at hr
    exact hline _ _ hr
  exact ⟨htyped, completions_of_inComment htyped⟩

/-- A comment opened on the second line of the text before the cursor, with a note typed after
it: no completion from the built-in snippets. -/
theorem comment_silences_typed_note :
    (⟨⟨1, 9⟩, "x = 1\ny = 2 -- ", ""⟩ : Request).context.inComment = true ∧ '\n' ∉ "note".toList ∧
      completions { (⟨⟨1, 9⟩, "x = 1\ny = 2 -- ", ""⟩ : Request) with
        textBefore := "x = 1\ny = 2 -- " ++ "note" } Repository.builtin Usage.empty 10 = [] :=
  have hr : (⟨⟨1, 9⟩, "x = 1\ny = 2 -- ", ""⟩ : Request).context.inComment = true := by decide
  have hs : '\n' ∉ "note".toList := by decide
  ⟨hr, hs, (comment_silences_rest_of_line.2 _ "note" hr hs).2 Repository.builtin Usage.empty 10⟩

end SnippetAssist
