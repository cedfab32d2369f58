import SnippetAssist.Proofs.LineIndexLaws

/-!
# Offsets and positions, both ways

The two conversions of a line index undo each other as far as the text allows. An offset goes to a
position and back to itself, cut at the end of the text. A position has an offset exactly when its
line is one of the text's lines, and that offset goes back to the position with its column cut at
the end of the line, so a position comes back unchanged exactly when it lies inside the text. The
lines are the parts of the text between its line feeds (`Text.lines`), one more than it has line
feeds.

Converting an offset never reads a line start that is not there or past the offset, and the
position it gives grows with the offset, line first and column second.
-/

namespace SnippetAssist

/-- The lines of a text: the parts between its line feeds, which they do not hold. -/
def Text.lines (cs : List Char) : List (List Char) := cs.splitOn '\n'

namespace Text

@[simp] theorem lines_nil : lines [] = [[]] := rfl

theorem lines_lineFeed (rest : List Char) : lines ('\n' :: rest) = [] :: lines rest := by
  simp [lines, List.splitOn_cons_eq_if_modifyHead]

theorem lines_cons {c : Char} (hc : c ≠ '\n') (rest : List Char) :
    lines (c :: rest) = (lines rest).modifyHead (c :: ·) := by
  simp [lines, List.splitOn_cons_eq_if_modifyHead, hc]

theorem length_lines (cs : List Char) : (lines cs).length = cs.count '\n' + 1 := by
  induction cs with
  | nil => rfl
  | cons c rest ih =>
    by_cases hc : c = '\n'
    · subst hc
      simp [lines_lineFeed, ih]
    · simp [lines_cons hc, ih, hc]

end Text

namespace LineIndex

open Template

/-! ## Any index -/

theorem lineCol_min (idx : LineIndex) (x : Nat) : idx.lineCol (min x idx.length) = idx.lineCol x := by
  simp only [lineCol, Nat.min_eq_left (Nat.min_le_right x idx.length)]

/-- The line of an offset does not go down as the offset grows, and along one line neither does
its column: the line is the number of line starts at or before the offset. -/
theorem lineCol_mono (idx : LineIndex) {x y : Nat} (h : x ≤ y) :
    (idx.lineCol x).line ≤ (idx.lineCol y).line ∧
      ((idx.lineCol x).line = (idx.lineCol y).line → (idx.lineCol x).col ≤ (idx.lineCol y).col) := by
  have hmin : min x idx.length ≤ min y idx.length := by omega
  have hcount : idx.starts.countP (· ≤ min x idx.length) ≤ idx.starts.countP (· ≤ min y idx.length) :=
    List.countP_mono_left fun t _ ht => by
      simp only [decide_eq_true_eq] at ht ⊢
      omega
  simp only [lineCol]
  refine ⟨by omega, fun hline => ?_⟩
  rw [hline]
  omega

theorem lineEnd_eq (idx : LineIndex) (k : Nat) :
    idx.lineEnd k = ((idx.starts[k + 1]?).map (· - 1)).getD idx.length := by
  unfold lineEnd
  cases idx.starts[k + 1]? <;> rfl

/-! ## Line starts of a text, one character at a time -/

section OfChars

variable {cs : List Char}

theorem breaksFrom_shift (o : Nat) (cs : List Char) :
    breaksFrom o cs = (breaksFrom 0 cs).map (· + o) := by
  rw [breaksFrom_eq, breaksFrom_eq, List.map_map]
  refine List.map_congr_left fun j _ => ?_
  simp only [Function.comp_apply]
  omega

theorem length_breaksFrom (o : Nat) (cs : List Char) : (breaksFrom o cs).length = cs.count '\n' := by
  induction cs generalizing o with
  | nil => rfl
  | cons c rest ih =>
    by_cases hc : c = '\n'
    · subst hc
      simp [breaksFrom, ih]
    · simp [breaksFrom, hc, ih]

theorem lineCount_ofChars (cs : List Char) : (ofChars cs).lineCount = (Text.lines cs).length := by
  simp [lineCount, ofChars, length_breaksFrom, Text.length_lines]

theorem starts_ofChars_lineFeed (rest : List Char) :
    (ofChars ('\n' :: rest)).starts = 0 :: (ofChars rest).starts.map (· + 1) := by
  have hsize : '\n'.utf8Size = 1 := rfl
  simp [ofChars, breaksFrom, hsize, breaksFrom_shift 1 rest]

theorem starts_ofChars_cons {c : Char} (hc : c ≠ '\n') (rest : List Char) :
    (ofChars (c :: rest)).starts = 0 :: (ofChars rest).starts.tail.map (· + c.utf8Size) := by
  simp [ofChars, breaksFrom, hc, breaksFrom_shift c.utf8Size rest]

theorem length_ofChars_cons (c : Char) (rest : List Char) :
    (ofChars (c :: rest)).length = (ofChars rest).length + c.utf8Size := by
  simp [ofChars, Nat.add_comm]

/-- Every line start but the first is past a line feed, so at least one. -/
theorem one_le_of_getElem?_succ {k t : Nat} (h : (ofChars cs).starts[k + 1]? = some t) : 1 ≤ t := by
  have hk : k < (ofChars cs).starts.length := by
    have := (List.getElem?_eq_some_iff.mp h).1
    omega
  have := lt_of_getElem?_succ (pairwise_starts_ofChars cs) (List.getElem?_eq_getElem hk) h
  omega

/-- Past a leading line feed, line `k + 1` is line `k` of the rest. -/
theorem lineLength_lineFeed_succ (rest : List Char) {k : Nat} (hk : k < (ofChars rest).lineCount) :
    (ofChars ('\n' :: rest)).lineLength (k + 1) = (ofChars rest).lineLength k := by
  obtain ⟨s, hs⟩ : ∃ s, (ofChars rest).starts[k]? = some s :=
    ⟨_, List.getElem?_eq_getElem hk⟩
  have hend : (ofChars ('\n' :: rest)).lineEnd (k + 1) = (ofChars rest).lineEnd k + 1 := by
    rw [lineEnd_eq, lineEnd_eq, starts_ofChars_lineFeed, length_ofChars_cons]
    have hsize : '\n'.utf8Size = 1 := rfl
    cases ht : (ofChars rest).starts[k + 1]? with
    | none => simp [ht, hsize]
    | some t =>
      have := one_le_of_getElem?_succ ht
      simp only [List.getElem?_cons_succ, List.getElem?_map, ht, Option.map_some, Option.getD_some]
      omega
  rw [lineLength, lineLength, hend, starts_ofChars_lineFeed, List.getD_eq_getElem?_getD,
    List.getElem?_cons_succ, List.getElem?_map, hs, List.getD_eq_getElem?_getD, hs]
  simp

theorem lineLength_lineFeed_zero (rest : List Char) : (ofChars ('\n' :: rest)).lineLength 0 = 0 := by
  rw [lineLength, lineEnd_eq, starts_ofChars_lineFeed]
  simp [ofChars]

/-- A leading character other than a line feed lengthens the first line by its bytes. -/
theorem lineLength_cons_zero {c : Char} (hc : c ≠ '\n') (rest : List Char) :
    (ofChars (c :: rest)).lineLength 0 = (ofChars rest).lineLength 0 + c.utf8Size := by
  rw [lineLength, lineLength, lineEnd_eq, lineEnd_eq, starts_ofChars_cons hc, length_ofChars_cons]
  have h0 : (ofChars rest).starts[0]? = some 0 := by simp [ofChars]
  cases ht : (ofChars rest).starts[1]? with
  | none => simp [ht, h0]
  | some t =>
    have := one_le_of_getElem?_succ ht
    simp [ht, h0]
    omega

/-- A leading character other than a line feed leaves the later lines as they were. -/
theorem lineLength_cons_succ {c : Char} (hc : c ≠ '\n') (rest : List Char) {k : Nat}
    (hk : k + 1 < (ofChars rest).lineCount) :
    (ofChars (c :: rest)).lineLength (k + 1) = (ofChars rest).lineLength (k + 1) := by
  obtain ⟨s, hs⟩ : ∃ s, (ofChars rest).starts[k + 1]? = some s :=
    ⟨_, List.getElem?_eq_getElem hk⟩
  have hs1 := one_le_of_getElem?_succ hs
  have htail : (ofChars rest).starts.tail[k]? = some s := by simpa using hs
  have hend : (ofChars (c :: rest)).lineEnd (k + 1) = (ofChars rest).lineEnd (k + 1) + c.utf8Size := by
    rw [lineEnd_eq, lineEnd_eq, starts_ofChars_cons hc, length_ofChars_cons]
    cases ht : (ofChars rest).starts[k + 1 + 1]? with
    | none => simp [ht]
    | some t =>
      have := one_le_of_getElem?_succ ht
      simp [ht]
      omega
  have hstart : (ofChars rest).lineEnd (k + 1) ≥ s := start_le_lineEnd hs
  rw [lineLength, lineLength, hend, starts_ofChars_cons hc, List.getD_eq_getElem?_getD,
    List.getElem?_cons_succ, List.getElem?_map, htail, List.getD_eq_getElem?_getD, hs]
  simp only [Option.map_some, Option.getD_some]
  omega

/-- The length of line `k` of the index is the byte length of the text's line `k`, its line feed
not counted. -/
theorem lineLength_ofChars (cs : List Char) {k : Nat} (hk : k < (Text.lines cs).length) :
    (ofChars cs).lineLength k = Text.byteLength ((Text.lines cs)[k]) := by
  -- Character by character: a line feed starts a new line, any other character joins the first.
  induction cs generalizing k with
  | nil =>
    obtain rfl : k = 0 := by simpa using hk
    rfl
  | cons c rest ih =>
    by_cases hc : c = '\n'
    · subst hc
      cases k with
      | zero => simp [lineLength_lineFeed_zero, Text.lines_lineFeed]
      | succ k =>
        have hk' : k < (Text.lines rest).length := by
          simpa [Text.lines_lineFeed] using hk
        rw [lineLength_lineFeed_succ rest (by rw [lineCount_ofChars]; exact hk'), ih hk']
        simp [Text.lines_lineFeed]
    · have hne := List.splitOn_ne_nil '\n' rest
      obtain ⟨l, ls, hls⟩ := List.exists_cons_of_ne_nil hne
      have hlines : Text.lines rest = l :: ls := hls
      cases k with
      | zero =>
        rw [lineLength_cons_zero hc, ih (by simp [hlines])]
        simp [Text.lines_cons hc, hlines, Nat.add_comm]
      | succ k =>
        have hk' : k + 1 < (Text.lines rest).length := by
          simpa [Text.lines_cons hc, hlines] using hk
        rw [lineLength_cons_succ hc rest (by rw [lineCount_ofChars]; exact hk'), ih hk']
        simp [Text.lines_cons hc, hlines]

/-- The line of an offset is one the index has, its start is at or before the offset cut at the
end of the text, and the column is the distance from that start. -/
theorem lineCol_start (cs : List Char) (x : Nat) :
    ∃ s, (ofChars cs).starts[((ofChars cs).lineCol x).line]? = some s ∧
      s ≤ min x (ofChars cs).length ∧ ((ofChars cs).lineCol x).col = min x (ofChars cs).length - s := by
  have hm : min x (ofChars cs).length ≤ (charBytes cs).length := by
    rw [← length_ofChars]
    exact Nat.min_le_right _ _
  obtain ⟨hk, -⟩ := between_ofChars hm
  refine ⟨lineStartBefore (charBytes cs) (min x (ofChars cs).length), ?_,
    lineStartBefore_le _ _, ?_⟩
  · rw [← lineCol_min, lineCol_ofChars hm, ← length_lineFeedsBefore]
    exact hk
  · rw [← lineCol_min, lineCol_ofChars hm]

/-- An offset goes to a position and back, cut at the end of the text. -/
theorem offset?_lineCol_min (cs : List Char) (x : Nat) :
    (ofChars cs).offset? ((ofChars cs).lineCol x) = some (min x (ofChars cs).length) := by
  rw [← lineCol_min]
  apply offset?_lineCol
  rw [← length_ofChars]
  exact Nat.min_le_right _ _

/-- The offset of a position on line `k` goes back to line `k`, the column cut at the line's end. -/
theorem lineCol_offset?_cut {p : Position} {off : Nat} (h : (ofChars cs).offset? p = some off) :
    (ofChars cs).lineCol off = ⟨p.line, min p.col ((ofChars cs).lineLength p.line)⟩ := by
  rw [offset?_eq, Option.map_eq_some_iff] at h
  obtain ⟨s, hs, rfl⟩ := h
  have hle := start_le_lineEnd hs
  -- The cut offset is on line `p.line`: at or past its start, and before the next line's start.
  have hhi : ∀ t, (ofChars cs).starts[p.line + 1]? = some t →
      min (s + p.col) ((ofChars cs).lineEnd p.line) < t := by
    intro t ht
    have := lt_of_getElem?_succ (pairwise_starts_ofChars cs) hs ht
    simp only [lineEnd, ht]
    omega
  rw [lineCol_eq_of_between (pairwise_starts_ofChars cs) hs (by omega) hhi
    (Nat.le_trans (Nat.min_le_right _ _) (lineEnd_le_length _)), lineLength,
    List.getD_eq_getElem?_getD, hs, Option.getD_some]
  simp only [Position.mk.injEq, true_and]
  omega

end OfChars

/-! ## The round trip on a text -/

theorem length_ofString (text : String) : (ofString text).length = (utf8Bytes text).length := by
  rw [utf8Bytes_eq_charBytes, length_charBytes]
  rfl

theorem lineCount_ofString (text : String) :
    (ofString text).lineCount = (Text.lines text.toList).length :=
  lineCount_ofChars text.toList

/-- A position has no offset exactly when its line is past the text's lines. -/
theorem offset?_ofString_eq_none_iff (text : String) (p : Position) :
    (ofString text).offset? p = none ↔ (Text.lines text.toList).length ≤ p.line := by
  rw [offset?_eq_none_iff, lineCount_ofString]

/-- A position on a line of the text has an offset, and the offset goes back to the position with
its column cut at the end of the line. -/
theorem lineCol_offset?_ofString {text : String} {p : Position} {line : List Char}
    (hline : (Text.lines text.toList)[p.line]? = some line) :
    ∃ off, (ofString text).offset? p = some off ∧
      (ofString text).lineCol off = ⟨p.line, min p.col (Text.byteLength line)⟩ := by
  obtain ⟨hk, rfl⟩ := List.getElem?_eq_some_iff.mp hline
  obtain ⟨off, hoff⟩ := Option.ne_none_iff_exists'.mp
    (mt (offset?_ofString_eq_none_iff text p).mp (by omega))
  refine ⟨off, hoff, ?_⟩
  show (ofChars text.toList).lineCol off = _
  rw [lineCol_offset?_cut hoff, lineLength_ofChars _ hk]

/-- Offsets and positions of a text, both ways: an offset goes to a position and back, cut at the
end of the text; a position has an offset exactly when its line is one of the text's `n + 1`
lines, where `n` counts the line feeds, and then goes back to itself with its column cut at the
end of its line (the line's bytes, without its line feed), so it comes back unchanged exactly when
it lies inside the text. Converting an offset reads a line start that the index has, at or before
the offset, so nothing is out of range or negative; and the position grows with the offset, line
first and column second. -/
theorem lineCol_offset_round_trip (text : String) :
    (∀ o, (ofString text).offset? ((ofString text).lineCol o) =
      some (min o (utf8Bytes text).length)) ∧
    (∀ p : Position, (ofString text).offset? p = none ↔ text.toList.count '\n' + 1 ≤ p.line) ∧
    (∀ (p : Position) (line : List Char), (Text.lines text.toList)[p.line]? = some line →
      ∃ off, (ofString text).offset? p = some off ∧
        (ofString text).lineCol off = ⟨p.line, min p.col (Text.byteLength line)⟩) ∧
    (∀ p : Position,
      (∃ off, (ofString text).offset? p = some off ∧ (ofString text).lineCol off = p) ↔
        ∃ line, (Text.lines text.toList)[p.line]? = some line ∧ p.col ≤ Text.byteLength line) ∧
    (∀ o, ∃ s, (ofString text).starts[((ofString text).lineCol o).line]? = some s ∧
      s ≤ min o (utf8Bytes text).length ∧
      ((ofString text).lineCol o).col = min o (utf8Bytes text).length - s) ∧
    ∀ o o', o ≤ o' → ((ofString text).lineCol o).line ≤ ((ofString text).lineCol o').line ∧
      (((ofString text).lineCol o).line = ((ofString text).lineCol o').line →
        ((ofString text).lineCol o).col ≤ ((ofString text).lineCol o').col) := by
  have hlen := length_ofString text
  refine ⟨fun o => ?_, fun p => ?_, fun _ _ hline => lineCol_offset?_ofString hline, fun p => ?_,
    fun o => ?_, fun o o' h => lineCol_mono _ h⟩
  · rw [← hlen]
    exact offset?_lineCol_min _ o
  · rw [offset?_ofString_eq_none_iff, Text.length_lines]
  · constructor
    · rintro ⟨off, hoff, hback⟩
      have hlt : p.line < (Text.lines text.toList).length := by
        have := mt (offset?_ofString_eq_none_iff text p).mpr
          (by rw [hoff]; exact Option.some_ne_none off)
        omega
      refine ⟨_, List.getElem?_eq_getElem hlt, ?_⟩
      obtain ⟨off', hoff', hcol⟩ := lineCol_offset?_ofString (List.getElem?_eq_getElem hlt)
      rw [hoff] at hoff'
      cases hoff'
      rw [hback] at hcol
      have := congrArg Position.col hcol
      simp only at this
      omega
    · rintro ⟨line, hline, hcol⟩
      obtain ⟨off, hoff, hpos⟩ := lineCol_offset?_ofString hline
      refine ⟨off, hoff, ?_⟩
      rw [hpos, Nat.min_eq_left hcol]
  · rw [← hlen]
    exact lineCol_start _ o

end LineIndex

end SnippetAssist
