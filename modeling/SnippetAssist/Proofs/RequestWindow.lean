import SnippetAssist.Completion
import SnippetAssist.Proofs.LineIndexRoundTrip

/-!
# The text a request sees around the cursor

A request made from a whole source puts the cursor at the offset of the asked position (the end of
the source for a line the source does not have), moved back to the nearest character boundary: the
longest prefix of the source within that many bytes (`Text.prefixWithin`) ends at the greatest
boundary at or before it (`prefixWithin_greatest`). The request keeps the last `lookback`
characters before the cursor and the first `lookback` after it, or all there are, and the part of
the cursor's line before the cursor is the end of the kept text after its last line feed, which is
the last `lookback` characters of that part of the line (`lastLine_window`).
-/

namespace SnippetAssist

open LineIndex Template

/-! ## The longest prefix within a number of bytes -/

namespace Text

/-- The longest prefix within `n` bytes ends at the greatest character boundary at or before `n`:
every prefix within `n` bytes is at most as long. -/
theorem prefixWithin_greatest {cs a c : List Char} (h : cs = a ++ c) {n : Nat}
    (ha : byteLength a ≤ n) : byteLength a ≤ byteLength (prefixWithin cs n) := by
  induction a generalizing cs n with
  | nil => exact Nat.zero_le _
  | cons x a ih =>
    subst h
    rw [byteLength_cons] at ha
    have hx : x.utf8Size ≤ n := by omega
    rw [List.cons_append, prefixWithin, if_pos hx, byteLength_cons, byteLength_cons]
    have := ih rfl (n := n - x.utf8Size) (by omega)
    omega

/-- A text is its longest prefix within `n` bytes followed by the rest. -/
theorem prefixWithin_append_drop (cs : List Char) (n : Nat) :
    cs = prefixWithin cs n ++ cs.drop (prefixWithin cs n).length := by
  have hpre := prefixWithin_prefix cs n
  have h := List.prefix_iff_eq_take.mp hpre
  calc cs = cs.take (prefixWithin cs n).length ++ cs.drop (prefixWithin cs n).length :=
        (List.take_append_drop _ cs).symm
    _ = prefixWithin cs n ++ cs.drop (prefixWithin cs n).length := by rw [← h]

/-- The part of a text after its last line feed: the whole text if it has none. -/
def lastLine (cs : List Char) : List Char := (cs.reverse.takeWhile (· ≠ '\n')).reverse

/-- The part of a text up to and with its last line feed; empty if it has none. -/
def beforeLastLine (cs : List Char) : List Char := (cs.reverse.dropWhile (· ≠ '\n')).reverse

theorem beforeLastLine_append_lastLine (cs : List Char) :
    beforeLastLine cs ++ lastLine cs = cs := by
  rw [beforeLastLine, lastLine, ← List.reverse_append, List.takeWhile_append_dropWhile,
    List.reverse_reverse]

theorem lineFeed_not_mem_lastLine (cs : List Char) : '\n' ∉ lastLine cs := by
  intro h
  rw [lastLine, List.mem_reverse] at h
  have := List.all_eq_true.mp (List.all_takeWhile (l := cs.reverse) (p := (· ≠ '\n'))) '\n' h
  simp at this

/-- The part before the last line is empty or ends with a line feed. -/
theorem beforeLastLine_cases (cs : List Char) :
    beforeLastLine cs = [] ∨ ∃ xs, beforeLastLine cs = xs ++ ['\n'] := by
  unfold beforeLastLine
  cases hd : cs.reverse.dropWhile (· ≠ '\n') with
  | nil => exact .inl rfl
  | cons c rest =>
    -- The first character the drop keeps is one it stopped at: a line feed.
    have hne : cs.reverse.dropWhile (· ≠ '\n') ≠ [] := by
      rw [hd]
      exact List.cons_ne_nil _ _
    have hc := List.head_dropWhile_not (· ≠ '\n') hne
    simp only [hd, List.head_cons, decide_eq_false_iff_not, Decidable.not_not] at hc
    exact .inr ⟨rest.reverse, by rw [List.reverse_cons, hc]⟩

/-- The end of a text after its last line feed, taken over the last `k` characters of the text, is
the last `k` characters of that end, or all of it. -/
theorem lastLine_window (cs : List Char) (k : Nat) :
    lastLine (cs.drop (cs.length - k)) = (lastLine cs).drop ((lastLine cs).length - k) := by
  have hle : (cs.reverse.takeWhile (· ≠ '\n')).length ≤ cs.length := by
    have := (List.takeWhile_sublist (· ≠ '\n') (l := cs.reverse)).length_le
    rwa [List.length_reverse] at this
  rw [lastLine, lastLine, List.reverse_drop, ← List.take_takeWhile, List.reverse_take,
    List.length_reverse]
  congr 1
  omega

end Text

/-! ## The cursor's line -/

/-- Past a part that is empty or ends with a line feed, and a part with no line feed, the column
is the byte length of the second part. -/
theorem col_lineCol_lastLine {X P after : List Char}
    (hX : X = [] ∨ ∃ xs, X = xs ++ ['\n']) (hP : '\n' ∉ P) :
    ((ofChars (X ++ P ++ after)).lineCol (Text.byteLength (X ++ P))).col = Text.byteLength P := by
  have hx : (charBytes X).length + (charBytes P).length ≤ (charBytes (X ++ P ++ after)).length := by
    simp
  rw [Text.byteLength_append, ← length_charBytes, ← length_charBytes, lineCol_ofChars hx]
  -- No byte of the second part is a line feed, so the line starts where the second part does.
  have hnofeed : (0x0A : UInt8) ∉ charBytes P := by
    intro hb
    obtain ⟨c, hc, hbc⟩ := List.mem_flatMap.mp hb
    exact hP (eq_lineFeed_of_mem_utf8EncodeChar hbc ▸ hc)
  have hdrop : (charBytes (X ++ P ++ after)).drop (charBytes X).length =
      charBytes P ++ charBytes after := by
    simp
  have hstart : lineStartBefore (charBytes (X ++ P ++ after)) (charBytes X).length =
      (charBytes X).length := by
    rcases hX with rfl | ⟨xs, rfl⟩
    · rfl
    · have hfeed : (charBytes (xs ++ ['\n'] ++ P ++ after)).drop (charBytes xs).length =
          0x0A :: charBytes (P ++ after) := by
        simp
      have := lineStartBefore_lineFeed hfeed
      simp only [charBytes_append, List.length_append] at this ⊢
      simpa using this
  rw [lineStartBefore_block hdrop hnofeed, hstart]
  dsimp only
  omega

/-- At a cut of a text, the column is the byte length of the part of the cut's last line before it. -/
theorem col_lineCol_cut (before after : List Char) :
    ((ofChars (before ++ after)).lineCol (Text.byteLength before)).col =
      Text.byteLength (Text.lastLine before) := by
  have hcol : ((ofChars (Text.beforeLastLine before ++ Text.lastLine before ++ after)).lineCol
      (Text.byteLength (Text.beforeLastLine before ++ Text.lastLine before))).col =
      Text.byteLength (Text.lastLine before) :=
    col_lineCol_lastLine (Text.beforeLastLine_cases before) (Text.lineFeed_not_mem_lastLine before)
  rwa [Text.beforeLastLine_append_lastLine] at hcol

/-! ## The request -/

namespace Request

theorem ofSource_position (source : String) (p : Position) (lookback : Nat) :
    (ofSource source p lookback).position =
      (ofString source).lineCol (Text.byteLength (Text.prefixWithin source.toList
        (((ofString source).offset? p).getD (ofString source).length))) :=
  rfl

theorem ofSource_textBefore (source : String) (p : Position) (lookback : Nat) :
    (ofSource source p lookback).textBefore.toList =
      (Text.prefixWithin source.toList
        (((ofString source).offset? p).getD (ofString source).length)).drop
        ((Text.prefixWithin source.toList
          (((ofString source).offset? p).getD (ofString source).length)).length - lookback) := by
  simp [ofSource, ofString]

theorem ofSource_textAfter (source : String) (p : Position) (lookback : Nat) :
    (ofSource source p lookback).textAfter.toList =
      (source.toList.drop (Text.prefixWithin source.toList
        (((ofString source).offset? p).getD (ofString source).length)).length).take lookback := by
  simp [ofSource, ofString]

theorem currentLine_toList (r : Request) : r.currentLine.toList = Text.lastLine r.textBefore.toList := by
  simp [currentLine, Text.lastLine]

end Request

/-- The request at position `p` of a source with lookback `L`. Its cursor is the offset of `p`, or
the end of the source when `p`'s line is not one of its lines, moved back to the nearest character
boundary: the source splits there into `before` and `after`, and no shorter cut within the offset
is a longer prefix. The request's position is the position of that boundary, and `p` itself when
`p` lies inside its line on a character boundary. It keeps the last `min L n` characters of
`before` and the first `min L m` of `after`, where `n` and `m` count their characters; and its
current line is the last `min L k` characters of the part of the cursor's line before the cursor,
the `k` characters after the last line feed of `before`, as many bytes as the cursor's column. -/
theorem request_window_at_source (source : String) (p : Position) (L : Nat) :
    ∃ before after, source.toList = before ++ after ∧
      Text.byteLength before ≤ ((ofString source).offset? p).getD (utf8Bytes source).length ∧
      (∀ a c, source.toList = a ++ c →
        Text.byteLength a ≤ ((ofString source).offset? p).getD (utf8Bytes source).length →
        Text.byteLength a ≤ Text.byteLength before) ∧
      (Request.ofSource source p L).position = (ofString source).lineCol (Text.byteLength before) ∧
      (Request.ofSource source p L).textBefore.toList <:+ before ∧
      (Request.ofSource source p L).textBefore.toList.length = min L before.length ∧
      (Request.ofSource source p L).textAfter.toList <+: after ∧
      (Request.ofSource source p L).textAfter.toList.length = min L after.length ∧
      (∃ X P, before = X ++ P ∧ '\n' ∉ P ∧
        Text.byteLength P = (Request.ofSource source p L).position.col ∧
        (Request.ofSource source p L).currentLine.toList <:+ P ∧
        (Request.ofSource source p L).currentLine.toList.length = min L P.length) ∧
      ∀ off line, (ofString source).offset? p = some off →
        (Text.lines source.toList)[p.line]? = some line → p.col ≤ Text.byteLength line →
        (∃ a c, source.toList = a ++ c ∧ Text.byteLength a = off) →
        (Request.ofSource source p L).position = p := by
  have hlen := length_ofString source
  -- The cursor target, and the cut at the boundary at or before it.
  obtain ⟨target, htarget⟩ : ∃ t, t = ((ofString source).offset? p).getD (utf8Bytes source).length :=
    ⟨_, rfl⟩
  obtain ⟨before, hbefore⟩ : ∃ b, b = Text.prefixWithin source.toList target := ⟨_, rfl⟩
  have hsplit : source.toList = before ++ source.toList.drop before.length := by
    rw [hbefore]
    exact Text.prefixWithin_append_drop _ _
  have hgreatest : ∀ a c, source.toList = a ++ c → Text.byteLength a ≤ target →
      Text.byteLength a ≤ Text.byteLength before := fun a c h ha => by
    rw [hbefore]
    exact Text.prefixWithin_greatest h ha
  have hpos : (Request.ofSource source p L).position =
      (ofString source).lineCol (Text.byteLength before) := by
    rw [hbefore, htarget, ← hlen]
    exact Request.ofSource_position source p L
  have hbefore' : (Request.ofSource source p L).textBefore.toList =
      before.drop (before.length - L) := by
    rw [hbefore, htarget, ← hlen]
    exact Request.ofSource_textBefore source p L
  have hafter' : (Request.ofSource source p L).textAfter.toList =
      (source.toList.drop before.length).take L := by
    rw [hbefore, htarget, ← hlen]
    exact Request.ofSource_textAfter source p L
  have hline : (Request.ofSource source p L).currentLine.toList =
      (Text.lastLine before).drop ((Text.lastLine before).length - L) := by
    rw [Request.currentLine_toList, hbefore', Text.lastLine_window]
  rw [← htarget]
  refine ⟨before, source.toList.drop before.length, hsplit, ?_, hgreatest, hpos, ?_, ?_, ?_, ?_, ?_,
    ?_⟩
  · rw [hbefore]
    exact Text.byteLength_prefixWithin_le _ _
  · rw [hbefore']
    exact List.drop_suffix _ _
  · rw [hbefore', List.length_drop]
    omega
  · rw [hafter']
    exact List.take_prefix _ _
  · rw [hafter', List.length_take]
  · -- The cursor's line before the cursor: the end of `before` after its last line feed.
    refine ⟨Text.beforeLastLine before, Text.lastLine before,
      (Text.beforeLastLine_append_lastLine before).symm, Text.lineFeed_not_mem_lastLine before,
      ?_, ?_, ?_⟩
    · have hcol := col_lineCol_cut before (source.toList.drop before.length)
      rw [← hsplit] at hcol
      rw [hpos]
      exact hcol.symm
    · rw [hline]
      exact List.drop_suffix _ _
    · rw [hline, List.length_drop]
      omega
  · rintro off line hoff hline hcol ⟨a, c, ha, hab⟩
    obtain ⟨hk, rfl⟩ := List.getElem?_eq_some_iff.mp hline
    -- On a boundary, the cut is the offset itself.
    have htarget_off : target = off := by rw [htarget, hoff, Option.getD_some]
    have hcut : Text.byteLength before = off := by
      have h₁ := Text.byteLength_prefixWithin_le source.toList target
      have h₂ := hgreatest a c ha (by omega)
      rw [← hbefore] at h₁
      omega
    rw [hpos, hcut]
    exact lineCol_offset? hoff (by rw [lineLength_ofChars _ hk]; exact hcol)

end SnippetAssist
