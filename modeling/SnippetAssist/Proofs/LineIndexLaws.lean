import SnippetAssist.LineIndex
import SnippetAssist.Proofs.Occurrences

/-!
# Laws of the line index

The line index of a text, said on the text's bytes. Its line starts are zero and the offsets just
past the line feeds, so they ascend. Within the text, `lineCol` of an offset is the number of line
feeds before it and its distance from the byte after the last of them, the same two numbers
`Occurrence.tabStop` records; and along one line `lineCol` and `offset?` undo each other. A text
spliced into another keeps its positions, taken relative to the splice point (`lineCol_splice`).

Both directions rest on one fact about any index with ascending starts: an offset at or past the
start of line `k`, and before the start of line `k + 1`, is on line `k`
(`lineCol_eq_of_between`, `offset?_of_between`).
-/

namespace SnippetAssist.LineIndex

open Template

/-! ## Line feeds -/

/-- The indices of the line feeds among the first `e` bytes of `bs`, ascending. -/
def lineFeedsBefore (bs : List UInt8) (e : Nat) : List Nat :=
  (List.range e).filter fun i => bs[i]? = some 0x0A

/-- The indices of all the line feeds of `bs`. -/
def lineFeeds (bs : List UInt8) : List Nat := lineFeedsBefore bs bs.length

theorem lineFeedsBefore_append (a c : List UInt8) (e : Nat) :
    lineFeedsBefore (a ++ c) (a.length + e) =
      lineFeedsBefore a a.length ++ (lineFeedsBefore c e).map (a.length + ·) := by
  have hleft : (List.range a.length).filter (fun i => (a ++ c)[i]? = some 0x0A) =
      lineFeedsBefore a a.length := by
    apply List.filter_congr
    intro i hi
    rw [List.getElem?_append_left (List.mem_range.mp hi)]
  rw [lineFeedsBefore, List.range_add, List.filter_append, hleft, List.filter_map]
  congr 2
  refine List.filter_congr fun j _ => ?_
  simp [List.getElem?_append_right]

/-- The line feeds before `e` do not depend on the bytes from `e` on. -/
theorem lineFeedsBefore_append_left {a : List UInt8} {e : Nat} (h : e ≤ a.length)
    (c : List UInt8) : lineFeedsBefore (a ++ c) e = lineFeedsBefore a e := by
  apply List.filter_congr
  intro i hi
  rw [List.getElem?_append_left (by have := List.mem_range.mp hi; omega)]

theorem lineFeeds_append (a c : List UInt8) :
    lineFeeds (a ++ c) = lineFeeds a ++ (lineFeeds c).map (a.length + ·) := by
  rw [lineFeeds, List.length_append, lineFeedsBefore_append]
  rfl

theorem lineFeeds_utf8EncodeChar (c : Char) :
    lineFeeds (String.utf8EncodeChar c) = if c = '\n' then [0] else [] := by
  by_cases hc : c = '\n'
  · subst hc; rfl
  · rw [if_neg hc, lineFeeds, lineFeedsBefore, List.filter_eq_nil_iff]
    intro i _ hi
    exact hc (eq_lineFeed_of_mem_utf8EncodeChar (List.mem_of_getElem? (of_decide_eq_true hi)))

theorem length_lineFeedsBefore (bs : List UInt8) (e : Nat) :
    (lineFeedsBefore bs e).length = (bs.take e).count 0x0A := by
  -- One byte more: it adds an index to the feeds exactly when it adds a line feed to the prefix.
  induction e with
  | zero => rfl
  | succ e ih =>
    rw [lineFeedsBefore, List.range_succ, List.filter_append, List.length_append,
      ← lineFeedsBefore, ih, List.take_add_one, List.count_append]
    cases h : bs[e]? with
    | none => simp [h]
    | some b => by_cases hb : b = 0x0A <;> simp [h, hb]

/-- A line starts just past the last line feed before it. -/
theorem lineStartBefore_eq (bs : List UInt8) (e : Nat) :
    lineStartBefore bs e = ((lineFeedsBefore bs e).getLast?.map (· + 1)).getD 0 := by
  unfold lineStartBefore
  split
  · rename_i i hi
    rw [lineFeedsBefore, hi]
    rfl
  · rename_i hnone
    rw [lineFeedsBefore, hnone]
    rfl

theorem pairwise_lineFeedsBefore (bs : List UInt8) (e : Nat) :
    (lineFeedsBefore bs e).Pairwise (· < ·) :=
  List.pairwise_lt_range.filter _

theorem lt_of_mem_lineFeedsBefore {bs : List UInt8} {e i : Nat} (h : i ∈ lineFeedsBefore bs e) :
    i < e :=
  List.mem_range.mp (List.mem_filter.mp h).1

/-- The line feeds before `e` are those before `x ≤ e` followed by some at or past `x`. -/
theorem lineFeedsBefore_split (bs : List UInt8) {x e : Nat} (h : x ≤ e) :
    ∃ H, lineFeedsBefore bs e = lineFeedsBefore bs x ++ H ∧ ∀ j ∈ H, x ≤ j := by
  obtain ⟨d, rfl⟩ := Nat.exists_eq_add_of_le h
  rw [lineFeedsBefore, List.range_add, List.filter_append]
  refine ⟨_, rfl, fun j hj => ?_⟩
  obtain ⟨⟨t, -, rfl⟩, -⟩ := List.mem_filter.mp hj |>.imp_left List.mem_map.mp
  omega

/-- The line breaks of a text are the offsets just past its line feeds. -/
theorem breaksFrom_eq (o : Nat) (cs : List Char) :
    breaksFrom o cs = (lineFeeds (charBytes cs)).map (o + · + 1) := by
  -- Character by character: a line feed is the one character whose bytes hold a line feed.
  induction cs generalizing o with
  | nil => rfl
  | cons c rest ih =>
    rw [charBytes_cons, lineFeeds_append, lineFeeds_utf8EncodeChar, String.length_utf8EncodeChar]
    by_cases hc : c = '\n'
    · subst hc
      have hsize : '\n'.utf8Size = 1 := rfl
      simp [breaksFrom, ih, hsize, Nat.add_assoc]
    · simp [breaksFrom, hc, ih, Nat.add_assoc]

/-! ## Indices with ascending starts -/

theorem getElem_le_getElem_of_le {l : List Nat} (hl : l.Pairwise (· < ·)) {i j : Nat}
    (hi : i < l.length) (hj : j < l.length) (hij : i ≤ j) : l[i] ≤ l[j] := by
  rcases Nat.lt_or_eq_of_le hij with h | rfl
  · exact Nat.le_of_lt (List.pairwise_iff_getElem.mp hl i j hi hj h)
  · exact Nat.le_refl _

theorem lt_of_getElem?_succ {l : List Nat} (hl : l.Pairwise (· < ·)) {k s t : Nat}
    (hs : l[k]? = some s) (ht : l[k + 1]? = some t) : s < t := by
  obtain ⟨hk, rfl⟩ := List.getElem?_eq_some_iff.mp hs
  obtain ⟨hk', rfl⟩ := List.getElem?_eq_some_iff.mp ht
  exact List.pairwise_iff_getElem.mp hl k (k + 1) hk hk' (Nat.lt_succ_self k)

/-- In an ascending list, a value between the entries `k` and `k + 1` is at or past exactly
`k + 1` entries. -/
theorem countP_le_eq_of_between {l : List Nat} (hl : l.Pairwise (· < ·)) {k s x : Nat}
    (hk : l[k]? = some s) (hlo : s ≤ x) (hhi : ∀ t, l[k + 1]? = some t → x < t) :
    l.countP (· ≤ x) = k + 1 := by
  obtain ⟨hklt, rfl⟩ := List.getElem?_eq_some_iff.mp hk
  -- The first `k + 1` entries are at most entry `k`, the others at least entry `k + 1`.
  have htake : (l.take (k + 1)).countP (· ≤ x) = k + 1 := by
    rw [List.countP_eq_length.mpr, List.length_take]
    · omega
    intro y hy
    obtain ⟨j, hj, rfl⟩ := List.mem_take_iff_getElem.mp hy
    have := getElem_le_getElem_of_le hl (by omega) hklt (by omega : j ≤ k)
    simp only [decide_eq_true_eq]
    omega
  have hdrop : (l.drop (k + 1)).countP (· ≤ x) = 0 := by
    rw [List.countP_eq_zero]
    intro y hy
    obtain ⟨j, hj, rfl⟩ := List.mem_drop_iff_getElem.mp hy
    have hnext : x < l[k + 1] := hhi _ (List.getElem?_eq_getElem (by omega))
    have := getElem_le_getElem_of_le hl (by omega) (by omega) (by omega : k + 1 ≤ k + 1 + j)
    simp only [decide_eq_true_eq]
    omega
  rw [← List.take_append_drop (k + 1) l, List.countP_append, htake, hdrop]

/-- An offset at or past the start `s` of line `k` and before the next line is on line `k`, at
column `x - s`. -/
theorem lineCol_eq_of_between {idx : LineIndex} (hs : idx.starts.Pairwise (· < ·)) {k s x : Nat}
    (hk : idx.starts[k]? = some s) (hlo : s ≤ x) (hhi : ∀ t, idx.starts[k + 1]? = some t → x < t)
    (hx : x ≤ idx.length) : idx.lineCol x = ⟨k, x - s⟩ := by
  simp only [lineCol, Nat.min_eq_left hx, countP_le_eq_of_between hs hk hlo hhi, Nat.add_sub_cancel,
    List.getD_eq_getElem?_getD, hk, Option.getD_some]

/-- The offset just before the line feed that ends line `k`, or the end of the text. -/
def lineEnd (idx : LineIndex) (k : Nat) : Nat :=
  match idx.starts[k + 1]? with
  | some next => next - 1
  | none => idx.length

/-- The length in bytes of line `k`, its line feed not counted. -/
def lineLength (idx : LineIndex) (k : Nat) : Nat := idx.lineEnd k - idx.starts.getD k 0

theorem offset?_eq (idx : LineIndex) (p : Position) :
    idx.offset? p = idx.starts[p.line]?.map fun s => min (s + p.col) (idx.lineEnd p.line) := by
  unfold offset? lineEnd
  cases idx.starts[p.line]? <;> rfl

/-- The converse of `lineCol_eq_of_between`: the position it gives has that offset. -/
theorem offset?_of_between {idx : LineIndex} {k s x : Nat} (hk : idx.starts[k]? = some s)
    (hlo : s ≤ x) (hhi : ∀ t, idx.starts[k + 1]? = some t → x < t) (hx : x ≤ idx.length) :
    idx.offset? ⟨k, x - s⟩ = some x := by
  rw [offset?_eq, hk, Option.map_some, Option.some_inj, lineEnd]
  dsimp only
  split
  · rename_i t ht
    have := hhi t ht
    omega
  · omega

/-! ## The index of a text -/

section OfChars

variable {cs : List Char}

theorem starts_ofChars (cs : List Char) :
    (ofChars cs).starts = 0 :: (lineFeeds (charBytes cs)).map (· + 1) := by
  simp [ofChars, breaksFrom_eq]

theorem length_ofChars (cs : List Char) : (ofChars cs).length = (charBytes cs).length :=
  (length_charBytes cs).symm

theorem pairwise_starts_ofChars (cs : List Char) : (ofChars cs).starts.Pairwise (· < ·) := by
  rw [starts_ofChars]
  refine List.pairwise_cons.mpr ⟨fun a ha => ?_, ?_⟩
  · obtain ⟨j, -, rfl⟩ := List.mem_map.mp ha
    omega
  · exact (pairwise_lineFeedsBefore _ _).map _ fun _ _ h => Nat.succ_lt_succ h

theorem le_length_of_mem_starts {t : Nat} (h : t ∈ (ofChars cs).starts) :
    t ≤ (ofChars cs).length := by
  rw [starts_ofChars, List.mem_cons] at h
  rw [length_ofChars]
  rcases h with rfl | h
  · exact Nat.zero_le _
  · obtain ⟨j, hj, rfl⟩ := List.mem_map.mp h
    exact lt_of_mem_lineFeedsBefore hj

/-- The line of a byte offset starts after the last line feed before it, and the next line after
the first line feed at or past it. -/
theorem between_ofChars {x : Nat} (hx : x ≤ (charBytes cs).length) :
    (ofChars cs).starts[(lineFeedsBefore (charBytes cs) x).length]? =
        some (lineStartBefore (charBytes cs) x) ∧
      ∀ t, (ofChars cs).starts[(lineFeedsBefore (charBytes cs) x).length + 1]? = some t → x < t := by
  obtain ⟨H, hsplit, hH⟩ := lineFeedsBefore_split (charBytes cs) hx
  have hstarts : (ofChars cs).starts =
      (0 :: (lineFeedsBefore (charBytes cs) x).map (· + 1)) ++ H.map (· + 1) := by
    rw [starts_ofChars, lineFeeds, hsplit, List.map_append, List.cons_append]
  rw [hstarts]
  constructor
  · -- The entry at that index is the last of the starts up to `x`.
    rw [List.getElem?_append_left (by simp), lineStartBefore_eq]
    have hlast := List.getLast?_eq_getElem? (l := 0 :: (lineFeedsBefore (charBytes cs) x).map (· + 1))
    simp only [List.length_cons, List.length_map, Nat.add_sub_cancel, List.getLast?_cons,
      List.getLast?_map] at hlast
    rw [← hlast]
  · intro t ht
    rw [List.getElem?_append_right (by simp)] at ht
    simp only [List.length_cons, List.length_map, Nat.sub_self, List.getElem?_map,
      Option.map_eq_some_iff] at ht
    obtain ⟨h, hh, rfl⟩ := ht
    have := hH h (List.mem_of_getElem? hh)
    omega

/-- Within the text, the position of a byte offset is the number of line feeds before it and its
distance from the start of its line. -/
theorem lineCol_ofChars {x : Nat} (hx : x ≤ (charBytes cs).length) :
    (ofChars cs).lineCol x =
      ⟨((charBytes cs).take x).count 0x0A, x - lineStartBefore (charBytes cs) x⟩ := by
  obtain ⟨hk, hhi⟩ := between_ofChars hx
  rw [lineCol_eq_of_between (pairwise_starts_ofChars cs) hk (lineStartBefore_le _ x) hhi
    (by rw [length_ofChars]; exact hx), length_lineFeedsBefore]

/-- Within the text, the offset of the position of an offset is that offset. -/
theorem offset?_lineCol {x : Nat} (hx : x ≤ (charBytes cs).length) :
    (ofChars cs).offset? ((ofChars cs).lineCol x) = some x := by
  obtain ⟨hk, hhi⟩ := between_ofChars hx
  rw [lineCol_ofChars hx, ← length_lineFeedsBefore]
  exact offset?_of_between hk (lineStartBefore_le _ x) hhi (by rw [length_ofChars]; exact hx)

theorem lineEnd_le_length (k : Nat) : (ofChars cs).lineEnd k ≤ (ofChars cs).length := by
  unfold lineEnd
  split
  · rename_i t ht
    have := le_length_of_mem_starts (List.mem_of_getElem? ht)
    omega
  · exact Nat.le_refl _

theorem start_le_lineEnd {k s : Nat} (hs : (ofChars cs).starts[k]? = some s) :
    s ≤ (ofChars cs).lineEnd k := by
  unfold lineEnd
  split
  · rename_i t ht
    have := lt_of_getElem?_succ (pairwise_starts_ofChars cs) hs ht
    omega
  · exact le_length_of_mem_starts (List.mem_of_getElem? hs)

/-- A position whose column lies within its line is the position of its own offset. -/
theorem lineCol_offset? {p : Position} {off : Nat} (hoff : (ofChars cs).offset? p = some off)
    (hcol : p.col ≤ (ofChars cs).lineLength p.line) : (ofChars cs).lineCol off = p := by
  rw [offset?_eq, Option.map_eq_some_iff] at hoff
  obtain ⟨s, hs, rfl⟩ := hoff
  -- Not cut at the end of the line, the offset is the line's start plus the column.
  have hend : s + p.col ≤ (ofChars cs).lineEnd p.line := by
    have := start_le_lineEnd hs
    rw [lineLength, List.getD_eq_getElem?_getD, hs, Option.getD_some] at hcol
    omega
  have hhi : ∀ t, (ofChars cs).starts[p.line + 1]? = some t → s + p.col < t := by
    intro t ht
    have := lt_of_getElem?_succ (pairwise_starts_ofChars cs) hs ht
    simp only [lineEnd, ht] at hend
    omega
  rw [Nat.min_eq_left hend, lineCol_eq_of_between (pairwise_starts_ofChars cs) hs
    (Nat.le_add_right s p.col) hhi (Nat.le_trans hend (lineEnd_le_length _)),
    Nat.add_sub_cancel_left]

end OfChars

/-! ## A text spliced into another -/

section Splice

variable {a t b : List UInt8} {e : Nat}

/-- Up to an offset inside a spliced block, the line feeds are those of the bytes before the block
and those of the block up to the offset. -/
theorem lineFeedsBefore_splice (he : e ≤ t.length) :
    lineFeedsBefore (a ++ t ++ b) (a.length + e) =
      lineFeedsBefore a a.length ++ (lineFeedsBefore t e).map (a.length + ·) := by
  rw [List.append_assoc, lineFeedsBefore_append, lineFeedsBefore_append_left he]

theorem count_take_splice (he : e ≤ t.length) :
    ((a ++ t ++ b).take (a.length + e)).count 0x0A = a.count 0x0A + (t.take e).count 0x0A := by
  rw [← length_lineFeedsBefore, lineFeedsBefore_splice he, List.length_append, List.length_map,
    length_lineFeedsBefore, length_lineFeedsBefore, List.take_length]

/-- Inside a spliced block, a line starts where it starts in the block, unless the block has no
line feed yet: then it is the line the block was spliced into. -/
theorem lineStartBefore_splice (he : e ≤ t.length) :
    lineStartBefore (a ++ t ++ b) (a.length + e) =
      if (t.take e).count 0x0A = 0 then lineStartBefore a a.length
      else a.length + lineStartBefore t e := by
  rw [lineStartBefore_eq, lineFeedsBefore_splice he, List.getLast?_append, List.getLast?_map,
    lineStartBefore_eq t, lineStartBefore_eq a, ← length_lineFeedsBefore]
  cases hlast : (lineFeedsBefore t e).getLast? with
  | none =>
    rw [List.getLast?_eq_none_iff.mp hlast]
    simp
  | some j =>
    have hne : lineFeedsBefore t e ≠ [] := by
      intro hnil
      rw [hnil] at hlast
      cases hlast
    simp only [Option.map_some, Option.some_or, Option.getD_some,
      if_neg (mt List.length_eq_zero_iff.mp hne)]
    omega

theorem lineStartBefore_append_length (a b : List UInt8) :
    lineStartBefore (a ++ b) a.length = lineStartBefore a a.length := by
  rw [lineStartBefore_eq, lineFeedsBefore_append_left (Nat.le_refl _), lineStartBefore_eq]

end Splice

/-- An offset `e` into a text `T` spliced between `A` and `B` is at the position `e` has in `T`,
taken relative to the position of the splice point in `A ++ B`. -/
theorem lineCol_splice (A T B : List Char) {e : Nat} (he : e ≤ Text.byteLength T) :
    (ofChars (A ++ T ++ B)).lineCol (Text.byteLength A + e) =
      ((ofChars T).lineCol e).relativeTo ((ofChars (A ++ B)).lineCol (Text.byteLength A)) := by
  have hT : e ≤ (charBytes T).length := by rw [length_charBytes]; exact he
  have hA : (charBytes A).length = Text.byteLength A := length_charBytes A
  rw [← hA, lineCol_ofChars (by simp; omega), lineCol_ofChars hT,
    lineCol_ofChars (by rw [charBytes_append, List.length_append]; omega),
    charBytes_append, charBytes_append, charBytes_append, count_take_splice hT,
    lineStartBefore_splice hT, List.take_left, lineStartBefore_append_length]
  have hle := lineStartBefore_le (charBytes A) (charBytes A).length
  -- The two cases of `relativeTo`: still on the splice point's line, or on a line of `T`'s own.
  by_cases hzero : ((charBytes T).take e).count 0x0A = 0
  · have hstart : lineStartBefore (charBytes T) e = 0 := by
      rw [lineStartBefore_eq, List.getLast?_eq_none_iff.mpr]
      · rfl
      · rwa [← List.length_eq_zero_iff, length_lineFeedsBefore]
    rw [if_pos hzero, hzero, hstart]
    simp only [Position.relativeTo_first_line, Nat.add_zero, Position.mk.injEq, true_and]
    omega
  · rw [if_neg hzero, Position.relativeTo_later_line hzero]
    simp only [Position.mk.injEq, true_and]
    omega

theorem offset?_splice (A T B : List Char) {e : Nat} (he : e ≤ Text.byteLength T) :
    (ofChars (A ++ T ++ B)).offset?
        (((ofChars T).lineCol e).relativeTo ((ofChars (A ++ B)).lineCol (Text.byteLength A))) =
      some (Text.byteLength A + e) := by
  rw [← lineCol_splice A T B he]
  apply offset?_lineCol
  rw [length_charBytes, Text.byteLength_append, Text.byteLength_append]
  omega

end SnippetAssist.LineIndex
