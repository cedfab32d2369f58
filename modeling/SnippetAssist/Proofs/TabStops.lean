import SnippetAssist.Proofs.Occurrences
import Mathlib.Data.Bool.Basic
import Mathlib.Data.Prod.Lex

/-!
# The tab stops of a template

`Template.tabStops` is held to the occurrences of `SnippetAssist.Proofs.Occurrences`: it lists
one stop per marker occurrence of the template's bytes and nothing else, and it lists them in
the stable order of the key (is it the final stop, its number). So the numbered stops come first
by number, the final stops come last, and stops of one number keep the order of the text.

The scan is taken in two steps. `markersFrom` walks the characters and keeps a line and a column;
walked from any byte of the text, it gives the occurrences from that byte on, provided the line
and column are the line feeds before that byte and its distance from the start of its line.
The sort is then core's `mergeSort`, which is stable.
-/

namespace SnippetAssist.Template

/-! ## The scan -/

@[simp] theorem markersFrom_nil (line col : Nat) : markersFrom line col [] = [] := by
  simp [markersFrom]

theorem markersFrom_lineFeed (line col : Nat) (cs : List Char) :
    markersFrom line col ('\n' :: cs) = markersFrom (line + 1) 0 cs := by
  simp [markersFrom]

theorem markersFrom_dollar (line col : Nat) (cs : List Char) :
    markersFrom line col ('$' :: cs) =
      ((markerAfter? cs).map fun m => (⟨m.stop, line, col + 1 + m.width⟩ : TabStop)).toList ++
        markersFrom line (col + 1) cs := by
  simp only [markersFrom]
  cases markerAfter? cs <;> rfl

theorem markersFrom_other {c : Char} (hnl : c ≠ '\n') (hd : c ≠ '$') (line col : Nat)
    (cs : List Char) : markersFrom line col (c :: cs) = markersFrom line (col + c.utf8Size) cs := by
  simp [markersFrom]

theorem filterMap_range'_add {α : Type} (f : Nat → Option α) (i m n : Nat) :
    (List.range' i (m + n)).filterMap f =
      (List.range' i m).filterMap f ++ (List.range' (i + m) n).filterMap f := by
  have h : List.range' i m ++ List.range' (i + 1 * m) n = List.range' i (m + n) :=
    List.range'_append
  rw [Nat.one_mul] at h
  rw [← h, List.filterMap_append]

/-- Scanning the characters from byte `i` gives the tab stops of the occurrences from `i` on, when
`line` and `col` are where byte `i` stands. -/
theorem markersFrom_eq_occurrences {bs : List UInt8} {cs : List Char} {i line col : Nat}
    (hcs : bs.drop i = charBytes cs) (hline : line = (bs.take i).count 0x0A)
    (hcol : col = i - lineStartBefore bs i) :
    markersFrom line col cs =
      ((List.range' i (charBytes cs).length).filterMap (occurrenceAt? bs)).map (·.tabStop bs) := by
  induction cs generalizing i line col with
  | nil => simp
  | cons c cs ih =>
    have hi := lineStartBefore_le bs i
    by_cases hnl : c = '\n'
    · subst hnl
      have h : bs.drop i = [0x0A] ++ charBytes cs := by simpa using hcs
      rw [markersFrom_lineFeed, charBytes_cons, utf8EncodeChar_lineFeed, List.length_append,
        filterMap_range'_add, filterMap_occurrenceAt?_block h (by decide), List.nil_append]
      have hdrop : bs.drop (i + 1) = charBytes cs := drop_add_of_drop_eq h
      apply ih hdrop
      · rw [count_take_lineFeed h, hline]
      · rw [lineStartBefore_lineFeed h]; omega
    by_cases hd : c = '$'
    · subst hd
      have h : bs.drop i = [0x24] ++ charBytes cs := by simpa using hcs
      have hcount := count_take_block h (by decide)
      have hstart := lineStartBefore_block h (by decide)
      rw [List.length_singleton] at hcount hstart
      have hdrop : bs.drop (i + 1) = charBytes cs := drop_add_of_drop_eq h
      rw [markersFrom_dollar, charBytes_cons, utf8EncodeChar_dollar, List.length_append,
        filterMap_range'_add, List.map_append, List.length_singleton,
        ih hdrop (by rw [hcount, hline]) (by rw [hstart]; omega)]
      congr 1
      -- The dollar sign's own byte gives the marker that the characters after it start.
      have hone : (List.range' i 1).filterMap (occurrenceAt? bs) = (occurrenceAt? bs i).toList := by
        cases hocc : occurrenceAt? bs i <;> simp [List.range', hocc]
      rw [hone, occurrenceAt?_dollar h]
      cases hm : markerAfter? cs with
      | none => rfl
      | some m =>
        simp only [Option.map_some, Option.toList_some, List.map_cons, List.map_nil,
          tabStop_marker h hm, hline, hcol]
        congr 3
        omega
    · -- Any other character holds neither a dollar sign nor a line feed among its bytes.
      have h : bs.drop i = String.utf8EncodeChar c ++ charBytes cs := by simpa using hcs
      have hnd : (0x24 : UInt8) ∉ String.utf8EncodeChar c := fun hb =>
        hd (eq_dollar_of_mem_utf8EncodeChar hb)
      have hnn : (0x0A : UInt8) ∉ String.utf8EncodeChar c := fun hb =>
        hnl (eq_lineFeed_of_mem_utf8EncodeChar hb)
      rw [markersFrom_other hnl hd, charBytes_cons, List.length_append, filterMap_range'_add,
        filterMap_occurrenceAt?_block h hnd, List.nil_append]
      apply ih (drop_add_of_drop_eq h)
      · rw [count_take_block h hnn, hline]
      · rw [lineStartBefore_block h hnn, String.length_utf8EncodeChar]; omega

/-- The scan of a whole template lists the tab stops of its marker occurrences in the order of
the text. -/
theorem markersFrom_template (T : String) :
    markersFrom 0 0 T.toList = markerStops (utf8Bytes T) := by
  rw [markerStops, occurrences, List.range_eq_range', utf8Bytes_eq_charBytes]
  exact markersFrom_eq_occurrences (by rw [List.drop_zero]) rfl
    (by rw [lineStartBefore_zero])

end SnippetAssist.Template

namespace SnippetAssist.TabStop

/-! ## The order of the stops -/

/-- The key stops are visited by: whether it is the final stop, then its number. -/
def sortKey (t : TabStop) : Bool ×ₗ Nat := toLex (decide (t.stop = 0), t.stop)

theorem visitsBefore_iff_sortKey_le {a b : TabStop} :
    a.visitsBefore b = true ↔ a.sortKey ≤ b.sortKey := by
  rw [sortKey, sortKey, Prod.Lex.toLex_le_toLex, visitsBefore]
  by_cases ha : a.stop = 0 <;> by_cases hb : b.stop = 0 <;> simp [ha, hb, Bool.lt_iff]

theorem visitsBefore_trans (a b c : TabStop) (hab : a.visitsBefore b = true)
    (hbc : b.visitsBefore c = true) : a.visitsBefore c = true :=
  visitsBefore_iff_sortKey_le.mpr
    (le_trans (visitsBefore_iff_sortKey_le.mp hab) (visitsBefore_iff_sortKey_le.mp hbc))

theorem visitsBefore_total (a b : TabStop) : (a.visitsBefore b || b.visitsBefore a) = true := by
  rw [Bool.or_eq_true, visitsBefore_iff_sortKey_le, visitsBefore_iff_sortKey_le]
  exact le_total _ _

/-- Sorting by the visiting order keeps the stops of each number in the order they had. -/
theorem filter_mergeSort_visitsBefore (l : List TabStop) (n : Nat) :
    (l.mergeSort visitsBefore).filter (·.stop == n) = l.filter (·.stop == n) := by
  -- The stops of one number are visited alike, so they stay a sublist of the sorted list.
  have hsame : (l.filter (·.stop == n)).Pairwise fun a b => a.visitsBefore b = true := by
    refine List.Pairwise.imp_of_mem ?_ (List.pairwise_of_forall (R := fun _ _ => True) (by simp))
    intro a b ha hb _
    simp only [List.mem_filter, beq_iff_eq] at ha hb
    rw [visitsBefore_iff_sortKey_le, sortKey, sortKey, ha.2, hb.2]
  have hsub : List.Sublist (l.filter (·.stop == n))
      ((l.mergeSort visitsBefore).filter (·.stop == n)) := by
    have h := (List.sublist_mergeSort visitsBefore_trans visitsBefore_total hsame
      (List.filter_sublist (l := l))).filter (·.stop == n)
    simpa only [List.filter_filter, Bool.and_self] using h
  have hlen := ((List.mergeSort_perm l visitsBefore).filter (·.stop == n)).length_eq
  exact (hsub.eq_of_length hlen.symm).symm

end SnippetAssist.TabStop

namespace SnippetAssist.Template

/-! ## The stops of a template -/

/-- The tab stops of a template are the stable sort, by the key (is it the final stop, its
number), of the stops of its marker occurrences in the order of the text: the same stops, in the
key's order, and the stops of each number in the order of the text. -/
theorem tabStops_stable_sort_of_occurrences (T : String) :
    (tabStops T).Perm (markerStops (utf8Bytes T)) ∧
      (tabStops T).Pairwise (fun a b => a.sortKey ≤ b.sortKey) ∧
      ∀ n, (tabStops T).filter (·.stop == n) = (markerStops (utf8Bytes T)).filter (·.stop == n) := by
  rw [tabStops, markersFrom_template]
  refine ⟨List.mergeSort_perm _ _, ?_, TabStop.filter_mergeSort_visitsBefore _⟩
  exact (List.pairwise_mergeSort TabStop.visitsBefore_trans TabStop.visitsBefore_total _).imp
    TabStop.visitsBefore_iff_sortKey_le.mp

end SnippetAssist.Template
