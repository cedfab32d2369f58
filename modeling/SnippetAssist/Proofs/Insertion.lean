import SnippetAssist.Engine
import SnippetAssist.Host.Memory
import SnippetAssist.Proofs.Expansion
import SnippetAssist.Proofs.LineIndexLaws
import SnippetAssist.Proofs.NavigatorSessions

/-!
# Inserting a template

A template inserted into a document at a position keeps its own positions, taken relative to the
insertion point: every byte offset of the inserted text lands at the position the template gives
it, relative to the point (`LineIndex.lineCol_splice`), and that position leads back to the
offset. So the stops of a template, placed relative to the insertion point as the navigator places
the cursor, are the positions just past their markers in the new document.

The engine in primary mode inserts the template expanded with no values, which is the template
itself, at the offset of the requested position; what follows (the usage count, the session start)
leaves the text alone. The insertion point must lie within its line, so that its offset is not cut
at the line's end, and on a character boundary, so that the document splits there.
-/

namespace SnippetAssist

/-- A split at a byte offset cuts the characters into two parts, the first that many bytes long. -/
theorem Text.splitAtByte?_eq_some {cs a b : List Char} {n : Nat}
    (h : Text.splitAtByte? cs n = some (a, b)) : cs = a ++ b ∧ Text.byteLength a = n := by
  fun_induction Text.splitAtByte? cs n generalizing a b with
  | case1 cs =>
    cases h
    exact ⟨rfl, rfl⟩
  | case2 n => cases h
  | case3 c rest n hc ih =>
    obtain ⟨⟨a', b'⟩, h', heq⟩ := Option.map_eq_some_iff.mp h
    cases heq
    obtain ⟨rfl, hlen⟩ := ih h'
    refine ⟨rfl, ?_⟩
    rw [Text.byteLength_cons, hlen]
    omega
  | case4 c rest n hc => cases h

/-! ## The stops of a template, as positions in it -/

namespace Template

/-- An occurrence ends within the bytes it was found in. -/
theorem past_le_length {bs : List UInt8} {o : Occurrence} (ho : o ∈ occurrences bs) :
    o.past ≤ bs.length := by
  obtain ⟨a, -, hocc⟩ := List.mem_filterMap.mp ho
  unfold occurrenceAt? at hocc
  split at hocc
  · rename_i hdollar
    dsimp only at hocc
    split at hocc
    · cases hocc
      have ha := (List.getElem?_eq_some_iff.mp hdollar).1
      have hrun := (List.takeWhile_sublist isDigitByte (l := bs.drop (a + 1))).length_le
      rw [List.length_drop] at hrun
      dsimp only
      omega
    · cases hocc
  · cases hocc

/-- The stop of an occurrence sits, inside the template, at the position just past its digits. -/
theorem tabStop_relative {T : String} {o : Occurrence} (ho : o ∈ occurrences (utf8Bytes T)) :
    (o.tabStop (utf8Bytes T)).relative = (LineIndex.ofString T).lineCol o.past := by
  have hpast := past_le_length ho
  rw [utf8Bytes_eq_charBytes] at hpast ⊢
  rw [LineIndex.ofString, LineIndex.lineCol_ofChars hpast]
  rfl

theorem exists_occurrence_of_mem_tabStops {T : String} {s : TabStop} (hs : s ∈ tabStops T) :
    ∃ o ∈ occurrences (utf8Bytes T), s = o.tabStop (utf8Bytes T) := by
  rw [tabStops, (List.mergeSort_perm _ _).mem_iff, markersFrom_template, markerStops,
    List.mem_map] at hs
  obtain ⟨o, ho, rfl⟩ := hs
  exact ⟨o, ho, rfl⟩

end Template

/-! ## What a session start leaves of the host -/

namespace Navigator

variable {σ : Type} [EditorHost σ]

/-- A property of the host that every host call the navigator makes keeps. -/
structure HostStable (Q : σ → Prop) : Prop where
  setCursor : ∀ host d p host', EditorHost.setCursor host d p = .ok host' → Q host → Q host'
  subscribe : ∀ host k host', EditorHost.subscribeInput host = .ok (k, host') → Q host → Q host'
  unsubscribe : ∀ host k, Q host → Q (EditorHost.unsubscribeInput host k)

section HostStable

variable {Q : σ → Prop} (hQ : HostStable Q) {host : σ}
include hQ

theorem HostStable.exit (n : Navigator) (hq : Q host) : Q (n.exit host).2 := by
  unfold Navigator.exit
  split
  · exact hq
  · split
    · exact hQ.unsubscribe _ _ hq
    · exact hq

theorem HostStable.placeCurrent (n : Navigator) (hq : Q host) : Q (n.placeCurrent host).2.2 := by
  rcases placeCurrent_state n host with heq | ⟨d, p, host', hset, heq⟩ | heq <;> rw [heq]
  · exact hq
  · exact hQ.setCursor _ _ _ _ hset hq
  · exact hQ.exit n hq

theorem HostStable.start (n : Navigator) (d : DocumentId) (o : Position) (ss : List TabStop)
    (hq : Q host) : Q (n.start host d o ss).2.2 := by
  rcases start_state n host d o ss with heq | ⟨k, host', -, hsub, heq⟩ <;> rw [heq]
  · exact hQ.exit n hq
  · exact hQ.placeCurrent _ (hQ.subscribe _ _ _ hsub (hQ.exit n hq))

end HostStable

/-- A session that `start` leaves running is over the document, origin and stops it was given. -/
theorem start_session {n : Navigator} {host : σ} {d : DocumentId} {o : Position}
    {ss : List TabStop} {s' : Session} (h : (n.start host d o ss).2.1.session = some s') :
    s'.document = d ∧ s'.origin = o ∧ s'.stops = ss := by
  rcases start_state n host d o ss with heq | ⟨k, host', -, -, heq⟩ <;> rw [heq] at h
  · rw [exit_session] at h; cases h
  · obtain ⟨s, hs, hd, ho, hst, -⟩ := keeps_placeCurrent _ host' s' h
    cases hs
    exact ⟨hd.symm, ho.symm, hst.symm⟩

end Navigator

namespace MemoryEditor

/-- No host call the navigator makes changes the text of the document. -/
theorem hostStable_text (D : String) : Navigator.HostStable fun ed : MemoryEditor => ed.text = D where
  setCursor ed d p ed' h hq := by
    simp only [EditorHost.setCursor, setCursor] at h
    split at h
    · cases h
    · cases h; exact hq
  subscribe ed k ed' h hq := by
    simp only [EditorHost.subscribeInput, subscribeInput] at h
    split at h
    · cases h
    · cases h; exact hq
  unsubscribe ed k hq := hq

/-- An edit goes in at the offset of its position, where that offset is a character boundary. -/
theorem applyEdit_of_split {ed : MemoryEditor} (hfail : ed.failEdits = false) {p : Position}
    {off : Nat} {before after : List Char}
    (hoff : (LineIndex.ofString ed.text).offset? p = some off)
    (hsplit : Text.splitAtByte? ed.text.toList off = some (before, after)) (doc : DocumentId)
    (t : String) :
    EditorHost.applyEdit ed doc p t =
      .ok { ed with text := String.ofList (before ++ t.toList ++ after), edits := ed.edits + 1 } := by
  rw [LineIndex.ofString] at hoff
  simp [EditorHost.applyEdit, applyEdit, hfail, hoff, hsplit]

end MemoryEditor

/-! ## The engine's insertion -/

namespace Engine

variable {S σ : Type} [SettingsStore S] [EditorHost σ]

theorem persistUsage_navigator (e : Engine S) : e.persistUsage.navigator = e.navigator := by
  unfold persistUsage
  split <;> rfl

theorem persistUsage_mode (e : Engine S) : e.persistUsage.mode = e.mode := by
  unfold persistUsage
  split <;> rfl

/-- In primary mode, once the edit goes through, an insertion is a session start over the
template's stops at the requested position, on the edited host. -/
theorem insert_primary {e : Engine S} {host host' : σ} (r : InsertRequest) {s : Snippet}
    (hmode : e.mode = .primary) (hget : e.repository.get? r.snippet = some s)
    (hedit : EditorHost.applyEdit host r.document r.position
      (Template.expand s.template fun _ => none) = .ok host') :
    (e.insert host r).2.1.navigator =
        (e.navigator.start host' r.document r.position (Template.tabStops s.template)).2.1 ∧
      (e.insert host r).2.2 =
        (e.navigator.start host' r.document r.position (Template.tabStops s.template)).2.2 := by
  unfold insert
  simp only [hget, hmode, hedit, persistUsage_mode, persistUsage_navigator, and_self]

end Engine

/-! ## Positions after an insertion -/

open LineIndex Template

section Inserted

variable {D T : String} {p : Position} {off : Nat} {before after : List Char}

/-- Where the document splits at the offset of a position within its line, the part before is
that many bytes long and ends at that position. -/
theorem origin_of_split (hoff : (ofString D).offset? p = some off)
    (hcol : p.col ≤ (ofString D).lineLength p.line)
    (hsplit : Text.splitAtByte? D.toList off = some (before, after)) :
    Text.byteLength before = off ∧ (ofChars (before ++ after)).lineCol (Text.byteLength before) = p := by
  obtain ⟨hD, hlen⟩ := Text.splitAtByte?_eq_some hsplit
  rw [ofString, hD] at hoff hcol
  exact ⟨hlen, hlen ▸ lineCol_offset? hoff hcol⟩

/-- An offset `e` into a template inserted at `p` is at the template's position of `e`, taken
relative to `p`. -/
theorem lineCol_inserted (hoff : (ofString D).offset? p = some off)
    (hcol : p.col ≤ (ofString D).lineLength p.line)
    (hsplit : Text.splitAtByte? D.toList off = some (before, after)) {e : Nat}
    (he : e ≤ Text.byteLength T.toList) :
    (ofChars (before ++ T.toList ++ after)).lineCol (off + e) =
      ((ofString T).lineCol e).relativeTo p := by
  obtain ⟨hlen, horigin⟩ := origin_of_split hoff hcol hsplit
  rw [← hlen, ← horigin, ofString]
  exact lineCol_splice before T.toList after he

theorem offset?_inserted (hoff : (ofString D).offset? p = some off)
    (hcol : p.col ≤ (ofString D).lineLength p.line)
    (hsplit : Text.splitAtByte? D.toList off = some (before, after)) {e : Nat}
    (he : e ≤ Text.byteLength T.toList) :
    (ofChars (before ++ T.toList ++ after)).offset? (((ofString T).lineCol e).relativeTo p) =
      some (off + e) := by
  obtain ⟨hlen, horigin⟩ := origin_of_split hoff hcol hsplit
  rw [← hlen, ← horigin, ofString]
  exact offset?_splice before T.toList after he

/-- Each stop of a template inserted at `p`, placed relative to `p`, is just past its marker. -/
theorem absolute_tabStop_inserted (hoff : (ofString D).offset? p = some off)
    (hcol : p.col ≤ (ofString D).lineLength p.line)
    (hsplit : Text.splitAtByte? D.toList off = some (before, after)) {s : TabStop}
    (hs : s ∈ tabStops T) :
    ∃ o ∈ occurrences (utf8Bytes T), s = o.tabStop (utf8Bytes T) ∧
      s.absolute p = (ofChars (before ++ T.toList ++ after)).lineCol (off + o.past) := by
  obtain ⟨o, ho, rfl⟩ := exists_occurrence_of_mem_tabStops hs
  have hpast : o.past ≤ Text.byteLength T.toList := by
    rw [← length_charBytes, ← utf8Bytes_eq_charBytes]
    exact past_le_length ho
  refine ⟨o, ho, rfl, ?_⟩
  rw [TabStop.absolute, tabStop_relative ho, lineCol_inserted hoff hcol hsplit hpast]

/-- In primary mode, inserting a snippet at `p` into the memory host puts its template in at the
offset of `p`, and a session that starts runs from `p` over the template's stops. -/
theorem insert_memoryEditor {S : Type} [SettingsStore S] {eng : Engine S} {ed : MemoryEditor}
    {doc : DocumentId} {name : String} {snippet : Snippet} (hmode : eng.mode = .primary)
    (hget : eng.repository.get? name = some snippet) (htemplate : snippet.template = T)
    (htext : ed.text = D) (hfail : ed.failEdits = false)
    (hoff : (ofString D).offset? p = some off)
    (hsplit : Text.splitAtByte? D.toList off = some (before, after)) :
    (eng.insert ed ⟨doc, name, p⟩).2.2.text = String.ofList (before ++ T.toList ++ after) ∧
      ∀ sess, (eng.insert ed ⟨doc, name, p⟩).2.1.navigator.session = some sess →
        sess.origin = p ∧ sess.stops = tabStops T := by
  subst htext htemplate
  have hedit := MemoryEditor.applyEdit_of_split hfail hoff hsplit doc
    (expand snippet.template fun _ => none)
  obtain ⟨hnav, hhost⟩ := Engine.insert_primary ⟨doc, name, p⟩ hmode hget hedit
  refine ⟨?_, fun sess hsess => ?_⟩
  · -- The body the engine inserts is the template expanded with no values: the template itself.
    rw [hhost]
    refine (MemoryEditor.hostStable_text _).start _ _ _ _ ?_
    rw [expand_no_values]
  · rw [hnav] at hsess
    obtain ⟨-, ho, hst⟩ := Navigator.start_session hsess
    exact ⟨ho, hst⟩

end Inserted

/-- A template inserted at a position `p` of a document, within its line and on a character
boundary, keeps its positions relative to `p`: each byte offset `e` of the template is, in the
new document, at the template's position of `e` taken relative to `p`, and that position has the
offset back. Hence every tab stop, placed relative to `p`, is at the position just past its
marker. And this is the document and the session that an insertion in primary mode leaves: the
text with the template put in at the offset of `p`, and a session, if one runs, from `p` over the
template's stops. -/
theorem inserted_positions_relative_to_origin (D T : String) (p : Position) {off : Nat}
    {before after : List Char} (hoff : (ofString D).offset? p = some off)
    (hcol : p.col ≤ (ofString D).lineLength p.line)
    (hsplit : Text.splitAtByte? D.toList off = some (before, after)) :
    (∀ e ≤ Text.byteLength T.toList,
      (ofChars (before ++ T.toList ++ after)).lineCol (off + e) =
          ((ofString T).lineCol e).relativeTo p ∧
        (ofChars (before ++ T.toList ++ after)).offset? (((ofString T).lineCol e).relativeTo p) =
          some (off + e)) ∧
      (∀ s ∈ tabStops T, ∃ o ∈ occurrences (utf8Bytes T), s = o.tabStop (utf8Bytes T) ∧
        s.absolute p = (ofChars (before ++ T.toList ++ after)).lineCol (off + o.past)) ∧
      ∀ {S : Type} [SettingsStore S] (eng : Engine S) (ed : MemoryEditor) (doc : DocumentId)
        (name : String) (snippet : Snippet), eng.mode = .primary →
        eng.repository.get? name = some snippet → snippet.template = T → ed.text = D →
        ed.failEdits = false →
        (eng.insert ed ⟨doc, name, p⟩).2.2.text = String.ofList (before ++ T.toList ++ after) ∧
          ∀ sess, (eng.insert ed ⟨doc, name, p⟩).2.1.navigator.session = some sess →
            sess.origin = p ∧ sess.stops = tabStops T := by
  refine ⟨fun e he => ⟨lineCol_inserted hoff hcol hsplit he, offset?_inserted hoff hcol hsplit he⟩,
    fun s hs => absolute_tabStop_inserted hoff hcol hsplit hs, ?_⟩
  intro S _ eng ed doc name snippet hmode hget htemplate htext hfail
  exact insert_memoryEditor hmode hget htemplate htext hfail hoff hsplit

/-- A template with a stop on its first line and one on a later line, inserted in the middle of a
document's second line. -/
theorem inserted_positions_mid_second_line :
    (ofString "ab\ncd").offset? ⟨1, 1⟩ = some 4 ∧ 1 ≤ (ofString "ab\ncd").lineLength 1 ∧
      Text.splitAtByte? "ab\ncd".toList 4 = some (['a', 'b', '\n', 'c'], ['d']) ∧
      (∀ e ≤ Text.byteLength "x$1\ny$0".toList,
        (ofChars (['a', 'b', '\n', 'c'] ++ "x$1\ny$0".toList ++ ['d'])).lineCol (4 + e) =
            ((ofString "x$1\ny$0").lineCol e).relativeTo ⟨1, 1⟩ ∧
          (ofChars (['a', 'b', '\n', 'c'] ++ "x$1\ny$0".toList ++ ['d'])).offset?
            (((ofString "x$1\ny$0").lineCol e).relativeTo ⟨1, 1⟩) = some (4 + e)) ∧
      (∀ s ∈ tabStops "x$1\ny$0", ∃ o ∈ occurrences (utf8Bytes "x$1\ny$0"),
        s = o.tabStop (utf8Bytes "x$1\ny$0") ∧
          s.absolute ⟨1, 1⟩ =
            (ofChars (['a', 'b', '\n', 'c'] ++ "x$1\ny$0".toList ++ ['d'])).lineCol (4 + o.past)) ∧
      ∀ {S : Type} [SettingsStore S] (eng : Engine S) (ed : MemoryEditor) (doc : DocumentId)
        (name : String) (snippet : Snippet), eng.mode = .primary →
        eng.repository.get? name = some snippet → snippet.template = "x$1\ny$0" →
        ed.text = "ab\ncd" → ed.failEdits = false →
        (eng.insert ed ⟨doc, name, ⟨1, 1⟩⟩).2.2.text =
            String.ofList (['a', 'b', '\n', 'c'] ++ "x$1\ny$0".toList ++ ['d']) ∧
          ∀ sess, (eng.insert ed ⟨doc, name, ⟨1, 1⟩⟩).2.1.navigator.session = some sess →
            sess.origin = ⟨1, 1⟩ ∧ sess.stops = tabStops "x$1\ny$0" := by
  have hoff : (ofString "ab\ncd").offset? ⟨1, 1⟩ = some 4 := by decide
  have hcol : 1 ≤ (ofString "ab\ncd").lineLength 1 := by decide
  have hsplit : Text.splitAtByte? "ab\ncd".toList 4 = some (['a', 'b', '\n', 'c'], ['d']) := by
    decide
  exact ⟨hoff, hcol, hsplit,
    inserted_positions_relative_to_origin "ab\ncd" "x$1\ny$0" ⟨1, 1⟩ hoff hcol hsplit⟩

end SnippetAssist
