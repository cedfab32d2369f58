import SnippetAssist.Proofs.TabStops

/-!
# Expanding a template

`Template.expand` replaces, left to right, each marker occurrence whose number has a value by that
value and copies every other byte of the template. Said on the bytes, with no scan: the result is
the template spliced at the occurrences that have a value, each span from its dollar sign to just
past its digits giving way to the value's bytes. The occurrences are those of
`SnippetAssist.Proofs.Occurrences`, the ones `tabStops` lists, so a marker matches a value only
through its whole digit run, and a value put in is never read again.

The scan of `expandChars` and the positions of the occurrences are lined up as in
`SnippetAssist.Proofs.TabStops`: walked from any byte, the expansion of the rest is the splice of
the rest.
-/

namespace SnippetAssist.Template

/-! ## Splicing -/

/-- The bytes of `bs` from byte `pos` on, with the spans of the given occurrences (in order, not
overlapping, none before `pos`) replaced by the bytes paired with them. -/
def spliceFrom (bs : List UInt8) (pos : Nat) : List (Occurrence × List UInt8) → List UInt8
  | [] => bs.drop pos
  | (o, v) :: rest => (bs.drop pos).take (o.start - pos) ++ v ++ spliceFrom bs o.past rest

/-- The occurrences whose number has a value, each with the bytes of that value. -/
def substitutions (values : Nat → Option String) (os : List Occurrence) :
    List (Occurrence × List UInt8) :=
  os.filterMap fun o => (values o.number).map fun v => (o, utf8Bytes v)

theorem substitutions_append (values : Nat → Option String) (os os' : List Occurrence) :
    substitutions values (os ++ os') = substitutions values os ++ substitutions values os' := by
  simp [substitutions]

/-- Splicing copies a block that lies before every span. -/
theorem spliceFrom_block {bs xs ys : List UInt8} {i : Nat} {subs : List (Occurrence × List UInt8)}
    (h : bs.drop i = xs ++ ys) (hs : ∀ p ∈ subs, i + xs.length ≤ p.1.start) :
    spliceFrom bs i subs = xs ++ spliceFrom bs (i + xs.length) subs := by
  cases subs with
  | nil => simp only [spliceFrom, h, drop_add_of_drop_eq h]
  | cons p rest =>
    obtain ⟨o, v⟩ := p
    have ho : i + xs.length ≤ o.start := hs (o, v) List.mem_cons_self
    have hdrop := drop_add_of_drop_eq h
    simp only [spliceFrom, h, List.take_append, List.take_of_length_le (by omega : xs.length ≤
      o.start - i), ← hdrop, List.append_assoc]
    congr 3
    omega

/-- The occurrences from byte `i` on start at `i` or later. -/
theorem le_start_of_mem_substitutions {bs : List UInt8} {values : Nat → Option String} {i n : Nat}
    {p : Occurrence × List UInt8}
    (hp : p ∈ substitutions values ((List.range' i n).filterMap (occurrenceAt? bs))) :
    i ≤ p.1.start := by
  simp only [substitutions, List.mem_filterMap, Option.map_eq_some_iff] at hp
  obtain ⟨o, ⟨a, ha, hocc⟩, v, -, rfl⟩ := hp
  rw [occurrenceAt?_start hocc]
  exact (List.mem_range'_1.mp ha).1

/-! ## The scan -/

section Scan

variable {values : Nat → Option String} {bs : List UInt8}

/-- The substitutions from byte `i` on, over the next `n` bytes. -/
abbrev substitutionsFrom (values : Nat → Option String) (bs : List UInt8) (i n : Nat) :
    List (Occurrence × List UInt8) :=
  substitutions values ((List.range' i n).filterMap (occurrenceAt? bs))

/-- One step of the scan that copies a block with no substitution in it. -/
theorem spliceFrom_copy {xs : List UInt8} {cs : List Char} {i : Nat}
    (h : bs.drop i = xs ++ charBytes cs) (hnone : substitutionsFrom values bs i xs.length = [])
    (ih : charBytes (expandChars values cs) =
      spliceFrom bs (i + xs.length) (substitutionsFrom values bs (i + xs.length)
        (charBytes cs).length)) :
    xs ++ charBytes (expandChars values cs) =
      spliceFrom bs i (substitutionsFrom values bs i (xs.length + (charBytes cs).length)) := by
  rw [substitutionsFrom, filterMap_range'_add, substitutions_append, ← substitutionsFrom, hnone,
    List.nil_append, spliceFrom_block h (fun _ hp => le_start_of_mem_substitutions hp), ih]

theorem drop_length_takeWhile {α : Type} (p : α → Bool) (l : List α) :
    l.drop (l.takeWhile p).length = l.dropWhile p := by
  have h : (l.takeWhile p ++ l.dropWhile p).drop (l.takeWhile p).length = l.dropWhile p :=
    List.drop_left
  rwa [List.takeWhile_append_dropWhile] at h

/-- Expanding the characters that stand from byte `i` on gives the splice of the bytes from `i`
on. -/
theorem charBytes_expandChars {cs : List Char} {i : Nat} (hcs : bs.drop i = charBytes cs) :
    charBytes (expandChars values cs) =
      spliceFrom bs i (substitutionsFrom values bs i (charBytes cs).length) := by
  fun_induction expandChars values cs generalizing i with
  | case1 => simp [substitutionsFrom, substitutions, spliceFrom, hcs]
  | case2 rest m hm v hv ih =>
    -- A marker with a value: its span gives way to the value, and the scan goes on past it.
    have h : bs.drop i = [0x24] ++ charBytes rest := by simpa using hcs
    have hdigits : (charBytes (rest.takeWhile isDigit)).length = m.width := length_markerDigits hm
    have hsplit : charBytes rest =
        charBytes (rest.takeWhile isDigit) ++ charBytes (rest.drop m.width) := by
      rw [markerAfter?_width hm, drop_length_takeWhile, ← charBytes_append,
        List.takeWhile_append_dropWhile]
    have hdig : bs.drop (i + 1) =
        charBytes (rest.takeWhile isDigit) ++ charBytes (rest.drop m.width) := by
      rw [← hsplit]; exact drop_add_of_drop_eq h
    have hafter : bs.drop (i + 1 + m.width) = charBytes (rest.drop m.width) := by
      have hd := drop_add_of_drop_eq hdig
      rwa [hdigits] at hd
    have hfirst : substitutions values ((List.range' i 1).filterMap (occurrenceAt? bs)) =
        [(⟨i, i + 1 + m.width, m.stop⟩, utf8Bytes v)] := by
      simp [substitutions, List.range', occurrenceAt?_dollar h, hm, hv]
    have hnone : substitutions values ((List.range' (i + 1) m.width).filterMap
        (occurrenceAt? bs)) = [] := by
      rw [← hdigits, filterMap_occurrenceAt?_block hdig (dollar_not_mem_digitBytes rest)]; rfl
    rw [charBytes_append, ← utf8Bytes_eq_charBytes, ih hafter, charBytes_cons,
      utf8EncodeChar_dollar, hsplit, List.length_append, List.length_append, hdigits,
      List.length_singleton]
    simp only [substitutionsFrom, filterMap_range'_add, substitutions_append, hfirst, hnone,
      List.nil_append, List.singleton_append, spliceFrom, Nat.sub_self, List.take_zero]
  | case3 rest m hm hv ih =>
    have h : bs.drop i = [0x24] ++ charBytes rest := by simpa using hcs
    rw [charBytes_cons, charBytes_cons, utf8EncodeChar_dollar, List.length_append]
    refine spliceFrom_copy h ?_ (ih (drop_add_of_drop_eq h))
    simp [substitutions, List.range', occurrenceAt?_dollar h, hm, hv]
  | case4 rest hm ih =>
    have h : bs.drop i = [0x24] ++ charBytes rest := by simpa using hcs
    rw [charBytes_cons, charBytes_cons, utf8EncodeChar_dollar, List.length_append]
    refine spliceFrom_copy h ?_ (ih (drop_add_of_drop_eq h))
    simp [substitutions, List.range', occurrenceAt?_dollar h, hm]
  | case5 c rest hc ih =>
    have h : bs.drop i = String.utf8EncodeChar c ++ charBytes rest := by simpa using hcs
    have hnd : (0x24 : UInt8) ∉ String.utf8EncodeChar c := fun hb =>
      hc (eq_dollar_of_mem_utf8EncodeChar hb)
    rw [charBytes_cons, charBytes_cons, List.length_append]
    refine spliceFrom_copy h ?_ (ih (drop_add_of_drop_eq h))
    rw [substitutionsFrom, filterMap_occurrenceAt?_block h hnd]
    rfl

end Scan

/-! ## The expansion of a template -/

/-- The bytes of an expansion are the template's bytes spliced at the occurrences that have a
value. -/
theorem utf8Bytes_expand (T : String) (values : Nat → Option String) :
    utf8Bytes (expand T values) =
      spliceFrom (utf8Bytes T) 0 (substitutions values (occurrences (utf8Bytes T))) := by
  rw [expand, utf8Bytes_eq_charBytes, String.toList_ofList, occurrences, List.range_eq_range',
    utf8Bytes_eq_charBytes T]
  exact charBytes_expandChars (by rw [List.drop_zero])

/-- A template none of whose marker numbers has a value expands to itself. -/
theorem expand_eq_self {T : String} {values : Nat → Option String}
    (h : ∀ o ∈ occurrences (utf8Bytes T), values o.number = none) : expand T values = T := by
  have hnil : substitutions values (occurrences (utf8Bytes T)) = [] := by
    rw [substitutions, List.filterMap_eq_nil_iff]
    intro o ho
    simp [h o ho]
  apply utf8Bytes_inj
  rw [utf8Bytes_expand, hnil, spliceFrom, List.drop_zero]

/-- Expanding with no values at all gives the template back. -/
theorem expand_no_values (T : String) : expand T (fun _ => none) = T :=
  expand_eq_self fun _ _ => rfl

theorem length_substitutions (values : Nat → Option String) (os : List Occurrence) :
    (substitutions values os).length = (os.filter fun o => (values o.number).isSome).length := by
  rw [substitutions, List.length_filterMap_eq_countP, List.countP_eq_length_filter]
  simp

/-- There are as many substitutions as tab stops whose number has a value. -/
theorem length_substitutions_eq_tabStops (T : String) (values : Nat → Option String) :
    (substitutions values (occurrences (utf8Bytes T))).length =
      ((tabStops T).filter fun s => (values s.stop).isSome).length := by
  have hperm := (List.mergeSort_perm (markersFrom 0 0 T.toList) TabStop.visitsBefore).filter
    fun s => (values s.stop).isSome
  rw [tabStops, hperm.length_eq, markersFrom_template, markerStops, List.filter_map,
    List.length_map, length_substitutions]
  rfl

/-- Expanding a template replaces, left to right, each marker occurrence whose number has a value
by that value and copies every other byte; with no value for any of its numbers the template
comes back unchanged; and there are as many replacements as tab stops whose number has a
value. -/
theorem expand_substitutes_occurrences (T : String) (values : Nat → Option String) :
    utf8Bytes (expand T values) =
        spliceFrom (utf8Bytes T) 0 (substitutions values (occurrences (utf8Bytes T))) ∧
      ((∀ o ∈ occurrences (utf8Bytes T), values o.number = none) → expand T values = T) ∧
      (substitutions values (occurrences (utf8Bytes T))).length =
        ((tabStops T).filter fun s => (values s.stop).isSome).length :=
  ⟨utf8Bytes_expand T values, expand_eq_self, length_substitutions_eq_tabStops T values⟩

end SnippetAssist.Template
