import SnippetAssist.Template
import SnippetAssist.Text.Utf8

/-!
# Marker occurrences in the bytes of a template

The scanners of `SnippetAssist.Template` read a template character by character. What they are
held to reads it as the bytes of its UTF-8 encoding, one position at a time and with no
scanning: a marker occurrence is a byte holding a dollar sign such that the longest run of ASCII
digits after it is not empty and its value, leading zeros allowed, fits 32 bits. Its tab stop
sits just past the digits: the line is the number of line feeds before that byte, the column its
distance from the byte after the last of them.

The facts about the encoding that let a character scan stand for a byte scan are proved here
too: a dollar sign, a line feed and a digit are one byte each, and no byte of any other
character is one of these. The last section gives the block lemmas the scanner proofs share: a
run of bytes with no dollar sign holds no occurrence, and one with no line feed moves neither the
line count nor the start of the line.
-/

namespace SnippetAssist.Template

/-! ## The bytes of a text -/

/-- The bytes of the UTF-8 encoding of a list of characters. -/
def charBytes (cs : List Char) : List UInt8 := cs.flatMap String.utf8EncodeChar

/-- The bytes of the UTF-8 encoding of a text. -/
def utf8Bytes (s : String) : List UInt8 := s.toUTF8.data.toList

@[simp] theorem charBytes_nil : charBytes [] = [] := rfl

@[simp] theorem charBytes_cons (c : Char) (cs : List Char) :
    charBytes (c :: cs) = String.utf8EncodeChar c ++ charBytes cs := by
  simp [charBytes]

@[simp] theorem charBytes_append (as bs : List Char) :
    charBytes (as ++ bs) = charBytes as ++ charBytes bs := by
  simp [charBytes]

theorem length_charBytes (cs : List Char) : (charBytes cs).length = Text.byteLength cs := by
  induction cs with
  | nil => rfl
  | cons c cs ih => simp [ih]

theorem utf8Bytes_eq_charBytes (s : String) : utf8Bytes s = charBytes s.toList := by
  rw [utf8Bytes, String.toUTF8_eq_toByteArray, ← String.utf8Encode_toList, List.utf8Encode,
    List.toList_data_toByteArray, charBytes]

/-- A text is determined by its bytes. -/
theorem utf8Bytes_inj {s t : String} (h : utf8Bytes s = utf8Bytes t) : s = t := by
  rw [utf8Bytes, utf8Bytes, Array.toList_inj, String.toUTF8_eq_toByteArray,
    String.toUTF8_eq_toByteArray] at h
  exact String.toByteArray_inj.mp (ByteArray.ext h)

/-! ## Characters and their bytes -/

/-- A character below 128 is encoded as the one byte of its code. -/
theorem utf8EncodeChar_of_lt {c : Char} (h : c.toNat < 128) :
    String.utf8EncodeChar c = [UInt8.ofNat c.toNat] := by
  have hv : c.val.toNat = c.toNat := rfl
  unfold String.utf8EncodeChar
  simp only [hv]
  rw [if_pos (by omega)]

/-- Every byte of a character from 128 up is 128 or more: it is a lead or a continuation byte. -/
theorem le_of_mem_utf8EncodeChar {c : Char} (h : 128 ≤ c.toNat) {b : UInt8}
    (hb : b ∈ String.utf8EncodeChar c) : 128 ≤ b.toNat := by
  have hv : c.val.toNat = c.toNat := rfl
  unfold String.utf8EncodeChar at hb
  simp only [hv] at hb
  split at hb
  · omega
  split at hb
  · simp only [List.mem_cons, List.not_mem_nil, or_false] at hb
    rcases hb with rfl | rfl <;> simp only [UInt8.toNat_ofNat'] <;> omega
  split at hb
  · simp only [List.mem_cons, List.not_mem_nil, or_false] at hb
    rcases hb with rfl | rfl | rfl <;> simp only [UInt8.toNat_ofNat'] <;> omega
  · simp only [List.mem_cons, List.not_mem_nil, or_false] at hb
    rcases hb with rfl | rfl | rfl | rfl <;> simp only [UInt8.toNat_ofNat'] <;> omega

/-- A byte below 128 occurs only in the encoding of the character with that code. -/
theorem toNat_of_mem_utf8EncodeChar {c : Char} {b : UInt8} (hb : b ∈ String.utf8EncodeChar c)
    (hlt : b.toNat < 128) : c.toNat = b.toNat := by
  by_cases hc : c.toNat < 128
  · rw [utf8EncodeChar_of_lt hc, List.mem_singleton] at hb
    subst hb
    simp only [UInt8.toNat_ofNat']
    omega
  · exact absurd (le_of_mem_utf8EncodeChar (by omega) hb) (by omega)

theorem eq_dollar_of_mem_utf8EncodeChar {c : Char} (hb : 0x24 ∈ String.utf8EncodeChar c) :
    c = '$' :=
  Char.toNat_inj.mp (toNat_of_mem_utf8EncodeChar hb (by decide))

theorem eq_lineFeed_of_mem_utf8EncodeChar {c : Char} (hb : 0x0A ∈ String.utf8EncodeChar c) :
    c = '\n' :=
  Char.toNat_inj.mp (toNat_of_mem_utf8EncodeChar hb (by decide))

@[simp] theorem utf8EncodeChar_dollar : String.utf8EncodeChar '$' = [0x24] := rfl

@[simp] theorem utf8EncodeChar_lineFeed : String.utf8EncodeChar '\n' = [0x0A] := rfl

/-! ## Digits -/

/-- An ASCII decimal digit, one of the bytes `0x30` to `0x39`. -/
def isDigitByte (b : UInt8) : Bool := 0x30 ≤ b && b ≤ 0x39

/-- The value of a run of digit bytes, leading zeros allowed. -/
def digitBytesValue (ds : List UInt8) : Nat := ds.foldl (fun n d => n * 10 + (d.toNat - 0x30)) 0

theorem isDigit_iff {c : Char} : isDigit c = true ↔ 48 ≤ c.toNat ∧ c.toNat ≤ 57 := by
  simp only [isDigit, Bool.and_eq_true, decide_eq_true_eq, Char.le_def, UInt32.le_iff_toNat_le]
  rfl

theorem isDigitByte_iff {b : UInt8} : isDigitByte b = true ↔ 48 ≤ b.toNat ∧ b.toNat ≤ 57 := by
  simp only [isDigitByte, Bool.and_eq_true, decide_eq_true_eq, UInt8.le_iff_toNat_le]
  rfl

/-- A digit is the one byte of its code. -/
theorem utf8EncodeChar_of_isDigit {c : Char} (h : isDigit c = true) :
    String.utf8EncodeChar c = [UInt8.ofNat c.toNat] :=
  utf8EncodeChar_of_lt (by have := isDigit_iff.mp h; omega)

/-- The first byte of a character is a digit byte exactly when the character is a digit. -/
theorem utf8EncodeChar_head {c : Char} :
    ∃ b bs, String.utf8EncodeChar c = b :: bs ∧ isDigitByte b = isDigit c := by
  by_cases hc : c.toNat < 128
  · refine ⟨_, [], utf8EncodeChar_of_lt hc, ?_⟩
    apply Bool.eq_iff_iff.mpr
    rw [isDigitByte_iff, isDigit_iff, UInt8.toNat_ofNat']
    omega
  · obtain ⟨b, bs, hbs⟩ := List.exists_cons_of_ne_nil (String.utf8EncodeChar_ne_nil (c := c))
    have hb := le_of_mem_utf8EncodeChar (by omega) (hbs ▸ List.mem_cons_self)
    refine ⟨b, bs, hbs, ?_⟩
    apply Bool.eq_iff_iff.mpr
    rw [isDigitByte_iff, isDigit_iff]
    omega

/-- Reading digits byte by byte stops where reading them character by character does. -/
theorem takeWhile_charBytes (cs : List Char) :
    (charBytes cs).takeWhile isDigitByte = charBytes (cs.takeWhile isDigit) := by
  induction cs with
  | nil => rfl
  | cons c cs ih =>
    obtain ⟨b, bs, hbs, hb⟩ := utf8EncodeChar_head (c := c)
    rw [charBytes_cons, hbs]
    by_cases hc : isDigit c = true
    · have hbs' := utf8EncodeChar_of_isDigit hc
      rw [hbs] at hbs'
      obtain ⟨rfl, rfl⟩ := List.cons.inj hbs'
      simp [hc, hb, ih, hbs]
    · simp only [Bool.not_eq_true] at hc
      simp [hc, hb]

/-- A run of digits is encoded as one byte each. -/
theorem charBytes_of_isDigit {ds : List Char} (h : ∀ c ∈ ds, isDigit c = true) :
    charBytes ds = ds.map fun c => UInt8.ofNat c.toNat := by
  induction ds with
  | nil => rfl
  | cons c ds ih =>
    simp only [List.forall_mem_cons] at h
    simp [utf8EncodeChar_of_isDigit h.1, ih h.2]

theorem digitBytesValue_charBytes {ds : List Char} (h : ∀ c ∈ ds, isDigit c = true) :
    digitBytesValue (charBytes ds) = digitsValue ds := by
  rw [charBytes_of_isDigit h, digitBytesValue, digitsValue, List.foldl_map]
  -- The two folds step alike on every digit, whatever the value so far.
  suffices ∀ n, ds.foldl (fun n c => n * 10 + ((UInt8.ofNat c.toNat).toNat - 0x30)) n =
      ds.foldl (fun n d => n * 10 + (d.toNat - '0'.toNat)) n from this 0
  induction ds with
  | nil => intro n; rfl
  | cons c ds ih =>
    intro n
    simp only [List.forall_mem_cons] at h
    have hc := isDigit_iff.mp h.1
    have hval : (UInt8.ofNat c.toNat).toNat - 0x30 = c.toNat - '0'.toNat := by
      rw [UInt8.toNat_ofNat']
      have : '0'.toNat = 48 := rfl
      omega
    simp only [List.foldl_cons, hval]
    exact ih h.2 _

theorem length_charBytes_of_isDigit {ds : List Char} (h : ∀ c ∈ ds, isDigit c = true) :
    (charBytes ds).length = ds.length := by
  simp [charBytes_of_isDigit h]

/-! ## Occurrences, position by position -/

/-- A marker occurrence in the bytes of a template: the byte of its dollar sign, the byte just
past its digits, and its stop number. -/
structure Occurrence where
  start : Nat
  past : Nat
  number : Nat
deriving DecidableEq, Repr

/-- The marker occurrence whose dollar sign (`0x24`) is byte `a` of `bs`, if there is one: the
longest run of digits after it must not be empty and its value must fit 32 bits. -/
def occurrenceAt? (bs : List UInt8) (a : Nat) : Option Occurrence :=
  if bs[a]? = some 0x24 then
    let run := (bs.drop (a + 1)).takeWhile isDigitByte
    if run ≠ [] ∧ digitBytesValue run ≤ stopLimit then
      some ⟨a, a + 1 + run.length, digitBytesValue run⟩
    else none
  else none

/-- The marker occurrences of `bs`, one for each, in the order of the text. -/
def occurrences (bs : List UInt8) : List Occurrence :=
  (List.range bs.length).filterMap (occurrenceAt? bs)

/-- The byte just after the last line feed (`0x0A`) before byte `e`, or zero if there is none. -/
def lineStartBefore (bs : List UInt8) (e : Nat) : Nat :=
  match ((List.range e).filter fun i => bs[i]? = some 0x0A).getLast? with
  | some i => i + 1
  | none => 0

/-- The tab stop of an occurrence: its number, the line feeds before the byte just past it, and
that byte's distance from the start of its line. -/
def Occurrence.tabStop (bs : List UInt8) (o : Occurrence) : TabStop :=
  ⟨o.number, (bs.take o.past).count 0x0A, o.past - lineStartBefore bs o.past⟩

/-- The tab stops of the marker occurrences of `bs`, in the order of the text. -/
def markerStops (bs : List UInt8) : List TabStop := (occurrences bs).map (·.tabStop bs)

theorem occurrenceAt?_start {bs : List UInt8} {a : Nat} {o : Occurrence}
    (h : occurrenceAt? bs a = some o) : o.start = a := by
  unfold occurrenceAt? at h
  dsimp only at h
  split at h
  · split at h
    · cases h; rfl
    · cases h
  · cases h

theorem occurrenceAt?_eq_none {bs : List UInt8} {a : Nat} (h : bs[a]? ≠ some 0x24) :
    occurrenceAt? bs a = none := by
  simp [occurrenceAt?, h]

/-- The occurrence at a dollar sign is the marker that the characters after it start. -/
theorem occurrenceAt?_dollar {bs : List UInt8} {i : Nat} {cs : List Char}
    (h : bs.drop i = 0x24 :: charBytes cs) :
    occurrenceAt? bs i = (markerAfter? cs).map fun m => ⟨i, i + 1 + m.width, m.stop⟩ := by
  have hi : bs[i]? = some 0x24 := by
    rw [← Nat.add_zero i, ← List.getElem?_drop, h]; rfl
  have hrest : bs.drop (i + 1) = charBytes cs := by
    rw [← List.drop_drop, h]; rfl
  have hds : ∀ c ∈ cs.takeWhile isDigit, isDigit c = true :=
    List.all_eq_true.mp List.all_takeWhile
  simp only [occurrenceAt?, hi, if_true, hrest, takeWhile_charBytes,
    length_charBytes_of_isDigit hds, digitBytesValue_charBytes hds, markerAfter?]
  by_cases hnil : cs.takeWhile isDigit = []
  · simp [hnil]
  · have hnil' : charBytes (cs.takeWhile isDigit) ≠ [] := by
      rw [charBytes_of_isDigit hds]; simpa using hnil
    by_cases hv : digitsValue (cs.takeWhile isDigit) ≤ stopLimit <;> simp [hnil, hnil', hv]

/-! ## Blocks of bytes -/

section Blocks

variable {bs xs ys : List UInt8} {i : Nat}

theorem drop_add_of_drop_eq (h : bs.drop i = xs ++ ys) : bs.drop (i + xs.length) = ys := by
  rw [← List.drop_drop, h, List.drop_left]

theorem take_add_of_drop_eq (h : bs.drop i = xs ++ ys) : bs.take (i + xs.length) = bs.take i ++ xs := by
  rw [List.take_add, h, List.take_left]

theorem getElem?_of_drop_eq (h : bs.drop i = xs ++ ys) {t : Nat} (ht : t < xs.length) :
    bs[i + t]? = xs[t]? := by
  rw [← List.getElem?_drop, h, List.getElem?_append_left ht]

/-- A block of bytes with no dollar sign holds no occurrence. -/
theorem filterMap_occurrenceAt?_block (h : bs.drop i = xs ++ ys) (hx : (0x24 : UInt8) ∉ xs) :
    (List.range' i xs.length).filterMap (occurrenceAt? bs) = [] := by
  rw [List.filterMap_eq_nil_iff]
  intro a ha
  obtain ⟨t, ht, rfl⟩ : ∃ t, t < xs.length ∧ a = i + t := by
    rw [List.mem_range'_1] at ha
    exact ⟨a - i, by omega, by omega⟩
  apply occurrenceAt?_eq_none
  rw [getElem?_of_drop_eq h ht]
  intro hget
  exact hx (List.mem_of_getElem? hget)

/-- A block with no line feed adds no line. -/
theorem count_take_block (h : bs.drop i = xs ++ ys) (hx : (0x0A : UInt8) ∉ xs) :
    (bs.take (i + xs.length)).count 0x0A = (bs.take i).count 0x0A := by
  rw [take_add_of_drop_eq h, List.count_append, List.count_eq_zero.mpr hx, Nat.add_zero]

/-- A block with no line feed keeps the start of the line. -/
theorem lineStartBefore_block (h : bs.drop i = xs ++ ys) (hx : (0x0A : UInt8) ∉ xs) :
    lineStartBefore bs (i + xs.length) = lineStartBefore bs i := by
  have hnone : ((List.range xs.length).map (i + ·)).filter
      (fun j => bs[j]? = some 0x0A) = [] := by
    rw [List.filter_eq_nil_iff]
    intro j hj
    simp only [List.mem_map, List.mem_range] at hj
    obtain ⟨t, ht, rfl⟩ := hj
    rw [getElem?_of_drop_eq h ht]
    intro hget
    exact hx (List.mem_of_getElem? (by simpa using hget))
  simp only [lineStartBefore, List.range_add, List.filter_append, hnone, List.append_nil]

/-- A line feed adds a line. -/
theorem count_take_lineFeed (h : bs.drop i = 0x0A :: ys) :
    (bs.take (i + 1)).count 0x0A = (bs.take i).count 0x0A + 1 := by
  have htake := take_add_of_drop_eq (show bs.drop i = [0x0A] ++ ys from h)
  rw [List.length_singleton] at htake
  rw [htake, List.count_append]
  rfl

/-- A line starts just after a line feed. -/
theorem lineStartBefore_lineFeed (h : bs.drop i = 0x0A :: ys) :
    lineStartBefore bs (i + 1) = i + 1 := by
  have hi : bs[i]? = some 0x0A := by
    rw [← Nat.add_zero i, ← List.getElem?_drop, h]; rfl
  simp [lineStartBefore, List.range_succ, List.filter_append, hi]

end Blocks

theorem lineStartBefore_le (bs : List UInt8) (e : Nat) : lineStartBefore bs e ≤ e := by
  unfold lineStartBefore
  split
  · rename_i j hj
    have hmem := List.mem_of_getLast? hj
    simp only [List.mem_filter, List.mem_range] at hmem
    omega
  · omega

theorem lineStartBefore_zero (bs : List UInt8) : lineStartBefore bs 0 = 0 := rfl

/-! ## The bytes of a marker -/

theorem markerAfter?_width {cs : List Char} {m : Marker} (h : markerAfter? cs = some m) :
    m.width = (cs.takeWhile isDigit).length := by
  unfold markerAfter? at h
  dsimp only at h
  split at h
  · cases h
  · split at h
    · cases h; rfl
    · cases h

/-- The digits of a marker take as many bytes as its width. -/
theorem length_markerDigits {cs : List Char} {m : Marker} (h : markerAfter? cs = some m) :
    (charBytes (cs.takeWhile isDigit)).length = m.width := by
  rw [length_charBytes_of_isDigit (List.all_eq_true.mp List.all_takeWhile), markerAfter?_width h]

/-- The bytes at a dollar sign split into the marker's own bytes (the dollar sign and the digits
after it) and the rest. -/
theorem drop_eq_markerBytes {bs : List UInt8} {i : Nat} {cs : List Char}
    (h : bs.drop i = 0x24 :: charBytes cs) :
    bs.drop i = (0x24 :: charBytes (cs.takeWhile isDigit)) ++ charBytes (cs.dropWhile isDigit) := by
  rw [h, List.cons_append, ← charBytes_append, List.takeWhile_append_dropWhile]

theorem forall_isDigitByte_charBytes (cs : List Char) :
    ∀ b ∈ charBytes (cs.takeWhile isDigit), isDigitByte b = true := by
  intro b hb
  have hds : ∀ c ∈ cs.takeWhile isDigit, isDigit c = true :=
    List.all_eq_true.mp List.all_takeWhile
  rw [charBytes_of_isDigit hds, List.mem_map] at hb
  obtain ⟨c, hc, rfl⟩ := hb
  have := isDigit_iff.mp (hds c hc)
  rw [isDigitByte_iff, UInt8.toNat_ofNat']
  omega

/-- A marker holds no line feed. -/
theorem lineFeed_not_mem_markerBytes (cs : List Char) :
    (0x0A : UInt8) ∉ 0x24 :: charBytes (cs.takeWhile isDigit) := by
  intro h
  rcases List.mem_cons.mp h with h | h
  · cases h
  · exact absurd (forall_isDigitByte_charBytes cs _ h) (by decide)

/-- The digits of a marker hold no dollar sign. -/
theorem dollar_not_mem_digitBytes (cs : List Char) :
    (0x24 : UInt8) ∉ charBytes (cs.takeWhile isDigit) := fun h =>
  absurd (forall_isDigitByte_charBytes cs _ h) (by decide)

/-- The stop of a marker occurrence is on the line of its dollar sign, at the column just past its
digits. -/
theorem tabStop_marker {bs : List UInt8} {i : Nat} {cs : List Char} {m : Marker}
    (h : bs.drop i = 0x24 :: charBytes cs) (hm : markerAfter? cs = some m) :
    (⟨i, i + 1 + m.width, m.stop⟩ : Occurrence).tabStop bs =
      ⟨m.stop, (bs.take i).count 0x0A, i + 1 + m.width - lineStartBefore bs i⟩ := by
  have hmark := drop_eq_markerBytes h
  have hpast : i + 1 + m.width = i + (0x24 :: charBytes (cs.takeWhile isDigit)).length := by
    rw [List.length_cons, length_markerDigits hm]
    omega
  -- The marker's bytes hold no line feed, so past them the line is still the dollar sign's.
  have hcount := count_take_block hmark (lineFeed_not_mem_markerBytes cs)
  have hstart := lineStartBefore_block hmark (lineFeed_not_mem_markerBytes cs)
  rw [← hpast] at hcount hstart
  simp only [Occurrence.tabStop, hcount, hstart]

end SnippetAssist.Template
