import SnippetAssist.Json.Reader
import SnippetAssist.Json.Writer
import Mathlib.Data.List.Nodup

/-!
# Reading back what was written

The reader gives back every value the writer writes, provided the value is one the reader can
give at all: its numbers are natural numbers that fit 64 bits, no object repeats a key, and
arrays and objects nest within the limit (`Value.Readable`). Then `Value.parse v.render = .ok v`
(`parse_render`), and an array of such values is read back item by item (`valueArray_render`).

The reader runs on fuel, so the proof runs on fuel too: with fuel `f`, a value whose text is
shorter than `f` is read back, and so are the items of an array and the fields of an object up
to their closing bracket (`readsBack`, by induction on `f`). A number stops before the comma or
the bracket that follows it, so the lemmas about numbers carry what may follow them
(`StopsNumber`).
-/

namespace SnippetAssist.Json

open Reader

/-! ## Strings -/

theorem hexValue?_hexDigit : ∀ n, n < 16 → hexValue? (hexDigit n) = some n := by decide

theorem hexQuad?_control {c : Char} (h : c.toNat < 0x20) :
    hexQuad? '0' '0' (hexDigit (c.toNat / 16)) (hexDigit (c.toNat % 16)) = some c.toNat := by
  simp only [hexQuad?, hexValue?_hexDigit _ (by omega : c.toNat / 16 < 16),
    hexValue?_hexDigit _ (by omega : c.toNat % 16 < 16)]
  simp [hexValue?, isDigit, digitValue]
  omega

/-- A character that needs no escape is read as itself. -/
theorem stringChars_plain {c : Char} (hq : c ≠ '"') (hb : c ≠ '\\') (hc : 0x20 ≤ c.toNat)
    (acc rest : List Char) : stringChars acc (c :: rest) = stringChars (c :: acc) rest := by
  rw [stringChars.eq_def]
  split
  · simp_all
  · simp_all
  · rename_i h; exact absurd (List.cons.inj h).1 hb
  · rename_i c' rest' _ _ h
    obtain ⟨rfl, rfl⟩ := List.cons.inj h
    rw [if_neg (by omega)]

/-- Every escape the writer makes is read as the character it stands for. -/
theorem stringChars_escapeChar (c : Char) (acc rest : List Char) :
    stringChars acc (escapeChar c ++ rest) = stringChars (c :: acc) rest := by
  unfold escapeChar
  split
  -- The two-character escapes read back by computation; the rest depends on the code point.
  all_goals first
    | rfl
    | skip
  split
  · rename_i hc
    simp only [List.cons_append, List.nil_append]
    rw [stringChars]
    simp only [hexQuad?_control hc]
    rw [if_neg (by omega), if_pos (by omega), Char.ofNat_toNat]
  · exact stringChars_plain ‹c ≠ '"'› ‹c ≠ '\\'› (by omega) acc rest

theorem stringChars_escaped (cs acc rest : List Char) :
    stringChars acc (cs.flatMap escapeChar ++ '"' :: rest) = .ok (acc.reverse ++ cs, rest) := by
  induction cs generalizing acc with
  | nil => simp [stringChars]
  | cons c cs ih => simp [List.append_assoc, stringChars_escapeChar, ih]

theorem toList_quote (s : String) :
    (quote s).toList = '"' :: (s.toList.flatMap escapeChar ++ ['"']) := by
  simp [quote]

/-- The body of a written string is read back up to its closing quote. -/
theorem string_escaped (s : String) (rest : List Char) :
    string (s.toList.flatMap escapeChar ++ '"' :: rest) = .ok (s, rest) := by
  rw [string, stringChars_escaped, List.reverse_nil, List.nil_append]
  exact congrArg (fun t => Except.ok (t, rest)) String.ofList_toList

/-! ## Reader steps -/

namespace Reader

variable {α β : Type}

theorem bind_apply_ok {x : Reader α} {f : α → Reader β} {cs cs' : List Char} {a : α}
    (h : x cs = .ok (a, cs')) : (x >>= f) cs = f a cs' := by
  simp only [bind, StateT.bind, h]
  rfl

theorem map_apply_ok (f : α → β) {x : Reader α} {cs rest : List Char} {a : α}
    (h : x cs = .ok (a, rest)) : (f <$> x) cs = .ok (f a, rest) := by
  simp only [Functor.map, StateT.map, h]
  rfl

@[simp] theorem bump_cons (c : Char) (cs : List Char) : bump (c :: cs) = .ok ((), cs) := rfl

theorem skipBlank_apply (cs : List Char) : skipBlank cs = .ok ((), cs.dropWhile isBlank) := rfl

theorem peek_apply (cs : List Char) : peek cs = .ok (cs.head?, cs) := rfl

theorem next?_cons {c : Char} (h : isBlank c = false) (cs : List Char) :
    next? (c :: cs) = .ok (some c, c :: cs) := by
  rw [next?, bind_apply_ok (skipBlank_apply _), List.dropWhile_cons_of_neg (by simp [h])]
  rfl

theorem colon_cons (rest : List Char) : colon (':' :: rest) = .ok ((), rest) := by
  rw [colon, bind_apply_ok (next?_cons (by decide) _)]
  rfl

theorem closeArray_cons (rest : List Char) : closeArray (']' :: rest) = .ok ((), rest) := by
  rw [closeArray, bind_apply_ok (next?_cons (by decide) _)]
  rfl

theorem closeObject_cons (rest : List Char) : closeObject ('}' :: rest) = .ok ((), rest) := by
  rw [closeObject, bind_apply_ok (next?_cons (by decide) _)]
  rfl

theorem text_quote (s : String) (rest : List Char) :
    text ((quote s).toList ++ rest) = .ok (s, rest) := by
  rw [toList_quote, text, List.cons_append, bind_apply_ok (next?_cons (by decide) _)]
  simp only
  rw [bind_apply_ok (bump_cons _ _), List.append_assoc, List.singleton_append]
  exact string_escaped s rest

theorem string_quote_tail (k : String) (rest : List Char) :
    string ((quote k).toList.tail ++ rest) = .ok (k, rest) := by
  rw [toList_quote, List.tail_cons, List.append_assoc, List.singleton_append]
  exact string_escaped k rest

/-- At the closing bracket there is no next item. -/
theorem nextItem_close (item : Reader α) (first : Bool) (rest : List Char) :
    nextItem item first (']' :: rest) = .ok (none, ']' :: rest) := by
  rw [nextItem, bind_apply_ok (next?_cons (by decide) _)]
  rfl

/-- The first item is read where it starts. -/
theorem nextItem_first {item : Reader α} {c : Char} {cs rest : List Char} {a : α}
    (hc : c ≠ ']') (hb : isBlank c = false) (h : item (c :: cs) = .ok (a, rest)) :
    nextItem item true (c :: cs) = .ok (some a, rest) := by
  rw [nextItem, bind_apply_ok (next?_cons hb _)]
  simp only [hc, if_false, if_true]
  exact map_apply_ok some h

/-- A later item is read after its comma. -/
theorem nextItem_comma {item : Reader α} {c : Char} {cs rest : List Char} {a : α}
    (hc : c ≠ ']') (hb : isBlank c = false) (h : item (c :: cs) = .ok (a, rest)) :
    nextItem item false (',' :: c :: cs) = .ok (some a, rest) := by
  rw [nextItem, bind_apply_ok (next?_cons (by decide) _)]
  simp only [Bool.false_eq_true, if_false, if_true, show (',' = ']') = False by decide]
  rw [bind_apply_ok (bump_cons _ _), bind_apply_ok (next?_cons hb _)]
  simp only
  exact map_apply_ok some h

/-- At the closing brace there is no next key. -/
theorem nextKey_close (first : Bool) (rest : List Char) :
    nextKey first ('}' :: rest) = .ok (none, '}' :: rest) := by
  rw [nextKey, bind_apply_ok (next?_cons (by decide) _)]
  rfl

/-- The first key is read where it starts. -/
theorem nextKey_first (k : String) (rest : List Char) :
    nextKey true ((quote k).toList ++ rest) = .ok (some k, rest) := by
  rw [toList_quote, List.cons_append, nextKey, bind_apply_ok (next?_cons (by decide) _)]
  simp only [show ('"' = '}') = False by decide, ↓reduceIte, pure_bind]
  rw [bind_apply_ok (bump_cons _ _)]
  have := string_quote_tail k rest
  rw [toList_quote, List.tail_cons] at this
  exact map_apply_ok some this

/-- A later key is read after its comma. -/
theorem nextKey_comma (k : String) (rest : List Char) :
    nextKey false (',' :: ((quote k).toList ++ rest)) = .ok (some k, rest) := by
  rw [nextKey, bind_apply_ok (next?_cons (by decide) _)]
  simp only [show (',' = '}') = False by decide, Bool.false_eq_true, ↓reduceIte]
  rw [bind_apply_ok (bump_cons _ _), toList_quote, List.cons_append,
    bind_apply_ok (next?_cons (by decide) _)]
  simp only [pure_bind, ↓reduceIte]
  rw [bind_apply_ok (bump_cons _ _)]
  have := string_quote_tail k rest
  rw [toList_quote, List.tail_cons] at this
  exact map_apply_ok some this

/-! ## Natural numbers -/

theorem isDigit_eq (c : Char) : isDigit c = c.isDigit := by
  simp [isDigit, Char.isDigit, Char.le_def]

theorem ne_of_isDigit {c d : Char} (hc : isDigit c = true) (hd : isDigit d = false) : c ≠ d := by
  rintro rfl
  simp [hc] at hd

theorem isBlank_of_isDigit {c : Char} (h : isDigit c = true) : isBlank c = false := by
  simp only [isBlank, Bool.or_eq_false_iff, decide_eq_false_iff_not]
  refine ⟨⟨⟨?_, ?_⟩, ?_⟩, ?_⟩ <;> exact ne_of_isDigit h (by decide)

/-- The decimal text of a number starts with a digit. -/
theorem repr_head (n : Nat) : ∃ c cs, n.repr.toList = c :: cs ∧ isDigit c = true := by
  obtain ⟨c, cs, hcs⟩ := List.exists_cons_of_ne_nil (Nat.toDigits_ne_nil (n := n) (b := 10))
  have hmem : c ∈ Nat.toDigits 10 n := by rw [hcs]; exact List.mem_cons_self
  refine ⟨c, cs, by rw [Nat.toList_repr, hcs], ?_⟩
  rw [isDigit_eq]
  exact Nat.isDigit_of_mem_toDigits (by decide) (by decide) hmem

/-- A text that a number stops before: it starts with no digit, point or exponent mark. -/
def StopsNumber (rest : List Char) : Prop :=
  ∀ c ∈ rest.head?, isDigit c = false ∧ c ≠ '.' ∧ c ≠ 'e' ∧ c ≠ 'E'

theorem stopsNumber_nil : StopsNumber [] := fun c hc => by cases hc

theorem stopsNumber_cons {c : Char} (h : c = ',' ∨ c = ']' ∨ c = '}') (rest : List Char) :
    StopsNumber (c :: rest) := by
  intro d hd
  cases hd
  rcases h with rfl | rfl | rfl <;> decide

theorem integerTail_of_stops {rest : List Char} (h : StopsNumber rest) (n : Nat) :
    integerTail true n rest = .ok (.nat n, rest) := by
  cases rest with
  | nil => rfl
  | cons c r =>
    obtain ⟨-, h1, h2, h3⟩ := h c rfl
    simp [integerTail, h1, h2, h3]

theorem le_ofDigitChars (ds : List Char) (acc : Nat) : acc ≤ Nat.ofDigitChars 10 ds acc := by
  induction ds generalizing acc with
  | nil => simp
  | cons c ds ih =>
    rw [Nat.ofDigitChars_cons]
    exact Nat.le_trans (by omega) (ih _)

/-- Digits are taken one by one into the number while it fits 64 bits. -/
theorem integerDigits_digits (positive : Bool) {ds rest : List Char}
    (hds : ∀ c ∈ ds, c.isDigit = true) (hrest : ∀ c ∈ rest.head?, isDigit c = false)
    {acc : Nat} (hle : Nat.ofDigitChars 10 ds acc ≤ wideMax) :
    integerDigits positive acc (ds ++ rest) =
      integerTail positive (Nat.ofDigitChars 10 ds acc) rest := by
  induction ds generalizing acc with
  | nil =>
    cases rest with
    | nil => rfl
    | cons c r => simp [integerDigits, hrest c rfl]
  | cons c ds ih =>
    have hc : isDigit c = true := by rw [isDigit_eq]; exact hds c (by simp)
    rw [Nat.ofDigitChars_cons] at hle ⊢
    -- Every prefix of the digits gives a number no larger than the whole.
    have hstep : acc * 10 + digitValue c ≤ wideMax := by
      have := le_ofDigitChars ds (10 * acc + (c.toNat - '0'.toNat))
      simp only [digitValue]
      omega
    rw [List.cons_append, integerDigits, if_pos hc, if_neg (by omega)]
    rw [show acc * 10 + digitValue c = 10 * acc + (c.toNat - '0'.toNat) by simp [digitValue]; omega]
    exact ih (fun d hd => hds d (by simp [hd])) hle

/-- The digits of a positive number start with a digit other than zero. -/
theorem toDigits_head (n : Nat) (hn : 0 < n) : ∃ d ds, Nat.toDigits 10 n = d :: ds ∧ d ≠ '0' := by
  induction n using Nat.strongRecOn with
  | ind n ih =>
    rw [Nat.toDigits_eq_if (by decide)]
    split
    · exact ⟨_, [], rfl, by simp; omega⟩
    · obtain ⟨d, ds, hds, hd⟩ := ih (n / 10) (by omega) (by omega)
      exact ⟨d, ds ++ [Nat.digitChar (n % 10)], by rw [hds]; rfl, hd⟩

/-- A natural number that fits 64 bits is read back from its decimal text. -/
theorem numberChars_repr {n : Nat} (hn : n ≤ wideMax) {rest : List Char} (h : StopsNumber rest) :
    numberChars true (n.repr.toList ++ rest) = .ok (.nat n, rest) := by
  have hstop : ∀ c ∈ rest.head?, isDigit c = false := fun c hc => (h c hc).1
  rw [Nat.toList_repr]
  -- Zero is the one number whose text starts with `0`.
  rcases Nat.eq_zero_or_pos n with rfl | hpos
  · cases rest with
    | nil => rfl
    | cons c r =>
      simp only [Nat.toDigits_zero, List.cons_append, List.nil_append, numberChars, hstop c rfl]
      exact integerTail_of_stops h 0
  · obtain ⟨d, ds, hds, hd⟩ := toDigits_head n hpos
    have hall : ∀ c ∈ Nat.toDigits 10 n, c.isDigit = true :=
      fun c hc => Nat.isDigit_of_mem_toDigits (by decide) (by decide) hc
    have hdig : isDigit d = true := by rw [isDigit_eq]; exact hall d (by simp [hds])
    have hval : Nat.ofDigitChars 10 ds (digitValue d) = n := by
      have := Nat.ofDigitChars_ten_toDigits (n := n)
      rw [hds, Nat.ofDigitChars_cons] at this
      simpa [digitValue] using this
    rw [hds, List.cons_append, numberChars]
    · rw [if_pos hdig, integerDigits_digits true (fun c hc => hall c (by simp [hds, hc])) hstop
        (by rw [hval]; exact hn), hval]
      exact integerTail_of_stops h n
    · exact hd

/-- A natural number within the bound is read back from its digits. -/
theorem natUpTo_repr {limit n : Nat} (hl : n ≤ limit) (hn : n ≤ wideMax) {rest : List Char}
    (h : StopsNumber rest) : natUpTo limit (n.repr.toList ++ rest) = .ok (n, rest) := by
  have hread := numberChars_repr hn h
  obtain ⟨c, cs, hcs, hdig⟩ := repr_head n
  have hm : c ≠ '-' := ne_of_isDigit hdig (by decide)
  rw [hcs, List.cons_append] at hread
  rw [natUpTo, hcs, List.cons_append, bind_apply_ok (next?_cons (isBlank_of_isDigit hdig) _)]
  simp only [hdig, if_true]
  rw [bind_apply_ok (x := number true) hread]
  simp only [if_pos hl]
  rfl

end Reader

/-! ## Written forms -/

namespace Value

/-- The written items after the first, each behind its comma. -/
def itemsTail (vs : List Value) : List Char := vs.flatMap fun w => ',' :: w.render.toList

/-- The written fields after the first, each behind its comma. -/
def fieldsTail (fs : List (String × Value)) : List Char :=
  fs.flatMap fun kv => ',' :: ((quote kv.1).toList ++ ':' :: kv.2.render.toList)

@[simp] theorem itemsTail_nil : itemsTail [] = [] := rfl

@[simp] theorem itemsTail_cons (w : Value) (ws : List Value) :
    itemsTail (w :: ws) = ',' :: (w.render.toList ++ itemsTail ws) := rfl

@[simp] theorem fieldsTail_nil : fieldsTail [] = [] := rfl

@[simp] theorem fieldsTail_cons (k : String) (w : Value) (fs : List (String × Value)) :
    fieldsTail ((k, w) :: fs) =
      ',' :: ((quote k).toList ++ ':' :: w.render.toList ++ fieldsTail fs) := by
  simp [fieldsTail]

theorem toList_renderItems_cons (v : Value) (vs : List Value) :
    (renderItems (v :: vs)).toList = v.render.toList ++ itemsTail vs := by
  induction vs generalizing v with
  | nil => simp [renderItems, itemsTail]
  | cons w ws ih =>
    rw [renderItems, String.toList_append, String.toList_append, ih]
    · simp [itemsTail]
    · simp

theorem toList_renderFields_cons (k : String) (v : Value) (fs : List (String × Value)) :
    (renderFields ((k, v) :: fs)).toList =
      (quote k).toList ++ ':' :: v.render.toList ++ fieldsTail fs := by
  induction fs generalizing k v with
  | nil => simp [renderFields, fieldsTail]
  | cons kw fs ih =>
    obtain ⟨k', w⟩ := kw
    rw [renderFields, String.toList_append, String.toList_append, String.toList_append,
      String.toList_append, ih]
    · simp [fieldsTail]
    · simp

theorem toList_render_arr (vs : List Value) :
    (Value.arr vs).render.toList = '[' :: ((renderItems vs).toList ++ [']']) := by
  simp [render]

theorem toList_render_obj (fs : List (String × Value)) :
    (Value.obj fs).render.toList = '{' :: ((renderFields fs).toList ++ ['}']) := by
  simp [render]

/-- A value the reader gives back from its written form within `depth` levels of nesting: its
numbers are natural numbers that fit 64 bits, the keys of each object are distinct, and its
arrays and objects stay within the nesting limit. -/
inductive Readable : Nat → Value → Prop
  | null {d : Nat} : Readable d .null
  | bool {d : Nat} {b : Bool} : Readable d (.bool b)
  | nat {d n : Nat} : n ≤ Reader.wideMax → Readable d (.num (.nat n))
  | str {d : Nat} {s : String} : Readable d (.str s)
  | arr {d : Nat} {items : List Value} : 1 < d → (∀ v ∈ items, Readable (d - 1) v) →
      Readable d (.arr items)
  | obj {d : Nat} {fields : List (String × Value)} : 1 < d → (fields.map (·.1)).Nodup →
      (∀ kv ∈ fields, Readable (d - 1) kv.2) → Readable d (.obj fields)

/-- The written form of a readable value starts with a character that is not blank and closes
nothing. -/
theorem Readable.head {d : Nat} {v : Value} (h : Readable d v) :
    ∃ c cs, v.render.toList = c :: cs ∧ isBlank c = false ∧ c ≠ ']' ∧ c ≠ '}' := by
  cases h with
  | null => exact ⟨'n', _, rfl, by decide, by decide, by decide⟩
  | bool =>
    rename_i b
    cases b
    · exact ⟨'f', _, rfl, by decide, by decide, by decide⟩
    · exact ⟨'t', _, rfl, by decide, by decide, by decide⟩
  | nat =>
    rename_i n _
    obtain ⟨c, cs, hcs, hdig⟩ := repr_head n
    exact ⟨c, cs, hcs, isBlank_of_isDigit hdig, ne_of_isDigit hdig (by decide),
      ne_of_isDigit hdig (by decide)⟩
  | str =>
    rename_i s
    exact ⟨'"', s.toList.flatMap escapeChar ++ ['"'], by simp [render, toList_quote], by decide,
      by decide, by decide⟩
  | arr =>
    rename_i items _ _
    exact ⟨'[', (renderItems items).toList ++ [']'], by simp [render], by decide, by decide,
      by decide⟩
  | obj =>
    rename_i fields _ _ _
    exact ⟨'{', (renderFields fields).toList ++ ['}'], by simp [render], by decide, by decide,
      by decide⟩

theorem setField_of_not_mem {key : String} {fields : List (String × Value)}
    (h : key ∉ fields.map (·.1)) (v : Value) : setField key v fields = fields ++ [(key, v)] := by
  induction fields with
  | nil => rfl
  | cons kw fields ih =>
    obtain ⟨k, w⟩ := kw
    simp only [List.map_cons, List.mem_cons, not_or] at h
    rw [setField, if_neg (Ne.symm h.1), ih h.2, List.cons_append]

end Value

namespace Reader

open Value

theorem stopsNumber_itemsTail (ws : List Value) (rest : List Char) :
    StopsNumber (itemsTail ws ++ ']' :: rest) := by
  cases ws with
  | nil => exact stopsNumber_cons (by simp) rest
  | cons w ws => exact stopsNumber_cons (c := ',') (by simp) _

theorem stopsNumber_fieldsTail (fs : List (String × Value)) (rest : List Char) :
    StopsNumber (fieldsTail fs ++ '}' :: rest) := by
  cases fs with
  | nil => exact stopsNumber_cons (by simp) rest
  | cons kw fs => exact stopsNumber_cons (c := ',') (by simp) _

/-! ## Reading back on fuel -/

/-- With this fuel, `value` reads every readable value back from its written form. -/
def ValueReadsBack (fuel : Nat) : Prop :=
  ∀ v d rest, Readable d v → v.render.toList.length < fuel → StopsNumber rest →
    value fuel d (v.render.toList ++ rest) = .ok (v, rest)

/-- With this fuel, `items` reads back the items of an array up to its closing bracket: from the
first, or after those already read. -/
def ItemsReadBack (fuel : Nat) : Prop :=
  (∀ vs d rest, (∀ w ∈ vs, Readable d w) → (renderItems vs).toList.length + 1 < fuel →
    items fuel d true [] ((renderItems vs).toList ++ ']' :: rest) = .ok (vs, ']' :: rest)) ∧
  ∀ vs d acc rest, (∀ w ∈ vs, Readable d w) → (itemsTail vs).length < fuel →
    items fuel d false acc (itemsTail vs ++ ']' :: rest) = .ok (acc.reverse ++ vs, ']' :: rest)

/-- With this fuel, `fields` reads back the fields of an object with distinct keys up to its
closing brace: from the first, or after those already read. -/
def FieldsReadBack (fuel : Nat) : Prop :=
  (∀ fs d rest, (∀ kv ∈ fs, Readable d kv.2) → (fs.map (·.1)).Nodup →
    (renderFields fs).toList.length + 1 < fuel →
    fields fuel d true [] ((renderFields fs).toList ++ '}' :: rest) = .ok (fs, '}' :: rest)) ∧
  ∀ fs d acc rest, (∀ kv ∈ fs, Readable d kv.2) → ((acc ++ fs).map (·.1)).Nodup →
    (fieldsTail fs).length < fuel →
    fields fuel d false acc (fieldsTail fs ++ '}' :: rest) = .ok (acc ++ fs, '}' :: rest)

theorem itemsReadBack_succ {f : Nat} (hv : ValueReadsBack f) (hi : ItemsReadBack f) :
    ItemsReadBack (f + 1) := by
  -- Each item is read by `value` with the fuel left, and the items after it by `items`.
  have later : ∀ vs d acc rest, (∀ w ∈ vs, Readable d w) → (itemsTail vs).length < f + 1 →
      items (f + 1) d false acc (itemsTail vs ++ ']' :: rest) =
        .ok (acc.reverse ++ vs, ']' :: rest) := by
    intro vs d acc rest hr hlen
    cases vs with
    | nil =>
      rw [items, itemsTail_nil, List.nil_append, bind_apply_ok (nextItem_close _ _ _),
        List.append_nil]
      rfl
    | cons w ws =>
      simp only [itemsTail_cons, List.length_append, List.length_cons] at hlen
      obtain ⟨c, cs, hcs, hb, hc, -⟩ := (hr w (by simp)).head
      have hw := hv w d (itemsTail ws ++ ']' :: rest) (hr w (by simp)) (by omega)
        (stopsNumber_itemsTail ws rest)
      rw [hcs, List.cons_append] at hw
      rw [items, itemsTail_cons, List.cons_append, hcs, List.append_assoc, List.cons_append,
        bind_apply_ok (nextItem_comma hc hb hw)]
      dsimp only
      rw [hi.2 ws d (w :: acc) rest (fun x hx => hr x (by simp [hx])) (by omega)]
      simp
  refine ⟨fun vs d rest hr hlen => ?_, later⟩
  cases vs with
  | nil =>
    rw [items, renderItems, String.toList_empty, List.nil_append,
      bind_apply_ok (nextItem_close _ _ _)]
    rfl
  | cons w ws =>
    rw [toList_renderItems_cons] at hlen ⊢
    simp only [List.length_append] at hlen
    obtain ⟨c, cs, hcs, hb, hc, -⟩ := (hr w (by simp)).head
    have hw := hv w d (itemsTail ws ++ ']' :: rest) (hr w (by simp)) (by omega)
      (stopsNumber_itemsTail ws rest)
    rw [hcs, List.cons_append] at hw
    rw [items, hcs, List.append_assoc, List.cons_append, bind_apply_ok (nextItem_first hc hb hw)]
    dsimp only
    rw [hi.2 ws d [w] rest (fun x hx => hr x (by simp [hx])) (by omega)]
    simp

theorem fieldsReadBack_succ {f : Nat} (hv : ValueReadsBack f) (hfs : FieldsReadBack f) :
    FieldsReadBack (f + 1) := by
  -- Each field is its key, a colon and a value read with the fuel left; then the fields after it.
  have field : ∀ k w fs d acc rest, Readable d w → (∀ kv ∈ fs, Readable d kv.2) →
      ((acc ++ (k, w) :: fs).map (·.1)).Nodup → w.render.toList.length < f →
      (fieldsTail fs).length < f →
      (colon >>= fun _ => value f d >>= fun v => fields f d false (setField k v acc))
        (':' :: (w.render.toList ++ (fieldsTail fs ++ '}' :: rest))) =
        .ok (acc ++ (k, w) :: fs, '}' :: rest) := by
    intro k w fs d acc rest hw hr hnd hlw hlf
    have hk : k ∉ acc.map (·.1) := by
      rw [List.map_append, List.map_cons, List.nodup_middle] at hnd
      intro hk
      exact (List.nodup_cons.mp hnd).1 (List.mem_append_left _ hk)
    rw [bind_apply_ok (colon_cons _), bind_apply_ok (hv w d _ hw hlw (stopsNumber_fieldsTail fs rest)),
      setField_of_not_mem hk, hfs.2 fs d (acc ++ [(k, w)]) rest hr (by simpa using hnd) hlf]
    simp
  refine ⟨fun fs d rest hr hnd hlen => ?_, fun fs d acc rest hr hnd hlen => ?_⟩
  · cases fs with
    | nil =>
      rw [fields, renderFields, String.toList_empty, List.nil_append,
        bind_apply_ok (nextKey_close _ _)]
      rfl
    | cons kw fs =>
      obtain ⟨k, w⟩ := kw
      rw [toList_renderFields_cons] at hlen ⊢
      simp only [List.length_append, List.length_cons] at hlen
      rw [fields, List.append_assoc, List.append_assoc, List.cons_append,
        bind_apply_ok (nextKey_first k _)]
      exact field k w fs d [] rest (hr (k, w) (by simp)) (fun x hx => hr x (by simp [hx]))
        (by simpa using hnd) (by omega) (by omega)
  · cases fs with
    | nil =>
      rw [fields, fieldsTail_nil, List.nil_append, bind_apply_ok (nextKey_close _ _),
        List.append_nil]
      rfl
    | cons kw fs =>
      obtain ⟨k, w⟩ := kw
      simp only [fieldsTail_cons, List.length_cons, List.length_append] at hlen
      rw [fields, fieldsTail_cons, List.cons_append, List.append_assoc, List.append_assoc,
        List.cons_append, bind_apply_ok (nextKey_comma k _)]
      exact field k w fs d acc rest (hr (k, w) (by simp)) (fun x hx => hr x (by simp [hx])) hnd
        (by omega) (by omega)

theorem valueReadsBack_succ {f : Nat} (hi : ItemsReadBack f) (hfs : FieldsReadBack f) :
    ValueReadsBack (f + 1) := by
  intro v d rest hr hlen hstop
  cases hr with
  | null =>
    rw [value, show Value.null.render.toList ++ rest = 'n' :: (['u', 'l', 'l'] ++ rest) by
      simp [render], bind_apply_ok (next?_cons (by decide) _)]
    rfl
  | bool =>
    rename_i b
    cases b
    · rw [value, show (Value.bool false).render.toList ++ rest =
        'f' :: (['a', 'l', 's', 'e'] ++ rest) by simp [render],
        bind_apply_ok (next?_cons (by decide) _)]
      rfl
    · rw [value, show (Value.bool true).render.toList ++ rest = 't' :: (['r', 'u', 'e'] ++ rest) by
        simp [render], bind_apply_ok (next?_cons (by decide) _)]
      rfl
  | nat hn =>
    rename_i n
    have hread := numberChars_repr hn hstop
    obtain ⟨c, cs, hcs, hdig⟩ := repr_head n
    -- A digit is none of the characters that start another kind of value.
    have hn' : c ≠ 'n' := ne_of_isDigit hdig (by decide)
    have ht : c ≠ 't' := ne_of_isDigit hdig (by decide)
    have hf : c ≠ 'f' := ne_of_isDigit hdig (by decide)
    have hm : c ≠ '-' := ne_of_isDigit hdig (by decide)
    have hq : c ≠ '"' := ne_of_isDigit hdig (by decide)
    have ho : c ≠ '[' := ne_of_isDigit hdig (by decide)
    have hc : c ≠ '{' := ne_of_isDigit hdig (by decide)
    rw [hcs, List.cons_append] at hread
    rw [value, show (Value.num (.nat n)).render.toList = n.repr.toList from rfl, hcs,
      List.cons_append, bind_apply_ok (next?_cons (isBlank_of_isDigit hdig) _)]
    simp only [hdig, if_true]
    rw [bind_apply_ok (x := number true) hread]
    rfl
  | str =>
    rename_i s
    rw [value, show (Value.str s).render.toList ++ rest =
      '"' :: (s.toList.flatMap escapeChar ++ '"' :: rest) by simp [render, toList_quote],
      bind_apply_ok (next?_cons (by decide) _)]
    simp only
    rw [bind_apply_ok (bump_cons _ _), bind_apply_ok (string_escaped s rest)]
    rfl
  | arr hd hitems =>
    rename_i items
    rw [toList_render_arr] at hlen
    simp only [List.length_cons, List.length_append] at hlen
    rw [value, toList_render_arr, List.cons_append, List.append_assoc, List.singleton_append,
      bind_apply_ok (next?_cons (by decide) _)]
    simp only
    rw [if_neg (by omega), bind_apply_ok (bump_cons _ _),
      bind_apply_ok (hi.1 items (d - 1) rest hitems (by omega)), bind_apply_ok (closeArray_cons _)]
    rfl
  | obj hd hnd hfields =>
    rename_i fields
    rw [toList_render_obj] at hlen
    simp only [List.length_cons, List.length_append] at hlen
    rw [value, toList_render_obj, List.cons_append, List.append_assoc, List.singleton_append,
      bind_apply_ok (next?_cons (by decide) _)]
    simp only
    rw [if_neg (by omega), bind_apply_ok (bump_cons _ _),
      bind_apply_ok (hfs.1 fields (d - 1) rest hfields hnd (by omega)),
      bind_apply_ok (closeObject_cons _)]
    rfl

/-- With any fuel, the reader reads readable values, and the items and fields of their arrays
and objects, back from their written forms. -/
theorem readsBack (fuel : Nat) : ValueReadsBack fuel ∧ ItemsReadBack fuel ∧ FieldsReadBack fuel := by
  induction fuel with
  | zero =>
    refine ⟨fun _ _ _ _ h => absurd h (Nat.not_lt_zero _),
      ⟨fun _ _ _ _ h => ?_, fun _ _ _ _ _ h => ?_⟩,
      ⟨fun _ _ _ _ _ h => ?_, fun _ _ _ _ _ _ h => ?_⟩⟩ <;> omega
  | succ f ih =>
    obtain ⟨hv, hi, hfs⟩ := ih
    exact ⟨valueReadsBack_succ hi hfs, itemsReadBack_succ hv hi, fieldsReadBack_succ hv hfs⟩

end Reader

/-! ## Whole texts -/

/-- A reader that takes the whole text reads the whole text. -/
theorem readText_of_apply {α : Type} {r : Nat → Reader α} {s : String} {a : α}
    (h : r (Reader.fuelFor s.toList) s.toList = .ok (a, [])) : readText r s = .ok a := by
  unfold readText
  simp only [h]
  rfl

theorem length_lt_fuelFor (cs : List Char) : cs.length < Reader.fuelFor cs := by
  unfold Reader.fuelFor
  omega

open Value in
/-- Every readable value is read back from its written form. -/
theorem parse_render {v : Value} (hr : Readable depthLimit v) : Value.parse v.render = .ok v := by
  apply readText_of_apply
  have h := (readsBack _).1 v depthLimit [] hr (length_lt_fuelFor _) stopsNumber_nil
  rwa [List.append_nil] at h

open Value in
/-- An array of readable values is read back as its list of items. -/
theorem valueArray_render {vs : List Value} (hr : ∀ v ∈ vs, Readable (depthLimit - 1) v) :
    readText valueArray (Value.arr vs).render = .ok vs := by
  apply readText_of_apply
  have hlen := length_lt_fuelFor (Value.arr vs).render.toList
  rw [toList_render_arr] at hlen ⊢
  simp only [List.length_cons, List.length_append, List.length_nil] at hlen
  rw [valueArray, bind_apply_ok (next?_cons (by decide) _)]
  simp only
  rw [bind_apply_ok (bump_cons _ _),
    bind_apply_ok ((readsBack _).2.1.1 vs (depthLimit - 1) [] hr (by omega)),
    bind_apply_ok (closeArray_cons _)]
  rfl

end SnippetAssist.Json
