import SnippetAssist.Context.Basic
import SnippetAssist.Proofs.Occurrences

/-!
# Whole words, counted at byte positions

The context counts a keyword before the cursor by cutting the text at every character that is
not an identifier character and counting the pieces equal to the word (`countWord`). What it is
held to counts positions instead: the byte positions of the text's UTF-8 encoding where the
word's bytes stand with no identifier byte just before them or just after them
(`wholeWordCount`). For a word of identifier characters that is not empty the two agree
(`countWord_eq_wholeWordCount`), so `ending` and `endpoint` hold no `end`, and the cursor is
inside a function exactly when more whole words `function` than `end` precede it.

Both counts are counts of cuts (`countCuts`), where each cut of a list is judged by the element
before it and the elements after it (`startsWholeWord`). Counting byte positions is counting the
cuts of the bytes (`wholeWordCount_eq_countCuts`). A cut inside the encoding of a character beyond
ASCII never starts an ASCII word, and each other cut of the bytes is judged as the cut of the
characters at the same place (`countCuts_charBytes`). Splitting into identifier runs counts each
run equal to the word once, where the run starts (`count_identRunsFrom`).
-/

namespace SnippetAssist.Context

open Template (charBytes utf8Bytes)

/-! ## Cuts of a list -/

section Cuts

variable {α : Type}

/-- The cuts before the elements of a list that `q` accepts, `q` judging each cut by the element
just before it (`prev` before the first) and the elements from the cut on. -/
def countCuts (q : Option α → List α → Bool) : Option α → List α → Nat
  | _, [] => 0
  | prev, x :: xs => (if q prev (x :: xs) then 1 else 0) + countCuts q (some x) xs

@[simp] theorem countCuts_nil (q : Option α → List α → Bool) (prev : Option α) :
    countCuts q prev [] = 0 := rfl

@[simp] theorem countCuts_cons (q : Option α → List α → Bool) (prev : Option α) (x : α)
    (xs : List α) :
    countCuts q prev (x :: xs) = (if q prev (x :: xs) then 1 else 0) + countCuts q (some x) xs := rfl

theorem getLast?_toList_append_cons (p : Option α) (x : α) (a : List α) :
    (p.toList ++ x :: a).getLast? = (x :: a).getLast? := by
  rw [List.getLast?_append, List.getLast?_cons]
  rfl

/-- Counting the accepted cuts one by one is counting the positions whose cut is accepted. -/
theorem countCuts_eq_countP (q : Option α → List α → Bool) (prev : Option α) (xs : List α) :
    countCuts q prev xs =
      (List.range xs.length).countP fun i => q (prev.toList ++ xs.take i).getLast? (xs.drop i) := by
  induction xs generalizing prev with
  | nil => rfl
  | cons x xs ih =>
    -- The cut before the first element sees `prev`; each later one sees an element of the list.
    have hfirst : (prev.toList ++ (x :: xs).take 0).getLast? = prev := by cases prev <;> rfl
    have hlater : ∀ i, (prev.toList ++ (x :: xs).take (i + 1)).getLast? =
        ((some x).toList ++ xs.take i).getLast? := fun i =>
      getLast?_toList_append_cons prev x (xs.take i)
    rw [countCuts_cons, ih (some x), List.length_cons, List.range_succ_eq_map, List.countP_cons,
      List.countP_map, hfirst, List.drop_zero, Nat.add_comm]
    congr 2
    funext i
    rw [Function.comp_apply, hlater, Nat.succ_eq_add_one, List.drop_succ_cons]

/-- A block of elements none of which starts an accepted cut adds no count; after it, the last
of its elements stands before the next cut. -/
theorem countCuts_append_of_rejects {q : Option α → List α → Bool} {a : List α}
    (h : ∀ p, ∀ x ∈ a, ∀ ys, q p (x :: ys) = false) (prev : Option α) (rest : List α) :
    countCuts q prev (a ++ rest) = countCuts q (prev.toList ++ a).getLast? rest := by
  induction a generalizing prev with
  | nil => cases prev <;> rfl
  | cons x a ih =>
    rw [List.cons_append, countCuts_cons, h prev x List.mem_cons_self, if_neg Bool.false_ne_true,
      Nat.zero_add, ih (fun p y hy => h p y (List.mem_cons_of_mem x hy)),
      getLast?_toList_append_cons]
    rfl

variable [BEq α]

/-- The cut before `after` starts a whole-word occurrence of `w`, identifier elements being those
that `ident` accepts: `w` stands at the start of `after`, and neither the element before the cut
nor the element just past `w` is an identifier element. -/
def startsWholeWord (ident : α → Bool) (w : List α) (prev : Option α) (after : List α) : Bool :=
  w.isPrefixOf after && !(prev.any ident) && !((after.drop w.length).head?.any ident)

variable {ident : α → Bool} {w : List α}

/-- A cut after an identifier element is not accepted. -/
theorem startsWholeWord_of_ident {r : α} (h : ident r = true) (ds : List α) :
    startsWholeWord ident w (some r) ds = false := by
  simp [startsWholeWord, h]

/-- The element before a cut matters only as an identifier element or not. -/
theorem startsWholeWord_prev_congr {p p' : Option α} (h : p.any ident = p'.any ident)
    (ds : List α) : startsWholeWord ident w p ds = startsWholeWord ident w p' ds := by
  simp only [startsWholeWord, h]

theorem countCuts_prev_congr {p p' : Option α} (h : p.any ident = p'.any ident) (xs : List α) :
    countCuts (startsWholeWord ident w) p xs = countCuts (startsWholeWord ident w) p' xs := by
  cases xs with
  | nil => rfl
  | cons x xs => rw [countCuts_cons, countCuts_cons, startsWholeWord_prev_congr h]

variable [LawfulBEq α]

/-- A cut where the word's first element does not stand is not accepted. -/
theorem startsWholeWord_cons_of_ne {x y : α} (h : x ≠ y) (xs : List α) (p : Option α)
    (ys : List α) : startsWholeWord ident (x :: xs) p (y :: ys) = false := by
  simp [startsWholeWord, List.isPrefixOf, h]

/-- With nothing of an identifier before it, a cut starts a whole word of identifier elements
exactly when the longest run of identifier elements from the cut is the word. -/
theorem startsWholeWord_none_iff (hw : ∀ x ∈ w, ident x = true) (ds : List α) :
    startsWholeWord ident w none ds = true ↔ ds.takeWhile ident = w := by
  simp only [startsWholeWord, Option.any_none, Bool.not_false, Bool.and_true, Bool.and_eq_true,
    List.isPrefixOf_iff_prefix, Bool.not_eq_true']
  constructor
  · rintro ⟨⟨e, rfl⟩, hafter⟩
    rw [List.drop_left] at hafter
    rw [List.takeWhile_append_of_pos hw]
    cases e with
    | nil => rw [List.takeWhile_nil, List.append_nil]
    | cons d e =>
      simp only [List.head?_cons, Option.any_some] at hafter
      rw [List.takeWhile_cons, if_neg (by rw [hafter]; exact Bool.false_ne_true), List.append_nil]
  · intro h
    have hsplit : ds = w ++ ds.dropWhile ident := by rw [← h, List.takeWhile_append_dropWhile]
    refine ⟨⟨_, hsplit.symm⟩, ?_⟩
    rw [hsplit, List.drop_left]
    -- Past the run comes an element that stops it, if any.
    have hstop := List.head?_dropWhile_not ident ds
    cases hd : (ds.dropWhile ident).head? with
    | none => rfl
    | some d =>
      rw [hd] at hstop
      exact hstop

end Cuts

/-! ## Identifier characters and bytes -/

/-- A byte of an identifier character: an ASCII letter or digit, or an underscore. A byte below
128 is a whole character in UTF-8 and every byte of a longer character is 128 or more, so the
character that ends just before a byte position is an identifier character exactly when the byte
before it is one of these. -/
def isIdentByte (b : UInt8) : Bool :=
  (0x30 ≤ b.toNat && b.toNat ≤ 0x39) || (0x41 ≤ b.toNat && b.toNat ≤ 0x5A) ||
    (0x61 ≤ b.toNat && b.toNat ≤ 0x7A) || b.toNat == 0x5F

theorem isIdentChar_iff (c : Char) :
    isIdentChar c = true ↔ (0x30 ≤ c.toNat ∧ c.toNat ≤ 0x39) ∨ (0x41 ≤ c.toNat ∧ c.toNat ≤ 0x5A) ∨
      (0x61 ≤ c.toNat ∧ c.toNat ≤ 0x7A) ∨ c.toNat = 0x5F := by
  -- The library's letter and digit tests are ranges of code points; `delta` opens them without
  -- their equation lemmas.
  delta isIdentChar Char.isAlphanum Char.isAlpha Char.isUpper Char.isLower Char.isDigit
  have hval : c.val.toNat = c.toNat := rfl
  have hund : c = '_' ↔ c.toNat = 0x5F := by rw [← Char.toNat_inj]; rfl
  have h0 : '0'.val.toNat = 0x30 := rfl
  have h9 : '9'.val.toNat = 0x39 := rfl
  have hA : 'A'.val.toNat = 0x41 := rfl
  have hZ : 'Z'.val.toNat = 0x5A := rfl
  have ha : 'a'.val.toNat = 0x61 := rfl
  have hz : 'z'.val.toNat = 0x7A := rfl
  simp only [Bool.or_eq_true, Bool.and_eq_true, decide_eq_true_eq, ge_iff_le,
    UInt32.le_iff_toNat_le, hval, hund, h0, h9, hA, hZ, ha, hz]
  constructor <;> intro h <;> omega

theorem isIdentByte_iff (b : UInt8) :
    isIdentByte b = true ↔ (0x30 ≤ b.toNat ∧ b.toNat ≤ 0x39) ∨ (0x41 ≤ b.toNat ∧ b.toNat ≤ 0x5A) ∨
      (0x61 ≤ b.toNat ∧ b.toNat ≤ 0x7A) ∨ b.toNat = 0x5F := by
  simp only [isIdentByte, Bool.or_eq_true, Bool.and_eq_true, decide_eq_true_eq, beq_iff_eq, or_assoc]

theorem toNat_lt_of_isIdentChar {c : Char} (h : isIdentChar c = true) : c.toNat < 128 := by
  have := (isIdentChar_iff c).mp h
  omega

theorem isIdentChar_of_le {c : Char} (h : 128 ≤ c.toNat) : isIdentChar c = false := by
  rw [Bool.eq_false_iff, ne_eq, isIdentChar_iff]
  omega

theorem isIdentByte_of_le {b : UInt8} (h : 128 ≤ b.toNat) : isIdentByte b = false := by
  rw [Bool.eq_false_iff, ne_eq, isIdentByte_iff]
  omega

/-- An ASCII character is an identifier character exactly when its one byte is an identifier
byte. -/
theorem isIdentByte_ofNat {c : Char} (h : c.toNat < 128) :
    isIdentByte (UInt8.ofNat c.toNat) = isIdentChar c := by
  have hb : (UInt8.ofNat c.toNat).toNat = c.toNat := by rw [UInt8.toNat_ofNat']; omega
  rw [Bool.eq_iff_iff, isIdentByte_iff, isIdentChar_iff, hb]

/-- A character is one byte below 128, or bytes that are all 128 or more. -/
theorem utf8EncodeChar_cases (c : Char) :
    (c.toNat < 128 ∧ String.utf8EncodeChar c = [UInt8.ofNat c.toNat]) ∨
      (128 ≤ c.toNat ∧ ∃ b bs, String.utf8EncodeChar c = b :: bs ∧ ∀ b' ∈ b :: bs, 128 ≤ b'.toNat) := by
  by_cases hc : c.toNat < 128
  · exact .inl ⟨hc, Template.utf8EncodeChar_of_lt hc⟩
  · obtain ⟨b, bs, hbs⟩ := List.exists_cons_of_ne_nil (String.utf8EncodeChar_ne_nil (c := c))
    exact .inr ⟨by omega, b, bs, hbs,
      fun b' hb' => Template.le_of_mem_utf8EncodeChar (by omega) (hbs ▸ hb')⟩

theorem ofNat_toNat_inj {x d : Char} (hx : x.toNat < 128) (hd : d.toNat < 128) :
    UInt8.ofNat x.toNat = UInt8.ofNat d.toNat ↔ x = d := by
  constructor
  · intro h
    have h' := congrArg UInt8.toNat h
    rw [UInt8.toNat_ofNat', UInt8.toNat_ofNat'] at h'
    exact Char.toNat_inj.mp (by omega)
  · rintro rfl
    rfl

/-! ## The bytes of a word -/

section Bytes

variable {w : List Char}

/-- The bytes of an ASCII word start the bytes of a text exactly when the word starts the text. -/
theorem charBytes_prefix_iff (hw : ∀ x ∈ w, x.toNat < 128) (ds : List Char) :
    charBytes w <+: charBytes ds ↔ w <+: ds := by
  induction w generalizing ds with
  | nil => simp
  | cons x w ih =>
    have hx : x.toNat < 128 := hw x List.mem_cons_self
    have hw' : ∀ y ∈ w, y.toNat < 128 := fun y hy => hw y (List.mem_cons_of_mem x hy)
    rw [Template.charBytes_cons, Template.utf8EncodeChar_of_lt hx, List.singleton_append]
    cases ds with
    | nil => simp
    | cons d ds =>
      rw [Template.charBytes_cons]
      rcases utf8EncodeChar_cases d with ⟨hd, hdb⟩ | ⟨hd, b, bs, hbs, hdb⟩
      · rw [hdb, List.singleton_append, List.cons_prefix_cons, List.cons_prefix_cons, ih hw' ds,
          ofNat_toNat_inj hx hd]
      · -- The first byte of `d` is 128 or more, unlike the byte of `x`.
        have hb := hdb b List.mem_cons_self
        have hxb : UInt8.ofNat x.toNat ≠ b := by
          rintro rfl
          rw [UInt8.toNat_ofNat'] at hb
          omega
        have hxd : x ≠ d := by
          rintro rfl
          omega
        rw [hbs, List.cons_append, List.cons_prefix_cons, List.cons_prefix_cons]
        simp [hxb, hxd]

/-- The first byte of a text is an identifier byte exactly when its first character is an
identifier character. -/
theorem head?_charBytes_any (e : List Char) :
    (charBytes e).head?.any isIdentByte = e.head?.any isIdentChar := by
  cases e with
  | nil => rfl
  | cons d e =>
    rw [Template.charBytes_cons]
    rcases utf8EncodeChar_cases d with ⟨hd, hdb⟩ | ⟨hd, b, bs, hbs, hdb⟩
    · rw [hdb, List.singleton_append, List.head?_cons, List.head?_cons, Option.any_some,
        Option.any_some, isIdentByte_ofNat hd]
    · rw [hbs, List.cons_append, List.head?_cons, List.head?_cons, Option.any_some,
        Option.any_some, isIdentByte_of_le (hdb b List.mem_cons_self), isIdentChar_of_le hd]

/-- A cut of the bytes at the start of a character is judged as the cut of the characters there,
when the elements before the two cuts agree on being identifier elements. -/
theorem startsWholeWord_charBytes (hw : ∀ x ∈ w, x.toNat < 128) {pb : Option UInt8}
    {pc : Option Char} (hp : pb.any isIdentByte = pc.any isIdentChar) (ds : List Char) :
    startsWholeWord isIdentByte (charBytes w) pb (charBytes ds) =
      startsWholeWord isIdentChar w pc ds := by
  by_cases hpre : w <+: ds
  · obtain ⟨e, rfl⟩ := hpre
    have hb : (charBytes w).isPrefixOf (charBytes w ++ charBytes e) = true :=
      List.isPrefixOf_iff_prefix.mpr (List.prefix_append _ _)
    have hc : w.isPrefixOf (w ++ e) = true := List.isPrefixOf_iff_prefix.mpr (List.prefix_append _ _)
    rw [startsWholeWord, startsWholeWord, Template.charBytes_append, List.drop_left, List.drop_left,
      hb, hc, hp, head?_charBytes_any]
  · have hc : w.isPrefixOf ds = false := by
      rwa [Bool.eq_false_iff, ne_eq, List.isPrefixOf_iff_prefix]
    have hb : (charBytes w).isPrefixOf (charBytes ds) = false := by
      rwa [Bool.eq_false_iff, ne_eq, List.isPrefixOf_iff_prefix, charBytes_prefix_iff hw]
    rw [startsWholeWord, startsWholeWord, hb, hc, Bool.false_and, Bool.false_and, Bool.false_and,
      Bool.false_and]

/-- Counting whole-word cuts in the bytes of a text is counting them in its characters: the cuts
inside the encoding of a longer character start no ASCII word. -/
theorem countCuts_charBytes (hne : w ≠ []) (hw : ∀ x ∈ w, x.toNat < 128) (cs : List Char)
    {pb : Option UInt8} {pc : Option Char} (hp : pb.any isIdentByte = pc.any isIdentChar) :
    countCuts (startsWholeWord isIdentByte (charBytes w)) pb (charBytes cs) =
      countCuts (startsWholeWord isIdentChar w) pc cs := by
  induction cs generalizing pb pc with
  | nil => rfl
  | cons c cs ih =>
    rcases utf8EncodeChar_cases c with ⟨hc, hcb⟩ | ⟨hc, b, bs, hbs, hcb⟩
    · -- A character below 128 is one byte, and the cut before it is judged alike.
      have hbytes : charBytes (c :: cs) = UInt8.ofNat c.toNat :: charBytes cs := by
        rw [Template.charBytes_cons, hcb, List.singleton_append]
      have hstart := startsWholeWord_charBytes hw hp (c :: cs)
      rw [hbytes] at hstart
      rw [hbytes, countCuts_cons, countCuts_cons, hstart, ih (by rw [Option.any_some, Option.any_some,
        isIdentByte_ofNat hc])]
    · -- No cut inside a longer character starts the word, whose first byte is below 128.
      obtain ⟨x, w', hxw⟩ := List.exists_cons_of_ne_nil hne
      have hx : x.toNat < 128 := hw x (hxw ▸ List.mem_cons_self)
      have hrejects : ∀ p, ∀ b' ∈ b :: bs, ∀ ys,
          startsWholeWord isIdentByte (charBytes w) p (b' :: ys) = false := by
        intro p b' hb' ys
        have hhigh := hcb b' hb'
        rw [hxw, Template.charBytes_cons, Template.utf8EncodeChar_of_lt hx, List.singleton_append]
        apply startsWholeWord_cons_of_ne
        rintro rfl
        rw [UInt8.toNat_ofNat'] at hhigh
        omega
      have hfirst : startsWholeWord isIdentChar w pc (c :: cs) = false := by
        rw [hxw]
        exact startsWholeWord_cons_of_ne (by rintro rfl; omega) w' pc cs
      rw [Template.charBytes_cons, hbs, countCuts_append_of_rejects hrejects, countCuts_cons, hfirst,
        if_neg Bool.false_ne_true, Nat.zero_add]
      apply ih
      -- The last byte of the character is 128 or more: no identifier byte, as `c` is none.
      rw [getLast?_toList_append_cons]
      obtain ⟨l, hl⟩ : ∃ l, (b :: bs).getLast? = some l := ⟨_, List.getLast?_cons⟩
      rw [hl, Option.any_some, Option.any_some, isIdentByte_of_le (hcb l (List.mem_of_getLast? hl)),
        isIdentChar_of_le hc]

end Bytes

/-! ## Identifier runs -/

section Runs

variable {w : List Char}

/-- While a run is being read (`run`, reversed), the pieces still to come hold the word once more
if the run, completed by the identifier characters that follow, is the word, and otherwise as
often as the cuts after the run start it as a whole word. -/
theorem count_identRunsFrom (hne : w ≠ []) (hw : ∀ x ∈ w, isIdentChar x = true)
    (run cs : List Char) :
    (∀ x ∈ run, isIdentChar x = true) →
      (identRunsFrom run cs).count w =
        (if run ≠ [] ∧ run.reverse ++ cs.takeWhile isIdentChar = w then 1 else 0) +
          countCuts (startsWholeWord isIdentChar w) run.head? cs := by
  obtain ⟨x, w', rfl⟩ := List.exists_cons_of_ne_nil hne
  have hx : isIdentChar x = true := hw x List.mem_cons_self
  have hnone : ∀ P : Prop, ∀ _ : Decidable P, (if ([] : List Char) ≠ [] ∧ P then 1 else 0) = 0 :=
    fun _ _ => if_neg fun h => h.1 rfl
  -- After a character that is no identifier character, cuts are judged as at the start.
  have hsep : ∀ c, ¬ isIdentChar c = true → ∀ xs,
      countCuts (startsWholeWord isIdentChar (x :: w')) (some c) xs =
        countCuts (startsWholeWord isIdentChar (x :: w')) none xs :=
    fun c hc xs => countCuts_prev_congr (by simpa using hc) xs
  fun_induction identRunsFrom run cs with
  | case1 run hempty =>
    intro _
    rw [List.isEmpty_iff.mp hempty, hnone, countCuts_nil]
    rfl
  | case2 run hempty =>
    intro _
    have hrun : run ≠ [] := fun h => hempty (List.isEmpty_iff.mpr h)
    rw [countCuts_nil, Nat.add_zero, List.takeWhile_nil, List.append_nil, List.count_singleton]
    exact ite_cond_congr (propext (beq_iff_eq.trans (and_iff_right hrun).symm))
  | case3 run c rest hc ih =>
    intro hrun
    have hrun' : ∀ y ∈ c :: run, isIdentChar y = true := by
      intro y hy
      rcases List.mem_cons.mp hy with rfl | hy
      · exact hc
      · exact hrun y hy
    -- The run read so far, completed, is the same before and after reading `c`.
    have hX : (c :: run).reverse ++ rest.takeWhile isIdentChar =
        run.reverse ++ (c :: rest).takeWhile isIdentChar := by
      rw [List.takeWhile_cons, if_pos hc, List.reverse_cons, List.append_assoc, List.singleton_append]
    rw [ih hrun', hX, countCuts_cons, List.head?_cons, ← Nat.add_assoc]
    congr 1
    cases run with
    | nil =>
      -- A run starts at this cut: it starts the word exactly when the run is the word.
      rw [hnone, Nat.zero_add, List.head?_nil, List.reverse_nil, List.nil_append]
      exact ite_cond_congr (propext ((and_iff_right (List.cons_ne_nil c [])).trans
        (startsWholeWord_none_iff hw _).symm))
    | cons r run =>
      -- Inside a run, no cut starts a whole word.
      have hr : isIdentChar r = true := hrun r List.mem_cons_self
      rw [List.head?_cons, startsWholeWord_of_ident hr, if_neg Bool.false_ne_true, Nat.add_zero]
      exact ite_cond_congr (propext ((and_iff_right (List.cons_ne_nil c _)).trans
        (and_iff_right (List.cons_ne_nil r run)).symm))
  | case4 run c rest hc hempty ih =>
    intro _
    rw [List.isEmpty_iff.mp hempty, ih (fun _ h => absurd h List.not_mem_nil), hnone, hnone,
      countCuts_cons, List.head?_nil,
      startsWholeWord_cons_of_ne (show x ≠ c from fun h => hc (h ▸ hx)) w' none rest,
      if_neg Bool.false_ne_true, hsep c hc rest]
    simp only [Nat.zero_add]
  | case5 run c rest hc hempty ih =>
    intro hrun
    have hne' : run ≠ [] := fun h => hempty (List.isEmpty_iff.mpr h)
    obtain ⟨r, run', hr'⟩ := List.exists_cons_of_ne_nil hne'
    have hr : isIdentChar r = true := hrun r (hr' ▸ List.mem_cons_self)
    have hstop : (c :: rest).takeWhile isIdentChar = [] := by
      rw [List.takeWhile_cons, if_neg hc]
    -- The run ends at `c` and is counted on its own; the cut before `c` starts no word.
    rw [List.count_cons, ih (fun _ h => absurd h List.not_mem_nil), hnone, Nat.zero_add,
      countCuts_cons, hr', List.head?_cons, startsWholeWord_of_ident hr, if_neg Bool.false_ne_true,
      Nat.zero_add, ← hr', hstop, List.append_nil, List.head?_nil, hsep c hc rest, Nat.add_comm]
    exact congrArg (· + _) (ite_cond_congr (propext (beq_iff_eq.trans (and_iff_right hne').symm)))

/-- Counting the identifier runs equal to a word is counting the cuts that start it as a whole
word. -/
theorem countWord_eq_countCuts (hne : w ≠ []) (hw : ∀ x ∈ w, isIdentChar x = true)
    (cs : List Char) : countWord w cs = countCuts (startsWholeWord isIdentChar w) none cs := by
  rw [countWord, identRuns, count_identRunsFrom hne hw [] cs (fun _ h => absurd h List.not_mem_nil)]
  simp

end Runs

/-! ## Whole words at byte positions -/

/-- The bytes of `w` stand at byte `i` of `bs` as a whole word: no identifier byte just before
them or just after them. -/
def wholeWordAt (w bs : List UInt8) (i : Nat) : Bool :=
  w.isPrefixOf (bs.drop i) && !((bs.take i).getLast?.any isIdentByte) &&
    !((bs.drop (i + w.length)).head?.any isIdentByte)

/-- The number of byte positions of `bs` where `w` stands as a whole word. -/
def wholeWordCount (w bs : List UInt8) : Nat := (List.range bs.length).countP (wholeWordAt w bs)

theorem wholeWordCount_eq_countCuts (w bs : List UInt8) :
    wholeWordCount w bs = countCuts (startsWholeWord isIdentByte w) none bs := by
  rw [wholeWordCount, countCuts_eq_countP]
  congr 1
  funext i
  rw [wholeWordAt, startsWholeWord, Option.toList_none, List.nil_append, List.drop_drop]

/-- A word of identifier characters that is not empty stands in a text as a whole word, counted
by the pieces between the other characters, as often as its bytes stand as a whole word at a byte
position of the text's encoding. The cursor is therefore inside a function exactly when whole
words `function` outnumber whole words `end` in the text before it. -/
theorem countWord_eq_wholeWordCount :
    (∀ text word : String, word ≠ "" → (∀ c ∈ word.toList, isIdentChar c = true) →
      countWord word.toList text.toList = wholeWordCount (utf8Bytes word) (utf8Bytes text)) ∧
    ∀ textBefore textAfter currentLine : String,
      (analyze textBefore textAfter currentLine).inFunction = true ↔
        wholeWordCount (utf8Bytes "end") (utf8Bytes textBefore) <
          wholeWordCount (utf8Bytes "function") (utf8Bytes textBefore) := by
  have hcount : ∀ text word : String, word ≠ "" → (∀ c ∈ word.toList, isIdentChar c = true) →
      countWord word.toList text.toList = wholeWordCount (utf8Bytes word) (utf8Bytes text) := by
    intro text word hne hw
    have hne' : word.toList ≠ [] := by simpa using hne
    have hascii : ∀ c ∈ word.toList, c.toNat < 128 := fun c hc => toNat_lt_of_isIdentChar (hw c hc)
    rw [countWord_eq_countCuts hne' hw, wholeWordCount_eq_countCuts, Template.utf8Bytes_eq_charBytes,
      Template.utf8Bytes_eq_charBytes, countCuts_charBytes hne' hascii _
        (show (none : Option UInt8).any isIdentByte = (none : Option Char).any isIdentChar from rfl)]
  refine ⟨hcount, ?_⟩
  intro textBefore textAfter currentLine
  -- Membership is decided through `List.all`: a decision over all characters would enumerate them.
  have hend := hcount textBefore "end" (by decide) (List.all_eq_true.mp (by decide))
  have hfun := hcount textBefore "function" (by decide) (List.all_eq_true.mp (by decide))
  have hin : (analyze textBefore textAfter currentLine).inFunction =
      decide (countWord "end".toList textBefore.toList <
        countWord "function".toList textBefore.toList) := rfl
  rw [hin, decide_eq_true_iff, hend, hfun]

/-- `ending` and `endpoint` hold no whole word `end`: in the line below only the last word counts,
by pieces and by byte positions alike. -/
theorem countWord_end_after_ending :
    "end" ≠ "" ∧ (∀ c ∈ "end".toList, isIdentChar c = true) ∧
      countWord "end".toList "local ending, endpoint\nend".toList =
        wholeWordCount (utf8Bytes "end") (utf8Bytes "local ending, endpoint\nend") :=
  have hne : "end" ≠ "" := by decide
  have hid : ∀ c ∈ "end".toList, isIdentChar c = true := List.all_eq_true.mp (by decide)
  ⟨hne, hid, countWord_eq_wholeWordCount.1 _ _ hne hid⟩

example : wholeWordCount (utf8Bytes "end") (utf8Bytes "local ending, endpoint\nend") = 1 := by
  decide

end SnippetAssist.Context
