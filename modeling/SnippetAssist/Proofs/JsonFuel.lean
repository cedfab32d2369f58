import SnippetAssist.Proofs.JsonReadBack

/-!
# Reading never runs out of fuel

The readers of a value, of the items of an array and of the fields of an object call each other
on fuel, one unit a call, and answer with a grammar fault when it runs out. The fuel a whole text
is read with (`fuelFor`) never runs out before the text does: from twice the length of the text
on, more fuel gives the same answer (`fuelStable`), so what a text reads to, and every fault it
gives, is the text's own and not the fuel's (`valueArray_fuel_eq`, `readText_valueArray_fuel`,
`parse_fuel`).

Two facts carry the bound. Every reader only consumes: it never leaves more of the text than it
was given (`Consumes`). And between two calls that pass fuel on, the text gets shorter, but for
the first item of an array, which is read where it stands: an opening bracket, a comma or a colon
is consumed first. So a value on a text of `L` characters needs at most `2 L + 1` units, and the
items of an array at most `2 L + 2`.
-/

namespace SnippetAssist.Json

namespace Reader

variable {α β : Type}

/-! ## Readers that only consume -/

theorem bind_apply_error {x : Reader α} {f : α → Reader β} {cs : List Char} {e : Fault}
    (h : x cs = .error e) : (x >>= f) cs = .error e := by
  show StateT.bind x f cs = _
  unfold StateT.bind
  rw [h]
  rfl

theorem map_apply_error (f : α → β) {x : Reader α} {cs : List Char} {e : Fault}
    (h : x cs = .error e) : (f <$> x) cs = .error e := by
  show StateT.map f x cs = _
  unfold StateT.map
  rw [h]
  rfl

/-- A reader that only consumes: it never leaves more of the text than it was given. -/
def Consumes (r : Reader α) : Prop := ∀ cs a rest, r cs = .ok (a, rest) → rest.length ≤ cs.length

theorem consumes_pure (a : α) : Consumes (pure a : Reader α) := by
  intro cs b rest h
  cases h
  exact Nat.le_refl _

theorem consumes_throw (f : Fault) : Consumes (throw f : Reader α) := by
  intro cs b rest h
  cases h

theorem Consumes.bind {x : Reader α} {f : α → Reader β} (hx : Consumes x)
    (hf : ∀ a, Consumes (f a)) : Consumes (x >>= f) := by
  intro cs b rest h
  cases hxr : x cs with
  | error e =>
    rw [bind_apply_error hxr] at h
    cases h
  | ok p =>
    rw [bind_apply_ok (show x cs = .ok (p.1, p.2) from hxr)] at h
    exact Nat.le_trans (hf p.1 _ _ _ h) (hx cs p.1 p.2 hxr)

theorem Consumes.map {x : Reader α} (hx : Consumes x) (f : α → β) : Consumes (f <$> x) := by
  intro cs b rest h
  cases hxr : x cs with
  | error e =>
    rw [map_apply_error f hxr] at h
    cases h
  | ok p =>
    rw [map_apply_ok f (show x cs = .ok (p.1, p.2) from hxr)] at h
    cases h
    exact hx cs p.1 p.2 hxr

/-- A result mapped in its value only keeps the text that is left. -/
theorem rest_of_map {γ : Type} {x : Except Fault (β × List Char)}
    {F : β × List Char → γ × List Char} {c : γ} {rest : List Char} (h : x.map F = .ok (c, rest))
    (hF : ∀ p, (F p).2 = p.2) : ∃ b, x = .ok (b, rest) := by
  cases x with
  | error e => cases h
  | ok p =>
    have hrest : p.2 = rest := by rw [← hF p, Except.ok.inj h]
    exact ⟨p.1, by rw [← hrest]⟩

theorem consumes_bump : Consumes bump := by
  intro cs a rest h
  cases h
  rw [List.length_tail]
  exact Nat.sub_le _ _

theorem consumes_next? : Consumes next? := by
  intro cs a rest h
  cases h
  exact (List.dropWhile_suffix _).length_le

theorem consumes_peek : Consumes peek := by
  intro cs a rest h
  cases h
  exact Nat.le_refl _

theorem consumes_expectWord (w : List Char) : Consumes (expectWord w) := by
  induction w with
  | nil => exact consumes_pure ()
  | cons c w ih =>
    rw [expectWord]
    refine consumes_peek.bind fun d? => ?_
    split
    · exact consumes_throw _
    · split
      · exact consumes_bump.bind fun _ => ih
      · exact consumes_throw _

theorem consumes_colon : Consumes colon := by
  refine consumes_next?.bind fun d? => ?_
  split
  · exact consumes_bump
  · exact consumes_throw _
  · exact consumes_throw _

theorem consumes_closeArray : Consumes closeArray := by
  refine consumes_next?.bind fun d? => ?_
  split
  · exact consumes_bump
  · exact consumes_throw _
  · exact consumes_throw _

theorem consumes_closeObject : Consumes closeObject := by
  refine consumes_next?.bind fun d? => ?_
  split
  · exact consumes_bump
  · exact consumes_throw _
  · exact consumes_throw _

/-! ## Numbers and strings -/

theorem consumes_scaled (positive : Bool) (significand : Nat) (exponent : Int) :
    Consumes (scaled positive significand exponent) := by
  intro cs x rest h
  unfold scaled at h
  split at h <;> cases h
  exact Nat.le_refl _

theorem consumes_exponentDigits (positive : Bool) (significand : Nat) (start : Int) (up : Bool)
    (acc : Nat) : Consumes (exponentDigits positive significand start up acc) := by
  intro cs x rest h
  revert h
  fun_induction exponentDigits positive significand start up acc cs with
  | case1 => intro h; cases h
  | case2 _ c cs =>
    intro h
    cases h
    exact Nat.le_succ_of_le (List.dropWhile_suffix _).length_le
  | case3 _ c cs _ _ _ ih => intro h; exact Nat.le_succ_of_le (ih h)
  | case4 => exact consumes_scaled _ _ _ _ _ _
  | case5 => exact consumes_scaled _ _ _ _ _ _

theorem consumes_exponentPart (positive : Bool) (significand : Nat) (start : Int) :
    Consumes (exponentPart positive significand start) := by
  intro cs x rest h
  revert h
  fun_cases exponentPart positive significand start cs with
  | case1 => intro h; cases h
  | case2 up c cs' _ hsign =>
    intro h
    -- The sign, if there is one, is dropped before the digits.
    have hsub : (c :: cs').length ≤ cs.length := by
      split at hsign <;> injection hsign with _ hcs <;> subst hcs <;> simp
    exact Nat.le_trans (consumes_exponentDigits _ _ _ _ _ cs' x rest h) (Nat.le_of_succ_le hsub)
  | case3 => intro h; cases h

theorem consumes_afterDigits (positive : Bool) (significand : Nat) (exponent : Int) :
    Consumes (afterDigits positive significand exponent) := by
  intro cs x rest h
  unfold afterDigits at h
  split at h
  · exact Nat.le_succ_of_le (consumes_exponentPart _ _ _ _ _ _ h)
  · exact Nat.le_succ_of_le (consumes_exponentPart _ _ _ _ _ _ h)
  · exact consumes_scaled _ _ _ _ _ _ h

theorem consumes_fraction (positive : Bool) (significand : Nat) (start : Int) (count : Nat) :
    Consumes (fraction positive significand start count) := by
  intro cs x rest h
  revert h
  fun_induction fraction positive significand start count cs with
  | case1 _ _ c cs =>
    -- Digits beyond what the significand keeps are skipped.
    intro h
    exact Nat.le_trans (consumes_afterDigits _ _ _ _ _ _ h) (List.dropWhile_suffix _).length_le
  | case2 _ _ c cs _ _ ih => intro h; exact Nat.le_succ_of_le (ih h)
  | case3 => intro h; cases h
  | case4 => exact consumes_afterDigits _ _ _ _ _ _
  | case5 => intro h; cases h
  | case6 => exact consumes_afterDigits _ _ _ _ _ _

theorem consumes_longInteger (positive : Bool) (significand : Nat) :
    Consumes (longInteger positive significand) := by
  intro cs x rest h
  unfold longInteger at h
  have hdrop := (List.dropWhile_suffix isDigit (l := cs)).length_le
  split at h
  · rename_i _ r hr
    rw [hr] at hdrop
    exact Nat.le_trans (Nat.le_succ_of_le (consumes_fraction _ _ _ _ _ _ _ h)) hdrop
  · exact Nat.le_trans (consumes_afterDigits _ _ _ _ _ _ h) hdrop

theorem consumes_integerTail (positive : Bool) (significand : Nat) :
    Consumes (integerTail positive significand) := by
  intro cs n rest h
  unfold integerTail at h
  split at h
  · obtain ⟨_, hf⟩ := rest_of_map h fun _ => rfl
    exact Nat.le_succ_of_le (consumes_fraction _ _ _ _ _ _ _ hf)
  · obtain ⟨_, hf⟩ := rest_of_map h fun _ => rfl
    exact Nat.le_succ_of_le (consumes_exponentPart _ _ _ _ _ _ hf)
  · obtain ⟨_, hf⟩ := rest_of_map h fun _ => rfl
    exact Nat.le_succ_of_le (consumes_exponentPart _ _ _ _ _ _ hf)
  · -- An integer ends here, whatever its value.
    split at h
    · cases h; exact Nat.le_refl _
    · split at h
      · cases h; exact Nat.le_refl _
      · split at h
        · cases h; exact Nat.le_refl _
        · cases h; exact Nat.le_refl _

theorem consumes_integerDigits (positive : Bool) (significand : Nat) :
    Consumes (integerDigits positive significand) := by
  intro cs n rest h
  revert h
  fun_induction integerDigits positive significand cs with
  | case1 _ c cs =>
    -- Too many digits: the number goes on as a double.
    intro h
    obtain ⟨_, hl⟩ := rest_of_map h fun _ => rfl
    exact consumes_longInteger _ _ _ _ _ hl
  | case2 _ c cs _ _ ih => intro h; exact Nat.le_succ_of_le (ih h)
  | case3 => exact consumes_integerTail _ _ _ _ _
  | case4 => exact consumes_integerTail _ _ _ _ _

theorem consumes_number (positive : Bool) : Consumes (number positive) := by
  intro cs n rest h
  unfold number numberChars at h
  split at h
  · cases h
  · split at h
    · split at h
      · cases h
      · exact Nat.le_succ_of_le (consumes_integerTail _ _ _ _ _ h)
    · exact Nat.le_succ_of_le (consumes_integerTail _ _ _ _ _ h)
  · split at h
    · exact Nat.le_succ_of_le (consumes_integerDigits _ _ _ _ _ h)
    · cases h

theorem consumes_stringChars (acc : List Char) : Consumes (stringChars acc) := by
  intro cs chars rest h
  revert h
  -- Each step drops what it reads, and the text left is what follows the closing quote.
  fun_induction stringChars acc cs <;> intro h <;> simp_all <;> omega

theorem consumes_string : Consumes string := by
  intro cs s rest h
  obtain ⟨_, hc⟩ := rest_of_map h fun _ => rfl
  exact consumes_stringChars [] cs _ rest hc

/-! ## Items and keys -/

theorem next?_apply (cs : List Char) :
    next? cs = .ok ((cs.dropWhile isBlank).head?, cs.dropWhile isBlank) := rfl

theorem length_dropWhile_isBlank (cs : List Char) : (cs.dropWhile isBlank).length ≤ cs.length :=
  (List.dropWhile_suffix _).length_le

theorem consumes_ite {c : Prop} [Decidable c] {x y : Reader α} (hx : Consumes x)
    (hy : Consumes y) : Consumes (if c then x else y) := by
  split
  · exact hx
  · exact hy

/-- The next item of an array is either an answer that does not read an item (the closing
bracket, or a fault), or the item read at a point of the text no further than where the reader
started, and past a comma unless it is the first. -/
theorem nextItem_cases (first : Bool) (cs : List Char) :
    (∃ r : Except Fault (Option α × List Char),
      (∀ a rest, r = .ok (a, rest) → a = none ∧ rest.length ≤ cs.length) ∧
      ∀ item : Reader α, nextItem item first cs = r) ∨
    ∃ cs', cs'.length + (if first then 0 else 1) ≤ cs.length ∧
      ∀ item : Reader α, nextItem item first cs = (some <$> item) cs' := by
  have hle := length_dropWhile_isBlank cs
  rcases hb : cs.dropWhile isBlank with _ | ⟨c, t⟩
  · refine .inl ⟨.error .truncated, (fun _ _ h => by cases h), fun item => ?_⟩
    rw [nextItem, bind_apply_ok (next?_apply cs), hb]
    rfl
  rw [hb] at hle
  by_cases hc : c = ']'
  · refine .inl ⟨.ok (none, c :: t), fun _ _ h => ?_, fun item => ?_⟩
    · cases h
      exact ⟨rfl, hle⟩
    rw [nextItem, bind_apply_ok (next?_apply cs), hb]
    simp only [List.head?_cons, if_pos hc]
    rfl
  cases first with
  | true =>
    refine .inr ⟨c :: t, hle, fun item => ?_⟩
    rw [nextItem, bind_apply_ok (next?_apply cs), hb]
    simp only [List.head?_cons, if_neg hc, if_true]
  | false =>
    by_cases hcomma : c = ','
    · -- Past the comma, the item starts after blanks, unless the bracket closes there.
      have hle' := length_dropWhile_isBlank t
      rcases ht : t.dropWhile isBlank with _ | ⟨d, t'⟩
      · refine .inl ⟨.error .truncated, (fun _ _ h => by cases h), fun item => ?_⟩
        rw [nextItem, bind_apply_ok (next?_apply cs), hb]
        simp only [List.head?_cons, if_neg hc, Bool.false_eq_true, if_false, if_pos hcomma]
        rw [bind_apply_ok (bump_cons c t), bind_apply_ok (next?_apply t), ht]
        rfl
      rw [ht] at hle'
      by_cases hd : d = ']'
      · refine .inl ⟨.error .malformed, (fun _ _ h => by cases h), fun item => ?_⟩
        rw [nextItem, bind_apply_ok (next?_apply cs), hb]
        simp only [List.head?_cons, if_neg hc, Bool.false_eq_true, if_false, if_pos hcomma]
        rw [bind_apply_ok (bump_cons c t), bind_apply_ok (next?_apply t), ht, hd]
        rfl
      refine .inr ⟨d :: t', ?_, fun item => ?_⟩
      · simp only [List.length_cons, Bool.false_eq_true, ↓reduceIte] at hle hle' ⊢
        omega
      · rw [nextItem, bind_apply_ok (next?_apply cs), hb]
        simp only [List.head?_cons, if_neg hc, Bool.false_eq_true, if_false, if_pos hcomma]
        rw [bind_apply_ok (bump_cons c t), bind_apply_ok (next?_apply t), ht]
        simp only [List.head?_cons]
    · refine .inl ⟨.error .malformed, (fun _ _ h => by cases h), fun item => ?_⟩
      rw [nextItem, bind_apply_ok (next?_apply cs), hb]
      simp only [List.head?_cons, if_neg hc, Bool.false_eq_true, if_false, if_neg hcomma]
      rfl

theorem Consumes.nextItem {item : Reader α} (hi : Consumes item) (first : Bool) :
    Consumes (nextItem item first) := by
  intro cs a rest h
  rcases nextItem_cases (α := α) first cs with ⟨r, hr, hall⟩ | ⟨cs', hlen, hall⟩
  · rw [hall] at h
    exact (hr _ _ h).2
  · rw [hall] at h
    cases hi' : item cs' with
    | error e =>
      rw [map_apply_error _ hi'] at h
      cases h
    | ok p =>
      rw [map_apply_ok some (show item cs' = .ok (p.1, p.2) from hi')] at h
      cases h
      have := hi _ _ _ hi'
      omega

theorem consumes_nextKey (first : Bool) : Consumes (nextKey first) := by
  refine consumes_next?.bind fun c? => ?_
  split
  · exact consumes_throw _
  · dsimp only
    -- Whether after a comma or not, a key starts with a quote.
    have hkey : ∀ c : Char, Consumes (if c = '"' then bump >>= fun _ => some <$> string
        else throw .malformed : Reader (Option String)) :=
      fun _ => consumes_ite (consumes_bump.bind fun _ => consumes_string.map some) (consumes_throw _)
    refine consumes_ite (consumes_pure _) (consumes_ite ((consumes_pure _).bind hkey)
      (consumes_ite (consumes_bump.bind fun _ => consumes_next?.bind fun d? => ?_)
        ((consumes_throw _).bind hkey)))
    split
    · exact (consumes_throw _).bind hkey
    · exact (consumes_pure _).bind hkey

/-- The colon after a key is consumed: a text from which a colon is read is shorter after it. -/
theorem colon_length {cs rest : List Char} (h : colon cs = .ok ((), rest)) :
    rest.length < cs.length := by
  have hle := length_dropWhile_isBlank cs
  rw [colon, bind_apply_ok (next?_apply cs)] at h
  rcases hb : cs.dropWhile isBlank with _ | ⟨c, t⟩
  · rw [hb] at h
    cases h
  · rw [hb] at h hle
    simp only [List.head?_cons] at h
    generalize some c = c? at h
    split at h
    · cases h
      simp only [List.tail_cons, List.length_cons] at hle ⊢
      omega
    · cases h
    · cases h

/-- Every reading of a value, of the items of an array or of the fields of an object only
consumes, with any fuel. -/
theorem consumes_reading (fuel : Nat) :
    (∀ d, Consumes (value fuel d)) ∧ (∀ d first acc, Consumes (items fuel d first acc)) ∧
      ∀ d first acc, Consumes (fields fuel d first acc) := by
  induction fuel with
  | zero =>
    exact ⟨fun _ => consumes_throw _, fun _ _ _ => consumes_throw _,
      fun _ _ _ => consumes_throw _⟩
  | succ f ih =>
    obtain ⟨hv, hi, hf⟩ := ih
    refine ⟨fun d => ?_, fun d first acc => ?_, fun d first acc => ?_⟩
    · rw [value]
      refine consumes_next?.bind fun c? => ?_
      split
      · exact consumes_throw _
      · exact consumes_bump.bind fun _ => (consumes_expectWord _).bind fun _ => consumes_pure _
      · exact consumes_bump.bind fun _ => (consumes_expectWord _).bind fun _ => consumes_pure _
      · exact consumes_bump.bind fun _ => (consumes_expectWord _).bind fun _ => consumes_pure _
      · exact consumes_bump.bind fun _ => (consumes_number _).bind fun _ => consumes_pure _
      · exact consumes_bump.bind fun _ => consumes_string.bind fun _ => consumes_pure _
      · dsimp only
        refine consumes_ite ((consumes_throw _).bind fun _ => ?_) ?_ <;>
          exact consumes_bump.bind fun _ => (hi _ _ _).bind fun _ =>
            consumes_closeArray.bind fun _ => consumes_pure _
      · dsimp only
        refine consumes_ite ((consumes_throw _).bind fun _ => ?_) ?_ <;>
          exact consumes_bump.bind fun _ => (hf _ _ _).bind fun _ =>
            consumes_closeObject.bind fun _ => consumes_pure _
      · exact consumes_ite ((consumes_number _).bind fun _ => consumes_pure _) (consumes_throw _)
    · rw [items]
      refine ((hv d).nextItem first).bind fun r => ?_
      split
      · exact consumes_pure _
      · exact hi _ _ _
    · rw [fields]
      refine (consumes_nextKey first).bind fun k => ?_
      split
      · exact consumes_pure _
      · exact consumes_colon.bind fun _ => (hv d).bind fun _ => hf _ _ _

/-! ## More fuel changes nothing -/

theorem bind_apply_congr {x y : Reader α} {f g : α → Reader β} {cs : List Char}
    (hxy : x cs = y cs) (hfg : ∀ a rest, y cs = .ok (a, rest) → f a rest = g a rest) :
    (x >>= f) cs = (y >>= g) cs := by
  cases hy : y cs with
  | error e => rw [bind_apply_error (hxy.trans hy), bind_apply_error hy]
  | ok p =>
    rw [bind_apply_ok (show x cs = .ok (p.1, p.2) from hxy.trans hy),
      bind_apply_ok (show y cs = .ok (p.1, p.2) from hy)]
    exact hfg p.1 p.2 hy

theorem map_apply_congr (f : α → β) {x y : Reader α} {cs : List Char} (h : x cs = y cs) :
    (f <$> x) cs = (f <$> y) cs := by
  show StateT.map f x cs = StateT.map f y cs
  unfold StateT.map
  rw [h]

/-- What `next?` finds is the first character of what it leaves. -/
theorem next?_some {cs rest : List Char} {c : Char} (h : next? cs = .ok (some c, rest)) :
    ∃ t, rest = c :: t ∧ rest.length ≤ cs.length := by
  rw [next?_apply] at h
  injection h with h
  injection h with hc hrest
  subst hrest
  refine ⟨(cs.dropWhile isBlank).tail, ?_, length_dropWhile_isBlank cs⟩
  cases hb : cs.dropWhile isBlank with
  | nil => rw [hb] at hc; cases hc
  | cons d t => rw [hb] at hc; cases hc; rfl

/-- With this fuel, `value` reads every text of `L` characters, `2 L + 1 ≤ fuel`, as it does
with any more fuel. -/
def ValueStable (fuel : Nat) : Prop :=
  ∀ k d cs, 2 * cs.length + 1 ≤ fuel → value (fuel + k) d cs = value fuel d cs

/-- With this fuel, `items` reads the items of an array from every text of `L` characters as it
does with any more fuel: from the first item when `2 L + 2 ≤ fuel`, from a later one when
`2 L + 1 ≤ fuel`. -/
def ItemsStable (fuel : Nat) : Prop :=
  ∀ k d first acc cs, 2 * cs.length + (if first then 2 else 1) ≤ fuel →
    items (fuel + k) d first acc cs = items fuel d first acc cs

/-- With this fuel, `fields` reads the fields of an object from every text of `L` characters,
`2 L + 1 ≤ fuel`, as it does with any more fuel. -/
def FieldsStable (fuel : Nat) : Prop :=
  ∀ k d first acc cs, 2 * cs.length + 1 ≤ fuel →
    fields (fuel + k) d first acc cs = fields fuel d first acc cs

theorem valueStable_succ {f : Nat} (hi : ItemsStable f) (hfs : FieldsStable f) :
    ValueStable (f + 1) := by
  intro k d cs hlen
  rw [Nat.add_right_comm, value, value]
  refine bind_apply_congr rfl fun c? rest hnext => ?_
  -- Only an opening bracket passes the fuel on, to the items or fields after it.
  split
  case h_7 =>
    obtain ⟨t, rfl, hrest⟩ := next?_some hnext
    dsimp only
    split
    · rfl
    · rw [bind_apply_ok (bump_cons _ _), bind_apply_ok (bump_cons _ _)]
      refine bind_apply_congr (hi k (d - 1) true [] t ?_) fun _ _ _ => rfl
      simp only [List.length_cons, if_true] at hrest ⊢
      omega
  case h_8 =>
    obtain ⟨t, rfl, hrest⟩ := next?_some hnext
    dsimp only
    split
    · rfl
    · rw [bind_apply_ok (bump_cons _ _), bind_apply_ok (bump_cons _ _)]
      refine bind_apply_congr (hfs k (d - 1) true [] t ?_) fun _ _ _ => rfl
      simp only [List.length_cons] at hrest
      omega
  all_goals rfl

theorem itemsStable_succ {f : Nat} (hv : ValueStable f) (hi : ItemsStable f) :
    ItemsStable (f + 1) := by
  intro k d first acc cs hlen
  rw [Nat.add_right_comm, items, items]
  rcases nextItem_cases (α := Value) first cs with ⟨r, hr, hall⟩ | ⟨cs', hcs, hall⟩
  · -- No item is read: the closing bracket, or a fault.
    refine bind_apply_congr (by rw [hall, hall]) fun a rest h => ?_
    rw [hall] at h
    obtain ⟨rfl, -⟩ := hr a rest h
    rfl
  · -- The item is read at `cs'`, no longer than the text, and shorter after a comma.
    have hbound : 2 * cs'.length + 1 ≤ f := by
      cases first <;> simp only [Bool.false_eq_true, if_false, if_true] at hcs hlen <;> omega
    refine bind_apply_congr (by rw [hall, hall]; exact map_apply_congr some (hv k d cs' hbound))
      fun a rest h => ?_
    rw [hall] at h
    cases hval : value f d cs' with
    | error e =>
      rw [map_apply_error _ hval] at h
      cases h
    | ok p =>
      rw [map_apply_ok some (show value f d cs' = .ok (p.1, p.2) from hval)] at h
      cases h
      have hrest := (consumes_reading f).1 d cs' p.1 p.2 hval
      exact hi k d false (p.1 :: acc) p.2 (by simp only [Bool.false_eq_true, if_false]; omega)

theorem fieldsStable_succ {f : Nat} (hv : ValueStable f) (hfs : FieldsStable f) :
    FieldsStable (f + 1) := by
  intro k d first acc cs hlen
  rw [Nat.add_right_comm, fields, fields]
  refine bind_apply_congr rfl fun key? rest hkey => ?_
  have hrest := consumes_nextKey first cs key? rest hkey
  split
  · rfl
  · -- The colon after the key makes the text shorter before the value is read.
    refine bind_apply_congr rfl fun _ rest' hcolon => ?_
    have hrest' := colon_length hcolon
    refine bind_apply_congr (hv k d rest' (by omega)) fun v rest'' hval => ?_
    have hrest'' := (consumes_reading f).1 d rest' v rest'' hval
    exact hfs k d false _ rest'' (by omega)

/-- Fuel of twice the length of a text and one more reads it as any more fuel does. -/
theorem fuelStable (fuel : Nat) : ValueStable fuel ∧ ItemsStable fuel ∧ FieldsStable fuel := by
  induction fuel with
  | zero =>
    refine ⟨fun _ _ _ h => ?_, fun _ _ first _ _ h => ?_, fun _ _ _ _ _ h => ?_⟩
    · omega
    · cases first <;> simp at h
    · omega
  | succ f ih =>
    obtain ⟨hv, hi, hfs⟩ := ih
    exact ⟨valueStable_succ hi hfs, itemsStable_succ hv hi, fieldsStable_succ hv hfs⟩

/-- A reading that more fuel does not change from `b` units on gives one answer for all fuel from
`b` on. -/
theorem fuel_eq_of_stable {γ : Type} {g : Nat → γ} {b m n : Nat} (h : ∀ k, g (b + k) = g b)
    (hm : b ≤ m) (hn : b ≤ n) : g m = g n := by
  obtain ⟨i, rfl⟩ := Nat.exists_eq_add_of_le hm
  obtain ⟨j, rfl⟩ := Nat.exists_eq_add_of_le hn
  rw [h i, h j]

/-- From `2 L + 1` units of fuel on, a value on a text of `L` characters reads the same. -/
theorem value_fuel_eq (d : Nat) {cs : List Char} {m n : Nat} (hm : 2 * cs.length + 1 ≤ m)
    (hn : 2 * cs.length + 1 ≤ n) : value m d cs = value n d cs :=
  fuel_eq_of_stable (g := fun f => value f d cs) (fun k => (fuelStable _).1 k d cs (Nat.le_refl _))
    hm hn

/-- An array of values on a text of `L` characters reads as it does with any more fuel, from `2 L`
units on: its opening bracket is read before the items. -/
theorem valueArray_fuel_stable (k : Nat) {fuel : Nat} {cs : List Char} (h : 2 * cs.length ≤ fuel) :
    valueArray (fuel + k) cs = valueArray fuel cs := by
  rw [valueArray, valueArray]
  refine bind_apply_congr rfl fun c? rest hnext => ?_
  split
  case h_2 =>
    obtain ⟨t, rfl, hrest⟩ := next?_some hnext
    rw [bind_apply_ok (bump_cons _ _), bind_apply_ok (bump_cons _ _)]
    refine bind_apply_congr ((fuelStable fuel).2.1 k _ true [] t ?_) fun _ _ _ => rfl
    simp only [List.length_cons, if_true] at hrest ⊢
    omega
  all_goals rfl

theorem valueArray_fuel_eq {cs : List Char} {m n : Nat} (hm : 2 * cs.length ≤ m)
    (hn : 2 * cs.length ≤ n) : valueArray m cs = valueArray n cs :=
  fuel_eq_of_stable (g := fun f => valueArray f cs) (fun k => valueArray_fuel_stable k (Nat.le_refl _))
    hm hn

theorem two_mul_length_lt_fuelFor (cs : List Char) : 2 * cs.length + 1 ≤ fuelFor cs := by
  unfold fuelFor
  omega

end Reader

/-- Reading a whole text as an array of values never runs out of fuel: it reads as with any fuel
of at least twice the text's length, so its answer, and the fault when it has one, is the text's
own. -/
theorem readText_valueArray_fuel (s : String) {n : Nat} (hn : 2 * s.length ≤ n) :
    readText Reader.valueArray s = readText (fun _ => Reader.valueArray n) s := by
  have hn' : 2 * s.toList.length ≤ n := by
    rw [String.length_toList]
    exact hn
  unfold readText
  dsimp only
  rw [Reader.valueArray_fuel_eq (Nat.le_of_succ_le (Reader.two_mul_length_lt_fuelFor s.toList)) hn']

/-- Parsing a whole text as one value never runs out of fuel: it parses as with any fuel of at
least twice the text's length and one more. -/
theorem parse_fuel (s : String) {n : Nat} (hn : 2 * s.length + 1 ≤ n) :
    Value.parse s = readText (fun _ => Reader.value n Reader.depthLimit) s := by
  have hn' : 2 * s.toList.length + 1 ≤ n := by
    rw [String.length_toList]
    exact hn
  unfold Value.parse readText
  dsimp only
  rw [Reader.value_fuel_eq _ (Reader.two_mul_length_lt_fuelFor s.toList) hn']

end SnippetAssist.Json
