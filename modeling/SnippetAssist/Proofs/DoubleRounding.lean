import SnippetAssist.Proofs.DoublePacking
import Mathlib

/-!
# Rounding doubles

Every arithmetic operation of the double model ends in the same rounding: a positive mantissa `m`
at an exponent `e` is widened or shifted to the target exponent, 53 bits below its leading bit
and never below the least exponent, and the bits shifted out decide whether the mantissa goes
up by one, ties to even. This module reads that procedure as arithmetic: the shifted mantissa
with its round and sticky bits is the quotient by a power of two with its remainder
(`shift_exact`), and the rounded mantissa is that quotient rounded to the nearest natural number
(`roundedMantissa_shift`, `round_eq`).

From there, rounding depends on the value only (`round_mul_two_pow`), and it is monotone: of two
values at one exponent the larger rounds to the larger double (`round_mono`). Within one binade
this is the monotonicity of rounding a quotient; across binades the smaller value rounds at most
up to the boundary between them, where the larger one starts.
-/

open Float.Model (UnpackedFloat Format totalExponent)
open Float.Model.UnpackedFloat

namespace SnippetAssist.Double

/-! ## Rounding a quotient to the nearest natural number -/

/-- `n / d` rounded to the nearest natural number, a tie to the even one. -/
def nearestEven (n d : Nat) : Nat :=
  if 2 * (n % d) < d then n / d
  else if d < 2 * (n % d) then n / d + 1
  else n / d + n / d % 2

theorem div_le_nearestEven (n d : Nat) : n / d ≤ nearestEven n d := by
  unfold nearestEven
  split_ifs <;> omega

theorem nearestEven_le (n d : Nat) : nearestEven n d ≤ n / d + 1 := by
  unfold nearestEven
  split_ifs <;> omega

@[simp] theorem nearestEven_one (n : Nat) : nearestEven n 1 = n := by
  simp [nearestEven, Nat.mod_one]

/-- Rounding is monotone in the dividend. -/
theorem nearestEven_mono {n n' : Nat} (d : Nat) (h : n ≤ n') :
    nearestEven n d ≤ nearestEven n' d := by
  have hq : n / d ≤ n' / d := Nat.div_le_div_right h
  rcases Nat.lt_or_ge (n / d) (n' / d) with hlt | hge
  · -- Different quotients: one rounding step up at most, against none down.
    calc nearestEven n d ≤ n / d + 1 := nearestEven_le n d
      _ ≤ n' / d := hlt
      _ ≤ nearestEven n' d := div_le_nearestEven n' d
  · -- Equal quotients: the remainders are ordered as the dividends are.
    have hqe : n / d = n' / d := le_antisymm hq hge
    have hr : n % d ≤ n' % d := by
      have h1 := Nat.div_add_mod n d
      have h2 := Nat.div_add_mod n' d
      rw [hqe] at h1
      omega
    unfold nearestEven
    rw [hqe]
    split_ifs <;> omega

/-- Rounding depends on the quotient only. -/
theorem nearestEven_mul_right (n d : Nat) {c : Nat} (hc : 0 < c) :
    nearestEven (n * c) (d * c) = nearestEven n d := by
  have hdiv : n * c / (d * c) = n / d := Nat.mul_div_mul_right n d hc
  have hmod : n * c % (d * c) = n % d * c := Nat.mul_mod_mul_right c n d
  unfold nearestEven
  rw [hdiv, hmod]
  have hlt : 2 * (n % d * c) < d * c ↔ 2 * (n % d) < d := by
    rw [← Nat.mul_assoc]
    exact Nat.mul_lt_mul_right hc
  have hgt : d * c < 2 * (n % d * c) ↔ d < 2 * (n % d) := by
    rw [← Nat.mul_assoc]
    exact Nat.mul_lt_mul_right hc
  simp only [hlt, hgt]

/-! ## The shifts of the model -/

/-- Shifting an exact mantissa right by `k` bits keeps the quotient by `2 ^ k`, the round bit
(the remainder is at least half) and the sticky bit (the remainder is neither zero nor half). -/
theorem shift_exact (m k : Nat) :
    ExtendedMantissa.ofMantissaAndAccuracy m .exact >>> k =
      ⟨m / 2 ^ k, decide (2 ^ k ≤ 2 * (m % 2 ^ k)),
        decide (m % 2 ^ k ≠ 0 ∧ 2 * (m % 2 ^ k) ≠ 2 ^ k)⟩ := by
  induction k with
  | zero =>
    simp [HShiftRight.hShiftRight, Nat.repeat, ExtendedMantissa.ofMantissaAndAccuracy, Nat.mod_one]
  | succ k ih =>
    change ExtendedMantissa.shiftRightOne
      (ExtendedMantissa.ofMantissaAndAccuracy m .exact >>> k) = _
    rw [ih]
    simp only [ExtendedMantissa.shiftRightOne, ExtendedMantissa.mk.injEq]
    refine ⟨by rw [Nat.div_div_eq_div_mul, Nat.pow_succ], ?_, ?_⟩ <;>
    -- The remainder by `2 ^ (k + 1)` is the bit at `k` above the remainder by `2 ^ k`.
    · have hmod : m % 2 ^ (k + 1) = m % 2 ^ k + 2 ^ k * (m / 2 ^ k % 2) := Nat.mod_pow_succ
      have hr : m % 2 ^ k < 2 ^ k := Nat.mod_lt _ (Nat.two_pow_pos k)
      rw [hmod, Nat.pow_succ]
      generalize 2 ^ k = P at hr ⊢
      generalize m % P = r at hr ⊢
      rcases Nat.mod_two_eq_zero_or_one (m / P) with hb | hb <;>
        rw [hb, Bool.eq_iff_iff] <;>
        simp only [Nat.mul_zero, Nat.mul_one, Nat.add_zero, bne_iff_ne, ne_eq, Bool.or_eq_true,
          decide_eq_true_eq, not_true_eq_false, false_iff, Nat.one_ne_zero, not_false_eq_true,
          true_iff] <;>
        omega

/-- The mantissa rounded after a shift by `k` bits is the quotient by `2 ^ k` rounded to the
nearest, ties to even. -/
theorem roundedMantissa_shift (m k : Nat) :
    (ExtendedMantissa.ofMantissaAndAccuracy m .exact >>> k).roundedMantissa =
      nearestEven m (2 ^ k) := by
  rw [shift_exact]
  have hr : m % 2 ^ k < 2 ^ k := Nat.mod_lt _ (Nat.two_pow_pos k)
  have hpos : 0 < 2 ^ k := Nat.two_pow_pos k
  unfold ExtendedMantissa.roundedMantissa ExtendedMantissa.accuracy nearestEven
  by_cases h0 : m % 2 ^ k = 0
  · simp [h0, Accuracy.roundToNearestEven]
  · rcases Nat.lt_trichotomy (2 * (m % 2 ^ k)) (2 ^ k) with hlt | heq | hgt
    · simp [h0, Accuracy.roundToNearestEven, hlt, show ¬ 2 ^ k ≤ 2 * (m % 2 ^ k) by omega,
        show 2 * (m % 2 ^ k) ≠ 2 ^ k by omega]
    · simp [h0, Accuracy.roundToNearestEven, heq]
    · simp [h0, Accuracy.roundToNearestEven, hgt, show 2 ^ k ≤ 2 * (m % 2 ^ k) by omega,
        show 2 * (m % 2 ^ k) ≠ 2 ^ k by omega, show ¬ 2 * (m % 2 ^ k) < 2 ^ k by omega]

/-! ## Rounding in the model -/

/-- The exponent of the last bit that the double of a positive mantissa `m` at exponent `e`
keeps: 53 bits below its leading bit, and never below the least exponent. -/
def target (m : Nat) (e : Int) : Int := Format.binary64.targetExponent (totalExponent m e)

theorem target_eq (m : Nat) (e : Int) : target m e = max (m.log2 + e - 52) (-1074) := by
  simp only [target, Format.targetExponent, totalExponent, Format.mantissaBits, Format.minExponent]
  norm_num
  omega

/-- The unpacked double of sign `s` whose mantissa rounded to `r` at exponent `t`; a mantissa
that rounded up to `2 ^ 53` is carried into the exponent. -/
def ofRounded (s : Sign) (r : Nat) (t : Int) : UnpackedFloat :=
  if h : r = 0 then .zero s
  else if r < 2 ^ 53 then .finite s r t (Nat.pos_of_ne_zero h)
  else .finite s (2 ^ 52) (t + 1) (Nat.two_pow_pos 52)

theorem log2_mul_two_pow {m : Nat} (hm : 0 < m) (d : Nat) : (m * 2 ^ d).log2 = m.log2 + d := by
  rw [Nat.log2_eq_iff (Nat.mul_ne_zero (by omega) (by positivity))]
  have h₁ := Nat.log2_self_le (Nat.pos_iff_ne_zero.mp hm)
  have h₂ := Nat.lt_log2_self (n := m)
  constructor
  · rw [Nat.pow_add]
    exact Nat.mul_le_mul_right _ h₁
  · rw [Nat.add_right_comm, Nat.pow_add]
    exact Nat.mul_lt_mul_of_pos_right h₂ (by positivity)

/-- A mantissa of at most `53 + k` bits has fewer than 53 bits left after a shift by `k`. -/
theorem div_two_pow_lt {m k : Nat} (h : m.log2 ≤ 52 + k) : m / 2 ^ k < 2 ^ 53 := by
  rw [Nat.div_lt_iff_lt_mul (Nat.two_pow_pos k), ← Nat.pow_add]
  exact Nat.lt_of_lt_of_le Nat.lt_log2_self (Nat.pow_le_pow_right (by decide) (by omega))

/-- A mantissa of at least `53 + k` bits keeps at least 53 bits after a shift by `k`. -/
theorem two_pow_le_div {m k : Nat} (hm : 0 < m) (h : 52 + k ≤ m.log2) : 2 ^ 52 ≤ m / 2 ^ k := by
  rw [Nat.le_div_iff_mul_le (Nat.two_pow_pos k), ← Nat.pow_add]
  exact Nat.le_trans (Nat.pow_le_pow_right (by decide) h) (Nat.log2_self_le (by omega))

theorem nearestEven_le_two_pow {m k : Nat} (h : m.log2 ≤ 52 + k) :
    nearestEven m (2 ^ k) ≤ 2 ^ 53 := by
  have := div_two_pow_lt h
  have := nearestEven_le m (2 ^ k)
  omega

/-- Shifting by `k` bits to the target exponent, then rounding to the nearest. -/
theorem shiftToTargetExponent_exact (m : Nat) (e : Int) :
    shiftToTargetExponent Format.binary64 m e .exact =
      (ExtendedMantissa.ofMantissaAndAccuracy m .exact >>> (target m e - e).toNat,
        e + (target m e - e).toNat) := rfl

/-- The second shift of the model after rounding: nothing moves unless the mantissa rounded up
to `2 ^ 53`, which becomes `2 ^ 52` at the next exponent. -/
theorem carry_rounded (s : Sign) {r : Nat} {t : Int} (hr : r ≤ 2 ^ 53) (ht : -1074 ≤ t) :
    (if h : r / 2 ^ (target r t - t).toNat = 0 then UnpackedFloat.zero s
      else .finite s (r / 2 ^ (target r t - t).toNat) (t + (target r t - t).toNat)
        (Nat.pos_of_ne_zero h)) = ofRounded s r t := by
  have htr := target_eq r t
  rcases Nat.eq_zero_or_pos r with rfl | hpos
  · have hk : (target 0 t - t).toNat = 0 := by simp at htr; omega
    simp [hk, ofRounded]
  rcases Nat.lt_or_ge r (2 ^ 53) with hlt | hge
  · -- Fewer than 53 bits: the target is `t` itself.
    have hlog : r.log2 ≤ 52 := Nat.le_of_lt_succ ((Nat.log2_lt (by omega)).mpr hlt)
    have hk : (target r t - t).toNat = 0 := by omega
    simp only [hk, Nat.pow_zero, Nat.div_one, Nat.cast_zero, Int.add_zero, ofRounded,
      dif_neg (Nat.pos_iff_ne_zero.mp hpos), if_pos hlt]
  · -- Rounded up to `2 ^ 53`: one more shift, and the exponent goes up by one.
    have hr53 : r = 2 ^ 53 := by omega
    subst hr53
    rw [Nat.log2_two_pow] at htr
    have hk : (target (2 ^ 53) t - t).toNat = 1 := by omega
    have hdiv : 2 ^ 53 / 2 ^ 1 = 2 ^ 52 := rfl
    simp only [hk, hdiv, Nat.cast_one, ofRounded, dif_neg (Nat.two_pow_pos 52).ne',
      dif_neg (Nat.two_pow_pos 53).ne', if_neg (Nat.lt_irrefl _)]

/-- Rounding an exact mantissa that needs no widening: the quotient by the bits dropped, rounded
to the nearest, at the target exponent. -/
theorem roundWithAccuracy_exact (s : Sign) {m : Nat} {e : Int} (he : e ≤ target m e) :
    roundWithAccuracy Format.binary64 s m e .exact =
      ofRounded s (nearestEven m (2 ^ (target m e - e).toNat)) (target m e) := by
  have ht := target_eq m e
  have hk : e + ((target m e - e).toNat : Int) = target m e := by omega
  have hr : nearestEven m (2 ^ (target m e - e).toNat) ≤ 2 ^ 53 :=
    nearestEven_le_two_pow (by omega)
  -- Both shifts of the model: to the target exponent, then the carry after rounding.
  unfold roundWithAccuracy
  rw [shiftToTargetExponent_exact]
  dsimp only
  rw [roundedMantissa_shift, shiftToTargetExponent_exact]
  simp only [hk, shift_exact]
  exact carry_rounded s hr (by omega)

/-- Widening a mantissa by `d` bits and lowering its exponent by `d` keeps its target. -/
theorem target_mul_two_pow {m : Nat} (hm : 0 < m) (e : Int) (d : Nat) :
    target (m * 2 ^ d) (e - d) = target m e := by
  rw [target_eq, target_eq, log2_mul_two_pow hm]
  omega

/-- Rounding a positive mantissa at any exponent: it is first widened to the target exponent if it
lies above it, then rounded at the target exponent. -/
theorem round_eq (s : Sign) {m : Nat} (hm : 0 < m) (e : Int) :
    round Format.binary64 s m e =
      ofRounded s (nearestEven (m * 2 ^ (e - target m e).toNat) (2 ^ (target m e - e).toNat))
        (target m e) := by
  have ht := target_mul_two_pow hm e (e - target m e).toNat
  have hle : e - ((e - target m e).toNat : Nat) ≤ target (m * 2 ^ (e - target m e).toNat)
      (e - ((e - target m e).toNat : Nat)) := by
    rw [ht]
    omega
  have hk : (target m e - (e - ((e - target m e).toNat : Nat))).toNat = (target m e - e).toNat := by
    omega
  change roundWithAccuracy Format.binary64 s (m <<< (e - target m e).toNat)
    (e - ((e - target m e).toNat : Nat)) .exact = _
  rw [Nat.shiftLeft_eq, roundWithAccuracy_exact s hle, ht, hk]

@[simp] theorem nearestEven_zero (d : Nat) : nearestEven 0 d = 0 := by
  simp [nearestEven]

theorem round_zero (s : Sign) (e : Int) : round Format.binary64 s 0 e = .zero s := by
  unfold UnpackedFloat.round decreaseExponent
  simp [roundWithAccuracy, shiftToTargetExponent_exact, shift_exact,
    ExtendedMantissa.roundedMantissa, ExtendedMantissa.accuracy, Accuracy.roundToNearestEven]

/-- Rounding depends on the value only: widening the mantissa by `j` bits and lowering the
exponent by `j` rounds to the same double. -/
theorem round_mul_two_pow (s : Sign) {m : Nat} (hm : 0 < m) (e : Int) (j : Nat) :
    round Format.binary64 s (m * 2 ^ j) (e - j) = round Format.binary64 s m e := by
  rw [round_eq s (Nat.mul_pos hm (Nat.two_pow_pos j)), round_eq s hm, target_mul_two_pow hm]
  congr 1
  -- Both roundings divide `m` times a power of two by a power of two; they differ by a common
  -- power of two.
  have hnum : m * 2 ^ j * 2 ^ (e - j - target m e).toNat =
      m * 2 ^ (e - target m e).toNat *
        2 ^ (j + (e - j - target m e).toNat - (e - target m e).toNat) := by
    rw [Nat.mul_assoc, Nat.mul_assoc, ← Nat.pow_add, ← Nat.pow_add]
    congr 2
    omega
  have hden : 2 ^ (target m e - (e - j)).toNat =
      2 ^ (target m e - e).toNat *
        2 ^ (j + (e - j - target m e).toNat - (e - target m e).toNat) := by
    rw [← Nat.pow_add]
    congr 1
    omega
  rw [hnum, hden, nearestEven_mul_right _ _ (Nat.two_pow_pos _)]

/-! ## Rounding is monotone -/

theorem key_zero_le {u : UnpackedFloat} (s : Sign) (hu : nonneg u = true) :
    unpackedKey (.zero s) ≤ unpackedKey u := by
  rcases u with ⟨_ | _⟩ | _ | _ | ⟨_ | _, m, e, hm⟩ <;>
    simp_all [nonneg, unpackedKey, Prod.Lex.toLex_le_toLex]

theorem key_finite_le {m₁ m₂ : Nat} {e₁ e₂ : Int} (h₁ : 0 < m₁) (h₂ : 0 < m₂)
    (h : e₁ < e₂ ∨ e₁ = e₂ ∧ m₁ ≤ m₂) :
    unpackedKey (.finite .positive m₁ e₁ h₁) ≤ unpackedKey (.finite .positive m₂ e₂ h₂) := by
  simp only [unpackedKey, Prod.Lex.toLex_le_toLex, lt_self_iff_false, true_and, false_or]
  omega

/-- At one exponent, a larger rounded mantissa is a larger double. -/
theorem key_ofRounded_mono (t : Int) {r r' : Nat} (h : r ≤ r') (h' : r' ≤ 2 ^ 53) :
    unpackedKey (ofRounded .positive r t) ≤ unpackedKey (ofRounded .positive r' t) := by
  rcases Nat.eq_zero_or_pos r with rfl | hr
  · exact key_zero_le _ (by unfold ofRounded; split_ifs <;> rfl)
  have hr' : r' ≠ 0 := by omega
  unfold ofRounded
  rw [dif_neg (by omega), dif_neg hr']
  split_ifs <;> exact key_finite_le _ _ (by omega)

/-- A mantissa that rounded up to `2 ^ 53` stays below every double with 53 bits at a higher
exponent. -/
theorem key_ofRounded_carry_le {t₁ t₂ : Int} (ht : t₁ < t₂) {r : Nat} (hr : 2 ^ 52 ≤ r)
    (hr' : r ≤ 2 ^ 53) :
    unpackedKey (ofRounded .positive (2 ^ 53) t₁) ≤ unpackedKey (ofRounded .positive r t₂) := by
  unfold ofRounded
  rw [dif_neg (Nat.two_pow_pos 53).ne', if_neg (Nat.lt_irrefl _), dif_neg (by omega)]
  split_ifs <;> exact key_finite_le _ _ (by omega)

theorem rounded_le_two_pow {m : Nat} (hm : 0 < m) (e : Int) :
    nearestEven (m * 2 ^ (e - target m e).toNat) (2 ^ (target m e - e).toNat) ≤ 2 ^ 53 := by
  have ht := target_eq m e
  apply nearestEven_le_two_pow
  rw [log2_mul_two_pow hm]
  omega

/-- Above the subnormal range a rounded mantissa has 53 bits. -/
theorem two_pow_le_rounded {m : Nat} (hm : 0 < m) {e : Int} (ht : -1074 < target m e) :
    2 ^ 52 ≤ nearestEven (m * 2 ^ (e - target m e).toNat) (2 ^ (target m e - e).toNat) := by
  have htm := target_eq m e
  refine Nat.le_trans (two_pow_le_div (Nat.mul_pos hm (Nat.two_pow_pos _)) ?_)
    (div_le_nearestEven _ _)
  rw [log2_mul_two_pow hm]
  omega

theorem log2_mono {m n : Nat} (hm : 0 < m) (h : m ≤ n) : m.log2 ≤ n.log2 :=
  (Nat.le_log2 (by omega)).mpr (Nat.le_trans (Nat.log2_self_le (by omega)) h)

/-- Rounding is monotone: of two mantissas at one exponent, the larger rounds to the larger
double. Within one binade this is the monotonicity of rounding a quotient; across binades the
smaller value rounds at most up to the boundary between them. -/
theorem round_mono (E : Int) {M₁ M₂ : Nat} (h : M₁ ≤ M₂) :
    unpackedKey (round Format.binary64 .positive M₁ E) ≤
      unpackedKey (round Format.binary64 .positive M₂ E) := by
  rcases Nat.eq_zero_or_pos M₁ with rfl | hM₁
  · rw [round_zero]
    exact key_zero_le _ (nonneg_roundWithAccuracy _ _ _ _)
  have hM₂ : 0 < M₂ := by omega
  have hlog := log2_mono hM₁ h
  have ht₁ := target_eq M₁ E
  have ht₂ := target_eq M₂ E
  rw [round_eq _ hM₁, round_eq _ hM₂]
  rcases (show target M₁ E ≤ target M₂ E by omega).eq_or_lt with heq | hlt
  · -- One target: round the two quotients by the same power of two.
    rw [← heq]
    refine key_ofRounded_mono _ (nearestEven_mono _ (Nat.mul_le_mul_right _ h)) ?_
    have := rounded_le_two_pow hM₂ E
    rwa [← heq] at this
  · -- A higher target for the larger value: it lies in a higher binade.
    calc unpackedKey (ofRounded .positive _ (target M₁ E))
        ≤ unpackedKey (ofRounded .positive (2 ^ 53) (target M₁ E)) :=
          key_ofRounded_mono _ (rounded_le_two_pow hM₁ E) le_rfl
      _ ≤ _ := key_ofRounded_carry_le hlt (two_pow_le_rounded hM₂ (by omega))
          (rounded_le_two_pow hM₂ E)

end SnippetAssist.Double
