import SnippetAssist.Proofs.DoubleRounding
import Mathlib

/-!
# Monotone arithmetic on doubles

A snippet's total is a weighted sum of doubles, and a larger count must never make it smaller.
This module proves that the operations the total is made of are monotone on the non-negative
doubles: the double of a natural number below `2 ^ 53`, multiplication by a positive finite
double, and addition.

Every operation unpacks its operands, computes exactly, rounds, and packs the result. Operands
unpacked from bits are *rounded*: a mantissa of at most 53 bits, all of them in use unless the
value is subnormal (`rounded_unpack`). Rounded values share one grid, the multiples of the least
subnormal `2 ^ -1074`, and on it their order is the order of natural numbers
(`grid_le_of_key_le`). A sum or a product of rounded values is the rounding of a natural number
on that grid (`key_add_eq_round_grid`, `key_mul_eq_round_grid`); rounding is monotone
(`round_mono`), and packing a rounded value keeps it or overflows it to infinity, which is
monotone too (`repack_mono`).
-/

open Float.Model (UnpackedFloat Format)
open Float.Model.UnpackedFloat

namespace SnippetAssist.Double

/-! ## Rounded values -/

/-- A finite unpacked double as rounding to 64 bits leaves it: a mantissa of at most 53 bits, an
exponent not below that of the least subnormal, and all 53 bits in use unless the exponent is
that least one. Zeros and the special values are rounded as they are. -/
def Rounded : UnpackedFloat → Prop
  | .finite _ m e _ => m < 2 ^ 53 ∧ -1074 ≤ e ∧ (2 ^ 52 ≤ m ∨ e = -1074)
  | _ => True

/-- A mantissa field read with its implicit leading bit. -/
theorem toNat_one_append {w : Nat} (v : BitVec w) : (1#1 ++ v).toNat = 2 ^ w + v.toNat := by
  rw [BitVec.toNat_append, ← Nat.shiftLeft_add_eq_or_of_lt v.isLt]
  simp [Nat.shiftLeft_eq]

theorem rounded_unpack (b : BitVec 64) : Rounded (unpack Format.binary64 b) := by
  have hexp : (@unpackExponent Format.binary64 b).toNat < 2 ^ 11 := BitVec.isLt _
  have hmant : (@unpackMantissa Format.binary64 b).toNat < 2 ^ 52 := BitVec.isLt _
  have hbias : (Format.binary64.exponentBias : Int) = 1023 := rfl
  unfold unpack
  dsimp only
  split
  · split <;> trivial
  rename_i hnotinf
  split
  · -- A subnormal value: the exponent field is zero.
    split
    · trivial
    rename_i hzero _
    simp only [BitVec.toNat_eq, BitVec.toNat_ofNat, Nat.zero_mod] at hzero
    simp only [Rounded, hzero, hbias]
    omega
  · -- A normal value: the implicit bit is set.
    rename_i hnz
    simp only [BitVec.toNat_eq, BitVec.toNat_neg, BitVec.toNat_ofNat] at hnotinf hnz
    simp only [Rounded]
    rw [toNat_one_append, hbias]
    norm_num at hnotinf hnz ⊢
    omega

theorem rounded_toModel (x : Float) : Rounded x.toModel.unpack := rounded_unpack _

/-! ## Packing a rounded value -/

/-- What 64 bits keep of an unpacked double: every operation packs its result, and the next one
unpacks it. -/
def repack (u : UnpackedFloat) : UnpackedFloat := unpack Format.binary64 (pack Format.binary64 u)

theorem unpack_add (a b : Float) :
    (a + b).toModel.unpack = repack (add Format.binary64 a.toModel.unpack b.toModel.unpack) :=
  unpack_pack _

theorem unpack_mul (a b : Float) :
    (a * b).toModel.unpack = repack (mul Format.binary64 a.toModel.unpack b.toModel.unpack) :=
  unpack_pack _

theorem repack_zero (s : Sign) : repack (.zero s) = .zero s := unpack_packedZero s

theorem repack_infinity (s : Sign) : repack (.infinity s) = .infinity s := unpack_packedInfinity s

theorem nonneg_repack {u : UnpackedFloat} (hu : nonneg u = true) : nonneg (repack u) = true := by
  have := nonneg_unpack_pack hu
  rwa [unpack_pack] at this

theorem biased_eq (e : Int) :
    (e + Format.binary64.exponentBias + Format.binary64.mantissaBitsWithoutImplicit).toNat =
      (e + 1075).toNat := by
  show (e + ((2 ^ (11 - 1) - 1 : Nat) : Int) + ((52 : Nat) : Int)).toNat = _
  omega

theorem repack_overflow (s : Sign) {m : Nat} {e : Int} (hm : 0 < m) (he : 972 ≤ e) :
    repack (.finite s m e hm) = .infinity s := by
  unfold repack pack
  dsimp only
  rw [biased_eq, if_pos (by norm_num; omega), unpack_packedInfinity]

theorem unpack_normal (s : Sign) {m k : Nat} {e : Int} (hm : 0 < m) (hlo : 2 ^ 52 ≤ m)
    (hhi : m < 2 ^ 53) (hk : 0 < k ∧ k < 2047) (he : (k : Int) = e + 1075) :
    unpack Format.binary64
        (packComponents Format.binary64 s (BitVec.ofNat 11 k) (BitVec.ofNat 52 m)) =
      .finite s m e hm := by
  have hfield : (BitVec.ofNat 11 k).toNat = k := by
    rw [BitVec.toNat_ofNat]
    omega
  have hne1 : BitVec.ofNat 11 k ≠ -1#11 := by
    rw [ne_eq, BitVec.toNat_eq, hfield]
    norm_num
    omega
  have hne0 : BitVec.ofNat 11 k ≠ 0#11 := by
    rw [ne_eq, BitVec.toNat_eq, hfield]
    norm_num
    omega
  unfold unpack
  simp only [unpackExponent_packComponents, unpackMantissa_packComponents,
    unpackSign_packComponents, ofBitVec_toBitVec]
  rw [if_neg hne1, if_neg hne0]
  simp only [UnpackedFloat.finite.injEq]
  refine ⟨trivial, ?_, ?_⟩
  · rw [toNat_one_append, BitVec.toNat_ofNat]
    omega
  · rw [hfield]
    show (k : Int) - (1023 + 52) = e
    omega

theorem unpack_subnormal (s : Sign) {m : Nat} (hm : 0 < m) (hhi : m < 2 ^ 52) :
    unpack Format.binary64 (packComponents Format.binary64 s 0#11 (BitVec.ofNat 52 m)) =
      .finite s m (-1074) hm := by
  have hmant : (BitVec.ofNat 52 m).toNat = m := by
    rw [BitVec.toNat_ofNat]
    omega
  have hne : BitVec.ofNat 52 m ≠ 0#52 := by
    rw [ne_eq, BitVec.toNat_eq, hmant]
    simp
    omega
  unfold unpack
  simp only [unpackExponent_packComponents, unpackMantissa_packComponents,
    unpackSign_packComponents, ofBitVec_toBitVec]
  rw [if_neg (by decide), if_pos trivial, dif_neg hne]
  simp only [UnpackedFloat.finite.injEq]
  refine ⟨trivial, hmant, ?_⟩
  rfl

/-- A rounded value below the overflow exponent survives packing. -/
theorem repack_finite (s : Sign) {m : Nat} {e : Int} (hm : 0 < m)
    (hr : Rounded (.finite s m e hm)) (he : e ≤ 971) :
    repack (.finite s m e hm) = .finite s m e hm := by
  obtain ⟨hlt, hge, hnorm⟩ := hr
  have hlog : m.log2 < 53 := (Nat.log2_lt (by omega)).mpr hlt
  unfold repack pack
  dsimp only
  rw [biased_eq, if_neg (by norm_num; omega)]
  split
  · -- All 53 bits: a normal value, its leading bit implicit.
    rename_i hnormal
    have hlo : 2 ^ 52 ≤ m := by
      rw [← Nat.le_log2 (by omega)]
      simp [Format.mantissaBits] at hnormal
      omega
    exact unpack_normal s hm hlo hlt (by omega) (by omega)
  · -- Fewer bits: a subnormal value at the least exponent.
    rename_i hsub
    have hhi : m < 2 ^ 52 := by
      rw [← Nat.log2_lt (by omega)]
      simp [Format.mantissaBits] at hsub
      omega
    obtain rfl : e = -1074 := hnorm.resolve_left (by omega)
    exact unpack_subnormal s hm hhi

theorem key_le_infinity {u : UnpackedFloat} (hu : nonneg u = true) :
    unpackedKey u ≤ unpackedKey (.infinity .positive) := by
  rcases u with ⟨_ | _⟩ | _ | _ | ⟨_ | _, m, e, hm⟩ <;>
    simp_all [nonneg, unpackedKey, Prod.Lex.toLex_le_toLex]

theorem key_finite_le_iff {m₁ m₂ : Nat} {e₁ e₂ : Int} (h₁ : 0 < m₁) (h₂ : 0 < m₂) :
    unpackedKey (.finite .positive m₁ e₁ h₁) ≤ unpackedKey (.finite .positive m₂ e₂ h₂) ↔
      e₁ < e₂ ∨ e₁ = e₂ ∧ m₁ ≤ m₂ := by
  simp only [unpackedKey, Prod.Lex.toLex_le_toLex, lt_self_iff_false, true_and, false_or]
  omega

/-- Only a zero lies at or below a zero. -/
theorem eq_zero_of_key_le {x : UnpackedFloat} (hx : nonneg x = true) (s : Sign)
    (h : unpackedKey x ≤ unpackedKey (.zero s)) : ∃ s', x = .zero s' := by
  rcases x with ⟨_ | _⟩ | _ | s' | ⟨_ | _, m, e, hm⟩ <;>
    simp_all [nonneg, unpackedKey, Prod.Lex.toLex_le_toLex]

theorem repack_mono {x y : UnpackedFloat} (hx : nonneg x = true) (hy : nonneg y = true)
    (rx : Rounded x) (ry : Rounded y) (h : unpackedKey x ≤ unpackedKey y) :
    unpackedKey (repack x) ≤ unpackedKey (repack y) := by
  cases y with
  | notANumber => cases hy
  | infinity s =>
    cases s with
    | negative => cases hy
    | positive =>
      rw [repack_infinity]
      exact key_le_infinity (nonneg_repack hx)
  | zero s =>
    obtain ⟨s', rfl⟩ := eq_zero_of_key_le hx s h
    rw [repack_zero, repack_zero]
    exact h
  | finite s m e hm =>
    cases s with
    | negative => cases hy
    | positive =>
      by_cases he : e ≤ 971
      · rw [repack_finite .positive hm ry he]
        cases x with
        | zero s' =>
          rw [repack_zero]
          exact h
        | finite s' m' e' hm' =>
          cases s' with
          | negative => cases hx
          | positive =>
            have he' := (key_finite_le_iff hm' hm).mp h
            rw [repack_finite .positive hm' rx (by omega)]
            exact h
        | infinity s' =>
          cases s' with
          | negative => cases hx
          | positive => simp [unpackedKey, Prod.Lex.toLex_le_toLex] at h
        | notANumber => cases hx
      · rw [repack_overflow .positive hm (by omega)]
        exact key_le_infinity (nonneg_repack hx)

/-! ## The grid of the least subnormal -/

theorem target_of_rounded (s : Sign) {m : Nat} {e : Int} (hm : 0 < m)
    (hr : Rounded (.finite s m e hm)) : target m e = e := by
  obtain ⟨hlt, hge, hnorm⟩ := hr
  have hlog : m.log2 < 53 := (Nat.log2_lt (by omega)).mpr hlt
  rw [target_eq]
  rcases hnorm with hnorm | rfl
  · have : 52 ≤ m.log2 := (Nat.le_log2 (by omega)).mpr hnorm
    omega
  · omega

/-- A rounded value rounds to itself. -/
theorem round_of_rounded (s : Sign) {m : Nat} {e : Int} (hm : 0 < m)
    (hr : Rounded (.finite s m e hm)) : round Format.binary64 s m e = .finite s m e hm := by
  rw [round_eq s hm, target_of_rounded s hm hr, Int.sub_self, Int.toNat_zero, Nat.pow_zero,
    Nat.mul_one, nearestEven_one]
  unfold ofRounded
  rw [dif_neg (by omega), if_pos hr.1]

theorem rounded_ofRounded (s : Sign) {r : Nat} {t : Int} (ht : -1074 ≤ t)
    (hn : 2 ^ 52 ≤ r ∨ t = -1074) : Rounded (ofRounded s r t) := by
  unfold ofRounded
  split_ifs with h₀ h₁
  · trivial
  · exact ⟨h₁, ht, hn⟩
  · exact ⟨by decide, by omega, Or.inl le_rfl⟩

/-- Every double that rounding gives is rounded. -/
theorem rounded_round (s : Sign) (m : Nat) (e : Int) : Rounded (round Format.binary64 s m e) := by
  rcases Nat.eq_zero_or_pos m with rfl | hm
  · rw [round_zero]
    trivial
  have ht := target_eq m e
  rw [round_eq s hm]
  refine rounded_ofRounded s (by omega) ?_
  by_cases hsub : -1074 < target m e
  · exact Or.inl (two_pow_le_rounded hm hsub)
  · exact Or.inr (by omega)

/-- The value of a finite unpacked double in units of the least subnormal, `2 ^ -1074`, and zero
for the others. Every rounded value lies on this grid. -/
def grid : UnpackedFloat → Nat
  | .finite _ m e _ => m * 2 ^ (e + 1074).toNat
  | _ => 0

@[simp] theorem grid_zero (s : Sign) : grid (.zero s) = 0 := rfl

theorem round_grid (s : Sign) {m : Nat} {e : Int} (hm : 0 < m) (hr : Rounded (.finite s m e hm)) :
    round Format.binary64 s (grid (.finite s m e hm)) (-1074) = .finite s m e hm := by
  have hge := hr.2.1
  have he : (-1074 : Int) = e - ((e + 1074).toNat : Nat) := by omega
  rw [grid, he, round_mul_two_pow s hm, round_of_rounded s hm hr]

/-- A zero or a positive finite value: a non-negative double short of infinity. -/
def finiteNonneg : UnpackedFloat → Bool
  | .zero _ => true
  | .finite .positive .. => true
  | _ => false

theorem nonneg_cases {u : UnpackedFloat} (hu : nonneg u = true) :
    u = .infinity .positive ∨ finiteNonneg u = true := by
  rcases u with ⟨_ | _⟩ | _ | s | ⟨_ | _, m, e, hm⟩ <;> simp_all [nonneg, finiteNonneg]

/-- Between rounded values, the order of doubles is the order on the grid: a value at a higher
exponent uses all 53 bits, more than any mantissa at a lower one. -/
theorem grid_le_of_key_le {u v : UnpackedFloat} (hu : finiteNonneg u = true)
    (hv : finiteNonneg v = true) (ru : Rounded u) (rv : Rounded v)
    (h : unpackedKey u ≤ unpackedKey v) : grid u ≤ grid v := by
  cases u with
  | zero s => exact Nat.zero_le _
  | finite s₁ m₁ e₁ h₁ =>
    cases s₁ with
    | negative => cases hu
    | positive =>
      cases v with
      | zero s => simp [unpackedKey, Prod.Lex.toLex_le_toLex] at h
      | finite s₂ m₂ e₂ h₂ =>
        cases s₂ with
        | negative => cases hv
        | positive =>
          obtain ⟨hlt₁, hge₁, -⟩ := ru
          obtain ⟨-, hge₂, hn₂⟩ := rv
          simp only [grid]
          rcases (key_finite_le_iff h₁ h₂).mp h with he | ⟨rfl, hm⟩
          · have hm₂ : 2 ^ 52 ≤ m₂ := hn₂.resolve_right (by omega)
            have hj : (e₁ + 1074).toNat + 1 ≤ (e₂ + 1074).toNat := by omega
            calc m₁ * 2 ^ (e₁ + 1074).toNat
                ≤ 2 ^ 53 * 2 ^ (e₁ + 1074).toNat := Nat.mul_le_mul_right _ hlt₁.le
              _ = 2 ^ 52 * 2 ^ ((e₁ + 1074).toNat + 1) := by rw [Nat.pow_succ]; ring
              _ ≤ m₂ * 2 ^ (e₂ + 1074).toNat :=
                Nat.mul_le_mul hm₂ (Nat.pow_le_pow_right (by decide) hj)
          · exact Nat.mul_le_mul_right _ hm
      | _ => cases hv
  | _ => cases hu

/-! ## Sums and products on the grid -/

theorem normalize_of_pos (spec : Format) {n : Nat} (hn : 0 < n) (e : Int) (zs : Sign) :
    UnpackedFloat.normalize spec n e zs = round spec .positive n e := by
  unfold UnpackedFloat.normalize
  rw [Int.compare_eq_gt.mpr (by omega), Int.toNat_natCast]

theorem add_finite {m₁ m₂ : Nat} {e₁ e₂ : Int} (h₁ : 0 < m₁) (h₂ : 0 < m₂) :
    add Format.binary64 (.finite .positive m₁ e₁ h₁) (.finite .positive m₂ e₂ h₂) =
      round Format.binary64 .positive
        (m₁ * 2 ^ (e₁ - min e₁ e₂).toNat + m₂ * 2 ^ (e₂ - min e₁ e₂).toNat) (min e₁ e₂) := by
  have hpos : 0 < m₁ * 2 ^ (e₁ - min e₁ e₂).toNat + m₂ * 2 ^ (e₂ - min e₁ e₂).toNat :=
    Nat.add_pos_left (Nat.mul_pos h₁ (Nat.two_pow_pos _)) _
  simp only [add, decreaseExponent, Nat.shiftLeft_eq, Sign.apply]
  rw [← Int.natCast_add, normalize_of_pos _ hpos]

/-- Adding two rounded values that are zeros or positive and finite rounds their sum on the
grid. Two zeros may add to a zero of either sign, so the equation is one of keys. -/
theorem key_add_eq_round_grid {u w : UnpackedFloat} (hu : finiteNonneg u = true)
    (hw : finiteNonneg w = true) (ru : Rounded u) (rw' : Rounded w) :
    unpackedKey (repack (add Format.binary64 u w)) =
      unpackedKey (repack (round Format.binary64 .positive (grid u + grid w) (-1074))) := by
  cases u with
  | zero s₁ =>
    cases w with
    | zero s₂ =>
      rw [grid_zero, grid_zero, Nat.add_zero, round_zero, repack_zero]
      show unpackedKey (repack (if s₁ == s₂ then .zero s₁ else .zero .positive)) = _
      split
      · rw [repack_zero]
        rfl
      · rw [repack_zero]
    | finite s₂ m₂ e₂ h₂ =>
      cases s₂ with
      | negative => cases hw
      | positive =>
        rw [grid_zero, Nat.zero_add, round_grid .positive h₂ rw']
        rfl
    | _ => cases hw
  | finite s₁ m₁ e₁ h₁ =>
    cases s₁ with
    | negative => cases hu
    | positive =>
      cases w with
      | zero s₂ =>
        rw [grid_zero, Nat.add_zero, round_grid .positive h₁ ru]
        rfl
      | finite s₂ m₂ e₂ h₂ =>
        cases s₂ with
        | negative => cases hw
        | positive =>
          -- The model adds at the smaller exponent; the grid is finer still.
          have hge₁ := ru.2.1
          have hge₂ := rw'.2.1
          have hpos : 0 < m₁ * 2 ^ (e₁ - min e₁ e₂).toNat + m₂ * 2 ^ (e₂ - min e₁ e₂).toNat :=
            Nat.add_pos_left (Nat.mul_pos h₁ (Nat.two_pow_pos _)) _
          have hgrid : grid (.finite .positive m₁ e₁ h₁) + grid (.finite .positive m₂ e₂ h₂) =
              (m₁ * 2 ^ (e₁ - min e₁ e₂).toNat + m₂ * 2 ^ (e₂ - min e₁ e₂).toNat) *
                2 ^ (min e₁ e₂ + 1074).toNat := by
            simp only [grid, Nat.add_mul, Nat.mul_assoc, ← Nat.pow_add]
            congr 3 <;> omega
          have he : (-1074 : Int) = min e₁ e₂ - ((min e₁ e₂ + 1074).toNat : Nat) := by omega
          rw [add_finite, hgrid, he, round_mul_two_pow _ hpos]
      | _ => cases hw
  | _ => cases hu

/-- Below its target exponent a mantissa is only shifted right, so rounding it is the model's
shorter rounding, which never widens. -/
theorem roundWithAccuracy_eq_round (s : Sign) {m : Nat} {e : Int} (hle : e ≤ target m e) :
    roundWithAccuracy Format.binary64 s m e .exact = round Format.binary64 s m e := by
  have h0 : (e - target m e).toNat = 0 := by omega
  change _ = roundWithAccuracy Format.binary64 s (m <<< (e - target m e).toNat)
    (e - ((e - target m e).toNat : Nat)) .exact
  rw [h0, Nat.shiftLeft_zero, Nat.cast_zero, Int.sub_zero]

/-- The exact product of two rounded values is never above its target exponent: either one
factor has all 53 bits, or both are subnormal and the product lies below the least exponent. -/
theorem le_target_mul {s₁ s₂ : Sign} {m₁ m₂ : Nat} {e₁ e₂ : Int} (h₁ : 0 < m₁) (h₂ : 0 < m₂)
    (r₁ : Rounded (.finite s₁ m₁ e₁ h₁)) (r₂ : Rounded (.finite s₂ m₂ e₂ h₂)) :
    e₁ + e₂ ≤ target (m₁ * m₂) (e₁ + e₂) := by
  have ht := target_eq (m₁ * m₂) (e₁ + e₂)
  rcases r₁.2.2 with hn₁ | he₁
  · have : 52 ≤ (m₁ * m₂).log2 :=
      (Nat.le_log2 (by positivity)).mpr (Nat.le_trans hn₁ (Nat.le_mul_of_pos_right _ h₂))
    omega
  rcases r₂.2.2 with hn₂ | he₂
  · have : 52 ≤ (m₁ * m₂).log2 :=
      (Nat.le_log2 (by positivity)).mpr (Nat.le_trans hn₂ (Nat.le_mul_of_pos_left _ h₁))
    omega
  · omega

/-- Multiplying a rounded value that is zero or positive and finite by a positive finite
rounded value rounds the product on the grid, at the exponent of the factor shifted down to the
grid. -/
theorem key_mul_eq_round_grid {mc : Nat} {ec : Int} (hc : 0 < mc)
    (rc : Rounded (.finite .positive mc ec hc)) {u : UnpackedFloat} (hu : finiteNonneg u = true)
    (ru : Rounded u) :
    unpackedKey (repack (mul Format.binary64 (.finite .positive mc ec hc) u)) =
      unpackedKey (repack (round Format.binary64 .positive (mc * grid u) (ec - 1074))) := by
  cases u with
  | zero s =>
    rw [grid_zero, Nat.mul_zero, round_zero, repack_zero]
    show unpackedKey (repack (.zero (.positive * s))) = _
    rw [repack_zero]
    rfl
  | finite s m e hm =>
    cases s with
    | negative => cases hu
    | positive =>
      have hge := ru.2.1
      have hgrid : mc * grid (.finite .positive m e hm) = mc * m * 2 ^ (e + 1074).toNat := by
        rw [grid, Nat.mul_assoc]
      have he : ec - 1074 = ec + e - ((e + 1074).toNat : Nat) := by omega
      show unpackedKey
        (repack (roundWithAccuracy Format.binary64 .positive (mc * m) (ec + e) .exact)) = _
      rw [roundWithAccuracy_eq_round _ (le_target_mul hc hm rc ru), hgrid, he,
        round_mul_two_pow _ (Nat.mul_pos hc hm)]
  | _ => cases hu

/-! ## Monotone operations -/

theorem nonneg_round (M : Nat) (E : Int) : nonneg (round Format.binary64 .positive M E) = true :=
  nonneg_roundWithAccuracy _ _ _ _

/-- A non-negative value at or below one short of infinity is short of infinity too. -/
theorem finiteNonneg_of_key_le {u v : UnpackedFloat} (hu : nonneg u = true)
    (hv : finiteNonneg v = true) (h : unpackedKey u ≤ unpackedKey v) : finiteNonneg u = true := by
  rcases nonneg_cases hu with rfl | hu'
  · rcases v with ⟨_ | _⟩ | _ | s | ⟨_ | _, m, e, hm⟩ <;>
      simp_all [finiteNonneg, unpackedKey, Prod.Lex.toLex_le_toLex]
  · exact hu'

/-- Rounding two values on the grid and packing them keeps their order. -/
theorem key_repack_round_mono (E : Int) {M₁ M₂ : Nat} (h : M₁ ≤ M₂) :
    unpackedKey (repack (round Format.binary64 .positive M₁ E)) ≤
      unpackedKey (repack (round Format.binary64 .positive M₂ E)) :=
  repack_mono (nonneg_round _ _) (nonneg_round _ _) (rounded_round _ _ _) (rounded_round _ _ _)
    (round_mono E h)

theorem add_infinity_left {w : UnpackedFloat} (hw : nonneg w = true) :
    add Format.binary64 (.infinity .positive) w = .infinity .positive := by
  rcases w with ⟨_ | _⟩ | _ | s | ⟨_ | _, m, e, hm⟩ <;> first | rfl | cases hw

theorem add_infinity_right {u : UnpackedFloat} (hu : nonneg u = true) :
    add Format.binary64 u (.infinity .positive) = .infinity .positive := by
  rw [add_comm_unpacked, add_infinity_left hu]

/-- Adding a non-negative double is monotone. -/
theorem add_mono_unpacked {u v w : UnpackedFloat} (hu : nonneg u = true) (hv : nonneg v = true)
    (hw : nonneg w = true) (ru : Rounded u) (rv : Rounded v) (rw' : Rounded w)
    (h : unpackedKey u ≤ unpackedKey v) :
    unpackedKey (repack (add Format.binary64 u w)) ≤
      unpackedKey (repack (add Format.binary64 v w)) := by
  rcases nonneg_cases hv with rfl | hv'
  · rw [add_infinity_left hw, repack_infinity]
    exact key_le_infinity (nonneg_repack (nonneg_add _ hu hw))
  rcases nonneg_cases hw with rfl | hw'
  · rw [add_infinity_right hu, add_infinity_right hv]
  have hu' := finiteNonneg_of_key_le hu hv' h
  rw [key_add_eq_round_grid hu' hw' ru rw', key_add_eq_round_grid hv' hw' rv rw']
  exact key_repack_round_mono _ (Nat.add_le_add_right (grid_le_of_key_le hu' hv' ru rv h) _)

/-- Multiplying by a positive finite double is monotone. -/
theorem mul_mono_unpacked {c u v : UnpackedFloat} (hc : posFinite c = true) (rc : Rounded c)
    (hu : nonneg u = true) (hv : nonneg v = true) (ru : Rounded u) (rv : Rounded v)
    (h : unpackedKey u ≤ unpackedKey v) :
    unpackedKey (repack (mul Format.binary64 c u)) ≤
      unpackedKey (repack (mul Format.binary64 c v)) := by
  cases c with
  | finite s mc ec hmc =>
    cases s with
    | negative => cases hc
    | positive =>
      rcases nonneg_cases hv with rfl | hv'
      · show _ ≤ unpackedKey (repack (.infinity .positive))
        rw [repack_infinity]
        exact key_le_infinity (nonneg_repack (nonneg_mul _ hc hu))
      have hu' := finiteNonneg_of_key_le hu hv' h
      rw [key_mul_eq_round_grid hmc rc hu' ru, key_mul_eq_round_grid hmc rc hv' rv]
      exact key_repack_round_mono _ (Nat.mul_le_mul_left _ (grid_le_of_key_le hu' hv' ru rv h))
  | _ => cases hc

theorem ofNat_eq_round (n : Nat) :
    UnpackedFloat.ofNat Format.binary64 n = round Format.binary64 .positive n 0 := by
  rcases Nat.eq_zero_or_pos n with rfl | hn
  · rw [round_zero]
    rfl
  · exact normalize_of_pos _ hn _ _

/-! ## Monotone operations on doubles -/

/-- Non-negative doubles compare as their unpacked forms do in the order of keys. -/
theorem NonNeg.le_iff {a b : Float} (ha : NonNeg a) (hb : NonNeg b) :
    a ≤ b ↔ unpackedKey a.toModel.unpack ≤ unpackedKey b.toModel.unpack :=
  le_iff_key_le ha.isNaN_eq_false hb.isNaN_eq_false

theorem NonNeg.add_le_add_right {a b c : Float} (ha : NonNeg a) (hb : NonNeg b) (hc : NonNeg c)
    (h : a ≤ b) : a + c ≤ b + c := by
  rw [(ha.add hc).le_iff (hb.add hc), unpack_add, unpack_add]
  exact add_mono_unpacked ha hb hc (rounded_toModel a) (rounded_toModel b) (rounded_toModel c)
    ((ha.le_iff hb).mp h)

theorem NonNeg.add_le_add_left {a b c : Float} (ha : NonNeg a) (hb : NonNeg b) (hc : NonNeg c)
    (h : a ≤ b) : c + a ≤ c + b := by
  rw [(hc.add ha).le_iff (hc.add hb), unpack_add, unpack_add,
    add_comm_unpacked _ c.toModel.unpack, add_comm_unpacked _ c.toModel.unpack]
  exact add_mono_unpacked ha hb hc (rounded_toModel a) (rounded_toModel b) (rounded_toModel c)
    ((ha.le_iff hb).mp h)

theorem NonNeg.mul_le_mul_left {a b c : Float} (ha : NonNeg a) (hb : NonNeg b)
    (hc : posFinite c.toModel.unpack = true) (h : a ≤ b) : c * a ≤ c * b := by
  rw [(ha.mul_left hc).le_iff (hb.mul_left hc), unpack_mul, unpack_mul]
  exact mul_mono_unpacked hc (rounded_toModel c) ha hb (rounded_toModel a) (rounded_toModel b)
    ((ha.le_iff hb).mp h)

theorem NonNeg.mul_le_mul_right {a b c : Float} (ha : NonNeg a) (hb : NonNeg b)
    (hc : posFinite c.toModel.unpack = true) (h : a ≤ b) : a * c ≤ b * c := by
  rw [(ha.mul_right hc).le_iff (hb.mul_right hc), unpack_mul, unpack_mul,
    mul_comm_unpacked _ a.toModel.unpack, mul_comm_unpacked _ b.toModel.unpack]
  exact mul_mono_unpacked hc (rounded_toModel c) ha hb (rounded_toModel a) (rounded_toModel b)
    ((ha.le_iff hb).mp h)

theorem unpack_toFloat (a : UInt64) :
    a.toFloat.toModel.unpack = repack (round Format.binary64 .positive a.toNat 0) := by
  rw [← ofNat_eq_round]
  exact unpack_pack _

theorem toFloat_le_toFloat {a b : UInt64} (h : a.toNat ≤ b.toNat) : a.toFloat ≤ b.toFloat := by
  rw [(nonNeg_toFloat a).le_iff (nonNeg_toFloat b), unpack_toFloat, unpack_toFloat]
  exact key_repack_round_mono 0 h

/-- Below `2 ^ 53` the double of a natural number is its 64-bit conversion times one. -/
theorem ofNat_eq_toFloat_mul {n : Nat} (hn : n < 2 ^ 53) :
    Float.ofNat n = n.toUInt64.toFloat * Float.exactlyRepresentablePowersOfTen[0] := by
  change Float.ofScientific n false 0 = _
  unfold Float.ofScientific
  rw [dif_pos ⟨hn, by decide⟩]
  rfl

/-- The double of a natural number is monotone, up to `2 ^ 53`. -/
theorem ofNat_le_ofNat {m n : Nat} (h : m ≤ n) (hn : n < 2 ^ 53) :
    Float.ofNat m ≤ Float.ofNat n := by
  rw [ofNat_eq_toFloat_mul (by omega), ofNat_eq_toFloat_mul hn]
  refine NonNeg.mul_le_mul_right (nonNeg_toFloat _) (nonNeg_toFloat _) posFinite_one
    (toFloat_le_toFloat ?_)
  simp only [Nat.toUInt64_eq, UInt64.toNat_ofNat']
  omega

end SnippetAssist.Double
