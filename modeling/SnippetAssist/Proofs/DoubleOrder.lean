import Mathlib

/-!
# The order of doubles

Doubles compare through their unpacked form, and NaN compares with nothing, not even itself.
Away from NaN the comparison is that of keys: each unpacked double gets a key in a
lexicographic order of integer triples (its class from negative infinity up to positive
infinity, then exponent and mantissa, read backwards for negative values), and comparing two
doubles that are not NaN is comparing their keys. The two zeros share a key, as they compare
equal.

The scores of snippets are sums of products of non-negative doubles, and the second part follows
the doubles that are a zero, positive and finite, or positive infinity through the unpacked
operations: they are kept by rounding, by addition, and by multiplication with a positive finite
double. None of them is NaN.
-/

open Float.Model (UnpackedFloat Format)
open Float.Model.UnpackedFloat

namespace SnippetAssist.Double

/-! ## Keys -/

/-- The place of an unpacked double in the order of doubles. NaN has no place: it is given the
key of zero, and every lemma about keys leaves it out. -/
def unpackedKey : UnpackedFloat → Int ×ₗ Int ×ₗ Int
  | .infinity .negative => toLex (-2, toLex (0, 0))
  | .finite .negative m e _ => toLex (-1, toLex (-e, -(m : Int)))
  | .zero _ => toLex (0, toLex (0, 0))
  | .notANumber => toLex (0, toLex (0, 0))
  | .finite .positive m e _ => toLex (1, toLex (e, (m : Int)))
  | .infinity .positive => toLex (2, toLex (0, 0))

/-- Finite values of one sign compare by exponent, then by mantissa. -/
theorem then_compare_eq_gt {e₁ e₂ : Int} {m₁ m₂ : Nat} :
    (compare e₁ e₂).then (compare m₁ m₂) = .gt ↔ e₂ < e₁ ∨ e₁ = e₂ ∧ m₂ < m₁ := by
  simp [Ordering.then_eq_gt, Int.compare_eq_gt, Nat.compare_eq_gt]

theorem then_compare_eq_lt {e₁ e₂ : Int} {m₁ m₂ : Nat} :
    (compare e₁ e₂).then (compare m₁ m₂) = .lt ↔ e₁ < e₂ ∨ e₁ = e₂ ∧ m₁ < m₂ := by
  simp [Ordering.then_eq_lt, Int.compare_eq_lt, Nat.compare_eq_lt]

theorem unpacked_le_iff {a b : UnpackedFloat} (ha : a.isNaN = false) (hb : b.isNaN = false) :
    a.le b = true ↔ unpackedKey a ≤ unpackedKey b := by
  rcases a with ⟨_ | _⟩ | _ | _ | ⟨_ | _, m₁, e₁, h₁⟩ <;>
    rcases b with ⟨_ | _⟩ | _ | _ | ⟨_ | _, m₂, e₂, h₂⟩ <;>
    simp_all [UnpackedFloat.le, UnpackedFloat.compare, unpackedKey, Prod.Lex.toLex_le_toLex,
      UnpackedFloat.isNaN, Ordering.isLE_iff_ne_gt, Ordering.isGE_iff_ne_lt, then_compare_eq_gt,
      then_compare_eq_lt] <;>
    first | rfl | omega

theorem unpacked_lt_iff {a b : UnpackedFloat} (ha : a.isNaN = false) (hb : b.isNaN = false) :
    a.lt b = true ↔ unpackedKey a < unpackedKey b := by
  rcases a with ⟨_ | _⟩ | _ | _ | ⟨_ | _, m₁, e₁, h₁⟩ <;>
    rcases b with ⟨_ | _⟩ | _ | _ | ⟨_ | _, m₂, e₂, h₂⟩ <;>
    simp_all [UnpackedFloat.lt, UnpackedFloat.compare, unpackedKey, Prod.Lex.toLex_lt_toLex,
      UnpackedFloat.isNaN, then_compare_eq_gt, then_compare_eq_lt]
  -- Left: the two infinities, compared by sign.
  rfl

theorem unpacked_beq_iff {a b : UnpackedFloat} (ha : a.isNaN = false) (hb : b.isNaN = false) :
    a.beq b = true ↔ unpackedKey a = unpackedKey b := by
  rcases a with ⟨_ | _⟩ | _ | _ | ⟨_ | _, m₁, e₁, h₁⟩ <;>
    rcases b with ⟨_ | _⟩ | _ | _ | ⟨_ | _, m₂, e₂, h₂⟩ <;>
    simp_all [UnpackedFloat.beq, UnpackedFloat.compare, unpackedKey, UnpackedFloat.isNaN] <;>
    rfl

/-- NaN compares with nothing. -/
theorem isNaN_of_le {a b : UnpackedFloat} (h : a.le b = true) :
    a.isNaN = false ∧ b.isNaN = false := by
  cases a <;> cases b <;> simp_all [UnpackedFloat.le, UnpackedFloat.compare, UnpackedFloat.isNaN]

/-! ## Doubles -/

/-- The key of a double. -/
def key (x : Float) : Int ×ₗ Int ×ₗ Int := unpackedKey x.toModel.unpack

theorem le_iff_unpacked (a b : Float) : a ≤ b ↔ a.toModel.unpack.le b.toModel.unpack = true := by
  change Float.le a b = true ↔ _
  simp [Float.le]
  rfl

theorem lt_iff_unpacked (a b : Float) : a < b ↔ a.toModel.unpack.lt b.toModel.unpack = true := by
  change Float.lt a b = true ↔ _
  simp [Float.lt]
  rfl

theorem isNaN_eq (x : Float) : x.isNaN = x.toModel.unpack.isNaN := rfl

/-- Two doubles that are not NaN compare as their keys do. -/
theorem le_iff_key_le {a b : Float} (ha : a.isNaN = false) (hb : b.isNaN = false) :
    a ≤ b ↔ key a ≤ key b :=
  (le_iff_unpacked a b).trans (unpacked_le_iff ha hb)

theorem lt_iff_key_lt {a b : Float} (ha : a.isNaN = false) (hb : b.isNaN = false) :
    a < b ↔ key a < key b :=
  (lt_iff_unpacked a b).trans (unpacked_lt_iff ha hb)

theorem beq_iff_key_eq {a b : Float} (ha : a.isNaN = false) (hb : b.isNaN = false) :
    (a == b) = true ↔ key a = key b :=
  unpacked_beq_iff ha hb

/-- Nothing equals NaN. -/
theorem beq_of_isNaN {x v : Float} (hv : v.isNaN = true) : (x == v) = false := by
  rw [isNaN_eq] at hv
  change x.toModel.unpack.beq v.toModel.unpack = false
  have hnan : v.toModel.unpack = .notANumber := by
    cases hu : v.toModel.unpack <;> simp_all [UnpackedFloat.isNaN]
  rw [hnan]
  cases x.toModel.unpack <;> rfl

theorem not_isNaN_of_le {a b : Float} (h : a ≤ b) : a.isNaN = false ∧ b.isNaN = false :=
  isNaN_of_le ((le_iff_unpacked a b).mp h)

theorem lt_of_lt_of_le' {a b c : Float} (hab : a < b) (hbc : b ≤ c) : a < c := by
  obtain ⟨hb, hc⟩ := not_isNaN_of_le hbc
  have ha : a.isNaN = false := by
    cases h : a.isNaN
    · rfl
    · rw [lt_iff_unpacked] at hab
      rw [isNaN_eq] at h
      cases hu : a.toModel.unpack <;> simp_all [UnpackedFloat.lt, UnpackedFloat.compare,
        UnpackedFloat.isNaN]
  rw [lt_iff_key_lt ha hb] at hab
  rw [le_iff_key_le hb hc] at hbc
  exact (lt_iff_key_lt ha hc).mpr (lt_of_lt_of_le hab hbc)

/-! ## Non-negative doubles -/

/-- The unpacked doubles that are zero, positive and finite, or positive infinity. -/
def nonneg : UnpackedFloat → Bool
  | .zero _ => true
  | .finite .positive .. => true
  | .infinity .positive => true
  | _ => false

/-- The unpacked doubles that are positive and finite. -/
def posFinite : UnpackedFloat → Bool
  | .finite .positive .. => true
  | _ => false

theorem isNaN_of_nonneg {u : UnpackedFloat} (h : nonneg u = true) : u.isNaN = false := by
  cases u <;> simp_all [nonneg, UnpackedFloat.isNaN]

theorem nonneg_roundWithAccuracy (spec : Format) (m : Nat) (e : Int) (acc : Accuracy) :
    nonneg (roundWithAccuracy spec .positive m e acc) = true := by
  unfold roundWithAccuracy
  dsimp only
  split <;> rfl

theorem nonneg_normalize (spec : Format) {m : Int} (hm : 0 ≤ m) (e : Int) (zs : Sign) :
    nonneg (UnpackedFloat.normalize spec m e zs) = true := by
  unfold UnpackedFloat.normalize
  split
  · rename_i h
    simp [Int.compare_eq_lt] at h
    omega
  · cases zs <;> rfl
  · exact nonneg_roundWithAccuracy _ _ _ _

theorem nonneg_add (spec : Format) {a b : UnpackedFloat} (ha : nonneg a = true)
    (hb : nonneg b = true) : nonneg (add spec a b) = true := by
  rcases a with ⟨_ | _⟩ | _ | ⟨_ | _⟩ | ⟨_ | _, m₁, e₁, h₁⟩ <;>
    rcases b with ⟨_ | _⟩ | _ | ⟨_ | _⟩ | ⟨_ | _, m₂, e₂, h₂⟩ <;>
    simp only [nonneg, Bool.false_eq_true] at ha hb
  -- Two finite summands go through `normalize` with the sum of their aligned mantissas.
  all_goals first
    | rfl
    | exact nonneg_normalize spec (Int.add_nonneg (Int.natCast_nonneg _) (Int.natCast_nonneg _)) _ _

theorem nonneg_mul (spec : Format) {a b : UnpackedFloat} (ha : posFinite a = true)
    (hb : nonneg b = true) : nonneg (mul spec a b) = true := by
  rcases a with ⟨_ | _⟩ | _ | ⟨_ | _⟩ | ⟨_ | _, m₁, e₁, h₁⟩ <;>
    rcases b with ⟨_ | _⟩ | _ | ⟨_ | _⟩ | ⟨_ | _, m₂, e₂, h₂⟩ <;>
    simp only [nonneg, posFinite, Bool.false_eq_true] at ha hb
  all_goals first
    | rfl
    | exact nonneg_roundWithAccuracy spec _ _ _

/-- Multiplying unpacked doubles does not depend on the order of the factors. -/
theorem mul_comm_unpacked (spec : Format) (a b : UnpackedFloat) : mul spec a b = mul spec b a := by
  rcases a with ⟨_ | _⟩ | _ | ⟨_ | _⟩ | ⟨_ | _, m₁, e₁, h₁⟩ <;>
    rcases b with ⟨_ | _⟩ | _ | ⟨_ | _⟩ | ⟨_ | _, m₂, e₂, h₂⟩ <;>
    simp [mul, Nat.mul_comm, Int.add_comm] <;> rfl

/-- Adding unpacked doubles does not depend on the order of the summands. -/
theorem add_comm_unpacked (spec : Format) (a b : UnpackedFloat) : add spec a b = add spec b a := by
  rcases a with ⟨_ | _⟩ | _ | ⟨_ | _⟩ | ⟨_ | _, m₁, e₁, h₁⟩ <;>
    rcases b with ⟨_ | _⟩ | _ | ⟨_ | _⟩ | ⟨_ | _, m₂, e₂, h₂⟩ <;>
    simp [add, Int.add_comm, Int.min_comm]

end SnippetAssist.Double
