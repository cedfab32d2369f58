import SnippetAssist.Proofs.DoubleOrder
import Mathlib

/-!
# Packing doubles

Every operation on doubles works on the unpacked form and packs its result into 64 bits, and
the next operation unpacks those bits again. This module follows the non-negative doubles of
`SnippetAssist.Proofs.DoubleOrder` through the bits: packing a zero, a positive finite value or
positive infinity and unpacking the bits gives a non-negative double again (a finite value too
large for the format becomes positive infinity, one too small becomes zero). From this, sums and
products of non-negative doubles with positive finite weights are non-negative doubles, and so
is the double of every natural number.
-/

open Float.Model (UnpackedFloat Format)
open Float.Model.UnpackedFloat

namespace SnippetAssist.Double

/-! ## Bits -/

theorem unpackSign_packComponents (spec : Format) (s : Sign) (e : BitVec spec.exponentBits)
    (m : BitVec spec.mantissaBitsWithoutImplicit) :
    unpackSign (packComponents spec s e m) = s.toBitVec := by
  apply BitVec.eq_of_getLsbD_eq
  intro i hi
  have hi0 : i = 0 := by omega
  subst hi0
  simp [unpackSign, packComponents, BitVec.getLsbD_append, BitVec.getElem_append]

@[simp] theorem ofBitVec_toBitVec (s : Sign) : Sign.ofBitVec s.toBitVec = s := by
  cases s <;> rfl

theorem unpack_packedZero (s : Sign) :
    unpack Format.binary64 (packedZero Format.binary64 s) = .zero s := by
  unfold unpack packedZero
  simp only [unpackExponent_packComponents, unpackMantissa_packComponents,
    unpackSign_packComponents, ofBitVec_toBitVec]
  simp

theorem unpack_packedInfinity (s : Sign) :
    unpack Format.binary64 (packedInfinity Format.binary64 s) = .infinity s := by
  unfold unpack packedInfinity
  simp only [unpackExponent_packComponents, unpackMantissa_packComponents,
    unpackSign_packComponents, ofBitVec_toBitVec]
  simp

theorem unpack_pack (u : UnpackedFloat) :
    (Float.Model.pack u).unpack = unpack Format.binary64 (pack Format.binary64 u) := by
  simp [Float.Model.pack, Float.Model.unpack]

/-- Bits of the positive sign whose exponent field is not all ones unpack to a zero or a positive
finite value. -/
theorem nonneg_unpack_packComponents {e : BitVec 11} (he : e ≠ -1#11) (m : BitVec 52) :
    nonneg (unpack Format.binary64 (packComponents Format.binary64 .positive e m)) = true := by
  unfold unpack
  simp only [unpackExponent_packComponents, unpackMantissa_packComponents,
    unpackSign_packComponents, ofBitVec_toBitVec, he, if_false]
  split
  · split <;> rfl
  · rfl

/-- Packing keeps a double non-negative. -/
theorem nonneg_unpack_pack {u : UnpackedFloat} (hu : nonneg u = true) :
    nonneg (Float.Model.pack u).unpack = true := by
  rw [unpack_pack]
  rcases u with ⟨_ | _⟩ | _ | s | ⟨_ | _, m, e, hm⟩ <;>
    simp only [nonneg, Bool.false_eq_true] at hu
  · rw [pack, unpack_packedInfinity]
    rfl
  · rw [pack, unpack_packedZero]
    rfl
  · unfold pack
    dsimp only
    split
    · rw [unpack_packedInfinity]
      rfl
    · rename_i hover
      split
      · -- A normal value: its biased exponent is below the all-ones field.
        refine nonneg_unpack_packComponents ?_ _
        intro h
        have := congrArg BitVec.toNat h
        simp at this hover
        omega
      · exact nonneg_unpack_packComponents (by decide) _

/-! ## Non-negative doubles -/

/-- A double that is zero, positive and finite, or positive infinity. -/
def NonNeg (x : Float) : Prop := nonneg x.toModel.unpack = true

theorem NonNeg.isNaN_eq_false {x : Float} (h : NonNeg x) : x.isNaN = false :=
  isNaN_of_nonneg h

theorem NonNeg.add {a b : Float} (ha : NonNeg a) (hb : NonNeg b) : NonNeg (a + b) :=
  nonneg_unpack_pack (nonneg_add _ ha hb)

theorem NonNeg.mul_left {c a : Float} (hc : posFinite c.toModel.unpack = true) (ha : NonNeg a) :
    NonNeg (c * a) :=
  nonneg_unpack_pack (nonneg_mul _ hc ha)

theorem NonNeg.mul_right {a c : Float} (ha : NonNeg a) (hc : posFinite c.toModel.unpack = true) :
    NonNeg (a * c) := by
  unfold NonNeg
  change nonneg (Float.Model.pack (mul _ a.toModel.unpack c.toModel.unpack)).unpack = true
  rw [mul_comm_unpacked]
  exact nonneg_unpack_pack (nonneg_mul _ hc ha)

theorem nonNeg_toFloat (n : UInt64) : NonNeg n.toFloat :=
  nonneg_unpack_pack (nonneg_normalize _ (Int.natCast_nonneg _) _ _)

/-- One, the power of ten by which the double of a small number is multiplied. -/
theorem posFinite_one :
    posFinite Float.exactlyRepresentablePowersOfTen[0].toModel.unpack = true := by
  decide

theorem nonneg_ofScientific (m : Nat) {e : Int} (he : 0 ≤ e) :
    nonneg (UnpackedFloat.ofScientific Format.binary64 m e) = true := by
  unfold UnpackedFloat.ofScientific
  split
  · rfl
  split
  · rfl
  split
  · rfl
  -- The exponent is not negative, so the value is the mantissa times a power of ten.
  refine nonneg_mul _ ?_ ?_ <;> rfl

/-- The double of a natural number is non-negative, whichever way it is computed. -/
theorem nonNeg_ofNat (n : Nat) : NonNeg (Float.ofNat n) := by
  change NonNeg (Float.ofScientific n false 0)
  unfold Float.ofScientific
  split
  · exact NonNeg.mul_right (nonNeg_toFloat _) posFinite_one
  · exact nonneg_unpack_pack (nonneg_ofScientific n (by decide))

end SnippetAssist.Double
