import Mathlib
import PatchBay.Clock

/-!
# Seconds are not negative

The seconds between two readings of a clock are a floating-point product. It is a number with a
clear sign whichever of the readings comes first: nanoseconds make such a number, the seconds in a
nanosecond are one, and neither rounding nor packing into a word touches the sign.
-/

namespace PatchBay

namespace Time

open Float.Model (Format UnpackedFloat)
open Float.Model.UnpackedFloat

/-- Whether a floating-point value is a number with a clear sign. -/
def isUnsigned : UnpackedFloat → Bool
  | .zero .positive | .infinity .positive | .finite .positive _ _ _ => true
  | _ => false

variable {spec : Format} {u : UnpackedFloat}

/-! ## Packing -/

theorem unpackSign_packComponents (sign : Sign) (exponent : BitVec spec.exponentBits)
    (mantissa : BitVec spec.mantissaBitsWithoutImplicit) :
    unpackSign (packComponents spec sign exponent mantissa) = sign.toBitVec := by
  ext i hi
  obtain rfl : i = 0 := by omega
  simp only [unpackSign, packComponents, BitVec.extractLsb]
  grind

/-- Parts with a clear sign make a number with a clear sign, except where all bits of the exponent
are set and some of the mantissa: that is no number. -/
theorem isUnsigned_unpack {exponent : BitVec spec.exponentBits}
    {mantissa : BitVec spec.mantissaBitsWithoutImplicit}
    (hnumber : exponent = -1#(spec.exponentBits) → mantissa = 0#_) :
    isUnsigned (unpack spec (packComponents spec .positive exponent mantissa)) := by
  have hsign : Sign.ofBitVec (Sign.toBitVec .positive) = .positive := rfl
  unfold unpack
  simp only [unpackExponent_packComponents, unpackMantissa_packComponents,
    unpackSign_packComponents, hsign]
  split
  · rename_i hexponent
    rw [if_pos (hnumber hexponent)]
    rfl
  split
  · split
    · rfl
    · rfl
  · rfl

theorem isUnsigned_pack (h : isUnsigned u) : isUnsigned (Float.Model.pack u).unpack := by
  change isUnsigned (unpack .binary64 (UnpackedFloat.pack .binary64 u))
  unfold UnpackedFloat.pack
  cases u with
  | notANumber => cases h
  | infinity sign =>
    cases sign with
    | positive => exact isUnsigned_unpack fun _ => rfl
    | negative => cases h
  | zero sign =>
    cases sign with
    | positive => exact isUnsigned_unpack fun _ => rfl
    | negative => cases h
  | finite sign m e hm =>
    cases sign with
    | negative => cases h
    | positive =>
      dsimp only
      split
      · exact isUnsigned_unpack fun _ => rfl
      rename_i hsmall
      split
      · -- an exponent with all bits set is too large to get here
        refine isUnsigned_unpack fun hexponent => absurd ?_ hsmall
        have hbits := congrArg BitVec.toNat hexponent
        rw [BitVec.toNat_ofNat] at hbits
        change _ % 2048 = 2047 at hbits
        change 2048 ≤ _
        omega
      · exact isUnsigned_unpack fun hexponent => absurd hexponent (by decide)

/-! ## Arithmetic -/

theorem isUnsigned_round (m : Nat) (e : Int) (accuracy : Accuracy) :
    isUnsigned (roundWithAccuracy spec .positive m e accuracy) := by
  unfold roundWithAccuracy
  dsimp only
  split
  · rfl
  · rfl

theorem isUnsigned_ofNat (n : Nat) : isUnsigned (UnpackedFloat.ofNat spec n) := by
  unfold UnpackedFloat.ofNat UnpackedFloat.ofInt UnpackedFloat.normalize
  split
  · rename_i hnegative
    have hlt := Int.compare_eq_lt.mp hnegative
    omega
  · rfl
  · exact isUnsigned_round _ _ _

theorem isUnsigned_mul (hu : isUnsigned u) (m : Nat) (e : Int) (hm : 0 < m) :
    isUnsigned (mul spec u (.finite .positive m e hm)) := by
  cases u with
  | notANumber => cases hu
  | infinity sign | zero sign =>
    cases sign with
    | positive => rfl
    | negative => cases hu
  | finite sign =>
    cases sign with
    | positive => exact isUnsigned_round _ _ _
    | negative => cases hu

theorem unpack_zero : (0.0 : Float).toModel.unpack = .zero .positive := by
  with_unfolding_all rfl

/-- The seconds in a nanosecond, as near as they can be. -/
theorem unpack_nano :
    (1e-9 : Float).toModel.unpack = .finite .positive 4835703278458517 (-82) (by decide) := by
  with_unfolding_all rfl

theorem zero_le_of_isUnsigned {x : Float} (h : isUnsigned x.toModel.unpack) : 0.0 ≤ x := by
  have hle : UnpackedFloat.le (0.0 : Float).toModel.unpack x.toModel.unpack = true := by
    rw [unpack_zero]
    generalize x.toModel.unpack = u at h
    cases u with
    | notANumber => cases h
    | zero sign => rfl
    | infinity sign | finite sign =>
      cases sign with
      | positive => rfl
      | negative => cases h
  exact decide_eq_true hle

theorem zero_le_zero : (0.0 : Float) ≤ 0.0 :=
  zero_le_of_isUnsigned (unpack_zero ▸ rfl)

/-- The nanoseconds between two readings, none if the later reading is the smaller one. -/
theorem elapsed_toNat (earlier later : Time) :
    (elapsed earlier later).toNat = later.nanos.toNat - earlier.nanos.toNat := by
  unfold elapsed
  split
  · rename_i hle
    exact UInt64.toNat_sub_of_le _ _ hle
  · rename_i hback
    have hlt := UInt64.lt_iff_toNat_lt.mp (UInt64.not_le.mp hback)
    rw [UInt64.toNat_zero]
    omega

/-- The seconds between two readings are not negative. -/
theorem zero_le_delta (earlier later : Time) : 0.0 ≤ delta earlier later := by
  refine zero_le_of_isUnsigned (isUnsigned_pack ?_)
  rw [unpack_nano]
  exact isUnsigned_mul (isUnsigned_pack (isUnsigned_ofNat _)) _ _ _

end Time

end PatchBay
