import Mathlib
import VariablePay.Decimal.Shortest

set_option autoImplicit false

/-!
# Forms of doubles

A double that is neither zero nor infinite has one form `mantissa · 2 ^ exponent` in which the
mantissa has 53 bits, or the exponent is the least. Its bits hold that form, and a form within range
comes back out of the bits it is packed into. Lemmas on packed doubles come with Mathlib as a whole.
-/

open Float.Model

namespace VariablePay

namespace Double

/-- The forms of doubles, up to the range of the exponent. -/
structure IsForm (mantissa : Nat) (exponent : Int) : Prop where
  fits : mantissa < 2 ^ 53
  least_le : -1074 ≤ exponent
  full_or_least : 2 ^ 52 ≤ mantissa ∨ exponent = -1074

private theorem unpackMantissa_toNat (bits : BitVec Format.binary64.numBits) :
    (UnpackedFloat.unpackMantissa bits).toNat = bits.toNat % 2 ^ 52 := by
  rw [UnpackedFloat.unpackMantissa_def, BitVec.extractLsb'_toNat]
  simp

private theorem unpackExponent_toNat (bits : BitVec Format.binary64.numBits) :
    (UnpackedFloat.unpackExponent bits).toNat = bits.toNat / 2 ^ 52 % 2 ^ 11 := by
  rw [UnpackedFloat.unpackExponent_def, BitVec.extractLsb'_toNat, Nat.shiftRight_eq_div_pow]

private theorem unpackSign_toNat (bits : BitVec Format.binary64.numBits) :
    (UnpackedFloat.unpackSign bits).toNat = bits.toNat / 2 ^ 63 := by
  rw [UnpackedFloat.unpackSign_def, BitVec.extractLsb'_toNat, Nat.shiftRight_eq_div_pow]
  have width : bits.toNat < 2 ^ 64 := bits.isLt
  simp only [Nat.reduceAdd]
  omega

private theorem toNat_append_one (stored : BitVec 52) :
    (1#1 ++ stored).toNat = stored.toNat + 2 ^ 52 := by
  rw [BitVec.toNat_append, ← Nat.shiftLeft_add_eq_or_of_lt stored.isLt]
  simp [Nat.shiftLeft_eq, Nat.add_comm]

private theorem ones_iff (field : BitVec 11) : field = -1#_ ↔ field.toNat = 2047 := by
  rw [← BitVec.toNat_inj]
  rfl

private theorem zero_iff {width : Nat} (field : BitVec width) :
    field = 0#_ ↔ field.toNat = 0 := by
  rw [← BitVec.toNat_inj]
  simp

private theorem sign_of_bits (bits : BitVec Format.binary64.numBits) :
    UnpackedFloat.Sign.ofBitVec (UnpackedFloat.unpackSign bits) =
      if bits.toNat < 2 ^ 63 then .positive else .negative := by
  have clear : bits.toNat / 2 ^ 63 = 0 ↔ bits.toNat < 2 ^ 63 := by omega
  simp only [UnpackedFloat.Sign.ofBitVec, zero_iff, unpackSign_toNat, clear]

/-- What the bits of a double say about its form. -/
private theorem unpack_eq_finite {bits : BitVec 64} {sign : UnpackedFloat.Sign} {mantissa : Nat}
    {exponent : Int} {positive : 0 < mantissa}
    (unpacked : UnpackedFloat.unpack .binary64 bits = .finite sign mantissa exponent positive) :
    sign = (if bits.toNat < 2 ^ 63 then .positive else .negative) ∧
      bits.toNat / 2 ^ 52 % 2 ^ 11 ≠ 2047 ∧
      (bits.toNat / 2 ^ 52 % 2 ^ 11 = 0 ∧ mantissa = bits.toNat % 2 ^ 52 ∧ exponent = -1074 ∨
        bits.toNat / 2 ^ 52 % 2 ^ 11 ≠ 0 ∧ mantissa = bits.toNat % 2 ^ 52 + 2 ^ 52 ∧
          exponent = (bits.toNat / 2 ^ 52 % 2 ^ 11 : Nat) - 1075) := by
  have bias : ((Format.binary64.exponentBias : Nat) : Int) +
      (Format.binary64.mantissaBitsWithoutImplicit : Nat) = 1075 := by decide
  unfold UnpackedFloat.unpack at unpacked
  simp only [ones_iff, zero_iff, unpackMantissa_toNat, unpackExponent_toNat, sign_of_bits,
    toNat_append_one, bias] at unpacked
  split at unpacked
  · split at unpacked <;> cases unpacked
  · rename_i inRange
    refine ⟨?_, inRange, ?_⟩
    · split at unpacked
      · split at unpacked <;> cases unpacked
        rfl
      · cases unpacked
        rfl
    · split at unpacked
      · rename_i subnormal
        split at unpacked <;> cases unpacked
        exact .inl ⟨subnormal, rfl, by rw [subnormal]; rfl⟩
      · rename_i normal
        cases unpacked
        exact .inr ⟨normal, rfl, rfl⟩

/-- A finite double other than zero has a form within range. -/
theorem isForm_of_unpack {value : Float} {sign : UnpackedFloat.Sign} {mantissa : Nat}
    {exponent : Int} {positive : 0 < mantissa}
    (unpacked : value.toModel.unpack = .finite sign mantissa exponent positive) :
    IsForm mantissa exponent ∧ exponent ≤ 971 := by
  obtain ⟨_, inRange, ⟨_, rfl, rfl⟩ | ⟨normal, rfl, rfl⟩⟩ := unpack_eq_finite unpacked
  · exact ⟨⟨by omega, le_refl _, .inr rfl⟩, by omega⟩
  · exact ⟨⟨by omega, by omega, .inl (by omega)⟩, by omega⟩

private theorem biased_eq (exponent : Int) :
    exponent + (Format.binary64.exponentBias : Nat) + ((52 : Nat) : Int) = exponent + 1075 := by
  have bias : (Format.binary64.exponentBias : Int) = 1023 := by decide
  omega

/-- A form beyond the range of the exponent is packed as infinite. -/
theorem pack_eq_infinity {sign : UnpackedFloat.Sign} {mantissa : Nat} {exponent : Int}
    {positive : 0 < mantissa} (beyond : 971 < exponent) :
    Float.Model.pack (.finite sign mantissa exponent positive) = .pack (.infinity sign) := by
  have overflow : 2 ^ 11 ≤ (exponent + 1075).toNat + 1 := by omega
  have bits : UnpackedFloat.pack .binary64 (.finite sign mantissa exponent positive) =
      UnpackedFloat.pack .binary64 (.infinity sign) := by
    simp only [UnpackedFloat.pack, biased_eq]
    rw [if_pos overflow]
  simp only [Float.Model.pack, bits]

private theorem pack_eq {sign : UnpackedFloat.Sign} {mantissa : Nat} {exponent : Int}
    {positive : 0 < mantissa} (form : IsForm mantissa exponent) (inRange : exponent ≤ 971) :
    UnpackedFloat.pack .binary64 (.finite sign mantissa exponent positive) =
      UnpackedFloat.packComponents .binary64 sign
        (BitVec.ofNat 11 (if 2 ^ 52 ≤ mantissa then (exponent + 1075).toNat else 0))
        (BitVec.ofNat 52 mantissa) := by
  obtain ⟨fits, least, full⟩ := form
  have full_iff : mantissa.log2 + 1 = 53 ↔ 2 ^ 52 ≤ mantissa := by
    have := Nat.log2_lt (k := 53) positive.ne'
    have := Nat.le_log2 (k := 52) positive.ne'
    omega
  have bits : Format.binary64.mantissaBits = 53 := rfl
  have noOverflow : ¬ 2 ^ 11 ≤ (exponent + 1075).toNat + 1 := by omega
  simp only [UnpackedFloat.pack, biased_eq, bits, full_iff]
  rw [if_neg noOverflow]
  split <;> rfl

/-- A form within range comes back out of the double that it is packed into. -/
theorem unpack_pack {sign : UnpackedFloat.Sign} {mantissa : Nat} {exponent : Int}
    {positive : 0 < mantissa} (form : IsForm mantissa exponent) (inRange : exponent ≤ 971) :
    (Float.Model.pack (.finite sign mantissa exponent positive)).unpack =
      .finite sign mantissa exponent positive := by
  change UnpackedFloat.unpack .binary64 (UnpackedFloat.pack .binary64 _) = _
  rw [pack_eq form inRange]
  obtain ⟨fits, least, full⟩ := form
  have bias : ((Format.binary64.exponentBias : Nat) : Int) + ((52 : Nat) : Int) = 1075 := by decide
  simp only [UnpackedFloat.unpack, UnpackedFloat.unpackExponent_packComponents,
    UnpackedFloat.unpackMantissa_packComponents, UnpackedFloat.unpackSign_packComponents,
    UnpackedFloat.Sign.ofBitVec_toBitVec, ones_iff, zero_iff, toNat_append_one,
    BitVec.toNat_ofNat, bias]
  by_cases normal : 2 ^ 52 ≤ mantissa
  · rw [if_pos normal, if_neg (by omega), if_neg (by omega)]
    congr 1
    · omega
    · omega
  · rw [if_neg normal, if_neg (by omega), if_pos (by omega), dif_neg (by omega)]
    congr 1
    · omega
    · omega

/-- A double is packed from what it unpacks to. -/
theorem ofModel_pack_unpack (value : Float) :
    Float.ofModel (.pack value.toModel.unpack) = value := by
  rw [← Float.toBits_inj, ← UInt64.toBitVec_inj]
  exact UnpackedFloat.pack_unpack_of_valid value.toModel.valid

/-- A double without a sign. -/
theorem unpack_abs {value : Float} {sign : UnpackedFloat.Sign} {mantissa : Nat} {exponent : Int}
    {positive : 0 < mantissa}
    (unpacked : value.toModel.unpack = .finite sign mantissa exponent positive) :
    value.abs.toModel.unpack = .finite .positive mantissa exponent positive := by
  obtain ⟨form, inRange⟩ := isForm_of_unpack unpacked
  change (Float.Model.pack value.toModel.unpack.abs).unpack = _
  rw [unpacked]
  exact unpack_pack form inRange

theorem isFinite_abs {value : Float} (finite : value.isFinite = true) :
    value.abs.isFinite = true := by
  change value.toModel.unpack.isFinite = true at finite
  change value.abs.toModel.unpack.isFinite = true
  cases unpacked : value.toModel.unpack with
  | notANumber => simp [unpacked, UnpackedFloat.isFinite] at finite
  | infinity => simp [unpacked, UnpackedFloat.isFinite] at finite
  | zero sign =>
      change (Float.Model.pack value.toModel.unpack.abs).unpack.isFinite = true
      rw [unpacked]
      change (Float.Model.pack (.zero .positive)).unpack.isFinite = true
      decide
  | finite sign mantissa exponent positive =>
      rw [unpack_abs unpacked]
      rfl

theorem isFinite_neg {value : Float} (finite : value.isFinite = true) :
    (-value).isFinite = true := by
  change value.toModel.unpack.isFinite = true at finite
  change (Float.Model.pack value.toModel.unpack.neg).unpack.isFinite = true
  cases unpacked : value.toModel.unpack with
  | notANumber => simp [unpacked, UnpackedFloat.isFinite] at finite
  | infinity => simp [unpacked, UnpackedFloat.isFinite] at finite
  | zero sign =>
      change (Float.Model.pack (.zero (-sign))).unpack.isFinite = true
      cases sign <;> decide
  | finite sign mantissa exponent positive =>
      obtain ⟨form, inRange⟩ := isForm_of_unpack unpacked
      change (Float.Model.pack (.finite (-sign) mantissa exponent positive)).unpack.isFinite = true
      rw [unpack_pack form inRange]
      rfl

private theorem signed_abs_zero (sign : UnpackedFloat.Sign) :
    (if Dyadic.signOf (.ofModel (.pack (.zero sign))) then
        -(Float.ofModel (.pack (.zero sign))).abs
      else (Float.ofModel (.pack (.zero sign))).abs) = .ofModel (.pack (.zero sign)) := by
  cases sign <;> decide

theorem signOf_cases {value : Float} {sign : UnpackedFloat.Sign} {mantissa : Nat}
    {exponent : Int} {positive : 0 < mantissa}
    (unpacked : value.toModel.unpack = .finite sign mantissa exponent positive) :
    Dyadic.signOf value = true ∧ sign = .negative ∨
      Dyadic.signOf value = false ∧ sign = .positive := by
  obtain ⟨bySign, _⟩ := unpack_eq_finite unpacked
  by_cases below : value.toModel.toBits.toBitVec.toNat < 2 ^ 63
  · rw [if_pos below] at bySign
    exact .inr ⟨decide_eq_false (Nat.not_le.mpr below), bySign⟩
  · rw [if_neg below] at bySign
    exact .inl ⟨decide_eq_true (Nat.not_lt.mp below), bySign⟩

/-- The sign bit of a finite double decides whether it is its size or the negative of it. -/
theorem signed_abs_eq {value : Float} (finite : value.isFinite = true) :
    (if Dyadic.signOf value then -value.abs else value.abs) = value := by
  have packed := ofModel_pack_unpack value
  change value.toModel.unpack.isFinite = true at finite
  cases unpacked : value.toModel.unpack with
  | notANumber => simp [unpacked, UnpackedFloat.isFinite] at finite
  | infinity => simp [unpacked, UnpackedFloat.isFinite] at finite
  | zero sign =>
      rw [← packed, unpacked]
      exact signed_abs_zero sign
  | finite sign mantissa exponent positive =>
      obtain ⟨signed, rfl⟩ | ⟨unsigned, rfl⟩ := signOf_cases unpacked
      · rw [if_pos signed]
        change Float.ofModel (.pack value.abs.toModel.unpack.neg) = value
        rw [unpack_abs unpacked, ← packed, unpacked]
        rfl
      · rw [if_neg (by simp [unsigned])]
        change Float.ofModel (.pack value.toModel.unpack.abs) = value
        rw [unpacked, ← packed, unpacked]
        rfl

end Double

namespace Dyadic

/-- The bits of a double give its form. -/
theorem ofFloat_eq {value : Float} {sign : UnpackedFloat.Sign} {mantissa : Nat} {exponent : Int}
    {positive : 0 < mantissa}
    (unpacked : value.toModel.unpack = .finite sign mantissa exponent positive) :
    ofFloat value = ⟨mantissa, exponent⟩ := by
  obtain ⟨_, _, ⟨subnormal, rfl, rfl⟩ | ⟨normal, rfl, rfl⟩⟩ := Double.unpack_eq_finite unpacked
  · exact if_pos subnormal
  · exact if_neg normal

end Dyadic

end VariablePay
