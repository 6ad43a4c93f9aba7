import Mathlib.Data.Nat.Log
import RowQuery.Number.Binary

/-!
How large binary numbers get. Rounding a number to a format raises its exponent by no more than one
above what its digits ask for, so that an integer of 64 bits is finite in double precision and stays
finite in single precision.
-/

namespace RowQuery.Binary

open Float.Model

inductive Reaches (limit : Int) : UnpackedFloat → Prop
  | zero {sign} : Reaches limit (.zero sign)
  | finite {sign mantissa exponent positive} : exponent ≤ limit →
      Reaches limit (.finite sign mantissa exponent positive)

inductive Below (digits : Nat) (limit : Int) : UnpackedFloat → Prop
  | zero {sign} : Below digits limit (.zero sign)
  | finite {sign mantissa exponent positive} : mantissa.log2 ≤ digits → exponent ≤ limit →
      Below digits limit (.finite sign mantissa exponent positive)

theorem Reaches.mono {limit higher : Int} {number : UnpackedFloat} (reaches : Reaches limit number)
    (le : limit ≤ higher) : Reaches higher number := by
  cases reaches with
  | zero => exact .zero
  | finite low => exact .finite (Int.le_trans low le)

theorem Below.neg {digits : Nat} {limit : Int} {number : UnpackedFloat}
    (below : Below digits limit number) : Reaches limit number.neg := by
  cases below with
  | zero => exact .zero
  | finite _ low => exact .finite low

theorem Below.isFinite {digits : Nat} {limit : Int} {number : UnpackedFloat}
    (below : Below digits limit number) : number.isFinite = true := by
  cases below with
  | zero => rfl
  | finite _ _ => rfl

/-! ### Digits -/

theorem log2_le_of_lt {n bound : Nat} (small : n < 1 <<< (bound + 1)) : n.log2 ≤ bound := by
  rw [Nat.one_shiftLeft] at small
  by_cases nothing : n = 0
  · simp [nothing]
  · exact Nat.lt_succ_iff.mp ((Nat.log2_lt nothing).mpr small)

theorem log2_mono {m n : Nat} (le : m ≤ n) : m.log2 ≤ n.log2 := by
  rw [Nat.log2_eq_log_two, Nat.log2_eq_log_two]
  exact Nat.log_mono_right le

theorem log2_shiftLeft_le (n count : Nat) : (n <<< count).log2 ≤ n.log2 + count := by
  apply log2_le_of_lt
  rw [Nat.one_shiftLeft, Nat.shiftLeft_eq, Nat.add_right_comm, Nat.pow_add]
  exact Nat.mul_lt_mul_of_pos_right Nat.lt_log2_self (Nat.two_pow_pos count)

theorem log2_mul_le (m n : Nat) : (m * n).log2 ≤ m.log2 + n.log2 + 1 := by
  have digits : m.log2 + n.log2 + 1 + 1 = (m.log2 + 1) + (n.log2 + 1) := by omega
  apply log2_le_of_lt
  rw [Nat.one_shiftLeft, digits, Nat.pow_add]
  exact Nat.mul_lt_mul'' Nat.lt_log2_self Nat.lt_log2_self

theorem log2_shiftRight_succ_le (n count : Nat) : (n >>> count + 1).log2 ≤ n.log2 + 1 - count := by
  apply log2_le_of_lt
  have below : n >>> count < 2 ^ (n.log2 + 1 - count) := by
    rw [Nat.shiftRight_eq_div_pow, Nat.div_lt_iff_lt_mul (Nat.two_pow_pos count), ← Nat.pow_add]
    refine Nat.lt_of_lt_of_le Nat.lt_log2_self (Nat.pow_le_pow_right (by decide) ?_)
    omega
  have positive := Nat.two_pow_pos (n.log2 + 1 - count)
  rw [Nat.one_shiftLeft, Nat.pow_succ]
  omega

theorem log2_toNat_le {width bound : Nat} (bits : BitVec width) (narrow : width ≤ bound + 1) :
    bits.toNat.log2 ≤ bound := by
  apply log2_le_of_lt
  rw [Nat.one_shiftLeft]
  exact Nat.lt_of_lt_of_le bits.isLt (Nat.pow_le_pow_right (by decide) narrow)

/-! ### Rounding -/

theorem mantissa_shiftRight (extended : UnpackedFloat.ExtendedMantissa) (count : Nat) :
    (extended >>> count).mantissa = extended.mantissa >>> count := by
  induction count with
  | zero => rfl
  | succ count ih =>
      change (extended >>> count).mantissa / 2 = _
      rw [ih]
      rfl

theorem roundedMantissa_le (extended : UnpackedFloat.ExtendedMantissa) :
    extended.roundedMantissa ≤ extended.mantissa + 1 := by
  obtain ⟨mantissa, round, sticky⟩ := extended
  cases round <;> cases sticky <;> simp only [UnpackedFloat.ExtendedMantissa.roundedMantissa,
    UnpackedFloat.ExtendedMantissa.accuracy, UnpackedFloat.Accuracy.roundToNearestEven] <;> omega

theorem mantissa_ofMantissaAndAccuracy (mantissa : Nat) (accuracy : UnpackedFloat.Accuracy) :
    (UnpackedFloat.ExtendedMantissa.ofMantissaAndAccuracy mantissa accuracy).mantissa = mantissa := by
  rcases accuracy with _ | (_ | _ | _) <;> rfl

section

variable {spec : Format} {mantissa : Nat} {exponent limit : Int}

/-- Digits are dropped until the rest fits the format. The rest is rounded up by one unit at most. -/
theorem shiftToTargetExponent_le (accuracy : UnpackedFloat.Accuracy) (placed : exponent ≤ limit)
    (fits : totalExponent mantissa exponent ≤ limit + spec.mantissaBits)
    (least : spec.minExponent ≤ limit) :
    let shifted := UnpackedFloat.shiftToTargetExponent spec mantissa exponent accuracy
    shifted.2 ≤ limit ∧
      totalExponent shifted.1.roundedMantissa shifted.2 ≤ limit + 1 + spec.mantissaBits := by
  simp only [UnpackedFloat.shiftToTargetExponent, UnpackedFloat.shiftToExponent]
  have target : spec.targetExponent (totalExponent mantissa exponent) ≤ limit := by
    simp only [Format.targetExponent]
    omega
  generalize spec.targetExponent (totalExponent mantissa exponent) = goal at target
  generalize counted : (goal - exponent).toNat = count
  have rounded := roundedMantissa_le
    (UnpackedFloat.ExtendedMantissa.ofMantissaAndAccuracy mantissa accuracy >>> count)
  rw [mantissa_shiftRight, mantissa_ofMantissaAndAccuracy] at rounded
  have digits := Nat.le_trans (log2_mono rounded) (log2_shiftRight_succ_le mantissa count)
  have bits : 1 ≤ spec.mantissaBits := Nat.le_add_right 1 _
  simp only [totalExponent] at fits ⊢
  constructor <;> omega

theorem reaches_roundWithAccuracy (sign : UnpackedFloat.Sign) (accuracy : UnpackedFloat.Accuracy)
    (placed : exponent < limit) (fits : totalExponent mantissa exponent < limit + spec.mantissaBits)
    (least : spec.minExponent < limit) :
    Reaches limit (UnpackedFloat.roundWithAccuracy spec sign mantissa exponent accuracy) := by
  have fitting : totalExponent mantissa exponent ≤ limit - 1 + spec.mantissaBits := by omega
  obtain ⟨first, carried⟩ :=
    shiftToTargetExponent_le accuracy (Int.le_sub_one_of_lt placed) fitting
      (Int.le_sub_one_of_lt least)
  rw [Int.sub_add_cancel] at carried
  -- A carry can ask for one more digit than the format has, which is dropped in a second pass.
  have second := (shiftToTargetExponent_le .exact (by omega) carried (by omega)).1
  unfold UnpackedFloat.roundWithAccuracy
  dsimp only
  by_cases nothing : (UnpackedFloat.shiftToTargetExponent spec
      (UnpackedFloat.shiftToTargetExponent spec mantissa exponent accuracy).1.roundedMantissa
      (UnpackedFloat.shiftToTargetExponent spec mantissa exponent accuracy).2 .exact).1.mantissa = 0
  · rw [dif_pos nothing]
    exact .zero
  · rw [dif_neg nothing]
    exact .finite second

theorem reaches_round (sign : UnpackedFloat.Sign) (placed : exponent < limit)
    (fits : totalExponent mantissa exponent < limit + spec.mantissaBits)
    (least : spec.minExponent < limit) :
    Reaches limit (UnpackedFloat.round spec sign mantissa exponent) := by
  simp only [UnpackedFloat.round, UnpackedFloat.decreaseExponent]
  generalize (exponent - spec.targetExponent (totalExponent mantissa exponent)).toNat = count
  have digits := log2_shiftLeft_le mantissa count
  refine reaches_roundWithAccuracy sign .exact (by omega) ?_ least
  simp only [totalExponent] at fits ⊢
  omega

end

/-! ### Packing -/

section

variable {spec : Format} {limit : Int}

theorem below_unpack {bits : BitVec spec.numBits}
    (finite : UnpackedFloat.unpackExponent bits ≠ -BitVec.ofNat spec.exponentBits 1)
    (placed : (UnpackedFloat.unpackExponent bits).toNat ≤
      limit + spec.exponentBias + spec.mantissaBitsWithoutImplicit)
    (least : 1 - spec.exponentBias - spec.mantissaBitsWithoutImplicit ≤ limit) :
    Below spec.mantissaBitsWithoutImplicit limit (UnpackedFloat.unpack spec bits) := by
  unfold UnpackedFloat.unpack
  dsimp only
  rw [if_neg finite]
  by_cases subnormal : UnpackedFloat.unpackExponent bits = BitVec.ofNat spec.exponentBits 0
  · rw [if_pos subnormal]
    by_cases nothing :
        UnpackedFloat.unpackMantissa bits = BitVec.ofNat spec.mantissaBitsWithoutImplicit 0
    · rw [dif_pos nothing]
      exact .zero
    · rw [dif_neg nothing]
      refine .finite (log2_toNat_le _ (Nat.le_succ _)) ?_
      rw [subnormal, BitVec.toNat_ofNat, Nat.zero_mod]
      omega
  · rw [if_neg subnormal]
    exact .finite (log2_toNat_le _ (Nat.add_comm 1 _).le) (by omega)

/-- A number whose exponent the format has is read back as a number with no larger exponent and no
more digits than the format keeps. -/
theorem below_unpack_pack {number : UnpackedFloat} (reaches : Reaches limit number)
    (least : 1 - spec.exponentBias - spec.mantissaBitsWithoutImplicit ≤ limit)
    (greatest : limit ≤ spec.exponentBias - spec.mantissaBitsWithoutImplicit) :
    Below spec.mantissaBitsWithoutImplicit limit
      (UnpackedFloat.unpack spec (UnpackedFloat.pack spec number)) := by
  have room : 2 * (spec.exponentBias + 1) = 2 ^ spec.exponentBits := by
    have := Nat.two_pow_pos (spec.exponentBits - 1)
    rw [Format.exponentBias, Nat.sub_add_cancel this, ← Nat.pow_succ', Nat.succ_eq_add_one,
      Nat.sub_add_cancel spec.he]
  -- The packed number is finite if its exponent is not all ones.
  have unpacked (sign : UnpackedFloat.Sign) (exponent : BitVec spec.exponentBits)
      (mantissa : BitVec spec.mantissaBitsWithoutImplicit)
      (finite : exponent.toNat + 1 < 2 ^ spec.exponentBits)
      (placed : exponent.toNat ≤ limit + spec.exponentBias + spec.mantissaBitsWithoutImplicit) :
      Below spec.mantissaBitsWithoutImplicit limit
        (UnpackedFloat.unpack spec (UnpackedFloat.packComponents spec sign exponent mantissa)) := by
    refine below_unpack ?_ ?_ least <;> rw [UnpackedFloat.unpackExponent_packComponents]
    · intro full
      rw [full, BitVec.neg_one_eq_allOnes, BitVec.toNat_allOnes] at finite
      omega
    · exact placed
  have zeroed (sign : UnpackedFloat.Sign) (mantissa : BitVec spec.mantissaBitsWithoutImplicit) :
      Below spec.mantissaBitsWithoutImplicit limit
        (UnpackedFloat.unpack spec (UnpackedFloat.packComponents spec sign 0 mantissa)) := by
    apply unpacked <;>
      simp only [BitVec.ofNat_eq_ofNat, BitVec.toNat_ofNat, Nat.zero_mod] <;> omega
  cases reaches with
  | zero => exact zeroed _ _
  | @finite sign mantissa exponent positive placed =>
      unfold UnpackedFloat.pack
      dsimp only
      rw [if_neg (by omega)]
      split
      · apply unpacked <;> rw [BitVec.toNat_ofNat, Nat.mod_eq_of_lt (by omega)] <;> omega
      · exact zeroed _ _

end

/-- Double precision has room for exponents up to 971. -/
theorem below_pack {number : UnpackedFloat} {limit : Int} (reaches : Reaches limit number)
    (least : -1074 ≤ limit) (greatest : limit ≤ 971) :
    Below 52 limit (Float.Model.pack number).unpack :=
  @below_unpack_pack .binary64 limit number reaches least greatest

/-! ### Products -/

theorem reaches_mul {spec : Format} {a b : UnpackedFloat} {digits otherDigits : Nat}
    {reach otherReach limit : Int} (first : Below digits reach a)
    (second : Below otherDigits otherReach b) (placed : reach + otherReach < limit)
    (fits : digits + otherDigits + 2 + (reach + otherReach) < limit + spec.mantissaBits)
    (least : spec.minExponent < limit) : Reaches limit (UnpackedFloat.mul spec a b) := by
  cases first with
  | zero =>
      cases second with
      | zero | finite _ _ => exact .zero
  | @finite _ mantissa exponent _ fewDigits low =>
      cases second with
      | zero => exact .zero
      | @finite _ otherMantissa otherExponent _ fewOthers otherLow =>
          have digitsOfProduct := log2_mul_le mantissa otherMantissa
          refine reaches_roundWithAccuracy _ .exact (by omega) ?_ least
          simp only [totalExponent]
          omega

/-! ### Integers of 64 bits -/

theorem reaches_normalize {n : Int} (small : n.natAbs.log2 ≤ 63) (zeroSign : UnpackedFloat.Sign) :
    Reaches 12 (UnpackedFloat.normalize .binary64 n 0 zeroSign) := by
  have bits : Format.binary64.mantissaBits = 53 := rfl
  have rounded (sign : UnpackedFloat.Sign) {mantissa : Nat} (le : mantissa ≤ n.natAbs) :
      Reaches 12 (UnpackedFloat.round .binary64 sign mantissa 0) := by
    have digits := log2_mono le
    refine reaches_round sign (by decide) ?_ (by decide)
    simp only [totalExponent, bits]
    omega
  unfold UnpackedFloat.normalize
  split
  · exact rounded _ (by omega)
  · exact .zero
  · exact rounded _ (by omega)

theorem reaches_ofScientific {n : Nat} (small : n.log2 ≤ 63) :
    Reaches 13 (UnpackedFloat.ofScientific .binary64 n 0) := by
  have digits := log2_shiftLeft_le n Format.binary64.mantissaBits
  have bits : Format.binary64.mantissaBits = 53 := rfl
  have powers : (0 : Int) ≤ 2 ^ Format.binary64.exponentBits := by decide
  have product {a b : UnpackedFloat} (scaled : Below 116 (-53) a) (one : Below 0 0 b) :
      Reaches 13 (UnpackedFloat.mul .binary64 a b) :=
    reaches_mul scaled one (by decide) (by decide) (by decide)
  unfold UnpackedFloat.ofScientific
  by_cases nothing : n = 0
  · rw [dif_pos nothing]
    exact .zero
  · rw [dif_neg nothing, if_neg (by decide), if_neg (by omega), if_pos (by decide)]
    exact product (.finite (by omega) (by omega)) (.finite (by decide) (by decide))

/-- Numbers of 53 digits are taken from their bits and multiplied by one, larger ones are rounded. -/
theorem reaches_ofNat {n : Nat} (small : n.log2 ≤ 63) :
    ∃ number, Reaches 14 number ∧ (Float.ofNat n).toModel = .pack number := by
  change ∃ number, Reaches 14 number ∧ (Float.ofScientific n false 0).toModel = .pack number
  unfold Float.ofScientific
  split
  · have one : Below 52 (-52) (Float.ofBits 0x3FF0000000000000).toModel.unpack := by
      have unpacked : (Float.ofBits 0x3FF0000000000000).toModel.unpack =
          .finite .positive 4503599627370496 (-52) (by decide) := rfl
      rw [unpacked]
      exact .finite (by decide) (by decide)
    have digits : n.toUInt64.toNat.log2 ≤ 63 := log2_toNat_le n.toUInt64.toBitVec (by decide)
    have whole : Below 52 12 n.toUInt64.toFloat.toModel.unpack :=
      below_pack (@reaches_normalize n.toUInt64.toNat digits .positive) (by decide) (by decide)
    exact ⟨_, reaches_mul whole one (by decide) (by decide) (by decide), rfl⟩
  · exact ⟨_, (reaches_ofScientific small).mono (by decide), rfl⟩

theorem below_ofInt {n : Int} (small : n.natAbs.log2 ≤ 63) :
    Below 52 14 (Float.ofInt n).toModel.unpack := by
  have magnitude {m : Nat} (digits : m.log2 ≤ 63) : Below 52 14 (Float.ofNat m).toModel.unpack := by
    obtain ⟨number, reaches, packed⟩ := reaches_ofNat digits
    rw [packed]
    exact below_pack reaches (by decide) (by decide)
  cases n with
  | ofNat m => exact magnitude small
  | negSucc m =>
      exact below_pack (magnitude small).neg (by decide) (by decide)

/-- A number that is far from the bounds of single precision stays finite in it. -/
theorem isFinite_narrow {x : Float} (below : Below 52 14 x.toModel.unpack) :
    (narrow x).isFinite = true := by
  have bits : Format.binary32.mantissaBits = 24 := rfl
  have finite {number : UnpackedFloat} (reaches : Reaches 44 number) :
      (Float32.ofModel (.pack number)).isFinite = true :=
    (@below_unpack_pack .binary32 44 number reaches (by decide) (by decide)).isFinite
  unfold narrow
  generalize x.toModel.unpack = number at below ⊢
  cases below with
  | zero => exact finite .zero
  | finite digits low =>
      refine finite (reaches_round _ (by omega) ?_ (by decide))
      simp only [totalExponent]
      omega

end RowQuery.Binary
