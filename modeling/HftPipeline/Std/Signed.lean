import Mathlib.Data.BitVec
import Mathlib.Tactic.Linarith

/-!
# Exact signed arithmetic

Two's complement operations compute the integer result whenever that result is
in the range of the register. These are the rules that trade a wrapping
operation for a bound.
-/

namespace HftPipeline.Std.Signed

variable {width : Nat}

/-- A register of this width represents the integer. -/
def Fits (width : Nat) (value : Int) : Prop := -(2 ^ (width - 1)) ≤ value ∧ value < 2 ^ (width - 1)

/-- A number that fits is its own balanced remainder. -/
private theorem bmod_of_fits (positive : 0 < width) {value : Int} (fits : Fits width value) :
    value.bmod (2 ^ width) = value := by
  obtain ⟨before, rfl⟩ : ∃ before, width = before + 1 := ⟨width - 1, by omega⟩
  obtain ⟨low, high⟩ := fits
  simp only [Nat.add_sub_cancel] at low high
  have double : ((2 ^ (before + 1) : Nat) : Int) = 2 * 2 ^ before := by
    push_cast
    rw [pow_succ, mul_comm]
  apply Int.bmod_eq_of_le <;> rw [double] <;> omega

/-- A sum that fits is not wrapped. -/
theorem toInt_add_of_fits (positive : 0 < width) {left right : BitVec width}
    (fits : Fits width (left.toInt + right.toInt)) :
    (left + right).toInt = left.toInt + right.toInt := by
  rw [BitVec.toInt_add, bmod_of_fits positive fits]

/-- A product that fits is not wrapped. -/
theorem toInt_mul_of_fits (positive : 0 < width) {left right : BitVec width}
    (fits : Fits width (left.toInt * right.toInt)) :
    (left * right).toInt = left.toInt * right.toInt := by
  rw [BitVec.toInt_mul, bmod_of_fits positive fits]

/-- A negation that fits is not wrapped. -/
theorem toInt_neg_of_fits (positive : 0 < width) {register : BitVec width}
    (fits : Fits width (-register.toInt)) : (-register).toInt = -register.toInt := by
  rw [BitVec.toInt_neg, bmod_of_fits positive fits]

/-- A product of bounded factors is bounded by the product of the bounds. -/
theorem fits_mul {left right : Int} {leftBound rightBound : Nat}
    (leftFits : left.natAbs ≤ leftBound)
    (rightFits : right.natAbs ≤ rightBound) (room : leftBound * rightBound < 2 ^ (width - 1)) :
    Fits width (left * right) := by
  have bounded : (left * right).natAbs < 2 ^ (width - 1) := by
    rw [Int.natAbs_mul]
    exact (Nat.mul_le_mul leftFits rightFits).trans_lt room
  zify at bounded
  exact ⟨(abs_lt.mp bounded).1.le, (abs_lt.mp bounded).2⟩

/-- A signed register is at most half its range in size. -/
theorem natAbs_toInt_le (register : BitVec width) : register.toInt.natAbs ≤ 2 ^ (width - 1) := by
  have low := BitVec.le_toInt register
  have high : register.toInt < 2 ^ (width - 1) := BitVec.toInt_lt
  zify
  exact abs_le.mpr ⟨low, high.le⟩

/-- Sign-extended factors multiply exactly when their widths fit the product register. -/
theorem toInt_signExtend_mul {leftWidth rightWidth : Nat} (left : BitVec leftWidth)
    (right : BitVec rightWidth) (leftNarrow : leftWidth ≤ width) (rightNarrow : rightWidth ≤ width)
    (room : leftWidth - 1 + (rightWidth - 1) < width - 1) :
    (left.signExtend width * right.signExtend width).toInt = left.toInt * right.toInt := by
  have wide : (left.signExtend width).toInt = left.toInt := BitVec.toInt_signExtend_of_le leftNarrow
  have wide' : (right.signExtend width).toInt = right.toInt :=
    BitVec.toInt_signExtend_of_le rightNarrow
  have fits : Fits width (left.toInt * right.toInt) :=
    fits_mul (natAbs_toInt_le left) (natAbs_toInt_le right)
      (by rw [← pow_add]; exact Nat.pow_lt_pow_right (by decide) room)
  rw [toInt_mul_of_fits (by omega) (by rwa [wide, wide']), wide, wide']

/-- A leading zero keeps an unsigned value. -/
theorem toNat_zero_append (value : BitVec width) : (0#1 ++ value).toNat = value.toNat := by
  simp

/-- With a leading zero the signed value is the unsigned one. -/
theorem toInt_zero_append (value : BitVec width) : (0#1 ++ value).toInt = value.toNat := by
  have bound := value.isLt
  rw [BitVec.toInt_eq_toNat_of_lt, toNat_zero_append]
  rw [toNat_zero_append, Nat.add_comm, pow_succ]
  omega

/-- One more bit makes room for the difference of two unsigned values. -/
theorem toInt_zero_append_sub (left right : BitVec width) :
    ((0#1 ++ left) - (0#1 ++ right)).toInt = (left.toNat : Int) - right.toNat := by
  have leftBound := left.isLt
  have rightBound := right.isLt
  have fits : Fits (1 + width) ((left.toNat : Int) - right.toNat) := by
    unfold Fits
    rw [Nat.add_sub_cancel_left]
    zify at leftBound rightBound
    constructor <;> omega
  rw [BitVec.toInt_sub, toInt_zero_append, toInt_zero_append, bmod_of_fits (by omega) fits]

end HftPipeline.Std.Signed
