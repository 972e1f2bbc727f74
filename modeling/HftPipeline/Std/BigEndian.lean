import Mathlib.Data.BitVec

/-!
# Big-endian numbers

Network byte order puts the most significant byte first. `value` reads a byte
string as a number and `bytes` writes a number into a fixed count of bytes; on
numbers that fit they are inverse. Words built by concatenation have the value
of the bytes they are concatenated from.
-/

namespace HftPipeline.Std.BigEndian

abbrev Byte := BitVec 8

/-- The number a byte string denotes, most significant byte first. -/
def value (bytes : List Byte) : Nat :=
  bytes.foldl (fun high byte => high * 256 + byte.toNat) 0

/-- The last `count` base-256 digits of a number, most significant byte first. -/
def bytes : Nat → Nat → List Byte
  | 0, _ => []
  | count + 1, number => bytes count (number / 256) ++ [BitVec.ofNat 8 number]

@[simp] theorem value_nil : value [] = 0 := rfl

/-- A further byte is the lowest one. -/
@[simp] theorem value_snoc (front : List Byte) (last : Byte) :
    value (front ++ [last]) = value front * 256 + last.toNat := by
  simp [value, List.foldl_append]

/-- A number is written in the bytes asked for. -/
@[simp] theorem length_bytes (count number : Nat) : (bytes count number).length = count := by
  induction count generalizing number with
  | zero => rfl
  | succ count ih => simp [bytes, ih]

/-- The value of some bytes fits their number. -/
theorem value_lt (digits : List Byte) : value digits < 256 ^ digits.length := by
  induction digits using List.reverseRecOn with
  | nil => simp
  | append_singleton front last ih =>
      have byteBound : last.toNat < 256 := last.isLt
      rw [value_snoc, List.length_append, List.length_singleton, Nat.pow_succ]
      omega

/-- Reading back a number that fits returns it. -/
theorem value_bytes {count number : Nat} (fits : number < 256 ^ count) :
    value (bytes count number) = number := by
  induction count generalizing number with
  | zero =>
      have zero : number = 0 := by simpa using fits
      simp [bytes, zero]
  | succ count ih =>
      have high : number / 256 < 256 ^ count := by
        rw [Nat.pow_succ] at fits
        exact Nat.div_lt_of_lt_mul (by omega)
      rw [bytes, value_snoc, ih high, BitVec.toNat_ofNat]
      omega

/-- Writing back what was read returns the same bytes. -/
theorem bytes_value (digits : List Byte) : bytes digits.length (value digits) = digits := by
  induction digits using List.reverseRecOn with
  | nil => rfl
  | append_singleton front last ih =>
      have byteBound : last.toNat < 256 := last.isLt
      have high : value (front ++ [last]) / 256 = value front := by
        rw [value_snoc]
        omega
      have low : BitVec.ofNat 8 (value (front ++ [last])) = last := by
        apply BitVec.eq_of_toNat_eq
        rw [value_snoc, BitVec.toNat_ofNat]
        omega
      rw [List.length_append, List.length_singleton, bytes, high, low, ih]

/-- Appending low bytes to a word shifts the word by their width. -/
theorem toNat_append {high low : Nat} (left : BitVec high) (right : BitVec low) :
    (left ++ right).toNat = left.toNat * 2 ^ low + right.toNat := by
  rw [BitVec.toNat_append, ← Nat.shiftLeft_add_eq_or_of_lt right.isLt, Nat.shiftLeft_eq]

/-- Four concatenated bytes denote the number their byte string does. -/
theorem toNat_word (first second third fourth : Byte) :
    (first ++ second ++ third ++ fourth).toNat = value [first, second, third, fourth] := by
  simp only [toNat_append, value, List.foldl_cons, List.foldl_nil]
  omega

/-- A number written into a field and read back by concatenation of two words. -/
theorem value_append (front back : List Byte) :
    value (front ++ back) = value front * 256 ^ back.length + value back := by
  induction back using List.reverseRecOn with
  | nil => simp
  | append_singleton back last ih =>
      rw [← List.append_assoc, value_snoc, ih, value_snoc, List.length_append,
        List.length_singleton, Nat.pow_succ, Nat.add_mul, Nat.mul_assoc, Nat.add_assoc]

end HftPipeline.Std.BigEndian
