import Mathlib.Algebra.Order.Floor.Ring
import Mathlib.Algebra.Order.Ring.Int
import Mathlib.Data.Rat.Floor
import Mathlib.Tactic.Linarith

/-!
# Rounding to the nearest integer, ties to even

A tie lies half way between two integers and goes to the even one. Rounding is
therefore monotone with closed bounds at even integers and open bounds at odd ones.
-/

namespace HftPipeline.Std.HalfEven

variable {α : Type} [Field α] [LinearOrder α] [IsStrictOrderedRing α] [FloorRing α]

/-- The nearest integer, and of two nearest ones the even one. -/
def round (value : α) : Int :=
  if value - ⌊value⌋ < 1 / 2 then ⌊value⌋
  else if 1 / 2 < value - ⌊value⌋ then ⌊value⌋ + 1
  else if ⌊value⌋ % 2 = 0 then ⌊value⌋
  else ⌊value⌋ + 1

/-- An integer is a lower bound of the rounded value when the value is at most one
half below it, where the half itself rounds up only to an even integer. -/
theorem le_round_iff (bound : Int) (value : α) :
    bound ≤ round value ↔
      if bound % 2 = 0 then (bound : α) - 1 / 2 ≤ value else (bound : α) - 1 / 2 < value := by
  have low := Int.floor_le value
  have high := Int.lt_floor_add_one value
  have below (inside : bound ≤ ⌊value⌋) : (bound : α) ≤ ⌊value⌋ := by exact_mod_cast inside
  have above (outside : ⌊value⌋ + 2 ≤ bound) : (⌊value⌋ : α) + 2 ≤ bound := by
    exact_mod_cast outside
  obtain inside | next | outside :
      bound ≤ ⌊value⌋ ∨ bound = ⌊value⌋ + 1 ∨ ⌊value⌋ + 2 ≤ bound := by omega
  · have near := below inside
    have rounded : bound ≤ round value := by
      unfold round
      split_ifs <;> omega
    refine iff_of_true rounded ?_
    split_ifs <;> linarith
  · -- Only the tie is decided by the parity of the bound.
    have cast : (bound : α) = ⌊value⌋ + 1 := by exact_mod_cast next
    rw [cast]
    unfold round
    split_ifs <;> constructor <;> intro assumed <;> first | omega | linarith
  · have far := above outside
    have rounded : ¬ bound ≤ round value := by
      unfold round
      split_ifs <;> omega
    refine iff_of_false rounded ?_
    split_ifs <;> linarith

/-- An integer is an upper bound of the rounded value when the value is at most one
half above it, where the half itself rounds down only to an even integer. -/
theorem round_le_iff (bound : Int) (value : α) :
    round value ≤ bound ↔
      if bound % 2 = 0 then value ≤ (bound : α) + 1 / 2 else value < (bound : α) + 1 / 2 := by
  have complement := le_round_iff (bound + 1) value
  have half : ((bound + 1 : Int) : α) - 1 / 2 = (bound : α) + 1 / 2 := by
    push_cast
    ring
  rw [half] at complement
  rw [← not_lt, ← Int.add_one_le_iff, complement]
  by_cases even : bound % 2 = 0
  · rw [if_pos even, if_neg (by omega), not_lt]
  · rw [if_neg even, if_pos (by omega), not_le]

end HftPipeline.Std.HalfEven
