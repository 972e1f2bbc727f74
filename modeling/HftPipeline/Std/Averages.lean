import Mathlib.Algebra.Order.Group.Abs
import Mathlib.Data.List.Forall2
import Mathlib.Tactic.Ring
import HftPipeline.Std.RingWindow

/-!
# Averages of recent values

The average of a full window is rounded down. It lies between any two bounds of the
window, and moves exactly as far as all of the values do, so the difference of two
averages is bounded by the range of the values and does not see where they are. When
the values are turned around, rounding can cost the average one.
-/

namespace HftPipeline.Std.RingWindow

/-- The average of the newest values, rounded down. -/
def average (size : Nat) (history : List Nat) : Nat := recentSum size history / size

/-- A window does not see what is older. -/
theorem recentSum_append {size : Nat} {history : List Nat} (full : size ≤ history.length)
    (older : List Nat) : recentSum size (history ++ older) = recentSum size history := by
  rw [recentSum, recentSum, List.take_append_of_le_length full]

/-- Every value moved by the same distance. -/
def Shifted (distance : Int) : List Nat → List Nat → Prop :=
  List.Forall₂ fun value moved => (moved : Int) = value + distance

section Shifting

variable {distance : Int} {history moved : List Nat}

/-- A shifted history has its sum shifted once for each value. -/
theorem Shifted.sum (shifted : Shifted distance history moved) :
    (moved.sum : Int) = history.sum + history.length * distance := by
  induction shifted with
  | nil => simp
  | cons first _ ih =>
      rw [List.sum_cons, List.sum_cons, List.length_cons, Nat.cast_add, Nat.cast_add, first, ih,
        Nat.cast_succ]
      ring

/-- A full window of a shifted history has its sum shifted once for each value. -/
theorem Shifted.recentSum {size : Nat} (shifted : Shifted distance history moved)
    (full : size ≤ history.length) :
    (recentSum size moved : Int) = recentSum size history + size * distance := by
  have window : Shifted distance (history.take size) (moved.take size) :=
    List.forall₂_take size shifted
  have total := window.sum
  rwa [List.length_take, Nat.min_eq_left full] at total

/-- The average of a full window moves with the values. -/
theorem Shifted.average (size : Nat) (shifted : Shifted distance history moved)
    (positive : 0 < size) (full : size ≤ history.length) :
    (average size moved : Int) = average size history + distance := by
  rw [RingWindow.average, RingWindow.average, Int.natCast_div, Int.natCast_div,
    shifted.recentSum full, Int.add_mul_ediv_left _ _ (by omega)]

end Shifting

/-- Every value reflected: with the old one it makes up the total. -/
def Reflected (total : Nat) : List Nat → List Nat → Prop :=
  List.Forall₂ fun value reflected => value + reflected = total

section Reflecting

variable {total : Nat} {history mirror : List Nat}

/-- A history and its reflection add up to the total for each value. -/
theorem Reflected.sum (reflected : Reflected total history mirror) :
    history.sum + mirror.sum = history.length * total := by
  induction reflected with
  | nil => simp
  | @cons value image _ _ first _ ih =>
      rw [List.sum_cons, List.sum_cons, List.length_cons, Nat.succ_mul, ← ih, ← first]
      omega

/-- Full windows of both add up to the total for each value. -/
theorem Reflected.recentSum {size : Nat} (reflected : Reflected total history mirror)
    (full : size ≤ history.length) :
    recentSum size history + recentSum size mirror = size * total := by
  have window : Reflected total (history.take size) (mirror.take size) :=
    List.forall₂_take size reflected
  have sums := window.sum
  rwa [List.length_take, Nat.min_eq_left full] at sums

/-- The averages of a full window and of its reflection make up the total too, less one
when they have been rounded. -/
theorem Reflected.average (size : Nat) (reflected : Reflected total history mirror)
    (positive : 0 < size) (full : size ≤ history.length) :
    average size history + average size mirror ≤ total ∧
      total ≤ average size history + average size mirror + 1 := by
  have whole : total = RingWindow.average size history + RingWindow.average size mirror +
      if size ≤ RingWindow.recentSum size history % size + RingWindow.recentSum size mirror % size
        then 1 else 0 := by
    rw [RingWindow.average, RingWindow.average, ← Nat.add_div positive, reflected.recentSum full,
      Nat.mul_div_cancel_left _ positive]
  split_ifs at whole <;> omega

end Reflecting

section Bounds

variable {low high size : Nat} {history : List Nat}

/-- A sum of values between two bounds lies between their multiples. -/
theorem sum_between {values : List Nat} (within : ∀ value ∈ values, low ≤ value ∧ value ≤ high) :
    values.length * low ≤ values.sum ∧ values.sum ≤ values.length * high := by
  constructor
  · exact List.card_nsmul_le_sum values low fun value member => (within value member).1
  · exact List.sum_le_card_nsmul values high fun value member => (within value member).2

/-- The average of a full window lies between the bounds of the window. -/
theorem average_between (positive : 0 < size) (full : size ≤ history.length)
    (within : ∀ value ∈ history.take size, low ≤ value ∧ value ≤ high) :
    low ≤ average size history ∧ average size history ≤ high := by
  have total := sum_between within
  rw [List.length_take, Nat.min_eq_left full] at total
  constructor
  · exact (Nat.le_div_iff_mul_le positive).mpr (by rw [Nat.mul_comm]; exact total.1)
  · have most := Nat.div_le_div_right (c := size) total.2
    rwa [Nat.mul_div_cancel_left _ positive] at most

/-- So do the averages of the shorter windows in it, and two of them are no further
apart than the bounds. -/
theorem averages_between {shorter : Nat} (positive : 0 < shorter) (inside : shorter ≤ size)
    (full : size ≤ history.length)
    (within : ∀ value ∈ history.take size, low ≤ value ∧ value ≤ high) :
    |(average shorter history : Int) - average size history| ≤ high - low := by
  have short : low ≤ average shorter history ∧ average shorter history ≤ high :=
    average_between positive (inside.trans full)
      fun value member => within value (List.take_subset_take_left history inside member)
  have long := average_between (positive.trans_le inside) full within
  rw [abs_le]
  omega

end Bounds

end HftPipeline.Std.RingWindow
