import Mathlib.Data.Finset.Card
import Mathlib.Data.Finset.Dedup
import Mathlib.Data.List.Perm.Basic
import Mathlib.Data.List.Sort
import Mathlib.Data.List.Range
import Mathlib.Order.Interval.Finset.Nat

/-!
# Numbered arrivals

Numbered messages arrive in some order, with losses and repetitions. The counts
below describe a list of arrivals as a whole and also grow by one arrival at a
time. When the numbers are among the first `count` and no count shows a fault, the
arrivals are exactly these numbers in order.
-/

namespace HftPipeline.Std.Arrivals

/-- How many different numbers have arrived. -/
def distinct (arrivals : List Nat) : Nat := arrivals.toFinset.card

/-- The greatest number, or zero. -/
def highest (arrivals : List Nat) : Nat := arrivals.foldl max 0

/-- How many numbers first arrive below an earlier one, behind the given arrivals. -/
def lateBehind (before : List Nat) : List Nat → Nat
  | [] => 0
  | number :: arrivals =>
      (if number ∉ before ∧ ∃ other ∈ before, number < other then 1 else 0) +
        lateBehind (before ++ [number]) arrivals

/-- How many numbers first arrive below an earlier one. -/
def late (arrivals : List Nat) : Nat := lateBehind [] arrivals

/-- An arrival counts as distinct the first time its number comes. -/
theorem distinct_snoc (arrivals : List Nat) (number : Nat) :
    distinct (arrivals ++ [number]) =
      if number ∈ arrivals then distinct arrivals else distinct arrivals + 1 := by
  have grown : (arrivals ++ [number]).toFinset = insert number arrivals.toFinset := by
    ext other
    simp
  rw [distinct, grown]
  split_ifs with seen
  · rw [Finset.insert_eq_of_mem (List.mem_toFinset.mpr seen), distinct]
  · rw [Finset.card_insert_of_notMem (fun member => seen (List.mem_toFinset.mp member)), distinct]

/-- The highest number is the larger of the last and the highest before. -/
theorem highest_snoc (arrivals : List Nat) (number : Nat) :
    highest (arrivals ++ [number]) = max (highest arrivals) number := by
  simp [highest]

/-- An arrival is late when its number is new and a higher one came before it. -/
theorem lateBehind_snoc (before arrivals : List Nat) (number : Nat) :
    lateBehind before (arrivals ++ [number]) = lateBehind before arrivals +
      if number ∉ before ++ arrivals ∧ ∃ other ∈ before ++ arrivals, number < other
        then 1 else 0 := by
  induction arrivals generalizing before with
  | nil => simp [lateBehind]
  | cons first arrivals ih =>
      have split : before ++ first :: arrivals = before ++ [first] ++ arrivals := by simp
      rw [List.cons_append, lateBehind, ih, lateBehind, split, Nat.add_assoc]

/-- The greatest number is at least every arrival. -/
theorem le_highest {arrivals : List Nat} {number : Nat} (member : number ∈ arrivals) :
    number ≤ highest arrivals := by
  induction arrivals using List.reverseRecOn with
  | nil => simp at member
  | append_singleton arrivals last ih =>
      rw [highest_snoc]
      rcases List.mem_append.mp member with earlier | now
      · exact (ih earlier).trans (le_max_left _ _)
      · rw [List.mem_singleton.mp now]
        exact le_max_right _ _

/-- It is an arrival, unless there is none above zero. -/
theorem highest_mem (arrivals : List Nat) : highest arrivals = 0 ∨ highest arrivals ∈ arrivals := by
  induction arrivals using List.reverseRecOn with
  | nil => exact Or.inl rfl
  | append_singleton arrivals last ih =>
      rw [highest_snoc]
      rcases le_total (highest arrivals) last with above | below
      · rw [max_eq_right above]
        exact Or.inr (by simp)
      · rw [max_eq_left below]
        exact ih.imp id fun earlier => List.mem_append_left _ earlier

/-- An arrival is late exactly when it is new and below the greatest number. -/
theorem late_snoc (arrivals : List Nat) (number : Nat) :
    late (arrivals ++ [number]) =
      if number ∉ arrivals ∧ number < highest arrivals then late arrivals + 1
      else late arrivals := by
  have below : (∃ other ∈ arrivals, number < other) ↔ number < highest arrivals := by
    constructor
    · rintro ⟨other, member, less⟩
      exact less.trans_le (le_highest member)
    · intro less
      rcases highest_mem arrivals with none | member
      · omega
      · exact ⟨_, member, less⟩
  rw [late, lateBehind_snoc, List.nil_append, ← late]
  simp only [below]
  split_ifs <;> rfl

/-- There are no more distinct numbers than arrivals. -/
theorem distinct_le_length (arrivals : List Nat) : distinct arrivals ≤ arrivals.length :=
  List.toFinset_card_le arrivals

/-- A number is late at most once. -/
theorem late_le_distinct (arrivals : List Nat) : late arrivals ≤ distinct arrivals := by
  induction arrivals using List.reverseRecOn with
  | nil => exact Nat.le_refl _
  | append_singleton arrivals number ih =>
      rw [late_snoc, distinct_snoc]
      by_cases seen : number ∈ arrivals
      · simpa [seen] using ih
      · simp only [seen, if_false, not_false_eq_true, true_and]
        split_ifs <;> omega

section Bounded

variable {arrivals : List Nat} {count : Nat}
  (inside : ∀ number ∈ arrivals, 1 ≤ number ∧ number ≤ count)

include inside

/-- Arrivals between one and a count are among its numbers. -/
theorem subset_Icc : arrivals.toFinset ⊆ Finset.Icc 1 count := by
  intro number member
  exact Finset.mem_Icc.mpr (inside number (List.mem_toFinset.mp member))

/-- Arrivals between one and a count have at most that many distinct numbers. -/
theorem distinct_le : distinct arrivals ≤ count := by
  have bound := Finset.card_le_card (subset_Icc inside)
  rwa [Nat.card_Icc, Nat.add_sub_cancel] at bound

/-- Arrivals between one and a count stay at or below it. -/
theorem highest_le : highest arrivals ≤ count := by
  rcases highest_mem arrivals with none | member
  · omega
  · exact (inside _ member).2

end Bounded

/-- Without repetitions and late arrivals the numbers increase. -/
theorem pairwise_of_clean {arrivals : List Nat} (once : distinct arrivals = arrivals.length)
    (ordered : late arrivals = 0) : arrivals.Pairwise (· < ·) := by
  induction arrivals using List.reverseRecOn with
  | nil => exact List.Pairwise.nil
  | append_singleton arrivals number ih =>
      rw [distinct_snoc, List.length_append, List.length_singleton] at once
      rw [late_snoc] at ordered
      have bound := distinct_le_length arrivals
      have new : number ∉ arrivals := by
        intro seen
        rw [if_pos seen] at once
        omega
      rw [if_neg new] at once
      have onTime : ¬number < highest arrivals := by
        intro below
        rw [if_pos ⟨new, below⟩] at ordered
        omega
      rw [if_neg fun both => onTime both.2] at ordered
      refine List.pairwise_append.mpr ⟨ih (by omega) ordered, List.pairwise_singleton _ _, ?_⟩
      intro other member last isLast
      rw [List.mem_singleton.mp isLast]
      have atMost := le_highest member
      have differ : other ≠ number := fun same => new (same ▸ member)
      omega

/-- The first numbers in order arrive without a late one. -/
theorem late_range' (count : Nat) : late (List.range' 1 count) = 0 := by
  induction count with
  | zero => rfl
  | succ count ih =>
      have bound : highest (List.range' 1 count) ≤ count :=
        highest_le fun number member => by
          have within := List.mem_range'_1.mp member
          omega
      have onTime :
          ¬(1 + count ∉ List.range' 1 count ∧ 1 + count < highest (List.range' 1 count)) := by
        rintro ⟨_, below⟩
        omega
      rw [List.range'_concat, Nat.one_mul, late_snoc, if_neg onTime, ih]

/-- The counts are those of the first numbers in order exactly for these. -/
theorem clean_iff {arrivals : List Nat} {count : Nat}
    (inside : ∀ number ∈ arrivals, 1 ≤ number ∧ number ≤ count) :
    (count ≤ distinct arrivals ∧ arrivals.length - distinct arrivals = 0 ∧ late arrivals = 0) ↔
      arrivals = List.range' 1 count := by
  constructor
  · rintro ⟨all, once, ordered⟩
    have bound := distinct_le_length arrivals
    have size : distinct arrivals = arrivals.length := by omega
    have sorted := pairwise_of_clean size ordered
    have same : arrivals.toFinset = (List.range' 1 count).toFinset := by
      have whole : arrivals.toFinset = Finset.Icc 1 count :=
        Finset.eq_of_subset_of_card_le (subset_Icc inside) (by
          rw [Nat.card_Icc, Nat.add_sub_cancel]
          exact all)
      rw [whole]
      ext number
      simp
      omega
    have permuted := List.perm_of_nodup_nodup_toFinset_eq sorted.nodup List.nodup_range' same
    exact permuted.eq_of_pairwise' sorted List.pairwise_lt_range'
  · intro sequence
    have once : distinct arrivals = count := by
      rw [sequence, distinct, List.toFinset_card_of_nodup List.nodup_range', List.length_range']
    have size : arrivals.length = count := by rw [sequence, List.length_range']
    refine ⟨once.ge, by omega, ?_⟩
    rw [sequence, late_range']

end HftPipeline.Std.Arrivals
