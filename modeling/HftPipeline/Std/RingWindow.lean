import Mathlib.Data.BitVec
import Mathlib.Algebra.BigOperators.Group.List.Basic
import Mathlib.Algebra.Order.BigOperators.Group.List
import Mathlib.Algebra.Order.Ring.Nat
import Mathlib.Logic.Function.Basic

/-!
# Circular buffers and rolling sums

A history lists every recorded value, newest first. A circular buffer of
`2 ^ width` cells written at a wrapping pointer retains the newest `2 ^ width`
of them, whatever it contained before, and the cell about to be overwritten is
the value that leaves the window.
-/

namespace HftPipeline.Std.RingWindow

variable {α : Type} {width : Nat}

/-- Every value still inside the window sits in the cell it was written to. The
cells that no recorded value has reached are unconstrained. -/
def Retains (cell : BitVec width → α) (history : List α) : Prop :=
  ∀ age, (recorded : age < history.length) → age < 2 ^ width →
    cell (BitVec.ofNat width (history.length - 1 - age)) = history[age]

theorem Retains.empty (cell : BitVec width → α) : Retains cell [] := by
  intro age recorded
  simp at recorded

private theorem ofNat_ne {first second : Nat} (ordered : first < second)
    (near : second < first + 2 ^ width) :
    BitVec.ofNat width first ≠ BitVec.ofNat width second := by
  intro equal
  have residues := congrArg BitVec.toNat equal
  simp only [BitVec.toNat_ofNat] at residues
  have divides : 2 ^ width ∣ second - first :=
    (Nat.modEq_iff_dvd' ordered.le).mp residues
  have bound := Nat.le_of_dvd (by omega) divides
  omega

/-- Writing at the pointer records the value and keeps the rest of the window. -/
theorem Retains.push {cell : BitVec width → α} {history : List α}
    (retains : Retains cell history) (value : α) :
    Retains (Function.update cell (BitVec.ofNat width history.length) value)
      (value :: history) := by
  intro age recorded inside
  cases age with
  | zero => simp
  | succ age =>
      simp only [List.length_cons] at recorded
      have position : (value :: history).length - 1 - (age + 1) = history.length - 1 - age := by
        simp only [List.length_cons]
        omega
      rw [position, Function.update_of_ne (ofNat_ne (by omega) (by omega))]
      exact retains age (by omega) (by omega)

/-- A full window is about to overwrite its oldest value. -/
theorem Retains.oldest {cell : BitVec width → α} {history : List α}
    (retains : Retains cell history) (full : 2 ^ width - 1 < history.length) :
    cell (BitVec.ofNat width history.length) = history[2 ^ width - 1] := by
  have size : 0 < 2 ^ width := Nat.two_pow_pos width
  have wraps : BitVec.ofNat width history.length =
      BitVec.ofNat width (history.length - 1 - (2 ^ width - 1)) := by
    apply BitVec.eq_of_toNat_eq
    have split : history.length = (history.length - 1 - (2 ^ width - 1)) + 2 ^ width := by omega
    simp only [BitVec.toNat_ofNat]
    conv_lhs => rw [split]
    exact Nat.add_mod_right _ _
  rw [wraps]
  exact retains _ full (by omega)

/-- Sum of the newest `size` values. -/
def recentSum (size : Nat) (history : List Nat) : Nat := (history.take size).sum

/-- A window that is not yet full only gains the new value. -/
theorem recentSum_grow {size : Nat} {history : List Nat} (value : Nat)
    (room : history.length < size) :
    recentSum size (value :: history) = recentSum size history + value := by
  unfold recentSum
  rw [List.take_of_length_le (by simp only [List.length_cons]; omega),
    List.take_of_length_le (by omega), List.sum_cons, Nat.add_comm]

/-- A full window gains the new value and loses its oldest one. -/
theorem recentSum_roll {size : Nat} {history : List Nat} (value : Nat)
    (full : size - 1 < history.length) (positive : 0 < size) :
    recentSum size (value :: history) + history[size - 1] = recentSum size history + value := by
  obtain ⟨before, rfl⟩ : ∃ before, size = before + 1 := ⟨size - 1, by omega⟩
  simp only [Nat.add_sub_cancel] at full ⊢
  simp only [recentSum, List.take_succ_cons, List.sum_cons]
  rw [List.take_succ_eq_append_getElem full, List.sum_append]
  simp only [List.sum_cons, List.sum_nil]
  omega

/-- The oldest value of a full window is part of its sum. -/
theorem oldest_le_recentSum {size : Nat} {history : List Nat}
    (full : size - 1 < history.length) (positive : 0 < size) :
    history[size - 1] ≤ recentSum size history := by
  have inside : history[size - 1] ∈ history.take size :=
    List.mem_take_iff_getElem.mpr ⟨size - 1, by omega, rfl⟩
  exact List.single_le_sum (fun _ _ => Nat.zero_le _) _ inside

/-- A window of bounded values has a bounded sum. -/
theorem recentSum_le {size bound : Nat} {history : List Nat}
    (bounded : ∀ value ∈ history, value ≤ bound) : recentSum size history ≤ size * bound := by
  have total := List.sum_le_card_nsmul (history.take size) bound
    (fun value member => bounded value (List.mem_of_mem_take member))
  have short : (history.take size).length ≤ size := by
    rw [List.length_take]
    omega
  calc recentSum size history ≤ (history.take size).length * bound := total
    _ ≤ size * bound := Nat.mul_le_mul_right bound short

/-- A register wide enough for the result subtracts and adds without wrapping. -/
theorem toNat_sub_add {register old new : BitVec width} (present : old.toNat ≤ register.toNat)
    (fits : register.toNat - old.toNat + new.toNat < 2 ^ width) :
    (register - old + new).toNat = register.toNat - old.toNat + new.toNat := by
  rw [BitVec.toNat_add_of_lt] <;> rw [BitVec.toNat_sub_of_le present]
  exact fits

/-- A sum register follows a window that is not yet full. -/
theorem toNat_grow {sum new : BitVec width} {size : Nat} {history : List Nat}
    (holds : sum.toNat = recentSum size history) (room : history.length < size)
    (fits : recentSum size (new.toNat :: history) < 2 ^ width) :
    (sum + new).toNat = recentSum size (new.toNat :: history) := by
  rw [recentSum_grow new.toNat room] at fits ⊢
  rw [BitVec.toNat_add_of_lt (by rwa [holds]), holds]

/-- A sum register follows a full window when it subtracts the oldest value. -/
theorem toNat_roll {sum old new : BitVec width} {size : Nat} {history : List Nat}
    (holds : sum.toNat = recentSum size history) (full : size - 1 < history.length)
    (positive : 0 < size) (oldest : old.toNat = history[size - 1])
    (fits : recentSum size (new.toNat :: history) < 2 ^ width) :
    (sum - old + new).toNat = recentSum size (new.toNat :: history) := by
  have rolls := recentSum_roll new.toNat full positive
  have present := oldest_le_recentSum full positive
  rw [toNat_sub_add (by rwa [holds, oldest]) (by omega)]
  omega

end HftPipeline.Std.RingWindow
