import HftPipeline.Std.Clocked

/-!
# Registers with a clear and a write enable

In every cycle such a register keeps what it holds, is cleared or is written. It
then holds the last value written since it was last cleared.
-/

namespace HftPipeline.Std.Register

/-- What one cycle does to a register. -/
inductive Event (α : Type) where
  | keep
  | clear
  | write (value : α)
deriving DecidableEq

variable {α : Type}

def Event.apply (held : Option α) : Event α → Option α
  | keep => held
  | clear => none
  | write value => some value

/-- The contents at the start of each cycle of a register that starts out clear. -/
def held (event : Nat → Event α) (cycle : Nat) : Option α :=
  Clocked.stateAt Event.apply none event cycle

variable (event : Nat → Event α)

@[simp] theorem held_zero : held event 0 = none := rfl

theorem held_succ (cycle : Nat) :
    held event (cycle + 1) = (event cycle).apply (held event cycle) := rfl

/-- A register holds a value when some cycle wrote it and all cycles since have kept it. -/
theorem held_eq_some_iff (cycle : Nat) (value : α) : held event cycle = some value ↔
    ∃ n, n < cycle ∧ event n = .write value ∧ ∀ m, n < m → m < cycle → event m = .keep := by
  induction cycle with
  | zero => simp
  | succ cycle ih =>
      rw [held_succ]
      constructor
      · intro holds
        cases latest : event cycle with
        | keep =>
            obtain ⟨n, before, written, kept⟩ := ih.mp (by rwa [latest] at holds)
            refine ⟨n, by omega, written, fun m after bound => ?_⟩
            rcases Nat.lt_succ_iff_lt_or_eq.mp bound with earlier | rfl
            · exact kept m after earlier
            · exact latest
        | clear => simp [latest, Event.apply] at holds
        | write last =>
            have same : last = value := by simpa [latest, Event.apply] using holds
            subst same
            exact ⟨cycle, Nat.lt_succ_self cycle, latest, fun m after bound => by omega⟩
      · rintro ⟨n, bound, written, kept⟩
        rcases Nat.lt_succ_iff_lt_or_eq.mp bound with before | rfl
        · rw [kept cycle before (Nat.lt_succ_self cycle)]
          exact ih.mpr ⟨n, before, written, fun m after earlier => kept m after (by omega)⟩
        · rw [written]
          rfl

end HftPipeline.Std.Register
