import Mathlib.Data.List.Range

/-!
# Runs of synchronous circuits

A circuit is the function from the registers and the inputs of one cycle to the
registers of the next. `stateAt` numbers cycles from the selected initial
registers. An invariant of one machine, and a relation between two that need not
have the same registers or inputs, carry over from one step to every cycle. `seen`
collects what a machine shows on the way.
-/

namespace HftPipeline.Std.Clocked

variable {State Model Input ModelInput Output : Type}

/-- The registers at the start of each cycle. -/
def stateAt (step : State → Input → State) (initial : State) (input : Nat → Input) : Nat → State
  | 0 => initial
  | cycle + 1 => step (stateAt step initial input cycle) (input cycle)

@[simp] theorem stateAt_zero (step : State → Input → State) (initial : State)
    (input : Nat → Input) : stateAt step initial input 0 = initial := rfl

theorem stateAt_succ (step : State → Input → State) (initial : State) (input : Nat → Input)
    (cycle : Nat) : stateAt step initial input (cycle + 1) =
      step (stateAt step initial input cycle) (input cycle) := rfl

/-- A run restarted at a later cycle is the rest of the original run. -/
theorem stateAt_add (step : State → Input → State) (initial : State) (input : Nat → Input)
    (start cycle : Nat) : stateAt step initial input (start + cycle) =
      stateAt step (stateAt step initial input start) (fun n => input (start + n)) cycle := by
  induction cycle with
  | zero => rfl
  | succ cycle ih => rw [← Nat.add_assoc, stateAt_succ, ih, stateAt_succ]

/-- A property of the registers that every step with an allowed input preserves holds
in every cycle. -/
theorem invariant {step : State → Input → State} {initial : State} (Inv : State → Prop)
    (Allowed : Input → Prop) (start : Inv initial)
    (preserved : ∀ state input, Inv state → Allowed input → Inv (step state input))
    {input : Nat → Input} (allowed : ∀ n, Allowed (input n)) (cycle : Nat) :
    Inv (stateAt step initial input cycle) := by
  induction cycle with
  | zero => exact start
  | succ cycle ih => exact preserved _ _ ih (allowed cycle)

/-- A relation to a second machine that steps with related inputs preserve holds in
every cycle. -/
theorem simulates {step : State → Input → State} {modelStep : Model → ModelInput → Model}
    {initial : State} {model : Model} (Rel : State → Model → Prop)
    (Same : Input → ModelInput → Prop) (start : Rel initial model)
    (preserved : ∀ state model input modelInput, Rel state model → Same input modelInput →
      Rel (step state input) (modelStep model modelInput))
    {input : Nat → Input} {modelInput : Nat → ModelInput}
    (same : ∀ n, Same (input n) (modelInput n)) (cycle : Nat) :
    Rel (stateAt step initial input cycle) (stateAt modelStep model modelInput cycle) := by
  induction cycle with
  | zero => exact start
  | succ cycle ih => exact preserved _ _ _ _ ih (same cycle)

/-- The values an optional observation shows in the cycles before a bound, in order. -/
def seen (observe : Nat → Option Output) (cycles : Nat) : List Output :=
  (List.range cycles).filterMap observe

@[simp] theorem seen_zero (observe : Nat → Option Output) : seen observe 0 = [] := rfl

theorem seen_succ (observe : Nat → Option Output) (cycles : Nat) :
    seen observe (cycles + 1) = seen observe cycles ++ (observe cycles).toList := by
  cases shown : observe cycles <;> simp [seen, List.range_succ, List.filterMap_append, shown]

/-- What has been seen only grows. -/
theorem seen_mono (observe : Nat → Option Output) {early late : Nat} (before : early ≤ late) :
    seen observe early <+: seen observe late := by
  induction before with
  | refl => exact List.prefix_refl _
  | step _ ih =>
      rw [seen_succ]
      exact ih.trans (List.prefix_append _ _)

/-- At most one value is seen in each cycle. -/
theorem length_seen_le (observe : Nat → Option Output) {early late : Nat} (before : early ≤ late) :
    (seen observe late).length ≤ (seen observe early).length + (late - early) := by
  induction before with
  | refl => simp
  | @step late before ih =>
      have ordered : early ≤ late := before
      have one : (observe late).toList.length ≤ 1 := by cases observe late <;> simp
      rw [seen_succ, List.length_append]
      omega

/-- An observation that is silent for `delay` cycles and then repeats another one
has seen, `delay` cycles later, what the other one has. -/
theorem seen_delayed {early late : Nat → Option Output} {delay : Nat}
    (silent : ∀ n, n < delay → late n = none) (repeats : ∀ n, late (n + delay) = early n)
    (cycles : Nat) : seen late (cycles + delay) = seen early cycles := by
  induction cycles with
  | zero =>
      have nothing : ∀ n, n ≤ delay → seen late n = [] := by
        intro n
        induction n with
        | zero => simp
        | succ n ih =>
            intro bound
            rw [seen_succ, ih (by omega), silent n (by omega)]
            rfl
      simpa using nothing delay (Nat.le_refl _)
  | succ cycles ih =>
      rw [Nat.add_right_comm, seen_succ, ih, repeats, seen_succ]

/-- What is seen through a partial function is the image of what is seen. -/
theorem seen_bind {Result : Type} (observe : Nat → Option Output) (view : Output → Option Result)
    (cycles : Nat) :
    seen (fun n => (observe n).bind view) cycles = (seen observe cycles).filterMap view := by
  unfold seen
  rw [List.filterMap_filterMap]

/-- Seeing through a view is viewing what was seen. -/
theorem seen_map {Result : Type} (observe : Nat → Option Output) (view : Output → Result)
    (cycles : Nat) :
    seen (fun n => (observe n).map view) cycles = (seen observe cycles).map view := by
  unfold seen
  rw [List.map_filterMap]

/-- Cycles without an observation add nothing. -/
theorem seen_of_silent {observe : Nat → Option Output} {early late : Nat} (before : early ≤ late)
    (silent : ∀ n, early ≤ n → n < late → observe n = none) :
    seen observe late = seen observe early := by
  induction before with
  | refl => rfl
  | @step late before ih =>
      have ordered : early ≤ late := before
      rw [seen_succ, silent late ordered (Nat.lt_succ_self late),
        ih fun n low high => silent n low (Nat.lt_succ_of_lt high)]
      simp

end HftPipeline.Std.Clocked
