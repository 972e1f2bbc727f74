import Mathlib.Algebra.Order.BigOperators.Group.List
import Mathlib.Algebra.Order.Ring.Nat
import Mathlib.Data.List.Chain
import Mathlib.Data.Nat.Find

/-!
# Paced releases

A paced program reads a clock until the next deadline has passed, acts, and goes on to
the deadline after it. Whatever the clock shows, nothing is released early. How late a
release is depends on two things only: the step of the clock, and how late the release
before it was. A clock that steps finely enough therefore never lets lateness add up.
-/

namespace HftPipeline.Std.Pacing

variable {ticks : Nat → Nat} {between reading deadline ready grain : Nat}
  {deadlines readies : List Nat}

/-- The wait of a program: it reads the clock until a reading is not before the deadline,
and ends with the index of that reading, unless the fuel runs out. -/
def waitUntil (ticks : Nat → Nat) (deadline : Nat) : Nat → Nat → Option Nat
  | 0, _ => none
  | fuel + 1, reading =>
      if deadline ≤ ticks reading then some reading else waitUntil ticks deadline fuel (reading + 1)

/-- A wait that starts at a reading ends with the first one that is not before the deadline. -/
structure Waits (ticks : Nat → Nat) (deadline reading ready : Nat) : Prop where
  later : reading ≤ ready
  passed : deadline ≤ ticks ready
  first : ∀ earlier, reading ≤ earlier → earlier < ready → ticks earlier < deadline

theorem waits_of_waitUntil {fuel : Nat}
    (ended : waitUntil ticks deadline fuel reading = some ready) :
    Waits ticks deadline reading ready := by
  induction fuel generalizing reading with
  | zero => cases ended
  | succ fuel ih =>
      rw [waitUntil] at ended
      split_ifs at ended with passed
      · cases ended
        exact ⟨Nat.le_refl _, passed, fun earlier atLeast before => by omega⟩
      · obtain ⟨later, reached, first⟩ := ih ended
        refine ⟨by omega, reached, fun earlier atLeast before => ?_⟩
        by_cases here : earlier = reading
        · rw [here]
          omega
        · exact first earlier (by omega) before

/-- With enough fuel the wait ends. -/
theorem waitUntil_of_waits {fuel : Nat} (waits : Waits ticks deadline reading ready)
    (enough : ready < reading + fuel) : waitUntil ticks deadline fuel reading = some ready := by
  induction fuel generalizing reading with
  | zero =>
      have later := waits.later
      omega
  | succ fuel ih =>
      rw [waitUntil]
      by_cases passed : deadline ≤ ticks reading
      · have here : reading = ready := by
          by_contra differ
          have later := waits.later
          have before := waits.first reading (Nat.le_refl _) (by omega)
          omega
        rw [if_pos passed, here]
      · rw [if_neg passed]
        have behind : reading ≠ ready := fun here => passed (here ▸ waits.passed)
        have later := waits.later
        exact ih ⟨by omega, waits.passed, fun earlier atLeast => waits.first earlier (by omega)⟩
          (by omega)

/-- On a clock that passes every time a wait ends. -/
theorem exists_waits (passes : ∀ time reading, ∃ later ≥ reading, time ≤ ticks later)
    (deadline reading : Nat) : ∃ ready, Waits ticks deadline reading ready := by
  classical
  have reached : ∃ later, reading ≤ later ∧ deadline ≤ ticks later :=
    (passes deadline reading).imp fun _ found => found
  refine ⟨Nat.find reached, (Nat.find_spec reached).1, (Nat.find_spec reached).2, ?_⟩
  intro earlier atLeast before
  by_contra passed
  exact Nat.find_min reached before ⟨atLeast, by omega⟩

/-- The readings that release the deadlines, one after the other, with some further
readings of the clock behind each release. -/
inductive Released (ticks : Nat → Nat) (between : Nat) : Nat → List Nat → List Nat → Prop where
  | nil {reading : Nat} : Released ticks between reading [] []
  | cons {reading deadline ready : Nat} {deadlines readies : List Nat}
      (waits : Waits ticks deadline reading ready)
      (later : Released ticks between (ready + 1 + between) deadlines readies) :
      Released ticks between reading (deadline :: deadlines) (ready :: readies)

/-- On a clock that passes every time all deadlines are released. -/
theorem exists_released (passes : ∀ time reading, ∃ later ≥ reading, time ≤ ticks later)
    (between reading : Nat) (deadlines : List Nat) :
    ∃ readies, Released ticks between reading deadlines readies := by
  induction deadlines generalizing reading with
  | nil => exact ⟨[], .nil⟩
  | cons deadline deadlines ih =>
      obtain ⟨ready, waits⟩ := exists_waits passes deadline reading
      obtain ⟨readies, later⟩ := ih (ready + 1 + between)
      exact ⟨ready :: readies, .cons waits later⟩

namespace Released

/-- Nothing is released before its deadline. -/
theorem passed (released : Released ticks between reading deadlines readies) :
    List.Forall₂ (fun deadline ready => deadline ≤ ticks ready) deadlines readies := by
  induction released with
  | nil => exact .nil
  | cons waits _ ih => exact .cons waits.passed ih

/-- From any release on, its reading may stand for the start of its wait. -/
theorem drop (released : Released ticks between reading deadlines readies) {index : Nat}
    (at_ : readies[index]? = some ready) :
    Released ticks between ready (deadlines.drop index) (readies.drop index) := by
  induction released generalizing index with
  | nil => cases at_
  | cons waits later ih =>
      cases index with
      | zero =>
          cases at_
          exact .cons ⟨Nat.le_refl _, waits.passed, fun earlier atLeast before => by omega⟩ later
      | succ index => exact ih at_

/-- Before any time, no more is released than is due. -/
theorem countP_le (released : Released ticks between reading deadlines readies) (time : Nat) :
    readies.countP (fun ready => ticks ready < time) ≤
      deadlines.countP fun deadline => deadline < time := by
  induction released with
  | nil => exact Nat.le_refl _
  | @cons reading deadline ready deadlines readies waits _ ih =>
      have passed := waits.passed
      rw [List.countP_cons, List.countP_cons]
      by_cases before : ticks ready < time
      · have due : deadline < time := by omega
        simpa [before, due] using ih
      · simp only [before, decide_false, Bool.false_eq_true, if_false]
        omega

end Released

/-- Of deadlines in order, the last one of those before a time is before it. -/
theorem lt_of_countP (ordered : deadlines.Pairwise (· ≤ ·)) {time count : Nat}
    (counted : deadlines.countP (fun deadline => deadline < time) = count + 1)
    (at_ : deadlines[count]? = some deadline) : deadline < time := by
  induction deadlines generalizing count with
  | nil => cases at_
  | cons first deadlines ih =>
      rw [List.pairwise_cons] at ordered
      by_cases due : first < time
      · rw [List.countP_cons_of_pos (by simpa using due)] at counted
        cases count with
        | zero =>
            cases at_
            exact due
        | succ count => exact ih ordered.2 (by omega) at_
      · have none : (first :: deadlines).countP (fun deadline => deadline < time) = 0 := by
          rw [List.countP_eq_zero]
          intro other member
          rcases List.mem_cons.mp member with rfl | behind
          · simpa using due
          · have later := ordered.1 other behind
            simp only [decide_eq_true_eq]
            omega
        omega

/-- A clock that steps finely shows at most as many steps as there are readings. -/
theorem ticks_add_le (steps : ∀ later ≥ reading, ticks (later + 1) ≤ ticks later + grain)
    (count : Nat) : ticks (reading + count) ≤ ticks reading + count * grain := by
  induction count with
  | zero => simp
  | succ count ih =>
      have next := steps (reading + count) (by omega)
      rw [Nat.succ_mul, ← Nat.add_assoc]
      omega

/-- A release is late by at most one step of the clock, or the wait began late. -/
theorem Waits.late (steps : ∀ later ≥ reading, ticks (later + 1) ≤ ticks later + grain)
    (waits : Waits ticks deadline reading ready) :
    ticks ready ≤ max (ticks reading) (deadline + grain) := by
  have later := waits.later
  by_cases here : ready = reading
  · rw [here]
    exact Nat.le_max_left _ _
  · obtain ⟨before, rfl⟩ : ∃ before, ready = before + 1 := ⟨ready - 1, by omega⟩
    have early := waits.first before (by omega) (Nat.lt_succ_self _)
    have next := steps before (by omega)
    omega

/-- When the deadlines are at least a gap apart and the clock takes finer steps than the
gap from some reading on, every release takes back what the gap exceeds the steps by,
until no release is later than one step. -/
theorem Released.recovers (gap late : Nat)
    (steps : ∀ later ≥ reading, ticks (later + 1) ≤ ticks later + grain)
    (finer : (1 + between) * grain ≤ gap)
    (released : Released ticks between reading deadlines readies)
    (begins : ∀ deadline ∈ deadlines.head?, ticks reading ≤ deadline + late)
    (apart : deadlines.IsChain fun first second => first + gap ≤ second) {index : Nat}
    (due : deadlines[index]? = some deadline) (at_ : readies[index]? = some ready) :
    ticks ready ≤ deadline + max grain (late - index * (gap - (1 + between) * grain)) := by
  induction released generalizing index late with
  | nil => cases due
  | @cons reading first release deadlines readies waits rest ih =>
      have start := begins first rfl
      have onTime := waits.late steps
      cases index with
      | zero =>
          cases due
          cases at_
          omega
      | succ index =>
          have behind := waits.later
          have fine : ∀ later ≥ release, ticks (later + 1) ≤ ticks later + grain :=
            fun later atLeast => steps later (by omega)
          have soon := ticks_add_le fine (1 + between)
          -- What is left of the lateness when the next wait begins.
          have begun : ∀ second ∈ deadlines.head?, ticks (release + 1 + between) ≤
              second + (max grain late - (gap - (1 + between) * grain)) := by
            intro second next
            have distance := apart.rel_head? next
            rw [← Nat.add_assoc] at soon
            omega
          have found := ih _ (fun later atLeast => steps later (by omega)) begun apart.tail due at_
          rw [Nat.succ_mul]
          omega

section Loop

variable {State Item Out : Type} {fuel : Nat} {deadline : Item → Nat} {act : Item → Option Out}
  {step : State → Item → Option State} {readings : State → Nat} {sent : State → List (Out × Nat)}

/-- A loop waits for the deadline of each item, acts on it and keeps what comes of it with
the reading that released it; the fuel bounds each wait. -/
structure Loop (ticks : Nat → Nat) (between fuel : Nat) (deadline : Item → Nat)
    (act : Item → Option Out) (step : State → Item → Option State) (readings : State → Nat)
    (sent : State → List (Out × Nat)) : Prop where
  turn : ∀ state item after, step state item = some after →
    ∃ ready out, waitUntil ticks (deadline item) fuel (readings state) = some ready ∧
      act item = some out ∧ readings after = ready + 1 + between ∧
      sent after = sent state ++ [(out, ready)]
  goesOn : ∀ state item ready out,
    waitUntil ticks (deadline item) fuel (readings state) = some ready → act item = some out →
    ∃ after, step state item = some after ∧ readings after = ready + 1 + between

/-- A loop that ends has acted on every item in order, each behind its wait. -/
theorem Loop.sends (loop : Loop ticks between fuel deadline act step readings sent)
    {items : List Item} {state after : State} (ended : items.foldlM step state = some after) :
    ∃ outs, sent after = sent state ++ outs ∧
      List.Forall₂ (fun item out => act item = some out) items (outs.map Prod.fst) ∧
      Released ticks between (readings state) (items.map deadline) (outs.map Prod.snd) := by
  induction items generalizing state with
  | nil =>
      cases ended
      exact ⟨[], by simp, .nil, .nil⟩
  | cons item items ih =>
      rw [List.foldlM_cons, Option.bind_eq_bind, Option.bind_eq_some_iff] at ended
      obtain ⟨next, stepped, rest⟩ := ended
      obtain ⟨ready, out, waited, acted, read, kept⟩ := loop.turn state item next stepped
      obtain ⟨outs, whole, acts, later⟩ := ih rest
      rw [read] at later
      refine ⟨(out, ready) :: outs, by simp [whole, kept], .cons acted acts, ?_⟩
      exact .cons (waits_of_waitUntil waited) later

/-- With fuel for every reading that releases an item, a loop ends. -/
theorem Loop.ends (loop : Loop ticks between fuel deadline act step readings sent)
    {items : List Item} {state : State} (acts : ∀ item ∈ items, (act item).isSome)
    (released : Released ticks between (readings state) (items.map deadline) readies)
    (enough : ∀ ready ∈ readies, ready < fuel) : ∃ after, items.foldlM step state = some after := by
  induction items generalizing state readies with
  | nil => exact ⟨state, rfl⟩
  | cons item items ih =>
      obtain ⟨out, acted⟩ := Option.isSome_iff_exists.mp (acts item List.mem_cons_self)
      rw [List.map_cons] at released
      cases released with
      | @cons _ _ ready _ readies waits later =>
          have within : ready < readings state + fuel := by
            have bound := enough ready List.mem_cons_self
            omega
          obtain ⟨next, stepped, read⟩ :=
            loop.goesOn state item ready out (waitUntil_of_waits waits within) acted
          rw [← read] at later
          obtain ⟨after, rest⟩ :=
            ih (fun other member => acts other (List.mem_cons_of_mem _ member))
            later fun other member => enough other (List.mem_cons_of_mem _ member)
          exact ⟨after, by rw [List.foldlM_cons, stepped]; exact rest⟩

/-- On a clock that passes every time, a loop ends when it has enough fuel. -/
theorem exists_fuel (passes : ∀ time reading, ∃ later ≥ reading, time ≤ ticks later)
    (between reading : Nat) (deadlines : List Nat) :
    ∃ readies enough, Released ticks between reading deadlines readies ∧
      ∀ fuel ≥ enough, ∀ ready ∈ readies, ready < fuel := by
  obtain ⟨readies, released⟩ := exists_released passes between reading deadlines
  refine ⟨readies, readies.sum + 1, released, fun fuel more ready member => ?_⟩
  have bound := List.le_sum_of_mem member
  omega

end Loop

end HftPipeline.Std.Pacing
