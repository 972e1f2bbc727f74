import Mathlib.Data.List.Basic

/-!
# Loops that stop early

`runUntil` is a loop over a list that is left after the first step whose result is
stopped. When the items alone decide that, the loop reads the items up to and
including the first deciding one, which `takeThrough` collects.
-/

namespace HftPipeline.Std.EarlyExit

variable {State Item : Type}

/-- Step through the items until a step stops. -/
def runUntil (step : State → Item → State) (stopped : State → Bool) (state : State) :
    List Item → State
  | [] => state
  | item :: items =>
      if stopped (step state item) then step state item
      else runUntil step stopped (step state item) items

/-- The items up to and including the first that stops. -/
def takeThrough (stop : Item → Bool) : List Item → List Item
  | [] => []
  | item :: items => if stop item then [item] else item :: takeThrough stop items

variable {step : State → Item → State} {stopped : State → Bool} {stop : Item → Bool}

/-- A loop over mapped items maps each of them in its step. -/
theorem runUntil_map {Source : Type} (prepare : Source → Item) (state : State)
    (sources : List Source) : runUntil step stopped state (sources.map prepare) =
      runUntil (fun state source => step state (prepare source)) stopped state sources := by
  induction sources generalizing state with
  | nil => rfl
  | cons source sources ih => simp only [List.map_cons, runUntil, ih]

/-- Behind items that do not stop, the reading goes on. -/
theorem takeThrough_append (stop : Item → Bool) (front back : List Item) :
    takeThrough stop (front ++ back) =
      if front.any stop then takeThrough stop front else front ++ takeThrough stop back := by
  induction front with
  | nil => simp
  | cons item front ih =>
      cases ends : stop item with
      | true => simp [takeThrough, ends]
      | false =>
          cases later : front.any stop <;> simp [takeThrough, ends, ih, later]

theorem takeThrough_of_none {items : List Item} (none : items.any stop = false) :
    takeThrough stop items = items := by
  have whole := takeThrough_append stop items []
  simpa [none, takeThrough] using whole

/-- What is read contains a stopping item exactly when there is one. -/
theorem any_takeThrough (items : List Item) :
    (takeThrough stop items).any stop = items.any stop := by
  induction items with
  | nil => rfl
  | cons item items ih =>
      cases ends : stop item <;> simp [takeThrough, ends, ih]

/-- A stopping item that was read is the last one read. -/
theorem takeThrough_eq_snoc {items : List Item} (some : items.any stop = true) :
    ∃ front last, takeThrough stop items = front ++ [last] ∧ front.any stop = false ∧
      stop last = true := by
  induction items with
  | nil => simp at some
  | cons item items ih =>
      cases ends : stop item with
      | true => exact ⟨[], item, by simp [takeThrough, ends], rfl, ends⟩
      | false =>
          obtain ⟨front, last, read, none, halts⟩ := ih (by simpa [ends] using some)
          exact ⟨item :: front, last, by simp [takeThrough, ends, read],
            by simp [ends, none], halts⟩

theorem takeThrough_isPrefix (stop : Item → Bool) (items : List Item) :
    takeThrough stop items <+: items := by
  induction items with
  | nil => exact List.prefix_refl _
  | cons item items ih =>
      unfold takeThrough
      split_ifs
      · exact ⟨items, rfl⟩
      · exact (List.prefix_cons_inj item).mpr ih

end HftPipeline.Std.EarlyExit
