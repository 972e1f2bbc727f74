import Mathlib.Data.List.Basic

/-!
# Runs of which a part is seen

An observer sees a view of the state. When what is seen behind a step depends only on
what was seen before it, equal views stay equal over whole runs, and the items that
change nothing that is seen can be left out of a run.
-/

namespace HftPipeline.Std.Noninterference

variable {State Item Error : Type}

/-- What is seen behind a step depends only on what is seen before it. -/
def Respects (view : State → State) (step : State → Item → Except Error State) : Prop :=
  ∀ state item, (step (view state) item).map view = (step state item).map view

/-- Computations that agree in what is seen go on to agree, when what follows them does. -/
theorem map_bind_congr {view : State → State} {first second : Except Error State}
    (same : first.map view = second.map view) {run other : State → Except Error State}
    (runs : ∀ left right, view left = view right → (run left).map view = (other right).map view) :
    (first >>= run).map view = (second >>= other).map view := by
  cases first with
  | error stop =>
      cases second with
      | error stop' =>
          cases same
          rfl
      | ok after => cases same
  | ok next =>
      cases second with
      | error stop => cases same
      | ok after => exact runs next after (Except.ok.inj same)

variable {view : State → State} {step : State → Item → Except Error State}
  (respects : Respects view step)

include respects

theorem Respects.agree {first second : State} (same : view first = view second) (item : Item) :
    (step first item).map view = (step second item).map view := by
  rw [← respects first, same, respects second]

/-- Equal views stay equal. -/
theorem Respects.foldlM {first second : State} (same : view first = view second)
    (items : List Item) :
    (items.foldlM step first).map view = (items.foldlM step second).map view := by
  induction items generalizing first second with
  | nil => exact congrArg Except.ok same
  | cons item items ih =>
      rw [List.foldlM_cons, List.foldlM_cons]
      exact map_bind_congr (respects.agree same item) fun _ _ => ih

/-- Items that change nothing that is seen can be left out. -/
theorem Respects.foldlM_filter (Inv : State → Prop) {keep : Item → Bool} {items : List Item}
    (hidden : ∀ state, Inv state → ∀ item ∈ items, keep item = false →
      (step state item).map view = .ok (view state))
    (preserved : ∀ state, Inv state → ∀ item ∈ items, ∀ next, step state item = .ok next → Inv next)
    {state : State} (start : Inv state) :
    (items.foldlM step state).map view = ((items.filter keep).foldlM step state).map view := by
  induction items generalizing state with
  | nil => rfl
  | cons item items ih =>
      have later {next : State} (inv : Inv next) := ih
        (fun state inv other member => hidden state inv other (List.mem_cons_of_mem _ member))
        (fun state inv other member =>
          preserved state inv other (List.mem_cons_of_mem _ member)) inv
      cases kept : keep item with
      | true =>
          rw [List.filter_cons_of_pos kept, List.foldlM_cons, List.foldlM_cons]
          cases stepped : step state item with
          | error stop => rfl
          | ok next => exact later (preserved state start item List.mem_cons_self next stepped)
      | false =>
          have unseen := hidden state start item List.mem_cons_self kept
          rw [List.filter_cons_of_neg (by simp [kept]), List.foldlM_cons]
          cases stepped : step state item with
          | error stop =>
              rw [stepped] at unseen
              cases unseen
          | ok next =>
              rw [stepped] at unseen
              have inv := preserved state start item List.mem_cons_self next stepped
              exact (later inv).trans (respects.foldlM (Except.ok.inj unseen) _)

end HftPipeline.Std.Noninterference
