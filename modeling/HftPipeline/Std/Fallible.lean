import Mathlib.Data.List.Basic
import Mathlib.Data.List.Forall2

/-!
# Runs that may stop with an error

A program step that may fail follows an abstract step when it either keeps the
relation to it or stops with a tolerated error. Its runs then follow the abstract
runs, and no other error occurs.
-/

namespace HftPipeline.Std.Fallible

variable {State Model Item Error : Type}

/-- The program's step follows the abstract one from related states. -/
def Follows (Rel : Model → State → Prop) (Tolerated : Item → Error → Prop)
    (step : State → Item → Except Error State) (next : Model → Item → Model) : Prop :=
  ∀ model state item, Rel model state →
    (∃ after, step state item = .ok after ∧ Rel (next model item) after) ∨
      ∃ error, step state item = .error error ∧ Tolerated item error

variable {Rel : Model → State → Prop} {Tolerated : Item → Error → Prop}
  {step : State → Item → Except Error State} {next : Model → Item → Model}

/-- A run follows the abstract run, or stops at an item with an error tolerated there. -/
theorem Follows.foldlM (follows : Follows Rel Tolerated step next) {model : Model} {state : State}
    (related : Rel model state) (items : List Item) :
    (∃ after, items.foldlM step state = .ok after ∧ Rel (items.foldl next model) after) ∨
      ∃ item ∈ items, ∃ error, items.foldlM step state = .error error ∧ Tolerated item error := by
  induction items generalizing model state with
  | nil => exact Or.inl ⟨state, rfl, related⟩
  | cons item items ih =>
      rcases follows model state item related with ⟨after, stepped, kept⟩ | ⟨error, failed, fits⟩
      · have later := ih kept
        simp only [List.foldlM_cons, stepped, List.foldl_cons]
        rcases later with done | ⟨other, member, error, failed, fits⟩
        · exact Or.inl done
        · exact Or.inr ⟨other, List.mem_cons_of_mem _ member, error, failed, fits⟩
      · refine Or.inr ⟨item, List.mem_cons_self, error, ?_, fits⟩
        simp only [List.foldlM_cons, failed]
        rfl

/-- A change of the state that every step commutes with commutes with the run. -/
theorem foldlM_map {change : State → State}
    (commutes : ∀ state item, step (change state) item = (step state item).map change)
    (state : State) (items : List Item) :
    items.foldlM step (change state) = (items.foldlM step state).map change := by
  induction items generalizing state with
  | nil => rfl
  | cons item items ih =>
      rw [List.foldlM_cons, List.foldlM_cons, commutes]
      cases step state item with
      | error error => rfl
      | ok next => exact ih next

/-- A state that no step changes is that of the whole run. -/
theorem foldlM_fixed {state : State} {items : List Item}
    (fixed : ∀ item ∈ items, step state item = .ok state) :
    items.foldlM step state = .ok state := by
  induction items with
  | nil => rfl
  | cons item items ih =>
      rw [List.foldlM_cons, fixed item List.mem_cons_self]
      exact ih fun other member => fixed other (List.mem_cons_of_mem _ member)

section Optional

variable {Result : Type} {action : Item → Option Result} {items : List Item}
  {results : List Result}

/-- An action done on every item has a result for each of them. -/
theorem mapM_eq_some_iff : items.mapM action = some results ↔
    List.Forall₂ (fun item result => action item = some result) items results := by
  induction items generalizing results with
  | nil =>
      cases results with
      | nil => simp
      | cons => simp
  | cons item items ih =>
      simp only [List.mapM_cons, Option.bind_eq_bind, Option.pure_def, Option.bind_eq_some_iff,
        Option.some.injEq, List.forall₂_cons_left_iff]
      constructor
      · rintro ⟨result, acted, others, rest, rfl⟩
        exact ⟨result, others, acted, ih.mp rest, rfl⟩
      · rintro ⟨result, others, acted, rest, rfl⟩
        exact ⟨result, acted, others, ih.mpr rest, rfl⟩

theorem exists_mapM (acts : ∀ item ∈ items, ∃ result, action item = some result) :
    ∃ results, items.mapM action = some results := by
  induction items with
  | nil => exact ⟨[], rfl⟩
  | cons item items ih =>
      obtain ⟨result, acted⟩ := acts item List.mem_cons_self
      obtain ⟨results, rest⟩ := ih fun other member => acts other (List.mem_cons_of_mem _ member)
      exact ⟨result :: results, by simp [List.mapM_cons, acted, rest]⟩

end Optional

end HftPipeline.Std.Fallible
