import HftPipeline.Spec.Pipe

/-!
# Quotes that never complete a book

When every quote of an instrument is for the same side, no book ever has both
sides, so no sample, no features and no decision exist anywhere in the pipeline.
-/

namespace HftPipeline.Spec

open HftPipeline.Rtl HftPipeline.Std

variable {sideOf : Slot → BitVec 8}

/-- A book that only quotes of one side have reached. -/
def Book.OnlySide (side : BitVec 8) (book : Book) : Prop :=
  (side ≠ 0#8 → book.bid = none) ∧ (side ≠ 1#8 → book.ask = none)

/-- The empty book is on either side alone. -/
theorem Book.OnlySide.empty (side : BitVec 8) : Book.empty.OnlySide side :=
  ⟨fun _ => rfl, fun _ => rfl⟩

/-- Quotes of one side keep a book on it. -/
theorem Book.OnlySide.apply {book after : Book} {quote : Quote} (only : book.OnlySide quote.side)
    (applied : book.apply quote = some after) : after.OnlySide quote.side := by
  unfold Book.apply at applied
  split_ifs at applied with isBid isAsk
  · cases applied
    exact ⟨fun notBid => absurd isBid notBid, only.2⟩
  · cases applied
    exact ⟨only.1, fun notAsk => absurd isAsk notAsk⟩

/-- A book on one side alone lacks a bid or an ask. -/
theorem Book.OnlySide.not_both {side : BitVec 8} {book : Book} (only : book.OnlySide side) :
    book.bid = none ∨ book.ask = none := by
  by_cases isBid : side = 0#8
  · right
    exact only.2 (by rw [isBid]; decide)
  · exact Or.inl (only.1 isBid)

/-- A book on one side alone gives no sample. -/
theorem Book.OnlySide.sample_eq_none {side : BitVec 8} {book : Book} (only : book.OnlySide side)
    (quote : Quote) : book.sample quote = none := by
  unfold Book.sample
  rcases only.not_both with bid | ask
  · rw [bid]
  · rw [ask]
    cases book.bid <;> rfl

/-- A message whose quote is for the side of its instrument. -/
def KeepsSide (sideOf : Slot → BitVec 8) (message : Option Message) : Prop :=
  ∀ quote, message = some (.quote quote) → quote.side = sideOf quote.slot

namespace Pipe

/-- Nothing in the pipeline is two-sided, and nothing follows the books. -/
structure OneSided (sideOf : Slot → BitVec 8) (pipe : Pipe) : Prop where
  quote : ∀ quote, pipe.quote = some quote → quote.side = sideOf quote.slot
  tracked : ∀ quote, pipe.tracked = some quote → quote.side = sideOf quote.slot
  books : ∀ slot, (pipe.books slot).OnlySide (sideOf slot)
  sample : pipe.sample = none
  pending : pipe.pending = none
  feature : pipe.feature = none
  weighed : pipe.weighed = none
  scored : pipe.scored = none
  signal : pipe.signal = none

/-- The empty pipe is one-sided. -/
theorem OneSided.initial : OneSided sideOf initial where
  quote := by rintro quote ⟨⟩
  tracked := by rintro quote ⟨⟩
  books := fun slot => Book.OnlySide.empty (sideOf slot)
  sample := rfl
  pending := rfl
  feature := rfl
  weighed := rfl
  scored := rfl
  signal := rfl

/-- The tracked quote leaves its book with the side of its instrument only. -/
theorem OneSided.applied {pipe : Pipe} (oneSided : OneSided sideOf pipe) {quote : Quote}
    (tracked : pipe.tracked = some quote) {book : Book}
    (applied : (pipe.books quote.slot).apply quote = some book) : book.OnlySide quote.side := by
  have only := oneSided.books quote.slot
  rw [← oneSided.tracked quote tracked] at only
  exact only.apply applied

/-- Quotes that keep to the sides keep the pipe one-sided. -/
theorem OneSided.next {pipe : Pipe} (oneSided : OneSided sideOf pipe) (weights : Weights)
    {message : Option Message} (keeps : KeepsSide sideOf message) :
    OneSided sideOf (pipe.next weights message) where
  quote := by
    intro quote held
    simp only [Pipe.next] at held
    split at held
    · split_ifs at held
      cases held
      exact keeps quote rfl
    · cases held
  tracked := by
    intro quote held
    simp only [Pipe.next, track] at held
    cases pulse : pipe.pulse with
    | some control => simp [pulse] at held
    | none =>
        rw [pulse] at held
        exact oneSided.quote quote (Option.filter_eq_some_iff.mp held).1
  books := by
    intro slot
    simp only [Pipe.next, storeBooks]
    rcases pulse : pipe.pulse with _ | _ | _
    · cases tracked : pipe.tracked with
      | none => exact oneSided.books slot
      | some quote =>
          cases applied : (pipe.books quote.slot).apply quote with
          | none => simpa [applied] using oneSided.books slot
          | some book =>
              simp only [applied]
              by_cases same : slot = quote.slot
              · subst same
                rw [Function.update_self, ← oneSided.tracked quote tracked]
                exact oneSided.applied tracked applied
              · rw [Function.update_of_ne same]
                exact oneSided.books slot
    · exact Book.OnlySide.empty (sideOf slot)
    · exact oneSided.books slot
  sample := by
    simp only [Pipe.next, publish]
    cases pipe.pulse with
    | some control => rfl
    | none =>
        cases tracked : pipe.tracked with
        | none => rfl
        | some quote =>
            cases applied : (pipe.books quote.slot).apply quote with
            | none => simp [applied]
            | some book =>
                simpa [applied] using (oneSided.applied tracked applied).sample_eq_none quote
  pending := by simp [Pipe.next, oneSided.sample]
  feature := by simp [Pipe.next, oneSided.pending]
  weighed := by simp [Pipe.next, oneSided.feature]
  scored := oneSided.weighed
  signal := oneSided.scored

/-- A run whose quotes keep to the sides of their instruments never decides. -/
theorem oneSided_run {message : Nat → Option Message} (weights : Weights)
    (keeps : ∀ n, KeepsSide sideOf (message n)) (cycle : Nat) :
    OneSided sideOf (run weights message cycle) :=
  Clocked.invariant (OneSided sideOf) (KeepsSide sideOf) OneSided.initial
    (fun _ _ oneSided keeps => oneSided.next weights keeps) keeps cycle

end Pipe

end HftPipeline.Spec
