import Mathlib.Data.List.Forall2
import Mathlib.Data.Option.Basic
import HftPipeline.Spec.Session

/-!
# Two markets side by side

Two sessions receive messages that are alike in some way. A way that is kept by the
books and by the samples made of them is kept by the sessions, and what it makes of the
decision of one sample it makes of the decisions of a run.
-/

namespace HftPipeline.Spec

open HftPipeline.Rtl HftPipeline.Std

/-- A way in which the quotes of two markets are alike, with what it makes of their books,
samples and midpoints. -/
structure Likeness where
  quote : Quote → Quote → Prop
  book : Slot → Book → Book → Prop
  sample : Sample → Sample → Prop
  midpoint2 : Slot → Nat → Nat → Prop
  quote_slot {first second : Quote} : quote first second → second.slot = first.slot
  quote_seq {first second : Quote} : quote first second → second.seq = first.seq
  book_empty (slot : Slot) : book slot Book.empty Book.empty
  book_apply {first second : Quote} {left right : Book} : quote first second →
    book first.slot left right →
      Option.Rel (book first.slot) (left.apply first) (right.apply second)
  book_sample {first second : Quote} {left right : Book} : quote first second →
    book first.slot left right → Option.Rel sample (left.sample first) (right.sample second)
  sample_slot {first second : Sample} : sample first second → second.slot = first.slot
  sample_midpoint2 {first second : Sample} : sample first second →
    midpoint2 first.slot first.midpoint2 second.midpoint2

/-- The same control message, or quotes that are alike. -/
inductive Message.Alike (quotes : Quote → Quote → Prop) : Message → Message → Prop where
  | control (pulse : Control) : Alike quotes (.control pulse) (.control pulse)
  | quote {first second : Quote} (alike : quotes first second) :
      Alike quotes (.quote first) (.quote second)

instance (quotes : Quote → Quote → Prop) [DecidableRel quotes] :
    ∀ first second, Decidable (Message.Alike quotes first second)
  | .control first, .control second =>
      decidable_of_iff (first = second) ⟨by rintro rfl; exact .control first, by rintro ⟨⟩; rfl⟩
  | .quote first, .quote second =>
      decidable_of_iff (quotes first second) ⟨.quote, fun | .quote alike => alike⟩
  | .control _, .quote _ => isFalse nofun
  | .quote _, .control _ => isFalse nofun

structure Session.Alike (likeness : Likeness) (left right : Session) : Prop where
  active : right.active = left.active
  last : right.last = left.last
  books : ∀ slot, likeness.book slot (left.books slot) (right.books slot)
  history : ∀ slot,
    List.Forall₂ (likeness.midpoint2 slot) (left.history slot) (right.history slot)

/-- What the decisions of samples that are alike have to do with each other, given that
their histories are alike and full. -/
def Likeness.Decides (likeness : Likeness) (weights : Weights)
    (decisions : Decision → Decision → Prop) : Prop :=
  ∀ ⦃first second : Sample⦄ ⦃left right : List Nat⦄, likeness.sample first second →
    List.Forall₂ (likeness.midpoint2 first.slot) left right → 32 ≤ left.length →
      decisions (weights.decide (first.features left)) (weights.decide (second.features right))

namespace Session.Alike

variable {likeness : Likeness} {left right : Session}

/-- The initial session is like itself. -/
theorem initial (likeness : Likeness) : Session.initial.Alike likeness Session.initial :=
  ⟨rfl, rfl, likeness.book_empty, fun _ => .nil⟩

section Quotes

variable {first second : Quote}

/-- Like sessions let like quotes through. -/
theorem forwards (alike : left.Alike likeness right) (quotes : likeness.quote first second) :
    right.forwards second = left.forwards first := by
  rw [Session.forwards, Session.forwards, alike.active, alike.last, likeness.quote_seq quotes]

/-- Like quotes make like books in like sessions. -/
theorem bookAfter (alike : left.Alike likeness right) (quotes : likeness.quote first second) :
    Option.Rel (likeness.book first.slot) (left.bookAfter first) (right.bookAfter second) := by
  rw [Session.bookAfter, Session.bookAfter, alike.forwards quotes, likeness.quote_slot quotes]
  split_ifs
  · exact likeness.book_apply quotes (alike.books first.slot)
  · exact .none

/-- Like quotes take like samples in like sessions. -/
theorem sample (alike : left.Alike likeness right) (quotes : likeness.quote first second) :
    Option.Rel likeness.sample (left.sample first) (right.sample second) := by
  have books := alike.bookAfter quotes
  rw [Session.sample, Session.sample]
  generalize left.bookAfter first = leftBook at books ⊢
  generalize right.bookAfter second = rightBook at books ⊢
  cases books with
  | none => exact .none
  | some books => exact likeness.book_sample quotes books

end Quotes

/-- Like samples leave like histories. -/
theorem historyWith (alike : left.Alike likeness right) {first second : Sample}
    (samples : likeness.sample first second) : List.Forall₂ (likeness.midpoint2 first.slot)
      (left.historyWith first) (right.historyWith second) := by
  rw [Session.historyWith, Session.historyWith, likeness.sample_slot samples]
  exact .cons (likeness.sample_midpoint2 samples) (alike.history first.slot)

/-- Messages that are alike keep two sessions alike. -/
theorem next (alike : left.Alike likeness right) {first second : Message}
    (messages : first.Alike likeness.quote second) :
    (left.next (some first)).Alike likeness (right.next (some second)) := by
  cases messages with
  | control pulse =>
      cases pulse with
      | start => exact ⟨rfl, rfl, likeness.book_empty, fun _ => .nil⟩
      | stop => exact ⟨rfl, alike.last, alike.books, alike.history⟩
  | @quote first second quotes =>
      constructor
      · exact alike.active
      · simp only [Session.next, alike.forwards quotes, alike.last, likeness.quote_seq quotes]
      · intro slot
        have books := alike.bookAfter quotes
        simp only [Session.next, likeness.quote_slot quotes]
        generalize left.bookAfter first = leftBook at books ⊢
        generalize right.bookAfter second = rightBook at books ⊢
        cases books with
        | none => exact alike.books slot
        | some book =>
            by_cases own : slot = first.slot
            · subst own
              simpa using book
            · simpa [own] using alike.books slot
      · intro slot
        have samples := alike.sample quotes
        simp only [Session.next]
        generalize left.sample first = leftSample at samples ⊢
        generalize right.sample second = rightSample at samples ⊢
        cases samples with
        | none => exact alike.history slot
        | @some leftSample rightSample sample =>
            have grown := alike.historyWith sample
            simp only [likeness.sample_slot sample]
            by_cases own : slot = leftSample.slot
            · subst own
              simpa using grown
            · simpa [own] using alike.history slot

variable {weights : Weights} {made : Decision → Decision → Prop}

/-- Messages that are alike trigger decisions both or neither. -/
theorem decision (alike : left.Alike likeness right) (decides : likeness.Decides weights made)
    {first second : Message} (messages : first.Alike likeness.quote second) :
    Option.Rel made (left.decision weights (some first))
      (right.decision weights (some second)) := by
  cases messages with
  | control pulse => cases pulse <;> exact .none
  | @quote first second quotes =>
      have samples := alike.sample quotes
      simp only [Session.decision]
      generalize left.sample first = leftSample at samples ⊢
      generalize right.sample second = rightSample at samples ⊢
      cases samples with
      | none => exact .none
      | @some leftSample rightSample sample =>
          have histories := alike.historyWith sample
          simp only [Option.bind_some, ← histories.length_eq]
          split_ifs with warm
          · exact .some (decides sample histories warm)
          · exact .none

/-- What holds of the decisions of one sample holds all along a run. -/
theorem decisions (alike : left.Alike likeness right) (decides : likeness.Decides weights made)
    {first second : List Message}
    (messages : List.Forall₂ (Message.Alike likeness.quote) first second) :
    List.Forall₂ made (left.decisions weights first) (right.decisions weights second) := by
  induction messages generalizing left right with
  | nil => exact .nil
  | @cons leftMessage rightMessage _ _ head _ ih =>
      have later := ih (alike.next head)
      have now := alike.decision decides head
      rw [Session.decisions, Session.decisions]
      generalize left.decision weights (some leftMessage) = leftDecision at now ⊢
      generalize right.decision weights (some rightMessage) = rightDecision at now ⊢
      cases now with
      | none => exact later
      | some decided => exact .cons decided later

end Session.Alike

end HftPipeline.Spec
