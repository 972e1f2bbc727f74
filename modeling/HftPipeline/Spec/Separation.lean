import HftPipeline.Spec.Pipe

/-!
# Instruments do not see each other

Two sessions that receive the same control messages and quote numbers, and the
same quotes of one instrument, make the same decisions for that instrument.
Sequence numbers are shared: a quote of another instrument can be rejected or
make a later one rejected, so the numbers must agree for all of them.
-/

namespace HftPipeline.Spec

open HftPipeline.Rtl HftPipeline.Std

/-- The same message as far as one instrument can tell. -/
def AgreeOnMessage (slot : Slot) : Option Message → Option Message → Prop
  | none, none => True
  | some (.control left), some (.control right) => left = right
  | some (.quote left), some (.quote right) =>
      left.slot = right.slot ∧ left.seq = right.seq ∧ (left.slot = slot → left = right)
  | _, _ => False

/-- The same session as far as one instrument can tell. -/
structure AgreeOn (slot : Slot) (left right : Session) : Prop where
  active : left.active = right.active
  last : left.last = right.last
  book : left.books slot = right.books slot
  history : left.history slot = right.history slot

namespace AgreeOn

variable {slot : Slot} {left right : Session}

/-- Sessions that agree on a slot let the same sequence numbers through. -/
theorem forwards_eq (agree : AgreeOn slot left right) {first second : Quote}
    (seq : first.seq = second.seq) : left.forwards first = right.forwards second := by
  rw [Session.forwards, Session.forwards, agree.active, agree.last, seq]

/-- They make the same book of a quote of the slot. -/
theorem bookAfter_eq (agree : AgreeOn slot left right) {quote : Quote} (own : quote.slot = slot) :
    left.bookAfter quote = right.bookAfter quote := by
  rw [Session.bookAfter, Session.bookAfter, agree.forwards_eq rfl, own, agree.book]

/-- They take the same sample from a quote of the slot. -/
theorem sample_eq (agree : AgreeOn slot left right) {quote : Quote} (own : quote.slot = slot) :
    left.sample quote = right.sample quote := by
  rw [Session.sample, Session.sample, agree.bookAfter_eq own]

/-- They reach the same history with a sample of the slot. -/
theorem historyWith_eq (agree : AgreeOn slot left right) {sample : Sample}
    (own : sample.slot = slot) : left.historyWith sample = right.historyWith sample := by
  rw [Session.historyWith, Session.historyWith, own, agree.history]

end AgreeOn

/-- A quote of another instrument leaves the book and the history of this one. -/
theorem Session.next_other (session : Session) {quote : Quote} {slot : Slot}
    (other : quote.slot ≠ slot) :
    (session.next (some (.quote quote))).books slot = session.books slot ∧
      (session.next (some (.quote quote))).history slot = session.history slot := by
  simp only [Session.next]
  constructor
  · cases session.bookAfter quote with
    | none => rfl
    | some book => exact Function.update_of_ne (Ne.symm other) _ _
  · cases sampled : session.sample quote with
    | none => rfl
    | some sample =>
        have own : sample.slot = quote.slot := (Session.sample_eq_some.mp sampled).2.2.1
        exact Function.update_of_ne (own ▸ Ne.symm other) _ _

/-- Agreeing messages keep two sessions in agreement. -/
theorem AgreeOn.next {slot : Slot} {left right : Session} (agree : AgreeOn slot left right)
    {first second : Option Message} (same : AgreeOnMessage slot first second) :
    AgreeOn slot (left.next first) (right.next second) := by
  match first, second, same with
  | none, none, _ => exact agree
  | some (.control .start), some (.control _), rfl => exact ⟨rfl, rfl, rfl, rfl⟩
  | some (.control .stop), some (.control _), rfl =>
      exact ⟨rfl, agree.last, agree.book, agree.history⟩
  | some (.quote first), some (.quote second), ⟨slots, seq, equal⟩ =>
      have counts := agree.forwards_eq seq
      constructor
      · exact agree.active
      · simp only [Session.next, counts, seq, agree.last]
      · by_cases own : first.slot = slot
        · obtain rfl := equal own
          simp only [Session.next, agree.bookAfter_eq own]
          cases right.bookAfter first with
          | none => exact agree.book
          | some book => simp [own]
        · rw [(left.next_other own).1, (right.next_other (slots ▸ own)).1, agree.book]
      · by_cases own : first.slot = slot
        · obtain rfl := equal own
          simp only [Session.next, agree.sample_eq own]
          cases sampled : right.sample first with
          | none => exact agree.history
          | some sample =>
              have kept : sample.slot = slot :=
                (Session.sample_eq_some.mp sampled).2.2.1.trans own
              simp [kept, agree.historyWith_eq kept]
        · rw [(left.next_other own).2, (right.next_other (slots ▸ own)).2, agree.history]

/-- A decision is about the instrument of its quote. -/
theorem Session.slot_of_decision {weights : Weights} {session : Session} {quote : Quote}
    {decision : Decision}
    (decided : session.decision weights (some (.quote quote)) = some decision) :
    decision.slot = quote.slot := by
  obtain ⟨sample, sampled, -, rfl⟩ := Session.decision_eq_some.mp decided
  exact (Session.sample_eq_some.mp sampled).2.2.1

/-- Agreeing messages lead to the same decision for the instrument, or to none. -/
theorem AgreeOn.decision {slot : Slot} {left right : Session} (agree : AgreeOn slot left right)
    {first second : Option Message} (same : AgreeOnMessage slot first second) (weights : Weights)
    {decision : Decision} (own : decision.slot = slot)
    (decided : left.decision weights first = some decision) :
    right.decision weights second = some decision := by
  match first, second, same with
  | none, none, _ => cases decided
  | some (.control _), some (.control _), _ => cases decided
  | some (.quote first), some (.quote second), ⟨slots, seq, equal⟩ =>
      have kept : first.slot = slot := (Session.slot_of_decision decided).symm.trans own
      obtain rfl := equal kept
      obtain ⟨sample, sampled, warm, rfl⟩ := Session.decision_eq_some.mp decided
      rw [agree.historyWith_eq own] at warm ⊢
      rw [agree.sample_eq kept] at sampled
      exact Session.decision_eq_some.mpr ⟨sample, sampled, warm, rfl⟩

section Run

variable {slot : Slot} {left right : Nat → Option Message}

/-- Streams that agree on a slot lead to sessions that agree on it. -/
theorem agreeOn_sessionAt (same : ∀ n, AgreeOnMessage slot (left n) (right n)) (cycle : Nat) :
    AgreeOn slot (Pipe.sessionAt left cycle) (Pipe.sessionAt right cycle) :=
  Clocked.simulates (AgreeOn slot) (AgreeOnMessage slot) ⟨rfl, rfl, rfl, rfl⟩
    (fun _ _ _ _ agree same => agree.next same) same cycle

/-- Streams that agree on a slot have their control pulses in the same cycles. -/
theorem controlAt_eq (same : ∀ n, AgreeOnMessage slot (left n) (right n)) (cycle : Nat) :
    Pipe.controlAt left cycle = Pipe.controlAt right cycle := by
  have here := same cycle
  unfold Pipe.controlAt
  match left cycle, right cycle, here with
  | none, none, _ => rfl
  | some (.control _), some (.control _), rfl => rfl
  | some (.quote _), some (.quote _), _ => rfl

/-- Both runs lead to the same decisions for the instrument in the same cycles. -/
theorem decisionAt_agrees (same : ∀ n, AgreeOnMessage slot (left n) (right n)) (weights : Weights)
    (cycle : Nat) {decision : Decision} (own : decision.slot = slot)
    (decided : Pipe.decisionAt weights left cycle = some decision) :
    Pipe.decisionAt weights right cycle = some decision := by
  unfold Pipe.decisionAt at decided ⊢
  split_ifs at decided with quiet
  have quietRight : Pipe.Undisturbed right cycle := by
    simpa only [Pipe.Undisturbed, controlAt_eq same] using quiet
  rw [if_pos quietRight]
  exact (agreeOn_sessionAt same cycle).decision (same cycle) weights own decided

end Run

end HftPipeline.Spec
