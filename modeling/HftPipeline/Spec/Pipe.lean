import HftPipeline.Spec.Session
import HftPipeline.Std.Clocked

/-!
# The session as a pipeline

`Pipe` is the session spread over eight clocked stages, with every in-flight
item an option and every window a list. Control messages overtake quotes: one
cycle after a message its pulse reaches the tracker, the books and the windows
together, while the quotes before it are still on their way. `signal_at` says
which decisions survive that.
-/

namespace HftPipeline.Spec

open HftPipeline.Rtl HftPipeline.Std

structure Pipe where
  active : Bool
  pulse : Option Control
  quote : Option Quote
  last : Option (BitVec 32)
  tracked : Option Quote
  books : Slot → Book
  sample : Option Sample
  history : Slot → List Nat
  pending : Option Sample
  feature : Option Features
  weighed : Option Decision
  scored : Option Decision
  signal : Option Decision

namespace Pipe

/-! Each stage is a function of the pulse, of its input and of what it stores. -/

def trackLast (pulse : Option Control) (quote : Option Quote) (last : Option (BitVec 32)) :
    Option (BitVec 32) :=
  match pulse, quote with
  | some _, _ => none
  | none, none => last
  | none, some quote => if admits last quote.seq then some quote.seq else last

def track (pulse : Option Control) (quote : Option Quote) (last : Option (BitVec 32)) :
    Option Quote :=
  match pulse with
  | some _ => none
  | none => quote.filter fun quote => admits last quote.seq

def storeBooks (pulse : Option Control) (tracked : Option Quote) (books : Slot → Book) :
    Slot → Book :=
  match pulse, tracked with
  | some .start, _ => fun _ => .empty
  | some .stop, _ => books
  | none, none => books
  | none, some quote =>
      match (books quote.slot).apply quote with
      | some book => Function.update books quote.slot book
      | none => books

def publish (pulse : Option Control) (tracked : Option Quote) (books : Slot → Book) :
    Option Sample :=
  match pulse with
  | some _ => none
  | none => tracked.bind fun quote =>
      ((books quote.slot).apply quote).bind fun book => book.sample quote

def storeHistory (pulse : Option Control) (sample : Option Sample) (history : Slot → List Nat) :
    Slot → List Nat :=
  match pulse, sample with
  | some .start, _ => fun _ => []
  | some .stop, _ => history
  | none, none => history
  | none, some sample =>
      Function.update history sample.slot (sample.midpoint2 :: history sample.slot)

def calculate (pulse : Option Control) (sample : Option Sample) (history : Slot → List Nat) :
    Option Sample :=
  match pulse with
  | some _ => none
  | none => sample.filter fun sample => 32 ≤ (history sample.slot).length + 1

def extract (pulse : Option Control) (pending : Option Sample) (history : Slot → List Nat) :
    Option Features :=
  match pulse with
  | some _ => none
  | none => pending.map fun sample => sample.features (history sample.slot)

/-! An empty stage leaves the next one empty, pulse or not. -/

/-- Without a tracked quote no book is sampled. -/
@[simp] theorem publish_none (pulse : Option Control) (books : Slot → Book) :
    publish pulse none books = none := by
  cases pulse <;> rfl

/-- Without a sample no quote is kept for the features. -/
@[simp] theorem calculate_none (pulse : Option Control) (history : Slot → List Nat) :
    calculate pulse none history = none := by
  cases pulse <;> rfl

/-- Without a kept sample no features are extracted. -/
@[simp] theorem extract_none (pulse : Option Control) (history : Slot → List Nat) :
    extract pulse none history = none := by
  cases pulse <;> rfl

/-- One clock of the pipeline. -/
def next (weights : Weights) (pipe : Pipe) (message : Option Message) : Pipe where
  active := match message with
    | some (.control control) => control = .start
    | _ => pipe.active
  pulse := match message with
    | some (.control control) => some control
    | _ => none
  quote := match message with
    | some (.quote quote) => if pipe.active then some quote else none
    | _ => none
  last := trackLast pipe.pulse pipe.quote pipe.last
  tracked := track pipe.pulse pipe.quote pipe.last
  books := storeBooks pipe.pulse pipe.tracked pipe.books
  sample := publish pipe.pulse pipe.tracked pipe.books
  history := storeHistory pipe.pulse pipe.sample pipe.history
  pending := calculate pipe.pulse pipe.sample pipe.history
  feature := extract pipe.pulse pipe.pending pipe.history
  weighed := pipe.feature.map weights.decide
  scored := pipe.weighed
  signal := pipe.scored

/-- The pipeline after reset. -/
def initial : Pipe where
  active := false
  pulse := none
  quote := none
  last := none
  tracked := none
  books := fun _ => .empty
  sample := none
  history := fun _ => []
  pending := none
  feature := none
  weighed := none
  scored := none
  signal := none

section Run

variable (weights : Weights) (message : Nat → Option Message)

/-- The pipeline in every cycle after reset. -/
def run (cycle : Nat) : Pipe := Clocked.stateAt (Pipe.next weights) initial message cycle

/-- The sequential session after the messages of the cycles before one. -/
def sessionAt (cycle : Nat) : Session := Clocked.stateAt Session.next Session.initial message cycle

/-- A control message is accepted in a cycle. -/
def controlAt (cycle : Nat) : Option Control :=
  match message cycle with
  | some (.control control) => some control
  | _ => none

/-- The quote that a cycle forwards to the books. -/
def forwardedAt (cycle : Nat) : Option Quote :=
  match message cycle with
  | some (.quote quote) => if (sessionAt message cycle).forwards quote then some quote else none
  | _ => none

/-- The sample that a cycle adds. -/
def sampleAt (cycle : Nat) : Option Sample :=
  (forwardedAt message cycle).bind fun quote => (sessionAt message cycle).sample quote

/-- The session takes one message a cycle. -/
theorem sessionAt_succ (cycle : Nat) :
    sessionAt message (cycle + 1) = (sessionAt message cycle).next (message cycle) := rfl

/-- The pipe is active exactly when the session of its messages is. -/
theorem active_run (cycle : Nat) :
    (run weights message cycle).active = (sessionAt message cycle).active := by
  apply Clocked.simulates (fun (pipe : Pipe) (session : Session) => pipe.active = session.active) Eq
  · rfl
  · rintro pipe session message _ same rfl
    rcases message with _ | ⟨_ | _⟩ | quote <;> simp [Pipe.next, Session.next, same]
  · exact fun _ => rfl

/-- A control pulse comes from a control message of the same cycle. -/
theorem controlAt_eq_some {cycle : Nat} {control : Control}
    (controlled : controlAt message cycle = some control) :
    message cycle = some (.control control) := by
  unfold controlAt at controlled
  split at controlled
  · rename_i held
    rw [held, Option.some.inj controlled]
  · cases controlled

/-- A control message leaves the session active only by starting it. -/
theorem active_of_control {cycle : Nat} {control : Control}
    (controlled : controlAt message cycle = some control) :
    (sessionAt message (cycle + 1)).active = true ↔ control = .start := by
  rw [sessionAt_succ, controlAt_eq_some message controlled]
  cases control <;> simp [Session.next]

/-- Every other message leaves the session as active as it was. -/
theorem active_of_quiet {cycle : Nat} (quiet : controlAt message cycle = none) :
    (sessionAt message (cycle + 1)).active = (sessionAt message cycle).active := by
  rw [sessionAt_succ]
  unfold controlAt at quiet
  split at quiet
  · cases quiet
  · rename_i other
    cases held : message cycle with
    | none => rfl
    | some content =>
        cases content with
        | control control => exact absurd held (other control)
        | quote quote => rfl

/-- A START opens a fresh session whatever came before it. -/
theorem session_of_start {cycle : Nat} (started : controlAt message cycle = some .start) :
    sessionAt message (cycle + 1) = { Session.initial with active := true } := by
  rw [sessionAt_succ, controlAt_eq_some message started]
  rfl

/-- The filter passes on the quotes of an active session, one cycle late. -/
theorem quote_run (cycle : Nat) : (run weights message (cycle + 1)).quote =
    match message cycle with
      | some (.quote quote) => if (sessionAt message cycle).active then some quote else none
      | _ => none := by
  rw [← active_run weights message cycle]
  rfl

/-- While the session is active, the tracker holds its last admitted number, one
cycle late. -/
theorem last_run (cycle : Nat) (active : (sessionAt message cycle).active = true) :
    (run weights message (cycle + 1)).last = (sessionAt message cycle).last := by
  induction cycle with
  | zero => simp [sessionAt, Session.initial] at active
  | succ cycle ih =>
      have step : (run weights message (cycle + 1 + 1)).last =
          trackLast (controlAt message cycle) (run weights message (cycle + 1)).quote
            (run weights message (cycle + 1)).last := rfl
      cases controlled : controlAt message cycle with
      | some control =>
          have started := (active_of_control message controlled).mp active
          subst started
          rw [step, controlled, session_of_start message controlled]
          rfl
      | none =>
          rw [active_of_quiet message controlled] at active
          rw [step, controlled, quote_run, ih active, sessionAt_succ]
          cases held : message cycle with
          | none => rfl
          | some content =>
              cases content with
              | control control => simp [controlAt, held] at controlled
              | quote quote => simp [trackLast, Session.next, Session.forwards, active]

/-- The tracker forwards, two cycles after its packet, exactly the quote that counts. -/
theorem tracked_run (cycle : Nat) :
    (run weights message (cycle + 2)).tracked = forwardedAt message cycle := by
  have step : (run weights message (cycle + 2)).tracked =
      track (controlAt message cycle) (run weights message (cycle + 1)).quote
        (run weights message (cycle + 1)).last := rfl
  rw [step, quote_run, forwardedAt]
  cases held : message cycle with
  | none => simp [controlAt, held, track]
  | some content =>
      cases content with
      | control control => simp [controlAt, held, track]
      | quote quote =>
          cases active : (sessionAt message cycle).active with
          | false => simp [controlAt, held, track, Session.forwards, active]
          | true =>
              simp [controlAt, held, track, Session.forwards, active,
                last_run weights message cycle active, Option.filter]

/-- A forwarded quote is the message of its cycle and the session lets it through. -/
theorem forwardedAt_eq_some {cycle : Nat} {quote : Quote}
    (forwarded : forwardedAt message cycle = some quote) :
    message cycle = some (.quote quote) ∧ (sessionAt message cycle).forwards quote = true := by
  unfold forwardedAt at forwarded
  split at forwarded
  · rename_i other held
    split at forwarded
    · rename_i counts
      cases forwarded
      exact ⟨held, counts⟩
    · cases forwarded
  · cases forwarded

/-- A cycle that forwards a quote has no control pulse. -/
theorem controlAt_of_forwarded {cycle : Nat} {quote : Quote}
    (forwarded : forwardedAt message cycle = some quote) : controlAt message cycle = none := by
  simp [controlAt, (forwardedAt_eq_some message forwarded).1]

/-- A quiet cycle changes the books exactly by the quote it forwards. -/
theorem books_of_quiet {cycle : Nat} (quiet : controlAt message cycle = none) :
    (sessionAt message (cycle + 1)).books =
      storeBooks none (forwardedAt message cycle) (sessionAt message cycle).books := by
  rw [sessionAt_succ, forwardedAt]
  cases held : message cycle with
  | none => rfl
  | some content =>
      cases content with
      | control control => simp [controlAt, held] at quiet
      | quote quote =>
          by_cases counts : (sessionAt message cycle).forwards quote = true
          · cases applied : ((sessionAt message cycle).books quote.slot).apply quote with
            | none => simp [Session.next, Session.bookAfter, counts, storeBooks, applied]
            | some book => simp [Session.next, Session.bookAfter, counts, storeBooks, applied]
          · simp [Session.next, Session.bookAfter, counts, storeBooks]

/-- While the session is active, the stored books follow it two cycles late, except
that a start clears them one cycle early. -/
theorem books_run (cycle : Nat) (active : (sessionAt message (cycle + 1)).active = true) :
    (run weights message (cycle + 2)).books =
      if controlAt message cycle = some .start then fun _ => .empty
      else (sessionAt message cycle).books := by
  induction cycle with
  | zero =>
      have step : (run weights message 2).books = storeBooks (controlAt message 0) none
          (fun _ => .empty) := rfl
      rw [step]
      rcases controlAt message 0 with _ | _ | _ <;> rfl
  | succ cycle ih =>
      have step : (run weights message (cycle + 1 + 2)).books =
          storeBooks (controlAt message (cycle + 1)) (run weights message (cycle + 2)).tracked
            (run weights message (cycle + 2)).books := rfl
      rw [step, tracked_run]
      cases controlled : controlAt message (cycle + 1) with
      | some control =>
          have started := (active_of_control message controlled).mp active
          subst started
          simp [storeBooks]
      | none =>
          rw [active_of_quiet message controlled] at active
          rw [ih active]
          by_cases started : controlAt message cycle = some .start
          · have none_forwarded : forwardedAt message cycle = none := by
              cases forwarded : forwardedAt message cycle with
              | none => rfl
              | some quote => simp [controlAt_of_forwarded message forwarded] at started
            rw [if_pos started, none_forwarded, session_of_start message started]
            rfl
          · have quiet : controlAt message cycle = none := by
              cases controlled : controlAt message cycle with
              | none => rfl
              | some control =>
                  exact absurd (controlled.trans (congrArg some
                    ((active_of_control message controlled).mp active))) started
            simp [books_of_quiet message quiet, quiet]

/-- An active session was started by the last message or kept active by it. -/
theorem quiet_or_started {cycle : Nat} (active : (sessionAt message (cycle + 1)).active = true) :
    controlAt message cycle = none ∨ controlAt message cycle = some .start := by
  cases controlled : controlAt message cycle with
  | none => exact Or.inl rfl
  | some control => exact Or.inr (congrArg some ((active_of_control message controlled).mp active))

/-- A sample comes from the quote forwarded in its cycle. -/
theorem sampleAt_eq_some {cycle : Nat} {sample : Sample}
    (sampled : sampleAt message cycle = some sample) :
    ∃ quote, forwardedAt message cycle = some quote ∧
      (sessionAt message cycle).sample quote = some sample := by
  unfold sampleAt at sampled
  exact Option.bind_eq_some_iff.mp sampled

/-- A cycle that takes a sample has no control pulse. -/
theorem controlAt_of_sampled {cycle : Nat} {sample : Sample}
    (sampled : sampleAt message cycle = some sample) : controlAt message cycle = none := by
  obtain ⟨quote, forwarded, -⟩ := sampleAt_eq_some message sampled
  exact controlAt_of_forwarded message forwarded

/-- A cycle with a control pulse takes no sample. -/
theorem sampleAt_of_control {cycle : Nat} {control : Control}
    (controlled : controlAt message cycle = some control) : sampleAt message cycle = none := by
  cases sampled : sampleAt message cycle with
  | none => rfl
  | some sample => simp [controlAt_of_sampled message sampled] at controlled

/-- A sample is published three cycles after its quote, unless a control message
follows the quote at once. -/
theorem sample_run (cycle : Nat) : (run weights message (cycle + 3)).sample =
    if controlAt message (cycle + 1) = none then sampleAt message cycle else none := by
  have step : (run weights message (cycle + 3)).sample =
      publish (controlAt message (cycle + 1)) (run weights message (cycle + 2)).tracked
        (run weights message (cycle + 2)).books := rfl
  rw [step, tracked_run, sampleAt]
  cases controlled : controlAt message (cycle + 1) with
  | some control => rfl
  | none =>
      cases forwarded : forwardedAt message cycle with
      | none => rfl
      | some quote =>
          obtain ⟨-, counts⟩ := forwardedAt_eq_some message forwarded
          have quiet := controlAt_of_forwarded message forwarded
          have active : (sessionAt message (cycle + 1)).active = true :=
            (active_of_quiet message quiet).trans (Bool.and_eq_true_iff.mp counts).1
          have books := books_run weights message cycle active
          rw [quiet, if_neg (by simp)] at books
          simp [publish, books, Session.sample, Session.bookAfter, counts]

/-- A quiet cycle changes the histories exactly by the sample it adds. -/
theorem history_of_quiet {cycle : Nat} (quiet : controlAt message cycle = none) :
    (sessionAt message (cycle + 1)).history =
      storeHistory none (sampleAt message cycle) (sessionAt message cycle).history := by
  rw [sessionAt_succ, sampleAt, forwardedAt]
  cases held : message cycle with
  | none => rfl
  | some content =>
      cases content with
      | control control => simp [controlAt, held] at quiet
      | quote quote =>
          by_cases counts : (sessionAt message cycle).forwards quote = true
          · cases sampled : (sessionAt message cycle).sample quote with
            | none => simp [Session.next, counts, storeHistory, sampled]
            | some sample =>
                simp [Session.next, counts, storeHistory, sampled, Session.historyWith]
          · simp [Session.next, Session.sample, Session.bookAfter, counts, storeHistory]

/-- While the session is active, the windows follow it three cycles late, except
that a start clears them early. -/
theorem history_run (cycle : Nat) (active : (sessionAt message (cycle + 2)).active = true) :
    (run weights message (cycle + 3)).history =
      if controlAt message cycle = some .start ∨ controlAt message (cycle + 1) = some .start
      then fun _ => []
      else (sessionAt message cycle).history := by
  induction cycle with
  | zero =>
      have unsampled : (run weights message 2).sample = none := publish_none _ _
      have step : (run weights message 3).history = storeHistory (controlAt message 1)
          (run weights message 2).sample
          (storeHistory (controlAt message 0) none fun _ => []) := rfl
      have cleared : (sessionAt message 0).history = fun _ => [] := rfl
      rw [step, unsampled, cleared, ite_self]
      rcases controlAt message 0 with _ | _ | _ <;>
        rcases controlAt message 1 with _ | _ | _ <;> rfl
  | succ cycle ih =>
      have step : (run weights message (cycle + 1 + 3)).history =
          storeHistory (controlAt message (cycle + 2)) (run weights message (cycle + 3)).sample
            (run weights message (cycle + 3)).history := rfl
      rw [step, sample_run]
      obtain quiet₂ | started₂ := quiet_or_started message active
      · rw [active_of_quiet message quiet₂] at active
        rw [ih active, quiet₂]
        obtain quiet₁ | started₁ := quiet_or_started message active
        · rw [active_of_quiet message quiet₁] at active
          obtain quiet₀ | started₀ := quiet_or_started message active
          · simp [quiet₀, quiet₁, history_of_quiet message quiet₀]
          · simp [started₀, quiet₁, session_of_start message started₀, Session.initial,
              sampleAt_of_control message started₀, storeHistory]
        · simp [started₁, storeHistory]
      · simp [started₂, storeHistory]

/-- No control message overtakes what was accepted in a cycle. -/
def Undisturbed (cycle : Nat) : Prop :=
  controlAt message (cycle + 1) = none ∧ controlAt message (cycle + 2) = none ∧
    controlAt message (cycle + 3) = none

instance (cycle : Nat) : Decidable (Undisturbed message cycle) :=
  inferInstanceAs (Decidable (_ ∧ _ ∧ _))

/-- A sample computes features four cycles after its quote when it completes a
window and no control message has overtaken it. -/
theorem pending_run (cycle : Nat) : (run weights message (cycle + 4)).pending =
    if controlAt message (cycle + 1) = none ∧ controlAt message (cycle + 2) = none then
      (sampleAt message cycle).filter fun sample =>
        32 ≤ ((sessionAt message cycle).historyWith sample).length
    else none := by
  have step : (run weights message (cycle + 4)).pending =
      calculate (controlAt message (cycle + 2)) (run weights message (cycle + 3)).sample
        (run weights message (cycle + 3)).history := rfl
  rw [step, sample_run]
  cases controlled₂ : controlAt message (cycle + 2) with
  | some control => simp [calculate]
  | none =>
      cases controlled₁ : controlAt message (cycle + 1) with
      | some control => simp [calculate]
      | none =>
          cases sampled : sampleAt message cycle with
          | none => simp [calculate]
          | some sample =>
              obtain ⟨quote, -, yields⟩ := sampleAt_eq_some message sampled
              have quiet := controlAt_of_sampled message sampled
              have active : (sessionAt message (cycle + 2)).active = true := by
                rw [active_of_quiet message controlled₁, active_of_quiet message quiet]
                exact Session.active_of_sample yields
              simp [calculate, history_run weights message cycle active, quiet, controlled₁,
                Session.historyWith]

/-- The features follow one cycle later, over the windows that end with the sample. -/
theorem feature_run (cycle : Nat) : (run weights message (cycle + 5)).feature =
    if Undisturbed message cycle then
      ((sampleAt message cycle).filter fun sample =>
        32 ≤ ((sessionAt message cycle).historyWith sample).length).map fun sample =>
          sample.features ((sessionAt message cycle).historyWith sample)
    else none := by
  have step : (run weights message (cycle + 5)).feature =
      extract (controlAt message (cycle + 3)) (run weights message (cycle + 4)).pending
        (run weights message (cycle + 4)).history := rfl
  rw [step, pending_run]
  by_cases undisturbed : Undisturbed message cycle
  · obtain ⟨quiet₁, quiet₂, quiet₃⟩ := undisturbed
    rw [if_pos ⟨quiet₁, quiet₂⟩, if_pos ⟨quiet₁, quiet₂, quiet₃⟩, quiet₃]
    cases sampled : sampleAt message cycle with
    | none => rfl
    | some sample =>
        obtain ⟨quote, -, yields⟩ := sampleAt_eq_some message sampled
        have quiet := controlAt_of_sampled message sampled
        have active : (sessionAt message (cycle + 1 + 2)).active = true := by
          rw [active_of_quiet message quiet₂, active_of_quiet message quiet₁,
            active_of_quiet message quiet]
          exact Session.active_of_sample yields
        have windows := history_run weights message (cycle + 1) active
        rw [if_neg (by simp [quiet₁, quiet₂]), history_of_quiet message quiet, sampled] at windows
        simp [extract, windows, storeHistory, Option.filter, Session.historyWith]
  · rw [if_neg undisturbed]
    cases controlled₃ : controlAt message (cycle + 3) with
    | some control => rfl
    | none =>
        rw [if_neg fun quiet => undisturbed ⟨quiet.1, quiet.2, controlled₃⟩]
        rfl

/-- The decision that the message of a cycle leads to. -/
def decisionAt (cycle : Nat) : Option Decision :=
  if Undisturbed message cycle then
    (sessionAt message cycle).decision weights (message cycle)
  else none

/-- What a decision is made of: a sample that completes a window. -/
theorem decision_of_sampleAt (cycle : Nat) :
    (sessionAt message cycle).decision weights (message cycle) =
      (((sampleAt message cycle).filter fun sample =>
        32 ≤ ((sessionAt message cycle).historyWith sample).length).map fun sample =>
          weights.decide (sample.features ((sessionAt message cycle).historyWith sample))) := by
  unfold sampleAt forwardedAt
  cases message cycle with
  | none => rfl
  | some content =>
      cases content with
      | control control => rfl
      | quote quote =>
          by_cases counts : (sessionAt message cycle).forwards quote = true
          · simp only [Session.decision, counts, if_true, Option.bind_some]
            cases (sessionAt message cycle).sample quote with
            | none => rfl
            | some sample =>
                by_cases warm : 32 ≤ ((sessionAt message cycle).historyWith sample).length
                · simp [warm]
                · simpa [warm] using Nat.lt_of_not_le warm
          · simp [Session.decision, Session.sample, Session.bookAfter, counts]

/-- A decision leaves the pipeline eight cycles after its message. -/
theorem signal_run (cycle : Nat) :
    (run weights message (cycle + 8)).signal = decisionAt weights message cycle := by
  have step : (run weights message (cycle + 8)).signal =
      (run weights message (cycle + 5)).feature.map weights.decide := rfl
  rw [step, feature_run, decisionAt, decision_of_sampleAt]
  by_cases undisturbed : Undisturbed message cycle
  · simp only [if_pos undisturbed, Option.map_map, Function.comp_def]
  · simp only [if_neg undisturbed, Option.map_none]

/-- The session at a cycle has read the messages seen before it. -/
theorem sessionAt_eq_after (cycle : Nat) :
    sessionAt message cycle = Session.initial.after (Clocked.seen message cycle) := by
  induction cycle with
  | zero => rfl
  | succ cycle ih =>
      rw [sessionAt_succ, ih, Clocked.seen_succ]
      cases message cycle with
      | none => simp
      | some content => simp [Session.after, List.foldl_append]

/-- Deciding cycle by cycle is deciding message by message. -/
theorem seen_decision (cycle : Nat) :
    Clocked.seen (fun n => (sessionAt message n).decision weights (message n)) cycle =
      Session.initial.decisions weights (Clocked.seen message cycle) := by
  induction cycle with
  | zero => rfl
  | succ cycle ih =>
      rw [Clocked.seen_succ, ih, Clocked.seen_succ, Session.decisions_append, sessionAt_eq_after]
      cases message cycle with
      | none => simp [Session.decision, Session.decisions]
      | some content => simp [Session.decisions]

/-- Nothing leaves the pipeline before the first message could. -/
theorem signal_early {cycle : Nat} (early : cycle < 8) :
    (run weights message cycle).signal = none := by
  have untracked : ∀ n < 2, (run weights message n).tracked = none := by
    rintro (_ | _ | n) bound
    · rfl
    · rfl
    · exact absurd bound (by omega)
  have unsampled : ∀ n < 3, (run weights message n).sample = none := by
    rintro (_ | n) bound
    · rfl
    · change publish _ (run weights message n).tracked _ = none
      rw [untracked n (by omega), publish_none]
  have unpending : ∀ n < 4, (run weights message n).pending = none := by
    rintro (_ | n) bound
    · rfl
    · change calculate _ (run weights message n).sample _ = none
      rw [unsampled n (by omega), calculate_none]
  have unfeatured : ∀ n < 5, (run weights message n).feature = none := by
    rintro (_ | n) bound
    · rfl
    · change extract _ (run weights message n).pending _ = none
      rw [unpending n (by omega), extract_none]
  rcases cycle with _ | _ | _ | cycle
  · rfl
  · rfl
  · rfl
  · change (run weights message cycle).feature.map weights.decide = none
    rw [unfeatured cycle (by omega), Option.map_none]

end Run

end Pipe

end HftPipeline.Spec
