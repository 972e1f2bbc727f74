import HftPipeline.Host.CRefinement
import HftPipeline.Host.PythonRefinement

/-!
# Receivers at rest

A receiver without an active stream waits for a `STREAM_START` in range, and that
leaves nothing of the state before it but what was printed, on which no decision
depends. What follows is therefore what a receiver does that has just been started.
-/

namespace HftPipeline.Host

open HftPipeline.Std

namespace PythonReceiver

/-- The state behind what an earlier one has printed. -/
def State.behind (earlier state : State) : State :=
  { state with
    starts := earlier.starts ++ state.starts
    summaries := earlier.summaries ++ state.summaries }

/-- No decision depends on what was printed. -/
theorem receive_behind (earlier state : State) (arrival : Arrival) :
    receive (State.behind earlier state) arrival =
      (receive state arrival).map (State.behind earlier) := by
  rw [receive_eq, receive_eq]
  cases request arrival.datagram with
  | invalid =>
      cases active : state.streamActive <;>
        simp [respond, State.countInvalid, State.behind, active, Except.map]
  | ignored => rfl
  | start targetPps durationMs planned rate bounded =>
      cases allocated : arrival.allocated <;>
        simp [respond, startStream, State.behind, Except.map]
  | finish quantity sequence range =>
      by_cases own : state.Owned arrival.datagram.sender
      · have same : (State.behind earlier state).Owned arrival.datagram.sender := own
        rw [respond_finish own, respond_finish same]
        simp [endStream, State.behind, printSummary, Except.map]
      · have same : ¬(State.behind earlier state).Owned arrival.datagram.sender := own
        rw [respond_finish_foreign own, respond_finish_foreign same]
        rfl
  | quote sequence range =>
      by_cases counted : state.Owned arrival.datagram.sender ∧ 1 ≤ sequence ∧
          sequence ≤ state.plannedPackets
      · have same : (State.behind earlier state).Owned arrival.datagram.sender := counted.1
        rw [respond_quote counted.1 counted.2, respond_quote same counted.2, recordQuote_eq,
          recordQuote_eq]
        simp only [State.behind]
        rcases lookUp Stop.subscriptError state.seenSequences sequence with stop | found
        · rfl
        · cases found <;> rfl
      · have same : ¬((State.behind earlier state).Owned arrival.datagram.sender ∧ 1 ≤ sequence ∧
            sequence ≤ (State.behind earlier state).plannedPackets) := counted
        rw [respond_quote_refused counted, respond_quote_refused same]
        cases active : state.streamActive <;>
          simp [State.countInvalid, State.behind, active, Except.map]

/-- An idle receiver waits for a `STREAM_START` in range. -/
theorem receive_idle {state : State} (idle : state.streamActive = false) {arrival : Arrival}
    (waits : opensStream arrival.datagram = false) : receive state arrival = .ok state := by
  have foreign : ¬ state.Owned arrival.datagram.sender := by simp [State.Owned, idle]
  have uncounted : state.countInvalid = state := by simp [State.countInvalid, idle]
  rcases receive_foreign foreign waits with same | counted
  · exact same
  · rw [counted, uncounted]

/-- A `STREAM_START` in range leaves nothing of the state before but what it printed. -/
theorem foldlM_start {first : Arrival} {targetPps durationMs planned : Nat}
    {rate : targetPps < 2 ^ 32} {bounded : planned ≤ largestStream}
    (requested : request first.datagram = .start targetPps durationMs planned rate bounded)
    (rest : List Arrival) (state : State) : (first :: rest).foldlM receive state =
      ((first :: rest).foldlM receive .initial).map (State.behind state) := by
  rw [List.foldlM_cons, List.foldlM_cons, receive_eq, receive_eq, requested]
  cases allocated : first.allocated with
  | false => rfl
  | true =>
      have started : startStream state first.datagram.sender targetPps durationMs planned =
          State.behind state
            (startStream .initial first.datagram.sender targetPps durationMs planned) := by
        simp [startStream, State.behind, State.initial]
      have rest := Fallible.foldlM_map (receive_behind state)
        (startStream .initial first.datagram.sender targetPps durationMs planned) rest
      rw [← started] at rest
      exact rest

end PythonReceiver

namespace CReceiver

/-- The state behind what an earlier one has printed. -/
def State.behind (earlier state : State) : State :=
  { state with
    starts := earlier.starts ++ state.starts
    reports := earlier.reports ++ state.reports }

/-- No decision depends on what was printed. -/
theorem processDatagram_behind (earlier state : State) (arrival : Arrival) :
    processDatagram (State.behind earlier state) arrival =
      (processDatagram state arrival).map (State.behind earlier) := by
  rw [processDatagram_eq, processDatagram_eq]
  cases request arrival.datagram with
  | invalid =>
      cases active : state.active <;>
        simp [respond, State.countInvalid, State.behind, active, Except.map]
  | ignored => rfl
  | start targetPps durationMs planned rate bounded =>
      cases allocated : arrival.allocated <;>
        simp [respond, resetStream, printStreamStart, State.behind, Except.map]
  | finish quantity sequence range =>
      by_cases own : state.Owned arrival.datagram.sender
      · have same : (State.behind earlier state).Owned arrival.datagram.sender := own
        rw [respond_finish own, respond_finish same]
        simp [finishStream, State.behind, report, Except.map]
      · have same : ¬(State.behind earlier state).Owned arrival.datagram.sender := own
        rw [respond_finish_foreign own, respond_finish_foreign same]
        rfl
  | quote sequence range =>
      by_cases counted : state.Owned arrival.datagram.sender ∧
          ¬BitVec.ofNat 32 sequence < 1#32 ∧ ¬BitVec.ofNat 32 sequence > state.plannedPackets
      · have same : (State.behind earlier state).Owned arrival.datagram.sender := counted.1
        rw [respond_quote counted.1 counted.2, respond_quote same counted.2, recordQuote_eq,
          recordQuote_eq]
        simp only [State.behind]
        rcases lookUp Stop.undefinedBehaviour state.seenSequences
          (BitVec.ofNat 32 sequence).toNat with stop | found
        · rfl
        · cases found <;> rfl
      · have same : ¬((State.behind earlier state).Owned arrival.datagram.sender ∧
            ¬BitVec.ofNat 32 sequence < 1#32 ∧
            ¬BitVec.ofNat 32 sequence > (State.behind earlier state).plannedPackets) := counted
        rw [respond_quote_refused counted, respond_quote_refused same]
        cases active : state.active <;>
          simp [State.countInvalid, State.behind, active, Except.map]

/-- Neither does a whole call. -/
theorem receiveCall_behind (earlier state : State) (received : List Arrival) :
    receiveCall (State.behind earlier state) received =
      (receiveCall state received).map (State.behind earlier) := by
  have called : (State.behind earlier state).countCall received.length =
      State.behind earlier (state.countCall received.length) := by
    cases active : state.active <;> simp [State.countCall, State.behind, active]
  rw [receiveCall, called]
  exact Fallible.foldlM_map (processDatagram_behind earlier) _ received

section Idle

variable {state : State} (idle : state.active = false)

include idle

theorem countCall_idle (received : Nat) : state.countCall received = state := by
  simp [State.countCall, idle]

/-- An idle receiver waits for a `STREAM_START` in range. -/
theorem processDatagram_idle {arrival : Arrival} (waits : opensStream arrival.datagram = false) :
    processDatagram state arrival = .ok state := by
  have foreign : ¬ state.Owned arrival.datagram.sender := by simp [State.Owned, idle]
  have uncounted : state.countInvalid = state := by simp [State.countInvalid, idle]
  rcases processDatagram_foreign foreign waits with same | counted
  · exact same
  · rw [counted, uncounted]

theorem receiveCall_idle {received : List Arrival}
    (waits : ∀ arrival ∈ received, opensStream arrival.datagram = false) :
    receiveCall state received = .ok state := by
  rw [receiveCall, countCall_idle idle]
  exact Fallible.foldlM_fixed fun arrival member =>
    processDatagram_idle idle (waits arrival member)

end Idle

/-- From rest, the first datagram is processed in the state at rest, in whatever call it
is returned, and what follows does not depend on what was printed. -/
theorem foldlM_first {calls : List (List Arrival)} {first : Arrival} {rest : List Arrival}
    (flat : calls.flatten = first :: rest) : ∃ goOn : State → Except Stop State,
      (∀ earlier state, goOn (State.behind earlier state) =
        (goOn state).map (State.behind earlier)) ∧
      ∀ state : State, state.active = false →
        calls.foldlM receiveCall state = processDatagram state first >>= goOn := by
  obtain ⟨empty, more, others, rfl, nothing, _⟩ := List.flatten_eq_cons_iff.mp flat
  refine ⟨fun next => more.foldlM processDatagram next >>= others.foldlM receiveCall, ?_, ?_⟩
  · intro earlier state
    simp only [Fallible.foldlM_map (processDatagram_behind earlier) state more]
    cases more.foldlM processDatagram state with
    | error stop => rfl
    | ok next => exact Fallible.foldlM_map (receiveCall_behind earlier) next others
  · intro state idle
    have skipped : empty.foldlM receiveCall state = .ok state := by
      refine Fallible.foldlM_fixed fun call member => receiveCall_idle idle ?_
      rw [nothing call member]
      simp
    have called : receiveCall state (first :: more) =
        processDatagram state first >>= more.foldlM processDatagram := by
      rw [receiveCall, countCall_idle idle, List.foldlM_cons]
    rw [List.foldlM_append, skipped, ← bind_assoc, ← called]
    rfl

/-- A `STREAM_START` in range leaves nothing of the state at rest but what it printed. -/
theorem foldlM_start {calls : List (List Arrival)} {first : Arrival} {rest : List Arrival}
    (flat : calls.flatten = first :: rest) {targetPps durationMs planned : Nat}
    {rate : targetPps < 2 ^ 32} {bounded : planned ≤ largestStream}
    (requested : request first.datagram = .start targetPps durationMs planned rate bounded)
    {state : State}
    (idle : state.active = false) :
    calls.foldlM receiveCall state = (main calls).map (State.behind state) := by
  obtain ⟨goOn, behind, starts⟩ := foldlM_first flat
  rw [main, starts state idle, starts .initial rfl, processDatagram_eq, processDatagram_eq,
    requested]
  cases allocated : first.allocated with
  | false => rfl
  | true =>
      have started : respond state first.datagram.sender true
            (.start targetPps durationMs planned rate bounded) =
          (respond .initial first.datagram.sender true
            (.start targetPps durationMs planned rate bounded)).map
            (State.behind state) := by
        simp [respond, resetStream, printStreamStart, State.behind, State.initial, Except.map]
      rw [started]
      exact behind state _

end CReceiver

end HftPipeline.Host
