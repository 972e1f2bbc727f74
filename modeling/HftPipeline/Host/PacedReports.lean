import HftPipeline.Host.PacedRefinement

/-!
# The reports of the paced receiver

Over a whole run with timeouts, streams that replace one another and datagrams of any
sender: the variables of the active test describe the stream since its `START`, and
the reports are, one for one and in order, the streams that an `END` of their sender or
two silent seconds have closed.
-/

namespace HftPipeline.Host.PacedReceiver

open HftPipeline.Std HftPipeline.Wire

/-- What the variables of the active test say about the events so far. -/
def Exact (events : List Event) (test : StreamTest) : Prop :=
  ∃ sender stream last, test.sender = some sender ∧ RunsIn events sender stream last ∧
    Tally stream test.seen test.plannedPackets test.validPackets test.outOfOrderPackets
      test.highestSequence ∧
    test.invalidPackets = stream.invalid ∧
    test.duplicatePackets = stream.quotes.length - Arrivals.distinct stream.quotes ∧
    test.lastActivityTime = some last

/-- How an event ends the stream of the sender: with the length that counts as sent, and
whether it is a timeout of two silent seconds. -/
def ending (sender : Address) (planned : Nat) (last : ℚ) : Event → Option (Nat × Bool)
  | .timeout now => if now - last ≥ inactivityTimeoutSeconds then some (planned, true) else none
  | .received arrival _ =>
      match request arrival.datagram with
      | .finish quantity _ _ =>
          if arrival.datagram.sender = sender then some (min quantity planned, false) else none
      | _ => none

/-- What a report says about a closed stream. -/
structure Describes (report : Report) (closing : Closing) : Prop where
  timedOut : report.timedOut = closing.timedOut
  targetRate : report.targetRate = closing.stream.targetPps
  packetsSent : report.packetsSent = closing.packetsSent
  validPackets : report.validPackets = Arrivals.distinct closing.stream.quotes
  missingPackets : report.missingPackets =
    closing.packetsSent - Arrivals.distinct closing.stream.quotes
  invalidPackets : report.invalidPackets = closing.stream.invalid
  duplicatePackets : report.duplicatePackets =
    closing.stream.quotes.length - Arrivals.distinct closing.stream.quotes
  outOfOrderPackets : report.outOfOrderPackets = Arrivals.late closing.stream.quotes
  highestSequence : report.highestSequence = Arrivals.highest closing.stream.quotes
  integrityOk : report.integrityOk = true ↔ closing.stream.Intact closing.packetsSent

/-- The event at an index ends the stream that runs before it, and the report describes
that stream. -/
def PrintsAt (events : List Event) (index : Nat) (report : Report) : Prop :=
  ∃ event sender last closing, events[index]? = some event ∧
    RunsIn (events.take index) sender closing.stream last ∧
    ending sender closing.stream.planned last event =
      some (closing.packetsSent, closing.timedOut) ∧
    Describes report closing

/-- The report of a closed stream describes it, and no other report does. -/
theorem describes_iff {report : Report} {closing : Closing} :
    Describes report closing ↔ report = reportOf closing := by
  constructor
  · rintro ⟨timedOut, rate, sent, valid, missing, invalid, duplicate, late, highest, integrity⟩
    have verdict : report.integrityOk = (reportOf closing).integrityOk :=
      Bool.eq_iff_iff.mpr (integrity.trans (reportOf_integrityOk closing).symm)
    cases report
    cases timedOut
    cases rate
    cases sent
    cases valid
    cases missing
    cases invalid
    cases duplicate
    cases late
    cases highest
    cases verdict
    rfl
  · rintro rfl
    exact ⟨rfl, rfl, rfl, rfl, rfl, rfl, rfl, rfl, rfl, reportOf_integrityOk closing⟩

namespace Account

variable {account : Account} {sender : Address} {last : ℚ}

/-- An event that ends the running stream closes it with the length it claims. -/
theorem next_ending (running : account.sender = some sender)
    (active : account.lastActivity = some last) {event : Event} {packetsSent : Nat}
    {timedOut : Bool}
    (ends : ending sender account.stream.planned last event = some (packetsSent, timedOut)) :
    (account.next event).closed = account.closed ++ [⟨account.stream, packetsSent, timedOut⟩] := by
  cases event with
  | timeout now =>
      simp only [ending] at ends
      split_ifs at ends with silent
      cases ends
      rw [next, if_pos ((silent_iff running active now).mpr silent)]
      rfl
  | received arrival now =>
      simp only [ending] at ends
      cases requested : request arrival.datagram with
      | finish quantity sequence range =>
          rw [requested] at ends
          simp only at ends
          split_ifs at ends with own
          cases ends
          rw [next, requested, handle, if_pos (running.trans (congrArg some own.symm))]
          rfl
      | invalid => simp [requested] at ends
      | ignored => simp [requested] at ends
      | start targetPps durationMs planned rate bounded => simp [requested] at ends
      | quote sequence range => simp [requested] at ends

/-- Every other event closes nothing. -/
theorem next_closed {event : Event}
    (goesOn : ∀ sender last, account.sender = some sender → account.lastActivity = some last →
      ending sender account.stream.planned last event = none)
    (timed : account.sender.isSome → account.lastActivity.isSome) :
    (account.next event).closed = account.closed := by
  have rejected (now : ℚ) : (account.reject now).closed = account.closed := by
    unfold reject
    split_ifs <;> rfl
  cases event with
  | timeout now =>
      rw [next, if_neg]
      rintro ⟨running, last, active, long⟩
      obtain ⟨sender, owner⟩ := Option.isSome_iff_exists.mp running
      have none := goesOn sender last owner active
      simp only [ending, if_pos long] at none
      cases none
  | received arrival now =>
      rw [next]
      cases requested : request arrival.datagram with
      | invalid => exact rejected now
      | ignored => rfl
      | start targetPps durationMs planned rate bounded => rfl
      | finish quantity sequence range =>
          rw [handle, if_neg]
          intro own
          obtain ⟨last, active⟩ := Option.isSome_iff_exists.mp (timed (by simp [own]))
          have none := goesOn _ last own active
          simp [ending, requested] at none
      | quote sequence range =>
          rw [handle]
          split_ifs with counted
          · rfl
          · exact rejected now

end Account

/-- What has been printed stays printed where it was. -/
theorem printsAt_snoc {events : List Event} {index : Nat} (before : index < events.length)
    (event : Event) (report : Report) :
    PrintsAt (events ++ [event]) index report ↔ PrintsAt events index report := by
  rw [PrintsAt, PrintsAt, List.getElem?_append_left before, List.take_append_of_le_length before.le]

/-- The last event prints a report exactly when it ends the running stream of the account. -/
theorem printsAt_last {events : List Event} {event : Event} {report : Report} :
    PrintsAt (events ++ [event]) events.length report ↔
      ∃ sender last packetsSent timedOut, (Account.after events).sender = some sender ∧
        (Account.after events).lastActivity = some last ∧
        ending sender (Account.after events).stream.planned last event =
          some (packetsSent, timedOut) ∧
        report = reportOf ⟨(Account.after events).stream, packetsSent, timedOut⟩ := by
  constructor
  · rintro ⟨other, sender, last, ⟨stream, packetsSent, timedOut⟩, here, runs, ends, described⟩
    rw [List.getElem?_concat_length, Option.some.injEq] at here
    rw [List.take_left] at runs
    obtain ⟨own, rfl, active⟩ := Account.of_runsIn runs
    subst here
    exact ⟨sender, last, packetsSent, timedOut, own, active, ends, describes_iff.mp described⟩
  · rintro ⟨sender, last, packetsSent, timedOut, own, active, ends, rfl⟩
    obtain ⟨since, same, runs⟩ := Account.runsIn own
    obtain rfl : since = last := Option.some.inj (same.symm.trans active)
    refine ⟨event, sender, since, ⟨_, packetsSent, timedOut⟩, List.getElem?_concat_length, ?_, ends,
      describes_iff.mpr rfl⟩
    rwa [List.take_left]

/-- The closed streams of the account are, in order, those that an event has ended. -/
theorem closed_printed (events : List Event) :
    ∃ indices : List Nat, indices.Pairwise (· < ·) ∧ (∀ index ∈ indices, index < events.length) ∧
      List.Forall₂ (PrintsAt events) indices ((Account.after events).closed.map reportOf) ∧
      ∀ index report, index < events.length → PrintsAt events index report → index ∈ indices := by
  induction events using List.reverseRecOn with
  | nil => exact ⟨[], List.Pairwise.nil, by simp, List.Forall₂.nil, by simp⟩
  | append_singleton events event ih =>
      obtain ⟨indices, increasing, inside, printed, complete⟩ := ih
      have kept : List.Forall₂ (PrintsAt (events ++ [event])) indices
          ((Account.after events).closed.map reportOf) :=
        ((List.forall₂_and_left _ _).mpr ⟨inside, printed⟩).imp fun index report both =>
          (printsAt_snoc both.1 event report).mpr both.2
      have within : ∀ index ∈ indices, index < (events ++ [event]).length := by
        intro index member
        have before := inside index member
        rw [List.length_append]
        omega
      rw [Account.after_snoc]
      by_cases prints : ∃ report, PrintsAt (events ++ [event]) events.length report
      · obtain ⟨report, prints⟩ := prints
        obtain ⟨sender, last, packetsSent, timedOut, own, active, ends, rfl⟩ :=
          printsAt_last.mp prints
        refine ⟨indices ++ [events.length], ?_, ?_, ?_, ?_⟩
        · refine List.pairwise_append.mpr ⟨increasing, List.pairwise_singleton _ _, ?_⟩
          intro index member last isLast
          rw [List.mem_singleton.mp isLast]
          exact inside index member
        · intro index member
          rcases List.mem_append.mp member with earlier | now
          · exact within index earlier
          · rw [List.mem_singleton.mp now, List.length_append]
            exact Nat.lt_succ_self _
        · rw [Account.next_ending own active ends, List.map_append]
          exact List.rel_append kept (List.Forall₂.cons prints List.Forall₂.nil)
        · intro index report bound found
          by_cases before : index < events.length
          · exact List.mem_append_left _
              (complete index report before ((printsAt_snoc before event report).mp found))
          · rw [List.length_append, List.length_singleton] at bound
            exact List.mem_append_right _ (List.mem_singleton.mpr (by omega))
      · have closed : ((Account.after events).next event).closed =
            (Account.after events).closed := by
          refine Account.next_closed ?_ ?_
          · intro sender last own active
            cases ends : ending sender (Account.after events).stream.planned last event with
            | none => rfl
            | some claimed =>
                exact absurd ⟨_, printsAt_last.mpr ⟨sender, last, claimed.1, claimed.2, own, active,
                  ends, rfl⟩⟩ prints
          · intro running
            obtain ⟨sender, own⟩ := Option.isSome_iff_exists.mp running
            obtain ⟨last, active, _⟩ := Account.runsIn own
            exact Option.isSome_iff_exists.mpr ⟨last, active⟩
        refine ⟨indices, increasing, within, by rwa [closed], ?_⟩
        intro index report bound found
        by_cases before : index < events.length
        · exact complete index report before ((printsAt_snoc before event report).mp found)
        · rw [List.length_append, List.length_singleton] at bound
          obtain rfl : index = events.length := by omega
          exact absurd ⟨report, found⟩ prints

/-- The variables of the active test are those of the stream that runs in the events. -/
theorem Refines.exact {events : List Event} {test : StreamTest}
    (refines : Refines (.after events) test)
    (active : test.active = true) : Exact events test := by
  have running := refines.active.symm.trans active
  obtain ⟨sender, own⟩ := Option.isSome_iff_exists.mp running
  obtain ⟨last, counted, runs⟩ := Account.runsIn own
  exact ⟨sender, _, last, refines.sender.trans own, runs,
    Tally.of_counts refines.planned (refines.seen running) refines.valid refines.outOfOrder
      refines.highest,
    refines.invalid, refines.duplicate, refines.lastActivity.trans counted⟩

/-- Behind every run of events, timeouts included, the receiver has stopped only for want
of memory, or the variables of an active test are exact and the reports are, one for
one and in order, those of the events that ended a stream. -/
theorem paced_reports_exact (events : List Event) :
    (∃ test, run events = .ok test ∧ (test.active = true → Exact events test) ∧
        ∃ indices : List Nat, indices.Pairwise (· < ·) ∧
          List.Forall₂ (PrintsAt events) indices test.reports ∧
          ∀ index report, PrintsAt events index report → index ∈ indices) ∨
      (run events = .error .memoryError ∧ ∃ event ∈ events, OutOfMemory event) := by
  rcases run_keeps events with ⟨test, ran, refines⟩ | failed
  · obtain ⟨indices, increasing, inside, printed, complete⟩ := closed_printed events
    refine Or.inl ⟨test, ran, refines.exact, indices, increasing, refines.reports ▸ printed, ?_⟩
    intro index report found
    have there := found
    obtain ⟨event, _, _, _, here, _⟩ := there
    exact complete index report (List.getElem?_eq_some_iff.mp here).1 found
  · exact Or.inr failed

end HftPipeline.Host.PacedReceiver
