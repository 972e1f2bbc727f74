import HftPipeline.Wire.Senders
import HftPipeline.Host.CRefinement
import HftPipeline.Host.PythonRefinement

/-!
# What the counters and the verdict of a stream test say

While a stream is active, the variables of both receivers count its quotes, and the
integrity verdict at its `STREAM_END` tells whether these were the announced ones in
order. The counters of the C receiver that have no bound hold modulo 2^64.
-/

namespace HftPipeline.Host

open HftPipeline.Std HftPipeline.Wire

/-- The variables of a receiver for a running stream: the byte map has one entry for
each number up to the planned count, and the counters are those of the quotes. -/
structure Tally (stream : Stream) (seenSequences : Option (List Byte))
    (plannedPackets validPackets outOfOrderPackets highestSequence : Nat) : Prop where
  planned : plannedPackets = stream.planned
  map : ∃ seen, seenSequences = some seen ∧ seen.length = plannedPackets + 1 ∧
    validPackets = seen.countP (· ≠ 0#8) ∧
    ∀ number ≤ plannedPackets, seen[number]? = some (if number ∈ stream.quotes then 1#8 else 0#8)
  valid : validPackets = Arrivals.distinct stream.quotes
  atMost : validPackets ≤ plannedPackets
  outOfOrder : outOfOrderPackets = Arrivals.late stream.quotes
  highest : highestSequence = Arrivals.highest stream.quotes

section Counts

variable {stream : Stream} {seenSequences : Option (List Byte)}
  {plannedPackets validPackets outOfOrderPackets highestSequence : Nat}

/-- The byte map of the quotes marks as many entries as there are different ones. -/
theorem Tally.of_counts (planned : plannedPackets = stream.planned)
    (seen : seenSequences = some (bitmap stream.planned stream.quotes))
    (valid : validPackets = Arrivals.distinct stream.quotes)
    (outOfOrder : outOfOrderPackets = Arrivals.late stream.quotes)
    (highest : highestSequence = Arrivals.highest stream.quotes) :
    Tally stream seenSequences plannedPackets validPackets outOfOrderPackets highestSequence := by
  have marked := countP_bitmap stream.inside
  have atMost := stream.distinct_le_planned
  subst planned seen valid outOfOrder highest
  exact
    { planned := rfl
      map := ⟨_, rfl, length_bitmap _ _, marked.symm, fun _ within =>
        bitmap_getElem? stream.quotes within⟩
      valid := rfl
      atMost := atMost
      outOfOrder := rfl
      highest := rfl }

end Counts

namespace PythonReceiver

/-- The variables of the active stream are exact, and so is the verdict of the
summary that the next `STREAM_END` of its sender prints. -/
def Exact (datagrams : List Datagram) (state : State) : Prop :=
  ∃ sender stream, state.activeSender = some sender ∧ stream.RunningIn datagrams sender ∧
    Tally stream state.seenSequences state.plannedPackets state.validPackets
      state.outOfOrderPackets state.highestSequence ∧
    state.invalidPackets = stream.invalid ∧
    state.duplicatePackets = stream.quotes.length - Arrivals.distinct stream.quotes ∧
    ∀ arrival quantity sequence range, arrival.datagram.sender = sender →
      request arrival.datagram = .finish quantity sequence range →
      ∃ next summary, receive state arrival = .ok next ∧
        next.summaries = state.summaries ++ [summary] ∧
        summary.actualSent = resolveSent quantity sequence stream.planned ∧
        (summary.integrityOk = true ↔ stream.Intact summary.actualSent)

theorem summaryOf_integrityOk (stream : Stream) (actualSent : Nat) :
    (summaryOf stream actualSent).integrityOk = true ↔ stream.Intact actualSent := by
  rw [← stream.intact_iff, summaryOf]
  simp only [Bool.and_eq_true, beq_iff_eq, and_assoc]

/-- A `STREAM_END` of the active sender prints the summary of the stream. -/
theorem Refines.finishes {account : Account} {state : State} (refines : Refines account state)
    {arrival : Arrival} {quantity sequence : Nat} {range : quantity < 2 ^ 32 ∧ sequence < 2 ^ 32}
    (owner : account.sender = some arrival.datagram.sender)
    (requested : request arrival.datagram = .finish quantity sequence range) :
    ∃ next, receive state arrival = .ok next ∧ next.summaries = state.summaries ++
      [summaryOf account.stream (resolveSent quantity sequence account.stream.planned)] := by
  refine ⟨PythonReceiver.endStream state quantity sequence, ?_, refines.summaries_endStream _ _⟩
  rw [receive_eq, requested, respond_finish ((refines.owned_iff _).mpr owner)]

theorem Refines.exact {datagrams : List Datagram} {state : State}
    (refines : Refines (.after datagrams) state) (active : state.streamActive = true) :
    Exact datagrams state := by
  have running := refines.active.symm.trans active
  obtain ⟨sender, owner⟩ := Option.isSome_iff_exists.mp running
  have tally := Tally.of_counts refines.planned (refines.seen running) refines.valid
    refines.outOfOrder refines.highest
  refine ⟨sender, _, refines.sender.trans owner, Account.runningIn owner, tally, refines.invalid,
    refines.duplicate, ?_⟩
  intro arrival quantity sequence range own requested
  obtain ⟨next, received, printed⟩ := refines.finishes (own ▸ owner) requested
  exact ⟨next, _, received, printed, rfl, summaryOf_integrityOk _ _⟩

end PythonReceiver

namespace CReceiver

/-- The variables of the active stream are exact, with the unbounded counters modulo
2^64, and so is the verdict of the report that the next `STREAM_END` of its sender
prints, unless one of these counters has wrapped. -/
def Exact (datagrams : List Datagram) (state : State) : Prop :=
  ∃ stream, stream.RunningIn datagrams state.sender ∧
    Tally stream state.seenSequences state.plannedPackets.toNat state.validPackets.toNat
      state.outOfOrderPackets.toNat state.highestSequence.toNat ∧
    state.invalidPackets.toNat = stream.invalid % 2 ^ 64 ∧
    state.duplicatePackets.toNat =
      (stream.quotes.length - Arrivals.distinct stream.quotes) % 2 ^ 64 ∧
    ∀ arrival quantity sequence range, arrival.datagram.sender = state.sender →
      request arrival.datagram = .finish quantity sequence range →
      ∃ next report, processDatagram state arrival = .ok next ∧
        next.reports = state.reports ++ [report] ∧
        report.actualSent.toNat = resolveSent quantity sequence stream.planned ∧
        (stream.repeated < 2 ^ 64 → stream.invalid < 2 ^ 64 →
          (report.integrityOk = true ↔ stream.Intact report.actualSent.toNat))

/-- As long as no counter has wrapped, the verdict of a report is exact. -/
theorem reportOf_integrityOk {stream : Stream} {actualSent : Nat}
    (atMost : actualSent ≤ stream.planned) (repeated : stream.repeated < 2 ^ 64)
    (invalid : stream.invalid < 2 ^ 64) :
    (reportOf stream actualSent).integrityOk = true ↔ stream.Intact actualSent := by
  have planned := stream.bounded
  have distinct := stream.distinct_le_planned
  have late := Arrivals.late_le_distinct stream.quotes
  simp only [largestStream] at planned
  rw [← stream.intact_iff, reportOf]
  simp only [Bool.and_eq_true, beq_iff_eq, and_assoc]
  rw [ofNat_eq_ofNat (by omega) (by omega), ofNat_eq_ofNat (by omega) (by omega),
    ofNat_eq_ofNat invalid (by omega), ofNat_eq_ofNat repeated (by omega),
    ofNat_eq_ofNat (by omega) (by omega)]

/-- A `STREAM_END` of the active sender prints the report of the stream. -/
theorem Refines.finishes {account : Account} {state : State} (refines : Refines account state)
    {arrival : Arrival} {quantity sequence : Nat} {range : quantity < 2 ^ 32 ∧ sequence < 2 ^ 32}
    (owner : account.sender = some arrival.datagram.sender)
    (requested : request arrival.datagram = .finish quantity sequence range) :
    ∃ next, processDatagram state arrival = .ok next ∧ next.reports = state.reports ++
      [reportOf account.stream (resolveSent quantity sequence account.stream.planned)] := by
  refine ⟨CReceiver.finishStream state (BitVec.ofNat 32 sequence) (BitVec.ofNat 32 quantity), ?_,
    refines.reports_finishStream range⟩
  rw [processDatagram_eq, requested, respond_finish ((refines.owned_iff _).mpr owner)]

theorem Refines.exact {datagrams : List Datagram} {state : State}
    (refines : Refines (.after datagrams) state) (active : state.active = true) :
    Exact datagrams state := by
  have running := refines.active.symm.trans active
  obtain ⟨sender, owner⟩ := Option.isSome_iff_exists.mp running
  have planned := (Account.after datagrams).stream.bounded
  have distinct := (Account.after datagrams).stream.distinct_le_planned
  have late := Arrivals.late_le_distinct (Account.after datagrams).stream.quotes
  have highest := (Account.after datagrams).stream.highest_le_planned
  simp only [largestStream] at planned
  have tally := Tally.of_counts
    (toNat_eq refines.planned (by omega)) (refines.seen running)
    (toNat_eq refines.valid (by omega)) (toNat_eq refines.outOfOrder (by omega))
    (toNat_eq refines.highest (by omega))
  refine ⟨_, ?_, tally, ?_, ?_, ?_⟩
  · rw [refines.sender sender owner]
    exact Account.runningIn owner
  · rw [refines.invalid, BitVec.toNat_ofNat]
  · rw [refines.duplicate, BitVec.toNat_ofNat]
    rfl
  · intro arrival quantity sequence range own requested
    have atMost := resolveSent_le quantity sequence (Account.after datagrams).stream.planned
    generalize claimed : resolveSent quantity sequence (Account.after datagrams).stream.planned =
      sent at atMost
    have stays : (reportOf (Account.after datagrams).stream sent).actualSent.toNat = sent :=
      toNat_eq rfl (by omega)
    have owns : (Account.after datagrams).sender = some arrival.datagram.sender := by
      rw [own, refines.sender sender owner, owner]
    obtain ⟨next, received, printed⟩ := refines.finishes owns requested
    rw [claimed] at printed
    refine ⟨next, _, received, printed, stays, ?_⟩
    intro repeated invalid
    rw [stays]
    exact reportOf_integrityOk atMost repeated invalid

end CReceiver

/-- At every datagram, grouped in any way into calls, both receivers have stopped only
for want of memory, or their variables are exact while a stream is active. -/
theorem stream_receivers_exact (calls : List (List Arrival)) (received : List Arrival)
    (processed : Nat) :
    let arrivals := calls.flatten ++ received.take processed
    let datagrams := arrivals.map Arrival.datagram
    ((∃ state, PythonReceiver.run arrivals = .ok state ∧
        (state.streamActive = true → PythonReceiver.Exact datagrams state)) ∨
      (PythonReceiver.run arrivals = .error .memoryError ∧
        ∃ arrival ∈ arrivals, arrival.allocated = false)) ∧
    ((∃ state, CReceiver.mainWithin calls received processed = .ok state ∧
        (state.active = true → CReceiver.Exact datagrams state)) ∨
      (CReceiver.mainWithin calls received processed = .error .exitFailure ∧
        ∃ arrival ∈ arrivals, arrival.allocated = false)) := by
  intro arrivals datagrams
  constructor
  · rcases PythonReceiver.run_keeps arrivals with
      ⟨state, ran, refines⟩ | ⟨arrival, member, refused, failed⟩
    · exact Or.inl ⟨state, ran, refines.exact⟩
    · exact Or.inr ⟨failed, arrival, member, refused⟩
  · rcases CReceiver.mainWithin_keeps calls received processed with
      ⟨state, ran, refines⟩ | ⟨arrival, member, refused, failed⟩
    · exact Or.inl ⟨state, ran, refines.exact⟩
    · exact Or.inr ⟨failed, arrival, member, refused⟩

section Wrapping

/-- A sender on the test network. -/
def tester : Address := ⟨0xC0A80201#32, 5005#16⟩

/-- A `STREAM_START` for a single packet. -/
def announcement : Arrival :=
  ⟨⟨(senderFields messageStreamStart 0 0 0 1000 1 1).layout, tester⟩, true⟩

/-- The packet of this stream. -/
def onlyQuote : Arrival := ⟨⟨(senderFields messageQuoteUpdate 0 1 0 1 100 1).layout, tester⟩, true⟩

/-- Its `STREAM_END`. -/
def closing : Arrival := ⟨⟨(senderFields messageStreamEnd 0 1 0 0 0 1).layout, tester⟩, true⟩

/-- A repeated packet is recorded as often as it arrives. -/
theorem after_repeats (count : Nat) :
    let account :=
      Account.after ((announcement :: List.replicate count onlyQuote).map Arrival.datagram)
    account.sender = some tester ∧ account.stream.planned = 1 ∧ account.stream.invalid = 0 ∧
      account.stream.quotes = List.replicate count 1 := by
  induction count with
  | zero => decide
  | succ count ih =>
      obtain ⟨own, planned, invalid, quotes⟩ := ih
      have requested : request onlyQuote.datagram = .quote 1 (by decide) := by decide
      have one_more : (announcement :: List.replicate (count + 1) onlyQuote).map Arrival.datagram =
          (announcement :: List.replicate count onlyQuote).map Arrival.datagram ++
            [onlyQuote.datagram] := by
        rw [List.replicate_succ']
        simp
      simp only [one_more, Account.after_snoc, Account.next, requested, Account.handle]
      rw [dif_pos ⟨own, by omega, by omega⟩]
      refine ⟨own, planned, invalid, ?_⟩
      exact (congrArg (· ++ [1]) quotes).trans List.replicate_succ'.symm

/-- Repetitions of one number are one number, and none is late. -/
theorem counts_replicate (count : Nat) : Arrivals.distinct (List.replicate (count + 1) 1) = 1 ∧
    Arrivals.late (List.replicate (count + 1) 1) = 0 := by
  induction count with
  | zero => decide
  | succ count ih =>
      have seen : 1 ∈ List.replicate (count + 1) 1 := by simp
      rw [List.replicate_succ', Arrivals.distinct_snoc, Arrivals.late_snoc, if_pos seen,
        if_neg fun both => both.1 seen]
      exact ih

/-- After the only packet and `count` repetitions of it, the C receiver runs on, and its
account holds them. -/
theorem runs_through_repeats (count : Nat) :
    let arrivals := announcement :: List.replicate (count + 1) onlyQuote
    let account := Account.after (arrivals.map Arrival.datagram)
    account.sender = some tester ∧ account.stream.planned = 1 ∧ account.stream.invalid = 0 ∧
      Arrivals.distinct account.stream.quotes = 1 ∧ Arrivals.late account.stream.quotes = 0 ∧
      account.stream.repeated = count ∧
      ∃ state, CReceiver.mainWithin (arrivals.map fun arrival => [arrival]) [] 0 = .ok state ∧
        CReceiver.Refines account state := by
  intro arrivals account
  obtain ⟨owner, planned, invalid, quotes⟩ := after_repeats (count + 1)
  obtain ⟨once, onTime⟩ := counts_replicate count
  have repeated : account.stream.repeated = count := by
    rw [Stream.repeated, quotes, once, List.length_replicate, Nat.add_sub_cancel]
  refine ⟨owner, planned, invalid, quotes ▸ once, quotes ▸ onTime, repeated, ?_⟩
  have flat : (arrivals.map fun arrival => [arrival]).flatten ++ [].take 0 = arrivals := by
    rw [List.take_nil, List.append_nil, ← List.flatMap_def, List.flatMap_singleton']
  have kept := CReceiver.mainWithin_keeps (arrivals.map fun arrival => [arrival]) [] 0
  rw [flat] at kept
  rcases kept with runs | ⟨arrival, member, refused, _⟩
  · exact runs
  · rcases List.mem_cons.mp member with rfl | again
    · cases refused
    · rw [List.eq_of_mem_replicate again] at refused
      cases refused

/-- A count of repetitions that is zero in 64 bits goes unnoticed. -/
theorem wraps_unnoticed {count : Nat} (some_repeats : 0 < count)
    (wraps : BitVec.ofNat 64 count = 0#64) :
    let arrivals := announcement :: List.replicate (count + 1) onlyQuote
    ∃ state, ∃ stream : Stream,
      CReceiver.mainWithin (arrivals.map fun arrival => [arrival]) [] 0 = .ok state ∧
      state.active = true ∧ stream.RunningIn (arrivals.map Arrival.datagram) state.sender ∧
      stream.quotes.length - Arrivals.distinct stream.quotes = count ∧
      state.duplicatePackets = 0#64 ∧
      ∃ next report, CReceiver.processDatagram state closing = .ok next ∧
        next.reports = state.reports ++ [report] ∧ report.integrityOk = true ∧
        ¬stream.Intact report.actualSent.toNat := by
  intro arrivals
  obtain ⟨owner, planned, invalid, once, onTime, repeated, state, ran, refines⟩ :=
    runs_through_repeats count
  have runs := Account.runningIn owner
  rw [← refines.sender tester owner] at runs
  have active := refines.active
  rw [owner] at active
  have duplicate := refines.duplicate
  rw [repeated, wraps] at duplicate
  have owns : (Account.after (arrivals.map Arrival.datagram)).sender =
      some closing.datagram.sender := owner
  have requested : request closing.datagram = .finish 1 1 (by decide) := by decide
  obtain ⟨next, finished, printed⟩ := refines.finishes owns requested
  refine ⟨state, _, ran, active, runs, repeated, duplicate, next, _, finished, printed, ?_, ?_⟩
  · rw [CReceiver.reportOf, planned, invalid, once, onTime, repeated, wraps]
    rfl
  · intro intact
    have clean := ((Stream.intact_iff _ _).mpr intact).2.2.2.1
    omega

/-- After the only packet of a stream and 2^64 repetitions of it, the C receiver counts no
duplicate, and the verdict at the `STREAM_END` is that of an intact stream. -/
theorem duplicates_wrap :
    let arrivals := announcement :: List.replicate (2 ^ 64 + 1) onlyQuote
    ∃ state, ∃ stream : Stream,
      CReceiver.mainWithin (arrivals.map fun arrival => [arrival]) [] 0 = .ok state ∧
      state.active = true ∧ stream.RunningIn (arrivals.map Arrival.datagram) state.sender ∧
      stream.quotes.length - Arrivals.distinct stream.quotes = 2 ^ 64 ∧
      state.duplicatePackets = 0#64 ∧
      ∃ next report, CReceiver.processDatagram state closing = .ok next ∧
        next.reports = state.reports ++ [report] ∧ report.integrityOk = true ∧
        ¬stream.Intact report.actualSent.toNat :=
  wraps_unnoticed (by decide) (by decide)

end Wrapping

end HftPipeline.Host
