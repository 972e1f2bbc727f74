import HftPipeline.Std.Fallible
import HftPipeline.Host.CDecoding

/-!
# The C receiver keeps the account

Every field of `struct stream_state` is a function of the account, with the
counters reduced modulo 2^64. The byte map is only indexed inside, and the grouping
into calls of `recvmmsg` touches nothing but the call counters.
-/

namespace HftPipeline.Host.CReceiver

open HftPipeline.Std HftPipeline.Std.Fallible HftPipeline.Wire

/-- The report of a closed stream. -/
def reportOf (stream : Stream) (actualSent : Nat) : Report where
  targetPps := BitVec.ofNat 32 stream.targetPps
  actualSent := BitVec.ofNat 32 actualSent
  validPackets := BitVec.ofNat 64 (Arrivals.distinct stream.quotes)
  missingPackets := BitVec.ofNat 64 (actualSent - Arrivals.distinct stream.quotes)
  invalidPackets := BitVec.ofNat 64 stream.invalid
  duplicatePackets := BitVec.ofNat 64 stream.repeated
  outOfOrderPackets := BitVec.ofNat 64 (Arrivals.late stream.quotes)
  highestSequence := BitVec.ofNat 32 (Arrivals.highest stream.quotes)
  integrityOk :=
    BitVec.ofNat 32 actualSent == BitVec.ofNat 32 stream.planned &&
      BitVec.ofNat 64 (actualSent - Arrivals.distinct stream.quotes) == 0#64 &&
      BitVec.ofNat 64 stream.invalid == 0#64 && BitVec.ofNat 64 stream.repeated == 0#64 &&
      BitVec.ofNat 64 (Arrivals.late stream.quotes) == 0#64

/-- The stream state for an account. -/
structure Refines (account : Account) (state : State) : Prop where
  active : state.active = account.sender.isSome
  sender : ∀ sender, account.sender = some sender → state.sender = sender
  targetPps : state.targetPps = BitVec.ofNat 32 account.stream.targetPps
  planned : state.plannedPackets = BitVec.ofNat 32 account.stream.planned
  seen : account.sender.isSome = true →
    state.seenSequences = some (bitmap account.stream.planned account.stream.quotes)
  valid : state.validPackets = BitVec.ofNat 64 (Arrivals.distinct account.stream.quotes)
  invalid : state.invalidPackets = BitVec.ofNat 64 account.stream.invalid
  duplicate : state.duplicatePackets = BitVec.ofNat 64 account.stream.repeated
  outOfOrder : state.outOfOrderPackets = BitVec.ofNat 64 (Arrivals.late account.stream.quotes)
  highest : state.highestSequence = BitVec.ofNat 32 (Arrivals.highest account.stream.quotes)
  reports : state.reports = account.closed.map fun (stream, sent) => reportOf stream sent

/-- The receiver starts with an empty account. -/
theorem Refines.initial : Refines .initial .initial where
  active := rfl
  sender := by simp [Account.initial]
  targetPps := rfl
  planned := rfl
  seen := by simp [Account.initial]
  valid := rfl
  invalid := rfl
  duplicate := rfl
  outOfOrder := rfl
  highest := rfl
  reports := rfl

/-- Address and port are compared, which is the whole sender. -/
theorem sameSender_iff (first second : Address) :
    sameSender first second = true ↔ first = second := by
  cases first
  cases second
  simp [sameSender, and_comm]

section Step

variable {account : Account} {state : State}

/-- The call counters are no part of the account. -/
theorem Refines.countCall (refines : Refines account state) (received : Nat) :
    Refines account (state.countCall received) := by
  cases active : state.active with
  | false => simpa [State.countCall, active] using refines
  | true =>
      rw [State.countCall, if_pos active]
      exact
        ⟨refines.active, refines.sender, refines.targetPps, refines.planned, refines.seen,
          refines.valid, refines.invalid, refines.duplicate, refines.outOfOrder, refines.highest,
          refines.reports⟩

/-- Counting an invalid packet is a rejection in the account. -/
theorem Refines.countInvalid (refines : Refines account state) :
    Refines account.reject state.countInvalid := by
  have active := refines.active
  cases running : account.sender.isSome with
  | false =>
      rw [running] at active
      simpa [State.countInvalid, Account.reject, active, running] using refines
  | true =>
      rw [running] at active
      rw [State.countInvalid, if_pos active, Account.reject, if_pos running]
      have counted : state.invalidPackets + 1#64 =
          BitVec.ofNat 64 (account.stream.invalid + 1) := by
        rw [refines.invalid, BitVec.ofNat_add]
      exact { refines with invalid := counted }

/-- A datagram is from the sender of the running stream. -/
theorem Refines.owned_iff (refines : Refines account state) (sender : Address) :
    state.Owned sender ↔ account.sender = some sender := by
  rw [State.Owned, sameSender_iff, refines.active]
  cases running : account.sender with
  | none => simp
  | some owner =>
      rw [refines.sender owner running]
      simp [eq_comm]

/-- A new stream starts from nothing. -/
theorem Refines.resetStream (refines : Refines account state) (sender : Address)
    (targetPps durationMs planned : Nat) (rate : targetPps < 2 ^ 32)
    (bounded : planned ≤ largestStream) :
    ∃ next, (resetStream true state sender (BitVec.ofNat 32 targetPps)
        (BitVec.ofNat 32 planned)).map (printStreamStart (BitVec.ofNat 32 durationMs)) =
          .ok next ∧
      Refines
        { account with
          sender := some sender
          stream := .opened targetPps planned rate bounded } next := by
  have fits : planned < 2 ^ 32 := by
    simp only [largestStream] at bounded
    omega
  have size : (BitVec.ofNat 32 planned).toNat = planned := by
    rw [BitVec.toNat_ofNat, Nat.mod_eq_of_lt fits]
  refine ⟨_, rfl, ?_⟩
  exact
    { active := rfl
      sender := fun other same => Option.some.inj same
      targetPps := rfl
      planned := rfl
      seen := fun _ => by rw [size]; exact congrArg some (bitmap_nil planned).symm
      valid := rfl
      invalid := rfl
      duplicate := rfl
      outOfOrder := rfl
      highest := rfl
      reports := refines.reports }

/-- The sent count read off an END is the one the account resolves. -/
theorem actualSent_eq {quantity sequence planned : Nat}
    (range : quantity < 2 ^ 32 ∧ sequence < 2 ^ 32) (bounded : planned < 2 ^ 32) :
    actualSent (BitVec.ofNat 32 quantity) (BitVec.ofNat 32 sequence) (BitVec.ofNat 32 planned) =
      BitVec.ofNat 32 (resolveSent quantity sequence planned) := by
  have claims {number : Nat} (fits : number < 2 ^ 32) :
      (BitVec.ofNat 32 number < 1#32 ∨ BitVec.ofNat 32 number > BitVec.ofNat 32 planned) ↔
        ¬(1 ≤ number ∧ number ≤ planned) := by
    rw [gt_iff_lt, ofNat_lt_ofNat fits (by decide), ofNat_lt_ofNat bounded fits]
    omega
  by_cases counted : 1 ≤ quantity ∧ quantity ≤ planned
  · have trusted := mt (claims range.1).mp (not_not_intro counted)
    simp only [actualSent, resolveSent, if_neg trusted, if_pos counted]
  · have untrusted := (claims range.1).mpr counted
    by_cases numbered : 1 ≤ sequence ∧ sequence ≤ planned
    · have trusted := mt (claims range.2).mp (not_not_intro numbered)
      simp only [actualSent, resolveSent, if_pos untrusted, if_neg trusted, if_neg counted,
        if_pos numbered]
    · have unnumbered := (claims range.2).mpr numbered
      simp only [actualSent, resolveSent, if_pos untrusted, if_pos unnumbered, if_neg counted,
        if_neg numbered]

/-- The subtraction of the missing packets does not wrap. -/
theorem missingPackets_eq {sent distinct : Nat} (sentFits : sent < 2 ^ 32)
    (distinctFits : distinct < 2 ^ 32) :
    missingPackets (BitVec.ofNat 32 sent) (BitVec.ofNat 64 distinct) =
      BitVec.ofNat 64 (sent - distinct) := by
  have widened : (BitVec.ofNat 32 sent).setWidth 64 = BitVec.ofNat 64 sent := by
    apply BitVec.eq_of_toNat_eq
    simp only [BitVec.toNat_setWidth, BitVec.toNat_ofNat]
    omega
  have fits : sent < 2 ^ 64 ∧ distinct < 2 ^ 64 := by omega
  have wanted : BitVec.ofNat 64 sent > BitVec.ofNat 64 distinct ↔ distinct < sent :=
    ofNat_lt_ofNat fits.2 fits.1
  rw [missingPackets, widened]
  by_cases lost : distinct < sent
  · rw [if_pos (wanted.mpr lost)]
    apply BitVec.eq_of_toNat_eq
    simp only [BitVec.toNat_sub, BitVec.toNat_ofNat]
    omega
  · rw [if_neg (mt wanted.mp lost)]
    have none : sent - distinct = 0 := by omega
    rw [none]

/-- The printed report is that of the stream. -/
theorem Refines.report (refines : Refines account state) {sent : Nat}
    (atMost : sent ≤ account.stream.planned) :
    report state (BitVec.ofNat 32 sent) = reportOf account.stream sent := by
  have bounded := account.stream.bounded
  have distinct := account.stream.distinct_le_planned
  simp only [largestStream] at bounded
  have missing := missingPackets_eq (show sent < 2 ^ 32 by omega)
    (show Arrivals.distinct account.stream.quotes < 2 ^ 32 by omega)
  unfold CReceiver.report reportOf
  rw [refines.targetPps, refines.planned, refines.valid, refines.invalid, refines.duplicate,
    refines.outOfOrder, refines.highest, missing]

/-- A `STREAM_END` adds the report of the stream. -/
theorem Refines.reports_finishStream (refines : Refines account state) {quantity sequence : Nat}
    (range : quantity < 2 ^ 32 ∧ sequence < 2 ^ 32) :
    (finishStream state (BitVec.ofNat 32 sequence) (BitVec.ofNat 32 quantity)).reports =
      state.reports ++
        [reportOf account.stream (resolveSent quantity sequence account.stream.planned)] := by
  have bounded := account.stream.bounded
  simp only [largestStream] at bounded
  rw [finishStream, refines.planned, actualSent_eq range (by omega),
    refines.report (resolveSent_le _ _ _)]

/-- Finishing a stream closes it in the account. -/
theorem Refines.finishStream (refines : Refines account state) {quantity sequence : Nat}
    (range : quantity < 2 ^ 32 ∧ sequence < 2 ^ 32) :
    Refines
      { account with
        sender := none
        closed := account.closed ++
          [(account.stream, resolveSent quantity sequence account.stream.planned)] }
      (finishStream state (BitVec.ofNat 32 sequence) (BitVec.ofNat 32 quantity)) where
  active := rfl
  sender := by simp
  targetPps := refines.targetPps
  planned := refines.planned
  seen := by simp
  valid := refines.valid
  invalid := refines.invalid
  duplicate := refines.duplicate
  outOfOrder := refines.outOfOrder
  highest := refines.highest
  reports := by
    rw [refines.reports_finishStream range, refines.reports, List.map_append]
    rfl

section Quote

variable (refines : Refines account state) (running : account.sender.isSome = true)
  {sequence : Nat} (within : 1 ≤ sequence ∧ sequence ≤ account.stream.planned)

include refines running within

/-- A quote seen before is a duplicate. -/
theorem Refines.recordQuote_seen (place : (BitVec.ofNat 32 sequence).toNat = sequence)
    (seen : sequence ∈ account.stream.quotes) :
    ∃ next, recordQuote state (BitVec.ofNat 32 sequence) = .ok next ∧
      Refines { account with stream := account.stream.record sequence within } next := by
  have look := bitmap_getElem? account.stream.quotes within.2
  rw [if_pos seen] at look
  obtain ⟨distinct, late, highest, repeats, map⟩ := account.stream.record_seen within seen
  have counted : state.duplicatePackets + 1#64 =
      BitVec.ofNat 64 (account.stream.record sequence within).repeated := by
    rw [refines.duplicate, repeats, BitVec.ofNat_add]
  refine ⟨{ state with duplicatePackets := state.duplicatePackets + 1#64 }, ?_, ?_⟩
  · simp [CReceiver.recordQuote, refines.seen running, place, look]
  · exact
      { refines with
        seen := fun _ => (refines.seen running).trans (congrArg some map.symm)
        valid := refines.valid.trans (congrArg (BitVec.ofNat 64) distinct.symm)
        duplicate := counted
        outOfOrder := refines.outOfOrder.trans (congrArg (BitVec.ofNat 64) late.symm)
        highest := refines.highest.trans (congrArg (BitVec.ofNat 32) highest.symm) }

/-- A quote seen for the first time is valid, and late behind the highest one. -/
theorem Refines.recordQuote_first (fits : sequence < 2 ^ 32)
    (place : (BitVec.ofNat 32 sequence).toNat = sequence)
    (seen : sequence ∉ account.stream.quotes) :
    ∃ next, recordQuote state (BitVec.ofNat 32 sequence) = .ok next ∧
      Refines { account with stream := account.stream.record sequence within } next := by
  have look := bitmap_getElem? account.stream.quotes within.2
  rw [if_neg seen] at look
  obtain ⟨distinct, late, highest, repeats, map⟩ := account.stream.record_first within seen
  have bounded := account.stream.bounded
  simp only [largestStream] at bounded
  have top := account.stream.highest_le_planned
  have counted : state.validPackets + 1#64 =
      BitVec.ofNat 64 (Arrivals.distinct (account.stream.record sequence within).quotes) := by
    rw [refines.valid, distinct, BitVec.ofNat_add]
  have below : BitVec.ofNat 32 sequence < state.highestSequence ↔
      sequence < Arrivals.highest account.stream.quotes := by
    rw [refines.highest, ofNat_lt_ofNat fits (by omega)]
  have above : BitVec.ofNat 32 sequence > state.highestSequence ↔
      sequence > Arrivals.highest account.stream.quotes := by
    rw [refines.highest, gt_iff_lt, ofNat_lt_ofNat (by omega) fits]
  refine ⟨recordFirst state (bitmap account.stream.planned account.stream.quotes)
    (BitVec.ofNat 32 sequence), ?_, ?_⟩
  · simp [CReceiver.recordQuote, refines.seen running, place, look]
  · exact
      { refines with
        seen := fun _ => by
          rw [recordFirst, place]
          exact congrArg some map.symm
        valid := counted
        duplicate := refines.duplicate.trans (congrArg (BitVec.ofNat 64) repeats.symm)
        outOfOrder := by
          rw [late]
          simp only [recordFirst, below]
          split_ifs
          · rw [refines.outOfOrder, BitVec.ofNat_add]
          · exact refines.outOfOrder
        highest := by
          rw [highest]
          simp only [recordFirst, above]
          split_ifs
          · rfl
          · exact refines.highest }

/-- A quote of the running stream is looked up inside the map and counted once. -/
theorem Refines.recordQuote : ∃ next, recordQuote state (BitVec.ofNat 32 sequence) = .ok next ∧
    Refines { account with stream := account.stream.record sequence within } next := by
  have bounded := account.stream.bounded
  simp only [largestStream] at bounded
  have fits : sequence < 2 ^ 32 := by omega
  have place : (BitVec.ofNat 32 sequence).toNat = sequence := by
    rw [BitVec.toNat_ofNat, Nat.mod_eq_of_lt fits]
  by_cases seen : sequence ∈ account.stream.quotes
  · exact refines.recordQuote_seen running within place seen
  · exact refines.recordQuote_first running within fits place seen

end Quote

/-- Each datagram keeps the account, unless the byte map cannot be allocated. -/
theorem processDatagram_follows :
    Follows Refines (fun arrival stop => arrival.allocated = false ∧ stop = .exitFailure)
      processDatagram (fun account arrival => account.next arrival.datagram) := by
  intro account state arrival refines
  have bounded := account.stream.bounded
  simp only [largestStream] at bounded
  simp only [processDatagram_eq, Account.next]
  cases request arrival.datagram with
  | invalid => exact Or.inl ⟨_, rfl, refines.countInvalid⟩
  | ignored => exact Or.inl ⟨_, rfl, refines⟩
  | start targetPps durationMs planned rate bounded =>
      cases allocated : arrival.allocated with
      | true => exact Or.inl (refines.resetStream _ targetPps durationMs planned rate bounded)
      | false => exact Or.inr ⟨_, rfl, rfl, rfl⟩
  | finish quantity sequence range =>
      left
      have owned := refines.owned_iff arrival.datagram.sender
      by_cases own : account.sender = some arrival.datagram.sender
      · refine ⟨finishStream state (BitVec.ofNat 32 sequence) (BitVec.ofNat 32 quantity),
          respond_finish (owned.mpr own), ?_⟩
        rw [Account.handle, if_pos own]
        exact refines.finishStream range
      · refine ⟨state, respond_finish_foreign (mt owned.mp own), ?_⟩
        rw [Account.handle, if_neg own]
        exact refines
  | quote sequence range =>
      left
      have owned := refines.owned_iff arrival.datagram.sender
      have inside : (¬BitVec.ofNat 32 sequence < 1#32 ∧
          ¬BitVec.ofNat 32 sequence > state.plannedPackets) ↔
          1 ≤ sequence ∧ sequence ≤ account.stream.planned := by
        rw [refines.planned, gt_iff_lt, ofNat_lt_ofNat range (by decide),
          ofNat_lt_ofNat (by omega) range]
        omega
      by_cases counted : account.sender = some arrival.datagram.sender ∧ 1 ≤ sequence ∧
          sequence ≤ account.stream.planned
      · obtain ⟨after, recorded, kept⟩ := refines.recordQuote (by simp [counted.1]) counted.2
        refine ⟨after, ?_, ?_⟩
        · rw [respond_quote (owned.mpr counted.1) (inside.mpr counted.2), recorded]
        · rw [Account.handle, dif_pos counted]
          exact kept
      · refine ⟨state.countInvalid, respond_quote_refused ?_, ?_⟩
        · rw [owned, inside]
          exact counted
        · rw [Account.handle, dif_neg counted]
          exact refines.countInvalid

end Step

/-- So does each call, however many datagrams it returns. -/
theorem receiveCall_follows :
    Follows Refines
      (fun received stop => ∃ arrival ∈ received, arrival.allocated = false ∧ stop = .exitFailure)
      receiveCall
      (fun account received => received.foldl (fun account arrival => account.next arrival.datagram)
        account) := by
  intro account state received refines
  have counted := refines.countCall received.length
  rcases processDatagram_follows.foldlM counted received with
    done | ⟨arrival, member, stop, failed, fits⟩
  · exact Or.inl done
  · exact Or.inr ⟨stop, failed, arrival, member, fits⟩

/-- The grouping into calls makes no difference to the account. -/
theorem main_keeps (calls : List (List Arrival)) :
    (∃ state, main calls = .ok state ∧
      Refines (.after (calls.flatten.map Arrival.datagram)) state) ∨
    ∃ arrival ∈ calls.flatten, arrival.allocated = false ∧ main calls = .error .exitFailure := by
  rw [Account.after, List.foldl_map, List.foldl_flatten]
  rcases receiveCall_follows.foldlM .initial calls with
    done | ⟨call, called, stop, failed, arrival, member, refused, rfl⟩
  · exact Or.inl done
  · exact Or.inr ⟨arrival, List.mem_flatten_of_mem called member, refused, failed⟩

/-- Nor does it inside a call. -/
theorem mainWithin_keeps (calls : List (List Arrival)) (received : List Arrival) (processed : Nat) :
    (∃ state, mainWithin calls received processed = .ok state ∧
      Refines (.after ((calls.flatten ++ received.take processed).map Arrival.datagram)) state) ∨
    ∃ arrival ∈ calls.flatten ++ received.take processed,
      arrival.allocated = false ∧ mainWithin calls received processed = .error .exitFailure := by
  rcases main_keeps calls with ⟨before, ran, kept⟩ | ⟨arrival, member, refused, failed⟩
  · have during := processDatagram_follows.foldlM (kept.countCall received.length)
      (received.take processed)
    have within : mainWithin calls received processed =
        (received.take processed).foldlM processDatagram (before.countCall received.length) := by
      rw [mainWithin, ran]
      rfl
    rw [within, List.map_append, Account.after, List.foldl_append, ← Account.after,
      List.foldl_map]
    rcases during with done | ⟨arrival, member, stop, failed, refused, rfl⟩
    · exact Or.inl done
    · exact Or.inr ⟨arrival, List.mem_append_right _ member, refused, failed⟩
  · refine Or.inr ⟨arrival, List.mem_append_left _ member, refused, ?_⟩
    rw [mainWithin, failed]
    rfl

end HftPipeline.Host.CReceiver
