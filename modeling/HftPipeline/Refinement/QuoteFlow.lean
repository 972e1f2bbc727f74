import HftPipeline.Rtl.PacketFilter
import HftPipeline.Rtl.SequenceTracker
import HftPipeline.Rtl.EngineWrapper
import HftPipeline.Spec.Pipe

/-!
# From packets to forwarded quotes

The filter and the tracker refine the first two stages of the pipeline. A valid
bit stands for the presence of an item, and the payload registers matter only
while it is set.
-/

namespace HftPipeline.Rtl

open HftPipeline.Spec

/-- The registers of a quote port carry an optional quote. -/
def CarriesQuote (valid : Bool) (slot : BitVec 3) (side : BitVec 8) (seq : BitVec 32)
    (timestamp : BitVec 64) (price quantity : BitVec 32) : Option Quote → Prop
  | none => valid = false
  | some quote =>
      valid = true ∧ slot = quote.slot.1 ∧ side = quote.side ∧ seq = quote.seq ∧
        timestamp = quote.timestamp ∧ price = quote.price ∧ quantity = quote.quantity

/-- The two pulse wires carry an optional control message. -/
def CarriesPulse (startPulse endPulse : Bool) : Option Control → Prop
  | none => startPulse = false ∧ endPulse = false
  | some .start => startPulse = true ∧ endPulse = false
  | some .stop => startPulse = false ∧ endPulse = true

namespace PacketFilter

/-- The instrument ID parameter of a slot. -/
def Ids.id (ids : Ids) (slot : Slot) : BitVec 32 :=
  if slot.1 = 0#3 then ids.instrumentId0
  else if slot.1 = 1#3 then ids.instrumentId1
  else if slot.1 = 2#3 then ids.instrumentId2
  else if slot.1 = 3#3 then ids.instrumentId3
  else ids.instrumentId4

/-- The slot of a known instrument: the first one that has its ID. -/
def Ids.slotOf (ids : Ids) (instrumentId : BitVec 32) : Option Slot :=
  slots.find? fun slot => ids.id slot = instrumentId

/-- The comparisons of the filter, one instrument after the other, find that slot. -/
theorem matchInstrument_eq (ids : Ids) (instrumentId : BitVec 32) :
    matchInstrument ids instrumentId =
      match ids.slotOf instrumentId with
      | some slot => (true, slot.1)
      | none => (false, 0#3) := by
  have listed : slots = [.ofFin 0, .ofFin 1, .ofFin 2, .ofFin 3, .ofFin 4] := rfl
  have first : ids.id (.ofFin 0) = ids.instrumentId0 := rfl
  have second : ids.id (.ofFin 1) = ids.instrumentId1 := rfl
  have third : ids.id (.ofFin 2) = ids.instrumentId2 := rfl
  have fourth : ids.id (.ofFin 3) = ids.instrumentId3 := rfl
  have fifth : ids.id (.ofFin 4) = ids.instrumentId4 := rfl
  rw [Ids.slotOf, listed]
  simp only [List.find?_cons, List.find?_nil, first, second, third, fourth, fifth]
  simp only [matchInstrument, eq_comm (b := instrumentId)]
  split_ifs <;> simp_all [Slot.ofFin]

/-- A matched slot has the instrument's ID. -/
theorem Ids.id_of_slotOf {ids : Ids} {instrumentId : BitVec 32} {slot : Slot}
    (matched : ids.slotOf instrumentId = some slot) : instrumentId = ids.id slot := by
  have found := List.find?_some matched
  exact (of_decide_eq_true found).symm

/-- The ID of every slot is known. -/
theorem Ids.exists_slotOf_id (ids : Ids) (slot : Slot) :
    ∃ other, ids.slotOf (ids.id slot) = some other := by
  rw [← Option.isSome_iff_exists, Ids.slotOf, List.find?_isSome]
  exact ⟨slot, mem_slots slot, decide_eq_true rfl⟩

/-- The five parameters are different. -/
def Ids.Distinct (ids : Ids) : Prop :=
  ∀ first second : Slot, ids.id first = ids.id second → first = second

/-- Different parameters give every slot its own instrument. -/
theorem Ids.slotOf_eq_some {ids : Ids} (distinct : ids.Distinct) {instrumentId : BitVec 32}
    {slot : Slot} : ids.slotOf instrumentId = some slot ↔ instrumentId = ids.id slot := by
  constructor
  · exact Ids.id_of_slotOf
  · rintro rfl
    obtain ⟨other, matched⟩ := ids.exists_slotOf_id slot
    rw [matched, distinct slot other (Ids.id_of_slotOf matched)]

/-- The quote in the ports, for a slot that its instrument matches. -/
def Input.quote (input : Input) (slot : Slot) : Quote where
  slot := slot
  side := input.side
  seq := input.seq
  timestamp := input.timestampNs
  price := input.priceTicks
  quantity := input.qntity

/-- A packet is accepted from the parser. -/
def Input.accepted (input : Input) : Bool := input.packetValid && !input.packetError

/-- The message that the input ports of a cycle carry. -/
def Input.message (ids : Ids) (input : Input) : Option Message :=
  if input.accepted then
    if input.messageType = messageStreamStart then some (.control .start)
    else if input.messageType = messageStreamEnd then some (.control .stop)
    else if input.messageType = messageQuoteUpdate then
      (ids.slotOf input.instrumentId).map fun slot => .quote (input.quote slot)
    else none
  else none

/-- What a message says about its packet. -/
theorem message_eq_control {ids : Ids} {input : Input} {control : Control} :
    input.message ids = some (.control control) ↔ input.accepted = true ∧
      input.messageType = match control with
        | .start => messageStreamStart
        | .stop => messageStreamEnd := by
  unfold Input.message
  by_cases accepted : input.accepted = true
  · by_cases started : input.messageType = messageStreamStart
    · cases control <;> simp [accepted, started, messageStreamStart, messageStreamEnd]
    by_cases stopped : input.messageType = messageStreamEnd
    · cases control <;> simp [accepted, stopped, messageStreamStart, messageStreamEnd]
    by_cases quoted : input.messageType = messageQuoteUpdate
    · cases control <;>
        simp [accepted, quoted, messageStreamStart, messageStreamEnd, messageQuoteUpdate]
    · cases control <;> simp [accepted, started, stopped, quoted]
  · simp [accepted]

/-- The filter lets through the accepted quotes of the instruments it knows. -/
theorem message_eq_quote {ids : Ids} {input : Input} {quote : Quote} :
    input.message ids = some (.quote quote) ↔ input.accepted = true ∧
      input.messageType = messageQuoteUpdate ∧
      ∃ slot, ids.slotOf input.instrumentId = some slot ∧ quote = input.quote slot := by
  unfold Input.message
  by_cases accepted : input.accepted = true
  · by_cases started : input.messageType = messageStreamStart
    · simp [accepted, started, messageStreamStart, messageQuoteUpdate]
    by_cases stopped : input.messageType = messageStreamEnd
    · simp [accepted, stopped, messageStreamStart, messageStreamEnd, messageQuoteUpdate]
    by_cases quoted : input.messageType = messageQuoteUpdate
    · rw [if_pos accepted, if_neg started, if_neg stopped, if_pos quoted, Option.map_eq_some_iff]
      constructor
      · rintro ⟨slot, matched, same⟩
        exact ⟨accepted, quoted, slot, matched, (Message.quote.inj same).symm⟩
      · rintro ⟨-, -, slot, matched, rfl⟩
        exact ⟨slot, matched, rfl⟩
    · simp [accepted, started, stopped, quoted]
  · simp [accepted]

/-- The filter registers show the first stage of the pipeline. -/
structure Refines (state : State) (pipe : Pipe) : Prop where
  active : state.streamActive = pipe.active
  pulse : CarriesPulse state.streamStartPulse state.streamEndPulse pipe.pulse
  quote : CarriesQuote state.quoteValid state.instrumentSlot state.quoteSide state.quoteSeq
    state.quoteTimestampNs state.quotePriceTicks state.quoteQuantity pipe.quote

/-- After reset the filter refines the empty pipe. -/
theorem Refines.reset : Refines reset Pipe.initial := ⟨rfl, ⟨rfl, rfl⟩, rfl⟩

/-- One clock keeps the filter a refinement of the pipe's first stage. -/
theorem Refines.next {state : State} {pipe : Pipe} (refines : Refines state pipe) (ids : Ids)
    (weights : Weights) (input : Input) :
    Refines (next ids true state input) (pipe.next weights (input.message ids)) := by
  obtain ⟨active, -, -⟩ := refines
  unfold Input.message PacketFilter.next
  cases accepted : input.accepted with
  | false =>
      change (input.packetValid && !input.packetError) = false at accepted
      simp only [accepted, if_true, Bool.false_eq_true, if_false]
      exact ⟨active, ⟨rfl, rfl⟩, rfl⟩
  | true =>
      change (input.packetValid && !input.packetError) = true at accepted
      simp only [accepted, if_true]
      by_cases started : input.messageType = messageStreamStart
      · simp only [started, if_true]
        exact ⟨rfl, ⟨rfl, rfl⟩, rfl⟩
      by_cases stopped : input.messageType = messageStreamEnd
      · simp only [stopped, if_true, if_neg (show ¬messageStreamEnd = messageStreamStart by decide)]
        exact ⟨rfl, ⟨rfl, rfl⟩, rfl⟩
      simp only [if_neg started, if_neg stopped]
      by_cases quoted : input.messageType = messageQuoteUpdate
      · cases found : ids.slotOf input.instrumentId with
        | none =>
            simp only [matchInstrument_eq, quoted, if_true, found, Option.map_none, decide_true,
              Bool.true_and]
            cases state.streamActive <;> exact ⟨active, ⟨rfl, rfl⟩, rfl⟩
        | some slot =>
            simp only [matchInstrument_eq, quoted, if_true, found, Option.map_some, decide_true,
              Bool.true_and]
            cases held : state.streamActive with
            | false =>
                have idle : pipe.active = false := by rw [← active, held]
                exact ⟨active, ⟨rfl, rfl⟩, by simp [Pipe.next, idle, CarriesQuote, clearPulses]⟩
            | true =>
                have running : pipe.active = true := by rw [← active, held]
                exact ⟨active, ⟨rfl, rfl⟩, by
                  simp [Pipe.next, running, CarriesQuote, Input.quote]⟩
      · simp only [quoted, decide_false, Bool.false_and, if_false, Bool.false_eq_true]
        exact ⟨active, ⟨rfl, rfl⟩, rfl⟩

end PacketFilter

namespace SequenceTracker

/-- The expected and the last number are meaningful while the tracker is initialized. -/
def HoldsLast (state : State) : Option (BitVec 32) → Prop
  | none => state.sequenceInitialized = false
  | some last =>
      state.sequenceInitialized = true ∧ state.lastSeq = last ∧ state.expectedSeq = last + 1#32

/-- Clearing the pulses leaves the last sequence number in place. -/
@[simp] theorem holdsLast_clearPulses {state : State} {last : Option (BitVec 32)} :
    HoldsLast (clearPulses state) last ↔ HoldsLast state last := by
  cases last <;> rfl

/-- An admitted quote becomes the last one and appears at the tracked port. -/
theorem quote_of_admits {state : State} {last : Option (BitVec 32)} (holds : HoldsLast state last)
    (input : Input) (admitted : admits last input.quoteSeq = true) :
    HoldsLast (quote state input) (some input.quoteSeq) ∧
      (quote state input).trackedQuoteValid = true ∧
      (quote state input).trackedInstrumentSlot = input.instrumentSlot ∧
      (quote state input).trackedSide = input.quoteSide ∧
      (quote state input).trackedSeq = input.quoteSeq ∧
      (quote state input).trackedTimestampNs = input.quoteTimestampNs ∧
      (quote state input).trackedPriceTicks = input.quotePriceTicks ∧
      (quote state input).trackedQuantity = input.quoteQuantity := by
  cases last with
  | none =>
      have uninitialized : state.sequenceInitialized = false := holds
      simp [quote, uninitialized, forward, HoldsLast]
  | some last =>
      obtain ⟨initialized, rfl, expected⟩ := holds
      simp only [admits, Bool.or_eq_true, Bool.and_eq_true, decide_eq_true_eq] at admitted
      unfold quote
      rw [initialized, expected]
      by_cases continues : input.quoteSeq = state.lastSeq + 1#32
      · simp [continues, forward, HoldsLast, initialized]
      · obtain ⟨ahead, different⟩ := admitted.resolve_left continues
        simp [continues, different, ahead, forward, HoldsLast, initialized]

/-- A quote that is not admitted leaves the last one and shows nothing. -/
theorem quote_of_not_admits {state : State} {last : Option (BitVec 32)}
    (holds : HoldsLast state last) (input : Input)
    (rejected : admits last input.quoteSeq = false) :
    HoldsLast (quote state input) last ∧
      (quote state input).trackedQuoteValid = state.trackedQuoteValid := by
  cases last with
  | none => simp [admits] at rejected
  | some last =>
      obtain ⟨initialized, rfl, expected⟩ := holds
      simp only [admits, Bool.or_eq_false_iff, decide_eq_false_iff_not] at rejected
      obtain ⟨discontinuous, notAhead⟩ := rejected
      unfold quote
      rw [initialized, expected]
      by_cases repeated : input.quoteSeq = state.lastSeq
      · simp [repeated, HoldsLast]
      · have behind : ¬input.quoteSeq > state.lastSeq + 1#32 := by
          simpa [repeated] using notAhead
        simp [discontinuous, repeated, behind, HoldsLast]

/-- One clock of the tracker, for any pulse and quote at its ports. -/
theorem tracks {state : State} (input : Input) {pulse : Option Control} {quote : Option Quote}
    {last : Option (BitVec 32)} (holds : HoldsLast state last)
    (pulsed : CarriesPulse input.streamStartPulse input.streamEndPulse pulse)
    (offered : CarriesQuote input.quoteValid input.instrumentSlot input.quoteSide input.quoteSeq
      input.quoteTimestampNs input.quotePriceTicks input.quoteQuantity quote) :
    HoldsLast (next true state input) (Pipe.trackLast pulse quote last) ∧
      CarriesQuote (next true state input).trackedQuoteValid
        (next true state input).trackedInstrumentSlot (next true state input).trackedSide
        (next true state input).trackedSeq (next true state input).trackedTimestampNs
        (next true state input).trackedPriceTicks (next true state input).trackedQuantity
        (Pipe.track pulse quote last) := by
  unfold next
  rcases pulse with _ | _ | _
  · obtain ⟨unstarted, unstopped⟩ := pulsed
    simp only [unstarted, unstopped, if_true, Bool.false_eq_true, if_false]
    cases quote with
    | none =>
        have silent : input.quoteValid = false := offered
        simp only [silent, Bool.false_eq_true, if_false]
        exact ⟨holdsLast_clearPulses.mpr holds, rfl⟩
    | some content =>
        obtain ⟨valid, slot, side, seq, timestamp, price, quantity⟩ := offered
        simp only [valid, if_true, Pipe.trackLast, Pipe.track]
        cases admitted : admits last content.seq with
        | true =>
            obtain ⟨recorded, shown⟩ := quote_of_admits (holdsLast_clearPulses.mpr holds) input
              (seq ▸ admitted)
            rw [slot, side, seq, timestamp, price, quantity] at shown
            rw [seq] at recorded
            refine ⟨recorded, ?_⟩
            rw [Option.filter_some, admitted]
            exact shown
        | false =>
            obtain ⟨kept, silent⟩ := quote_of_not_admits (holdsLast_clearPulses.mpr holds) input
              (seq ▸ admitted)
            refine ⟨by simpa using kept, ?_⟩
            rw [Option.filter_some, admitted]
            exact silent
  · simp only [pulsed.1, if_true]
    exact ⟨rfl, rfl⟩
  · simp only [pulsed.1, pulsed.2, if_true, Bool.false_eq_true, if_false]
    exact ⟨rfl, rfl⟩

/-- The tracker registers show the second stage of the pipeline. -/
structure Refines (state : State) (pipe : Pipe) : Prop where
  last : HoldsLast state pipe.last
  tracked : CarriesQuote state.trackedQuoteValid state.trackedInstrumentSlot state.trackedSide
    state.trackedSeq state.trackedTimestampNs state.trackedPriceTicks state.trackedQuantity
    pipe.tracked

/-- After reset the tracker refines the empty pipe. -/
theorem Refines.reset : Refines reset Pipe.initial := ⟨rfl, rfl⟩

/-- One clock keeps the tracker a refinement of the pipe's second stage. -/
theorem Refines.next {filter : PacketFilter.State} {state : State} {pipe : Pipe}
    (refines : Refines state pipe) (feeds : PacketFilter.Refines filter pipe) (weights : Weights)
    (message : Option Message) :
    Refines (next true state (EngineWrapper.trackerInput filter)) (pipe.next weights message) := by
  obtain ⟨last, tracked⟩ :=
    tracks (EngineWrapper.trackerInput filter) refines.last feeds.pulse feeds.quote
  exact ⟨last, tracked⟩

/-- A start pulse empties the stage, whatever the registers held. -/
theorem Refines.start {filter : PacketFilter.State} {pipe : Pipe}
    (pulses : PacketFilter.Refines filter pipe) (started : pipe.pulse = some .start)
    (state : State) (weights : Weights) (message : Option Message) :
    Refines (SequenceTracker.next true state (EngineWrapper.trackerInput filter))
      (pipe.next weights message) := by
  have pulse := pulses.pulse
  rw [started] at pulse
  unfold SequenceTracker.next EngineWrapper.trackerInput
  simp only [pulse.1, if_true]
  constructor
  · simp [Pipe.next, started, Pipe.trackLast, HoldsLast]
  · simp [Pipe.next, started, Pipe.track, CarriesQuote, clearPulses]

end SequenceTracker

end HftPipeline.Rtl
