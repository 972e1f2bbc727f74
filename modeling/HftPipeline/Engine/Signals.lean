import HftPipeline.Refinement.Engine

/-!
# When the engine signals

For any inputs after reset, packets in every cycle included, the output of a
cycle is determined by the quote eight cycles earlier and by the session before
it.
-/

namespace HftPipeline.Rtl.EngineWrapper

open HftPipeline.Spec HftPipeline.Std

/-- An accepted control message is at the input ports. -/
def isControl (input : Input) : Bool :=
  input.accepted &&
    (input.messageType = PacketFilter.messageStreamStart ||
      input.messageType = PacketFilter.messageStreamEnd)

/-- A cycle has no control pulse exactly when its input is no control message. -/
theorem controlAt_eq_none (params : Params) (input : Nat → Input) (cycle : Nat) :
    Pipe.controlAt (messages params input) cycle = none ↔ isControl (input cycle) = false := by
  constructor
  · intro quiet
    by_contra controlled
    obtain ⟨accepted, kind⟩ := Bool.and_eq_true_iff.mp (Bool.eq_true_of_not_eq_false controlled)
    obtain started | stopped := Bool.or_eq_true_iff.mp kind
    · have message : messages params input cycle = some (.control .start) :=
        PacketFilter.message_eq_control.mpr ⟨accepted, of_decide_eq_true started⟩
      simp [Pipe.controlAt, message] at quiet
    · have message : messages params input cycle = some (.control .stop) :=
        PacketFilter.message_eq_control.mpr ⟨accepted, of_decide_eq_true stopped⟩
      simp [Pipe.controlAt, message] at quiet
  · intro quiet
    cases controlled : Pipe.controlAt (messages params input) cycle with
    | none => rfl
    | some control =>
        obtain ⟨accepted, kind⟩ := PacketFilter.message_eq_control.mp
          (Pipe.controlAt_eq_some (messages params input) controlled)
        cases control <;> simp [isControl, accepted, kind] at quiet

/-- The session that the messages before a cycle lead to. -/
def session (params : Params) (input : Nat → Input) (cycle : Nat) : Session :=
  Pipe.sessionAt (messages params input) cycle

/-- The quote of a cycle leads to a signal: it is accepted for a known instrument
of an active stream, it is admitted, it leaves the book of its slot two-sided and
uncrossed with at least the 32nd sample, and no control message overtakes it. -/
structure Triggers (params : Params) (input : Nat → Input) (cycle : Nat) (slot : Slot)
    (bid ask : Level) : Prop where
  valid : (input cycle).packetValid = true
  errorFree : (input cycle).packetError = false
  isQuote : (input cycle).messageType = PacketFilter.messageQuoteUpdate
  instrument : (input cycle).instrumentId = params.ids.id slot
  active : (session params input cycle).active = true
  admitted : admits (session params input cycle).last (input cycle).seq = true
  book : ((session params input cycle).books slot).apply ((input cycle).quote slot) =
    some ⟨some bid, some ask⟩
  uncrossed : bid.price ≤ ask.price
  warm : 32 ≤ ((session params input cycle).history slot).length + 1
  undisturbed : ∀ delay ∈ [1, 2, 3], isControl (input (cycle + delay)) = false

/-- The midpoint samples of a slot, newest first, with the one of the quote. -/
def samples (params : Params) (input : Nat → Input) (cycle : Nat) (slot : Slot) (bid ask : Level) :
    List Nat :=
  (bid.price.toNat + ask.price.toNat) :: (session params input cycle).history slot

/-- Four times the trend plus the imbalance. -/
def directionScore (params : Params) (input : Nat → Input) (cycle : Nat) (slot : Slot)
    (bid ask : Level) : Int :=
  let window := samples params input cycle slot bid ask
  4 * ((((window.take 8).sum / 8 : Nat) : Int) - ((window.take 32).sum / 32 : Nat)) +
    (bid.quantity.toNat - ask.quantity.toNat)

def requiredScore (bid ask : Level) : Int := 100 + 2 * (ask.price.toNat - bid.price.toNat)

/-- A quote is undisturbed when no control message comes in the three cycles behind it. -/
theorem undisturbed_iff (params : Params) (input : Nat → Input) (cycle : Nat) :
    Pipe.Undisturbed (messages params input) cycle ↔
      ∀ delay ∈ [1, 2, 3], isControl (input (cycle + delay)) = false := by
  simp [Pipe.Undisturbed, controlAt_eq_none]

/-- The decision of a sample, spelled out. -/
theorem decide_features (params : Params) (input : Nat → Input) (cycle : Nat) (sample : Sample) :
    weights.decide (sample.features ((session params input cycle).historyWith sample)) =
      ⟨sample.slot, sample.timestamp,
        directionScore params input cycle sample.slot sample.bid sample.ask,
        requiredScore sample.bid sample.ask⟩ := by
  simp [weights_eq, Weights.decide, Sample.features, directionScore, requiredScore, samples,
    RingWindow.recentSum, Session.historyWith, Sample.midpoint2]

/-- A cycle leads to a decision exactly when its quote triggers one. -/
theorem decisionAt_eq_some {params : Params} (distinct : params.ids.Distinct)
    (input : Nat → Input) (cycle : Nat) (decision : Decision) :
    Pipe.decisionAt weights (messages params input) cycle = some decision ↔
      ∃ slot bid ask, Triggers params input cycle slot bid ask ∧
        decision = ⟨slot, (input cycle).timestampNs,
          directionScore params input cycle slot bid ask, requiredScore bid ask⟩ := by
  unfold Pipe.decisionAt
  constructor
  · intro decided
    split_ifs at decided with quiet
    cases held : messages params input cycle with
    | none => simp [held, Session.decision] at decided
    | some content =>
        cases content with
        | control control => simp [held, Session.decision] at decided
        | quote quote =>
            rw [held] at decided
            obtain ⟨sample, sampled, warm, rfl⟩ := Session.decision_eq_some.mp decided
            obtain ⟨counts, applied, slot, timestamp⟩ := Session.sample_eq_some.mp sampled
            obtain ⟨active, admitted⟩ := Bool.and_eq_true_iff.mp counts
            obtain ⟨accepted, isQuote, matchedSlot, matched, rfl⟩ :=
              PacketFilter.message_eq_quote.mp held
            obtain ⟨valid, errorFree⟩ := Bool.and_eq_true_iff.mp accepted
            obtain rfl : sample.slot = matchedSlot := slot
            refine ⟨sample.slot, sample.bid, sample.ask, ⟨valid, by simpa using errorFree, isQuote,
              (PacketFilter.Ids.slotOf_eq_some distinct).mp matched, active, admitted, applied,
              sample.uncrossed, warm, (undisturbed_iff params input cycle).mp quiet⟩, ?_⟩
            exact (decide_features params input cycle sample).trans (by rw [timestamp]; rfl)
  · rintro ⟨slot, bid, ask, triggers, rfl⟩
    have message : messages params input cycle = some (.quote ((input cycle).quote slot)) :=
      PacketFilter.message_eq_quote.mpr
        ⟨by simp [PacketFilter.Input.accepted, triggers.valid, triggers.errorFree],
          triggers.isQuote, slot,
          (PacketFilter.Ids.slotOf_eq_some distinct).mpr triggers.instrument, rfl⟩
    have counts : (session params input cycle).forwards ((input cycle).quote slot) = true :=
      Bool.and_eq_true_iff.mpr ⟨triggers.active, triggers.admitted⟩
    have sampled : (session params input cycle).sample ((input cycle).quote slot) =
        some ⟨slot, (input cycle).timestampNs, bid, ask, triggers.uncrossed⟩ :=
      Session.sample_eq_some.mpr ⟨counts, triggers.book, rfl, rfl⟩
    rw [if_pos ((undisturbed_iff params input cycle).mpr triggers.undisturbed), message]
    exact Session.decision_eq_some.mpr ⟨_, sampled, triggers.warm,
      (decide_features params input cycle
        ⟨slot, (input cycle).timestampNs, bid, ask, triggers.uncrossed⟩).symm⟩

/-- The code of a signal: buy above the threshold, sell below its negation. -/
def signalFor (score required : Int) : BitVec 2 :=
  if required < score then WeightedDecision.signalBuy
  else if score < -required then WeightedDecision.signalSell
  else WeightedDecision.signalHold

/-- A decision has the bits that its scores call for. -/
theorem bits_signal (decision : Decision) :
    decision.signal.bits = signalFor decision.score decision.required := by
  unfold Decision.signal signalFor
  split_ifs <;> rfl

/-- The wrapper signals in exactly those cycles that lie eight after a triggering
quote, and then shows the slot, the time and the scores of that quote. -/
theorem signals_exactly (params : Params) (distinct : params.ids.Distinct) (before : State)
    (held : Input) (input : Nat → Input) (cycle : Nat) :
    ((output (run params before held input cycle)).signalValid = true ↔
      ∃ quoted slot bid ask, cycle = quoted + 8 ∧ Triggers params input quoted slot bid ask) ∧
    ∀ quoted slot bid ask, cycle = quoted + 8 → Triggers params input quoted slot bid ask →
      (output (run params before held input cycle)).signalInstrumentSlot = slot.1 ∧
      (output (run params before held input cycle)).signalTimestampNs =
        (input quoted).timestampNs ∧
      (output (run params before held input cycle)).directionScore.toInt =
        directionScore params input quoted slot bid ask ∧
      (output (run params before held input cycle)).requiredScore.toInt = requiredScore bid ask ∧
      (output (run params before held input cycle)).tradeSignal =
        signalFor (directionScore params input quoted slot bid ask) (requiredScore bid ask) := by
  constructor
  · constructor
    · intro signalled
      by_cases early : cycle < 8
      · rw [silent_early params before held input early] at signalled
        cases signalled
      · obtain ⟨quoted, rfl⟩ : ∃ quoted, cycle = quoted + 8 := ⟨cycle - 8, by omega⟩
        have shown := shows_decisionAt params before held input quoted
        cases decided : Pipe.decisionAt weights (messages params input) quoted with
        | none =>
            rw [decided] at shown
            rw [shown] at signalled
            cases signalled
        | some decision =>
            obtain ⟨slot, bid, ask, triggers, -⟩ :=
              (decisionAt_eq_some distinct input quoted decision).mp decided
            exact ⟨quoted, slot, bid, ask, rfl, triggers⟩
    · rintro ⟨quoted, slot, bid, ask, rfl, triggers⟩
      have shown := shows_decisionAt params before held input quoted
      rw [(decisionAt_eq_some distinct input quoted _).mpr ⟨slot, bid, ask, triggers, rfl⟩] at shown
      exact shown.1
  · rintro quoted slot bid ask rfl triggers
    have shown := shows_decisionAt params before held input quoted
    rw [(decisionAt_eq_some distinct input quoted _).mpr ⟨slot, bid, ask, triggers, rfl⟩] at shown
    obtain ⟨-, shownSlot, timestamp, score, required, signal⟩ := shown
    exact ⟨shownSlot, timestamp, score, required, signal.trans (bits_signal _)⟩

/-- A start, and from then on one quote of instrument 1 in every cycle: its bid of 500
at price 1000 and its ask of 10 at price 1001 in turn. -/
def steadyPacket (cycle : Nat) : Input where
  packetValid := true
  packetError := false
  messageType :=
    if cycle = 0 then PacketFilter.messageStreamStart else PacketFilter.messageQuoteUpdate
  side := BitVec.ofNat 8 (cycle % 2)
  seq := BitVec.ofNat 32 cycle
  timestampNs := BitVec.ofNat 64 cycle
  instrumentId := 1#32
  priceTicks := BitVec.ofNat 32 (1000 + cycle % 2)
  qntity := BitVec.ofNat 32 (500 - 490 * (cycle % 2))

/-- The slot of instrument 1. -/
def firstSlot : Slot := ⟨0#3, by decide⟩

def steadyBid : Level := ⟨1000#32, 500#32⟩
def steadyAsk : Level := ⟨1001#32, 10#32⟩

/-- The session after the start and the quotes of the cycles from 1 to `count + 1`. -/
structure Steady (count : Nat) (session : Session) : Prop where
  active : session.active = true
  last : session.last = some (BitVec.ofNat 32 (count + 1))
  book : session.books firstSlot = ⟨if count = 0 then none else some steadyBid, some steadyAsk⟩
  history : session.history firstSlot = List.replicate count 2001

/-- Every steady packet brings a quote of the first slot. -/
theorem message_steadyPacket (cycle : Nat) :
    (steadyPacket (cycle + 1)).message Params.default.ids =
      some (.quote ((steadyPacket (cycle + 1)).quote firstSlot)) :=
  PacketFilter.message_eq_quote.mpr ⟨rfl, by simp [steadyPacket], firstSlot, rfl, rfl⟩

/-- A later quote leaves the book two-sided. -/
theorem Steady.apply {count : Nat} {session : Session} (steady : Steady count session) :
    (session.books firstSlot).apply ((steadyPacket (count + 2)).quote firstSlot) =
      some ⟨some steadyBid, some steadyAsk⟩ := by
  rw [steady.book]
  rcases Nat.mod_two_eq_zero_or_one count with even | odd
  · have residue : (count + 2) % 2 = 0 := by omega
    simp [Book.apply, PacketFilter.Input.quote, steadyPacket, residue, steadyBid]
  · have residue : (count + 2) % 2 = 1 := by omega
    have later : count ≠ 0 := by omega
    simp [Book.apply, PacketFilter.Input.quote, steadyPacket, residue, steadyAsk, later]

/-- A later quote continues the sequence. -/
theorem Steady.forwards {count : Nat} {session : Session} (steady : Steady count session) :
    session.forwards ((steadyPacket (count + 2)).quote firstSlot) = true := by
  have continues : BitVec.ofNat 32 (count + 2) = BitVec.ofNat 32 (count + 1) + 1#32 := by
    rw [← BitVec.ofNat_add]
  simp [Session.forwards, steady.active, steady.last, admits, PacketFilter.Input.quote,
    steadyPacket, continues]

/-- Each steady quote completes a sample of the two steady prices. -/
theorem Steady.sample {count : Nat} {session : Session} (steady : Steady count session) :
    session.sample ((steadyPacket (count + 2)).quote firstSlot) =
      some ⟨firstSlot, BitVec.ofNat 64 (count + 2), steadyBid, steadyAsk, by decide⟩ :=
  Session.sample_eq_some.mpr ⟨steady.forwards, steady.apply, rfl, rfl⟩

/-- Each steady quote makes the steady session one sample longer. -/
theorem Steady.next {count : Nat} {session : Session} (steady : Steady count session) :
    Steady (count + 1)
      (session.next (some (.quote ((steadyPacket (count + 2)).quote firstSlot)))) where
  active := steady.active
  last := by
    simp only [Session.next, steady.forwards, if_true]
    rfl
  book := by
    have applied : session.bookAfter ((steadyPacket (count + 2)).quote firstSlot) =
        some ⟨some steadyBid, some steadyAsk⟩ := by
      rw [Session.bookAfter, if_pos steady.forwards]
      exact steady.apply
    simp only [Session.next, applied]
    exact Function.update_self _ _ _
  history := by
    simp only [Session.next, steady.sample, Session.historyWith, steady.history]
    exact Function.update_self _ _ _

/-- The steady stream reaches the books from the first cycle on. -/
theorem steady_session (count : Nat) :
    Steady count (session Params.default steadyPacket (count + 2)) := by
  induction count with
  | zero => exact ⟨rfl, rfl, rfl, rfl⟩
  | succ count ih =>
      have step : session Params.default steadyPacket (count + 1 + 2) =
          (session Params.default steadyPacket (count + 2)).next
            ((steadyPacket (count + 2)).message Params.default.ids) := rfl
      rw [step, message_steadyPacket (count + 1)]
      exact ih.next

/-- The default parameters are different. -/
theorem distinct_default : PacketFilter.Ids.default.Distinct := by
  have separate : ∀ first second : BitVec 3, (low : first < 5#3) → (small : second < 5#3) →
      PacketFilter.Ids.default.id ⟨first, low⟩ = PacketFilter.Ids.default.id ⟨second, small⟩ →
        first = second := by
    decide
  intro first second same
  exact Subtype.ext (separate first.1 second.1 first.2 second.2 same)

/-- The quote in cycle 33 of the steady stream brings the 32nd sample. -/
theorem steady_triggers :
    Triggers Params.default steadyPacket 33 firstSlot steadyBid steadyAsk where
  valid := rfl
  errorFree := rfl
  isQuote := rfl
  instrument := rfl
  active := (steady_session 31).active
  admitted := (Bool.and_eq_true_iff.mp (steady_session 31).forwards).2
  book := (steady_session 31).apply
  uncrossed := by decide
  warm := by simp [(steady_session 31).history]
  undisturbed := by decide

/-- The steady prices score 490. -/
theorem directionScore_steady :
    directionScore Params.default steadyPacket 33 firstSlot steadyBid steadyAsk = 490 := by
  have history := (steady_session 31).history
  simp [directionScore, samples, history, steadyBid, steadyAsk]

/-- A state with one value in every history cell and an unnamed state in every lane. -/
def stale (value : BitVec 33) : State where
  packetFilter := PacketFilter.reset
  sequenceTracker := SequenceTracker.reset
  instrumentBook :=
    { toSnapshot := InstrumentBook.Snapshot.zero
      bidPriceMem := fun _ => value.setWidth 32
      bidQuantityMem := fun _ => value.setWidth 32
      askPriceMem := fun _ => value.setWidth 32
      askQuantityMem := fun _ => value.setWidth 32
      bidInitializedMem := fun _ => true
      askInitializedMem := fun _ => true }
  featureEngine :=
    { toFeature := FeatureEngine.Feature.zero
      lanes := fun _ =>
        { fastBuffer := fun _ => value
          fastPointer := value.setWidth 3
          fastSum := value.setWidth 36
          slowBuffer := fun _ => value
          slowPointer := value.setWidth 5
          slowSum := value.setWidth 38
          sampleCount := value.setWidth 6
          currentState := .unnamed }
      calculationValidS1 := true
      instrumentSlotS1 := value.setWidth 3
      timestampS1 := value.setWidth 64
      quantityImbalanceS1 := value
      spreadS1 := value.setWidth 32 }
  weightedDecision := WeightedDecision.reset

/-- Eight cycles later the engine buys: the score is 490 and the threshold 102. -/
theorem signals_exactly_steady :
    let shown := output (run Params.default (stale 7#33) (steadyPacket 1) steadyPacket 41)
    shown.signalValid = true ∧ shown.signalInstrumentSlot = 0#3 ∧
      shown.signalTimestampNs = 33#64 ∧ shown.directionScore.toInt = 490 ∧
      shown.requiredScore.toInt = 102 ∧ shown.tradeSignal = WeightedDecision.signalBuy := by
  obtain ⟨signalled, shows⟩ := signals_exactly Params.default distinct_default (stale 7#33)
    (steadyPacket 1) steadyPacket 41
  obtain ⟨slot, timestamp, score, required, signal⟩ :=
    shows 33 firstSlot steadyBid steadyAsk rfl steady_triggers
  rw [directionScore_steady] at score signal
  exact ⟨signalled.mpr ⟨33, firstSlot, steadyBid, steadyAsk, rfl, steady_triggers⟩, slot, timestamp,
    score, required, signal⟩

end HftPipeline.Rtl.EngineWrapper
