import HftPipeline.Refinement.QuoteFlow

/-!
# From forwarded quotes to samples

The six memories hold one optional level per side of every book, and the
snapshot registers carry a sample exactly when the update they show is two-sided
and uncrossed. The tracker passes a sequence number along that no book keeps.
-/

namespace HftPipeline.Rtl.InstrumentBook

open HftPipeline.Spec

/-- One side of a book in its three memories. -/
def HoldsLevel (initialized : Bool) (price quantity : BitVec 32) : Option Level → Prop
  | none => initialized = false
  | some level => initialized = true ∧ price = level.price ∧ quantity = level.quantity

/-- The memories hold the books of the five instruments. -/
structure HoldsBooks (state : State) (books : Slot → Book) : Prop where
  bid : ∀ slot : Slot, HoldsLevel (state.bidInitializedMem slot.1) (state.bidPriceMem slot.1)
    (state.bidQuantityMem slot.1) (books slot).bid
  ask : ∀ slot : Slot, HoldsLevel (state.askInitializedMem slot.1) (state.askPriceMem slot.1)
    (state.askQuantityMem slot.1) (books slot).ask

/-- The snapshot shows a two-sided uncrossed update. -/
def Snapshot.sampled (snapshot : Snapshot) : Bool :=
  snapshot.bookUpdateValid && snapshot.bookValid && !snapshot.crossedBook &&
    decide (snapshot.bookInstrumentSlot < 5#3)

/-- The snapshot registers carry an optional sample. -/
def Snapshot.Carries (snapshot : Snapshot) : Option Sample → Prop
  | none => snapshot.sampled = false
  | some sample =>
      snapshot.sampled = true ∧ snapshot.bookInstrumentSlot = sample.slot.1 ∧
        snapshot.bookTimestampNs = sample.timestamp ∧
        snapshot.bookBidPrice = sample.bid.price ∧ snapshot.bookBidQuantity = sample.bid.quantity ∧
        snapshot.bookAskPrice = sample.ask.price ∧ snapshot.bookAskQuantity = sample.ask.quantity

theorem HoldsBooks.clear (state : State) : HoldsBooks (clearBooks state) fun _ => .empty := by
  constructor <;> intro slot <;> simp [clearBooks, Book.empty, HoldsLevel]

/-- A bid replaces its side of one book. -/
theorem HoldsBooks.updateBid {state : State} {books : Slot → Book} (holds : HoldsBooks state books)
    {input : Input} {slot : Slot} (addressed : input.trackedInstrumentSlot = slot.1) :
    HoldsBooks (updateBid state input) (Function.update books slot
      { books slot with bid := some ⟨input.trackedPriceTicks, input.trackedQuantity⟩ }) := by
  constructor <;> intro other
  · simp only [InstrumentBook.updateBid, addressed, SlotArray.write_slot]
    by_cases same : other = slot
    · subst same
      simp [HoldsLevel]
    · simpa [same] using holds.bid other
  · by_cases same : other = slot
    · subst same
      simpa [InstrumentBook.updateBid] using holds.ask other
    · simpa [InstrumentBook.updateBid, same] using holds.ask other

/-- An ask replaces its side of one book. -/
theorem HoldsBooks.updateAsk {state : State} {books : Slot → Book} (holds : HoldsBooks state books)
    {input : Input} {slot : Slot} (addressed : input.trackedInstrumentSlot = slot.1) :
    HoldsBooks (updateAsk state input) (Function.update books slot
      { books slot with ask := some ⟨input.trackedPriceTicks, input.trackedQuantity⟩ }) := by
  constructor <;> intro other
  · by_cases same : other = slot
    · subst same
      simpa [InstrumentBook.updateAsk] using holds.bid other
    · simpa [InstrumentBook.updateAsk, same] using holds.bid other
  · simp only [InstrumentBook.updateAsk, addressed, SlotArray.write_slot]
    by_cases same : other = slot
    · subst same
      simp [HoldsLevel]
    · simpa [same] using holds.ask other

/-- A bid shows the sample that the book it leaves yields. -/
theorem HoldsBooks.shows_updateBid {state : State} {books : Slot → Book}
    (holds : HoldsBooks state books) {input : Input} {quote : Quote}
    (slot : input.trackedInstrumentSlot = quote.slot.1)
    (timestamp : input.trackedTimestampNs = quote.timestamp) :
    (InstrumentBook.updateBid state input).toSnapshot.Carries
      (Book.sample { books quote.slot with
        bid := some ⟨input.trackedPriceTicks, input.trackedQuantity⟩ } quote) := by
  have stored := holds.ask quote.slot
  cases ask : (books quote.slot).ask with
  | none =>
      rw [ask] at stored
      have oneSided : state.askInitializedMem quote.slot.1 = false := stored
      simp [Book.sample, ask, Snapshot.Carries, Snapshot.sampled, InstrumentBook.updateBid, slot,
        oneSided]
  | some level =>
      rw [ask] at stored
      obtain ⟨initialized, price, quantity⟩ := stored
      by_cases uncrossed : input.trackedPriceTicks ≤ level.price
      · simp [Book.sample, ask, Snapshot.Carries, Snapshot.sampled, InstrumentBook.updateBid, slot,
          initialized, price, quantity, uncrossed, timestamp, quote.slot.2]
      · simp [Book.sample, ask, Snapshot.Carries, Snapshot.sampled, InstrumentBook.updateBid, slot,
          initialized, price, uncrossed]

/-- An ask shows the sample that the book it leaves yields. -/
theorem HoldsBooks.shows_updateAsk {state : State} {books : Slot → Book}
    (holds : HoldsBooks state books) {input : Input} {quote : Quote}
    (slot : input.trackedInstrumentSlot = quote.slot.1)
    (timestamp : input.trackedTimestampNs = quote.timestamp) :
    (InstrumentBook.updateAsk state input).toSnapshot.Carries
      (Book.sample { books quote.slot with
        ask := some ⟨input.trackedPriceTicks, input.trackedQuantity⟩ } quote) := by
  have stored := holds.bid quote.slot
  cases bid : (books quote.slot).bid with
  | none =>
      rw [bid] at stored
      have oneSided : state.bidInitializedMem quote.slot.1 = false := stored
      simp [Book.sample, bid, Snapshot.Carries, Snapshot.sampled, InstrumentBook.updateAsk, slot,
        oneSided]
  | some level =>
      rw [bid] at stored
      obtain ⟨initialized, price, quantity⟩ := stored
      by_cases uncrossed : level.price ≤ input.trackedPriceTicks
      · simp [Book.sample, bid, Snapshot.Carries, Snapshot.sampled, InstrumentBook.updateAsk, slot,
          initialized, price, quantity, uncrossed, timestamp, quote.slot.2]
      · simp [Book.sample, bid, Snapshot.Carries, Snapshot.sampled, InstrumentBook.updateAsk, slot,
          initialized, price, uncrossed]

/-- One clock of the books, for any pulse and quote at their ports. -/
theorem stores {state : State} (input : Input) {pulse : Option Control} {tracked : Option Quote}
    {books : Slot → Book} (holds : HoldsBooks state books)
    (pulsed : CarriesPulse input.streamStartPulse input.streamEndPulse pulse)
    (offered : CarriesQuote input.trackedQuoteValid input.trackedInstrumentSlot input.trackedSide
      input.trackedSeq input.trackedTimestampNs input.trackedPriceTicks input.trackedQuantity
      tracked) :
    HoldsBooks (next true state input) (Pipe.storeBooks pulse tracked books) ∧
      (next true state input).toSnapshot.Carries (Pipe.publish pulse tracked books) := by
  have kept : HoldsBooks { state with bookUpdateValid := false } books := ⟨holds.bid, holds.ask⟩
  unfold next
  rcases pulse with _ | _ | _
  · obtain ⟨unstarted, unstopped⟩ := pulsed
    simp only [unstarted, unstopped, if_true, Bool.false_eq_true, if_false]
    cases tracked with
    | none =>
        have silent : input.trackedQuoteValid = false := offered
        simp only [silent, Bool.false_and, Bool.false_eq_true, if_false]
        exact ⟨kept, rfl⟩
    | some quote =>
        obtain ⟨valid, slot, side, seq, timestamp, price, quantity⟩ := offered
        have addressed : input.trackedInstrumentSlot < 5#3 := slot ▸ quote.slot.2
        simp only [valid, addressed, decide_true, Bool.and_self, if_true]
        by_cases isBid : quote.side = 0#8
        · have applied : (books quote.slot).apply quote = some { books quote.slot with
              bid := some ⟨input.trackedPriceTicks, input.trackedQuantity⟩ } := by
            rw [Book.apply, if_pos isBid, price, quantity]
          rw [if_pos (show input.trackedSide = sideBid from side.trans isBid)]
          simp only [Pipe.storeBooks, Pipe.publish, Option.bind_some, applied]
          exact ⟨kept.updateBid slot, kept.shows_updateBid slot timestamp⟩
        · have notBid : ¬input.trackedSide = sideBid := fun bid => isBid (side.symm.trans bid)
          rw [if_neg notBid]
          by_cases isAsk : quote.side = 1#8
          · have applied : (books quote.slot).apply quote = some { books quote.slot with
                ask := some ⟨input.trackedPriceTicks, input.trackedQuantity⟩ } := by
              rw [Book.apply, if_neg isBid, if_pos isAsk, price, quantity]
            rw [if_pos (show input.trackedSide = sideAsk from side.trans isAsk)]
            simp only [Pipe.storeBooks, Pipe.publish, Option.bind_some, applied]
            exact ⟨kept.updateAsk slot, kept.shows_updateAsk slot timestamp⟩
          · have applied : (books quote.slot).apply quote = none := by
              rw [Book.apply, if_neg isBid, if_neg isAsk]
            have notAsk : ¬input.trackedSide = sideAsk := fun ask => isAsk (side.symm.trans ask)
            rw [if_neg notAsk]
            simp only [Pipe.storeBooks, Pipe.publish, Option.bind_some, applied, Option.bind_none]
            exact ⟨kept, rfl⟩
  · simp only [pulsed.1, if_true]
    exact ⟨HoldsBooks.clear state, rfl⟩
  · simp only [pulsed.1, pulsed.2, if_true, Bool.false_eq_true, if_false]
    exact ⟨⟨holds.bid, holds.ask⟩, rfl⟩

/-- The book registers show the third stage of the pipeline. -/
structure Refines (state : State) (pipe : Pipe) : Prop where
  books : HoldsBooks state pipe.books
  sample : state.toSnapshot.Carries pipe.sample

theorem Refines.reset (state : State) : Refines (clearBooks state) Pipe.initial :=
  ⟨HoldsBooks.clear state, rfl⟩

theorem Refines.next {filter : PacketFilter.State} {tracker : SequenceTracker.State}
    {state : State} {pipe : Pipe} (refines : Refines state pipe)
    (pulses : PacketFilter.Refines filter pipe) (feeds : SequenceTracker.Refines tracker pipe)
    (weights : Weights) (message : Option Message) :
    Refines (next true state (EngineWrapper.bookInput filter tracker))
      (pipe.next weights message) := by
  obtain ⟨books, sample⟩ :=
    stores (EngineWrapper.bookInput filter tracker) refines.books pulses.pulse feeds.tracked
  exact ⟨books, sample⟩

/-- A start pulse empties the stage, whatever the registers held. -/
theorem Refines.start {filter : PacketFilter.State} {pipe : Pipe}
    (pulses : PacketFilter.Refines filter pipe) (started : pipe.pulse = some .start)
    (tracker : SequenceTracker.State) (state : State) (weights : Weights)
    (message : Option Message) :
    Refines (InstrumentBook.next true state (EngineWrapper.bookInput filter tracker))
      (pipe.next weights message) := by
  have pulse := pulses.pulse
  rw [started] at pulse
  unfold InstrumentBook.next EngineWrapper.bookInput
  simp only [pulse.1, if_true]
  constructor
  · simpa [Pipe.next, started, Pipe.storeBooks] using HoldsBooks.clear state
  · simp [Pipe.next, started, Pipe.publish, Snapshot.Carries, clearBooks, Snapshot.sampled,
      Snapshot.zero]

end HftPipeline.Rtl.InstrumentBook
