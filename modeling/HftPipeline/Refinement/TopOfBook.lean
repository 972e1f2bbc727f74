import HftPipeline.Rtl.InstrumentBook
import HftPipeline.Spec.Session
import HftPipeline.Std.Register

/-!
# The top of every book

One side of a book is three memory entries that together behave as one register: a
start pulse clears it and a quote of the side and instrument writes it. The snapshot
after a quote shows what the two registers of its instrument then hold.
-/

namespace HftPipeline.Rtl.InstrumentBook

open HftPipeline.Std HftPipeline.Spec

inductive Side where
  | bid
  | ask
deriving DecidableEq

def Side.byte : Side → BitVec 8
  | bid => sideBid
  | ask => sideAsk

/-- A tracked quote for one side of an instrument, under no pulse. -/
structure Input.Applies (input : Input) (side : Side) (slot : Slot) : Prop where
  unstarted : input.streamStartPulse = false
  unstopped : input.streamEndPulse = false
  valid : input.trackedQuoteValid = true
  slot : input.trackedInstrumentSlot = slot.1
  side : input.trackedSide = side.byte

instance (input : Input) (side : Side) (slot : Slot) : Decidable (input.Applies side slot) :=
  decidable_of_iff (input.streamStartPulse = false ∧ input.streamEndPulse = false ∧
      input.trackedQuoteValid = true ∧ input.trackedInstrumentSlot = slot.1 ∧
      input.trackedSide = side.byte)
    ⟨fun ⟨unstarted, unstopped, valid, slot, side⟩ => ⟨unstarted, unstopped, valid, slot, side⟩,
      fun ⟨unstarted, unstopped, valid, slot, side⟩ => ⟨unstarted, unstopped, valid, slot, side⟩⟩

/-- A tracked quote of a known slot and side, under no pulse. -/
def Input.Accepted (input : Input) : Prop :=
  input.trackedQuoteValid = true ∧ input.trackedInstrumentSlot < 5#3 ∧
    (input.trackedSide = 0#8 ∨ input.trackedSide = 1#8) ∧
    input.streamStartPulse = false ∧ input.streamEndPulse = false

/-- An accepted quote is one that applies to some side of some book. -/
theorem Input.accepted_iff (input : Input) :
    input.Accepted ↔ ∃ side slot, input.Applies side slot := by
  constructor
  · rintro ⟨valid, slot, isBid | isAsk, unstarted, unstopped⟩
    · exact ⟨.bid, ⟨_, slot⟩, unstarted, unstopped, valid, rfl, isBid⟩
    · exact ⟨.ask, ⟨_, slot⟩, unstarted, unstopped, valid, rfl, isAsk⟩
  · rintro ⟨side, slot, applies⟩
    refine ⟨applies.valid, applies.slot ▸ slot.2, ?_, applies.unstarted, applies.unstopped⟩
    cases side with
    | bid => exact .inl applies.side
    | ask => exact .inr applies.side

/-- An input applies to at most one side of one book. -/
theorem Input.Applies.unique {input : Input} {side other : Side} {slot otherSlot : Slot}
    (applies : input.Applies side slot) (also : input.Applies other otherSlot) :
    side = other ∧ slot = otherSlot := by
  refine ⟨?_, Subtype.ext (applies.slot.symm.trans also.slot)⟩
  have byte : side.byte = other.byte := applies.side.symm.trans also.side
  cases side <;> cases other <;> first | rfl | exact absurd byte (by decide)

def Input.level (input : Input) : Level := ⟨input.trackedPriceTicks, input.trackedQuantity⟩

/-- What an input does to one side of a book. -/
def Input.event (input : Input) (side : Side) (slot : Slot) : Register.Event Level :=
  if input.streamStartPulse then .clear
  else if input.Applies side slot then .write input.level
  else .keep

/-- A quote that applies is written to its entry. -/
theorem Input.event_of_applies {input : Input} {side : Side} {slot : Slot}
    (applies : input.Applies side slot) : input.event side slot = .write input.level := by
  simp [event, applies, applies.unstarted]

/-- Without a start pulse, what does not apply leaves the entry alone. -/
theorem Input.event_of_not_applies {input : Input} {side : Side} {slot : Slot}
    (unstarted : input.streamStartPulse = false) (ignored : ¬input.Applies side slot) :
    input.event side slot = .keep := by
  simp [event, unstarted, ignored]

/-- An entry is written exactly by the quotes that apply to it. -/
theorem Input.event_eq_write_iff {input : Input} {side : Side} {slot : Slot} {level : Level} :
    input.event side slot = .write level ↔ input.Applies side slot ∧ input.level = level := by
  by_cases applies : input.Applies side slot
  · simp [event_of_applies applies, applies]
  · cases started : input.streamStartPulse <;> simp [event, applies, started]

/-- An entry is kept exactly without a start pulse and a quote for it. -/
theorem Input.event_eq_keep_iff {input : Input} {side : Side} {slot : Slot} :
    input.event side slot = .keep ↔
      input.streamStartPulse = false ∧ ¬input.Applies side slot := by
  unfold event
  split_ifs <;> simp_all

/-- The three memory entries of one side of a book. -/
structure Entry where
  initialized : Bool
  price : BitVec 32
  quantity : BitVec 32
deriving DecidableEq

/-- The entries that hold an optional level. -/
def Entry.holding : Option Level → Entry
  | none => ⟨false, 0#32, 0#32⟩
  | some level => ⟨true, level.price, level.quantity⟩

def State.entry (state : State) (side : Side) (slot : Slot) : Entry :=
  match side with
  | .bid => ⟨state.bidInitializedMem slot.1, state.bidPriceMem slot.1, state.bidQuantityMem slot.1⟩
  | .ask => ⟨state.askInitializedMem slot.1, state.askPriceMem slot.1, state.askQuantityMem slot.1⟩

/-- A start pulse empties every entry. -/
theorem entry_clearBooks (state : State) (side : Side) (slot : Slot) :
    (clearBooks state).entry side slot = .holding none := by
  cases side <;> simp [State.entry, clearBooks, Entry.holding]

/-- A bid replaces the bid of its own book. -/
theorem entry_updateBid (state : State) {input : Input} {addressed : Slot}
    (applies : input.Applies .bid addressed) (side : Side) (slot : Slot) :
    (updateBid state input).entry side slot =
      if side = .bid ∧ slot = addressed then .holding (some input.level)
      else state.entry side slot := by
  cases side with
  | bid =>
      simp only [State.entry, updateBid, applies.slot, SlotArray.write_slot, true_and]
      split_ifs <;> rfl
  | ask => rfl

/-- An ask replaces the ask of its own book. -/
theorem entry_updateAsk (state : State) {input : Input} {addressed : Slot}
    (applies : input.Applies .ask addressed) (side : Side) (slot : Slot) :
    (updateAsk state input).entry side slot =
      if side = .ask ∧ slot = addressed then .holding (some input.level)
      else state.entry side slot := by
  cases side with
  | bid => rfl
  | ask =>
      simp only [State.entry, updateAsk, applies.slot, SlotArray.write_slot, true_and]
      split_ifs <;> rfl

/-! One clock of the books, for every kind of input. -/

/-- The cycle of a start pulse clears the books. -/
theorem next_of_start (state : State) {input : Input} (started : input.streamStartPulse = true) :
    next true state input = clearBooks state := by
  simp [next, started]

/-- A bid that applies goes through the bid branch. -/
theorem next_of_bid (state : State) {input : Input} {slot : Slot}
    (applies : input.Applies .bid slot) :
    next true state input = updateBid { state with bookUpdateValid := false } input := by
  have known : input.trackedInstrumentSlot < 5#3 := applies.slot ▸ slot.2
  have isBid : input.trackedSide = sideBid := applies.side
  simp [next, applies.unstarted, applies.unstopped, applies.valid, known, isBid]

/-- An ask that applies goes through the ask branch. -/
theorem next_of_ask (state : State) {input : Input} {slot : Slot}
    (applies : input.Applies .ask slot) :
    next true state input = updateAsk { state with bookUpdateValid := false } input := by
  have known : input.trackedInstrumentSlot < 5#3 := applies.slot ▸ slot.2
  have isAsk : input.trackedSide = sideAsk := applies.side
  have notBid : sideAsk ≠ sideBid := by decide
  simp [next, applies.unstarted, applies.unstopped, applies.valid, known, isAsk, notBid]

/-- An input that neither starts a stream nor is accepted is published nowhere and
leaves every memory entry alone. -/
theorem next_of_ignored (state : State) {input : Input}
    (unstarted : input.streamStartPulse = false) (ignored : ¬input.Accepted) :
    (next true state input).bookUpdateValid = false ∧
      ∀ side slot, (next true state input).entry side slot = state.entry side slot := by
  unfold next
  simp only [unstarted, if_true, Bool.false_eq_true, if_false]
  split_ifs with stopped offered isBid isAsk
  · exact ⟨rfl, fun _ _ => rfl⟩
  · obtain ⟨valid, known⟩ := Bool.and_eq_true_iff.mp offered
    exact absurd ⟨valid, of_decide_eq_true known, .inl isBid, unstarted,
      Bool.eq_false_iff.mpr stopped⟩ ignored
  · obtain ⟨valid, known⟩ := Bool.and_eq_true_iff.mp offered
    exact absurd ⟨valid, of_decide_eq_true known, .inr isAsk, unstarted,
      Bool.eq_false_iff.mpr stopped⟩ ignored
  · exact ⟨rfl, fun _ _ => rfl⟩
  · exact ⟨rfl, fun _ _ => rfl⟩

/-- A quote for one side of a book writes it. -/
theorem entry_next_of_applies (state : State) {input : Input} {side : Side} {slot : Slot}
    (applies : input.Applies side slot) :
    (next true state input).entry side slot = .holding (some input.level) := by
  cases side with
  | bid =>
      rw [next_of_bid state applies, entry_updateBid _ applies, if_pos ⟨rfl, rfl⟩]
  | ask =>
      rw [next_of_ask state applies, entry_updateAsk _ applies, if_pos ⟨rfl, rfl⟩]

/-- Only a start pulse and a quote for it change one side of a book. -/
theorem entry_next_of_not_applies (state : State) {input : Input} {side : Side} {slot : Slot}
    (unstarted : input.streamStartPulse = false) (ignored : ¬input.Applies side slot) :
    (next true state input).entry side slot = state.entry side slot := by
  by_cases accepted : input.Accepted
  · obtain ⟨quoted, addressed, applies⟩ := input.accepted_iff.mp accepted
    have other : ¬(side = quoted ∧ slot = addressed) := by
      rintro ⟨rfl, rfl⟩
      exact ignored applies
    cases quoted with
    | bid =>
        rw [next_of_bid state applies, entry_updateBid _ applies, if_neg other]
        rfl
    | ask =>
        rw [next_of_ask state applies, entry_updateAsk _ applies, if_neg other]
        rfl
  · exact (next_of_ignored state unstarted accepted).2 side slot

/-- The memories hold a level for each side of every book. -/
def State.HoldsLevels (state : State) (level : Side → Slot → Option Level) : Prop :=
  ∀ side slot, state.entry side slot = .holding (level side slot)

/-- What an input does to the memories is what it does to the registers they form. -/
theorem State.HoldsLevels.next {state : State} {level : Side → Slot → Option Level}
    (holds : state.HoldsLevels level) (input : Input) :
    (InstrumentBook.next true state input).HoldsLevels fun side slot =>
      (input.event side slot).apply (level side slot) := by
  intro side slot
  show _ = Entry.holding ((input.event side slot).apply (level side slot))
  by_cases applies : input.Applies side slot
  · rw [entry_next_of_applies state applies, Input.event_of_applies applies]
    rfl
  · cases started : input.streamStartPulse with
    | true =>
        rw [next_of_start state started, entry_clearBooks]
        simp [Input.event, started, Register.Event.apply]
    | false =>
        rw [entry_next_of_not_applies state started applies,
          Input.event_of_not_applies started applies]
        exact holds side slot

/-- The price the snapshot shows for a side. -/
def shownPrice (level : Option Level) : BitVec 32 := level.elim 0#32 Level.price

/-- The quantity the snapshot shows for a side. -/
def shownQuantity (level : Option Level) : BitVec 32 := level.elim 0#32 Level.quantity

/-- The snapshot shows an input and the two sides of its book. -/
structure Snapshot.Shows (snapshot : Snapshot) (input : Input) (bid ask : Option Level) :
    Prop where
  updated : snapshot.bookUpdateValid = true
  slot : snapshot.bookInstrumentSlot = input.trackedInstrumentSlot
  seq : snapshot.bookSeq = input.trackedSeq
  timestampNs : snapshot.bookTimestampNs = input.trackedTimestampNs
  bidPrice : snapshot.bookBidPrice = shownPrice bid
  bidQuantity : snapshot.bookBidQuantity = shownQuantity bid
  askPrice : snapshot.bookAskPrice = shownPrice ask
  askQuantity : snapshot.bookAskQuantity = shownQuantity ask
  valid : snapshot.bookValid = true ↔ bid.isSome ∧ ask.isSome
  crossed : snapshot.crossedBook = true ↔
    ∃ bidLevel askLevel, bid = some bidLevel ∧ ask = some askLevel ∧
      askLevel.price < bidLevel.price

/-- A bid is shown beside the stored ask. -/
theorem Snapshot.Shows.bid {state : State} {input : Input} {slot : Slot} {ask : Option Level}
    (applies : input.Applies .bid slot) (stored : state.entry .ask slot = .holding ask) :
    (next true state input).toSnapshot.Shows input (some input.level) ask := by
  rw [next_of_bid state applies]
  cases ask with
  | none =>
      simp only [State.entry, Entry.holding, Entry.mk.injEq] at stored
      constructor <;>
        simp [updateBid, applies.slot, stored, Input.level, shownPrice, shownQuantity]
  | some level =>
      simp only [State.entry, Entry.holding, Entry.mk.injEq] at stored
      constructor <;>
        simp [updateBid, applies.slot, stored, Input.level, shownPrice, shownQuantity]

/-- An ask is shown beside the stored bid. -/
theorem Snapshot.Shows.ask {state : State} {input : Input} {slot : Slot} {bid : Option Level}
    (applies : input.Applies .ask slot) (stored : state.entry .bid slot = .holding bid) :
    (next true state input).toSnapshot.Shows input bid (some input.level) := by
  rw [next_of_ask state applies]
  cases bid with
  | none =>
      simp only [State.entry, Entry.holding, Entry.mk.injEq] at stored
      constructor <;>
        simp [updateAsk, applies.slot, stored, Input.level, shownPrice, shownQuantity]
  | some level =>
      simp only [State.entry, Entry.holding, Entry.mk.injEq] at stored
      constructor <;>
        simp [updateAsk, applies.slot, stored, Input.level, shownPrice, shownQuantity]

/-- A quote is published exactly when it is accepted. -/
theorem bookUpdateValid_next (state : State) (input : Input) :
    (next true state input).bookUpdateValid = true ↔ input.Accepted := by
  cases started : input.streamStartPulse with
  | true =>
      rw [next_of_start state started]
      simp [clearBooks, Snapshot.zero, Input.Accepted, started]
  | false =>
      by_cases accepted : input.Accepted
      · obtain ⟨quoted, addressed, applies⟩ := input.accepted_iff.mp accepted
        refine iff_of_true ?_ accepted
        cases quoted with
        | bid => rw [next_of_bid state applies]; rfl
        | ask => rw [next_of_ask state applies]; rfl
      · rw [(next_of_ignored state started accepted).1]
        exact iff_of_false Bool.false_ne_true accepted

section Run

variable (power : State) (input : Nat → Input)

/-- The registers in every cycle after reset. -/
def run (cycle : Nat) : State :=
  Clocked.stateAt (next true) (next false power (input 0)) input cycle

/-- A run goes one clock at a time. -/
theorem run_succ (cycle : Nat) :
    run power input (cycle + 1) = next true (run power input cycle) (input cycle) := rfl

/-- The latest level applied to one side of a book since the last start pulse. -/
def latest (side : Side) (slot : Slot) (cycle : Nat) : Option Level :=
  Register.held (fun n => (input n).event side slot) cycle

/-- The latest level follows the event of each cycle. -/
theorem latest_succ (side : Side) (slot : Slot) (cycle : Nat) :
    latest input side slot (cycle + 1) =
      ((input cycle).event side slot).apply (latest input side slot cycle) := rfl

/-- The latest level is the one of the last quote that applied since the last start. -/
theorem latest_eq_some_iff (side : Side) (slot : Slot) (cycle : Nat) (level : Level) :
    latest input side slot cycle = some level ↔
      ∃ n, n < cycle ∧ ((input n).Applies side slot ∧ (input n).level = level) ∧
        ∀ m, n < m → m < cycle →
          (input m).streamStartPulse = false ∧ ¬(input m).Applies side slot := by
  simp only [latest, Register.held_eq_some_iff, Input.event_eq_write_iff, Input.event_eq_keep_iff]

/-- The memories hold the latest levels in every cycle. -/
theorem run_holdsLevels (cycle : Nat) :
    (run power input cycle).HoldsLevels fun side slot => latest input side slot cycle := by
  induction cycle with
  | zero => exact fun side slot => entry_clearBooks power side slot
  | succ cycle ih => exact ih.next (input cycle)

/-- The snapshot of an applied quote shows both sides of its book. -/
theorem run_shows (cycle : Nat) {side : Side} {slot : Slot}
    (applies : (input cycle).Applies side slot) :
    (run power input (cycle + 1)).toSnapshot.Shows (input cycle)
      (latest input .bid slot (cycle + 1)) (latest input .ask slot (cycle + 1)) := by
  have opposite : ∀ {other}, other ≠ side →
      (run power input cycle).entry other slot =
        .holding (latest input other slot (cycle + 1)) := by
    intro other different
    have kept : (input cycle).event other slot = .keep :=
      Input.event_of_not_applies applies.unstarted fun also => different (also.unique applies).1
    rw [latest_succ, kept]
    exact run_holdsLevels power input cycle other slot
  have written : latest input side slot (cycle + 1) = some (input cycle).level := by
    rw [latest_succ, Input.event_of_applies applies]
    rfl
  rw [run_succ]
  cases side with
  | bid =>
      rw [written]
      exact .bid applies (opposite (by decide))
  | ask =>
      rw [written]
      exact .ask applies (opposite (by decide))

/-- For any registers before reset and any inputs after it: a cycle publishes exactly
when the one before it accepted a quote, and then shows that quote and the latest levels
of both sides of its book; the memories hold the latest levels of all sides, and only a
start pulse and a quote for it change one. -/
theorem shows_latest (cycle : Nat) :
    ((run power input cycle).bookUpdateValid = true ↔
      ∃ previous, cycle = previous + 1 ∧ (input previous).Accepted) ∧
    (∀ side slot level, latest input side slot cycle = some level ↔
      ∃ n, n < cycle ∧ ((input n).Applies side slot ∧ (input n).level = level) ∧
        ∀ m, n < m → m < cycle →
          (input m).streamStartPulse = false ∧ ¬(input m).Applies side slot) ∧
    (∀ side slot, (run power input cycle).entry side slot =
      .holding (latest input side slot cycle)) ∧
    (∀ side slot, (input cycle).Applies side slot →
      (run power input (cycle + 1)).toSnapshot.Shows (input cycle)
        (latest input .bid slot (cycle + 1)) (latest input .ask slot (cycle + 1))) ∧
    ∀ side slot, (input cycle).streamStartPulse = false → ¬(input cycle).Applies side slot →
      (run power input (cycle + 1)).entry side slot = (run power input cycle).entry side slot := by
  refine ⟨?_, fun side slot => latest_eq_some_iff input side slot cycle,
    run_holdsLevels power input cycle, fun _ _ => run_shows power input cycle,
    fun _ _ => entry_next_of_not_applies _⟩
  cases cycle with
  | zero => exact iff_of_false Bool.false_ne_true fun ⟨previous, later, _⟩ => by omega
  | succ previous =>
      rw [run_succ, bookUpdateValid_next]
      constructor
      · exact fun accepted => ⟨previous, rfl, accepted⟩
      · rintro ⟨before, same, accepted⟩
        have equal : before = previous := by omega
        exact equal ▸ accepted

end Run

end HftPipeline.Rtl.InstrumentBook
