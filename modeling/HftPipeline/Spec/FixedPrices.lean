import HftPipeline.Spec.Session

/-!
# Quotes at fixed prices

While the two prices of an instrument stay where they are, every midpoint is the same
and there is no trend. From the 32nd sample on, each quote is then decided by the two
quantities alone, and the threshold is that of the spread.
-/

namespace HftPipeline.Spec

open HftPipeline.Std

/-- An instrument with a price on each side. -/
structure FixedPrices where
  slot : Rtl.Slot
  bid : BitVec 32
  ask : BitVec 32
  uncrossed : bid ≤ ask

/-- A quote for the bid or the ask with its time and quantity. -/
structure Update where
  isAsk : Bool
  timestamp : BitVec 64
  quantity : BitVec 32

/-- The quantities that stand on the two sides. -/
structure Quantities where
  bid : Option (BitVec 32)
  ask : Option (BitVec 32)

def Quantities.after (quantities : Quantities) (update : Update) : Quantities :=
  if update.isAsk then { quantities with ask := some update.quantity }
  else { quantities with bid := some update.quantity }

namespace FixedPrices

variable (prices : FixedPrices)

/-- The quote of an update under a number. -/
def quote (number : Nat) (update : Update) : Quote where
  slot := prices.slot
  side := if update.isAsk then 1#8 else 0#8
  seq := BitVec.ofNat 32 number
  timestamp := update.timestamp
  price := if update.isAsk then prices.ask else prices.bid
  quantity := update.quantity

/-- Quotes under consecutive numbers. -/
def quotes : Nat → List Update → List Message
  | _, [] => []
  | number, update :: updates => .quote (prices.quote number update) :: quotes (number + 1) updates

/-- The decision on two quantities. -/
def decide (weights : Weights) (timestamp : BitVec 64) (bid ask : BitVec 32) : Decision where
  slot := prices.slot
  timestamp := timestamp
  score := weights.imbalance * (bid.toNat - ask.toNat)
  required := weights.base + weights.spread * (prices.ask.toNat - prices.bid.toNat)

/-- The decisions behind some samples, each on the quantities that its update leaves. -/
def decisions (weights : Weights) : Nat → Quantities → List Update → List Decision
  | _, _, [] => []
  | samples, quantities, update :: updates =>
      match quantities.after update with
      | ⟨some bid, some ask⟩ =>
          (if 32 ≤ samples + 1 then [prices.decide weights update.timestamp bid ask] else []) ++
            decisions weights (samples + 1) (quantities.after update) updates
      | _ => decisions weights samples (quantities.after update) updates

/-- The book of two quantities. -/
def book (quantities : Quantities) : Book :=
  ⟨quantities.bid.map (Level.mk prices.bid), quantities.ask.map (Level.mk prices.ask)⟩

/-- A session that has only seen quotes at these prices, up to a number. -/
structure Holds (number samples : Nat) (quantities : Quantities) (session : Session) : Prop where
  active : session.active = true
  follows : ∀ seq ∈ session.last, seq + 1#32 = BitVec.ofNat 32 number
  book : session.books prices.slot = prices.book quantities
  history : session.history prices.slot =
    List.replicate samples (prices.bid.toNat + prices.ask.toNat)

variable {prices} {number samples : Nat} {quantities : Quantities} {session : Session}

/-- A stream that has just been started. -/
theorem holds_start (prices : FixedPrices) (session : Session) (number : Nat) :
    prices.Holds number 0 ⟨none, none⟩ (session.next (some (.control .start))) :=
  ⟨rfl, by rintro seq ⟨⟩, rfl, rfl⟩

/-- A quote at a fixed price replaces the quantity of its side. -/
theorem apply_book (update : Update) : (prices.book quantities).apply (prices.quote number update) =
    some (prices.book (quantities.after update)) := by
  unfold Book.apply quote book Quantities.after
  cases update.isAsk <;> simp

/-- A book with both quantities is sampled at the two fixed prices. -/
theorem sample_book (update : Update) :
    (prices.book quantities).sample (prices.quote number update) =
    match quantities with
    | ⟨some bid, some ask⟩ => some ⟨prices.slot, update.timestamp, ⟨prices.bid, bid⟩,
        ⟨prices.ask, ask⟩, prices.uncrossed⟩
    | _ => none := by
  obtain ⟨bid, ask⟩ := quantities
  cases bid <;> cases ask <;> simp [book, Book.sample, prices.uncrossed, quote]

section Step

variable (holds : prices.Holds number samples quantities session)
include holds

/-- The next quote is numbered in order and let through. -/
theorem Holds.forwards (update : Update) :
    session.forwards (prices.quote number update) = true := by
  have admitted : admits session.last (BitVec.ofNat 32 number) = true := by
    cases last : session.last with
    | none => rfl
    | some seq => simp [admits, holds.follows seq last]
  simp [Session.forwards, holds.active, quote, admitted]

/-- The next quote makes the book of the quantities after it. -/
theorem Holds.bookAfter (update : Update) : session.bookAfter (prices.quote number update) =
    some (prices.book (quantities.after update)) := by
  rw [Session.bookAfter, if_pos (holds.forwards update)]
  exact (congrArg (Book.apply · _) holds.book).trans (apply_book update)

/-- The next quote is sampled from the book of the quantities after it. -/
theorem Holds.sample (update : Update) : session.sample (prices.quote number update) =
    (prices.book (quantities.after update)).sample (prices.quote number update) := by
  rw [Session.sample, holds.bookAfter]
  rfl

/-- The quote is remembered, and its sample is added when there is one. -/
theorem Holds.next (update : Update) {after : Nat}
    (added : (session.next (some (.quote (prices.quote number update)))).history prices.slot =
      List.replicate after (prices.bid.toNat + prices.ask.toNat)) :
    prices.Holds (number + 1) after (quantities.after update)
      (session.next (some (.quote (prices.quote number update)))) where
  active := holds.active
  follows := by
    simp only [Session.next, holds.forwards update, if_true]
    rintro seq ⟨⟩
    exact (BitVec.ofNat_add number 1).symm
  book := by
    simp only [Session.next, holds.bookAfter update]
    exact Function.update_self _ _ _
  history := added

/-- A quote behind which a side is missing leaves the samples. -/
theorem Holds.next_unsampled {update : Update}
    (missing : session.sample (prices.quote number update) = none) :
    prices.Holds (number + 1) samples (quantities.after update)
      (session.next (some (.quote (prices.quote number update)))) := by
  refine holds.next update ?_
  simp only [Session.next, missing]
  exact holds.history

/-- Any other one adds the midpoint of the prices. -/
theorem Holds.next_sampled {update : Update} {sample : Sample}
    (sampled : session.sample (prices.quote number update) = some sample)
    (slot : sample.slot = prices.slot)
    (midpoint : sample.midpoint2 = prices.bid.toNat + prices.ask.toNat) :
    prices.Holds (number + 1) (samples + 1) (quantities.after update)
      (session.next (some (.quote (prices.quote number update)))) := by
  refine holds.next update ?_
  simp only [Session.next, sampled, Session.historyWith, slot, midpoint, holds.history]
  exact Function.update_self _ _ _

end Step

/-- At fixed prices a window has the same average at any length that it fills. -/
theorem trend_replicate {size count : Nat} (positive : 0 < size) (filled : size ≤ count)
    (midpoint : Nat) :
    RingWindow.recentSum size (List.replicate count midpoint) / size = midpoint := by
  rw [RingWindow.recentSum, List.take_replicate, Nat.min_eq_left filled, List.sum_replicate_nat,
    Nat.mul_div_cancel_left _ positive]

/-- A sample at these prices has no trend. -/
theorem decision_replicate (holds : prices.Holds number samples quantities session)
    (weights : Weights) {update : Update} {bid ask : BitVec 32}
    (sampled : session.sample (prices.quote number update) = some ⟨prices.slot, update.timestamp,
      ⟨prices.bid, bid⟩, ⟨prices.ask, ask⟩, prices.uncrossed⟩) :
    session.decision weights (some (.quote (prices.quote number update))) =
      if 32 ≤ samples + 1 then some (prices.decide weights update.timestamp bid ask) else none := by
  have history : session.historyWith ⟨prices.slot, update.timestamp, ⟨prices.bid, bid⟩,
      ⟨prices.ask, ask⟩, prices.uncrossed⟩ =
        List.replicate (samples + 1) (prices.bid.toNat + prices.ask.toNat) := by
    rw [Session.historyWith, holds.history]
    rfl
  simp only [Session.decision, sampled, Option.bind_some, history, List.length_replicate]
  split_ifs with warm
  · have flat : (RingWindow.recentSum 8 (List.replicate (samples + 1)
        (prices.bid.toNat + prices.ask.toNat)) / 8 : Nat) - (RingWindow.recentSum 32
          (List.replicate (samples + 1) (prices.bid.toNat + prices.ask.toNat)) / 32 : Nat) =
        (0 : Int) := by
      rw [trend_replicate (by decide) (by omega), trend_replicate (by decide) warm, Int.sub_self]
    simp only [Weights.decide, Sample.features, flat, Int.mul_zero, Int.zero_add]
    rfl
  · rfl

/-- The session decides on the quantities alone. -/
theorem Holds.decisions (holds : prices.Holds number samples quantities session)
    (weights : Weights) (updates : List Update) :
    session.decisions weights (prices.quotes number updates) =
      prices.decisions weights samples quantities updates := by
  induction updates generalizing number samples quantities session with
  | nil => rfl
  | cons update updates ih =>
      have sampled := holds.sample update
      rw [sample_book] at sampled
      rw [quotes, Session.decisions]
      generalize left : quantities.after update = remaining at sampled
      obtain ⟨bid, ask⟩ := remaining
      cases bid with
      | none =>
          have silent : session.sample (prices.quote number update) = none := by
            cases ask <;> exact sampled
          rw [ih (holds.next_unsampled silent)]
          simp [Session.decision, silent, FixedPrices.decisions, left]
      | some bid =>
          cases ask with
          | none =>
              rw [ih (holds.next_unsampled sampled)]
              simp [Session.decision, sampled, FixedPrices.decisions, left]
          | some ask =>
              have decided := decision_replicate holds weights sampled
              rw [ih (holds.next_sampled sampled rfl rfl), decided, FixedPrices.decisions, left]
              split_ifs <;> rfl

/-- With both sides quoted, the first updates lead to the first decisions, and 31 samples
lead to none. -/
theorem decisions_take (weights : Weights) (bid ask : BitVec 32) (updates : List Update)
    (count : Nat) :
    prices.decisions weights samples ⟨some bid, some ask⟩ (updates.take count) =
      (prices.decisions weights samples ⟨some bid, some ask⟩ updates).take
        (count - (31 - samples)) := by
  induction updates generalizing samples bid ask count with
  | nil => simp [FixedPrices.decisions]
  | cons update updates ih =>
      cases count with
      | zero => simp [FixedPrices.decisions]
      | succ count =>
          obtain ⟨nextBid, nextAsk, left⟩ : ∃ nextBid nextAsk,
              Quantities.after ⟨some bid, some ask⟩ update = ⟨some nextBid, some nextAsk⟩ := by
            unfold Quantities.after
            split_ifs
            · exact ⟨bid, update.quantity, rfl⟩
            · exact ⟨update.quantity, ask, rfl⟩
          simp only [List.take_succ_cons, FixedPrices.decisions, left, ih]
          split_ifs with warm
          · have all : count - (31 - (samples + 1)) = count := by omega
            have more : count + 1 - (31 - samples) = count + 1 := by omega
            rw [all, more]
            rfl
          · have same : count - (31 - (samples + 1)) = count + 1 - (31 - samples) := by omega
            rw [same]
            rfl

end FixedPrices

end HftPipeline.Spec
