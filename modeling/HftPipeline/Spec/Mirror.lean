import HftPipeline.Spec.Likeness
import HftPipeline.Spec.Prices

/-!
# Opposite markets

The mirror image of a market takes bids for asks and turns the prices of every instrument
around. It makes decisions at the same quotes with the same thresholds. The imbalance
changes its sign, but both averages of the trend are rounded down on either side, so the
scores are opposite up to one weight of the trend.
-/

namespace HftPipeline.Spec

open HftPipeline.Rtl HftPipeline.Std HftPipeline.Std.RingWindow

/-- The other side of the book. A side that is neither stays as it is. -/
def oppositeSide (side : BitVec 8) : BitVec 8 :=
  if side = 0#8 then 1#8 else if side = 1#8 then 0#8 else side

/-- A level at the price that is left of the total. -/
structure Level.Mirrored (total : Nat) (left right : Level) : Prop where
  price : left.price.toNat + right.price.toNat = total
  quantity : right.quantity = left.quantity

structure Book.Mirrored (total : Nat) (left right : Book) : Prop where
  bid : Option.Rel (Level.Mirrored total) left.ask right.bid
  ask : Option.Rel (Level.Mirrored total) left.bid right.ask

structure Quote.Mirrored (total : Slot → Nat) (left right : Quote) : Prop where
  slot : right.slot = left.slot
  side : right.side = oppositeSide left.side
  seq : right.seq = left.seq
  timestamp : right.timestamp = left.timestamp
  level : Level.Mirrored (total left.slot) ⟨left.price, left.quantity⟩ ⟨right.price, right.quantity⟩

structure Sample.Mirrored (total : Slot → Nat) (left right : Sample) : Prop where
  slot : right.slot = left.slot
  timestamp : right.timestamp = left.timestamp
  bid : left.ask.Mirrored (total left.slot) right.bid
  ask : left.bid.Mirrored (total left.slot) right.ask

/-- Decisions with one threshold and scores that are opposite up to the rounding of the
two averages. -/
structure Decision.Mirrored (weights : Weights) (left right : Decision) : Prop where
  slot : right.slot = left.slot
  timestamp : right.timestamp = left.timestamp
  required : right.required = left.required
  spread : ∃ spread : Nat, left.required = weights.base + weights.spread * spread
  score : |left.score + right.score| ≤ |weights.trend|

/-- BUY and SELL taken for each other. -/
def TradeSignal.opposite : TradeSignal → TradeSignal
  | .hold => .hold
  | .buy => .sell
  | .sell => .buy

section Decidable

instance (total : Nat) (left right : Level) : Decidable (left.Mirrored total right) :=
  decidable_of_iff (left.price.toNat + right.price.toNat = total ∧ right.quantity = left.quantity)
    ⟨fun ⟨price, quantity⟩ => ⟨price, quantity⟩, fun ⟨price, quantity⟩ => ⟨price, quantity⟩⟩

instance (total : Slot → Nat) (left right : Quote) : Decidable (left.Mirrored total right) :=
  decidable_of_iff (right.slot = left.slot ∧ right.side = oppositeSide left.side ∧
      right.seq = left.seq ∧ right.timestamp = left.timestamp ∧
      Level.Mirrored (total left.slot) ⟨left.price, left.quantity⟩ ⟨right.price, right.quantity⟩)
    ⟨fun ⟨slot, side, seq, timestamp, level⟩ => ⟨slot, side, seq, timestamp, level⟩,
      fun ⟨slot, side, seq, timestamp, level⟩ => ⟨slot, side, seq, timestamp, level⟩⟩

end Decidable

section Books

variable {total : Slot → Nat} {first second : Quote}

/-- Mirrored quotes keep mirrored books mirrored, or are refused alike. -/
theorem Book.Mirrored.apply {left right : Book} (mirrored : left.Mirrored (total first.slot) right)
    (quotes : first.Mirrored total second) :
    Option.Rel (Book.Mirrored (total first.slot)) (left.apply first) (right.apply second) := by
  rw [Book.apply, Book.apply, quotes.side, oppositeSide]
  by_cases bids : first.side = 0#8
  · rw [if_pos bids, if_pos bids, if_neg (by decide), if_pos rfl]
    exact .some ⟨mirrored.bid, .some quotes.level⟩
  · rw [if_neg bids, if_neg bids]
    by_cases asks : first.side = 1#8
    · rw [if_pos asks, if_pos asks, if_pos rfl]
      exact .some ⟨.some quotes.level, mirrored.ask⟩
    · rw [if_neg asks, if_neg asks, if_neg bids, if_neg asks]
      exact .none

/-- Mirrored books are crossed alike. -/
theorem Book.Mirrored.sample {left right : Book} (mirrored : left.Mirrored (total first.slot) right)
    (quotes : first.Mirrored total second) :
    Option.Rel (Sample.Mirrored total) (left.sample first) (right.sample second) := by
  obtain ⟨leftBid, leftAsk⟩ := left
  obtain ⟨rightBid, rightAsk⟩ := right
  obtain ⟨bid, ask⟩ := mirrored
  simp only at bid ask
  cases bid with
  | none =>
      cases ask with
      | none => exact .none
      | some => exact .none
  | @some leftAsk rightBid bid =>
      cases ask with
      | none => exact .none
      | @some leftBid rightAsk ask =>
          have crossed : leftBid.price ≤ leftAsk.price ↔ rightBid.price ≤ rightAsk.price := by
            have bidPrice := bid.price
            have askPrice := ask.price
            rw [BitVec.le_def, BitVec.le_def]
            omega
          by_cases uncrossed : leftBid.price ≤ leftAsk.price
          · simp only [Book.sample, dif_pos uncrossed, dif_pos (crossed.mp uncrossed)]
            exact .some ⟨quotes.slot, quotes.timestamp, bid, ask⟩
          · simp only [Book.sample, dif_neg uncrossed, dif_neg (mt crossed.mpr uncrossed)]
            exact .none

/-- The doubled midpoints of mirrored samples add up to twice the total. -/
theorem Sample.Mirrored.midpoint2 {first second : Sample} (mirrored : first.Mirrored total second) :
    first.midpoint2 + second.midpoint2 = 2 * total first.slot := by
  have bid := mirrored.bid.price
  have ask := mirrored.ask.price
  simp only [Sample.midpoint2]
  omega

end Books

/-- The mirror image of a market is a likeness. -/
def Likeness.mirroring (total : Slot → Nat) : Likeness where
  quote := Quote.Mirrored total
  book slot := Book.Mirrored (total slot)
  sample := Sample.Mirrored total
  midpoint2 slot first second := first + second = 2 * total slot
  quote_slot mirrored := mirrored.slot
  quote_seq mirrored := mirrored.seq
  book_empty _ := ⟨.none, .none⟩
  book_apply quotes mirrored := mirrored.apply quotes
  book_sample quotes mirrored := mirrored.sample quotes
  sample_slot mirrored := mirrored.slot
  sample_midpoint2 mirrored := mirrored.midpoint2

section Decisions

variable {total : Slot → Nat} {first second : Sample} {left right : List Nat}

/-- The trends of full histories are opposite up to one, by which either average may be
rounded. -/
theorem Sample.Mirrored.trend (reflected : Reflected (2 * total first.slot) left right)
    (warm : 32 ≤ left.length) :
    |(first.features left).trend + (second.features right).trend| ≤ 1 := by
  have fast := reflected.average 8 (by decide) (by omega)
  have slow := reflected.average 32 (by decide) warm
  simp only [average] at fast slow
  simp only [Sample.features, abs_le]
  omega

/-- A mirrored sample has the opposite imbalance. -/
theorem Sample.Mirrored.imbalance (mirrored : first.Mirrored total second) :
    (second.features right).imbalance = -(first.features left).imbalance := by
  simp only [Sample.features, mirrored.bid.quantity, mirrored.ask.quantity]
  omega

/-- A mirrored sample has the same spread. -/
theorem Sample.Mirrored.spread (mirrored : first.Mirrored total second) :
    (second.features right).spread = (first.features left).spread := by
  have bid := mirrored.bid.price
  have ask := mirrored.ask.price
  simp only [Sample.features]
  omega

/-- The spread of an uncrossed book is not negative. -/
theorem Sample.exists_spread (sample : Sample) (history : List Nat) :
    ∃ spread : Nat, (sample.features history).spread = spread := by
  have uncrossed := BitVec.le_def.mp sample.uncrossed
  exact ⟨sample.ask.price.toNat - sample.bid.price.toNat, (Int.ofNat_sub uncrossed).symm⟩

/-- Mirrored samples lead to mirrored decisions. -/
theorem Likeness.mirroring_decides (total : Slot → Nat) (weights : Weights) :
    (Likeness.mirroring total).Decides weights (Decision.Mirrored weights) := by
  intro first second left right mirrored reflected warm
  have mirrored : first.Mirrored total second := mirrored
  have imbalance : (second.features right).imbalance = -(first.features left).imbalance :=
    mirrored.imbalance
  have spread : (second.features right).spread = (first.features left).spread := mirrored.spread
  constructor
  · exact mirrored.slot
  · exact mirrored.timestamp
  · simp only [Weights.decide, spread]
  · obtain ⟨width, spread⟩ := first.exists_spread left
    exact ⟨width, by rw [Weights.decide, spread]⟩
  · -- the imbalances cancel, and the trends do so up to one
    have scores : (weights.decide (first.features left)).score +
        (weights.decide (second.features right)).score =
          weights.trend * ((first.features left).trend + (second.features right).trend) := by
      simp only [Weights.decide, imbalance]
      ring
    rw [scores, abs_mul]
    exact mul_le_of_le_one_right (abs_nonneg _) (Sample.Mirrored.trend reflected warm)

/-- Mirrored messages lead to mirrored decisions. -/
theorem Session.decisions_mirrored (weights : Weights) {first second : List Message}
    (mirrored : List.Forall₂ (Message.Alike (Quote.Mirrored total)) first second) :
    List.Forall₂ (Decision.Mirrored weights) (Session.initial.decisions weights first)
      (Session.initial.decisions weights second) :=
  (Session.Alike.initial (.mirroring total)).decisions (Likeness.mirroring_decides total weights)
    mirrored

end Decisions

namespace Decision.Mirrored

variable {weights : Weights} {left right : Decision}

/-- A spread only raises the threshold. -/
theorem base_le (mirrored : left.Mirrored weights right) (widens : 0 ≤ weights.spread) :
    weights.base ≤ left.required := by
  obtain ⟨spread, asks⟩ := mirrored.spread
  rw [asks]
  exact le_add_of_nonneg_right (mul_nonneg widens (Int.natCast_nonneg spread))

variable (widens : 0 ≤ weights.spread) (based : |weights.trend| ≤ 2 * weights.base)
include widens based

/-- Away from the thresholds mirrored decisions are opposite. -/
theorem signal_of_clear (mirrored : left.Mirrored weights right)
    (clear : |left.score| + |weights.trend| ≤ left.required ∨
      left.required + |weights.trend| < |left.score|) : right.signal = left.signal.opposite := by
  have required := mirrored.required
  have asks := mirrored.base_le widens
  have room := abs_nonneg weights.trend
  obtain ⟨low, high⟩ := abs_le.mp mirrored.score
  rcases clear with held | traded
  · obtain ⟨above, below⟩ := abs_le.mp (le_sub_iff_add_le.mpr held)
    rw [Decision.signal, Decision.signal, if_neg (by omega), if_neg (by omega), if_neg (by omega),
      if_neg (by omega), TradeSignal.opposite]
  · rcases lt_abs.mp traded with buys | sells
    · rw [Decision.signal, Decision.signal, if_neg (by omega), if_pos (by omega),
        if_pos (by omega), TradeSignal.opposite]
    · rw [Decision.signal, Decision.signal, if_pos (by omega), if_neg (by omega),
        if_pos (by omega), TradeSignal.opposite]

/-- Mirrored decisions never make the same trade. -/
theorem hold_of_same (mirrored : left.Mirrored weights right)
    (same : right.signal = left.signal) : left.signal = .hold := by
  have required := mirrored.required
  have asks := mirrored.base_le widens
  obtain ⟨low, high⟩ := abs_le.mp mirrored.score
  rw [Decision.signal, Decision.signal] at same
  rw [Decision.signal]
  split_ifs at same ⊢ <;> first | rfl | omega

end Decision.Mirrored

end HftPipeline.Spec
