import Mathlib.Algebra.Order.Ring.Abs
import Mathlib.Algebra.Order.Ring.Int
import HftPipeline.Spec.Likeness
import HftPipeline.Std.Averages

/-!
# Prices and decisions

The rule of a decision reads prices as differences only. Moving all prices of an
instrument by the same distance changes none of its decisions, and the trend is bounded
by the range of the last 32 midpoints, so that a quiet market is held.
-/

namespace HftPipeline.Spec

open HftPipeline.Rtl HftPipeline.Std HftPipeline.Std.RingWindow

/-- A level at a price moved by some distance. -/
structure Level.Moved (distance : Int) (left right : Level) : Prop where
  price : (right.price.toNat : Int) = left.price.toNat + distance
  quantity : right.quantity = left.quantity

structure Book.Moved (distance : Int) (left right : Book) : Prop where
  bid : Option.Rel (Level.Moved distance) left.bid right.bid
  ask : Option.Rel (Level.Moved distance) left.ask right.ask

structure Quote.Moved (distance : Slot → Int) (left right : Quote) : Prop where
  slot : right.slot = left.slot
  side : right.side = left.side
  seq : right.seq = left.seq
  timestamp : right.timestamp = left.timestamp
  level : Level.Moved (distance left.slot) ⟨left.price, left.quantity⟩ ⟨right.price, right.quantity⟩

/-- The same message, with the price of a quote moved by the distance of its instrument. -/
inductive Message.Moved (distance : Slot → Int) : Message → Message → Prop where
  | control (pulse : Control) : Moved distance (.control pulse) (.control pulse)
  | quote {left right : Quote} (moved : left.Moved distance right) :
      Moved distance (.quote left) (.quote right)

structure Sample.Moved (distance : Slot → Int) (left right : Sample) : Prop where
  slot : right.slot = left.slot
  timestamp : right.timestamp = left.timestamp
  bid : left.bid.Moved (distance left.slot) right.bid
  ask : left.ask.Moved (distance left.slot) right.ask

section Decidable

instance (distance : Int) (left right : Level) : Decidable (left.Moved distance right) :=
  decidable_of_iff ((right.price.toNat : Int) = left.price.toNat + distance ∧
      right.quantity = left.quantity)
    ⟨fun ⟨price, quantity⟩ => ⟨price, quantity⟩, fun ⟨price, quantity⟩ => ⟨price, quantity⟩⟩

instance (distance : Slot → Int) (left right : Quote) : Decidable (left.Moved distance right) :=
  decidable_of_iff (right.slot = left.slot ∧ right.side = left.side ∧ right.seq = left.seq ∧
      right.timestamp = left.timestamp ∧
      Level.Moved (distance left.slot) ⟨left.price, left.quantity⟩ ⟨right.price, right.quantity⟩)
    ⟨fun ⟨slot, side, seq, timestamp, level⟩ => ⟨slot, side, seq, timestamp, level⟩,
      fun ⟨slot, side, seq, timestamp, level⟩ => ⟨slot, side, seq, timestamp, level⟩⟩

instance (distance : Slot → Int) : ∀ left right, Decidable (Message.Moved distance left right)
  | .control left, .control right =>
      decidable_of_iff (left = right) ⟨by rintro rfl; exact .control left, by rintro ⟨⟩; rfl⟩
  | .quote left, .quote right =>
      decidable_of_iff (left.Moved distance right) ⟨.quote, fun | .quote moved => moved⟩
  | .control _, .quote _ => isFalse nofun
  | .quote _, .control _ => isFalse nofun

end Decidable

section Books

variable {distance : Slot → Int} {first second : Quote}

/-- Moved quotes keep moved books moved, or are refused alike. -/
theorem Book.Moved.apply {left right : Book} (moved : left.Moved (distance first.slot) right)
    (quotes : first.Moved distance second) :
    Option.Rel (Book.Moved (distance first.slot)) (left.apply first) (right.apply second) := by
  rw [Book.apply, Book.apply, quotes.side]
  split_ifs
  · exact .some ⟨.some quotes.level, moved.ask⟩
  · exact .some ⟨moved.bid, .some quotes.level⟩
  · exact .none

/-- Moved books are crossed alike. -/
theorem Book.Moved.sample {left right : Book} (moved : left.Moved (distance first.slot) right)
    (quotes : first.Moved distance second) :
    Option.Rel (Sample.Moved distance) (left.sample first) (right.sample second) := by
  obtain ⟨leftBid, leftAsk⟩ := left
  obtain ⟨rightBid, rightAsk⟩ := right
  obtain ⟨bid, ask⟩ := moved
  simp only at bid ask
  cases bid with
  | none => exact .none
  | @some leftBid rightBid bid =>
      cases ask with
      | none => exact .none
      | @some leftAsk rightAsk ask =>
          have crossed : leftBid.price ≤ leftAsk.price ↔ rightBid.price ≤ rightAsk.price := by
            have bidPrice := bid.price
            have askPrice := ask.price
            rw [BitVec.le_def, BitVec.le_def]
            omega
          by_cases uncrossed : leftBid.price ≤ leftAsk.price
          · simp only [Book.sample, dif_pos uncrossed, dif_pos (crossed.mp uncrossed)]
            exact .some ⟨quotes.slot, quotes.timestamp, bid, ask⟩
          · simp only [Book.sample, dif_neg uncrossed, dif_neg (mt crossed.mpr uncrossed)]
            exact .none

/-- The doubled midpoint of a moved sample is moved twice the distance. -/
theorem Sample.Moved.midpoint2 {first second : Sample} (moved : first.Moved distance second) :
    (second.midpoint2 : Int) = first.midpoint2 + 2 * distance first.slot := by
  have bid := moved.bid.price
  have ask := moved.ask.price
  simp only [Sample.midpoint2]
  push_cast
  omega

end Books

/-- Prices moved by the same distance are a likeness. -/
def Likeness.moving (distance : Slot → Int) : Likeness where
  quote := Quote.Moved distance
  book slot := Book.Moved (distance slot)
  sample := Sample.Moved distance
  midpoint2 slot first second := (second : Int) = first + 2 * distance slot
  quote_slot moved := moved.slot
  quote_seq moved := moved.seq
  book_empty _ := ⟨.none, .none⟩
  book_apply quotes moved := moved.apply quotes
  book_sample quotes moved := moved.sample quotes
  sample_slot moved := moved.slot
  sample_midpoint2 moved := moved.midpoint2

section Decisions

variable {distance : Slot → Int}

/-- Moved messages are alike up to the move. -/
theorem Message.Moved.alike {first second : Message} (moved : first.Moved distance second) :
    first.Alike (Quote.Moved distance) second := by
  cases moved with
  | control pulse => exact .control pulse
  | quote moved => exact .quote moved

/-- The features of a full history do not see the distance. -/
theorem Sample.Moved.features {first second : Sample} {left right : List Nat}
    (moved : first.Moved distance second) (history : Shifted (2 * distance first.slot) left right)
    (warm : 32 ≤ left.length) : second.features right = first.features left := by
  have fast := history.average 8 (by decide) (by omega)
  have slow := history.average 32 (by decide) warm
  have bid := moved.bid.price
  have ask := moved.ask.price
  simp only [average] at fast slow
  simp only [Sample.features, moved.slot, moved.timestamp, moved.bid.quantity,
    moved.ask.quantity, Features.mk.injEq, true_and]
  refine ⟨?_, ?_⟩ <;> omega

/-- Moved samples lead to the same decision. -/
theorem Likeness.moving_decides (distance : Slot → Int) (weights : Weights) :
    (Likeness.moving distance).Decides weights Eq := by
  intro first second left right moved history warm
  rw [moved.features history warm]

/-- Moved messages lead to the same decisions. -/
theorem Session.decisions_moved (weights : Weights) {first second : List Message}
    (moved : List.Forall₂ (Message.Moved distance) first second) :
    Session.initial.decisions weights first = Session.initial.decisions weights second := by
  have same := (Session.Alike.initial (.moving distance)).decisions
    (Likeness.moving_decides distance weights) (moved.imp fun _ _ => Message.Moved.alike)
  rwa [List.forall₂_eq_eq_eq] at same

end Decisions

section Range

/-- The trend of a full history is at most the range of its last 32 midpoints. -/
theorem Sample.abs_trend_le (sample : Sample) {history : List Nat} {low high : Nat}
    (warm : 32 ≤ history.length)
    (within : ∀ midpoint ∈ history.take 32, low ≤ midpoint ∧ midpoint ≤ high) :
    |(sample.features history).trend| ≤ high - low :=
  averages_between (by decide) (by decide) warm within

variable {weights : Weights} {session : Session} {decision : Decision}

/-- A decision of a list of messages is that of one of them. -/
theorem Session.mem_decisions {messages : List Message}
    (decided : decision ∈ session.decisions weights messages) :
    ∃ front message rest, messages = front ++ message :: rest ∧
      (session.after front).decision weights (some message) = some decision := by
  induction messages generalizing session with
  | nil => cases decided
  | cons message messages ih =>
      rcases List.mem_append.mp decided with now | later
      · exact ⟨[], message, messages, rfl, Option.mem_toList.mp now⟩
      · obtain ⟨front, other, rest, split, decided⟩ := ih later
        exact ⟨message :: front, other, rest, by rw [split, List.cons_append], decided⟩

/-- What a decision has been made of: its sample, and the history that ends with it. -/
structure Decision.MadeOf (weights : Weights) (decision : Decision) (sample : Sample)
    (history : List Nat) : Prop where
  slot : decision.slot = sample.slot
  timestamp : decision.timestamp = sample.timestamp
  required : decision.required =
    weights.base + weights.spread * (sample.ask.price.toNat - sample.bid.price.toNat)
  score : ∀ low high : Nat, (∀ midpoint ∈ history.take 32, low ≤ midpoint ∧ midpoint ≤ high) →
    |decision.score - weights.imbalance * (sample.bid.quantity.toNat - sample.ask.quantity.toNat)| ≤
      |weights.trend| * (high - low)

/-- A decision is made of the sample its quote completes. -/
theorem Session.decision_madeOf {message : Message}
    (decided : session.decision weights (some message) = some decision) :
    ∃ quote sample, message = .quote quote ∧ session.sample quote = some sample ∧
      decision.MadeOf weights sample (session.historyWith sample) := by
  cases message with
  | control => cases decided
  | quote quote =>
      obtain ⟨sample, sampled, warm, rfl⟩ := Session.decision_eq_some.mp decided
      refine ⟨quote, sample, rfl, sampled, rfl, rfl, rfl, ?_⟩
      intro low high within
      have bound := sample.abs_trend_le warm within
      rw [Weights.decide, Sample.features]
      simp only [add_sub_cancel_right, abs_mul]
      exact mul_le_mul_of_nonneg_left bound (abs_nonneg _)

end Range

end HftPipeline.Spec
