import HftPipeline.Rtl.SequenceAccounting

/-!
# Wraparound of the sequence numbers

The sender counts modulo 2^32, but the tracker's gap test is the plain unsigned
comparison. Over a whole stream it forwards exactly the newer quotes precisely
when every delivered position stays in the newest one's turn of the count, or
follows the last position of a turn. Behind the last number of a turn an older quote
is forwarded as if it left a gap, although the wrapper promises that out-of-order
packets are rejected.
-/

namespace HftPipeline.Rtl.SequenceTracker

open HftPipeline.Std HftPipeline.Std.Arrivals HftPipeline.Std.Records

/-- The delivered position is within half a turn of the newest one. -/
def NearAt (input : Nat → Input) (position : Nat → Nat) (cycle : Nat) : Prop :=
  (input cycle).quoteValid = true → deliveredBefore input position cycle ≠ [] →
    position cycle ≤ highest (deliveredBefore input position cycle) + (2 ^ 31 - 1) ∧
      highest (deliveredBefore input position cycle) ≤ position cycle + (2 ^ 31 - 1)

/-- The plain comparison orders the delivered position like the count does. -/
def ComparableAt (input : Nat → Input) (position : Nat → Nat) (cycle : Nat) : Prop :=
  (input cycle).quoteValid = true → deliveredBefore input position cycle ≠ [] →
    Comparable (highest (deliveredBefore input position cycle)) (position cycle)

instance (input : Nat → Input) (position : Nat → Nat) (cycle : Nat) :
    Decidable (NearAt input position cycle) :=
  inferInstanceAs (Decidable ((input cycle).quoteValid = true →
    deliveredBefore input position cycle ≠ [] →
      position cycle ≤ highest (deliveredBefore input position cycle) + (2 ^ 31 - 1) ∧
        highest (deliveredBefore input position cycle) ≤ position cycle + (2 ^ 31 - 1)))

instance (input : Nat → Input) (position : Nat → Nat) (cycle : Nat) :
    Decidable (ComparableAt input position cycle) :=
  inferInstanceAs (Decidable ((input cycle).quoteValid = true →
    deliveredBefore input position cycle ≠ [] →
      Comparable (highest (deliveredBefore input position cycle)) (position cycle)))

variable {before : State} {start : Input} {input : Nat → Input} {position : Nat → Nat}

/-- Near positions that are comparable are compared in their order. -/
theorem NearAt.ordered {cycle : Nat} (near : NearAt input position cycle)
    (comparable : ComparableAt input position cycle) : OrderedAt input position cycle := by
  intro valid nonempty
  obtain ⟨above, below⟩ := near valid nonempty
  exact ⟨⟨by omega, by omega⟩, comparable valid nonempty⟩

end HftPipeline.Rtl.SequenceTracker
