import HftPipeline.Rtl.SequenceTracker
import HftPipeline.Std.Clocked
import HftPipeline.Std.Records

/-!
# Accounting of a stream

Quotes carry the low 32 bits of their positions in the sender's count. As long as
each position compares with the newest one as its number does, the tracker's
registers are a function of the positions delivered since the start pulse, and
every quote is classified by where it stands among them.
-/

namespace HftPipeline.Rtl.SequenceTracker

open HftPipeline.Std HftPipeline.Std.Arrivals HftPipeline.Std.Records

/-- Two positions less than a whole turn of the 32-bit count apart. -/
def WithinTurn (newest position : Nat) : Prop :=
  position < newest + 2 ^ 32 ∧ newest < position + 2 ^ 32

/-- The plain comparison of two numbers orders their positions. The expected number
wraps with the count, so behind the last number of a turn the next turn counts as
newer and nothing as older. -/
def Comparable (newest position : Nat) : Prop :=
  if newest % 2 ^ 32 = 2 ^ 32 - 1 then newest ≤ position
  else position / 2 ^ 32 = newest / 2 ^ 32

instance (newest position : Nat) : Decidable (Comparable newest position) :=
  inferInstanceAs (Decidable (if newest % 2 ^ 32 = 2 ^ 32 - 1 then newest ≤ position
    else position / 2 ^ 32 = newest / 2 ^ 32))

section Comparison

variable {newest position : Nat} (within : WithinTurn newest position)

include within

/-- Within the field's range the words are equal exactly when the positions are. -/
theorem eq_last_iff : BitVec.ofNat 32 position = BitVec.ofNat 32 newest ↔ position = newest := by
  unfold WithinTurn at within
  rw [← BitVec.toNat_inj, BitVec.toNat_ofNat, BitVec.toNat_ofNat]
  omega

variable (comparable : Comparable newest position)

include comparable

/-- Within range the word is the expected one exactly at the next position. -/
theorem eq_expected_iff :
    BitVec.ofNat 32 position = BitVec.ofNat 32 (newest + 1) ↔ position = newest + 1 := by
  unfold WithinTurn at within
  unfold Comparable at comparable
  rw [← BitVec.toNat_inj, BitVec.toNat_ofNat, BitVec.toNat_ofNat]
  split_ifs at comparable <;> omega

/-- Within range the word is above the expected one exactly behind a gap. -/
theorem gt_expected_iff :
    BitVec.ofNat 32 position > BitVec.ofNat 32 (newest + 1) ∧ position ≠ newest ↔
      newest + 1 < position := by
  unfold WithinTurn at within
  unfold Comparable at comparable
  rw [gt_iff_lt, BitVec.lt_def, BitVec.toNat_ofNat, BitVec.toNat_ofNat]
  split_ifs at comparable <;> omega

end Comparison

/-- The registers as a function of the positions delivered since the start pulse. -/
structure Accounts (state : State) (positions : List Nat) : Prop where
  initialized : state.sequenceInitialized = true ↔ positions ≠ []
  last : positions ≠ [] → state.lastSeq = BitVec.ofNat 32 (highest positions)
  expected : positions ≠ [] → state.expectedSeq = BitVec.ofNat 32 (highest positions + 1)
  missing : state.missingCount = BitVec.ofNat 32 (skipped positions).card
  duplicates : state.duplicateCount = BitVec.ofNat 32 (repeats positions).length
  outOfOrder : state.outOfOrderCount = BitVec.ofNat 32 (behind positions).length

/-- The tracked outputs repeat the quote of the cycle before. -/
structure Repeats (state : State) (input : Input) : Prop where
  slot : state.trackedInstrumentSlot = input.instrumentSlot
  side : state.trackedSide = input.quoteSide
  seq : state.trackedSeq = input.quoteSeq
  timestampNs : state.trackedTimestampNs = input.quoteTimestampNs
  priceTicks : state.trackedPriceTicks = input.quotePriceTicks
  quantity : state.trackedQuantity = input.quoteQuantity

/-- The outputs after a quote classify its position among the earlier ones. -/
structure Classifies (state : State) (input : Input) (earlier : List Nat)
    (position : Nat) : Prop where
  forwarded : state.trackedQuoteValid = true ↔ IsRecord earlier position
  unchanged : state.trackedQuoteValid = true → Repeats state input
  missing : state.missingPacket = true ↔ earlier ≠ [] ∧ highest earlier + 1 < position
  duplicate : state.duplicatePacket = true ↔ IsRepeat earlier position
  outOfOrder : state.outOfOrderPacket = true ↔ IsBehind earlier position
  error : state.sequenceError =
    (state.missingPacket || state.duplicatePacket || state.outOfOrderPacket)

/-- The outputs after a cycle without a quote. -/
structure Silent (state : State) : Prop where
  forwarded : state.trackedQuoteValid = false
  missing : state.missingPacket = false
  duplicate : state.duplicatePacket = false
  outOfOrder : state.outOfOrderPacket = false
  error : state.sequenceError = false

/-- A forwarded quote comes out with the fields it came in with. -/
theorem repeats_forward (state : State) (input : Input) : Repeats (forward state input) input :=
  ⟨rfl, rfl, rfl, rfl, rfl, rfl⟩

/-- A start pulse opens an empty account, whatever came before. -/
theorem accounts_start (before : State) {start : Input} (opens : start.streamStartPulse = true) :
    Accounts (next true before start) [] := by
  constructor <;> simp [next, opens, skipped]

variable {state after : State} {positions : List Nat} {position : Nat}

/-- The accounts do not depend on the pulses of the last cycle. -/
theorem Accounts.clearPulses (accounts : Accounts state positions) :
    Accounts (clearPulses state) positions :=
  ⟨accounts.initialized, accounts.last, accounts.expected, accounts.missing, accounts.duplicates,
    accounts.outOfOrder⟩

/-- A forwarded record moves the two registers on and leaves the two rejection counters. -/
theorem Accounts.of_record (accounts : Accounts state positions)
    (isRecord : IsRecord positions position) (initialized : after.sequenceInitialized = true)
    (last : after.lastSeq = BitVec.ofNat 32 position)
    (expected : after.expectedSeq = BitVec.ofNat 32 position + 1#32)
    (missing : after.missingCount = BitVec.ofNat 32 (skipped (positions ++ [position])).card)
    (duplicates : after.duplicateCount = state.duplicateCount)
    (outOfOrder : after.outOfOrderCount = state.outOfOrderCount) :
    Accounts after (positions ++ [position]) where
  initialized := by simp [initialized]
  last := by
    intro _
    rw [isRecord.highest_snoc, last]
  expected := by
    intro _
    rw [isRecord.highest_snoc, expected, BitVec.ofNat_add]
  missing := missing
  duplicates := by
    rw [duplicates, accounts.duplicates, repeats, repeats, selected_snoc,
      if_neg isRecord.not_isRepeat, List.append_nil]
  outOfOrder := by
    rw [outOfOrder, accounts.outOfOrder, behind, behind, selected_snoc,
      if_neg isRecord.not_isBehind, List.append_nil]

/-- A rejected quote only counts in the counter of its class. -/
theorem Accounts.of_rejected (accounts : Accounts state positions) (nonempty : positions ≠ [])
    (notRecord : ¬ IsRecord positions position)
    (initialized : after.sequenceInitialized = state.sequenceInitialized)
    (last : after.lastSeq = state.lastSeq) (expected : after.expectedSeq = state.expectedSeq)
    (missing : after.missingCount = state.missingCount)
    (duplicates : after.duplicateCount = state.duplicateCount +
      if IsRepeat positions position then 1#32 else 0#32)
    (outOfOrder : after.outOfOrderCount = state.outOfOrderCount +
      if IsBehind positions position then 1#32 else 0#32) :
    Accounts after (positions ++ [position]) := by
  have same : highest (positions ++ [position]) = highest positions := by
    rw [isRecord_iff nonempty] at notRecord
    rw [highest_snoc]
    exact max_eq_left (by omega)
  have count (test : Prop) [Decidable test] :
      (if test then 1#32 else 0#32) = BitVec.ofNat 32 (if test then 1 else 0) := by
    split <;> rfl
  constructor
  · rw [initialized, accounts.initialized]
    simp [nonempty]
  · intro _
    rw [last, accounts.last nonempty, same]
  · intro _
    rw [expected, accounts.expected nonempty, same]
  · rw [missing, accounts.missing, skipped_of_not_record notRecord]
  · rw [duplicates, accounts.duplicates, length_selected_snoc, BitVec.ofNat_add, count]
  · rw [outOfOrder, accounts.outOfOrder, length_selected_snoc, BitVec.ofNat_add, count]

variable {input : Input}

/-- The first quote of a stream is forwarded as it is. -/
theorem Accounts.quote_first (accounts : Accounts state [])
    (numbered : input.quoteSeq = BitVec.ofNat 32 position) :
    Accounts (quote (SequenceTracker.clearPulses state) input) [position] ∧
      Classifies (quote (SequenceTracker.clearPulses state) input) input [] position := by
  have closed : (SequenceTracker.clearPulses state).sequenceInitialized = false := by
    simpa using accounts.clearPulses.initialized
  have result : quote (SequenceTracker.clearPulses state) input =
      { forward (SequenceTracker.clearPulses state) input with sequenceInitialized := true } := by
    simp [quote, closed]
  rw [result]
  constructor
  · refine accounts.clearPulses.of_record (isRecord_nil position) rfl numbered ?_ ?_ rfl rfl
    · rw [← numbered]
      rfl
    · have none : (skipped [position]).card = (skipped []).card := by
        simp [skipped, records, selected, selectedBehind, highest, Finset.filter_singleton]
      rw [List.nil_append, none]
      exact accounts.missing
  · refine ⟨?_, fun _ => ⟨rfl, rfl, rfl, rfl, rfl, rfl⟩, ?_, ?_, ?_, rfl⟩ <;>
      simp [forward, SequenceTracker.clearPulses]

section Later

variable (accounts : Accounts state positions) (nonempty : positions ≠ [])
  (numbered : input.quoteSeq = BitVec.ofNat 32 position)

include accounts nonempty

/-- A tracker that has accounts has seen a first number. -/
theorem Accounts.opened : (SequenceTracker.clearPulses state).sequenceInitialized = true :=
  accounts.clearPulses.initialized.mpr nonempty

include numbered

/-- The quote that continues the sequence is forwarded. -/
theorem Accounts.quote_expected (inOrder : position = highest positions + 1) :
    Accounts (quote (SequenceTracker.clearPulses state) input) (positions ++ [position]) ∧
      Classifies (quote (SequenceTracker.clearPulses state) input) input positions position := by
  have isRecord := (isRecord_iff nonempty position).mpr (by omega)
  have opened := accounts.opened nonempty
  have expected := accounts.clearPulses.expected nonempty
  have result : quote (SequenceTracker.clearPulses state) input =
      forward (SequenceTracker.clearPulses state) input := by
    simp [quote, opened, numbered, expected, inOrder]
  rw [result]
  constructor
  · refine accounts.clearPulses.of_record isRecord opened numbered ?_ ?_ rfl rfl
    · rw [← numbered]
      rfl
    · rw [card_skipped_of_record nonempty isRecord, inOrder, Nat.sub_self, Nat.add_zero]
      exact accounts.missing
  · refine ⟨?_, fun _ => repeats_forward _ _, ?_, ?_, ?_, rfl⟩
    · simp [forward, isRecord]
    · simp [forward, SequenceTracker.clearPulses, inOrder]
    · simp [forward, SequenceTracker.clearPulses, isRecord.not_isRepeat]
    · simp [forward, SequenceTracker.clearPulses, isRecord.not_isBehind]

variable (within : WithinTurn (highest positions) position)
  (comparable : Comparable (highest positions) position)

include within comparable

/-- A quote beyond the expected one is forwarded, and the gap before it counted. -/
theorem Accounts.quote_beyond (skips : highest positions + 1 < position) :
    Accounts (quote (SequenceTracker.clearPulses state) input) (positions ++ [position]) ∧
      Classifies (quote (SequenceTracker.clearPulses state) input) input positions position := by
  have isRecord := (isRecord_iff nonempty position).mpr (by omega)
  have opened := accounts.opened nonempty
  have expected := accounts.clearPulses.expected nonempty
  have last := accounts.clearPulses.last nonempty
  have notExpected : BitVec.ofNat 32 position ≠ BitVec.ofNat 32 (highest positions + 1) := by
    rw [ne_eq, eq_expected_iff within comparable]
    omega
  have notLast : BitVec.ofNat 32 position ≠ BitVec.ofNat 32 (highest positions) := by
    rw [ne_eq, eq_last_iff within]
    omega
  have beyond := ((gt_expected_iff within comparable).mpr skips).1
  have result : quote (SequenceTracker.clearPulses state) input =
      { forward (SequenceTracker.clearPulses state) input with
        missingPacket := true
        sequenceError := true
        missingCount := (SequenceTracker.clearPulses state).missingCount +
          (input.quoteSeq - (SequenceTracker.clearPulses state).expectedSeq) } := by
    rw [quote, if_neg (by simp [opened]), if_neg (by rwa [numbered, expected]),
      if_neg (by rwa [numbered, last]), if_pos (by rwa [numbered, expected])]
  rw [result]
  constructor
  · refine accounts.clearPulses.of_record isRecord opened numbered ?_ ?_ rfl rfl
    · rw [← numbered]
      rfl
    · have counted : BitVec.ofNat 32 position - BitVec.ofNat 32 (highest positions + 1) =
          BitVec.ofNat 32 (position - (highest positions + 1)) := by
        rw [BitVec.sub_eq_iff_eq_add, ← BitVec.ofNat_add]
        congr 1
        omega
      rw [card_skipped_of_record nonempty isRecord, BitVec.ofNat_add, ← counted,
        ← accounts.missing, ← numbered, ← expected]
      rfl
  · refine ⟨?_, fun _ => ⟨rfl, rfl, rfl, rfl, rfl, rfl⟩, ?_, ?_, ?_, ?_⟩
    · simp [forward, isRecord]
    · simp [nonempty, skips]
    · simp [forward, SequenceTracker.clearPulses, isRecord.not_isRepeat]
    · simp [forward, SequenceTracker.clearPulses, isRecord.not_isBehind]
    · simp

/-- The repetition of the newest quote is rejected and counted. -/
theorem Accounts.quote_repeated (again : position = highest positions) :
    Accounts (quote (SequenceTracker.clearPulses state) input) (positions ++ [position]) ∧
      Classifies (quote (SequenceTracker.clearPulses state) input) input positions position := by
  have notRecord := mt (isRecord_iff nonempty position).mp (by omega)
  have isRepeat := (isRepeat_iff nonempty position).mpr again
  have notBehind := mt (isBehind_iff nonempty position).mp (by omega)
  have notMissing : ¬ (positions ≠ [] ∧ highest positions + 1 < position) := by omega
  have opened := accounts.opened nonempty
  have expected := accounts.clearPulses.expected nonempty
  have last := accounts.clearPulses.last nonempty
  have notExpected : BitVec.ofNat 32 position ≠ BitVec.ofNat 32 (highest positions + 1) := by
    rw [ne_eq, eq_expected_iff within comparable]
    omega
  have result : quote (SequenceTracker.clearPulses state) input =
      { SequenceTracker.clearPulses state with
        duplicatePacket := true
        sequenceError := true
        duplicateCount := (SequenceTracker.clearPulses state).duplicateCount + 1#32 } := by
    rw [quote, if_neg (by simp [opened]), if_neg (by rwa [numbered, expected]),
      if_pos (by rw [numbered, last, again])]
  rw [result]
  constructor
  · refine accounts.clearPulses.of_rejected nonempty notRecord rfl rfl rfl rfl ?_ ?_
    · rw [if_pos isRepeat]
    · simp [notBehind]
  · refine ⟨?_, ?_, ?_, ?_, ?_, ?_⟩ <;>
      simp [SequenceTracker.clearPulses, notRecord, notMissing, isRepeat, notBehind]

/-- A quote behind the newest one is rejected and counted. -/
theorem Accounts.quote_behind (late : position < highest positions) :
    Accounts (quote (SequenceTracker.clearPulses state) input) (positions ++ [position]) ∧
      Classifies (quote (SequenceTracker.clearPulses state) input) input positions position := by
  have notRecord := mt (isRecord_iff nonempty position).mp (by omega)
  have notRepeat := mt (isRepeat_iff nonempty position).mp (by omega)
  have isBehind := (isBehind_iff nonempty position).mpr late
  have notMissing : ¬ (positions ≠ [] ∧ highest positions + 1 < position) := by omega
  have opened := accounts.opened nonempty
  have expected := accounts.clearPulses.expected nonempty
  have last := accounts.clearPulses.last nonempty
  have notExpected : BitVec.ofNat 32 position ≠ BitVec.ofNat 32 (highest positions + 1) := by
    rw [ne_eq, eq_expected_iff within comparable]
    omega
  have notLast : BitVec.ofNat 32 position ≠ BitVec.ofNat 32 (highest positions) := by
    rw [ne_eq, eq_last_iff within]
    omega
  have notBeyond : ¬ BitVec.ofNat 32 position > BitVec.ofNat 32 (highest positions + 1) := by
    intro beyond
    have skips := (gt_expected_iff within comparable).mp ⟨beyond, by omega⟩
    omega
  have result : quote (SequenceTracker.clearPulses state) input =
      { SequenceTracker.clearPulses state with
        outOfOrderPacket := true
        sequenceError := true
        outOfOrderCount := (SequenceTracker.clearPulses state).outOfOrderCount + 1#32 } := by
    rw [quote, if_neg (by simp [opened]), if_neg (by rwa [numbered, expected]),
      if_neg (by rwa [numbered, last]), if_neg (by rwa [numbered, expected])]
  rw [result]
  constructor
  · refine accounts.clearPulses.of_rejected nonempty notRecord rfl rfl rfl rfl ?_ ?_
    · simp [notRepeat]
    · rw [if_pos isBehind]
  · refine ⟨?_, ?_, ?_, ?_, ?_, ?_⟩ <;>
      simp [SequenceTracker.clearPulses, notRecord, notMissing, notRepeat, isBehind]

end Later

/-- A quote whose position compares with the newest one as its number does is
accounted and classified. -/
theorem Accounts.quote (accounts : Accounts state positions)
    (numbered : input.quoteSeq = BitVec.ofNat 32 position)
    (ordered : positions ≠ [] → WithinTurn (highest positions) position ∧
      Comparable (highest positions) position) :
    Accounts (quote (SequenceTracker.clearPulses state) input) (positions ++ [position]) ∧
      Classifies (quote (SequenceTracker.clearPulses state) input) input positions position := by
  by_cases nonempty : positions ≠ []
  · obtain ⟨within, comparable⟩ := ordered nonempty
    rcases Nat.lt_trichotomy position (highest positions) with late | again | ahead
    · exact accounts.quote_behind nonempty numbered within comparable late
    · exact accounts.quote_repeated nonempty numbered within comparable again
    · by_cases inOrder : position = highest positions + 1
      · exact accounts.quote_expected nonempty numbered inOrder
      · exact accounts.quote_beyond nonempty numbered within comparable (by omega)
  · rw [not_not] at nonempty
    subst nonempty
    exact accounts.quote_first numbered

section Run

variable (before : State) (start : Input) (input : Nat → Input) (position : Nat → Nat)

/-- The registers in the cycles after a start pulse. -/
def stream (cycle : Nat) : State :=
  Clocked.stateAt (next true) (next true before start) input cycle

/-- The position delivered in a cycle. -/
def delivered (cycle : Nat) : Option Nat :=
  if (input cycle).quoteValid then some (position cycle) else none

def deliveredBefore (cycle : Nat) : List Nat := Clocked.seen (delivered input position) cycle

/-- The next cycle adds the quote it delivers, if any. -/
theorem deliveredBefore_succ (cycle : Nat) : deliveredBefore input position (cycle + 1) =
    deliveredBefore input position cycle ++ (delivered input position cycle).toList :=
  Clocked.seen_succ _ _

/-- Neither pulse ends the stream before a cycle, and its quotes carry the low 32
bits of their positions. -/
structure InStream (cycles : Nat) : Prop where
  noStart : ∀ n, n < cycles → (input n).streamStartPulse = false
  noEnd : ∀ n, n < cycles → (input n).streamEndPulse = false
  numbered : ∀ n, n < cycles → (input n).quoteValid = true →
    (input n).quoteSeq = BitVec.ofNat 32 (position n)

/-- The quote of a cycle compares with the newest one as its number does. -/
def OrderedAt (cycle : Nat) : Prop :=
  (input cycle).quoteValid = true → deliveredBefore input position cycle ≠ [] →
    WithinTurn (highest (deliveredBefore input position cycle)) (position cycle) ∧
      Comparable (highest (deliveredBefore input position cycle)) (position cycle)

variable {before start input position}

/-- A stream is one up to every earlier cycle as well. -/
theorem InStream.mono {cycles cycle : Nat} (inStream : InStream input position cycles)
    (atMost : cycle ≤ cycles) : InStream input position cycle where
  noStart n bound := inStream.noStart n (by omega)
  noEnd n bound := inStream.noEnd n (by omega)
  numbered n bound := inStream.numbered n (by omega)

/-- One cycle inside a stream. -/
theorem Accounts.cycle {cycle : Nat}
    (accounts : Accounts (stream before start input cycle) (deliveredBefore input position cycle))
    (inStream : InStream input position (cycle + 1)) (ordered : OrderedAt input position cycle) :
    Accounts (stream before start input (cycle + 1)) (deliveredBefore input position (cycle + 1)) ∧
      if (input cycle).quoteValid then
        Classifies (stream before start input (cycle + 1)) (input cycle)
          (deliveredBefore input position cycle) (position cycle)
      else
        Silent (stream before start input (cycle + 1)) := by
  have noStart := inStream.noStart cycle (Nat.lt_succ_self _)
  have noEnd := inStream.noEnd cycle (Nat.lt_succ_self _)
  have grown := deliveredBefore_succ input position cycle
  have step : stream before start input (cycle + 1) =
      next true (stream before start input cycle) (input cycle) := Clocked.stateAt_succ _ _ _ _
  cases valid : (input cycle).quoteValid with
  | true =>
      have result : next true (stream before start input cycle) (input cycle) =
          SequenceTracker.quote (SequenceTracker.clearPulses (stream before start input cycle))
            (input cycle) := by
        simp [next, noStart, noEnd, valid]
      rw [step, result, grown, delivered, valid, if_pos rfl, if_pos rfl, Option.toList_some]
      exact accounts.quote (inStream.numbered cycle (Nat.lt_succ_self _) valid) (ordered valid)
  | false =>
      have result : next true (stream before start input cycle) (input cycle) =
          SequenceTracker.clearPulses (stream before start input cycle) := by
        simp [next, noStart, noEnd, valid]
      rw [step, result, grown, delivered, valid, if_neg (by simp), if_neg (by simp),
        Option.toList_none, List.append_nil]
      exact ⟨accounts.clearPulses, rfl, rfl, rfl, rfl, rfl⟩

/-- The account of a whole stream. -/
theorem accounts_stream (before : State) (opens : start.streamStartPulse = true) {cycles : Nat}
    (inStream : InStream input position cycles)
    (ordered : ∀ n, n < cycles → OrderedAt input position n) :
    Accounts (stream before start input cycles) (deliveredBefore input position cycles) := by
  induction cycles with
  | zero => exact accounts_start before opens
  | succ cycles ih =>
      have accounts := ih (inStream.mono (Nat.le_succ _)) fun n bound => ordered n (by omega)
      exact (accounts.cycle inStream (ordered cycles (Nat.lt_succ_self _))).1

end Run

section Benchmark

variable {before : State} {start : Input} {input : Nat → Input}

/-- The number of each quote as a position, without any wrap. -/
abbrev plain (input : Nat → Input) (cycle : Nat) : Nat := (input cycle).quoteSeq.toNat

/-- The numbers of the quotes forwarded in the cycles up to a cycle. -/
def forwardedBefore (before : State) (start : Input) (input : Nat → Input)
    (cycle : Nat) : List Nat :=
  Clocked.seen (fun n =>
    if (stream before start input (n + 1)).trackedQuoteValid then
      some (stream before start input (n + 1)).trackedSeq.toNat
    else none) cycle

/-- The registers as numbers: the greatest number and its successor, what was never
forwarded between the first and the greatest, and the rejected quotes. -/
structure Tallies (state : State) (numbers : List Nat) : Prop where
  last : numbers ≠ [] → state.lastSeq.toNat = highest numbers
  expected : numbers ≠ [] → state.expectedSeq.toNat = highest numbers + 1
  missing : state.missingCount.toNat = (skipped numbers).card
  duplicates : state.duplicateCount.toNat = (repeats numbers).length % 2 ^ 32
  outOfOrder : state.outOfOrderCount.toNat = (behind numbers).length % 2 ^ 32

/-- A stream whose numbers stay below the last one of the 32-bit range. -/
structure Bounded (input : Nat → Input) (cycles : Nat) : Prop where
  noStart : ∀ n, n < cycles → (input n).streamStartPulse = false
  noEnd : ∀ n, n < cycles → (input n).streamEndPulse = false
  number : ∀ n, n < cycles → (input n).quoteValid = true → (input n).quoteSeq.toNat ≤ 2 ^ 32 - 2

/-- A bounded input is bounded up to every earlier cycle as well. -/
theorem Bounded.mono {cycles cycle : Nat} (bounded : Bounded input cycles)
    (atMost : cycle ≤ cycles) : Bounded input cycle where
  noStart n bound := bounded.noStart n (by omega)
  noEnd n bound := bounded.noEnd n (by omega)
  number n bound := bounded.number n (by omega)

/-- Bounded numbers are their own positions. -/
theorem Bounded.inStream {cycles : Nat} (bounded : Bounded input cycles) :
    InStream input (plain input) cycles :=
  ⟨bounded.noStart, bounded.noEnd, fun n _ _ => by simp [plain]⟩

/-- The highest number delivered keeps the bound of the input. -/
theorem Bounded.highest_le {cycles cycle : Nat} (bounded : Bounded input cycles)
    (before : cycle ≤ cycles) :
    highest (deliveredBefore input (plain input) cycle) ≤ 2 ^ 32 - 2 := by
  rcases highest_mem (deliveredBefore input (plain input) cycle) with none | member
  · omega
  · obtain ⟨n, early, shown⟩ := List.mem_filterMap.mp member
    have atCycle := List.mem_range.mp early
    unfold delivered at shown
    split_ifs at shown with valid
    rw [← Option.some.inj shown]
    exact bounded.number n (by omega) valid

/-- Bounded numbers are compared as their positions in every cycle. -/
theorem Bounded.ordered {cycles cycle : Nat} (bounded : Bounded input cycles)
    (inside : cycle < cycles) : OrderedAt input (plain input) cycle := by
  intro valid _
  have newest := bounded.highest_le inside.le
  have now := bounded.number cycle inside valid
  unfold WithinTurn Comparable
  simp only [plain] at newest ⊢
  rw [if_neg (by omega)]
  omega

/-- Accounts whose highest number is in range are the tallies of the numbers. -/
theorem Accounts.tallies {state : State} {numbers : List Nat} (accounts : Accounts state numbers)
    (bound : highest numbers ≤ 2 ^ 32 - 2) : Tallies state numbers where
  last nonempty := by
    rw [accounts.last nonempty, BitVec.toNat_ofNat]
    omega
  expected nonempty := by
    rw [accounts.expected nonempty, BitVec.toNat_ofNat]
    omega
  missing := by
    have few := card_skipped_le numbers
    rw [accounts.missing, BitVec.toNat_ofNat]
    omega
  duplicates := by rw [accounts.duplicates, BitVec.toNat_ofNat]
  outOfOrder := by rw [accounts.outOfOrder, BitVec.toNat_ofNat]

/-- What is forwarded is exactly the records. -/
theorem forwardedBefore_eq (before : State) (opens : start.streamStartPulse = true)
    {cycles : Nat} (bounded : Bounded input cycles) :
    forwardedBefore before start input cycles =
      records (deliveredBefore input (plain input) cycles) := by
  induction cycles with
  | zero => rfl
  | succ cycles ih =>
      have earlier := bounded.mono (Nat.le_succ cycles)
      have accounts := accounts_stream before opens earlier.inStream
        fun n bound => earlier.ordered bound
      have outcome := (accounts.cycle bounded.inStream (bounded.ordered (Nat.lt_succ_self _))).2
      rw [forwardedBefore, Clocked.seen_succ, ← forwardedBefore, ih earlier, deliveredBefore_succ]
      cases valid : (input cycles).quoteValid with
      | true =>
          rw [valid, if_pos rfl] at outcome
          rw [delivered, valid, if_pos rfl, Option.toList_some, records, records, selected_snoc]
          congr 1
          by_cases isRecord : IsRecord (deliveredBefore input (plain input) cycles)
              (plain input cycles)
          · have shown := outcome.forwarded.mpr isRecord
            rw [if_pos isRecord, if_pos shown, (outcome.unchanged shown).seq, Option.toList_some]
          · have hidden := mt outcome.forwarded.mp isRecord
            rw [if_neg isRecord, if_neg hidden, Option.toList_none]
      | false =>
          rw [valid, if_neg (by simp)] at outcome
          have nothing : delivered input (plain input) cycles = none := by simp [delivered, valid]
          rw [nothing, outcome.forwarded, if_neg (by simp), Option.toList_none, List.append_nil,
            List.append_nil]

/-- Sequence accounting of a stream: the registers tally the numbers seen so far, the
quote of each cycle is forwarded unchanged exactly when it exceeds them all and
raises the flags of its class, and every quote is forwarded or rejected once. -/
theorem tracker_accounts_for_stream (before : State) {start : Input}
    (opens : start.streamStartPulse = true) {input : Nat → Input} {cycle : Nat}
    (bounded : Bounded input (cycle + 1)) :
    Tallies (stream before start input cycle) (deliveredBefore input (plain input) cycle) ∧
      (if (input cycle).quoteValid then
        Classifies (stream before start input (cycle + 1)) (input cycle)
          (deliveredBefore input (plain input) cycle) (input cycle).quoteSeq.toNat
      else
        Silent (stream before start input (cycle + 1))) ∧
      forwardedBefore before start input cycle =
        records (deliveredBefore input (plain input) cycle) ∧
      (forwardedBefore before start input cycle).length +
          (repeats (deliveredBefore input (plain input) cycle)).length +
          (behind (deliveredBefore input (plain input) cycle)).length =
        (deliveredBefore input (plain input) cycle).length := by
  have earlier := bounded.mono (Nat.le_succ cycle)
  have accounts := accounts_stream before opens earlier.inStream
    fun n bound => earlier.ordered bound
  have forwarded := forwardedBefore_eq before opens earlier
  refine ⟨accounts.tallies (bounded.highest_le (Nat.le_succ _)), ?_, forwarded, ?_⟩
  · exact (accounts.cycle bounded.inStream (bounded.ordered (Nat.lt_succ_self _))).2
  · rw [forwarded]
    exact length_kinds _

/-- A start pulse on its own. -/
def startPulse : Input := ⟨true, false, false, 0#3, 0#8, 0#32, 0#64, 0#32, 0#32⟩

/-- A quote for the second slot. -/
def quoteNumbered (number : BitVec 32) : Input :=
  ⟨false, false, true, 1#3, 0#8, number, 9#64, 18500#32, 10#32⟩

/-- Quotes 5, 8, 8, 6 and 9, and quote 9 in every cycle behind them. -/
def mixed (cycle : Nat) : Input :=
  quoteNumbered ([5#32, 8#32, 8#32, 6#32].getD cycle 9#32)

/-- Quote 8 leaves a gap of two, it is repeated once, quote 6 comes too late, and quote 9 is
forwarded. -/
theorem tracker_accounts_for_mixed :
    let after := stream reset startPulse mixed
    (Tallies (after 4) [5, 8, 8, 6] ∧ (after 4).missingCount = 2#32 ∧
        (after 4).duplicateCount = 1#32 ∧ (after 4).outOfOrderCount = 1#32) ∧
      Classifies (after 5) (mixed 4) [5, 8, 8, 6] 9 ∧ (after 5).trackedQuoteValid = true ∧
      forwardedBefore reset startPulse mixed 4 = [5, 8] := by
  intro after
  have small : ∀ n, n < 5 → (mixed n).quoteSeq.toNat ≤ 2 ^ 32 - 2 := by decide
  have bounded : Bounded mixed 5 :=
    ⟨fun _ _ => rfl, fun _ _ => rfl, fun n early _ => small n early⟩
  have delivered : deliveredBefore mixed (plain mixed) 4 = [5, 8, 8, 6] := by decide
  have opens : startPulse.streamStartPulse = true := rfl
  obtain ⟨tallies, classified, forwarded, -⟩ := tracker_accounts_for_stream reset opens bounded
  rw [delivered] at tallies classified forwarded
  have missing : (after 4).missingCount = 2#32 :=
    BitVec.eq_of_toNat_eq (tallies.missing.trans (by decide))
  have repeated : (after 4).duplicateCount = 1#32 :=
    BitVec.eq_of_toNat_eq (tallies.duplicates.trans (by decide))
  have late : (after 4).outOfOrderCount = 1#32 :=
    BitVec.eq_of_toNat_eq (tallies.outOfOrder.trans (by decide))
  have newest : Classifies (after 5) (mixed 4) [5, 8, 8, 6] 9 := classified
  exact ⟨⟨tallies, missing, repeated, late⟩, newest, newest.forwarded.mpr (by decide),
    forwarded.trans (by decide)⟩

end Benchmark

end HftPipeline.Rtl.SequenceTracker
