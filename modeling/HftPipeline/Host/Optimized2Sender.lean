import HftPipeline.Host.SenderPace

/-!
# `send_market_stream_optimized2.py`

The sender of the C receiver packs the packets of the optimized sender, but it stamps a
quote with its planned time instead of reading the clock once more, unless it is asked
for the actual time. It no longer checks that the milliseconds fit their field. Line 14
of the source is a stray name that stops the program before it defines anything; it is
read as absent.
-/

namespace HftPipeline.Host.Optimized2Sender

open HftPipeline.Std HftPipeline.Wire
open OptimizedSender (maxPlannedPackets startPacket endPacket Lateness)

/-- The command line, without the destination address. -/
structure Options where
  arguments : Arguments
  sourcePort : Int
  actualTimestamps : Bool

/-- `MAX_PPS`. -/
def maxPps : Int := 250000

/-- The checks of `main`, with the errors that it prints. -/
def checkOptions (options : Options) : Except String Unit :=
  let arguments := options.arguments
  if ¬(1 ≤ arguments.pps ∧ arguments.pps ≤ maxPps) then
    .error "Error: --pps must be between 1 and 250,000"
  else if arguments.duration ≤ 0 then
    .error "Error: --duration must be greater than zero"
  else if ¬(1 ≤ arguments.port ∧ arguments.port ≤ 65535) then
    .error "Error: --port must be between 1 and 65535"
  else if ¬(0 ≤ options.sourcePort ∧ options.sourcePort ≤ 65535) then
    .error "Error: --source-port must be between 0 and 65535"
  else if ¬(1 ≤ arguments.plannedPackets ∧ arguments.plannedPackets ≤ maxPlannedPackets) then
    .error "Error: planned packet count must be between 1 and 10,000,000"
  else .ok ()

theorem checkOptions_eq_ok {options : Options} : checkOptions options = .ok () ↔
    (1 ≤ options.arguments.pps ∧ options.arguments.pps ≤ maxPps) ∧
      0 < options.arguments.duration ∧
      (1 ≤ options.arguments.port ∧ options.arguments.port ≤ 65535) ∧
      (0 ≤ options.sourcePort ∧ options.sourcePort ≤ 65535) ∧
      1 ≤ options.arguments.plannedPackets ∧
        options.arguments.plannedPackets ≤ maxPlannedPackets := by
  unfold checkOptions
  simp only
  split_ifs <;> simp_all

/-- Why a run does not come to its end: `struct.error`, or a wait out of fuel. -/
inductive Stop where
  | structError
  | outOfFuel
deriving DecidableEq

/-- What packs or waits, with the reason when it does not. -/
def orStop {Value : Type} (stop : Stop) : Option Value → Except Stop Value
  | some value => .ok value
  | none => .error stop

/-- `pacing_period_ns`. -/
def pacingPeriodNs (pps : Nat) : Nat := max 1 (nanosecondsPerSecond / pps)

/-- The counters behind the wait of one turn. -/
def addLateness (pps : Nat) (lateness : Lateness) (latenessNs : Nat) : Lateness where
  missedDeadlines :=
    if latenessNs ≥ pacingPeriodNs pps then lateness.missedDeadlines + 1
    else lateness.missedDeadlines
  maximumLatenessNs := max lateness.maximumLatenessNs latenessNs
  totalLatenessNs := lateness.totalLatenessNs + latenessNs

/-- The variables of the sending loop, with the readings of `time.time_ns` so far. -/
structure State where
  sending : Sending
  walls : Nat
  lateness : Lateness

section Main

variable (options : Options) (ticks clock : Nat → Nat) (fuel : Nat)

/-- `offset_ns`. -/
def offsetNs (sequence : Nat) : Nat :=
  (sequence - 1) * nanosecondsPerSecond / options.arguments.pps.toNat

/-- One turn of the sending loop. `wall_start_ns` is the second reading of `time.time_ns`. -/
def sendQuote (state : State) (sequence : Nat) : Except Stop State := do
  let deadlineNs := ticks 0 + offsetNs options sequence
  let ready ← orStop .outOfFuel
    (Pacing.waitUntil ticks deadlineNs fuel state.sending.readings)
  let timestampNs :=
    if options.actualTimestamps then clock state.walls else clock 1 + offsetNs options sequence
  let packet ← orStop .structError (makeQuotePacket sequence timestampNs)
  return {
    sending := ⟨ready + 1, sequence, state.sending.sent ++ [(packet, ready)]⟩
    walls := if options.actualTimestamps then state.walls + 1 else state.walls
    lateness := addLateness options.arguments.pps.toNat state.lateness (ticks ready - deadlineNs) }

/-- `main` behind its checks, when `KeyboardInterrupt` leaves the loop behind that many
quotes. The readings of `time.perf_counter_ns` count from `start_time_ns` on. -/
def main (interruption : Nat) : Except Stop (Transmission × Lateness) := do
  let start ← orStop .structError (startPacket options.arguments (clock 0))
  let sequences := List.range' 1 options.arguments.plannedPackets.toNat
  let state ← (sequences.take interruption).foldlM (sendQuote options ticks clock fuel)
    ⟨⟨1, 0, []⟩, 2, ⟨0, 0, 0⟩⟩
  let stop ← orStop .structError
    (endPacket options.arguments state.sending.sentPackets (clock state.walls))
  return (⟨start, state.sending.sent, stop⟩, state.lateness)

end Main

/-- The times that the packets of a run carry, by their place in the run: the start, the
quotes from one on, and the end marker behind the quotes that were sent. -/
def timestamps (options : Options) (clock : Nat → Nat) (sent place : Nat) : Nat :=
  if place = 0 then clock 0
  else if options.actualTimestamps then clock (place + 1)
  else if place ≤ sent then clock 1 + offsetNs options place
  else clock 2

/-- The counters of a list of latenesses. -/
structure Counts (pps : Nat) (lateness : Lateness) (late : List Nat) : Prop where
  missed : lateness.missedDeadlines = late.countP fun ns => pacingPeriodNs pps ≤ ns
  maximum : lateness.maximumLatenessNs = late.foldl max 0
  total : lateness.totalLatenessNs = late.sum

theorem Counts.add {pps : Nat} {lateness : Lateness} {late : List Nat}
    (counts : Counts pps lateness late) (latenessNs : Nat) :
    Counts pps (addLateness pps lateness latenessNs) (late ++ [latenessNs]) := by
  constructor
  · simp only [addLateness, counts.missed, List.countP_append, List.countP_singleton,
      decide_eq_true_eq, ge_iff_le]
    split_ifs <;> rfl
  · simp only [addLateness, counts.maximum, List.foldl_append, List.foldl_cons, List.foldl_nil]
  · simp only [addLateness, counts.total, List.sum_append, List.sum_singleton]

section Run

variable {options : Options} {ticks clock : Nat → Nat} {fuel sent : Nat}

/-- The readings of `time.time_ns` before a quote. -/
def wallsBefore (options : Options) (sequence : Nat) : Nat :=
  if options.actualTimestamps then sequence + 1 else 2

/-- One turn sends the quote of the optimized sender with its planned or actual time. -/
theorem sendQuote_eq {sequence : Nat} (first : 1 ≤ sequence) (last : sequence ≤ sent)
    {sending after : Sending}
    (turned : OptimizedSender.packets.sendQuote options.arguments ticks
      (timestamps options clock sent) fuel sending sequence = some after) (lateness : Lateness) :
    ∃ quote, after.sent = sending.sent ++ [quote] ∧
      sendQuote options ticks clock fuel
          ⟨sending, wallsBefore options sequence, lateness⟩ sequence =
        .ok ⟨after, wallsBefore options (sequence + 1),
          addLateness options.arguments.pps.toNat lateness
            (ticks quote.2 - deadlineNs options.arguments.pps.toNat (ticks 0) sequence)⟩ := by
  simp only [StreamPackets.sendQuote, Option.bind_eq_bind, Option.bind_eq_some_iff,
    Option.pure_def, Option.some.injEq] at turned
  obtain ⟨ready, waited, packet, packed, rfl⟩ := turned
  have timed : (if options.actualTimestamps then clock (wallsBefore options sequence)
      else clock 1 + offsetNs options sequence) = timestamps options clock sent sequence := by
    have behind : sequence ≠ 0 := by omega
    unfold timestamps wallsBefore
    rw [if_neg behind, if_pos last]
    split_ifs <;> rfl
  have walls : (if options.actualTimestamps then wallsBefore options sequence + 1
      else wallsBefore options sequence) = wallsBefore options (sequence + 1) := by
    unfold wallsBefore
    split_ifs <;> rfl
  have due : ticks 0 + offsetNs options sequence =
      deadlineNs options.arguments.pps.toNat (ticks 0) sequence := rfl
  refine ⟨(packet, ready), rfl, ?_⟩
  simp only [sendQuote, due, waited, timed, walls]
  simp only [OptimizedSender.packets] at packed
  rw [packed]
  rfl

/-- The sending loop sends the quotes of the optimized sender at these times, and counts how
late they were. -/
theorem foldlM_sendQuote {first count : Nat} (starts : 1 ≤ first) (ends : first + count ≤ sent + 1)
    {sending after : Sending} {lateness : Lateness} {late : List Nat}
    (counts : Counts options.arguments.pps.toNat lateness late)
    (looped : (List.range' first count).foldlM (OptimizedSender.packets.sendQuote
      options.arguments ticks (timestamps options clock sent) fuel) sending = some after) :
    ∃ quotes next, after.sent = sending.sent ++ quotes ∧
      (List.range' first count).foldlM (sendQuote options ticks clock fuel)
        ⟨sending, wallsBefore options first, lateness⟩ =
          .ok ⟨after, wallsBefore options (first + count), next⟩ ∧
      Counts options.arguments.pps.toNat next (late ++ List.zipWith
        (fun sequence quote => ticks quote.2 -
          deadlineNs options.arguments.pps.toNat (ticks 0) sequence)
        (List.range' first count) quotes) := by
  induction count generalizing first sending lateness late with
  | zero =>
      cases looped
      exact ⟨[], lateness, by simp, rfl, by simpa using counts⟩
  | succ count ih =>
      rw [List.range'_succ, List.foldlM_cons, Option.bind_eq_bind,
        Option.bind_eq_some_iff] at looped
      obtain ⟨turned, sent, rest⟩ := looped
      obtain ⟨quote, whole, timed⟩ := sendQuote_eq starts (by omega) sent lateness
      obtain ⟨quotes, next, more, later, counted⟩ :=
        ih (by omega) (by omega) (counts.add _) rest
      refine ⟨quote :: quotes, next, by simp [more, whole], ?_, ?_⟩
      · rw [List.range'_succ, List.foldlM_cons, timed]
        refine later.trans ?_
        rw [Nat.add_assoc, Nat.add_comm 1]
      · rw [List.range'_succ, List.zipWith_cons_cons]
        simpa using counted

/-- A run of the optimized sender at these times is the run of this one. -/
theorem main_of_transmit (atMost : sent ≤ options.arguments.plannedPackets.toNat)
    {transmission : Transmission}
    (ran : OptimizedSender.packets.transmit options.arguments ticks (timestamps options clock sent)
      fuel sent = some transmission) :
    ∃ lateness, main options ticks clock fuel sent = .ok (transmission, lateness) ∧
      Counts options.arguments.pps.toNat lateness
        (OptimizedSender.latenesses options.arguments ticks transmission.quotes) := by
  have none : Counts options.arguments.pps.toNat ⟨0, 0, 0⟩ [] := ⟨rfl, rfl, rfl⟩
  have whole := StreamPackets.transmits_of_transmit atMost ran
  have sequences : (List.range' 1 options.arguments.plannedPackets.toNat).take sent =
      List.range' 1 sent := List.take_range'_of_length_ge atMost
  simp only [StreamPackets.transmit, sequences, Option.bind_eq_bind, Option.bind_eq_some_iff,
    Option.pure_def, Option.some.injEq] at ran
  obtain ⟨start, started, sending, looped, stop, stopped, rfl⟩ := ran
  obtain ⟨quotes, lateness, sends, timed, counted⟩ :=
    foldlM_sendQuote (Nat.le_refl 1) (by omega) none looped
  rw [List.nil_append] at sends counted
  subst sends
  have count : sending.sentPackets = sent := by
    rw [StreamPackets.sentPackets_foldlM looped, List.getLast?_range']
    cases sent with
    | zero => rfl
    | succ sent => simp
  have first : wallsBefore options 1 = 2 := by
    unfold wallsBefore
    split_ifs <;> rfl
  have begun : timestamps options clock sent 0 = clock 0 := rfl
  have ended : timestamps options clock sent (sent + 1) =
      clock (wallsBefore options (1 + sent)) := by
    unfold timestamps wallsBefore
    rw [if_neg (Nat.succ_ne_zero sent), if_neg (Nat.not_succ_le_self sent), Nat.add_comm 1]
    split_ifs <;> rfl
  simp only [OptimizedSender.packets, count, begun, ended] at started stopped
  rw [first] at timed
  refine ⟨lateness, ?_, ?_⟩
  · simp only [main, started, sequences, orStop]
    simp only [bind, Except.bind, timed, count, stopped]
    rfl
  · have size : sending.sent.length = sent := by
      have same := whole.quotes.packed.length_eq
      rwa [List.length_range', List.length_map, eq_comm] at same
    rw [OptimizedSender.latenesses, size, ← map_deadlineNs, List.zipWith_map_left]
    exact counted

end Run

end HftPipeline.Host.Optimized2Sender
