import HftPipeline.Std.Pacing
import HftPipeline.Host.StreamStart

/-!
# The sending loop and its clock

The stream senders wait for the deadline of each quote before they make it. Here their
loop runs on a clock, given by the values that the calls of `time.perf_counter_ns` read
one after the other (a sleep only delays the next reading). A wait may not end, so the
runs have fuel, and a clock that passes every time has enough of it.
-/

namespace HftPipeline.Host

open HftPipeline.Std HftPipeline.Wire

/-- `NANOSECONDS_PER_SECOND`. -/
def nanosecondsPerSecond : Nat := 1000000000

/-- `deadline_ns` of a sequence number. -/
def deadlineNs (pps startNs sequence : Nat) : Nat :=
  startNs + (sequence - 1) * nanosecondsPerSecond / pps

/-- The variables of a sending loop: the clock readings so far, the count of the sent
quotes, and the quotes with the index of the reading that ended their wait. -/
structure Sending where
  readings : Nat
  sentPackets : Nat
  sent : List (Payload × Nat)

/-- What a run sends: the announcement, the quotes with the readings that released them,
and the end marker. -/
structure Transmission where
  start : Payload
  quotes : List (Payload × Nat)
  stop : Payload

/-- The end marker is sent five times. -/
def Transmission.packets (transmission : Transmission) : List Payload :=
  transmission.start :: (transmission.quotes.map Prod.fst ++ List.replicate 5 transmission.stop)

namespace StreamPackets

variable (packets : StreamPackets) (arguments : Arguments) (ticks clock : Nat → Nat) (fuel : Nat)

/-- One turn of the sending loop. -/
def sendQuote (sending : Sending) (sequence : Nat) : Option Sending := do
  let ready ← Pacing.waitUntil ticks (deadlineNs arguments.pps.toNat (ticks 0) sequence) fuel
    sending.readings
  let packet ← packets.quote sequence (clock sequence)
  return ⟨ready + 1, sequence, sending.sent ++ [(packet, ready)]⟩

/-- The run behind the checks, when `KeyboardInterrupt` leaves the loop behind that many
quotes: `ticks` are the readings of `time.perf_counter_ns` from `start_ns` on, and `clock`
those of `time.time_ns`. -/
def transmit (interruption : Nat) : Option Transmission := do
  let start ← packets.start arguments (clock 0)
  let sequences := List.range' 1 arguments.plannedPackets.toNat
  let sending ← (sequences.take interruption).foldlM
    (sendQuote packets arguments ticks clock fuel) ⟨1, 0, []⟩
  let stop ← packets.stop arguments sending.sentPackets (clock (sending.sentPackets + 1))
  return ⟨start, sending.sent, stop⟩

end StreamPackets

/-- `main` of the paced sender behind its checks. -/
def PacedSender.main (arguments : Arguments) (ticks clock : Nat → Nat) (fuel interruption : Nat) :
    Option Transmission :=
  packets.transmit arguments ticks clock fuel interruption

namespace OptimizedSender

/-- What the optimized sender reports about its deadlines. -/
structure Lateness where
  missedDeadlines : Nat
  maximumLatenessNs : Nat
  totalLatenessNs : Nat
deriving DecidableEq

/-- The counters behind the wait of one turn; `period_ns` is an exact quotient here. -/
def Lateness.add (pps : Nat) (lateness : Lateness) (latenessNs : Nat) : Lateness where
  missedDeadlines :=
    if (latenessNs : ℚ) ≥ nanosecondsPerSecond / pps then lateness.missedDeadlines + 1
    else lateness.missedDeadlines
  maximumLatenessNs :=
    if latenessNs > lateness.maximumLatenessNs then latenessNs else lateness.maximumLatenessNs
  totalLatenessNs := lateness.totalLatenessNs + latenessNs

end OptimizedSender

namespace StreamPackets

variable {packets : StreamPackets} {arguments : Arguments} {ticks clock : Nat → Nat} {fuel : Nat}

/-- The packets of a sending loop and the readings that release them. -/
structure Sent (packets : StreamPackets) (arguments : Arguments) (ticks clock : Nat → Nat)
    (sequences : List Nat) (reading : Nat) (quotes : List (Payload × Nat)) : Prop where
  packed : List.Forall₂ (fun sequence quote => packets.quote sequence (clock sequence) = some quote)
    sequences (quotes.map Prod.fst)
  released : Pacing.Released ticks 0 reading
    (sequences.map (deadlineNs arguments.pps.toNat (ticks 0))) (quotes.map Prod.snd)

theorem sendQuote_loop : Pacing.Loop ticks 0 fuel (deadlineNs arguments.pps.toNat (ticks 0))
    (fun sequence => packets.quote sequence (clock sequence))
    (sendQuote packets arguments ticks clock fuel) Sending.readings Sending.sent where
  turn := by
    intro sending sequence after sent
    simp only [sendQuote, Option.bind_eq_bind, Option.bind_eq_some_iff, Option.pure_def,
      Option.some.injEq] at sent
    obtain ⟨ready, waited, packet, packed, rfl⟩ := sent
    exact ⟨ready, packet, waited, packed, rfl, rfl⟩
  goesOn := by
    intro sending sequence ready packet waited packed
    refine ⟨⟨ready + 1, sequence, sending.sent ++ [(packet, ready)]⟩, ?_, rfl⟩
    simp only [sendQuote, waited, packed, Option.bind_eq_bind, Option.bind_some, Option.pure_def]

/-- The count of a sending loop is the number of its last quote. -/
theorem sentPackets_foldlM {sequences : List Nat} {sending after : Sending}
    (looped : sequences.foldlM (sendQuote packets arguments ticks clock fuel) sending =
      some after) : after.sentPackets = sequences.getLast?.getD sending.sentPackets := by
  induction sequences generalizing sending with
  | nil =>
      cases looped
      rfl
  | cons sequence sequences ih =>
      simp only [List.foldlM_cons, sendQuote, Option.bind_eq_bind, Option.bind_eq_some_iff,
        Option.pure_def, Option.some.injEq] at looped
      obtain ⟨next, ⟨ready, _, packet, _, rfl⟩, rest⟩ := looped
      rw [ih rest]
      cases sequences with
      | nil => rfl
      | cons second others => simp [List.getLast?_cons]

/-- What a run sends that is interrupted behind that many quotes. -/
structure Transmits (packets : StreamPackets) (arguments : Arguments) (ticks clock : Nat → Nat)
    (sent : Nat) (transmission : Transmission) : Prop where
  start : packets.start arguments (clock 0) = some transmission.start
  quotes : Sent packets arguments ticks clock (List.range' 1 sent) 1 transmission.quotes
  stop : packets.stop arguments sent (clock (sent + 1)) = some transmission.stop

theorem transmits_of_transmit {sent : Nat} (atMost : sent ≤ arguments.plannedPackets.toNat)
    {transmission : Transmission}
    (ran : packets.transmit arguments ticks clock fuel sent = some transmission) :
    packets.Transmits arguments ticks clock sent transmission := by
  have sequences : (List.range' 1 arguments.plannedPackets.toNat).take sent = List.range' 1 sent :=
    List.take_range'_of_length_ge atMost
  simp only [transmit, sequences, Option.bind_eq_bind, Option.bind_eq_some_iff, Option.pure_def,
    Option.some.injEq] at ran
  obtain ⟨start, started, sending, looped, stop, stopped, rfl⟩ := ran
  obtain ⟨quotes, sends, packed, released⟩ := sendQuote_loop.sends looped
  have last : sending.sentPackets = sent := by
    rw [sentPackets_foldlM looped, List.getLast?_range']
    cases sent with
    | zero => rfl
    | succ sent => simp
  rw [last] at stopped
  rw [List.nil_append] at sends
  exact ⟨started, sends ▸ ⟨packed, released⟩, stopped⟩

/-- On a clock that passes every time, every run ends when it has enough fuel. -/
theorem exists_transmit (fit : packets.Fit arguments) (clocked : ∀ n, clock n < 2 ^ 64)
    (passes : ∀ time reading, ∃ later ≥ reading, time ≤ ticks later) {sent : Nat}
    (atMost : sent ≤ arguments.plannedPackets.toNat) :
    ∃ enough, ∀ fuel ≥ enough, ∃ transmission,
      packets.transmit arguments ticks clock fuel sent = some transmission := by
  have sequences : (List.range' 1 arguments.plannedPackets.toNat).take sent = List.range' 1 sent :=
    List.take_range'_of_length_ge atMost
  obtain ⟨readies, enough, released, fits⟩ := Pacing.exists_fuel passes 0 1
    ((List.range' 1 sent).map (deadlineNs arguments.pps.toNat (ticks 0)))
  refine ⟨enough, fun fuel more => ?_⟩
  obtain ⟨start, started⟩ := Option.isSome_iff_exists.mp (fit.start _ (clocked 0))
  have packable : ∀ sequence ∈ List.range' 1 sent,
      (packets.quote sequence (clock sequence)).isSome := by
    intro sequence member
    obtain ⟨first, last⟩ := List.mem_range'_1.mp member
    exact fit.quote sequence _ first (by omega) (clocked sequence)
  have ended : ∃ after, (List.range' 1 sent).foldlM
      (sendQuote packets arguments ticks clock fuel) ⟨1, 0, []⟩ = some after :=
    sendQuote_loop.ends packable released (fits fuel more)
  obtain ⟨sending, looped⟩ := ended
  have last : sending.sentPackets ≤ arguments.plannedPackets.toNat := by
    rw [sentPackets_foldlM looped, List.getLast?_range']
    cases sent with
    | zero => exact Nat.zero_le _
    | succ sent => simpa [Nat.add_comm] using atMost
  obtain ⟨stop, stopped⟩ := Option.isSome_iff_exists.mp
    (fit.stop _ _ last (clocked (sending.sentPackets + 1)))
  refine ⟨⟨start, sending.sent, stop⟩, ?_⟩
  simp only [transmit, started, sequences, looped, stopped, Option.bind_eq_bind, Option.bind_some,
    Option.pure_def]

end StreamPackets

end HftPipeline.Host
