import HftPipeline.Host.Optimized2Sender
import HftPipeline.Host.StreamRun

/-!
# The optimized2 sender and the C receiver

A run of the sender keeps its pace and stamps every quote with its planned time, however
late it leaves. The C receiver reports it exactly. Milliseconds that do not fit their
field pass the checks, and then nothing is sent at all. All of this is about the program
without the stray name on its line 14.
-/

namespace HftPipeline.Host.Optimized2Sender

open HftPipeline.Std HftPipeline.Wire
open OptimizedSender (maxPlannedPackets startPacket endPacket Lateness)

variable {options : Options} {ticks clock : Nat → Nat} {sent : Nat}

/-- The start of a stream can be packed exactly when its milliseconds fit their field. -/
theorem startPacket_isSome_iff (checked : checkOptions options = .ok ()) {timeNs : Nat}
    (stamped : timeNs < 2 ^ 64) : (startPacket options.arguments timeNs).isSome ↔
      options.arguments.durationMs < 2 ^ 32 := by
  obtain ⟨rate, _, _, _, planned⟩ := checkOptions_eq_ok.mp checked
  simp only [maxPps, maxPlannedPackets] at rate planned
  rw [startPacket, packPacketInto_isSome_iff]
  constructor
  · intro fits
    have price := fits.priceTicks
    simp only [senderFields] at price
    omega
  · intro short
    constructor <;> simp only [senderFields, messageStreamStart, magicBytes] <;> first | rfl | omega

/-- All packets of a run with such milliseconds can be packed. -/
theorem fit (checked : checkOptions options = .ok ())
    (short : options.arguments.durationMs < 2 ^ 32) :
    OptimizedSender.packets.Fit options.arguments := by
  obtain ⟨rate, _, _, _, planned⟩ := checkOptions_eq_ok.mp checked
  simp only [maxPps, maxPlannedPackets] at rate planned
  constructor
  · intro timeNs stamped
    exact (startPacket_isSome_iff checked stamped).mpr short
  · intro sequence timeNs first last stamped
    exact makeQuotePacket_isSome (by omega) stamped
  · intro count timeNs atMost stamped
    exact makeControlPacket_isSome (by decide) (by omega) (by omega) (by omega) (by omega) stamped

theorem announced_iff (checked : checkOptions options = .ok ()) :
    (1 ≤ options.arguments.pps.toNat ∧ 1 ≤ options.arguments.durationMs.toNat ∧
        1 ≤ options.arguments.plannedPackets.toNat ∧
        options.arguments.plannedPackets.toNat ≤ largestStream) ↔
      1 / 2000 < options.arguments.duration := by
  obtain ⟨rate, _, _, _, planned⟩ := checkOptions_eq_ok.mp checked
  rw [← Arguments.durationMs_pos_iff]
  simp only [maxPlannedPackets, largestStream] at planned ⊢
  omega

/-- The planned times fit their field on a clock that leaves room for the run. -/
theorem timestamps_lt (checked : checkOptions options = .ok ()) (clocked : ∀ n, clock n < 2 ^ 63)
    (atMost : sent ≤ options.arguments.plannedPackets.toNat) (place : Nat) :
    timestamps options clock sent place < 2 ^ 64 := by
  obtain ⟨_, _, _, _, planned⟩ := checkOptions_eq_ok.mp checked
  simp only [maxPlannedPackets] at planned
  have early (reading : Nat) : clock reading < 2 ^ 64 := (clocked reading).trans (by decide)
  unfold timestamps
  split_ifs with start actual quote
  · exact early 0
  · exact early _
  · have wall := clocked 1
    have offset : offsetNs options place ≤ (place - 1) * nanosecondsPerSecond := Nat.div_le_self _ _
    have few : (place - 1) * nanosecondsPerSecond ≤ 10000000 * nanosecondsPerSecond :=
      Nat.mul_le_mul_right _ (by omega)
    simp only [nanosecondsPerSecond] at offset few
    omega
  · exact early 2

/-- The packets of a run ask for its stream. -/
theorem runRequests (checked : checkOptions options = .ok ()) {transmission : Transmission}
    (transmits : OptimizedSender.packets.Transmits options.arguments ticks
      (timestamps options clock sent) sent transmission) :
    RunRequests options.arguments.pps.toNat options.arguments.plannedPackets.toNat sent
      (1 / 2000 < options.arguments.duration) transmission.start
      (transmission.quotes.map Prod.fst) transmission.stop := by
  have announced := announced_iff checked
  obtain ⟨started, quotes, stopped⟩ := transmits
  refine ⟨?_, ?_, ?_, requestOf_stop stopped⟩
  · intro long
    exact ⟨_, requestOf_start (unpack_pack started) (announced.mpr long)⟩
  · intro short
    exact requestOf_ignored (unpack_pack started) (mt announced.mp short)
  · exact quotes.packed.imp fun sequence quote packed => requestOf_quote packed

/-- A quote carries its planned time, or the one that was read for it. -/
theorem timestamp_of_transmits {transmission : Transmission}
    (transmits : OptimizedSender.packets.Transmits options.arguments ticks
      (timestamps options clock sent) sent transmission) {index : Nat} {quote : Payload × Nat}
    (at_ : transmission.quotes[index]? = some quote) : (unpack quote.1).timestampNs =
      if options.actualTimestamps then clock (index + 2)
      else clock 1 + index * nanosecondsPerSecond / options.arguments.pps.toNat := by
  have packed := transmits.quotes.packed
  have size := packed.length_eq
  rw [List.length_range', List.length_map] at size
  obtain ⟨inside, found⟩ := List.getElem?_eq_some_iff.mp at_
  have numbered : index < (List.range' 1 sent).length := by
    rw [List.length_range']
    omega
  have made := packed.get numbered (by rwa [List.length_map])
  simp only [List.get_eq_getElem, List.getElem_range', List.getElem_map, found] at made
  have fields := congrArg Fields.timestampNs (unpack_pack made)
  refine fields.trans ?_
  have place : 1 + 1 * index ≠ 0 := by omega
  have within : 1 + 1 * index ≤ sent := by omega
  simp only [senderFields, timestamps, if_neg place, if_pos within, offsetNs]
  split_ifs
  · rw [Nat.one_mul, Nat.add_comm 1, Nat.add_assoc]
  · rw [Nat.one_mul, Nat.add_sub_cancel_left]

/-- Options that pass the checks: milliseconds beyond their field stop the run before it
sends anything, and otherwise every run ends, keeps its pace, carries the planned times
and is reported by the C receiver as it was sent. -/
theorem optimized2_stream_reported (checked : checkOptions options = .ok ())
    (clocked : ∀ n, clock n < 2 ^ 63)
    (passes : ∀ time reading, ∃ later ≥ reading, time ≤ ticks later)
    (atMost : sent ≤ options.arguments.plannedPackets.toNat) :
    (2 ^ 32 ≤ options.arguments.durationMs →
      ∀ fuel, main options ticks clock fuel sent = .error .structError) ∧
    (options.arguments.durationMs < 2 ^ 32 → ∃ enough, ∀ fuel ≥ enough, ∃ transmission lateness,
      main options ticks clock fuel sent = .ok (transmission, lateness) ∧
        transmission.quotes.length = sent ∧
        StreamPackets.Paced options.arguments ticks transmission.quotes ∧
        Counts options.arguments.pps.toNat lateness
          (OptimizedSender.latenesses options.arguments ticks transmission.quotes) ∧
        (∀ index quote, transmission.quotes[index]? = some quote →
          (unpack quote.1).timestampNs = if options.actualTimestamps then clock (index + 2)
            else clock 1 + index * nanosecondsPerSecond / options.arguments.pps.toNat) ∧
        ∀ sender memory (state : CReceiver.State) calls, state.active = false →
          calls.flatten = delivered transmission.packets sender memory →
          (CReceiver.Reports state calls sent options.arguments.plannedPackets.toNat ↔
            1 ≤ sent ∧ 1 / 2000 < options.arguments.duration ∧ memory = true)) := by
  obtain ⟨⟨positive, _⟩, _, _, _, some, _⟩ := checkOptions_eq_ok.mp checked
  have stamped : clock 0 < 2 ^ 64 := (clocked 0).trans (by decide)
  constructor
  · intro long fuel
    have unpacked : startPacket options.arguments (clock 0) = none := by
      rw [← Option.not_isSome_iff_eq_none, startPacket_isSome_iff checked stamped]
      omega
    rw [main, unpacked]
    rfl
  · intro short
    obtain ⟨enough, ends⟩ := StreamPackets.exists_transmit (fit checked short)
      (timestamps_lt checked clocked atMost) passes atMost
    refine ⟨enough, fun fuel more => ?_⟩
    obtain ⟨transmission, ran⟩ := ends fuel more
    obtain ⟨lateness, sends, counts⟩ := main_of_transmit atMost ran
    have transmits := StreamPackets.transmits_of_transmit atMost ran
    have size := transmits.quotes.packed.length_eq
    rw [List.length_range', List.length_map] at size
    refine ⟨transmission, lateness, sends, size.symm, transmits.quotes.paced (by omega), counts,
      fun index quote at_ => timestamp_of_transmits transmits at_, ?_⟩
    intro sender memory state calls idle flat
    exact CReceiver.reports_iff (runRequests checked transmits) atMost (by omega) flat idle

/-- The default options. -/
def defaultOptions : Options := ⟨⟨11000, 10, 5001⟩, 0, false⟩

/-- On a clock of microseconds a run of the default options that is interrupted behind two
quotes is reported, and a run of ten million seconds is never started. -/
theorem optimized2_stream_reported_default :
    (∃ enough transmission lateness,
      main defaultOptions (· * 1000) (fun _ => 0) enough 2 = .ok (transmission, lateness) ∧
        CReceiver.Reports .initial [delivered transmission.packets tester true] 2 110000) ∧
      ∀ fuel, main ⟨⟨1, 10000000, 5001⟩, 0, false⟩ (· * 1000) (fun _ => 0) fuel 2 =
        .error .structError := by
  have checked : checkOptions defaultOptions = .ok () := by decide +kernel
  have accepted : checkOptions ⟨⟨1, 10000000, 5001⟩, 0, false⟩ = .ok () := by decide +kernel
  have clocked : ∀ n, (fun _ => 0 : Nat → Nat) n < 2 ^ 63 := fun _ => Nat.two_pow_pos 63
  have passes (time reading : Nat) : ∃ later ≥ reading, time ≤ later * 1000 :=
    ⟨max time reading, le_max_right _ _, by omega⟩
  have planned : defaultOptions.arguments.plannedPackets.toNat = 110000 := by decide +kernel
  obtain ⟨enough, ends⟩ := (optimized2_stream_reported checked clocked passes
    (by rw [planned]; decide : 2 ≤ defaultOptions.arguments.plannedPackets.toNat)).2
      (by decide +kernel)
  obtain ⟨transmission, lateness, sends, _, _, _, _, reports⟩ := ends enough (Nat.le_refl _)
  have reported := reports tester true .initial [delivered transmission.packets tester true] rfl
    (by simp)
  rw [planned] at reported
  refine ⟨⟨enough, transmission, lateness, sends, reported.mpr ?_⟩, ?_⟩
  · norm_num [defaultOptions]
  · exact (optimized2_stream_reported accepted clocked passes (by decide +kernel)).1
      (by decide +kernel)

end HftPipeline.Host.Optimized2Sender
