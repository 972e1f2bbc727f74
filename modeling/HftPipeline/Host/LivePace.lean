import HftPipeline.Host.SenderPace

/-!
# The live sender and its clock

`main` of `phase4_9_live_udp_sender.py` sends its packets on a schedule of whole
nanoseconds that starts a tenth of a second after the first reading of the clock, and it
reads the clock once more behind every packet. Unlike the stream senders it adds up a
rounded period, so its schedule is never slower than the rate it was given.
-/

namespace HftPipeline.Host.LiveSender

open HftPipeline.Std HftPipeline.Wire

/-- The command line, without the destination. -/
structure Arguments where
  pps : Int
  duration : ℚ

/-- The checks of `main`, with the text of each `ValueError`. -/
def checkArguments (arguments : Arguments) : Except String Unit :=
  if arguments.pps ≤ 0 then .error "--pps must be positive"
  else if arguments.duration ≤ 0 then .error "--duration must be positive"
  else .ok ()

/-- `total_packets`. -/
def Arguments.totalPackets (arguments : Arguments) : Nat :=
  (max 2 (HalfEven.round (arguments.pps * arguments.duration))).toNat

/-- `duration_ms`. -/
def Arguments.durationMs (arguments : Arguments) : Nat :=
  (HalfEven.round (arguments.duration * 1000)).toNat

/-- `packet_interval_ns`. -/
def Arguments.packetIntervalNs (arguments : Arguments) : Nat :=
  nanosecondsPerSecond / arguments.pps.toNat

/-- The lead of the schedule over the first reading of the clock. -/
def leadNs : Nat := 100000000

/-- The clock readings so far, and the packets with the index of the reading that ended
their wait; the reading behind it is `send_ns`. -/
structure Sending where
  readings : Nat
  sent : List (Payload × Nat)

variable (arguments : Arguments) (ticks clock : Nat → Nat) (fuel : Nat)

/-- `deadline_ns` of a packet. -/
def deadlineNs (packetIndex : Nat) : Nat :=
  ticks 0 + leadNs + packetIndex * arguments.packetIntervalNs

/-- One turn of the sending loop. -/
def sendPacket (sending : Sending) (packetIndex : Nat) : Option Sending := do
  let ready ← Pacing.waitUntil ticks (deadlineNs arguments ticks packetIndex) fuel sending.readings
  let packet ← buildPacket packetIndex arguments.totalPackets arguments.pps.toNat
    arguments.durationMs (clock packetIndex)
  return ⟨ready + 2, sending.sent ++ [(packet, ready)]⟩

/-- What `main` sends and prints at its end. -/
structure Run where
  sent : List (Payload × Nat)
  elapsedNs : Option Nat

/-- `main` behind its checks, with `none` for a run out of fuel: `ticks` are the readings of
`time.perf_counter_ns` one after the other, and `clock` those of `time.time_ns`. The elapsed
time is that between the first and the last `send_ns`, and is missing where it would not be
positive. -/
def sendAll : Option Run := do
  let sending ← (List.range arguments.totalPackets).foldlM
    (sendPacket arguments ticks clock fuel) ⟨1, []⟩
  let firstSendNs := sending.sent.head?.map fun packet => ticks (packet.2 + 1)
  let finalSendNs := sending.sent.getLast?.map fun packet => ticks (packet.2 + 1)
  let elapsedNs := do
    let first ← firstSendNs
    let final ← finalSendNs
    if final > first then some (final - first) else none
  return ⟨sending.sent, elapsedNs⟩

/-- `main`. -/
def main : Except String (Option Run) :=
  (checkArguments arguments).map fun _ => sendAll arguments ticks clock fuel

variable {arguments ticks clock fuel}

/-- Sending a packet at its deadline is one round of the pacing loop. -/
theorem sendPacket_loop : Pacing.Loop ticks 1 fuel (deadlineNs arguments ticks)
    (fun packetIndex => buildPacket packetIndex arguments.totalPackets arguments.pps.toNat
      arguments.durationMs (clock packetIndex))
    (sendPacket arguments ticks clock fuel) Sending.readings Sending.sent where
  turn := by
    intro sending packetIndex after sent
    simp only [sendPacket, Option.bind_eq_bind, Option.bind_eq_some_iff, Option.pure_def,
      Option.some.injEq] at sent
    obtain ⟨ready, waited, packet, packed, rfl⟩ := sent
    exact ⟨ready, packet, waited, packed, rfl, rfl⟩
  goesOn := by
    intro sending packetIndex ready packet waited packed
    refine ⟨⟨ready + 2, sending.sent ++ [(packet, ready)]⟩, ?_, rfl⟩
    simp only [sendPacket, waited, packed, Option.bind_eq_bind, Option.bind_some, Option.pure_def]

/-- The deadlines of a run. -/
def deadlines (arguments : Arguments) (ticks : Nat → Nat) : List Nat :=
  (List.range arguments.totalPackets).map (deadlineNs arguments ticks)

/-- Packet `index` has the deadline of its number. -/
theorem deadlines_getElem? {index : Nat} (inside : index < arguments.totalPackets) :
    (deadlines arguments ticks)[index]? = some (deadlineNs arguments ticks index) := by
  rw [deadlines, List.getElem?_map, List.getElem?_range inside, Option.map_some]

/-- Consecutive deadlines are a period of whole nanoseconds apart. -/
theorem deadlines_apart : (deadlines arguments ticks).IsChain fun first second =>
    first + arguments.packetIntervalNs ≤ second := by
  rw [deadlines, List.isChain_map, List.range_eq_range']
  refine (List.isChain_range' 0 arguments.totalPackets 1).imp fun index next follows => ?_
  rw [deadlineNs, deadlineNs, follows, Nat.succ_mul]
  omega

/-- A run sends the packets of the stream in order, each behind its wait. -/
structure Sends (arguments : Arguments) (ticks clock : Nat → Nat) (run : Run) : Prop where
  stream : SendsStream arguments.totalPackets arguments.pps.toNat arguments.durationMs clock
    (run.sent.map Prod.fst)
  released : Pacing.Released ticks 1 1 (deadlines arguments ticks) (run.sent.map Prod.snd)
  elapsed : ∀ first final, run.sent.head? = some first → run.sent.getLast? = some final →
    run.elapsedNs = if ticks (final.2 + 1) > ticks (first.2 + 1) then
      some (ticks (final.2 + 1) - ticks (first.2 + 1)) else none

/-- A run of the sender is a paced sending of the whole stream. -/
theorem sends_of_sendAll {run : Run} (ran : sendAll arguments ticks clock fuel = some run) :
    Sends arguments ticks clock run := by
  simp only [sendAll, Option.bind_eq_bind, Option.bind_eq_some_iff, Option.pure_def,
    Option.some.injEq] at ran
  obtain ⟨sending, looped, rfl⟩ := ran
  obtain ⟨packets, sent, built, released⟩ := sendPacket_loop.sends looped
  rw [List.nil_append] at sent
  subst sent
  constructor
  · have count := built.length_eq
    rw [List.length_range] at count
    refine ⟨count.symm, fun index inside => ?_⟩
    have made := built.get (by rwa [List.length_range, count]) inside
    rwa [List.get_eq_getElem, List.get_eq_getElem, List.getElem_range] at made
  · exact released
  · intro first final head last
    simp [head, last]

/-- The packets of a run and their times: none leaves before its deadline, of the packets
that have left by some time all but one are worth their period, and on a clock of fine
steps every packet leaves within a step of its deadline, so that the elapsed time is that
of the schedule up to two steps. -/
structure Paced (arguments : Arguments) (ticks : Nat → Nat) (run : Run) : Prop where
  punctual : ∀ index packet, run.sent[index]? = some packet →
    deadlineNs arguments ticks index ≤ ticks packet.2
  rate : ∀ elapsed,
    ((run.sent.countP fun packet => ticks packet.2 < ticks 0 + leadNs + elapsed) - 1) *
      arguments.packetIntervalNs ≤ elapsed
  prompt : ∀ grain, (∀ reading, ticks (reading + 1) ≤ ticks reading + grain) →
    2 * grain ≤ arguments.packetIntervalNs → ∀ index packet, run.sent[index]? = some packet →
      ticks packet.2 ≤ deadlineNs arguments ticks index + grain
  elapsed : ∀ grain, (∀ reading, ticks reading ≤ ticks (reading + 1)) →
    (∀ reading, ticks (reading + 1) ≤ ticks reading + grain) →
    2 * grain < arguments.packetIntervalNs → ∃ elapsed, run.elapsedNs = some elapsed ∧
      elapsed ≤ (arguments.totalPackets - 1) * arguments.packetIntervalNs + 2 * grain ∧
      (arguments.totalPackets - 1) * arguments.packetIntervalNs ≤ elapsed + 2 * grain

/-- A stream holds at least its START and its END. -/
theorem two_le_totalPackets (arguments : Arguments) : 2 ≤ arguments.totalPackets := by
  have bound := le_max_left 2 (HalfEven.round (arguments.pps * arguments.duration))
  rw [Arguments.totalPackets]
  omega

section Times

variable {run : Run} (sends : Sends arguments ticks clock run)

include sends

/-- Every packet of the stream is sent. -/
theorem Sends.length : run.sent.length = arguments.totalPackets := by
  have count := sends.stream.count
  rwa [List.length_map] at count

/-- A sent packet has its deadline and the reading at which it left. -/
theorem Sends.reading {index : Nat} {packet : Payload × Nat}
    (at_ : run.sent[index]? = some packet) :
    (deadlines arguments ticks)[index]? = some (deadlineNs arguments ticks index) ∧
      (run.sent.map Prod.snd)[index]? = some packet.2 := by
  have inside := (List.getElem?_eq_some_iff.mp at_).1
  rw [sends.length] at inside
  exact ⟨deadlines_getElem? inside, by rw [List.getElem?_map, at_, Option.map_some]⟩

/-- No packet leaves before its deadline. -/
theorem Sends.punctual {index : Nat} {packet : Payload × Nat}
    (at_ : run.sent[index]? = some packet) :
    deadlineNs arguments ticks index ≤ ticks packet.2 := by
  obtain ⟨due, released⟩ := sends.reading at_
  obtain ⟨inside, deadline⟩ := List.getElem?_eq_some_iff.mp due
  obtain ⟨within, reading⟩ := List.getElem?_eq_some_iff.mp released
  have passed := sends.released.passed.get inside within
  rwa [List.get_eq_getElem, List.get_eq_getElem, deadline, reading] at passed

/-- On a clock finer than half the interval every packet leaves within one grain. -/
theorem Sends.prompt {grain : Nat} (fine : ∀ reading, ticks (reading + 1) ≤ ticks reading + grain)
    (finer : 2 * grain ≤ arguments.packetIntervalNs) {index : Nat} {packet : Payload × Nat}
    (at_ : run.sent[index]? = some packet) :
    ticks packet.2 ≤ deadlineNs arguments ticks index + grain := by
  obtain ⟨due, released⟩ := sends.reading at_
  have begins : ∀ deadline ∈ (deadlines arguments ticks).head?, ticks 1 ≤ deadline + grain := by
    intro deadline first
    have several := two_le_totalPackets arguments
    rw [List.head?_eq_getElem?, deadlines_getElem? (by omega)] at first
    cases first
    have soon : ticks 1 ≤ ticks 0 + grain := fine 0
    rw [deadlineNs]
    omega
  have onTime :=
    sends.released.recovers arguments.packetIntervalNs grain (fun later _ => fine later)
    finer begins deadlines_apart due released
  rwa [max_eq_left (Nat.sub_le _ _)] at onTime

/-- Since the schedule began at most one packet more left than intervals have passed. -/
theorem Sends.rate (elapsed : Nat) :
    ((run.sent.countP fun packet => ticks packet.2 < ticks 0 + leadNs + elapsed) - 1) *
      arguments.packetIntervalNs ≤ elapsed := by
  have few := sends.released.countP_le (ticks 0 + leadNs + elapsed)
  rw [List.countP_map] at few
  have ordered : (deadlines arguments ticks).Pairwise (· ≤ ·) :=
    (deadlines_apart.imp fun _ _ => (Nat.le_add_right _ _).trans).pairwise
  cases counted : (deadlines arguments ticks).countP
      fun deadline => deadline < ticks 0 + leadNs + elapsed with
  | zero =>
      rw [counted] at few
      have none := Nat.le_zero.mp few
      simp only [Function.comp_def] at none
      rw [none]
      omega
  | succ count =>
      have inside : count < arguments.totalPackets := by
        have bound := List.countP_le_length
          (p := fun deadline => deadline < ticks 0 + leadNs + elapsed)
          (l := deadlines arguments ticks)
        rw [counted, deadlines, List.length_map, List.length_range] at bound
        omega
      have due := Pacing.lt_of_countP ordered counted (deadlines_getElem? inside)
      rw [counted] at few
      have scaled := Nat.mul_le_mul_right arguments.packetIntervalNs (Nat.sub_le_sub_right few 1)
      rw [deadlineNs] at due
      rw [Nat.add_sub_cancel] at scaled
      exact scaled.trans (by omega)

/-- The packets of a run keep the pace of the schedule. -/
theorem Sends.paced : Paced arguments ticks run where
  punctual := fun _ _ => sends.punctual
  rate := sends.rate
  prompt := fun _ fine finer _ _ => sends.prompt fine finer
  elapsed := by
    intro grain monotone fine finer
    have several := two_le_totalPackets arguments
    have length := sends.length
    have atFirst : run.sent[0]? = some run.sent[0] := List.getElem?_eq_getElem (by omega)
    have atLast : run.sent[arguments.totalPackets - 1]? =
        some run.sent[arguments.totalPackets - 1] := List.getElem?_eq_getElem (by omega)
    generalize run.sent[0] = first at atFirst
    generalize run.sent[arguments.totalPackets - 1] = final at atLast
    have early := sends.punctual atFirst
    have late := sends.punctual atLast
    have soon := sends.prompt fine finer.le atFirst
    have onTime := sends.prompt fine finer.le atLast
    have firstSend := fine first.2
    have finalSend := fine final.2
    have firstBehind := monotone first.2
    have finalBehind := monotone final.2
    have span : arguments.packetIntervalNs ≤
        (arguments.totalPackets - 1) * arguments.packetIntervalNs :=
      Nat.le_mul_of_pos_left _ (by omega)
    rw [deadlineNs] at early late soon onTime
    have printed := sends.elapsed first final (by rw [List.head?_eq_getElem?, atFirst])
      (by rw [List.getLast?_eq_getElem?, length, atLast])
    rw [if_pos (by omega)] at printed
    exact ⟨_, printed, by omega, by omega⟩

end Times

/-- With arguments that pass its checks and whose packets fit their fields, the live sender
emits its stream in order on every clock that passes every time, at the pace of its
schedule, which is never slower than the rate it was given. -/
theorem live_sender_keeps_pace (arguments : Arguments) (ticks clock : Nat → Nat)
    (checked : checkArguments arguments = .ok ())
    (range : SenderRange arguments.totalPackets arguments.pps.toNat arguments.durationMs)
    (clocked : ∀ n, clock n < 2 ^ 64)
    (passes : ∀ time reading, ∃ later ≥ reading, time ≤ ticks later) :
    arguments.packetIntervalNs * arguments.pps.toNat ≤ nanosecondsPerSecond ∧
      ∃ enough, ∀ fuel ≥ enough, ∃ run, main arguments ticks clock fuel = .ok (some run) ∧
        SendsStream arguments.totalPackets arguments.pps.toNat arguments.durationMs clock
          (run.sent.map Prod.fst) ∧
        Paced arguments ticks run := by
  refine ⟨Nat.div_mul_le_self _ _, ?_⟩
  obtain ⟨readies, enough, released, fits⟩ :=
    Pacing.exists_fuel passes 1 1 (deadlines arguments ticks)
  refine ⟨enough, fun fuel more => ?_⟩
  have packable : ∀ index ∈ List.range arguments.totalPackets,
      (buildPacket index arguments.totalPackets arguments.pps.toNat arguments.durationMs
        (clock index)).isSome := by
    intro index member
    obtain ⟨payload, built, _⟩ := buildPacket_eq range (List.mem_range.mp member) (clocked index)
    exact Option.isSome_iff_exists.mpr ⟨payload, built⟩
  have ended : ∃ after, (List.range arguments.totalPackets).foldlM
      (sendPacket arguments ticks clock fuel) ⟨1, []⟩ = some after :=
    sendPacket_loop.ends packable released (fits fuel more)
  obtain ⟨sending, looped⟩ := ended
  have ran : ∃ run, sendAll arguments ticks clock fuel = some run := by
    simp only [sendAll, looped, Option.bind_eq_bind, Option.bind_some, Option.pure_def]
    exact ⟨_, rfl⟩
  obtain ⟨run, ran⟩ := ran
  have sends := sends_of_sendAll ran
  exact ⟨run, by rw [main, checked, ← ran]; rfl, sends.stream, sends.paced⟩

/-- The defaults of the command line. -/
def defaultArguments : Arguments := ⟨1000, 2⟩

/-- With the defaults and a clock of microseconds the 2000 packets take two seconds less
one period, up to two microseconds. -/
theorem live_sender_keeps_pace_default :
    ∃ fuel run elapsed, main defaultArguments (· * 1000) (fun _ => 0) fuel = .ok (some run) ∧
      run.elapsedNs = some elapsed ∧ elapsed ≤ 1999002000 ∧ 1998998000 ≤ elapsed := by
  have total : defaultArguments.totalPackets = 2000 := by decide +kernel
  have interval : defaultArguments.packetIntervalNs = 1000000 := by decide +kernel
  have range : SenderRange defaultArguments.totalPackets defaultArguments.pps.toNat
      defaultArguments.durationMs := by
    constructor <;> decide +kernel
  obtain ⟨_, fuel, ends⟩ := live_sender_keeps_pace defaultArguments (· * 1000) (fun _ => 0)
    (by decide +kernel) range (fun _ => Nat.two_pow_pos 64)
    (fun time reading => ⟨max time reading, le_max_right _ _, by omega⟩)
  obtain ⟨run, ran, _, paced⟩ := ends fuel (Nat.le_refl _)
  obtain ⟨elapsed, printed, atMost, atLeast⟩ := paced.elapsed 1000 (fun reading => by omega)
    (fun reading => by omega) (by rw [interval]; decide)
  rw [total, interval] at atMost atLeast
  exact ⟨fuel, run, elapsed, ran, printed, by omega, by omega⟩

end HftPipeline.Host.LiveSender
