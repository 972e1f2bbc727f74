import HftPipeline.Wire.Senders
import HftPipeline.Host.LiveSequences

/-!
# The verdict of the live receiver

The three sequence counters stay at zero exactly while the sequence numbers are
consecutive from the first one received, whatever that is. The planned count is
learned from `STREAM_START`, so a stream that is received without its first
packets passes as well, and nothing else that the sender did not send in this
order does.
-/

namespace HftPipeline.Host.LiveReceiver

open HftPipeline.Std.EarlyExit HftPipeline.Wire

/-- None of the three sequence counters has counted anything. -/
structure Sequences.Clean (sequences : Sequences) : Prop where
  missing : sequences.missing = 0
  duplicate : sequences.duplicate = 0
  outOfOrder : sequences.outOfOrder = 0

/-- The variables of the classification after consecutive sequence numbers. -/
def Sequences.consecutive (first count : Nat) : Sequences where
  missing := 0
  duplicate := 0
  outOfOrder := 0
  seen := (List.range' first count).toFinset
  highest := if count = 0 then none else some (first + count - 1)

section Record

variable {sequences : Sequences} {sequence : Nat}

/-- The counters only grow. -/
theorem Sequences.Clean.of_record (clean : (sequences.record sequence).Clean) :
    sequences.Clean := by
  by_cases seen : sequence ∈ sequences.seen
  · have counted := clean.duplicate
    rw [record_seen seen] at counted
    simp at counted
  · cases held : sequences.highest with
    | none =>
        rw [record_first seen held] at clean
        exact ⟨clean.missing, clean.duplicate, clean.outOfOrder⟩
    | some highest =>
        by_cases below : sequence < highest
        · have counted := clean.outOfOrder
          rw [record_below seen held below] at counted
          simp at counted
        · rw [record_above seen held (Nat.not_lt.mp below)] at clean
          have missing := clean.missing
          simp only [Nat.add_eq_zero_iff] at missing
          exact ⟨missing.1, clean.duplicate, clean.outOfOrder⟩

end Record

/-- Consecutive numbers are the range they were counted through. -/
theorem Sequences.mem_consecutive (first count sequence : Nat) :
    sequence ∈ (consecutive first count).seen ↔ first ≤ sequence ∧ sequence < first + count := by
  simp [consecutive]

/-- The next number of consecutive ones extends them. -/
theorem Sequences.record_consecutive (first count : Nat) :
    (consecutive first count).record (first + count) = consecutive first (count + 1) := by
  have unseen : first + count ∉ (consecutive first count).seen := by
    rw [mem_consecutive]
    omega
  have grown : insert (first + count) (consecutive first count).seen =
      (consecutive first (count + 1)).seen := by
    ext sequence
    rw [Finset.mem_insert, mem_consecutive, mem_consecutive]
    omega
  cases count with
  | zero =>
      rw [record_first unseen rfl, grown]
      rfl
  | succ count =>
      have held : (consecutive first (count + 1)).highest = some (first + count) := rfl
      rw [record_above unseen held (by omega), grown]
      have gapless : first + (count + 1) - (first + count) - 1 = 0 := by omega
      rw [gapless]
      rfl

/-- Any other number is counted. -/
theorem Sequences.eq_of_clean_record {first count sequence : Nat}
    (clean : ((consecutive first count).record sequence).Clean) :
    count = 0 ∨ sequence = first + count := by
  obtain ⟨missing, duplicate, outOfOrder⟩ := clean
  by_cases seen : sequence ∈ (consecutive first count).seen
  · rw [record_seen seen] at duplicate
    simp at duplicate
  · cases count with
    | zero => exact Or.inl rfl
    | succ count =>
        have held : (consecutive first (count + 1)).highest = some (first + count) := rfl
        by_cases below : sequence < first + count
        · rw [record_below seen held below] at outOfOrder
          simp at outOfOrder
        · rw [mem_consecutive] at seen
          rw [record_above (by rwa [mem_consecutive]) held (Nat.not_lt.mp below)] at missing
          simp only [Nat.add_eq_zero_iff] at missing
          right
          omega

/-- Numbers recorded in order are seen as a range with nothing missing. -/
theorem foldl_consecutive (first count : Nat) :
    (List.range' first count).foldl Sequences.record .initial =
      Sequences.consecutive first count := by
  induction count with
  | zero => rfl
  | succ count ih =>
      rw [List.range'_concat, List.foldl_append, ih, Nat.one_mul]
      exact Sequences.record_consecutive first count

/-- The counters stay at zero exactly for consecutive numbers. -/
theorem clean_foldl_iff (sequences : List Nat) :
    (sequences.foldl Sequences.record .initial).Clean ↔
      ∃ first, sequences = List.range' first sequences.length := by
  constructor
  · intro clean
    induction sequences using List.reverseRecOn with
    | nil => exact ⟨0, rfl⟩
    | append_singleton front sequence ih =>
        rw [List.foldl_append] at clean
        obtain ⟨first, consecutive⟩ := ih clean.of_record
        rw [consecutive, foldl_consecutive] at clean
        rcases Sequences.eq_of_clean_record clean with empty | next
        · have nothing := List.length_eq_zero_iff.mp empty
          exact ⟨sequence, by simp [nothing]⟩
        · refine ⟨first, ?_⟩
          rw [List.length_append, List.length_singleton, List.range'_concat, ← consecutive, next,
            Nat.one_mul]
  · rintro ⟨first, consecutive⟩
    rw [consecutive, foldl_consecutive]
    exact ⟨rfl, rfl, rfl⟩

section Stream

variable {totalPackets targetPps durationMs : Nat} {clock : Nat → Nat}
    {payloads received : List Payload}
  (sends : SendsStream totalPackets targetPps durationMs clock payloads)
  (intact : ∀ payload ∈ received, payload ∈ payloads)

include sends intact

/-- Every received packet is one of the stream, at the position that its number tells. -/
theorem position_of_mem {payload : Payload} (member : payload ∈ received) :
    ∃ index, ∃ inside : index < payloads.length, payload = payloads[index] ∧
      (unpack payload).sequence = index + 1 := by
  obtain ⟨index, inside, rfl⟩ := List.getElem_of_mem (intact payload member)
  exact ⟨index, inside, rfl, sends.sequence inside⟩

/-- Every payload of an intact stream counts as valid. -/
theorem validFields_of_intact : validFields received = received.map unpack := by
  apply List.filter_eq_self.mpr
  intro fields member
  obtain ⟨payload, arrived, rfl⟩ := List.mem_map.mp member
  obtain ⟨index, inside, rfl, _⟩ := position_of_mem sends intact arrived
  exact sends.valid inside

/-- Consecutive numbers are consecutive packets. -/
theorem received_eq_of_numbers {first : Nat} (numbers :
      received.map (fun payload => (unpack payload).sequence) = List.range' first received.length) :
    received = (payloads.drop (first - 1)).take received.length := by
  have numbered (place : Nat) (inside : place < received.length) :
      ∃ bound : first - 1 + place < payloads.length,
        received[place] = payloads[first - 1 + place] := by
    obtain ⟨index, within, same, number⟩ := position_of_mem sends intact (List.getElem_mem inside)
    have counted : (unpack received[place]).sequence = first + place := by
      have entry := congrArg (fun numbers => numbers[place]?) numbers
      simpa [inside] using entry
    have least : 1 ≤ first := by
      have bottom : 0 < received.length := by omega
      obtain ⟨_, _, _, number⟩ := position_of_mem sends intact (List.getElem_mem bottom)
      have entry := congrArg (fun numbers => numbers[0]?) numbers
      simp only [List.getElem?_map, List.getElem?_eq_getElem bottom, Option.map_some,
        List.getElem?_range' bottom] at entry
      simp only [Option.some.injEq] at entry
      omega
    have index_eq : index = first - 1 + place := by omega
    subst index_eq
    exact ⟨within, same⟩
  apply List.ext_getElem
  · by_cases none : received.length = 0
    · simp [none]
    · obtain ⟨bound, _⟩ := numbered (received.length - 1) (by omega)
      rw [List.length_take, List.length_drop]
      omega
  · intro place inside within
    rw [List.getElem_take, List.getElem_drop]
    exact (numbered place inside).2

/-- What is consecutive and contains the `STREAM_END` in the last place only is a
rest of the stream. -/
theorem received_eq_drop (several : 2 ≤ totalPackets) {front : List Payload} {last : Payload}
    (split : received = front ++ [last])
    (isEnd : isOfType messageStreamEnd last = true) {first : Nat} (numbers :
      received.map (fun payload => (unpack payload).sequence) = List.range' first received.length) :
    ∃ skipped < totalPackets, received = payloads.drop skipped := by
  have run := received_eq_of_numbers sends intact numbers
  obtain ⟨index, inside, same, number⟩ := position_of_mem sends intact
    (show last ∈ received by simp [split])
  have final : index + 1 = totalPackets := by
    rw [isOfType, Bool.and_eq_true, beq_iff_eq, same] at isEnd
    exact (sends.isEnd several inside).mp isEnd.2
  have size : received.length = front.length + 1 := by simp [split]
  have position : index + 1 = first + front.length := by
    have entry := congrArg (fun numbers => numbers[front.length]?) numbers
    rw [size] at entry
    simpa [split, number] using entry
  have fits := congrArg List.length run
  rw [List.length_take, List.length_drop, sends.count] at fits
  refine ⟨first - 1, by omega, ?_⟩
  rw [run]
  refine List.take_of_length_le ?_
  rw [List.length_drop, sends.count]
  omega

end Stream

/-- Packets that are no `STREAM_START` announce nothing. -/
theorem foldl_announced {fields : List Fields}
    (none : ∀ entry ∈ fields, entry.messageType ≠ messageStreamStart) (announced : Announced) :
    fields.foldl Announced.record announced = announced := by
  induction fields with
  | nil => rfl
  | cons entry fields ih =>
      have silent := none entry List.mem_cons_self
      rw [List.foldl_cons, Announced.record, if_neg silent]
      exact ih fun other member => none other (List.mem_cons_of_mem _ member)

section Rest

variable {totalPackets targetPps durationMs : Nat} {clock : Nat → Nat} {payloads : List Payload}
  (sends : SendsStream totalPackets targetPps durationMs clock payloads)

include sends

/-- The rest of the stream has consecutive numbers. -/
theorem numbers_drop (skipped : Nat) :
    (payloads.drop skipped).map (fun payload => (unpack payload).sequence) =
      List.range' (skipped + 1) (payloads.drop skipped).length := by
  apply List.ext_getElem
  · simp
  · intro place inside within
    simp only [List.getElem_map, List.getElem_drop, List.getElem_range', Nat.one_mul]
    rw [sends.sequence]
    omega

/-- The rest of the stream ends with the `STREAM_END`. -/
theorem any_isEnd_drop (several : 2 ≤ totalPackets) {skipped : Nat}
    (inside : skipped < totalPackets) :
    (payloads.drop skipped).any (isOfType messageStreamEnd) = true := by
  have count := sends.count
  have bound : totalPackets - 1 < payloads.length := by omega
  refine List.any_eq_true.mpr ⟨payloads[totalPackets - 1], ?_, ?_⟩
  · refine List.mem_drop_iff_getElem.mpr ⟨totalPackets - 1 - skipped, by omega, ?_⟩
    congr 1
    omega
  · rw [isOfType, sends.valid bound, Bool.true_and, beq_iff_eq, sends.isEnd several bound]
    omega

/-- Behind the first packet nothing is announced. -/
theorem announced_later {skipped : Nat} (later : 0 < skipped) (announced : Announced) :
    ((payloads.drop skipped).map unpack).foldl Announced.record announced = announced := by
  apply foldl_announced
  intro fields member
  obtain ⟨payload, arrived, rfl⟩ := List.mem_map.mp member
  obtain ⟨place, inside, rfl⟩ := List.mem_drop_iff_getElem.mp arrived
  rw [ne_eq, sends.isStart]
  omega

/-- The planned count is the sender's when the `STREAM_START` is received, and
otherwise there is none. -/
theorem plannedPackets_drop {skipped : Nat} (inside : skipped < totalPackets) :
    (((payloads.drop skipped).map unpack).foldl Announced.record .initial).plannedPackets =
      if skipped = 0 then some totalPackets else none := by
  by_cases whole : skipped = 0
  · subst whole
    have bottom : 0 < payloads.length := by rw [sends.count]; exact inside
    have start : (unpack payloads[0]).messageType = messageStreamStart :=
      (sends.isStart bottom).mpr rfl
    rw [List.drop_eq_getElem_cons bottom, List.map_cons, List.foldl_cons,
      announced_later sends Nat.one_pos, Announced.record, if_pos start, sends.planned bottom]
    rfl
  · rw [announced_later sends (Nat.pos_of_ne_zero whole), if_neg whole]
    rfl

end Rest

/-- With an intact DMA path, what decides the verdict is the `STREAM_END`, the
sequence numbers and the planned count. -/
theorem overallPass_iff {dma : Dma} {batchPackets : Nat} {final : State} {read : List Datagram}
    (concludes : Concludes dma batchPackets final read) (returns : Returns dma)
    (sized : (payloadsOf read).length = read.length)
    (valid : validFields (payloadsOf read) = (payloadsOf read).map unpack) :
    overallPass final = true ↔
      (payloadsOf read).any (isOfType messageStreamEnd) = true ∧
        (∃ first, (payloadsOf read).map (fun payload => (unpack payload).sequence) =
          List.range' first (payloadsOf read).length) ∧
        plannedCountMatches final = true := by
  obtain ⟨⟨received, malformed, invalid, tallies⟩, running, inTime, settled⟩ := concludes
  have valids : final.validPackets = read.length := by
    rw [tallies.valid, valid, List.length_map, sized]
  have lengths : final.malformedLengths = 0 := by omega
  have delivered : final.delivery.dmaPackets = read.length := by
    rw [settled.counted.packets, settled.flatten, sized]
  have clean := clean_foldl_iff ((payloadsOf read).map fun payload => (unpack payload).sequence)
  have sequences := tallies.sequences
  rw [valid, List.map_map] at sequences
  change final.sequences = List.foldl _ _
    ((payloadsOf read).map fun payload => (unpack payload).sequence) at sequences
  rw [← sequences, List.length_map] at clean
  rw [← clean, ← tallies.ended]
  constructor
  · intro passed
    simp only [overallPass, Bool.and_eq_true, beq_iff_eq] at passed
    obtain ⟨⟨⟨⟨⟨⟨⟨⟨⟨⟨⟨⟨ended, _⟩, _⟩, _⟩, _⟩, missing⟩, duplicate⟩, outOfOrder⟩, _⟩, _⟩, _⟩, _⟩,
      planned⟩ := passed
    exact ⟨ended, ⟨missing, duplicate, outOfOrder⟩, planned⟩
  · rintro ⟨ended, ⟨missing, duplicate, outOfOrder⟩, planned⟩
    have some : 0 < read.length := by
      rw [tallies.ended] at ended
      rw [← sized]
      obtain ⟨payload, member, _⟩ := List.any_eq_true.mp ended
      exact List.length_pos_of_mem member
    simp [overallPass, ended, inTime ended, received, some, valids, lengths, missing, duplicate,
      outOfOrder, delivered, settled.counted.matched returns, settled.counted.errors, running,
      planned]

section Verdict

variable {totalPackets targetPps durationMs : Nat} {clock : Nat → Nat} {payloads : List Payload}

/-- The datagrams are unaltered packets of the stream, in any number and order. -/
def Unaltered (payloads : List Payload) (datagrams : List Datagram) : Prop :=
  ∀ datagram ∈ datagrams, ∃ payload ∈ payloads, datagram.bytes = payload.1

/-- An unaltered datagram carries one of the payloads sent. -/
theorem Unaltered.payload {datagrams : List Datagram} (unaltered : Unaltered payloads datagrams)
    {datagram : Datagram} (member : datagram ∈ datagrams) :
    ∃ payload ∈ payloads, datagramPayload datagram = some payload := by
  obtain ⟨payload, sent, same⟩ := unaltered datagram member
  exact ⟨payload, sent, datagramPayload_eq_some.mpr same⟩

/-- Unaltered datagrams have one payload each. -/
theorem Unaltered.length_payloadsOf {datagrams : List Datagram}
    (unaltered : Unaltered payloads datagrams) :
    (payloadsOf datagrams).length = datagrams.length := by
  refine List.filterMap_length_eq_length.mpr ?_
  intro datagram member
  obtain ⟨payload, _, sized⟩ := unaltered.payload member
  rw [sized]
  rfl

/-- Unaltered datagrams bring only payloads that were sent. -/
theorem Unaltered.intact {datagrams : List Datagram} (unaltered : Unaltered payloads datagrams) :
    ∀ payload ∈ payloadsOf datagrams, payload ∈ payloads := by
  intro payload arrived
  obtain ⟨datagram, member, sized⟩ := List.mem_filterMap.mp arrived
  obtain ⟨sent, among, same⟩ := unaltered.payload member
  rw [same] at sized
  cases sized
  exact among

/-- What is received of the stream passes exactly when it is a rest of it. -/
theorem overallPass_stream {dma : Dma} {batchPackets : Nat} {final : State}
    {datagrams : List Datagram}
    (sends : SendsStream totalPackets targetPps durationMs clock payloads)
    (several : 2 ≤ totalPackets) (unaltered : Unaltered payloads datagrams) (returns : Returns dma)
    (concludes : Concludes dma batchPackets final (takeThrough isStreamEnd datagrams)) :
    overallPass final = true ↔ ∃ skipped < totalPackets,
      payloadsOf (takeThrough isStreamEnd datagrams) = payloads.drop skipped := by
  have read : Unaltered payloads (takeThrough isStreamEnd datagrams) := fun datagram member =>
    unaltered datagram ((takeThrough_isPrefix _ _).subset member)
  have valid := validFields_of_intact sends read.intact
  have decided := overallPass_iff concludes returns read.length_payloadsOf valid
  rw [decided]
  constructor
  · rintro ⟨ended, ⟨first, numbers⟩, _⟩
    rw [any_payloadsOf, any_takeThrough] at ended
    obtain ⟨front, last, split, _, ends⟩ := takeThrough_eq_snoc ended
    obtain ⟨payload, _, sized⟩ := read.payload (show last ∈ _ by simp [split])
    have received : payloadsOf (takeThrough isStreamEnd datagrams) =
        payloadsOf front ++ [payload] := by
      rw [split, payloadsOf_snoc_sized front sized]
    rw [isStreamEnd, sized] at ends
    exact received_eq_drop sends read.intact several received ends numbers
  · rintro ⟨skipped, inside, received⟩
    have planned : plannedCountMatches final = true := by
      have announced := plannedPackets_drop sends inside
      rw [← received, ← valid, ← concludes.counts.tallies.announced] at announced
      have count : final.receivedPackets = totalPackets - skipped := by
        rw [concludes.counts.received, ← read.length_payloadsOf, received, List.length_drop,
          sends.count]
      unfold plannedCountMatches
      rw [announced]
      split_ifs with whole
      · simp [count, whole]
      · rfl
    rw [received]
    exact ⟨any_isEnd_drop sends several inside, ⟨skipped + 1, numbers_drop sends skipped⟩, planned⟩

/-- For unaltered packets of a stream, a PASS means that all of them were received
once and in order, exactly unless a first part of the stream is missing and the rest
is received once and in order. -/
theorem live_pass_is_sound_iff (dma : Dma) (batchPackets : Nat) (returns : Returns dma)
    (positive : 0 < batchPackets)
    (sends : SendsStream totalPackets targetPps durationMs clock payloads)
    (several : 2 ≤ totalPackets) (results : List ReceiveResult)
    (unaltered : Unaltered payloads (datagramsOf results))
    (finished : (main dma batchPackets results).ending = .finished) :
    let received := payloadsOf (takeThrough isStreamEnd (datagramsOf results))
    (overallPass (main dma batchPackets results).state = true → received = payloads) ↔
      ¬∃ skipped, 0 < skipped ∧ skipped < totalPackets ∧ received = payloads.drop skipped := by
  intro received
  have concludes := main_concludes returns.completes positive results finished
  have passes := overallPass_stream sends several unaltered returns concludes
  constructor
  · rintro sound ⟨skipped, positive, inside, rest⟩
    have whole : received = payloads := sound (passes.mpr ⟨skipped, inside, rest⟩)
    have lengths := congrArg List.length (rest.symm.trans whole)
    rw [List.length_drop, sends.count] at lengths
    omega
  · intro complete passed
    obtain ⟨skipped, inside, rest⟩ := passes.mp passed
    rcases Nat.eq_zero_or_pos skipped with rfl | positive
    · exact rest
    · exact absurd ⟨skipped, positive, inside, rest⟩ complete

/-- The two packets of a stream of 1000 packets a second for two milliseconds. -/
def startAndEnd : List Payload :=
  [⟨(buildFields 0 2 1000 2 0).layout, by decide⟩, ⟨(buildFields 1 2 1000 2 1).layout, by decide⟩]

/-- A START and an END are a stream without quotes. -/
theorem sends_startAndEnd : SendsStream 2 1000 2 id startAndEnd where
  count := rfl
  packet := by
    intro index inside
    match index, inside with
    | 0, _ => rfl
    | 1, _ => rfl

/-- A call that returns these payloads. -/
def arrival (payloads : List Payload) : ReceiveResult :=
  .messages (payloads.map fun payload => ⟨payload.1, ⟨0#32, 5005#16⟩⟩)

/-- One call with payloads of the stream is unaltered. -/
theorem unaltered_arrival (received : List Payload)
    (among : ∀ payload ∈ received, payload ∈ payloads) :
    Unaltered payloads (datagramsOf [arrival received]) := by
  intro datagram member
  simp only [arrival, datagramsOf, List.append_nil, List.mem_map] at member
  obtain ⟨payload, arrived, rfl⟩ := member
  exact ⟨payload, among payload arrived, rfl⟩

/-- When both packets arrive, the run passes and the PASS is sound. -/
theorem live_pass_is_sound_startAndEnd :
    overallPass (main loopback 1 [arrival startAndEnd]).state = true ∧
      payloadsOf (takeThrough isStreamEnd (datagramsOf [arrival startAndEnd])) = startAndEnd := by
  have passed : overallPass (main loopback 1 [arrival startAndEnd]).state = true := by decide
  have sound := live_pass_is_sound_iff loopback 1 returns_loopback (by decide) sends_startAndEnd
    (by decide) [arrival startAndEnd] (unaltered_arrival _ fun _ => id) (by decide)
  refine ⟨passed, sound.mpr ?_ passed⟩
  rintro ⟨skipped, positive, inside, rest⟩
  have one : skipped = 1 := by omega
  subst one
  exact absurd rest (by decide)

/-- Without the `STREAM_START`, the `STREAM_END` alone passes. -/
theorem live_pass_without_start :
    SendsStream 2 1000 2 id startAndEnd ∧
      Unaltered startAndEnd (datagramsOf [arrival (startAndEnd.drop 1)]) ∧
      (main loopback 1 [arrival (startAndEnd.drop 1)]).ending = .finished ∧
      overallPass (main loopback 1 [arrival (startAndEnd.drop 1)]).state = true ∧
      payloadsOf (takeThrough isStreamEnd (datagramsOf [arrival (startAndEnd.drop 1)])) ≠
        startAndEnd := by
  refine ⟨sends_startAndEnd, ?_, by decide, by decide, by decide⟩
  exact unaltered_arrival _ fun payload arrived => List.mem_of_mem_drop arrived

end Verdict

end HftPipeline.Host.LiveReceiver
