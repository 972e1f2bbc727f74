import HftPipeline.Host.BatchRuns
import HftPipeline.Std.Fallible

/-!
# The verdict of the batch test

Each batch is compared with a buffer that was cleared before its transfer. Bytes that a
transfer does not store are noticed unless they are zero themselves, which only the last
bytes of the `STREAM_END` packet are.
-/

namespace HftPipeline.Host.BatchTest

open HftPipeline.Std HftPipeline.Std.Slots HftPipeline.Wire
open LiveReceiver (joinPackets packetSlice)

section Packets

variable {packets : List Payload}

/-- Dropping whole packets from the byte stream drops them from the list. -/
theorem drop_joinPackets (packets : List Payload) (count : Nat) :
    (joinPackets packets).drop (count * packetSize) = joinPackets (packets.drop count) := by
  induction count generalizing packets with
  | zero => simp
  | succ count ih =>
      cases packets with
      | nil => simp [joinPackets]
      | cons packet packets =>
          rw [LiveReceiver.joinPackets_cons, Nat.succ_mul, Nat.add_comm, ← List.drop_drop,
            List.drop_left' packet.2, ih, List.drop_succ_cons]

/-- Taking whole packets from the byte stream takes them from the list. -/
theorem take_joinPackets (packets : List Payload) (count : Nat) :
    (joinPackets packets).take (count * packetSize) = joinPackets (packets.take count) := by
  induction count generalizing packets with
  | zero => simp [joinPackets]
  | succ count ih =>
      cases packets with
      | nil => simp [joinPackets]
      | cons packet packets =>
          have first : packet.1.length ≤ packetSize + count * packetSize := by
            rw [packet.2]
            omega
          rw [LiveReceiver.joinPackets_cons, Nat.succ_mul, Nat.add_comm, List.take_append,
            List.take_of_length_le first, packet.2, Nat.add_sub_cancel_left, ih,
            List.take_succ_cons, LiveReceiver.joinPackets_cons]

/-- A comparison counts no mismatch exactly when the packets are returned. -/
theorem compareBatch_clean_iff {received : List Byte} (first : Nat)
    (short : received.length ≤ (joinPackets packets).length) :
    (LiveReceiver.compareBatch (joinPackets packets) received first).1 = 0 ↔
      received = joinPackets packets := by
  have count : (joinPackets packets).length / packetSize = packets.length := by
    rw [LiveReceiver.length_joinPackets, Nat.mul_div_cancel _ (by decide)]
  rw [LiveReceiver.compareBatch, LiveReceiver.foldl_compareSlot _ _ _ _ _ (by simp), count]
  constructor
  · intro none
    have clean : LiveReceiver.differing (joinPackets packets) received
        (List.range packets.length) = [] := by simpa using none
    apply LiveReceiver.eq_joinPackets_of_slices
    · rwa [LiveReceiver.length_joinPackets] at short
    · intro index inside
      rw [← LiveReceiver.packetSlice_joinPackets inside]
      simpa using List.filter_eq_nil_iff.mp clean index (List.mem_range.mpr inside)
  · rintro rfl
    simp [LiveReceiver.differing]

variable {config : Config} {batchIndex : Nat}

/-- The packets of one batch. -/
def Config.batch (config : Config) (packets : List Payload) (batchIndex : Nat) : List Payload :=
  (packets.drop (batchIndex * config.batchPackets)).take (config.packetCount batchIndex)

/-- The slice of the byte stream a batch is compared with holds its packets. -/
theorem expectedBatch_joinPackets (packets : List Payload) (batchIndex : Nat) :
    expectedBatch config (joinPackets packets) batchIndex =
      joinPackets (config.batch packets batchIndex) := by
  rw [expectedBatch, drop_joinPackets, take_joinPackets, Config.batch]

/-- A batch has the number of packets that its transfer is programmed for. -/
theorem length_batch (whole : packets.length = config.totalPackets) :
    (config.batch packets batchIndex).length = config.packetCount batchIndex := by
  rw [Config.batch, List.length_take, List.length_drop, whole, Config.packetCount]
  omega

/-- A batch is one of the test exactly when a packet is left for it. -/
theorem Config.lt_totalBatches (positive : 0 < config.batchPackets) :
    batchIndex < config.totalBatches ↔ batchIndex * config.batchPackets < config.totalPackets := by
  rw [← Nat.succ_le_iff, totalBatches, Nat.le_div_iff_mul_le positive, Nat.succ_mul]
  omega

end Packets

section Marks

variable {config : Config} {packets : List Payload} {packet : Payload} {index batchIndex : Nat}

/-- The constants under which the last bytes of a packet tell where it ends. -/
structure Config.Marked (config : Config) : Prop where
  several : 2 ≤ config.totalPackets
  lowByte : config.totalPackets % 256 ≠ 0
  positive : 0 < config.batchPackets

/-- The zero bytes at the end of a packet. -/
def Config.hidden (config : Config) (packetIndex : Nat) : Nat :=
  if packetIndex + 1 = config.totalPackets then 12 else 0

/-- A number that is no multiple of 256 has a low byte other than zero. -/
theorem ofNat_ne_zero {number : Nat} (nonzero : number % 256 ≠ 0) :
    BitVec.ofNat 8 number ≠ 0#8 := by
  intro zero
  have value := congrArg BitVec.toNat zero
  rw [BitVec.toNat_ofNat] at value
  exact nonzero value

/-- A packet that could be packed holds the layout of its fields. -/
theorem layout_of_pack {fields : Fields} (packed : pack fields = some packet) :
    packet.1 = fields.layout := by
  rw [pack] at packed
  split_ifs at packed
  cases packed
  rfl

/-- The quantity is the last field. -/
theorem layout_quantity (fields : Fields) :
    ∃ front, fields.layout = front ++ [BitVec.ofNat 8 fields.quantity] := by
  have last : BigEndian.bytes 4 fields.quantity =
      BigEndian.bytes 3 (fields.quantity / 256) ++ [BitVec.ofNat 8 fields.quantity] := rfl
  rw [Fields.layout, last, ← List.append_assoc]
  exact ⟨_, rfl⟩

/-- In front of three empty fields the timestamp is the last one. -/
theorem layout_timestampNs (fields : Fields) (instrument : fields.instrumentId = 0)
    (price : fields.priceTicks = 0) (quantity : fields.quantity = 0) : ∃ front,
      fields.layout = front ++ BitVec.ofNat 8 fields.timestampNs :: List.replicate 12 0#8 := by
  have timestamp : BigEndian.bytes 8 fields.timestampNs =
      BigEndian.bytes 7 (fields.timestampNs / 256) ++ [BitVec.ofNat 8 fields.timestampNs] := rfl
  have zeros : BigEndian.bytes 4 0 = List.replicate 4 0#8 := rfl
  refine ⟨fields.magic ++ BigEndian.bytes 1 fields.version ++
    BigEndian.bytes 1 fields.messageType ++ BigEndian.bytes 1 fields.side ++
    BigEndian.bytes 1 fields.reserved ++ BigEndian.bytes 4 fields.sequence ++
    BigEndian.bytes 7 (fields.timestampNs / 256), ?_⟩
  rw [Fields.layout, instrument, price, quantity, timestamp, zeros]
  simp only [List.append_assoc]
  rfl

/-- The packets of a test are those `buildPacket` builds, one for each index. -/
theorem packets_spec (built : config.packets = some packets) :
    packets.length = config.totalPackets ∧
      ∀ index (inside : index < packets.length), config.buildPacket index =
        some packets[index] := by
  have each := Fallible.mapM_eq_some_iff.mp built
  have whole := each.length_eq
  rw [List.length_range] at whole
  refine ⟨whole.symm, fun index inside => ?_⟩
  have found := each.get (by rwa [List.length_range, whole]) inside
  simpa using found

/-- Only the last packet ends in zero bytes, behind a timestamp that does not. -/
theorem marked_packet (marked : config.Marked) (inside : index < config.totalPackets)
    (built : config.buildPacket index = some packet) : ∃ front byte, byte ≠ 0#8 ∧
      packet.1 = front ++ byte :: List.replicate (config.hidden index) 0#8 := by
  have several := marked.several
  have lowByte := marked.lowByte
  unfold Config.buildPacket at built
  simp only at built
  split_ifs at built with start last
  · obtain ⟨front, shape⟩ := layout_quantity _
    rw [layout_of_pack built, Config.hidden, if_neg (by omega)]
    exact ⟨front, _, ofNat_ne_zero lowByte, shape⟩
  · have low : (0x1000000000000000 + (index + 1)) % 256 ≠ 0 := by omega
    rw [layout_of_pack built, Config.hidden, if_pos (by omega)]
    obtain ⟨front, shape⟩ := layout_timestampNs ⟨magicBytes, 1, 5, 0, 0, index + 1,
      0x1000000000000000 + (index + 1), 0, 0, 0⟩ rfl rfl rfl
    exact ⟨front, _, ofNat_ne_zero low, shape⟩
  · have small : (1 + index % 100) % 256 ≠ 0 := by omega
    obtain ⟨front, shape⟩ := layout_quantity _
    rw [layout_of_pack built, Config.hidden, if_neg (by omega)]
    exact ⟨front, _, ofNat_ne_zero small, shape⟩

/-- The zero bytes at the end of a batch. -/
def Config.batchHidden (config : Config) (batchIndex : Nat) : Nat :=
  if batchIndex + 1 = config.totalBatches then 12 else 0

/-- Only the last batch reaches the end of the stream. -/
theorem Config.last_batch_iff (positive : 0 < config.batchPackets)
    (inside : batchIndex < config.totalBatches) :
    batchIndex * config.batchPackets + config.packetCount batchIndex = config.totalPackets ↔
      batchIndex + 1 = config.totalBatches := by
  have begins := (lt_totalBatches positive).mp inside
  have next : ¬batchIndex + 1 < config.totalBatches ↔
      ¬(batchIndex + 1) * config.batchPackets < config.totalPackets :=
    not_congr (lt_totalBatches positive)
  rw [Nat.succ_mul] at next
  rw [packetCount]
  omega

/-- A batch of a marked test ends in a nonzero byte and the zeros behind it. -/
theorem marked_batch (marked : config.Marked) (built : config.packets = some packets)
    (inside : batchIndex < config.totalBatches) : ∃ front byte, byte ≠ 0#8 ∧
      joinPackets (config.batch packets batchIndex) =
        front ++ byte :: List.replicate (config.batchHidden batchIndex) 0#8 := by
  obtain ⟨whole, builds⟩ := packets_spec built
  have begins := (Config.lt_totalBatches marked.positive).mp inside
  have filled : 0 < config.packetCount batchIndex := by
    have positive := marked.positive
    rw [Config.packetCount]
    omega
  have size : (config.batch packets batchIndex).length = config.packetCount batchIndex :=
    length_batch whole
  have nonempty : config.batch packets batchIndex ≠ [] := by
    intro empty
    rw [empty] at size
    exact Nat.ne_of_lt filled size
  -- The last packet of the batch, by its index in the stream.
  have within : batchIndex * config.batchPackets + (config.packetCount batchIndex - 1) <
      packets.length := by
    rw [whole, Config.packetCount]
    omega
  have last : (config.batch packets batchIndex).getLast nonempty =
      packets[batchIndex * config.batchPackets + (config.packetCount batchIndex - 1)] := by
    have room : config.packetCount batchIndex ≤
        packets.length - batchIndex * config.batchPackets := by
      rw [whole]
      exact Nat.min_le_right _ _
    simp [List.getLast_eq_getElem, Config.batch, Nat.min_eq_left room]
  obtain ⟨front, byte, nonzero, shape⟩ := marked_packet marked (whole ▸ within) (builds _ within)
  have hidden : config.hidden
      (batchIndex * config.batchPackets + (config.packetCount batchIndex - 1)) =
        config.batchHidden batchIndex := by
    have ends := Config.last_batch_iff marked.positive inside
    rw [Config.hidden, Config.batchHidden]
    congr 1
    rw [← ends, eq_iff_iff]
    omega
  refine ⟨joinPackets (config.batch packets batchIndex).dropLast ++ front, byte, nonzero, ?_⟩
  rw [← List.dropLast_concat_getLast nonempty, joinPackets, List.flatMap_append,
    List.flatMap_singleton, last, shape, hidden, List.dropLast_concat, List.append_assoc]
  rfl

end Marks

section Verdict

variable {config : Config} {engine : Engine} {ticks : Nat → Nat} {packets : List Payload}
  {scheduleStartNs batchIndex : Nat} {test after : Test} {launches : List Launch}

/-- The engine returns a batch. Bytes may be missing only where the batch ends in zero
bytes. -/
def Returned (config : Config) (engine : Engine) (packets : List Payload) (batchIndex : Nat) :
    Prop :=
  let expected := joinPackets (config.batch packets batchIndex)
  ∃ bytes missing, engine (batchIndex + 1) expected = .stored bytes ∧
    missing ≤ config.batchHidden batchIndex ∧
    bytes.take expected.length = expected.take (expected.length - missing)

/-- The receive buffer holds the largest batch. -/
def Test.Holds (config : Config) (test : Test) : Prop :=
  config.batchPackets * packetSize ≤ test.rxBuffer.length

/-- Receiving into a buffer keeps its length. -/
theorem length_receiveInto {rxBuffer bytes : List Byte} {count : Nat}
    (room : count ≤ rxBuffer.length) :
    (receiveInto rxBuffer count bytes).length = rxBuffer.length := by
  have cleared : (store rxBuffer 0 (List.replicate count 0#8)).length = rxBuffer.length :=
    length_store (by simpa using room)
  rw [receiveInto, length_store, cleared]
  rw [cleared, List.length_take]
  omega

/-- The buffer of a full batch has room for every batch. -/
theorem batch_room (config : Config) (batchIndex : Nat) :
    config.packetCount batchIndex * packetSize ≤ config.batchPackets * packetSize :=
  Nat.mul_le_mul_right _ (Nat.min_le_left _ _)

/-- Completing a batch keeps what holds of the buffer between two batches. -/
theorem Test.Holds.complete {packetStream bytes : List Byte} (holds : test.Holds config) :
    (complete config packetStream test batchIndex bytes).Holds config := by
  rw [Holds]
  simp only [BatchTest.complete]
  rwa [length_receiveInto ((batch_room config batchIndex).trans holds)]

variable (marked : config.Marked) (built : config.packets = some packets)
include marked built

/-- A batch is returned exactly when the cleared buffer holds it behind the transfer. -/
theorem returned_iff (inside : batchIndex < config.totalBatches) {bytes : List Byte}
    (answer : engine (batchIndex + 1) (joinPackets (config.batch packets batchIndex)) =
      .stored bytes) {size : Nat}
    (whole : (joinPackets (config.batch packets batchIndex)).length = size) :
    Returned config engine packets batchIndex ↔
      bytes.take size ++ List.replicate (size - (bytes.take size).length) 0#8 =
        joinPackets (config.batch packets batchIndex) := by
  obtain ⟨front, byte, nonzero, shape⟩ := marked_batch marked built inside
  subst whole
  rw [cleared_eq_iff nonzero shape (List.length_take_le _ _)]
  constructor
  · rintro ⟨stored, missing, same, few, exact_⟩
    rw [answer, Answer.stored.injEq] at same
    exact ⟨missing, few, same ▸ exact_⟩
  · rintro ⟨missing, few, exact_⟩
    exact ⟨bytes, missing, answer, few, exact_⟩

/-- A comparison adds nothing exactly when the batch is returned. -/
theorem complete_clean_iff (inside : batchIndex < config.totalBatches) (holds : test.Holds config)
    {bytes : List Byte}
    (answer : engine (batchIndex + 1) (joinPackets (config.batch packets batchIndex)) =
      .stored bytes) :
    (complete config (joinPackets packets) test batchIndex bytes).mismatchedPackets = 0 ↔
      test.mismatchedPackets = 0 ∧ Returned config engine packets batchIndex := by
  have size : (joinPackets (config.batch packets batchIndex)).length =
      config.packetCount batchIndex * packetSize := by
    rw [LiveReceiver.length_joinPackets, length_batch (packets_spec built).1]
  have short : (bytes.take (config.packetCount batchIndex * packetSize)).length ≤
      config.packetCount batchIndex * packetSize := List.length_take_le _ _
  have received : load (receiveInto test.rxBuffer (config.packetCount batchIndex * packetSize)
      bytes) 0 (config.packetCount batchIndex * packetSize) = _ :=
    load_cleared ((batch_room config batchIndex).trans holds) short
  simp only [complete, expectedBatch_joinPackets, received]
  rw [Nat.add_eq_zero_iff, compareBatch_clean_iff, returned_iff marked built inside answer size]
  rw [size, List.length_append, List.length_replicate]
  omega

/-- The counters stay zero exactly when every batch of the run is returned. -/
theorem Runs.clean_iff {indices : List Nat}
    (run : Runs config engine ticks (joinPackets packets) scheduleStartNs test indices launches
      after) (holds : test.Holds config) (inside : ∀ index ∈ indices, index < config.totalBatches) :
    after.mismatchedPackets = 0 ∧ after.dmaErrors = 0 ↔
      (test.mismatchedPackets = 0 ∧ test.dmaErrors = 0) ∧
        ∀ index ∈ indices, Returned config engine packets index := by
  induction run with
  | nil => simp
  | @failed test batchIndex ready rest waits answer =>
      rw [expectedBatch_joinPackets] at answer
      constructor
      · rintro ⟨_, none⟩
        exact absurd none (Nat.succ_ne_zero _)
      · rintro ⟨_, all⟩
        obtain ⟨bytes, missing, stored, _⟩ := all batchIndex List.mem_cons_self
        rw [answer] at stored
        cases stored
  | @stored test after batchIndex ready rest bytes launches waits answer later ih =>
      rw [expectedBatch_joinPackets] at answer
      have started : (launch config ticks scheduleStartNs test batchIndex ready).Holds config :=
        holds
      have first := complete_clean_iff marked built
        (inside batchIndex List.mem_cons_self) started answer
      have others := ih started.complete fun index member =>
        inside index (List.mem_cons_of_mem _ member)
      rw [others, first, List.forall_mem_cons]
      show ((test.mismatchedPackets = 0 ∧ _) ∧ test.dmaErrors = 0) ∧ _ ↔ _
      tauto

omit marked built

/-- A run without an error has completed every packet. -/
theorem Account.completed (positive : 0 < config.batchPackets) {received : List Byte}
    (account : Account config ticks scheduleStartNs (.initial received) config.totalBatches launches
      after) (clean : after.dmaErrors = 0) :
    after.completedPackets = config.totalPackets ∧
      after.completedBatches = config.totalBatches := by
  have answered := account.answered
  have ends := account.ends
  simp only [Test.initial] at answered ends
  have batches : after.completedBatches = config.totalBatches := by omega
  have covers : after.Covers config := account.covers (by simp [Test.Covers, Test.initial,
    Config.packetsBefore])
  have past : ¬config.totalBatches * config.batchPackets < config.totalPackets := fun inside =>
    Nat.lt_irrefl _ ((Config.lt_totalBatches positive).mpr inside)
  refine ⟨?_, batches⟩
  rw [covers, batches, Config.packetsBefore]
  omega

/-- The buffer that the warm-up leaves behind still holds the largest batch. -/
theorem holds_of_warmUp (positive : 0 < config.batchPackets)
    {packetStream rxBuffer received : List Byte}
    (room : config.batchPackets * packetSize ≤ rxBuffer.length)
    (warm : warmUp engine packetStream rxBuffer = some received) :
    (Test.initial received).Holds config := by
  obtain ⟨bytes, rfl⟩ := warmUp_eq warm
  have one : packetSize ≤ rxBuffer.length := (Nat.le_mul_of_pos_left _ positive).trans room
  rw [Test.Holds, Test.initial, length_receiveInto one]
  exact room

/-- A run over all batches passes exactly when they are returned. -/
theorem Runs.integrity_iff (marked : config.Marked) (built : config.packets = some packets)
    {received : List Byte} {results : Results} (holds : (Test.initial received).Holds config)
    (run : Runs config engine ticks (joinPackets packets) scheduleStartNs (.initial received)
      (List.range' 0 config.totalBatches) launches results.test) :
    results.integrityPass config = true ↔
      ∀ batchIndex < config.totalBatches, Returned config engine packets batchIndex := by
  have clean := run.clean_iff marked built holds (by simp)
  have every : (∀ batchIndex < config.totalBatches, Returned config engine packets batchIndex) ↔
      results.test.mismatchedPackets = 0 ∧ results.test.dmaErrors = 0 := by
    rw [clean]
    simp [Test.initial]
  rw [every]
  simp only [Results.integrityPass, Bool.and_eq_true, beq_iff_eq]
  constructor
  · rintro ⟨⟨_, same⟩, fine⟩
    exact ⟨same, fine⟩
  · rintro ⟨same, fine⟩
    obtain ⟨whole, batches⟩ := run.account.completed marked.positive fine
    exact ⟨⟨⟨whole, batches⟩, same⟩, fine⟩

/-- `integrity_pass` holds exactly when the engine has returned every batch. -/
theorem integrity_exact {fuel : Nat} {rxBuffer : List Byte} {results : Results}
    (marked : config.Marked) (room : config.batchPackets * packetSize ≤ rxBuffer.length)
    (ended : main config engine ticks fuel rxBuffer = some (some results)) :
    ∃ packets, config.packets = some packets ∧
      (results.integrityPass config = true ↔
        ∀ batchIndex < config.totalBatches, Returned config engine packets batchIndex) := by
  obtain ⟨packets, received, launches, built, warm, run, _⟩ := main_run ended
  have holds := holds_of_warmUp marked.positive room warm
  exact ⟨packets, built, run.integrity_iff marked built holds⟩

/-- Three packets in two batches, on a clock that is always late. -/
def shortTest : Option (Option Results) :=
  main ⟨3, 1, 2⟩ (fun _ bytes => .stored bytes) (fun reading => reading * 10 ^ 10) 1
    (List.replicate 64 0xFF#8)

/-- The short test comes to its end. -/
theorem shortTest_ends : ∃ results, shortTest = some (some results) := by
  have ended : shortTest.join.isSome = true := by decide +kernel
  obtain ⟨results, found⟩ := Option.isSome_iff_exists.mp ended
  exact ⟨results, Option.join_eq_some_iff.mp found⟩

/-- The exact condition of integrity on the short test, whose two batches return. -/
theorem integrity_exact_short : ∃ results packets, shortTest = some (some results) ∧
    Config.packets ⟨3, 1, 2⟩ = some packets ∧ (results.integrityPass ⟨3, 1, 2⟩ = true ↔
      ∀ batchIndex < Config.totalBatches ⟨3, 1, 2⟩,
        Returned ⟨3, 1, 2⟩ (fun _ bytes => .stored bytes) packets batchIndex) := by
  obtain ⟨results, ended⟩ := shortTest_ends
  obtain ⟨packets, built, exact_⟩ := integrity_exact ⟨by decide, by decide, by decide⟩
    (by decide) ended
  exact ⟨results, packets, ended, built, exact_⟩

/-- The launches and the end of a run are within one percent of the target rate. -/
def KeepsRate (config : Config) (ticks : Nat → Nat) (launches : List Launch)
    (finalCompletionNs : Nat) : Prop :=
  ∃ first ∈ launches.head?, ticks first.reading < finalCompletionNs ∧
    99 * config.targetPps * (finalCompletionNs - ticks first.reading) ≤
      100 * config.totalPackets * nanosecondsPerSecond

/-- `rate_pass`, for a run that has completed every packet. -/
theorem completionRate_iff {results : Results} (rated : 0 < config.targetPps)
    (whole : results.test.completedPackets = config.totalPackets)
    (first : results.test.firstLaunchNs =
      launches.head?.map fun launched => ticks launched.reading) :
    results.completionRatePps ≥ config.targetPps * (99 / 100 : ℚ) ↔
      KeepsRate config ticks launches results.finalCompletionNs := by
  have rate : (0 : ℚ) < config.targetPps := by exact_mod_cast rated
  rw [Results.completionRatePps, first, KeepsRate, whole]
  cases launches.head? with
  | none => simp [rate]
  | some launched =>
      simp only [Option.map_some, Option.mem_def, Option.some.injEq, exists_eq_left', ge_iff_le]
      split_ifs with later
      · have span : (0 : ℚ) < (results.finalCompletionNs - ticks launched.reading : Nat) := by
          exact_mod_cast Nat.sub_pos_of_lt later
        rw [div_div_eq_mul_div, le_div_iff₀ span, and_iff_right later]
        generalize results.finalCompletionNs - ticks launched.reading = elapsed
        constructor
        · intro fast
          have scaled : (99 * config.targetPps * elapsed : ℚ) ≤
              100 * config.totalPackets * nanosecondsPerSecond := by linarith
          exact_mod_cast scaled
        · intro fast
          have scaled : (99 * config.targetPps * elapsed : ℚ) ≤
              100 * config.totalPackets * nanosecondsPerSecond := by exact_mod_cast fast
          linarith
      · simp [rate, later]

/-- The printed results are those of the launches: the counters, the lateness and the
verdict on the rate. -/
theorem report_exact {fuel : Nat} {rxBuffer : List Byte} {results : Results}
    (rated : 0 < config.targetPps)
    (ended : main config engine ticks fuel rxBuffer = some (some results)) :
    ∃ received launches, Account config ticks (ticks 0 + 5000000) (.initial received)
        config.totalBatches launches results.test ∧
      results.test.Covers config ∧ results.finalCompletionNs = ticks results.test.readings ∧
      (results.overallPass config = true ↔ results.integrityPass config = true ∧
        KeepsRate config ticks launches results.finalCompletionNs) := by
  obtain ⟨packets, received, launches, _, _, run, final⟩ := main_run ended
  have account := run.account
  refine ⟨received, launches, account, account.covers ?_, final, ?_⟩
  · simp [Test.Covers, Test.initial, Config.packetsBefore]
  · rw [Results.overallPass, Bool.and_eq_true, decide_eq_true_eq]
    refine and_congr_right fun intact => completionRate_iff rated ?_ account.first
    simp only [Results.integrityPass, Bool.and_eq_true, beq_iff_eq] at intact
    exact intact.1.1.1

/-- The exact condition of the report on the short test. -/
theorem report_exact_short : ∃ results received launches, shortTest = some (some results) ∧
    Account ⟨3, 1, 2⟩ (fun reading => reading * 10 ^ 10) 5000000 (.initial received) 2 launches
      results.test ∧
    (results.overallPass ⟨3, 1, 2⟩ = true ↔ results.integrityPass ⟨3, 1, 2⟩ = true ∧
      KeepsRate ⟨3, 1, 2⟩ (fun reading => reading * 10 ^ 10) launches
        results.finalCompletionNs) := by
  obtain ⟨results, ended⟩ := shortTest_ends
  have rated : 0 < Config.targetPps ⟨3, 1, 2⟩ := by decide
  obtain ⟨received, launches, account, _, _, pass⟩ := report_exact rated ended
  exact ⟨results, received, launches, ended, account, pass⟩

end Verdict

end HftPipeline.Host.BatchTest
