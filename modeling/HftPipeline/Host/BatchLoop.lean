import HftPipeline.Host.BatchVerdict
import HftPipeline.Host.ParserLoop

/-!
# The batch test through the design

Behind the parser every transfer of the batch test comes back as it was sent, so the test
ends and its data check passes, whatever the schedule of the streams and the clock.
-/

namespace HftPipeline.Host.BatchTest

open HftPipeline.Rtl.PacketParser HftPipeline.Std HftPipeline.Std.Slots HftPipeline.Wire
open LiveReceiver (joinPackets Dma LoopsThrough loopback presented)

/-- The constants of a test whose packets can be packed. -/
structure Config.Valid (config : Config) : Prop extends config.Marked where
  totalFits : config.totalPackets < 2 ^ 32
  rateFits : config.targetPps < 2 ^ 32

example : config.Valid := ⟨⟨by decide, by decide, by decide⟩, by decide, by decide⟩

/-- The engine behind a DMA: a transfer that it does not complete raises. -/
def engineOf (dma : Dma) : Engine := fun transfer bytes =>
  match dma transfer bytes with
  | some stored => .stored stored
  | none => .failed

/-- The transfers of a test: the packet of the warm-up, and the batches. -/
def Config.transfers (config : Config) (packets : List Payload) : List (List Payload) :=
  packets.take 1 :: (List.range config.totalBatches).map (config.batch packets)

theorem engineOf_answers (dma : Dma) (transfer : Nat) (bytes : List Byte) :
    engineOf dma transfer bytes ≠ .refused := by
  rw [engineOf]
  split <;> simp

section Packets

variable {config : Config} {packets : List Payload}

/-- Packets that fit are packed. -/
theorem buildPacket_isSome (valid : config.Valid) {index : Nat}
    (inside : index < config.totalPackets) : ∃ packet, config.buildPacket index = some packet := by
  have total := valid.totalFits
  have rate := valid.rateFits
  have parity : (index + 1) &&& 1 ≤ 1 := Nat.and_le_right
  have packed (fields : Fields) (fits : fields.Fits) : ∃ packet, pack fields = some packet :=
    ⟨_, dif_pos fits⟩
  unfold Config.buildPacket
  simp only
  split_ifs with start last
  all_goals
    apply packed
    constructor
    case magic => rfl
    all_goals
      simp only
      omega

theorem exists_packets (valid : config.Valid) : ∃ packets, config.packets = some packets :=
  Fallible.exists_mapM fun _ member => buildPacket_isSome valid (List.mem_range.mp member)

/-- Every transfer has a packet. -/
theorem transfers_nonempty (valid : config.Valid) (built : config.packets = some packets) :
    ∀ transfer ∈ config.transfers packets, transfer ≠ [] := by
  obtain ⟨whole, _⟩ := packets_spec built
  have several := valid.several
  have positive := valid.positive
  intro transfer member empty
  rcases List.mem_cons.mp member with rfl | later
  · have size := congrArg List.length empty
    rw [List.length_take, List.length_nil] at size
    omega
  · obtain ⟨batchIndex, inside, rfl⟩ := List.mem_map.mp later
    have begins := (Config.lt_totalBatches positive).mp (List.mem_range.mp inside)
    have size : _ = config.packetCount batchIndex := length_batch whole
    rw [empty, List.length_nil, Config.packetCount] at size
    omega

end Packets

section Loop

variable {config : Config} {packets : List Payload} {dma : Dma} {ticks : Nat → Nat}

/-- An engine that refuses no transfer raises no exception inside the loop. -/
theorem runBatches_answers {engine : Engine} (answers : ∀ transfer bytes,
      engine transfer bytes ≠ .refused) {fuel scheduleStartNs : Nat} {packetStream : List Byte}
    {indices : List Nat} {test : Test} {result : Option Test}
    (ended : runBatches config engine ticks fuel packetStream scheduleStartNs test indices =
      some result) : ∃ after, result = some after := by
  induction indices generalizing test with
  | nil =>
      cases ended
      exact ⟨test, rfl⟩
  | cons batchIndex rest ih =>
      simp only [runBatches, Option.bind_eq_bind, Option.bind_eq_some_iff] at ended
      obtain ⟨turn, turned, later⟩ := ended
      rw [runBatch] at turned
      cases answer : engine (batchIndex + 1) (expectedBatch config packetStream batchIndex) with
      | refused => exact absurd answer (answers _ _)
      | failed =>
          rw [answer] at turned
          simp only [Option.bind_eq_bind, Option.bind_eq_some_iff] at turned
          obtain ⟨ready, _, here⟩ := turned
          cases here
          cases later
          exact ⟨_, rfl⟩
      | stored bytes =>
          rw [answer] at turned
          simp only [Option.bind_eq_bind, Option.bind_eq_some_iff] at turned
          obtain ⟨ready, _, here⟩ := turned
          cases here
          exact ih later

/-- A warm-up that comes back passes. -/
theorem warmUp_returned {engine : Engine} {packetStream rxBuffer : List Byte}
    (size : (packetStream.take packetSize).length = packetSize)
    (room : packetSize ≤ rxBuffer.length)
    (answer : engine 0 (packetStream.take packetSize) = .stored (packetStream.take packetSize)) :
    ∃ received, warmUp engine packetStream rxBuffer = some received := by
  have short : ((packetStream.take packetSize).take packetSize).length ≤ packetSize :=
    List.length_take_le _ _
  have same : load (receiveInto rxBuffer packetSize (packetStream.take packetSize)) 0 packetSize =
      packetStream.take packetSize := by
    rw [receiveInto, load_cleared room short, List.take_take, Nat.min_self, size, Nat.sub_self,
      List.replicate_zero, List.append_nil]
  simp [warmUp, answer, same]

variable {engine : Engine}

/-- A batch that comes back is returned. -/
theorem returned_of_loopback {batchIndex : Nat}
    (answer : engine (batchIndex + 1) (joinPackets (config.batch packets batchIndex)) =
      .stored (joinPackets (config.batch packets batchIndex))) :
    Returned config engine packets batchIndex :=
  ⟨_, 0, answer, Nat.zero_le _, by rw [Nat.sub_zero]⟩

/-- Behind a loop every transfer of the test is answered with its own bytes. -/
theorem engineOf_returns {transfers : List (List Payload)} {transfer : Nat} {batch : List Payload}
    (agree : LiveReceiver.AgreeOn dma loopback transfers)
    (at_ : transfers[transfer]? = some batch) :
    engineOf dma transfer (joinPackets batch) = .stored (joinPackets batch) := by
  rw [engineOf, agree transfer batch at_]
  rfl

/-- On a clock that passes every time, a test over an engine that returns what it is sent
ends and passes its data check. -/
theorem passes_of_agree (valid : config.Valid) (built : config.packets = some packets)
    (passes : ∀ time reading, ∃ later ≥ reading, time ≤ ticks later)
    (agree : LiveReceiver.AgreeOn dma loopback (config.transfers packets)) {rxBuffer : List Byte}
    (room : config.batchPackets * packetSize ≤ rxBuffer.length) :
    ∃ enough, ∀ fuel ≥ enough, ∃ results,
      main config (engineOf dma) ticks fuel rxBuffer = some (some results) ∧
        results.integrityPass config = true := by
  have several := valid.several
  have whole := (packets_spec built).1
  have front : (joinPackets packets).take packetSize = joinPackets (packets.take 1) := by
    rw [← take_joinPackets, Nat.one_mul]
  have size : ((joinPackets packets).take packetSize).length = packetSize := by
    rw [front, LiveReceiver.length_joinPackets, List.length_take, Nat.min_eq_left (by omega),
      Nat.one_mul]
  have one : packetSize ≤ rxBuffer.length :=
    (Nat.le_mul_of_pos_left _ valid.positive).trans room
  have first : engineOf dma 0 ((joinPackets packets).take packetSize) = .stored _ :=
    front ▸ engineOf_returns agree rfl
  obtain ⟨received, warm⟩ := warmUp_returned size one first
  obtain ⟨enough, ends⟩ : ∃ enough, ∀ fuel ≥ enough, (runBatches config (engineOf dma) ticks fuel
      (joinPackets packets) (ticks 0 + 5000000) (.initial received)
      (List.range config.totalBatches)).isSome := runBatches_ends passes _ _ _
  refine ⟨enough, fun fuel more => ?_⟩
  obtain ⟨result, looped⟩ := Option.isSome_iff_exists.mp (ends fuel more)
  obtain ⟨after, rfl⟩ := runBatches_answers (engineOf_answers dma) looped
  have ended : main config (engineOf dma) ticks fuel rxBuffer =
      some (some ⟨after, ticks after.readings⟩) := by
    simp [main, built, warm, looped]
  refine ⟨_, ended, ?_⟩
  obtain ⟨launches, run⟩ := runs_of_runBatches looped
  rw [List.range_eq_range'] at run
  have holds := holds_of_warmUp valid.positive room warm
  refine (run.integrity_iff valid.toMarked built holds).mpr fun batchIndex inside =>
    returned_of_loopback (engineOf_returns agree ?_)
  simp [Config.transfers, inside]

end Loop

/-- Through any schedule of the parser, and on any clock that passes every time, the batch
test ends, and its data check passes. -/
theorem batch_test_passes_loop (config : Config) (valid : config.Valid) (tlastPerPacket : Bool)
    (input : Nat → Input) (ticks : Nat → Nat)
    (passes : ∀ time reading, ∃ later ≥ reading, time ≤ ticks later) (rxBuffer : List Byte)
    (room : config.batchPackets * packetSize ≤ rxBuffer.length) :
    ∃ packets, config.packets = some packets ∧ ∀ dma,
      LoopsThrough (sAxis tlastPerPacket input) (mAxis tlastPerPacket input) dma
          (config.transfers packets) →
        ∃ enough, ∀ fuel ≥ enough, ∃ results,
          main config (engineOf dma) ticks fuel rxBuffer = some (some results) ∧
            results.integrityPass config = true := by
  obtain ⟨packets, built⟩ := exists_packets valid
  refine ⟨packets, built, fun dma loops => ?_⟩
  have agree := loops.returns (elasticRegister tlastPerPacket input).lossless
    (transfers_nonempty valid built)
  exact passes_of_agree valid built passes agree room

/-- The constants of the module, and a schedule without gaps. -/
theorem batch_test_passes_loop_offered : ∃ packets enough results,
    config.packets = some packets ∧
      main config (engineOf loopback) id enough (List.replicate 8192 0xFF#8) =
        some (some results) ∧ results.integrityPass config = true := by
  have valid : config.Valid := ⟨⟨by decide, by decide, by decide⟩, by decide, by decide⟩
  obtain ⟨packets, built⟩ := exists_packets valid
  have loops := LiveReceiver.loopsThrough_offered false (transfers_nonempty valid built)
  obtain ⟨others, same, passed⟩ := batch_test_passes_loop config valid false
    (offered (presented (config.transfers packets))) id
    (fun time reading => ⟨max time reading, Nat.le_max_right _ _, Nat.le_max_left _ _⟩)
    (List.replicate 8192 0xFF#8) (by rw [List.length_replicate]; decide)
  rw [built, Option.some.injEq] at same
  subst same
  obtain ⟨enough, ends⟩ := passed loopback loops
  obtain ⟨results, ended, intact⟩ := ends enough (Nat.le_refl _)
  exact ⟨packets, enough, results, built, ended, intact⟩

end HftPipeline.Host.BatchTest
