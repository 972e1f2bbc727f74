import HftPipeline.Host.BatchTest

/-!
# Runs of the batch test

A run is the list of its launches: each batch is launched with the reading of the clock
behind the wait for its deadline, and a run goes on with the next batch exactly when the
transfer has stored something.
-/

namespace HftPipeline.Host.BatchTest

open HftPipeline.Std HftPipeline.Std.Pacing HftPipeline.Std.Slots HftPipeline.Wire

/-- A batch and the reading that is its `launch_ns`. -/
structure Launch where
  batchIndex : Nat
  reading : Nat

section Runs

variable (config : Config) (engine : Engine) (ticks : Nat → Nat) (packetStream : List Byte)
  (scheduleStartNs : Nat)

/-- `lateness_ns` of a launch. -/
def Launch.latenessNs (launched : Launch) : Nat :=
  ticks launched.reading - deadlineNs config scheduleStartNs launched.batchIndex

/-- A launch that counts as a deadline miss. -/
def Launch.Misses (launched : Launch) : Prop :=
  config.packetCount launched.batchIndex * config.packetIntervalNs ≤
    launched.latenessNs config ticks scheduleStartNs

instance (launched : Launch) : Decidable (launched.Misses config ticks scheduleStartNs) :=
  inferInstanceAs (Decidable (_ ≤ _))

/-- The loop over some batches, with its launches, up to its end or to a transfer that fails. -/
inductive Runs : Test → List Nat → List Launch → Test → Prop where
  | nil {test : Test} : Runs test [] [] test
  | failed {test : Test} {batchIndex ready : Nat} {rest : List Nat}
      (waits : Waits ticks (deadlineNs config scheduleStartNs batchIndex) test.readings ready)
      (answer : engine (batchIndex + 1) (expectedBatch config packetStream batchIndex) = .failed) :
      Runs test (batchIndex :: rest) [⟨batchIndex, ready + 1⟩]
        { launch config ticks scheduleStartNs test batchIndex ready with
          dmaErrors := test.dmaErrors + 1 }
  | stored {test after : Test} {batchIndex ready : Nat} {rest : List Nat} {bytes : List Byte}
      {launches : List Launch}
      (waits : Waits ticks (deadlineNs config scheduleStartNs batchIndex) test.readings ready)
      (answer : engine (batchIndex + 1) (expectedBatch config packetStream batchIndex) =
        .stored bytes)
      (later : Runs (complete config packetStream
        (launch config ticks scheduleStartNs test batchIndex ready) batchIndex bytes) rest
        launches after) :
      Runs test (batchIndex :: rest) (⟨batchIndex, ready + 1⟩ :: launches) after

variable {config engine ticks packetStream scheduleStartNs}

/-- A loop that ends without an exception is a run. -/
theorem runs_of_runBatches {fuel : Nat} {test after : Test} {indices : List Nat}
    (ended : runBatches config engine ticks fuel packetStream scheduleStartNs test indices =
      some (some after)) :
    ∃ launches, Runs config engine ticks packetStream scheduleStartNs test indices
      launches after := by
  induction indices generalizing test with
  | nil =>
      cases ended
      exact ⟨[], .nil⟩
  | cons batchIndex rest ih =>
      simp only [runBatches, Option.bind_eq_bind, Option.bind_eq_some_iff] at ended
      obtain ⟨turn, turned, rest'⟩ := ended
      rw [runBatch] at turned
      cases answer : engine (batchIndex + 1) (expectedBatch config packetStream batchIndex) with
      | refused =>
          rw [answer] at turned
          cases turned
          cases rest'
      | failed =>
          rw [answer] at turned
          simp only [Option.bind_eq_bind, Option.bind_eq_some_iff] at turned
          obtain ⟨ready, waited, here⟩ := turned
          cases here
          cases rest'
          exact ⟨_, .failed (waits_of_waitUntil waited) answer⟩
      | stored bytes =>
          rw [answer] at turned
          simp only [Option.bind_eq_bind, Option.bind_eq_some_iff] at turned
          obtain ⟨ready, waited, here⟩ := turned
          cases here
          obtain ⟨launches, later⟩ := ih rest'
          exact ⟨_, .stored (waits_of_waitUntil waited) answer later⟩

end Runs

section Account

/-- The packets that the batches before one hold. -/
def Config.packetsBefore (config : Config) (batchIndex : Nat) : Nat :=
  min (batchIndex * config.batchPackets) config.totalPackets

theorem Config.packetsBefore_succ (config : Config) (batchIndex : Nat) :
    config.packetsBefore batchIndex + config.packetCount batchIndex =
      config.packetsBefore (batchIndex + 1) := by
  rw [packetsBefore, packetsBefore, packetCount, Nat.succ_mul]
  omega

/-- The packets completed are those of the batches completed. -/
def Test.Covers (config : Config) (test : Test) : Prop :=
  test.completedPackets = config.packetsBefore test.completedBatches

/-- What a run over the next so many batches adds to the counters of the test. -/
structure Account (config : Config) (ticks : Nat → Nat) (scheduleStartNs : Nat) (test : Test)
    (count : Nat) (launches : List Launch) (after : Test) : Prop where
  numbers : launches.map Launch.batchIndex = List.range' test.completedBatches launches.length
  answered : after.completedBatches + after.dmaErrors =
    test.completedBatches + test.dmaErrors + launches.length
  ends : after.dmaErrors = test.dmaErrors ∧ launches.length = count ∨
    after.dmaErrors = test.dmaErrors + 1 ∧ launches.length ≤ count
  covers : test.Covers config → after.Covers config
  waited : ∀ launched ∈ launches, ∃ ready, launched.reading = ready + 1 ∧ test.readings ≤ ready ∧
    deadlineNs config scheduleStartNs launched.batchIndex ≤ ticks ready
  ordered : (launches.map Launch.reading).Pairwise (· < ·)
  passed : test.readings ≤ after.readings ∧
    ∀ launched ∈ launches, launched.reading < after.readings
  misses : after.deadlineMisses = test.deadlineMisses +
    launches.countP (·.Misses config ticks scheduleStartNs)
  lateness : after.maximumLatenessNs =
    (launches.map (·.latenessNs config ticks scheduleStartNs)).foldl max test.maximumLatenessNs
  first : after.firstLaunchNs =
    test.firstLaunchNs.or (launches.head?.map fun launched => ticks launched.reading)

variable {config : Config} {engine : Engine} {ticks : Nat → Nat} {packetStream : List Byte}
  {scheduleStartNs count batchIndex ready : Nat} {test after : Test} {launches : List Launch}

/-- A launch counts itself when it misses its deadline. -/
theorem deadlineMisses_launch : (launch config ticks scheduleStartNs test batchIndex
    ready).deadlineMisses = test.deadlineMisses +
      if (Launch.mk batchIndex (ready + 1)).Misses config ticks scheduleStartNs then 1 else 0 := by
  by_cases missed : (Launch.mk batchIndex (ready + 1)).Misses config ticks scheduleStartNs
  · rw [if_pos missed]
    exact if_pos missed
  · rw [if_neg missed]
    exact if_neg missed

theorem maximumLatenessNs_launch : (launch config ticks scheduleStartNs test batchIndex
    ready).maximumLatenessNs = max test.maximumLatenessNs
      ((Launch.mk batchIndex (ready + 1)).latenessNs config ticks scheduleStartNs) := rfl

/-- The readings go on behind the launch. -/
theorem readings_complete (bytes : List Byte) : ready + 2 ≤ (complete config packetStream
    (launch config ticks scheduleStartNs test batchIndex ready) batchIndex bytes).readings := by
  unfold complete
  dsimp only
  split
  · exact Nat.le_succ _
  · exact Nat.le_refl _

/-- A completed batch is covered when it is the next one. -/
theorem covers_complete {launched : Test} (bytes : List Byte) (covers : launched.Covers config) :
    (complete config packetStream launched launched.completedBatches bytes).Covers config := by
  have whole : launched.completedPackets = config.packetsBefore launched.completedBatches := covers
  simp only [Test.Covers, complete, whole]
  exact config.packetsBefore_succ _

theorem Runs.account (run : Runs config engine ticks packetStream scheduleStartNs test
    (List.range' test.completedBatches count) launches after) :
    Account config ticks scheduleStartNs test count launches after := by
  generalize indices_eq : List.range' test.completedBatches count = indices at run
  induction run generalizing count with
  | nil =>
      have none : count = 0 := by simpa using congrArg List.length indices_eq
      exact ⟨rfl, rfl, Or.inl ⟨rfl, none.symm⟩, id, by simp, .nil, by simp, rfl, rfl, by simp⟩
  | @failed test batchIndex ready rest waits answer =>
      cases count with
      | zero => cases indices_eq
      | succ count =>
          obtain ⟨rfl, rfl⟩ := List.cons.inj indices_eq
          have later := waits.later
          exact {
            numbers := rfl
            answered := rfl
            ends := Or.inr ⟨rfl, by simp⟩
            covers := id
            waited := by simpa using ⟨later, waits.passed⟩
            ordered := .cons (by simp) .nil
            passed := by simp [launch]; omega
            misses := by simp [deadlineMisses_launch, List.countP_cons]
            lateness := maximumLatenessNs_launch
            first := rfl }
  | @stored test after batchIndex ready rest bytes launches waits answer run ih =>
      cases count with
      | zero => cases indices_eq
      | succ count =>
          obtain ⟨rfl, rfl⟩ := List.cons.inj indices_eq
          have account := @ih count rfl
          have later := waits.later
          have beyond : ready + 2 ≤ (complete config packetStream
              (launch config ticks scheduleStartNs test test.completedBatches ready)
              test.completedBatches bytes).readings := readings_complete bytes
          have answered := account.answered
          have passed := account.passed
          exact {
            numbers := by
              rw [List.map_cons, account.numbers, List.length_cons, List.range'_succ]
              rfl
            answered := by
              simp only [complete, launch, List.length_cons] at answered ⊢
              omega
            ends := by
              rcases account.ends with ⟨fine, all⟩ | ⟨broken, some_⟩
              · exact Or.inl ⟨fine, congrArg Nat.succ all⟩
              · exact Or.inr ⟨broken, Nat.succ_le_succ some_⟩
            covers := fun covers => account.covers (covers_complete bytes covers)
            waited := by
              rintro launched (_ | ⟨_, member⟩)
              · exact ⟨ready, rfl, later, waits.passed⟩
              · obtain ⟨reading, same, from_, due⟩ := account.waited launched member
                exact ⟨reading, same, by omega, due⟩
            ordered := by
              refine .cons (fun reading member => ?_) account.ordered
              obtain ⟨launched, inside, rfl⟩ := List.mem_map.mp member
              obtain ⟨reading, same, from_, _⟩ := account.waited launched inside
              rw [same]
              show ready + 1 < reading + 1
              omega
            passed := by
              refine ⟨by omega, ?_⟩
              rintro launched (_ | ⟨_, member⟩)
              · show ready + 1 < after.readings
                omega
              · exact passed.2 launched member
            misses := by
              rw [account.misses, List.countP_cons]
              show (launch config ticks scheduleStartNs test _ ready).deadlineMisses + _ = _
              rw [deadlineMisses_launch]
              simp only [decide_eq_true_eq]
              omega
            lateness := account.lateness
            first := by
              rw [account.first]
              show (test.firstLaunchNs.or (some (ticks (ready + 1)))).or _ = _
              rw [Option.or_assoc]
              rfl }

end Account

section Main

variable {config : Config} {engine : Engine} {ticks : Nat → Nat} {packetStream rxBuffer : List Byte}
  {fuel : Nat} {results : Results}

/-- A warm-up that passes has stored a transfer into the buffer. -/
theorem warmUp_eq {received : List Byte}
    (warm : warmUp engine packetStream rxBuffer = some received) :
    ∃ bytes, received = receiveInto rxBuffer packetSize bytes := by
  rw [warmUp] at warm
  split at warm
  · dsimp only at warm
    split_ifs at warm
    cases warm
    exact ⟨_, rfl⟩
  · cases warm

/-- A test that ends without an exception has run over all batches behind its warm-up. -/
theorem main_run (ended : main config engine ticks fuel rxBuffer = some (some results)) :
    ∃ packets received launches, config.packets = some packets ∧
      warmUp engine (LiveReceiver.joinPackets packets) rxBuffer = some received ∧
      Runs config engine ticks (LiveReceiver.joinPackets packets) (ticks 0 + 5000000)
        (.initial received) (List.range' 0 config.totalBatches) launches results.test ∧
      results.finalCompletionNs = ticks results.test.readings := by
  rw [main] at ended
  cases built : config.packets with
  | none =>
      rw [built] at ended
      cases ended
  | some packets =>
      rw [built] at ended
      dsimp only at ended
      cases warm : warmUp engine (LiveReceiver.joinPackets packets) rxBuffer with
      | none =>
          rw [warm] at ended
          cases ended
      | some received =>
          rw [warm, List.range_eq_range'] at ended
          simp only [Option.bind_eq_bind, Option.bind_eq_some_iff, Option.pure_def,
            Option.some.injEq, Option.map_eq_some_iff] at ended
          obtain ⟨_, looped, test, rfl, rfl⟩ := ended
          obtain ⟨launches, run⟩ := runs_of_runBatches looped
          exact ⟨packets, received, launches, rfl, warm, run, rfl⟩

/-- On a clock that passes every time the loop ends when its waits have enough fuel. -/
theorem runBatches_ends (passes : ∀ time reading, ∃ later ≥ reading, time ≤ ticks later)
    (scheduleStartNs : Nat) (indices : List Nat) (test : Test) : ∃ enough, ∀ fuel ≥ enough,
      (runBatches config engine ticks fuel packetStream scheduleStartNs test indices).isSome := by
  induction indices generalizing test with
  | nil => exact ⟨0, fun _ _ => rfl⟩
  | cons batchIndex rest ih =>
      obtain ⟨ready, waits⟩ :=
        exists_waits passes (deadlineNs config scheduleStartNs batchIndex) test.readings
      have waited (fuel : Nat) (more : ready + 1 ≤ fuel) : waitUntil ticks
          (deadlineNs config scheduleStartNs batchIndex) fuel test.readings = some ready :=
        waitUntil_of_waits waits (by omega)
      cases answer : engine (batchIndex + 1) (expectedBatch config packetStream batchIndex) with
      | refused => exact ⟨0, fun fuel _ => by simp [runBatches, runBatch, answer]⟩
      | failed =>
          refine ⟨ready + 1, fun fuel more => ?_⟩
          simp [runBatches, runBatch, answer, waited fuel more]
      | stored bytes =>
          obtain ⟨enough, later⟩ := ih (complete config packetStream
            (launch config ticks scheduleStartNs test batchIndex ready) batchIndex bytes)
          refine ⟨max enough (ready + 1), fun fuel more => ?_⟩
          have found := later fuel (by omega)
          simpa [runBatches, runBatch, answer, waited fuel (by omega)] using found

end Main

end HftPipeline.Host.BatchTest
