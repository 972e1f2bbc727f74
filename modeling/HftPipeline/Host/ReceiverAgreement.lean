import HftPipeline.Host.StreamIntegrity

/-!
# The C receiver refines the Python one

Both receivers keep the same account. As long as the counters that have no bound stay
below 2^64, the words of the C receiver therefore stand for the integers of the
Python one, at every datagram and in every report.
-/

namespace HftPipeline.Host

open HftPipeline.Std HftPipeline.Wire

/-- The summary with the numbers of a report. -/
def CReceiver.Report.summary (report : CReceiver.Report) : PythonReceiver.Summary where
  targetPps := report.targetPps.toNat
  actualSent := report.actualSent.toNat
  validPackets := report.validPackets.toNat
  missingPackets := report.missingPackets.toNat
  invalidPackets := report.invalidPackets.toNat
  duplicatePackets := report.duplicatePackets.toNat
  outOfOrderPackets := report.outOfOrderPackets.toNat
  highestSequence := report.highestSequence.toNat
  integrityOk := report.integrityOk

/-- The states of the two receivers match, with all reports printed so far. -/
structure Matches (python : PythonReceiver.State) (c : CReceiver.State) : Prop where
  active : c.active = python.streamActive
  targetPps : c.targetPps.toNat = python.targetPps
  planned : c.plannedPackets.toNat = python.plannedPackets
  valid : c.validPackets.toNat = python.validPackets
  invalid : c.invalidPackets.toNat = python.invalidPackets
  duplicate : c.duplicatePackets.toNat = python.duplicatePackets
  outOfOrder : c.outOfOrderPackets.toNat = python.outOfOrderPackets
  highest : c.highestSequence.toNat = python.highestSequence
  sender : python.streamActive = true → python.activeSender = some c.sender
  seen : python.streamActive = true →
    python.seenSequences.isSome = true ∧ c.seenSequences = python.seenSequences
  reports : c.reports.map CReceiver.Report.summary = python.summaries

/-- The counters without a bound of their own fit 64 bits. -/
def PythonReceiver.State.Fits (state : PythonReceiver.State) : Prop :=
  state.invalidPackets < 2 ^ 64 ∧ state.duplicatePackets < 2 ^ 64

/-- The report of a stream has the numbers of its summary. -/
theorem summary_reportOf {stream : Stream} {sent : Nat} (atMost : sent ≤ stream.planned)
    (invalid : stream.invalid < 2 ^ 64) (repeated : stream.repeated < 2 ^ 64) :
    (CReceiver.reportOf stream sent).summary = PythonReceiver.summaryOf stream sent := by
  have planned := stream.bounded
  have distinct := stream.distinct_le_planned
  have late := Arrivals.late_le_distinct stream.quotes
  have highest := stream.highest_le_planned
  have rate := stream.rate
  simp only [largestStream] at planned
  have verdict : (CReceiver.reportOf stream sent).integrityOk =
      (PythonReceiver.summaryOf stream sent).integrityOk := by
    rw [Bool.eq_iff_iff, CReceiver.reportOf_integrityOk atMost repeated invalid,
      PythonReceiver.summaryOf_integrityOk]
  have word {width number : Nat} (fits : number < 2 ^ width) :
      (BitVec.ofNat width number).toNat = number := CReceiver.toNat_eq rfl fits
  rw [CReceiver.Report.summary, verdict]
  simp only [CReceiver.reportOf, PythonReceiver.summaryOf]
  rw [word rate, word (by omega : sent < 2 ^ 32), word invalid, word repeated,
    word (by omega : Arrivals.distinct stream.quotes < 2 ^ 64),
    word (by omega : sent - Arrivals.distinct stream.quotes < 2 ^ 64),
    word (by omega : Arrivals.late stream.quotes < 2 ^ 64),
    word (by omega : Arrivals.highest stream.quotes < 2 ^ 32)]

/-- Two receivers with one account match, when no counter of it exceeds its word. -/
theorem matches_of_refines {account : Account} {python : PythonReceiver.State}
    {c : CReceiver.State} (pythonRefines : PythonReceiver.Refines account python)
    (cRefines : CReceiver.Refines account c) (invalid : account.stream.invalid < 2 ^ 64)
    (repeated : account.stream.repeated < 2 ^ 64)
    (past : ∀ stream sent, (stream, sent) ∈ account.closed →
      sent ≤ stream.planned ∧ stream.invalid < 2 ^ 64 ∧ stream.repeated < 2 ^ 64) :
    Matches python c := by
  have planned := account.stream.bounded
  have distinct := account.stream.distinct_le_planned
  have late := Arrivals.late_le_distinct account.stream.quotes
  have highest := account.stream.highest_le_planned
  have rate := account.stream.rate
  simp only [largestStream] at planned
  exact
    { active := cRefines.active.trans pythonRefines.active.symm
      targetPps := (CReceiver.toNat_eq cRefines.targetPps rate).trans pythonRefines.targetPps.symm
      planned := (CReceiver.toNat_eq cRefines.planned (by omega)).trans pythonRefines.planned.symm
      valid := (CReceiver.toNat_eq cRefines.valid (by omega)).trans pythonRefines.valid.symm
      invalid := (CReceiver.toNat_eq cRefines.invalid invalid).trans pythonRefines.invalid.symm
      duplicate := (CReceiver.toNat_eq cRefines.duplicate repeated).trans
        pythonRefines.duplicate.symm
      outOfOrder := (CReceiver.toNat_eq cRefines.outOfOrder (by omega)).trans
        pythonRefines.outOfOrder.symm
      highest := (CReceiver.toNat_eq cRefines.highest (by omega)).trans pythonRefines.highest.symm
      sender := by
        intro active
        obtain ⟨sender, owner⟩ :=
          Option.isSome_iff_exists.mp (pythonRefines.active.symm.trans active)
        rw [pythonRefines.sender, owner, cRefines.sender sender owner]
      seen := by
        intro active
        have running := pythonRefines.active.symm.trans active
        rw [pythonRefines.seen running, cRefines.seen running]
        exact ⟨rfl, rfl⟩
      reports := by
        rw [cRefines.reports, pythonRefines.summaries, List.map_map]
        apply List.map_congr_left
        rintro ⟨stream, sent⟩ member
        obtain ⟨atMost, invalid, repeated⟩ := past stream sent member
        exact summary_reportOf atMost invalid repeated }

/-- At every datagram, however `recvmmsg` has grouped the datagrams, the C receiver is
in a state that matches that of the Python receiver, when allocations succeed and the
counters of the latter have stayed below 2^64. -/
theorem c_receiver_refines_python (calls : List (List Arrival)) (received : List Arrival)
    (processed : Nat)
    (allocates : ∀ arrival ∈ calls.flatten ++ received.take processed, arrival.allocated = true)
    (fits : ∀ count state,
      PythonReceiver.run ((calls.flatten ++ received.take processed).take count) = .ok state →
        state.Fits) :
    ∃ python c, PythonReceiver.run (calls.flatten ++ received.take processed) = .ok python ∧
      CReceiver.mainWithin calls received processed = .ok c ∧ Matches python c := by
  have cRuns := CReceiver.mainWithin_keeps calls received processed
  generalize calls.flatten ++ received.take processed = arrivals at *
  have keeps (count : Nat) : ∃ state, PythonReceiver.run (arrivals.take count) = .ok state ∧
      PythonReceiver.Refines (.after ((arrivals.take count).map Arrival.datagram)) state := by
    rcases PythonReceiver.run_keeps (arrivals.take count) with kept | ⟨arrival, member, refused, _⟩
    · exact kept
    · rw [allocates arrival (List.mem_of_mem_take member)] at refused
      cases refused
  have bounded (count : Nat) :
      (Account.after ((arrivals.take count).map Arrival.datagram)).stream.invalid < 2 ^ 64 ∧
        (Account.after ((arrivals.take count).map Arrival.datagram)).stream.repeated < 2 ^ 64 := by
    obtain ⟨state, ran, refines⟩ := keeps count
    rw [← refines.invalid, ← refines.duplicate]
    exact fits count state ran
  rcases cRuns with ⟨c, cRan, cRefines⟩ | ⟨arrival, member, refused, _⟩
  · obtain ⟨python, ran, refines⟩ := keeps arrivals.length
    have now := bounded arrivals.length
    rw [List.take_length] at ran refines now
    refine ⟨python, c, ran, cRan, matches_of_refines refines cRefines now.1 now.2 ?_⟩
    intro stream sent member
    obtain ⟨count, same, atMost⟩ := Account.closed_earlier member
    rw [← List.map_take] at same
    have earlier := bounded count
    rw [same] at earlier
    exact ⟨atMost, earlier⟩
  · rw [allocates arrival member] at refused
    cases refused

/-- Fewer than 2^64 datagrams keep the counters below 2^64. -/
theorem fits_of_length {arrivals : List Arrival} (few : arrivals.length < 2 ^ 64) (count : Nat)
    (state : PythonReceiver.State)
    (ran : PythonReceiver.run (arrivals.take count) = .ok state) : state.Fits := by
  rcases PythonReceiver.run_keeps (arrivals.take count) with
    ⟨after, same, refines⟩ | ⟨_, _, _, failed⟩
  · cases ran.symm.trans same
    have size := Account.size_le ((arrivals.take count).map Arrival.datagram)
    rw [List.length_map, List.length_take] at size
    rw [PythonReceiver.State.Fits, refines.invalid, refines.duplicate, Stream.repeated]
    omega
  · cases ran.symm.trans failed

/-- A session of one packet, which is received twice, in two calls. -/
theorem c_receiver_refines_python_session :
    ∃ python c, PythonReceiver.run [announcement, onlyQuote, onlyQuote, closing] = .ok python ∧
      CReceiver.mainWithin [[announcement, onlyQuote], [onlyQuote, closing]] [] 0 = .ok c ∧
      Matches python c :=
  c_receiver_refines_python [[announcement, onlyQuote], [onlyQuote, closing]] [] 0 (by decide)
    (fits_of_length (by decide))

end HftPipeline.Host
