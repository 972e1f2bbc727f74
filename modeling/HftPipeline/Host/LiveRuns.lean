import HftPipeline.Host.LiveReceiver

/-!
# Runs of the live receiver

Whatever the DMA does and however the datagrams are grouped into calls, a run reads
some of them one after the other, the loops being left at the first state that stops
them, and then ends in one of five ways. What every datagram and every ending
preserves therefore holds at every point of `main`.
-/

namespace HftPipeline.Host.LiveReceiver

open HftPipeline.Std.EarlyExit

/-- The datagrams that the calls return before the socket times out or the program
is interrupted. -/
def datagramsOf : List ReceiveResult → List Datagram
  | .messages datagrams :: results => datagrams ++ datagramsOf results
  | .interrupted :: results => datagramsOf results
  | _ => []

theorem State.stopped_eq_false_iff {state : State} :
    state.stopped = false ↔ state.streamEndSeen = false ∧ state.dmaFailed = false := by
  rw [State.stopped, Bool.or_eq_false_iff]

section Runs

variable (dma : Dma) (batchPackets : Nat)

/-- The loops read some datagrams, none of them behind a state that stops them. -/
inductive Reads (state : State) : List Datagram → State → Prop where
  | refl : Reads state [] state
  | step {read current} (prior : Reads state read current) (active : current.stopped = false)
      (datagram : Datagram) :
      Reads state (read ++ [datagram])
        (processSlot dma batchPackets current (receiveSlot datagram))

/-- How `main` leaves the loops, from the state they have reached. -/
inductive Ends (state : State) : Outcome → Prop where
  | stopped (calls : Calls) (stops : state.stopped = true) :
      Ends state ⟨.finished, calls, finalFlush dma batchPackets state⟩
  | waiting (calls : Calls) (active : state.stopped = false) :
      Ends state ⟨.waiting, calls, state⟩
  | timeout (calls : Calls) (active : state.stopped = false) :
      Ends state ⟨.finished, calls, finalFlush dma batchPackets { state with timedOut := true }⟩
  | failed (calls : Calls) (errno : Nat) (active : state.stopped = false) :
      Ends state ⟨.raised errno, calls, state⟩
  | keyboardInterrupt (calls : Calls) (active : state.stopped = false) :
      Ends state ⟨.finished, calls,
        { state with
          delivery := (flushPending dma batchPackets state.receivedPackets state.delivery).1 }⟩

variable {dma batchPackets} {state middle last : State} {front back : List Datagram}

theorem Reads.trans (first : Reads dma batchPackets state front middle)
    (second : Reads dma batchPackets middle back last) :
    Reads dma batchPackets state (front ++ back) last := by
  induction second with
  | refl => simpa using first
  | step _ active datagram ih =>
      rw [← List.append_assoc]
      exact .step ih active datagram

/-- Nothing is read behind a state that stops the loops. -/
theorem Reads.eq_of_stopped (reads : Reads dma batchPackets state front last)
    (stops : state.stopped = true) : front = [] ∧ last = state := by
  induction reads with
  | refl => exact ⟨rfl, rfl⟩
  | step _ active _ ih =>
      rw [ih.2, stops] at active
      cases active

/-- One group and what is read behind it are the first of all datagrams, and all of them
unless a state stops the loops. -/
theorem Reads.group_complete {datagrams later : List Datagram}
    (second : Reads dma batchPackets middle back last) (inside : front <+: datagrams)
    (grouped : middle.stopped = false → front = datagrams) (before : back <+: later)
    (whole : last.stopped = false → back = later) :
    front ++ back <+: datagrams ++ later ∧
      (last.stopped = false → front ++ back = datagrams ++ later) := by
  cases left : middle.stopped with
  | true =>
      obtain ⟨rfl, rfl⟩ := second.eq_of_stopped left
      rw [List.append_nil]
      refine ⟨inside.trans (List.prefix_append _ _), fun running => ?_⟩
      rw [left] at running
      cases running
  | false =>
      rw [grouped left]
      refine ⟨(List.prefix_append_right_inj datagrams).mpr before, fun running => ?_⟩
      rw [whole running]

/-- What every datagram preserves holds wherever the loops are. -/
theorem Reads.invariant (Inv : State → List Datagram → Prop) {read : List Datagram}
    (start : Inv state read)
    (preserved : ∀ current read datagram, Inv current read → current.stopped = false →
      Inv (processSlot dma batchPackets current (receiveSlot datagram)) (read ++ [datagram]))
    (reads : Reads dma batchPackets state front last) : Inv last (read ++ front) := by
  induction reads with
  | refl => simpa using start
  | step _ active datagram ih =>
      rw [← List.append_assoc]
      exact preserved _ _ _ ih active

variable (dma batchPackets) in
/-- The loop over one group reads it to its end or to a state that stops it. -/
theorem processSlots_reads (active : state.stopped = false) (datagrams : List Datagram) :
    ∃ front, front <+: datagrams ∧
      Reads dma batchPackets state front
        (processSlots dma batchPackets state (datagrams.map receiveSlot)) ∧
      ((processSlots dma batchPackets state (datagrams.map receiveSlot)).stopped = false →
        front = datagrams) := by
  rw [processSlots, runUntil_map]
  induction datagrams generalizing state with
  | nil => exact ⟨[], List.prefix_refl _, .refl, fun _ => rfl⟩
  | cons datagram datagrams ih =>
      have one : Reads dma batchPackets state [datagram]
          (processSlot dma batchPackets state (receiveSlot datagram)) := .step .refl active datagram
      rw [runUntil]
      split_ifs with stops
      · exact ⟨[datagram], ⟨datagrams, rfl⟩, one, fun running =>
          absurd (stops.symm.trans running) (by decide)⟩
      · obtain ⟨front, before, reads, whole⟩ := ih (Bool.eq_false_iff.mpr stops)
        exact ⟨datagram :: front, (List.prefix_cons_inj datagram).mpr before, one.trans reads,
          fun running => by rw [whole running]⟩

variable (dma batchPackets) in
/-- A run reads the first of the datagrams, all of them unless a state stops the
loops, and ends. -/
theorem receiveLoop_reads (calls : Calls) (state : State) (results : List ReceiveResult) :
    ∃ front last, front <+: datagramsOf results ∧ Reads dma batchPackets state front last ∧
      (last.stopped = false → front = datagramsOf results) ∧
      Ends dma batchPackets last (receiveLoop dma batchPackets calls state results) := by
  induction results generalizing calls state with
  | nil =>
      refine ⟨[], state, List.prefix_refl _, .refl, fun _ => rfl, ?_⟩
      cases stops : state.stopped with
      | true => simpa [receiveLoop, stops] using Ends.stopped calls stops
      | false => simpa [receiveLoop, stops] using Ends.waiting calls stops
  | cons result results ih =>
      cases stops : state.stopped with
      | true =>
          refine ⟨[], state, List.nil_prefix, .refl, fun running => ?_, ?_⟩
          · exact absurd (stops.symm.trans running) (by decide)
          · simpa [receiveLoop, stops] using Ends.stopped calls stops
      | false =>
          cases result with
          | messages datagrams =>
              obtain ⟨group, inside, first, grouped⟩ :=
                processSlots_reads dma batchPackets stops datagrams
              obtain ⟨front, last, before, rest, whole, ends⟩ :=
                ih (calls.returned datagrams.length)
                  (processSlots dma batchPackets state (datagrams.map receiveSlot))
              obtain ⟨joined, complete⟩ := rest.group_complete inside grouped before whole
              exact ⟨group ++ front, last, joined, first.trans rest, complete,
                by simpa [receiveLoop, stops] using ends⟩
          | interrupted =>
              obtain ⟨front, last, before, rest, whole, ends⟩ := ih calls state
              exact ⟨front, last, before, rest, whole, by simpa [receiveLoop, stops] using ends⟩
          | timeout =>
              exact ⟨[], state, List.nil_prefix, .refl, fun _ => rfl,
                by simpa [receiveLoop, stops] using Ends.timeout calls stops⟩
          | failed errno =>
              exact ⟨[], state, List.nil_prefix, .refl, fun _ => rfl,
                by simpa [receiveLoop, stops] using Ends.failed calls errno stops⟩
          | keyboardInterrupt =>
              exact ⟨[], state, List.nil_prefix, .refl, fun _ => rfl,
                by simpa [receiveLoop, stops] using Ends.keyboardInterrupt calls stops⟩

end Runs

end HftPipeline.Host.LiveReceiver
