import HftPipeline.Std.Gaps
import HftPipeline.Wire.Senders
import HftPipeline.Host.LiveDelivery

/-!
# The sequence numbers of the live receiver

The classification of sequence numbers tracks the greatest number and the repeated
ones exactly. A gap is charged as missing when it is skipped, and nothing is taken
back when a number of the gap arrives later on.
-/

namespace HftPipeline.Host.LiveReceiver

open HftPipeline.Std.Arrivals HftPipeline.Std.Records HftPipeline.Std.Gaps HftPipeline.Wire

section Record

variable {sequences : Sequences} {sequence highest : Nat}

/-! The four branches of the classification. -/

/-- A number seen before is a duplicate and nothing else. -/
theorem Sequences.record_seen (seen : sequence ∈ sequences.seen) :
    sequences.record sequence = { sequences with duplicate := sequences.duplicate + 1 } := by
  simp [record, seen]

/-- The first number becomes the highest. -/
theorem Sequences.record_first (unseen : sequence ∉ sequences.seen)
    (first : sequences.highest = none) :
    sequences.record sequence =
      { sequences with
        highest := some sequence
        seen := insert sequence sequences.seen } := by
  simp [record, unseen, first]

/-- A new number below the highest is out of order. -/
theorem Sequences.record_below (unseen : sequence ∉ sequences.seen)
    (held : sequences.highest = some highest) (below : sequence < highest) :
    sequences.record sequence =
      { sequences with
        outOfOrder := sequences.outOfOrder + 1
        seen := insert sequence sequences.seen } := by
  simp [record, unseen, held, below]

/-- A new number above the highest counts those between as missing. -/
theorem Sequences.record_above (unseen : sequence ∉ sequences.seen)
    (held : sequences.highest = some highest) (above : highest ≤ sequence) :
    sequences.record sequence =
      { sequences with
        missing := sequences.missing + (sequence - highest - 1)
        highest := some sequence
        seen := insert sequence sequences.seen } := by
  by_cases gap : sequence > highest + 1
  · simp [record, unseen, held, Nat.not_lt.mpr above, gap]
  · have none : sequence - highest - 1 = 0 := by omega
    simp [record, unseen, held, Nat.not_lt.mpr above, gap, none]

end Record

/-- What the classification holds after some sequence numbers. -/
structure Sequences.Classifies (sequences : Sequences) (numbers : List Nat) : Prop where
  seen : sequences.seen = numbers.toFinset
  highest : sequences.highest = numbers.max?
  duplicate : sequences.duplicate = (selected IsSeen numbers).length
  missing : sequences.missing = (skipped numbers).card

/-- A further number joins the set of numbers. -/
theorem toFinset_snoc (numbers : List Nat) (number : Nat) :
    (numbers ++ [number]).toFinset = insert number numbers.toFinset := by
  ext other
  simp

section Classification

variable {sequences : Sequences} {numbers : List Nat} {number : Nat}

/-- A new number repeats nothing. -/
theorem length_repeated_snoc (unseen : number ∉ numbers) :
    (selected IsSeen (numbers ++ [number])).length = (selected IsSeen numbers).length := by
  rw [length_selected_snoc, if_neg unseen, Nat.add_zero]

/-- A known number is a duplicate. -/
theorem classifies_record_seen (classifies : sequences.Classifies numbers)
    (known : number ∈ numbers) :
    (sequences.record number).Classifies (numbers ++ [number]) := by
  have member : number ∈ sequences.seen := by simpa [classifies.seen] using known
  have notRecord : ¬IsRecord numbers number := fun isRecord => (isRecord number known).false
  rw [Sequences.record_seen member]
  constructor
  · rw [toFinset_snoc, ← classifies.seen, Finset.insert_eq_of_mem member]
  · rw [max?_snoc_of_not_record (List.ne_nil_of_mem known) notRecord, ← classifies.highest]
  · rw [length_selected_snoc, if_pos known, ← classifies.duplicate]
  · rw [skipped_of_not_record notRecord, ← classifies.missing]

/-- The first number is the greatest. -/
theorem classifies_record_first (classifies : sequences.Classifies []) (number : Nat) :
    (sequences.record number).Classifies [number] := by
  have unseen : number ∉ sequences.seen := by simp [classifies.seen]
  rw [Sequences.record_first unseen classifies.highest]
  constructor
  · simp [classifies.seen]
  · rfl
  · exact classifies.duplicate.trans (length_repeated_snoc List.not_mem_nil).symm
  · rw [skipped_singleton]
    exact classifies.missing

/-- A new number below the greatest changes neither the maximum nor the gaps. -/
theorem classifies_record_below (classifies : sequences.Classifies numbers)
    (unseen : number ∉ numbers) (nonempty : numbers ≠ []) (below : number < highest numbers) :
    (sequences.record number).Classifies (numbers ++ [number]) := by
  have member : number ∉ sequences.seen := by simpa [classifies.seen] using unseen
  have held := classifies.highest.trans (max?_eq_highest nonempty)
  have notRecord : ¬IsRecord numbers number := by
    rw [isRecord_iff nonempty]
    omega
  rw [Sequences.record_below member held below]
  constructor
  · rw [toFinset_snoc, ← classifies.seen]
  · rw [max?_snoc_of_not_record nonempty notRecord, ← classifies.highest]
  · exact classifies.duplicate.trans (length_repeated_snoc unseen).symm
  · rw [skipped_of_not_record notRecord, ← classifies.missing]

/-- A number above the greatest is charged with those it skips. -/
theorem classifies_record_above (classifies : sequences.Classifies numbers)
    (unseen : number ∉ numbers) (nonempty : numbers ≠ []) (above : highest numbers < number) :
    (sequences.record number).Classifies (numbers ++ [number]) := by
  have member : number ∉ sequences.seen := by simpa [classifies.seen] using unseen
  have held := classifies.highest.trans (max?_eq_highest nonempty)
  have isRecord : IsRecord numbers number := (isRecord_iff nonempty number).mpr above
  rw [Sequences.record_above member held above.le]
  constructor
  · rw [toFinset_snoc, ← classifies.seen]
  · rw [max?_eq_highest (by simp), isRecord.highest_snoc]
  · exact classifies.duplicate.trans (length_repeated_snoc unseen).symm
  · rw [card_skipped_of_record nonempty isRecord, ← classifies.missing]
    simp only
    omega

/-- One more number is classified by what came before it. -/
theorem classifies_record (classifies : sequences.Classifies numbers) (number : Nat) :
    (sequences.record number).Classifies (numbers ++ [number]) := by
  by_cases known : number ∈ numbers
  · exact classifies_record_seen classifies known
  · rcases eq_or_ne numbers [] with rfl | nonempty
    · exact classifies_record_first classifies number
    · have new : number ≠ highest numbers := fun equal =>
        known (equal ▸ highest_mem_of_ne_nil nonempty)
      rcases new.lt_or_gt with below | above
      · exact classifies_record_below classifies known nonempty below
      · exact classifies_record_above classifies known nonempty above

end Classification

/-- The counters classify the numbers recorded. -/
theorem classifies_foldl (numbers : List Nat) :
    (numbers.foldl Sequences.record .initial).Classifies numbers := by
  induction numbers using List.reverseRecOn with
  | nil => exact ⟨rfl, rfl, rfl, rfl⟩
  | append_singleton numbers number ih =>
      rw [List.foldl_append]
      exact classifies_record ih number

/-- The sequence numbers of the protocol-valid packets among the datagrams, in order. -/
def numbersOf (read : List Datagram) : List Nat :=
  (validFields (payloadsOf read)).map Fields.sequence

/-- At every point of `main` the classification is that of the packets received so far. -/
theorem main_classifies (dma : Dma) (batchPackets : Nat) (results : List ReceiveResult) :
    let point := (main dma batchPackets results).state
    point.sequences.Classifies (numbersOf ((datagramsOf results).take point.receivedPackets)) := by
  intro point
  rw [(main_counts dma batchPackets results).tallies.sequences]
  exact classifies_foldl _

/-- The counters describe what is lost of some sequence numbers. -/
structure Sequences.AccountsForLoss (sequences : Sequences) (numbers : List Nat) : Prop where
  missing : sequences.missing = (lost numbers).card
  highest : sequences.highest = numbers.max?
  duplicate : sequences.duplicate = (selected IsSeen numbers).length

/-- At every point of `main`, whatever has been received and whatever the DMA does, the
greatest and the repeated numbers are right. The missing ones are those that are lost
and those that arrived after a greater one, so that they are right exactly as long as
no number above the first arrives for the first time behind a greater one. -/
theorem loss_accounting_iff (dma : Dma) (batchPackets : Nat) (results : List ReceiveResult) :
    let point := (main dma batchPackets results).state
    let numbers := numbersOf ((datagramsOf results).take point.receivedPackets)
    point.sequences.highest = numbers.max? ∧
      point.sequences.duplicate = (selected IsSeen numbers).length ∧
      point.sequences.missing = (lost numbers).card + (fills numbers).length ∧
      (point.sequences.AccountsForLoss numbers ↔
        ∀ before number after, numbers = before ++ number :: after → ¬FillsGap before number) := by
  intro point numbers
  have classifies : point.sequences.Classifies numbers :=
    main_classifies dma batchPackets results
  have charged : point.sequences.missing = (lost numbers).card + (fills numbers).length :=
    classifies.missing.trans (card_skipped_eq numbers)
  refine ⟨classifies.highest, classifies.duplicate, charged, ?_⟩
  rw [← selected_eq_nil_iff, ← List.length_eq_zero_iff]
  constructor
  · intro accounts
    have exact := accounts.missing
    simp only [fills] at charged
    omega
  · intro none
    refine ⟨?_, classifies.highest, classifies.duplicate⟩
    simp only [fills] at charged
    omega

/-- A quote with a sequence number. -/
def numberedQuote (sequence : BitVec 8) : Payload :=
  ⟨(senderFields messageQuoteUpdate 0 sequence.toNat 0 1 1 1).layout, by
    simp [Fields.layout, senderFields, magicBytes, packetSize]⟩

/-- Quote 2 arrives behind quote 3. -/
def lateQuote : List ReceiveResult :=
  [.messages ([1#8, 3#8, 2#8].map fun sequence => ⟨(numberedQuote sequence).1, ⟨0#32, 5005#16⟩⟩)]

/-- All three quotes have been received, and one is counted as missing. -/
theorem late_quote_stays_missing :
    let point := (main loopback 256 lateQuote).state
    numbersOf ((datagramsOf lateQuote).take point.receivedPackets) = [1, 3, 2] ∧
      lost [1, 3, 2] = ∅ ∧ point.sequences.missing = 1 ∧
      ¬point.sequences.AccountsForLoss
        (numbersOf ((datagramsOf lateQuote).take point.receivedPackets)) := by
  have counted : (main loopback 256 lateQuote).state.sequences.missing = 1 := by decide
  have numbers : numbersOf ((datagramsOf lateQuote).take
      (main loopback 256 lateQuote).state.receivedPackets) = [1, 3, 2] := by decide
  refine ⟨numbers, by decide, counted, ?_⟩
  intro accounts
  have missing := accounts.missing
  rw [numbers, counted] at missing
  exact absurd missing (by decide)

end HftPipeline.Host.LiveReceiver
