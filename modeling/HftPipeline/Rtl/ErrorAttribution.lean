import HftPipeline.Rtl.PacketDecoding

/-!
# Attribution of the error flags

Each error flag names one violation, at one beat or at one position of the eight.
The flags of a completed packet are exactly the violations among its own beats:
what stalled, what was idle and what earlier packets did leave no trace.
-/

namespace HftPipeline.Rtl.PacketParser

open HftPipeline.Std HftPipeline.Std.Groups HftPipeline.Wire

/-- What a packet can violate, in the order of the flags. -/
inductive Violation
  | magic | version | messageType | side | reserved | keep | earlyTlast | missingTlast
deriving DecidableEq

namespace Violation

/-- The bit of `error_flags` that reports a violation. -/
def bit : Violation → Nat
  | magic => 0
  | version => 1
  | messageType => 2
  | side => 3
  | reserved => 4
  | keep => 5
  | earlyTlast => 6
  | missingTlast => 7

/-- The side values that a message type excludes. -/
def badSide (messageType side : BitVec 8) : Prop :=
  messageType = 1#8 ∧ side ≠ 0#8 ∧ side ≠ 1#8 ∨
    (messageType = 4#8 ∨ messageType = 5#8) ∧ side ≠ 0#8

/-- A violation by the beat at one position of a packet. -/
def At (tlastPerPacket : Bool) (position : Nat) (beat : Beat) : Violation → Prop
  | magic => position = 0 ∧ byteSwap32 beat.data ≠ 0x48465431#32
  | version => position = 1 ∧ byteLane beat.data 0 ≠ 1#8
  | messageType => position = 1 ∧ byteLane beat.data 1 ≠ 1#8 ∧ byteLane beat.data 1 ≠ 4#8 ∧
      byteLane beat.data 1 ≠ 5#8
  | side => position = 1 ∧ badSide (byteLane beat.data 1) (byteLane beat.data 2)
  | reserved => position = 1 ∧ byteLane beat.data 3 ≠ 0#8
  | keep => beat.keep ≠ 0xF#4
  | earlyTlast => position < 7 ∧ beat.last = true
  | missingTlast => tlastPerPacket = true ∧ position = 7 ∧ beat.last = false

/-- A violation somewhere in a packet. -/
def Occurs (tlastPerPacket : Bool) (beats : List Beat) (violation : Violation) : Prop :=
  ∃ position, ∃ inside : position < beats.length,
    violation.At tlastPerPacket position beats[position]

end Violation

/-- A flag that is raised under a condition. -/
theorem getLsbD_flag (condition : Prop) [Decidable condition] (flag : BitVec 8) (index : Nat) :
    (if condition then flag else 0#8).getLsbD index = true ↔
      condition ∧ flag.getLsbD index = true := by
  split <;> simp_all

/-- The type check raises the bits of a bad side and of a bad type. -/
theorem typeErrors_bit (messageType side : BitVec 8) (index : Nat) :
    (typeErrors messageType side).getLsbD index = true ↔
      Violation.badSide messageType side ∧ errorSide.getLsbD index = true ∨
        (messageType ≠ 1#8 ∧ messageType ≠ 4#8 ∧ messageType ≠ 5#8) ∧
          errorMessageType.getLsbD index = true := by
  unfold typeErrors Violation.badSide
  by_cases quote : messageType = 1#8
  · simp only [quote, if_true, getLsbD_flag]
    simp
  · by_cases control : messageType = 4#8 ∨ messageType = 5#8
    · simp only [quote, control, if_true, if_false, getLsbD_flag]
      simp only [← not_or, not_true_eq_false, control]
      simp
    · simp only [quote, control, if_false]
      rw [not_or] at control
      simp [quote, control]

/-- The framing check raises the bits of byte enables, early and missing TLAST. -/
theorem framingErrors_bit (tlastPerPacket : Bool) (wordIndex : BitVec 3) (keep : BitVec 4)
    (last : Bool) (index : Nat) :
    (framingErrors tlastPerPacket wordIndex keep last).getLsbD index = true ↔
      keep ≠ 0xF#4 ∧ errorKeep.getLsbD index = true ∨
        (wordIndex ≠ 7#3 ∧ last = true) ∧ errorEarlyTlast.getLsbD index = true ∨
        (tlastPerPacket = true ∧ wordIndex = 7#3 ∧ last = false) ∧
          errorMissingTlast.getLsbD index = true := by
  cases tlastPerPacket with
  | false =>
      simp only [framingErrors, BitVec.getLsbD_or, Bool.or_eq_true, getLsbD_flag]
      simp [getLsbD_flag]
  | true =>
      simp only [framingErrors, BitVec.getLsbD_or, Bool.or_eq_true, getLsbD_flag, if_true]
      simp [or_comm]

/-- The field check raises the bits of the word it looks at. -/
theorem fieldErrors_bit (wordIndex : BitVec 3) (data : BitVec 32) (index : Nat) :
    (fieldErrors wordIndex data).getLsbD index = true ↔
      (wordIndex = 0#3 ∧ byteSwap32 data ≠ 0x48465431#32) ∧ errorMagic.getLsbD index = true ∨
        wordIndex = 1#3 ∧ (byteLane data 0 ≠ 1#8 ∧ errorVersion.getLsbD index = true ∨
          (typeErrors (byteLane data 1) (byteLane data 2)).getLsbD index = true ∨
          byteLane data 3 ≠ 0#8 ∧ errorReserved.getLsbD index = true) := by
  unfold fieldErrors
  by_cases first : wordIndex = 0#3
  · rw [if_pos first, getLsbD_flag]
    simp [first]
  · rw [if_neg first]
    by_cases second : wordIndex = 1#3
    · rw [if_pos second]
      simp only [BitVec.getLsbD_or, Bool.or_eq_true, getLsbD_flag, or_assoc]
      simp [second]
    · simp [first, second]

/-- The errors raised at one beat are the violations by that beat. -/
theorem currentErrors_bit (tlastPerPacket : Bool) {position : Nat} (inside : position < 8)
    (beat : Beat) (violation : Violation) :
    (currentErrors tlastPerPacket (BitVec.ofNat 3 position) beat.data beat.keep
        beat.last).getLsbD violation.bit = true ↔
      violation.At tlastPerPacket position beat := by
  have index (number : Nat) (small : number < 8) :
      BitVec.ofNat 3 position = BitVec.ofNat 3 number ↔ position = number := by
    rw [← BitVec.toNat_inj, BitVec.toNat_ofNat, BitVec.toNat_ofNat]
    omega
  have early : position < 7 ↔ ¬ position = 7 := by omega
  rw [currentErrors, BitVec.getLsbD_or, Bool.or_eq_true, framingErrors_bit, fieldErrors_bit,
    typeErrors_bit, index 0 (by omega), index 1 (by omega)]
  cases violation <;>
    simp [Violation.bit, Violation.At, errorMagic, errorVersion, errorMessageType, errorSide,
      errorReserved, errorKeep, errorEarlyTlast, errorMissingTlast, index 7, early]

/-- The flags of a packet are the violations within it. -/
theorem packetErrorsOf_attributed (tlastPerPacket : Bool) {beats : List Beat}
    (complete : beats.length = 8) (violation : Violation) :
    (packetErrorsOf tlastPerPacket beats).getLsbD violation.bit = true ↔
      violation.Occurs tlastPerPacket beats := by
  rw [packetErrorsOf_bit]
  constructor
  · rintro ⟨position, inside, raised⟩
    exact ⟨position, inside, (currentErrors_bit tlastPerPacket (by omega) _ _).mp raised⟩
  · rintro ⟨position, inside, violated⟩
    exact ⟨position, inside, (currentErrors_bit tlastPerPacket (by omega) _ _).mpr violated⟩

/-- No completion output is active. -/
structure Quiet (state : State) : Prop where
  valid : state.packetValid = false
  error : state.packetError = false
  flags : state.errorFlags = 0#8

/-- The completion outputs are those of one packet. -/
structure Completes (tlastPerPacket : Bool) (state : State) (beats : List Beat) : Prop where
  exclusive : state.packetError = !state.packetValid
  valid : state.packetValid = true ↔ state.errorFlags = 0#8
  attributed : ∀ violation : Violation,
    state.errorFlags.getLsbD violation.bit = true ↔ violation.Occurs tlastPerPacket beats
  decoded : ∀ complete : beats.length = 8, state.fields = unpack (groupPayload beats complete)

variable {tlastPerPacket : Bool}

/-- Without a completed packet the parser reports nothing. -/
theorem Reports.quiet {state : State} (reports : Reports tlastPerPacket state none) : Quiet state :=
  have ⟨valid, error, flags⟩ := reports.idle rfl
  ⟨valid, error, flags⟩

/-- With a completed packet the parser reports that packet. -/
theorem Reports.completes {state : State} {beats : List Beat}
    (reports : Reports tlastPerPacket state (some beats)) :
      Completes tlastPerPacket state beats := by
  obtain ⟨complete, stored⟩ := reports.words beats rfl
  have flags := reports.flags beats rfl
  have valid := reports.valid beats rfl
  have error := reports.error beats rfl
  constructor
  · rw [Bool.eq_iff_iff, error, Bool.not_eq_true', ← Bool.not_eq_true, valid]
  · rw [valid, flags]
  · intro violation
    rw [flags, packetErrorsOf_attributed tlastPerPacket complete]
  · intro complete
    exact stored.fields_eq complete

section Run

variable (tlastPerPacket : Bool) (input : Nat → Input)

/-- The beats of the packet whose eighth beat a cycle accepts, after those of all
earlier packets. -/
def AcceptsEighth (cycle : Nat) (earlier beats : List Beat) : Prop :=
  beatAt tlastPerPacket reset input cycle ≠ none ∧ earlier.length % 8 = 0 ∧ beats.length = 8 ∧
    acceptedBefore tlastPerPacket reset input (cycle + 1) = earlier ++ beats

/-- The next cycle adds the beat it accepts, if any. -/
theorem acceptedBefore_succ (initial : State) (cycle : Nat) :
    acceptedBefore tlastPerPacket initial input (cycle + 1) =
      acceptedBefore tlastPerPacket initial input cycle ++
        (beatAt tlastPerPacket initial input cycle).toList := Clocked.seen_succ _ _

/-- The completed group is the last eight accepted beats. -/
theorem completedAt_of_acceptsEighth {cycle : Nat} {earlier beats : List Beat}
    (eighth : AcceptsEighth tlastPerPacket input cycle earlier beats) :
    completedAt tlastPerPacket reset input cycle = some beats := by
  obtain ⟨accepted, aligned, complete, split⟩ := eighth
  obtain ⟨beat, shown⟩ := Option.ne_none_iff_exists'.mp accepted
  rw [acceptedBefore_succ, shown, Option.toList_some] at split
  obtain ⟨front, last, rfl⟩ := (List.eq_nil_or_concat beats).resolve_left (by
    rintro rfl
    simp at complete)
  rw [List.concat_eq_append] at split complete ⊢
  rw [← List.append_assoc, List.append_singleton_inj] at split
  obtain ⟨before, rfl⟩ := split
  have short : front.length = 7 := by simpa using complete
  have alignedRemainder : remainder 8 earlier = [] := by
    rw [← List.length_eq_zero_iff, length_remainder, aligned]
  have rest : remainder 8 (acceptedBefore tlastPerPacket reset input cycle) = front := by
    rw [before, (groups_append (by omega) front alignedRemainder).2,
      (groups_of_short (by omega)).2]
  simp [completedAt, shown, completedBy, rest, short]

/-- A group is completed exactly in the cycles that accept an eighth beat. -/
theorem completedAt_eq_none {cycle : Nat} (noEighth :
    beatAt tlastPerPacket reset input cycle = none ∨
      (acceptedBefore tlastPerPacket reset input (cycle + 1)).length % 8 ≠ 0) :
    completedAt tlastPerPacket reset input cycle = none := by
  cases completed : completedAt tlastPerPacket reset input cycle with
  | none => rfl
  | some beats =>
      have counted := length_of_completedAt tlastPerPacket input completed
      rcases noEighth with silent | inside
      · simp [completedAt, silent, completedBy] at completed
      · omega

/-- Framing and attribution of a whole run: the counter counts accepted beats, the
completion outputs are active exactly in the cycle after an eighth one, and then
report that packet's own violations and fields. -/
theorem parser_attributes_errors (cycle : Nat) :
    (run tlastPerPacket reset input cycle).wordIndex.toNat =
        (acceptedBefore tlastPerPacket reset input cycle).length % 8 ∧
      Quiet (run tlastPerPacket reset input 0) ∧
      (beatAt tlastPerPacket reset input cycle = none ∨
          (acceptedBefore tlastPerPacket reset input (cycle + 1)).length % 8 ≠ 0 →
        Quiet (run tlastPerPacket reset input (cycle + 1))) ∧
      ∀ earlier beats, AcceptsEighth tlastPerPacket input cycle earlier beats →
        Completes tlastPerPacket (run tlastPerPacket reset input (cycle + 1)) beats := by
  have reports := reports_run tlastPerPacket input atBoundary_reset cycle
  refine ⟨?_, ⟨rfl, rfl, rfl⟩, ?_, ?_⟩
  · rw [(tracks_run tlastPerPacket input atBoundary_reset cycle).wordIndex_toNat, length_remainder]
  · intro silent
    rw [completedAt_eq_none tlastPerPacket input silent] at reports
    exact reports.quiet
  · intro earlier beats eighth
    rw [completedAt_of_acceptsEighth tlastPerPacket input eighth] at reports
    exact reports.completes

end Run

end HftPipeline.Rtl.PacketParser
