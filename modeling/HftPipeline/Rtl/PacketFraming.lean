import Mathlib.Tactic.IntervalCases
import HftPipeline.Rtl.PacketParser
import HftPipeline.Std.Clocked
import HftPipeline.Std.Groups

/-!
# Framing of accepted beats

The parser's registers are a function of the beats it has accepted: the counter
is their number modulo eight, the accumulator holds the errors of the beats
after the last complete group, and the field registers still hold every word of
that group. `Tracks` is this invariant; `completed` names the group whose last
beat a cycle accepts, and the pulses of the next cycle report exactly it.
-/

namespace HftPipeline.Rtl.PacketParser

open HftPipeline.Std HftPipeline.Std.Groups

/-- One AXI4-Stream transfer. -/
structure Beat where
  data : BitVec 32
  keep : BitVec 4
  last : Bool
deriving DecidableEq

def Input.beat (input : Input) : Beat := ⟨input.sAxisTdata, input.sAxisTkeep, input.sAxisTlast⟩

/-- The errors of the beats of one packet so far, each checked at its position. -/
def packetErrorsOf (tlastPerPacket : Bool) (beats : List Beat) : BitVec 8 :=
  beats.zipIdx.foldl (fun errors (beat, position) => errors |||
    currentErrors tlastPerPacket (BitVec.ofNat 3 position) beat.data beat.keep beat.last) 0#8

/-- A packet of which no beat has been taken has no error yet. -/
@[simp] theorem packetErrorsOf_nil (tlastPerPacket : Bool) :
    packetErrorsOf tlastPerPacket [] = 0#8 :=
  rfl

/-- Each further beat adds the errors of its own data, byte enables and TLAST. -/
theorem packetErrorsOf_snoc (tlastPerPacket : Bool) (beats : List Beat) (beat : Beat) :
    packetErrorsOf tlastPerPacket (beats ++ [beat]) = packetErrorsOf tlastPerPacket beats |||
      currentErrors tlastPerPacket (BitVec.ofNat 3 beats.length) beat.data beat.keep beat.last := by
  simp [packetErrorsOf, List.zipIdx_append, List.foldl_append]

/-- A flag of a packet is raised by some beat of it. -/
theorem packetErrorsOf_bit (tlastPerPacket : Bool) (beats : List Beat) (index : Nat) :
    (packetErrorsOf tlastPerPacket beats).getLsbD index = true ↔
      ∃ position, ∃ inside : position < beats.length,
        (currentErrors tlastPerPacket (BitVec.ofNat 3 position) beats[position].data
          beats[position].keep beats[position].last).getLsbD index = true := by
  induction beats using List.reverseRecOn with
  | nil => simp
  | append_singleton beats beat ih =>
      rw [packetErrorsOf_snoc, BitVec.getLsbD_or, Bool.or_eq_true, ih]
      constructor
      · rintro (⟨position, inside, raised⟩ | raised)
        · exact ⟨position, by simp; omega, by rwa [List.getElem_append_left inside]⟩
        · exact ⟨beats.length, by simp, by simpa using raised⟩
      · rintro ⟨position, inside, raised⟩
        by_cases earlier : position < beats.length
        · rw [List.getElem_append_left earlier] at raised
          exact .inl ⟨position, earlier, raised⟩
        · have atEnd : position = beats.length := by
            simp only [List.length_append, List.length_singleton] at inside
            omega
          subst atEnd
          exact .inr (by simpa using raised)

/-- Swapping the four bytes of a word twice gives the word back. -/
theorem byteSwap32_byteSwap32 (data : BitVec 32) : byteSwap32 (byteSwap32 data) = data := by
  simp only [byteSwap32, byteLane]
  ext index inside
  simp only [BitVec.getElem_append, BitVec.getElem_extractLsb', BitVec.getLsbD_append,
    BitVec.getLsbD_extractLsb']
  grind

/-- The word that the field registers retain for one beat position. -/
def storedWord (state : State) (position : Nat) : BitVec 32 :=
  match position with
  | 0 => byteSwap32 state.magic
  | 1 => state.reservedField ++ state.side ++ state.messageType ++ state.version
  | 2 => byteSwap32 state.seq
  | 3 => byteSwap32 (state.timestampNs.extractLsb' 32 32)
  | 4 => byteSwap32 (state.timestampNs.extractLsb' 0 32)
  | 5 => byteSwap32 state.instrumentId
  | 6 => byteSwap32 state.priceTicks
  | _ => byteSwap32 state.quantity

/-- An accepted beat replaces the stored word of its position and no other. -/
theorem storedWord_storeFields (state : State) (data : BitVec 32) {position : Nat}
    (inside : position < 8) : storedWord (storeFields state data) position =
      if position = state.wordIndex.toNat then data else storedWord state position := by
  have lanes : byteLane data 3 ++ byteLane data 2 ++ byteLane data 1 ++ byteLane data 0 = data := by
    simp only [byteLane]
    ext index inside
    simp only [BitVec.getElem_append, BitVec.getElem_extractLsb']
    grind
  have high (left right : BitVec 32) : (left ++ right : BitVec 64).extractLsb' 32 32 = left :=
    BitVec.extractLsb'_append_eq_left
  have low (left right : BitVec 32) : (left ++ right : BitVec 64).extractLsb' 0 32 = right :=
    BitVec.extractLsb'_append_eq_right
  have index : state.wordIndex = BitVec.ofNat 3 state.wordIndex.toNat := by simp
  have bound := state.wordIndex.isLt
  generalize state.wordIndex.toNat = written at index bound
  interval_cases written <;> interval_cases position <;>
    simp [storeFields, index, storedWord, byteSwap32_byteSwap32, lanes, high, low]

/-- The field registers hold the words of the last beats of every position. -/
def Stores (state : State) (beats : List Beat) : Prop :=
  ∀ position, (inside : position < beats.length) → storedWord state position = beats[position].data

/-- The registers as a function of the accepted beats. -/
structure Tracks (tlastPerPacket : Bool) (state : State) (accepted : List Beat) : Prop where
  index : state.wordIndex = BitVec.ofNat 3 accepted.length
  errors : state.packetErrors = packetErrorsOf tlastPerPacket (remainder 8 accepted)
  words : Stores state (remainder 8 accepted)

/-- Registers between two packets. -/
structure AtBoundary (state : State) : Prop where
  index : state.wordIndex = 0#3
  errors : state.packetErrors = 0#8

/-- The parser stands between two packets after reset. -/
theorem atBoundary_reset : AtBoundary reset := ⟨rfl, rfl⟩

/-- A parser between two packets has taken no beat of the next one. -/
theorem Tracks.start {tlastPerPacket : Bool} {state : State} (boundary : AtBoundary state) :
    Tracks tlastPerPacket state [] where
  index := boundary.index
  errors := by simpa using boundary.errors
  words := by
    intro position inside
    simp at inside

/-- The beat a cycle accepts. -/
def acceptedBeat (state : State) (input : Input) : Option Beat :=
  if axisFire state input then some input.beat else none

/-- The group whose last beat is appended to the accepted beats. -/
def completedBy (accepted : List Beat) : Option Beat → Option (List Beat)
  | none => none
  | some beat =>
      if (remainder 8 accepted).length = 7 then some (remainder 8 accepted ++ [beat]) else none

/-- One more accepted beat completes at most one packet. -/
theorem groups_append_accepted (accepted : List Beat) (beat : Option Beat) :
    groups 8 (accepted ++ beat.toList) =
      groups 8 accepted ++ (completedBy accepted beat).toList := by
  cases beat with
  | none => simp [completedBy]
  | some beat =>
      by_cases full : (remainder 8 accepted).length = 7
      · simpa [completedBy, full] using (groups_snoc_of_full beat (by omega)).1
      · have short : (remainder 8 accepted).length + 1 < 8 := by
          have bound := Nat.mod_lt accepted.length (show 0 < 8 by omega)
          rw [← length_remainder] at bound
          omega
        simpa [completedBy, full] using (groups_snoc_of_short beat short).1

/-- The completion outputs of a cycle report one group, or are all inactive. -/
structure Reports (tlastPerPacket : Bool) (state : State) (group : Option (List Beat)) : Prop where
  idle : group = none → state.packetValid = false ∧ state.packetError = false ∧
    state.errorFlags = 0#8
  flags : ∀ beats, group = some beats → state.errorFlags = packetErrorsOf tlastPerPacket beats
  valid : ∀ beats, group = some beats →
    (state.packetValid = true ↔ packetErrorsOf tlastPerPacket beats = 0#8)
  error : ∀ beats, group = some beats →
    (state.packetError = true ↔ packetErrorsOf tlastPerPacket beats ≠ 0#8)
  words : ∀ beats, group = some beats → beats.length = 8 ∧ Stores state beats

section Forwarding

variable (old state : State) (input : Input)

/-! Forwarding a beat changes no register of the decoder. -/

/-- The output register does not touch the beat counter. -/
@[simp] theorem forward_wordIndex : (forward old input state).wordIndex = state.wordIndex := by
  unfold forward; split_ifs <;> rfl

/-- The output register does not touch the collected errors. -/
@[simp] theorem forward_packetErrors :
    (forward old input state).packetErrors = state.packetErrors := by
  unfold forward; split_ifs <;> rfl

/-- The output register does not touch the valid pulse. -/
@[simp] theorem forward_packetValid :
    (forward old input state).packetValid = state.packetValid := by
  unfold forward; split_ifs <;> rfl

/-- The output register does not touch the error pulse. -/
@[simp] theorem forward_packetError :
    (forward old input state).packetError = state.packetError := by
  unfold forward; split_ifs <;> rfl

/-- The output register does not touch the reported flags. -/
@[simp] theorem forward_errorFlags : (forward old input state).errorFlags = state.errorFlags := by
  unfold forward; split_ifs <;> rfl

/-- The output register does not touch the stored words. -/
@[simp] theorem storedWord_forward (position : Nat) :
    storedWord (forward old input state) position = storedWord state position := by
  unfold forward
  split_ifs <;> (unfold storedWord; rfl)

end Forwarding

/-- Storing a word leaves the beat counter as it is. -/
@[simp] theorem storeFields_wordIndex (state : State) (data : BitVec 32) :
    (storeFields state data).wordIndex = state.wordIndex := by
  unfold storeFields; split_ifs <;> rfl

/-- Storing a word leaves the collected errors as they are. -/
@[simp] theorem storeFields_packetErrors (state : State) (data : BitVec 32) :
    (storeFields state data).packetErrors = state.packetErrors := by
  unfold storeFields; split_ifs <;> rfl

/-- Storing a word leaves the valid pulse as it is. -/
@[simp] theorem storeFields_packetValid (state : State) (data : BitVec 32) :
    (storeFields state data).packetValid = state.packetValid := by
  unfold storeFields; split_ifs <;> rfl

/-- Storing a word leaves the error pulse as it is. -/
@[simp] theorem storeFields_packetError (state : State) (data : BitVec 32) :
    (storeFields state data).packetError = state.packetError := by
  unfold storeFields; split_ifs <;> rfl

/-- Storing a word leaves the reported flags as they are. -/
@[simp] theorem storeFields_errorFlags (state : State) (data : BitVec 32) :
    (storeFields state data).errorFlags = state.errorFlags := by
  unfold storeFields; split_ifs <;> rfl

/-- Closing a beat leaves the stored words as they are. -/
@[simp] theorem storedWord_closeBeat (state : State) (errors : BitVec 8) (position : Nat) :
    storedWord (closeBeat state errors) position = storedWord state position := by
  unfold closeBeat
  split_ifs <;> (unfold storedWord; rfl)

/-- The pulses are cleared without touching the beat counter. -/
@[simp] theorem clearPulses_wordIndex (state : State) :
    (clearPulses state).wordIndex = state.wordIndex := rfl

/-- The pulses are cleared without touching the collected errors. -/
@[simp] theorem clearPulses_packetErrors (state : State) :
    (clearPulses state).packetErrors = state.packetErrors := rfl

/-- The valid pulse lasts one cycle. -/
@[simp] theorem clearPulses_packetValid (state : State) :
    (clearPulses state).packetValid = false := rfl

/-- The error pulse lasts one cycle. -/
@[simp] theorem clearPulses_packetError (state : State) :
    (clearPulses state).packetError = false := rfl

/-- The reported flags last one cycle. -/
@[simp] theorem clearPulses_errorFlags (state : State) : (clearPulses state).errorFlags = 0#8 := rfl

/-- The pulses are cleared without touching the stored words. -/
@[simp] theorem storedWord_clearPulses (state : State) (position : Nat) :
    storedWord (clearPulses state) position = storedWord state position := by
  unfold storedWord; rfl

variable {tlastPerPacket : Bool} {state : State} {accepted : List Beat}

/-- The counter is the number of beats in the current group. -/
theorem Tracks.wordIndex_toNat (tracks : Tracks tlastPerPacket state accepted) :
    state.wordIndex.toNat = (remainder 8 accepted).length := by
  rw [tracks.index, length_remainder, BitVec.toNat_ofNat]

/-- The beat counter is the number of beats of the packet under way. -/
theorem Tracks.wordIndex_eq (tracks : Tracks tlastPerPacket state accepted) :
    state.wordIndex = BitVec.ofNat 3 (remainder 8 accepted).length := by
  rw [← tracks.wordIndex_toNat]
  simp

/-- Fewer than eight beats are ever left of an incomplete packet. -/
theorem remainder_lt (accepted : List Beat) : (remainder 8 accepted).length < 8 := by
  rw [length_remainder]
  exact Nat.mod_lt _ (by omega)

/-- The word of an accepted beat joins the stored words of its group. -/
theorem Tracks.stores_snoc (tracks : Tracks tlastPerPacket state accepted) (beat : Beat) :
    Stores (storeFields (clearPulses state) beat.data) (remainder 8 accepted ++ [beat]) := by
  intro position inside
  have bound := remainder_lt accepted
  simp only [List.length_append, List.length_singleton] at inside
  rw [storedWord_storeFields _ _ (by omega)]
  have same : (clearPulses state).wordIndex.toNat = (remainder 8 accepted).length :=
    tracks.wordIndex_toNat
  rw [same, storedWord_clearPulses]
  by_cases last : position = (remainder 8 accepted).length
  · subst last
    simp
  · rw [if_neg last, List.getElem_append_left (by omega)]
    exact tracks.words position (by omega)

/-- The errors of an accepted beat join the errors of its group. -/
theorem Tracks.errors_snoc (tracks : Tracks tlastPerPacket state accepted) (beat : Beat) :
    packetErrorsOf tlastPerPacket (remainder 8 accepted ++ [beat]) = state.packetErrors |||
      currentErrors tlastPerPacket state.wordIndex beat.data beat.keep beat.last := by
  rw [packetErrorsOf_snoc, ← tracks.errors, ← tracks.wordIndex_eq]

/-- A cycle that accepts no beat keeps the decoder and shows no pulse. -/
theorem Tracks.next_idle (tracks : Tracks tlastPerPacket state accepted) {input : Input}
    (idle : axisFire state input = false) :
    Tracks tlastPerPacket (next tlastPerPacket true state input) accepted ∧
      Reports tlastPerPacket (next tlastPerPacket true state input) none := by
  constructor
  · constructor
    · simpa [PacketParser.next, idle] using tracks.index
    · simpa [PacketParser.next, idle] using tracks.errors
    · intro position inside
      simpa [PacketParser.next, idle] using tracks.words position inside
  · constructor <;> simp [PacketParser.next, idle]

/-- A beat inside a group extends the group and shows no pulse. -/
theorem Tracks.next_inside (tracks : Tracks tlastPerPacket state accepted) {input : Input}
    (fire : axisFire state input = true) (inside : (remainder 8 accepted).length ≠ 7) :
    Tracks tlastPerPacket (next tlastPerPacket true state input) (accepted ++ [input.beat]) ∧
      Reports tlastPerPacket (next tlastPerPacket true state input) none := by
  have bound := remainder_lt accepted
  have notLast : state.wordIndex ≠ 7#3 := by
    intro last
    apply inside
    rw [← tracks.wordIndex_toNat, last]
    rfl
  have short : (remainder 8 accepted).length + 1 < 8 := by omega
  have grown := (groups_snoc_of_short input.beat short).2
  constructor
  · constructor
    · have successor : BitVec.ofNat 3 (accepted.length + 1) = state.wordIndex + 1#3 := by
        rw [tracks.index, BitVec.ofNat_add]
      simp [PacketParser.next, fire, closeBeat, notLast, successor]
    · rw [grown, tracks.errors_snoc]
      simp [PacketParser.next, fire, closeBeat, notLast, Input.beat]
    · rw [grown]
      intro position within
      simpa [PacketParser.next, fire, Input.beat]
        using tracks.stores_snoc input.beat position within
  · constructor <;> simp [PacketParser.next, fire, closeBeat, notLast]

/-- The last beat of a group publishes it and starts the next one. -/
theorem Tracks.next_last (tracks : Tracks tlastPerPacket state accepted) {input : Input}
    (fire : axisFire state input = true) (last : (remainder 8 accepted).length = 7) :
    Tracks tlastPerPacket (next tlastPerPacket true state input) (accepted ++ [input.beat]) ∧
      Reports tlastPerPacket (next tlastPerPacket true state input)
        (some (remainder 8 accepted ++ [input.beat])) := by
  have atSeven : state.wordIndex = 7#3 := by
    rw [tracks.wordIndex_eq, last]
  have full : (remainder 8 accepted).length + 1 = 8 := by omega
  have emptied := (groups_snoc_of_full input.beat full).2
  have errors := tracks.errors_snoc input.beat
  constructor
  · constructor
    · have wraps : BitVec.ofNat 3 (accepted.length + 1) = 0#3 := by
        rw [BitVec.ofNat_add, ← tracks.index, atSeven]
        decide
      simp [PacketParser.next, fire, closeBeat, atSeven, wraps]
    · rw [emptied]
      simp [PacketParser.next, fire, closeBeat, atSeven]
    · rw [emptied]
      intro position within
      simp at within
  · constructor
    · simp
    · rintro beats ⟨rfl⟩
      rw [errors]
      simp [PacketParser.next, fire, closeBeat, atSeven, Input.beat]
    · rintro beats ⟨rfl⟩
      rw [errors]
      simp [PacketParser.next, fire, closeBeat, atSeven, Input.beat]
    · rintro beats ⟨rfl⟩
      rw [errors]
      simp [PacketParser.next, fire, closeBeat, atSeven, Input.beat, imp_iff_not_or]
    · rintro beats ⟨rfl⟩
      refine ⟨by simp [last], ?_⟩
      intro position within
      simpa [PacketParser.next, fire, Input.beat]
        using tracks.stores_snoc input.beat position within

/-- One clock: the invariant follows the accepted beats, and the outputs of the
next cycle report the group that this cycle completed. -/
theorem Tracks.next (tracks : Tracks tlastPerPacket state accepted) (input : Input) :
    Tracks tlastPerPacket (next tlastPerPacket true state input)
        (accepted ++ (acceptedBeat state input).toList) ∧
      Reports tlastPerPacket (next tlastPerPacket true state input)
        (completedBy accepted (acceptedBeat state input)) := by
  cases fire : axisFire state input with
  | false => simpa [acceptedBeat, fire, completedBy] using tracks.next_idle fire
  | true =>
      by_cases last : (remainder 8 accepted).length = 7
      · simpa [acceptedBeat, fire, completedBy, last] using tracks.next_last fire last
      · simpa [acceptedBeat, fire, completedBy, last] using tracks.next_inside fire last

section Run

variable (tlastPerPacket : Bool) (initial : State) (input : Nat → Input)

/-- The parser's registers in every cycle of a run without reset. -/
def run (cycle : Nat) : State :=
  Clocked.stateAt (PacketParser.next tlastPerPacket true) initial input cycle

/-- The beat accepted in one cycle of a run. -/
def beatAt (cycle : Nat) : Option Beat :=
  acceptedBeat (run tlastPerPacket initial input cycle) (input cycle)

/-- The beats accepted before a cycle. -/
def acceptedBefore (cycle : Nat) : List Beat :=
  Clocked.seen (beatAt tlastPerPacket initial input) cycle

/-- The group completed by the beat accepted in one cycle. -/
def completedAt (cycle : Nat) : Option (List Beat) :=
  completedBy (acceptedBefore tlastPerPacket initial input cycle)
    (beatAt tlastPerPacket initial input cycle)

/-- The groups completed so far are the complete groups of the accepted beats. -/
theorem seen_completedAt (cycle : Nat) :
    Clocked.seen (completedAt tlastPerPacket initial input) cycle =
      groups 8 (acceptedBefore tlastPerPacket initial input cycle) := by
  induction cycle with
  | zero => simp [acceptedBefore]
  | succ cycle ih =>
      have grown : acceptedBefore tlastPerPacket initial input (cycle + 1) =
          acceptedBefore tlastPerPacket initial input cycle ++
            (beatAt tlastPerPacket initial input cycle).toList := Clocked.seen_succ _ _
      rw [Clocked.seen_succ, ih, grown, groups_append_accepted]
      rfl

variable {initial}

/-- Started between two packets, the parser tracks the accepted beats in every cycle. -/
theorem tracks_run (boundary : AtBoundary initial) (cycle : Nat) :
    Tracks tlastPerPacket (run tlastPerPacket initial input cycle)
      (acceptedBefore tlastPerPacket initial input cycle) := by
  induction cycle with
  | zero => exact Tracks.start boundary
  | succ cycle ih =>
      have step := (ih.next (input cycle)).1
      rwa [acceptedBefore, Clocked.seen_succ]

/-- Each cycle's completion outputs report the group completed in the cycle before. -/
theorem reports_run (boundary : AtBoundary initial) (cycle : Nat) :
    Reports tlastPerPacket (run tlastPerPacket initial input (cycle + 1))
      (completedAt tlastPerPacket initial input cycle) :=
  ((tracks_run tlastPerPacket input boundary cycle).next (input cycle)).2

/-- A completed group is the eighth beat after an aligned boundary. -/
theorem length_of_completedAt {cycle : Nat} {group : List Beat}
    (completed : completedAt tlastPerPacket initial input cycle = some group) :
    (acceptedBefore tlastPerPacket initial input cycle).length % 8 = 7 ∧
      (acceptedBefore tlastPerPacket initial input (cycle + 1)).length =
        (acceptedBefore tlastPerPacket initial input cycle).length + 1 := by
  unfold completedAt at completed
  cases fired : beatAt tlastPerPacket initial input cycle with
  | none => simp [fired, completedBy] at completed
  | some beat =>
      by_cases full : (remainder 8 (acceptedBefore tlastPerPacket initial input cycle)).length = 7
      · refine ⟨by rw [← length_remainder]; exact full, ?_⟩
        rw [acceptedBefore, Clocked.seen_succ, fired]
        simp [acceptedBefore]
      · simp [fired, completedBy, full] at completed

/-- No two completions are fewer than eight cycles apart. -/
theorem completedAt_spaced {early late : Nat} (ordered : early < late) (near : late < early + 8)
    {group : List Beat} (completed : completedAt tlastPerPacket initial input early = some group) :
    completedAt tlastPerPacket initial input late = none := by
  cases again : completedAt tlastPerPacket initial input late with
  | none => rfl
  | some other =>
      have first := length_of_completedAt tlastPerPacket input completed
      have second := (length_of_completedAt tlastPerPacket input again).1
      have grows := (Clocked.seen_mono (beatAt tlastPerPacket initial input)
        (show early + 1 ≤ late from ordered)).length_le
      have bounded := Clocked.length_seen_le (beatAt tlastPerPacket initial input)
        (show early + 1 ≤ late from ordered)
      simp only [acceptedBefore] at first second
      omega

end Run

end HftPipeline.Rtl.PacketParser
