import HftPipeline.Std.Arrivals
import HftPipeline.Host.Datagram

/-!
# What a stream test accounts for

The purpose of both stream receivers, without counters and byte maps: a
`STREAM_START` in range opens a stream for its sender and forgets the one before,
the quotes of that sender are remembered by their sequence numbers, everything
else that is addressed to the running stream is counted as invalid, and a
`STREAM_END` of the sender closes the stream with a summary.
-/

namespace HftPipeline.Host

open HftPipeline.Std HftPipeline.Wire

/-- The largest stream that a `STREAM_START` may announce. -/
def largestStream : Nat := 10000000

/-- What a datagram asks for, whoever sends it. -/
inductive Request where
  | invalid
  | ignored
  | start (targetPps durationMs planned : Nat) (rate : targetPps < 2 ^ 32)
      (bounded : planned ≤ largestStream)
  | finish (quantity sequence : Nat) (range : quantity < 2 ^ 32 ∧ sequence < 2 ^ 32)
  | quote (sequence : Nat) (range : sequence < 2 ^ 32)
deriving DecidableEq

/-- The request of a packet. -/
def requestOf (payload : Payload) : Request :=
  let fields := unpack payload
  have fits := unpack_fits payload
  if fields.magic ≠ magicBytes ∨ fields.version ≠ 1 then .invalid
  else if fields.messageType = messageStreamStart then
    if announced : 1 ≤ fields.instrumentId ∧ 1 ≤ fields.priceTicks ∧ 1 ≤ fields.quantity ∧
        fields.quantity ≤ largestStream then
      .start fields.instrumentId fields.priceTicks fields.quantity fits.instrumentId
        announced.2.2.2
    else .ignored
  else if fields.messageType = messageStreamEnd then
    .finish fields.quantity fields.sequence ⟨fits.quantity, fits.sequence⟩
  else if fields.messageType = messageQuoteUpdate ∧ (fields.side = 0 ∨ fields.side = 1) ∧
      fields.reserved = 0 then
    .quote fields.sequence fits.sequence
  else .invalid

/-- The request of a datagram. -/
def request (datagram : Datagram) : Request :=
  match datagramPayload datagram with
  | none => .invalid
  | some payload => requestOf payload

/-- Whether a datagram is a `STREAM_START` in range. -/
def opensStream (datagram : Datagram) : Bool :=
  match request datagram with
  | .start _ _ _ _ _ => true
  | _ => false

/-- A stream since its `STREAM_START`: the sequence numbers of the well-formed quotes
of its sender in the order of arrival, and the number of invalid datagrams. -/
structure Stream where
  targetPps : Nat
  planned : Nat
  quotes : List Nat
  invalid : Nat
  rate : targetPps < 2 ^ 32
  bounded : planned ≤ largestStream
  inside : ∀ quote ∈ quotes, 1 ≤ quote ∧ quote ≤ planned

namespace Stream

/-- The stream before the first `STREAM_START`. -/
def empty : Stream := ⟨0, 0, [], 0, by decide, by decide, by simp⟩

/-- A stream without any arrival. -/
def opened (targetPps planned : Nat) (rate : targetPps < 2 ^ 32)
    (bounded : planned ≤ largestStream) : Stream :=
  ⟨targetPps, planned, [], 0, rate, bounded, by simp⟩

/-- One more well-formed quote. -/
def record (stream : Stream) (sequence : Nat) (within : 1 ≤ sequence ∧ sequence ≤ stream.planned) :
    Stream :=
  { stream with
    quotes := stream.quotes ++ [sequence]
    inside := by
      intro quote member
      rcases List.mem_append.mp member with earlier | now
      · exact stream.inside quote earlier
      · rw [List.mem_singleton.mp now]
        exact within }

/-- One more invalid datagram. -/
def reject (stream : Stream) : Stream := { stream with invalid := stream.invalid + 1 }

/-- How often a quote has repeated an earlier one. -/
def repeated (stream : Stream) : Nat := stream.quotes.length - Arrivals.distinct stream.quotes

/-- Every quote either is a new one or repeats an earlier one. -/
theorem repeated_record (stream : Stream) {sequence : Nat}
    (within : 1 ≤ sequence ∧ sequence ≤ stream.planned) :
    (stream.record sequence within).repeated =
      if sequence ∈ stream.quotes then stream.repeated + 1 else stream.repeated := by
  have bound := Arrivals.distinct_le_length stream.quotes
  simp only [repeated, record, Arrivals.distinct_snoc, List.length_append, List.length_singleton]
  split_ifs <;> omega

/-- No more distinct quotes are counted than planned. -/
theorem distinct_le_planned (stream : Stream) : Arrivals.distinct stream.quotes ≤ stream.planned :=
  Arrivals.distinct_le stream.inside

/-- No sequence number is above the planned count. -/
theorem highest_le_planned (stream : Stream) : Arrivals.highest stream.quotes ≤ stream.planned :=
  Arrivals.highest_le stream.inside

/-- Nothing is wrong with a stream of the claimed length exactly when its quotes are
the planned ones in order and no datagram was invalid. -/
def Intact (stream : Stream) (actualSent : Nat) : Prop :=
  actualSent = stream.planned ∧ stream.invalid = 0 ∧ stream.quotes = List.range' 1 stream.planned

/-- The five counts of a stream show no fault exactly when it is intact. -/
theorem intact_iff (stream : Stream) (actualSent : Nat) :
    (actualSent = stream.planned ∧ actualSent - Arrivals.distinct stream.quotes = 0 ∧
        stream.invalid = 0 ∧ stream.repeated = 0 ∧ Arrivals.late stream.quotes = 0) ↔
      stream.Intact actualSent := by
  have clean := Arrivals.clean_iff stream.inside
  constructor
  · rintro ⟨whole, missing, invalid, once, ordered⟩
    refine ⟨whole, invalid, clean.mp ⟨?_, once, ordered⟩⟩
    omega
  · rintro ⟨whole, invalid, sequence⟩
    obtain ⟨all, once, ordered⟩ := clean.mpr sequence
    exact ⟨whole, by omega, invalid, once, ordered⟩

end Stream

/-- The length that a `STREAM_END` claims, with the announced one as the last resort. -/
def resolveSent (quantity sequence planned : Nat) : Nat :=
  if 1 ≤ quantity ∧ quantity ≤ planned then quantity
  else if 1 ≤ sequence ∧ sequence ≤ planned then sequence
  else planned

/-- A claimed length is at most the planned count. -/
theorem resolveSent_le (quantity sequence planned : Nat) :
    resolveSent quantity sequence planned ≤ planned := by
  unfold resolveSent
  split_ifs <;> omega

/-- What has happened so far: the sender of the running stream, the running or last
stream, and the closed streams with the length that was claimed for each. -/
structure Account where
  sender : Option Address
  stream : Stream
  closed : List (Stream × Nat)

namespace Account

def initial : Account := ⟨none, .empty, []⟩

/-- A running stream counts an invalid datagram. -/
def reject (account : Account) : Account :=
  if account.sender.isSome then { account with stream := account.stream.reject } else account

/-- The account after the request of a sender. -/
def handle (account : Account) (sender : Address) : Request → Account
  | .invalid => account.reject
  | .ignored => account
  | .start targetPps _ planned rate bounded =>
      { account with
        sender := some sender
        stream := .opened targetPps planned rate bounded }
  | .finish quantity sequence _ =>
      if account.sender = some sender then
        { account with
          sender := none
          closed := account.closed ++
            [(account.stream, resolveSent quantity sequence account.stream.planned)] }
      else account
  | .quote sequence _ =>
      if counted : account.sender = some sender ∧ 1 ≤ sequence ∧
          sequence ≤ account.stream.planned then
        { account with stream := account.stream.record sequence counted.2 }
      else account.reject

/-- The account after one more datagram. -/
def next (account : Account) (datagram : Datagram) : Account :=
  account.handle datagram.sender (request datagram)

/-- The account of a list of datagrams. -/
def after (datagrams : List Datagram) : Account := datagrams.foldl next initial

/-- A further datagram is the next step of the account. -/
theorem after_snoc (datagrams : List Datagram) (datagram : Datagram) :
    after (datagrams ++ [datagram]) = (after datagrams).next datagram := by
  rw [after, List.foldl_append]
  rfl

end Account

/-- The sequence number of a well-formed quote of the sender. -/
def quoteFrom (sender : Address) (planned : Nat) (datagram : Datagram) : Option Nat :=
  match request datagram with
  | .quote sequence _ =>
      if datagram.sender = sender ∧ 1 ≤ sequence ∧ sequence ≤ planned then some sequence else none
  | _ => none

/-- Whether the stream of the sender counts a datagram as invalid. -/
def countsInvalid (sender : Address) (planned : Nat) (datagram : Datagram) : Bool :=
  match request datagram with
  | .invalid => true
  | .quote _ _ => (quoteFrom sender planned datagram).isNone
  | _ => false

/-- Whether a datagram closes the stream of the sender or puts another in its place. -/
def replaces (sender : Address) (datagram : Datagram) : Bool :=
  match request datagram with
  | .start _ _ _ _ _ => true
  | .finish _ _ _ => datagram.sender == sender
  | _ => false

/-- The stream of the sender is running: it was started, nothing has replaced it, and
it holds the quotes and the invalid datagrams since its start. -/
def Stream.RunningIn (stream : Stream) (datagrams : List Datagram) (sender : Address) : Prop :=
  ∃ earlier start later, datagrams = earlier ++ start :: later ∧ start.sender = sender ∧
    (∃ durationMs, request start =
      .start stream.targetPps durationMs stream.planned stream.rate stream.bounded) ∧
    (∀ datagram ∈ later, replaces sender datagram = false) ∧
    stream.quotes = later.filterMap (quoteFrom sender stream.planned) ∧
    stream.invalid = later.countP (countsInvalid sender stream.planned)

/-- A datagram that does not replace the stream adds its quote, or one invalid datagram. -/
theorem Stream.RunningIn.snoc {datagrams : List Datagram} {sender : Address} {stream : Stream}
    (running : stream.RunningIn datagrams sender) {datagram : Datagram}
    (goesOn : replaces sender datagram = false) {next : Stream}
    (announced : next.targetPps = stream.targetPps ∧ next.planned = stream.planned)
    (quotes : next.quotes = stream.quotes ++ (quoteFrom sender stream.planned datagram).toList)
    (invalid : next.invalid =
      stream.invalid + (countsInvalid sender stream.planned datagram).toNat) :
    next.RunningIn (datagrams ++ [datagram]) sender := by
  obtain ⟨earlier, start, later, rfl, own, opens, kept, earlierQuotes, earlierInvalid⟩ := running
  obtain ⟨targetPps, planned, _, _, _, _, _⟩ := next
  obtain ⟨rfl, rfl⟩ : targetPps = stream.targetPps ∧ planned = stream.planned := announced
  refine ⟨earlier, start, later ++ [datagram], by simp, own, opens, ?_, ?_, ?_⟩
  · intro other member
    rcases List.mem_append.mp member with before | now
    · exact kept other before
    · rw [List.mem_singleton.mp now, goesOn]
  · rw [List.filterMap_append, ← earlierQuotes, List.filterMap_cons, List.filterMap_nil]
    refine quotes.trans ?_
    cases quoteFrom sender stream.planned datagram <;> rfl
  · rw [List.countP_append, ← earlierInvalid, List.countP_singleton]
    refine invalid.trans ?_
    cases countsInvalid sender stream.planned datagram <;> rfl

namespace Account

/-- The running stream of the account is running in the datagrams. -/
theorem runningIn {datagrams : List Datagram} {sender : Address}
    (running : (after datagrams).sender = some sender) :
    (after datagrams).stream.RunningIn datagrams sender := by
  induction datagrams using List.reverseRecOn with
  | nil => cases running
  | append_singleton datagrams datagram ih =>
      rw [after_snoc] at running ⊢
      unfold next at running ⊢
      generalize after datagrams = account at ih running ⊢
      cases requested : request datagram with
      | invalid =>
          rw [requested] at running
          by_cases active : account.sender.isSome
          · rw [handle, reject, if_pos active] at running ⊢
            exact (ih running).snoc (by simp [replaces, requested]) ⟨rfl, rfl⟩
              (by simp [Stream.reject, quoteFrom, requested])
              (by simp [Stream.reject, countsInvalid, requested])
          · rw [handle, reject, if_neg active] at running
            simp [running] at active
      | ignored =>
          rw [requested] at running
          exact (ih running).snoc (by simp [replaces, requested]) ⟨rfl, rfl⟩
            (by simp [handle, quoteFrom, requested]) (by simp [handle, countsInvalid, requested])
      | start targetPps durationMs planned rate bounded =>
          rw [requested] at running
          exact ⟨datagrams, datagram, [], rfl, Option.some.inj running, ⟨durationMs, requested⟩,
            by simp, rfl, rfl⟩
      | finish quantity sequence range =>
          rw [requested] at running
          by_cases own : account.sender = some datagram.sender
          · rw [handle, if_pos own] at running
            cases running
          · rw [handle, if_neg own] at running ⊢
            have foreign : datagram.sender ≠ sender :=
              fun same => own (running.trans (by rw [same]))
            exact (ih running).snoc (by simp [replaces, requested, foreign]) ⟨rfl, rfl⟩
              (by simp [quoteFrom, requested]) (by simp [countsInvalid, requested])
      | quote sequence range =>
          rw [requested] at running
          by_cases counted : account.sender = some datagram.sender ∧ 1 ≤ sequence ∧
              sequence ≤ account.stream.planned
          · rw [handle, dif_pos counted] at running ⊢
            have own : datagram.sender = sender := Option.some.inj (counted.1.symm.trans running)
            have quote : quoteFrom sender account.stream.planned datagram = some sequence := by
              simp [quoteFrom, requested, own, counted.2]
            exact (ih running).snoc (by simp [replaces, requested]) ⟨rfl, rfl⟩
              (by simp [Stream.record, quote])
              (by simp [Stream.record, countsInvalid, requested, quote])
          · rw [handle, dif_neg counted, reject] at running ⊢
            by_cases active : account.sender.isSome
            · rw [if_pos active] at running ⊢
              have refused : quoteFrom sender account.stream.planned datagram = none := by
                simp only [quoteFrom, requested]
                rw [if_neg]
                rintro ⟨own, within⟩
                exact counted ⟨own ▸ running, within⟩
              exact (ih running).snoc (by simp [replaces, requested]) ⟨rfl, rfl⟩
                (by simp [Stream.reject, refused])
                (by simp [Stream.reject, countsInvalid, requested, refused])
            · rw [if_neg active] at running
              simp [running] at active

/-- One datagram adds at most one to what the stream holds. -/
theorem next_size (account : Account) (datagram : Datagram) :
    (account.next datagram).stream.quotes.length + (account.next datagram).stream.invalid ≤
      account.stream.quotes.length + account.stream.invalid + 1 := by
  have rejected : account.reject.stream.quotes.length + account.reject.stream.invalid ≤
      account.stream.quotes.length + account.stream.invalid + 1 := by
    by_cases active : account.sender.isSome
    · rw [reject, if_pos active]
      exact Nat.le_refl _
    · rw [reject, if_neg active]
      omega
  unfold next
  cases request datagram with
  | invalid => exact rejected
  | ignored => exact Nat.le_succ _
  | start targetPps durationMs planned rate bounded => exact Nat.zero_le _
  | finish quantity sequence range =>
      by_cases own : account.sender = some datagram.sender
      · rw [handle, if_pos own]
        exact Nat.le_succ _
      · rw [handle, if_neg own]
        exact Nat.le_succ _
  | quote sequence range =>
      by_cases counted : account.sender = some datagram.sender ∧ 1 ≤ sequence ∧
          sequence ≤ account.stream.planned
      · rw [handle, dif_pos counted]
        simp only [Stream.record, List.length_append, List.length_singleton]
        omega
      · rw [handle, dif_neg counted]
        exact rejected

/-- A stream holds at most as many quotes and invalid datagrams as have arrived. -/
theorem size_le (datagrams : List Datagram) :
    (after datagrams).stream.quotes.length + (after datagrams).stream.invalid ≤
      datagrams.length := by
  induction datagrams using List.reverseRecOn with
  | nil => exact Nat.le_refl _
  | append_singleton datagrams datagram ih =>
      have grown := next_size (after datagrams) datagram
      rw [after_snoc, List.length_append, List.length_singleton]
      omega

/-- One datagram closes at most the stream of the account. -/
theorem next_closed (account : Account) (datagram : Datagram) :
    (account.next datagram).closed = account.closed ∨
      ∃ sent ≤ account.stream.planned,
        (account.next datagram).closed = account.closed ++ [(account.stream, sent)] := by
  have rejected : account.reject.closed = account.closed := by
    unfold reject
    split_ifs <;> rfl
  unfold next
  cases request datagram with
  | invalid => exact Or.inl rejected
  | ignored => exact Or.inl rfl
  | start targetPps durationMs planned rate bounded => exact Or.inl rfl
  | finish quantity sequence range =>
      by_cases own : account.sender = some datagram.sender
      · refine Or.inr ⟨_, resolveSent_le quantity sequence account.stream.planned, ?_⟩
        rw [handle, if_pos own]
      · exact Or.inl (by rw [handle, if_neg own])
  | quote sequence range =>
      left
      by_cases counted : account.sender = some datagram.sender ∧ 1 ≤ sequence ∧
          sequence ≤ account.stream.planned
      · rw [handle, dif_pos counted]
      · rw [handle, dif_neg counted, rejected]

/-- Every closed stream was the stream of the account at an earlier datagram. -/
theorem closed_earlier {datagrams : List Datagram} {stream : Stream} {sent : Nat}
    (member : (stream, sent) ∈ (after datagrams).closed) :
    ∃ count, (after (datagrams.take count)).stream = stream ∧ sent ≤ stream.planned := by
  induction datagrams using List.reverseRecOn with
  | nil => cases member
  | append_singleton datagrams datagram ih =>
      have before (known : (stream, sent) ∈ (after datagrams).closed) :
          ∃ count, (after ((datagrams ++ [datagram]).take count)).stream = stream ∧
            sent ≤ stream.planned := by
        obtain ⟨count, same, atMost⟩ := ih known
        refine ⟨min count datagrams.length, ?_, atMost⟩
        rw [List.take_append_of_le_length (min_le_right _ _), ← List.take_eq_take_min]
        exact same
      rw [after_snoc] at member
      rcases next_closed (after datagrams) datagram with same | ⟨length, atMost, closed⟩
      · rw [same] at member
        exact before member
      · rw [closed] at member
        rcases List.mem_append.mp member with known | now
        · exact before known
        · cases List.mem_singleton.mp now
          refine ⟨datagrams.length, ?_, atMost⟩
          rw [List.take_left]

end Account

/-- The byte map of a stream: one byte for each number up to the planned count. -/
def bitmap (planned : Nat) (quotes : List Nat) : List Byte :=
  (List.range (planned + 1)).map fun number => if number ∈ quotes then 1#8 else 0#8

/-- The bitmap has a byte for every planned number and one for zero. -/
@[simp] theorem length_bitmap (planned : Nat) (quotes : List Nat) :
    (bitmap planned quotes).length = planned + 1 := by
  simp [bitmap]

/-- Before the first quote the bitmap is all zeros. -/
theorem bitmap_nil (planned : Nat) : bitmap planned [] = List.replicate (planned + 1) 0#8 := by
  simp [bitmap]

/-- Inside the map, a byte tells whether its number has arrived. -/
theorem bitmap_getElem? {planned number : Nat} (quotes : List Nat) (inside : number ≤ planned) :
    (bitmap planned quotes)[number]? = some (if number ∈ quotes then 1#8 else 0#8) := by
  have bound : number < planned + 1 := by omega
  simp [bitmap, bound]

/-- Marking a number records its arrival. -/
theorem bitmap_set {planned number : Nat} (quotes : List Nat) :
    (bitmap planned quotes).set number 1#8 = bitmap planned (quotes ++ [number]) := by
  apply List.ext_getElem
  · simp
  · intro place inside within
    simp only [bitmap, List.getElem_set, List.getElem_map, List.getElem_range, List.mem_append,
      List.mem_singleton]
    by_cases here : number = place
    · simp [here]
    · simp [here, Ne.symm here]

/-- The lookup of a number in a byte map, with the map to be marked when its byte is not
set, and the given error without a map or behind its end. -/
def lookUp {Error : Type} (raised : Error) (seen : Option (List Byte)) (number : Nat) :
    Except Error (Option (List Byte)) :=
  match seen with
  | none => .error raised
  | some seen =>
      match seen[number]? with
      | none => .error raised
      | some mark => .ok (if mark ≠ 0#8 then none else some seen)

/-- A second arrival marks nothing new. -/
theorem bitmap_seen {planned number : Nat} {quotes : List Nat} (seen : number ∈ quotes) :
    bitmap planned (quotes ++ [number]) = bitmap planned quotes := by
  unfold bitmap
  apply List.map_congr_left
  intro other _
  by_cases same : other = number
  · simp [same, seen]
  · simp [same]

namespace Stream

variable (stream : Stream) {sequence : Nat}
  (within : 1 ≤ sequence ∧ sequence ≤ stream.planned)

/-- A quote that repeats an earlier one counts as repeated and changes nothing else. -/
theorem record_seen (seen : sequence ∈ stream.quotes) :
    Arrivals.distinct (stream.record sequence within).quotes = Arrivals.distinct stream.quotes ∧
      Arrivals.late (stream.record sequence within).quotes = Arrivals.late stream.quotes ∧
      Arrivals.highest (stream.record sequence within).quotes = Arrivals.highest stream.quotes ∧
      (stream.record sequence within).repeated = stream.repeated + 1 ∧
      bitmap stream.planned (stream.record sequence within).quotes =
        bitmap stream.planned stream.quotes := by
  refine ⟨?_, ?_, ?_, ?_, bitmap_seen seen⟩
  · rw [record, Arrivals.distinct_snoc, if_pos seen]
  · rw [record, Arrivals.late_snoc, if_neg fun both => both.1 seen]
  · rw [record, Arrivals.highest_snoc, max_eq_left (Arrivals.le_highest seen)]
  · rw [repeated_record, if_pos seen]

/-- A new quote counts once, and as late when a greater one came before. -/
theorem record_first (new : sequence ∉ stream.quotes) :
    Arrivals.distinct (stream.record sequence within).quotes =
        Arrivals.distinct stream.quotes + 1 ∧
      Arrivals.late (stream.record sequence within).quotes =
        (if sequence < Arrivals.highest stream.quotes then Arrivals.late stream.quotes + 1
          else Arrivals.late stream.quotes) ∧
      Arrivals.highest (stream.record sequence within).quotes =
        (if sequence > Arrivals.highest stream.quotes then sequence
          else Arrivals.highest stream.quotes) ∧
      (stream.record sequence within).repeated = stream.repeated ∧
      bitmap stream.planned (stream.record sequence within).quotes =
        (bitmap stream.planned stream.quotes).set sequence 1#8 := by
  refine ⟨?_, ?_, ?_, ?_, (bitmap_set stream.quotes).symm⟩
  · rw [record, Arrivals.distinct_snoc, if_neg new]
  · simp only [record, Arrivals.late_snoc, new, not_false_eq_true, true_and]
  · rw [record, Arrivals.highest_snoc]
    split_ifs <;> omega
  · rw [repeated_record, if_neg new]

end Stream

/-- The marked bytes are as many as the different numbers. -/
theorem countP_bitmap {planned : Nat} {quotes : List Nat}
    (inside : ∀ quote ∈ quotes, 1 ≤ quote ∧ quote ≤ planned) :
    (bitmap planned quotes).countP (· ≠ 0#8) = Arrivals.distinct quotes := by
  have marks : (fun number => decide ((if number ∈ quotes then 1#8 else 0#8) ≠ 0#8)) =
      fun number => decide (number ∈ quotes) := by
    ext number
    by_cases seen : number ∈ quotes <;> simp [seen]
  have once : ((List.range (planned + 1)).filter fun number => decide (number ∈ quotes)).Nodup :=
    List.nodup_range.filter _
  rw [bitmap, List.countP_map, List.countP_eq_length_filter, Function.comp_def, marks,
    ← List.toFinset_card_of_nodup once, Arrivals.distinct]
  congr 1
  ext number
  simp only [List.mem_toFinset, List.mem_filter, List.mem_range, decide_eq_true_eq]
  constructor
  · exact And.right
  · intro member
    have bound := inside number member
    exact ⟨by omega, member⟩

end HftPipeline.Host
