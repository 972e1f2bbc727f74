import HftPipeline.Host.StreamAccount
import HftPipeline.Host.PacedReceiver

/-!
# What a paced stream test accounts for

The purpose of the receiver of the paced sender, without counters and byte maps. It
keeps a stream as the other receivers do, but the control types are its own, the flags
of a quote do not matter, and a stream also ends by two seconds of silence: an active
stream remembers when its last datagram was counted.
-/

namespace HftPipeline.Host.PacedReceiver

open HftPipeline.Std HftPipeline.Wire

/-- The rate field has 32 bits. -/
theorem rate_range (payload : Payload) : (unpack payload).instrumentId < 2 ^ 32 :=
  (unpack_fits payload).instrumentId

/-- The sequence field has 32 bits. -/
theorem quote_range (payload : Payload) : (unpack payload).sequence < 2 ^ 32 :=
  (unpack_fits payload).sequence

/-- Both fields of an END have 32 bits. -/
theorem finish_range (payload : Payload) :
    (unpack payload).quantity < 2 ^ 32 ∧ (unpack payload).sequence < 2 ^ 32 :=
  ⟨(unpack_fits payload).quantity, (unpack_fits payload).sequence⟩

/-- An announced stream is not longer than the byte map. -/
theorem announced_bounded {payload : Payload}
    (announced : 1 ≤ (unpack payload).instrumentId ∧ 1 ≤ (unpack payload).priceTicks ∧
      1 ≤ (unpack payload).quantity ∧ (unpack payload).quantity ≤ largestStream) :
    (unpack payload).quantity ≤ largestStream :=
  announced.2.2.2

/-- The request of a packet to this receiver. -/
def requestOf (payload : Payload) : Request :=
  let fields := unpack payload
  if fields.magic ≠ magicBytes ∨ fields.version ≠ 1 then .invalid
  else if fields.messageType = controlStart then
    if announced : 1 ≤ fields.instrumentId ∧ 1 ≤ fields.priceTicks ∧ 1 ≤ fields.quantity ∧
        fields.quantity ≤ largestStream then
      .start fields.instrumentId fields.priceTicks fields.quantity (rate_range payload)
        (announced_bounded announced)
    else .ignored
  else if fields.messageType = controlEnd then
    .finish fields.quantity fields.sequence (finish_range payload)
  else if fields.messageType = messageQuote ∧ (fields.side = 0 ∨ fields.side = 1) then
    .quote fields.sequence (quote_range payload)
  else .invalid

/-- The request of a datagram. -/
def request (datagram : Datagram) : Request :=
  match datagramPayload datagram with
  | none => .invalid
  | some payload => requestOf payload

/-- A closed stream, the length that counts as sent, and whether silence closed it. -/
structure Closing where
  stream : Stream
  packetsSent : Nat
  timedOut : Bool

/-- What has happened so far: the sender of the running stream, the running or last
stream with the time of its last counted datagram, and the closed streams. -/
structure Account where
  sender : Option Address
  stream : Stream
  lastActivity : Option ℚ
  closed : List Closing

namespace Account

def initial : Account := ⟨none, .empty, none, []⟩

/-- A running stream counts an invalid datagram. -/
def reject (account : Account) (now : ℚ) : Account :=
  if account.sender.isSome then
    { account with
      stream := account.stream.reject
      lastActivity := some now }
  else account

/-- The running stream is closed. -/
def close (account : Account) (packetsSent : Nat) (timedOut : Bool) : Account :=
  { account with
    sender := none
    closed := account.closed ++ [⟨account.stream, packetsSent, timedOut⟩] }

/-- The account after the request of a sender. -/
def handle (account : Account) (sender : Address) (now : ℚ) : Request → Account
  | .invalid => account.reject now
  | .ignored => account
  | .start targetPps _ planned rate bounded =>
      { account with
        sender := some sender
        stream := .opened targetPps planned rate bounded
        lastActivity := some now }
  | .finish quantity _ _ =>
      if account.sender = some sender then
        { account with lastActivity := some now }.close (min quantity account.stream.planned) false
      else account
  | .quote sequence _ =>
      if counted : account.sender = some sender ∧ 1 ≤ sequence ∧
          sequence ≤ account.stream.planned then
        { account with
          stream := account.stream.record sequence counted.2
          lastActivity := some now }
      else account.reject now

/-- Whether the running stream has been silent for too long. -/
def Silent (account : Account) (now : ℚ) : Prop :=
  account.sender.isSome ∧ ∃ last ∈ account.lastActivity, now - last ≥ inactivityTimeoutSeconds

instance (account : Account) (now : ℚ) : Decidable (account.Silent now) :=
  inferInstanceAs (Decidable (_ ∧ _))

/-- The account after an event. -/
def next (account : Account) : Event → Account
  | .timeout now =>
      if account.Silent now then account.close account.stream.planned true else account
  | .received arrival now =>
      account.handle arrival.datagram.sender now (request arrival.datagram)

/-- The account after all events. -/
def after (events : List Event) : Account := events.foldl next initial

/-- A further event is the next step of the account. -/
theorem after_snoc (events : List Event) (event : Event) :
    after (events ++ [event]) = (after events).next event := by
  rw [after, List.foldl_append]
  rfl

end Account

/-- The sequence number of a well-formed quote of the sender. -/
def quoteFrom (sender : Address) (planned : Nat) : Event → Option Nat
  | .timeout _ => none
  | .received arrival _ =>
      match request arrival.datagram with
      | .quote sequence _ =>
          if arrival.datagram.sender = sender ∧ 1 ≤ sequence ∧ sequence ≤ planned then some sequence
          else none
      | _ => none

/-- Whether the stream of the sender counts an event as an invalid datagram. -/
def countsInvalid (sender : Address) (planned : Nat) : Event → Bool
  | .timeout _ => false
  | .received arrival now =>
      match request arrival.datagram with
      | .invalid => true
      | .quote _ _ => (quoteFrom sender planned (.received arrival now)).isNone
      | _ => false

/-- The time of the last counted datagram behind an event, given the one before it. -/
def lastBehind (sender : Address) (planned : Nat) (last : ℚ) : Event → ℚ
  | .timeout _ => last
  | .received arrival now =>
      if (quoteFrom sender planned (.received arrival now)).isSome ∨
          countsInvalid sender planned (.received arrival now) = true then now
      else last

/-- Whether an event closes the stream of the sender or puts another in its place: a
`START` in range does, an `END` of the sender, and a timeout of two silent seconds. -/
def replaces (sender : Address) (last : ℚ) : Event → Bool
  | .timeout now => decide (now - last ≥ inactivityTimeoutSeconds)
  | .received arrival _ =>
      match request arrival.datagram with
      | .start _ _ _ _ _ => true
      | .finish _ _ _ => arrival.datagram.sender == sender
      | _ => false

/-- The stream of the sender is running: it was started, nothing has replaced it, it holds
the quotes and the invalid datagrams since its start, and the last one was counted then. -/
def RunsIn (events : List Event) (sender : Address) (stream : Stream) (last : ℚ) : Prop :=
  ∃ earlier start since later, events = earlier ++ .received start since :: later ∧
    start.datagram.sender = sender ∧
    (∃ durationMs, request start.datagram =
      .start stream.targetPps durationMs stream.planned stream.rate stream.bounded) ∧
    (∀ before event behind, later = before ++ event :: behind →
      replaces sender (before.foldl (lastBehind sender stream.planned) since) event = false) ∧
    stream.quotes = later.filterMap (quoteFrom sender stream.planned) ∧
    stream.invalid = later.countP (countsInvalid sender stream.planned) ∧
    last = later.foldl (lastBehind sender stream.planned) since

/-- A stream is its announcement and its arrivals. -/
theorem stream_ext {stream other : Stream} (rate : stream.targetPps = other.targetPps)
    (planned : stream.planned = other.planned) (quotes : stream.quotes = other.quotes)
    (invalid : stream.invalid = other.invalid) : stream = other := by
  cases stream
  cases other
  cases rate
  cases planned
  cases quotes
  cases invalid
  rfl

/-- A `START` in range opens a stream without any arrival. -/
theorem RunsIn.opened (events : List Event) {start : Arrival} {now : ℚ}
    {targetPps durationMs planned : Nat} {rate : targetPps < 2 ^ 32}
    {bounded : planned ≤ largestStream}
    (requested : request start.datagram = .start targetPps durationMs planned rate bounded) :
    RunsIn (events ++ [.received start now]) start.datagram.sender
      (.opened targetPps planned rate bounded) now :=
  ⟨events, start, now, [], rfl, rfl, ⟨durationMs, requested⟩, by simp, rfl, rfl, rfl⟩

/-- An event that does not replace the stream adds its quote, or one invalid datagram. -/
theorem RunsIn.snoc {events : List Event} {sender : Address} {stream : Stream} {last : ℚ}
    (runs : RunsIn events sender stream last) {event : Event}
    (goesOn : replaces sender last event = false) {next : Stream}
    (announced : next.targetPps = stream.targetPps ∧ next.planned = stream.planned)
    (quotes : next.quotes = stream.quotes ++ (quoteFrom sender stream.planned event).toList)
    (invalid : next.invalid =
      stream.invalid + (countsInvalid sender stream.planned event).toNat) :
    RunsIn (events ++ [event]) sender next (lastBehind sender stream.planned last event) := by
  obtain ⟨earlier, start, since, later, rfl, own, opens, kept, earlierQuotes,
    earlierInvalid, rfl⟩ := runs
  obtain ⟨targetPps, planned, _, _, _, _, _⟩ := next
  obtain ⟨rfl, rfl⟩ : targetPps = stream.targetPps ∧ planned = stream.planned := announced
  refine ⟨earlier, start, since, later ++ [event], by simp, own, opens, ?_, ?_, ?_, ?_⟩
  · intro before other behind split
    rcases List.eq_nil_or_concat behind with rfl | ⟨rest, final, rfl⟩
    · obtain ⟨rfl, same⟩ := List.append_inj' split rfl
      cases same
      exact goesOn
    · rw [List.concat_eq_append, ← List.cons_append, ← List.append_assoc] at split
      obtain ⟨rfl, _⟩ := List.append_inj' split rfl
      exact kept before other rest rfl
  · rw [List.filterMap_append, ← earlierQuotes, List.filterMap_cons, List.filterMap_nil]
    refine quotes.trans ?_
    cases quoteFrom sender stream.planned event <;> rfl
  · rw [List.countP_append, ← earlierInvalid, List.countP_singleton]
    refine invalid.trans ?_
    cases countsInvalid sender stream.planned event <;> rfl
  · rw [List.foldl_append]
    rfl

namespace Account

variable {account : Account} {sender : Address} {last : ℚ}

/-- A running stream is silent exactly behind two seconds without a counted datagram. -/
theorem silent_iff (running : account.sender = some sender)
    (active : account.lastActivity = some last) (now : ℚ) :
    account.Silent now ↔ now - last ≥ inactivityTimeoutSeconds := by
  simp [Silent, running, active]

/-- What an event adds to a stream that it does not replace. -/
structure GoesOn (account next : Account) (sender : Address) (last : ℚ) (event : Event) : Prop where
  owner : next.sender = some sender
  announced : next.stream.targetPps = account.stream.targetPps ∧
    next.stream.planned = account.stream.planned
  quotes : next.stream.quotes =
    account.stream.quotes ++ (quoteFrom sender account.stream.planned event).toList
  invalid : next.stream.invalid =
    account.stream.invalid + (countsInvalid sender account.stream.planned event).toNat
  lastActivity : next.lastActivity = some (lastBehind sender account.stream.planned last event)
  closed : next.closed = account.closed

/-- The invalid datagrams of a running stream. -/
theorem goesOn_reject (running : account.sender = some sender) {arrival : Arrival} {now : ℚ}
    (none : quoteFrom sender account.stream.planned (.received arrival now) = none)
    (counts : countsInvalid sender account.stream.planned (.received arrival now) = true) :
    GoesOn account (account.reject now) sender last (.received arrival now) := by
  rw [reject, if_pos (by simp [running])]
  exact
    { owner := running
      announced := ⟨rfl, rfl⟩
      quotes := by simp [Stream.reject, none]
      invalid := by simp [Stream.reject, counts]
      lastActivity := by simp [lastBehind, counts]
      closed := rfl }

/-- Every other event leaves the account alone. -/
theorem goesOn_same (running : account.sender = some sender)
    (active : account.lastActivity = some last) {event : Event}
    (none : quoteFrom sender account.stream.planned event = none)
    (passes : countsInvalid sender account.stream.planned event = false) :
    GoesOn account account sender last event where
  owner := running
  announced := ⟨rfl, rfl⟩
  quotes := by simp [none]
  invalid := by simp [passes]
  lastActivity := by
    rw [active]
    cases event with
    | timeout now => rfl
    | received arrival now => simp [lastBehind, none, passes]
  closed := rfl

/-- A running stream goes on behind every event that does not replace it. -/
theorem next_goesOn (running : account.sender = some sender)
    (active : account.lastActivity = some last) {event : Event}
    (kept : replaces sender last event = false) :
    GoesOn account (account.next event) sender last event := by
  cases event with
  | timeout now =>
      have awake : ¬ account.Silent now := by
        rw [silent_iff running active]
        simpa [replaces] using kept
      rw [next, if_neg awake]
      exact goesOn_same running active rfl rfl
  | received arrival now =>
      rw [next]
      cases requested : request arrival.datagram with
      | invalid =>
          exact goesOn_reject running (by simp [quoteFrom, requested])
            (by simp [countsInvalid, requested])
      | ignored =>
          exact goesOn_same running active (by simp [quoteFrom, requested])
            (by simp [countsInvalid, requested])
      | start targetPps durationMs planned rate bounded => simp [replaces, requested] at kept
      | finish quantity sequence range =>
          have foreign : ¬ account.sender = some arrival.datagram.sender := by
            rw [running, Option.some.injEq]
            intro same
            simp [replaces, requested, same] at kept
          rw [handle, if_neg foreign]
          exact goesOn_same running active (by simp [quoteFrom, requested])
            (by simp [countsInvalid, requested])
      | quote sequence range =>
          by_cases counted : account.sender = some arrival.datagram.sender ∧ 1 ≤ sequence ∧
              sequence ≤ account.stream.planned
          · have own : arrival.datagram.sender = sender :=
              Option.some.inj (counted.1.symm.trans running)
            have quote : quoteFrom sender account.stream.planned (.received arrival now) =
                some sequence := by
              simp [quoteFrom, requested, own, counted.2]
            rw [handle, dif_pos counted]
            exact
              { owner := running
                announced := ⟨rfl, rfl⟩
                quotes := by simp [Stream.record, quote]
                invalid := by simp [Stream.record, countsInvalid, requested, quote]
                lastActivity := by simp [lastBehind, quote]
                closed := rfl }
          · have refused : quoteFrom sender account.stream.planned (.received arrival now) =
                none := by
              simp only [quoteFrom, requested]
              rw [if_neg]
              rintro ⟨own, within⟩
              exact counted ⟨own ▸ running, within⟩
            rw [handle, dif_neg counted]
            exact goesOn_reject running refused (by simp [countsInvalid, requested, refused])

/-- A stream is running because it has just been opened, or still. -/
theorem next_running {event : Event} (running : (account.next event).sender = some sender) :
    (∃ arrival now targetPps durationMs planned rate bounded, event = .received arrival now ∧
      arrival.datagram.sender = sender ∧
      request arrival.datagram = .start targetPps durationMs planned rate bounded) ∨
      account.sender = some sender ∧
        ∀ last, account.lastActivity = some last → replaces sender last event = false := by
  cases event with
  | timeout now =>
      right
      rw [next] at running
      split_ifs at running with silent
      · cases running
      · refine ⟨running, fun last active => ?_⟩
        rw [silent_iff running active] at silent
        simpa [replaces] using silent
  | received arrival now =>
      rw [next] at running
      cases requested : request arrival.datagram with
      | invalid =>
          rw [requested, handle, reject] at running
          right
          split_ifs at running <;> exact ⟨running, fun last _ => by simp [replaces, requested]⟩
      | ignored =>
          rw [requested] at running
          exact Or.inr ⟨running, fun last _ => by simp [replaces, requested]⟩
      | start targetPps durationMs planned rate bounded =>
          rw [requested] at running
          exact Or.inl ⟨arrival, now, targetPps, durationMs, planned, rate, bounded, rfl,
            Option.some.inj running, requested⟩
      | finish quantity sequence range =>
          rw [requested, handle] at running
          right
          split_ifs at running with own
          · cases running
          · refine ⟨running, fun last _ => ?_⟩
            have foreign : arrival.datagram.sender ≠ sender := fun same => own (same ▸ running)
            simp [replaces, requested, foreign]
      | quote sequence range =>
          rw [requested, handle, reject] at running
          right
          split_ifs at running <;> exact ⟨running, fun last _ => by simp [replaces, requested]⟩

/-- The running stream of the account runs in the events. -/
theorem runsIn {events : List Event} {sender : Address}
    (running : (after events).sender = some sender) :
    ∃ last, (after events).lastActivity = some last ∧
      RunsIn events sender (after events).stream last := by
  induction events using List.reverseRecOn generalizing sender with
  | nil => cases running
  | append_singleton events event ih =>
      rw [after_snoc] at running ⊢
      rcases next_running running with
        ⟨arrival, now, targetPps, durationMs, planned, rate, bounded, rfl, rfl, requested⟩ |
        ⟨still, kept⟩
      · rw [next, requested]
        exact ⟨now, rfl, RunsIn.opened events requested⟩
      · obtain ⟨last, active, runs⟩ := ih still
        have goesOn := next_goesOn still active (kept last active)
        exact ⟨_, goesOn.lastActivity,
          runs.snoc (kept last active) goesOn.announced goesOn.quotes goesOn.invalid⟩

/-- A stream that runs in the events is the running stream of the account. -/
theorem of_runsIn {events : List Event} {stream : Stream}
    (runs : RunsIn events sender stream last) :
    (after events).sender = some sender ∧ (after events).stream = stream ∧
      (after events).lastActivity = some last := by
  obtain ⟨earlier, start, since, later, rfl, rfl, ⟨_, opens⟩, kept, quotes, invalid, rfl⟩ := runs
  have counted : (after (earlier ++ .received start since :: later)).sender =
        some start.datagram.sender ∧
      (after (earlier ++ .received start since :: later)).stream.targetPps = stream.targetPps ∧
      (after (earlier ++ .received start since :: later)).stream.planned = stream.planned ∧
      (after (earlier ++ .received start since :: later)).stream.quotes =
        later.filterMap (quoteFrom start.datagram.sender stream.planned) ∧
      (after (earlier ++ .received start since :: later)).stream.invalid =
        later.countP (countsInvalid start.datagram.sender stream.planned) ∧
      (after (earlier ++ .received start since :: later)).lastActivity =
        some (later.foldl (lastBehind start.datagram.sender stream.planned) since) := by
    clear quotes invalid
    induction later using List.reverseRecOn with
    | nil =>
        rw [after_snoc, next, opens]
        exact ⟨rfl, rfl, rfl, rfl, rfl, rfl⟩
    | append_singleton later event ih =>
        obtain ⟨own, rate, planned, quotes, invalid, active⟩ :=
          ih fun before other behind split =>
            kept before other (behind ++ [event]) (by simp [split])
        have goesOn := next_goesOn own active (kept later event [] rfl)
        rw [← List.cons_append, ← List.append_assoc, after_snoc]
        refine ⟨goesOn.owner, goesOn.announced.1.trans rate, goesOn.announced.2.trans planned,
          ?_, ?_, ?_⟩
        · rw [goesOn.quotes, quotes, planned, List.filterMap_append, List.filterMap_cons,
            List.filterMap_nil]
          cases quoteFrom start.datagram.sender stream.planned event <;> rfl
        · rw [goesOn.invalid, invalid, planned, List.countP_append, List.countP_singleton]
          cases countsInvalid start.datagram.sender stream.planned event <;> rfl
        · rw [goesOn.lastActivity, planned, List.foldl_append]
          rfl
  obtain ⟨own, sameRate, samePlanned, sameQuotes, sameInvalid, active⟩ := counted
  exact ⟨own, stream_ext sameRate samePlanned (sameQuotes.trans quotes.symm)
    (sameInvalid.trans invalid.symm), active⟩

end Account

end HftPipeline.Host.PacedReceiver
