import HftPipeline.Host.PacedReports
import HftPipeline.Host.PacedSending

/-!
# A run of the paced sender over a lossy network

The packets of a run reach the idle receiver in any way a network may deliver them: quotes
are lost, repeated and reordered, and the receive calls time out in between. The run ends
with the first end marker that arrives or, when all of them are lost, with two silent
seconds. There is one report, and its losses are exactly the quotes that never arrived.
-/

namespace HftPipeline.Host.PacedReceiver

open HftPipeline.Std HftPipeline.Wire

/-- What the receiver sees of the quotes of a run: any of them, any number of times and in
any order, with timeouts in between, but never two silent seconds. The indices are the
time before and behind the events, and the sequence numbers that arrive. -/
inductive Delivers (quotes : List Payload) (sender : Address) :
    ℚ → List Event → List Nat → ℚ → Prop where
  | nil {last : ℚ} : Delivers quotes sender last [] [] last
  | quote {last now final : ℚ} {events : List Event} {numbers : List Nat} {index : Nat}
      {payload : Payload} {allocated : Bool} (sent : quotes[index]? = some payload)
      (rest : Delivers quotes sender now events numbers final) :
      Delivers quotes sender last
        (.received ⟨datagramOf payload sender, allocated⟩ now :: events) ((index + 1) :: numbers)
        final
  | silence {last now final : ℚ} {events : List Event} {numbers : List Nat}
      (short : now - last < inactivityTimeoutSeconds)
      (rest : Delivers quotes sender last events numbers final) :
      Delivers quotes sender last (.timeout now :: events) numbers final

/-- What ends a run at the receiver, with the length that counts as sent: an end marker, or
a timeout of two seconds behind the last quote. -/
inductive Closes (stop : Payload) (sender : Address) (sent planned : Nat) (final : ℚ) :
    Event → Nat → Bool → Prop where
  | marker {now : ℚ} {allocated : Bool} :
      Closes stop sender sent planned final
        (.received ⟨datagramOf stop sender, allocated⟩ now) sent false
  | silence {now : ℚ} (long : now - final ≥ inactivityTimeoutSeconds) :
      Closes stop sender sent planned final (.timeout now) planned true

/-- What may still arrive behind the end of a run. -/
def Leftover (payloads : List Payload) (sender : Address) (event : Event) : Prop :=
  (∃ now, event = .timeout now) ∨ ∃ payload ∈ payloads, ∃ allocated now,
    event = .received ⟨datagramOf payload sender, allocated⟩ now

@[simp] theorem request_datagramOf (payload : Payload) (sender : Address) :
    request (datagramOf payload sender) = requestOf payload := by
  rw [request, datagramPayload_datagramOf]

/-- Every quote of the sender is a well-formed one. -/
theorem requestOf_quote {payload : Payload} {sequence timeNs : Nat}
    (packed : makeQuotePacket sequence timeNs = some payload) :
    ∃ range, requestOf payload = .quote sequence range := by
  have fields := unpack_pack packed
  have fits := unpack_fits payload
  rw [fields] at fits
  refine ⟨fits.sequence, ?_⟩
  simp [requestOf, fields, senderFields, messageQuoteUpdate, messageQuote, controlStart, controlEnd]

/-- The end marker claims the number of the quotes. -/
theorem requestOf_stop {arguments : Arguments} {payload : Payload} {sent timeNs : Nat}
    (packed : PacedSender.endPacket arguments sent timeNs = some payload) :
    ∃ range, requestOf payload = .finish sent sent range := by
  have fields := unpack_pack packed
  have fits := unpack_fits payload
  rw [fields] at fits
  refine ⟨⟨fits.quantity, fits.sequence⟩, ?_⟩
  simp [requestOf, fields, senderFields, controlStart, controlEnd, PacedSender.controlEnd]

/-- The start control opens the planned stream when its numbers are in range, and is
ignored otherwise. -/
theorem requestOf_startPacket {arguments : Arguments} {payload : Payload} {timeNs : Nat}
    (packed : PacedSender.startPacket arguments timeNs = some payload) :
    (validStartControl arguments.pps.toNat arguments.durationMs.toNat
        arguments.plannedPackets.toNat = true →
      ∃ rate bounded, requestOf payload =
        .start arguments.pps.toNat arguments.durationMs.toNat arguments.plannedPackets.toNat rate
          bounded) ∧
    (validStartControl arguments.pps.toNat arguments.durationMs.toNat
        arguments.plannedPackets.toNat = false → requestOf payload = .ignored) := by
  have fields := PacedSender.unpack_startPacket packed
  have fits := unpack_fits payload
  rw [fields] at fits
  rw [← Bool.not_eq_true, validStartControl_iff]
  constructor
  · intro announced
    refine ⟨fits.instrumentId, announced.2.2.2, ?_⟩
    simp [requestOf, fields, senderFields, controlStart, PacedSender.controlStart, announced]
  · intro refused
    simp only [requestOf, fields, senderFields]
    rw [dif_neg refused]
    rfl

namespace Account

variable {account : Account} {sender : Address} {quotes : List Payload}

/-- Whatever the network makes of the quotes of a run, the stream records what arrives. -/
theorem foldl_delivers {last final : ℚ} {events : List Event} {numbers : List Nat}
    (numbered : ∀ index payload, quotes[index]? = some payload →
      ∃ range, requestOf payload = .quote (index + 1) range)
    (delivers : Delivers quotes sender last events numbers final)
    (owned : account.sender = some sender) (active : account.lastActivity = some last)
    (within : quotes.length ≤ account.stream.planned) :
    (events.foldl next account).sender = some sender ∧
      (events.foldl next account).lastActivity = some final ∧
      (events.foldl next account).closed = account.closed ∧
      (events.foldl next account).stream.targetPps = account.stream.targetPps ∧
      (events.foldl next account).stream.planned = account.stream.planned ∧
      (events.foldl next account).stream.invalid = account.stream.invalid ∧
      (events.foldl next account).stream.quotes = account.stream.quotes ++ numbers := by
  induction delivers generalizing account with
  | nil => exact ⟨owned, active, rfl, rfl, rfl, rfl, by simp⟩
  | @quote last now final events numbers index payload allocated sent _ ih =>
      obtain ⟨range, requested⟩ := numbered index payload sent
      have bound := (List.getElem?_eq_some_iff.mp sent).1
      have inside : 1 ≤ index + 1 ∧ index + 1 ≤ account.stream.planned := by omega
      have stepped : account.next (.received ⟨datagramOf payload sender, allocated⟩ now) =
          { account with
            stream := account.stream.record (index + 1) inside
            lastActivity := some now } := by
        rw [next, request_datagramOf, requested, handle]
        exact dif_pos ⟨owned, inside⟩
      rw [List.foldl_cons, stepped]
      obtain ⟨own, counted, closed, rate, planned, invalid, recorded⟩ :=
        @ih { account with
          stream := account.stream.record (index + 1) inside
          lastActivity := some now } owned rfl within
      refine ⟨own, counted, closed, rate, planned, invalid, recorded.trans ?_⟩
      simp [Stream.record]
  | silence short _ ih =>
      have awake : ¬ account.Silent _ :=
        fun silent => absurd ((silent_iff owned active _).mp silent) (not_le.mpr short)
      rw [List.foldl_cons, next, if_neg awake]
      exact ih owned active within

/-- The end of a run closes its stream. -/
theorem next_closes {stop : Payload} {sent : Nat} {final : ℚ} {event : Event} {claimed : Nat}
    {timedOut : Bool} (claims : ∃ range, requestOf stop = .finish sent sent range)
    (closes : Closes stop sender sent account.stream.planned final event claimed timedOut)
    (owned : account.sender = some sender) (active : account.lastActivity = some final)
    (atMost : sent ≤ account.stream.planned) :
    (account.next event).sender = none ∧
      (account.next event).closed = account.closed ++ [⟨account.stream, claimed, timedOut⟩] := by
  cases closes with
  | marker =>
      obtain ⟨range, requested⟩ := claims
      rw [next, request_datagramOf, requested, handle]
      simp only [datagramOf, owned, if_true, close, Nat.min_eq_left atMost, and_self]
  | silence long =>
      rw [next, if_pos ((silent_iff owned active _).mpr long)]
      exact ⟨rfl, rfl⟩

/-- Behind the end of a run nothing changes any more. -/
theorem foldl_leftover {payloads : List Payload} {events : List Event}
    (closing : ∀ payload ∈ payloads, (∃ sequence range, requestOf payload = .quote sequence range) ∨
      requestOf payload = .ignored ∨
      ∃ quantity sequence range, requestOf payload = .finish quantity sequence range)
    (leftover : ∀ event ∈ events, Leftover payloads sender event) (idle : account.sender = none) :
    events.foldl next account = account := by
  induction events with
  | nil => rfl
  | cons event events ih =>
      have kept : account.next event = account := by
        rcases leftover event List.mem_cons_self with
          ⟨now, rfl⟩ | ⟨payload, member, allocated, now, rfl⟩
        · exact if_neg fun silent => by simp [Silent, idle] at silent
        · rw [next, request_datagramOf]
          rcases closing payload member with
            ⟨sequence, range, requested⟩ | requested | ⟨quantity, sequence, range, requested⟩
          · simp [requested, handle, reject, idle]
          · rw [requested, handle]
          · simp [requested, handle, idle]
      rw [List.foldl_cons, kept]
      exact ih fun other member => leftover other (List.mem_cons_of_mem _ member)

end Account

/-- How many of the first quotes have never arrived. -/
def lost (claimed : Nat) (numbers : List Nat) : Nat :=
  (List.range' 1 claimed).countP (· ∉ numbers)

/-- Among numbers in range, what is lost is what the different ones leave over. -/
theorem lost_eq {claimed : Nat} {numbers : List Nat}
    (inside : ∀ number ∈ numbers, 1 ≤ number ∧ number ≤ claimed) :
    lost claimed numbers = claimed - Arrivals.distinct numbers := by
  have split := List.length_eq_countP_add_countP (l := List.range' 1 claimed) (· ∈ numbers)
  have arrived : (List.range' 1 claimed).countP (· ∈ numbers) = Arrivals.distinct numbers := by
    rw [List.countP_eq_length_filter,
      ← List.toFinset_card_of_nodup (List.Nodup.filter (· ∈ numbers) List.nodup_range'),
        Arrivals.distinct]
    congr 1
    ext number
    simp only [List.mem_toFinset, List.mem_filter, List.mem_range'_1, decide_eq_true_eq]
    constructor
    · exact And.right
    · intro member
      have bound := inside number member
      exact ⟨by omega, member⟩
  rw [List.length_range', arrived] at split
  simp only [decide_eq_true_eq] at split
  rw [lost]
  omega

/-- The numbers that arrive are those of quotes that were sent. -/
theorem Delivers.inside {quotes : List Payload} {sender : Address} {last final : ℚ}
    {events : List Event} {numbers : List Nat}
    (delivers : Delivers quotes sender last events numbers final) :
    ∀ number ∈ numbers, 1 ≤ number ∧ number ≤ quotes.length := by
  induction delivers with
  | nil => simp
  | quote sent _ ih =>
      have bound := (List.getElem?_eq_some_iff.mp sent).1
      intro number member
      rcases List.mem_cons.mp member with rfl | rest
      · omega
      · exact ih number rest
  | silence _ _ ih => exact ih

/-- The receiver does not run out of memory at a `START` whose byte map it can allocate. -/
theorem not_outOfMemory {payload : Payload} {sender : Address} {allocated : Bool} {now : ℚ}
    (waits : allocated = true ∨ ∀ targetRate durationMs planned rate bounded,
      requestOf payload ≠ .start targetRate durationMs planned rate bounded) :
    ¬ OutOfMemory (.received ⟨datagramOf payload sender, allocated⟩ now) := by
  rintro ⟨arrival, time, targetRate, durationMs, planned, rate, bounded, same, requested, refused⟩
  cases same
  rw [request_datagramOf] at requested
  rcases waits with enough | none
  · rw [enough] at refused
    cases refused
  · exact none _ _ _ _ _ requested

section Run

variable {arguments : Arguments} {ticks clock : Nat → Nat} {sent : Nat}
    {transmission : Transmission}
  (transmits : PacedSender.packets.Transmits arguments ticks clock sent transmission)

include transmits

/-- The quotes of a run are numbered from one. -/
theorem quotes_numbered (index : Nat) (payload : Payload)
    (at_ : (transmission.quotes.map Prod.fst)[index]? = some payload) :
    ∃ range, requestOf payload = .quote (index + 1) range := by
  have packed := transmits.quotes.packed
  obtain ⟨inside, same⟩ := List.getElem?_eq_some_iff.mp at_
  have bound : index < (List.range' 1 sent).length := by rwa [packed.length_eq]
  have made := packed.get bound inside
  rw [List.get_eq_getElem, List.get_eq_getElem, List.getElem_range', same] at made
  rw [Nat.one_mul, Nat.add_comm] at made
  exact requestOf_quote made

theorem length_quotes : (transmission.quotes.map Prod.fst).length = sent := by
  rw [← transmits.quotes.packed.length_eq, List.length_range']

/-- Behind its start no packet of a run opens a stream. -/
theorem requests_behind : ∀ payload ∈ transmission.stop :: transmission.quotes.map Prod.fst,
    (∃ sequence range, requestOf payload = .quote sequence range) ∨
      requestOf payload = .ignored ∨
      ∃ quantity sequence range, requestOf payload = .finish quantity sequence range := by
  intro payload member
  rcases List.mem_cons.mp member with rfl | quote
  · obtain ⟨range, requested⟩ := requestOf_stop transmits.stop
    exact Or.inr (Or.inr ⟨_, _, range, requested⟩)
  · obtain ⟨index, at_⟩ := List.mem_iff_getElem?.mp quote
    obtain ⟨range, requested⟩ := quotes_numbered transmits index payload at_
    exact Or.inl ⟨_, range, requested⟩

/-- Nothing that arrives behind the start exhausts the memory. -/
theorem enough_memory {sender : Address} {event : Event}
    (leftover : Leftover (transmission.stop :: transmission.quotes.map Prod.fst) sender event) :
    ¬ OutOfMemory event := by
  rcases leftover with ⟨now, rfl⟩ | ⟨payload, member, allocated, now, rfl⟩
  · rintro ⟨arrival, time, _, _, _, _, _, same, _⟩
    cases same
  · refine not_outOfMemory (Or.inr fun targetRate durationMs planned rate bounded opens => ?_)
    rcases requests_behind transmits payload member with
      ⟨_, _, requested⟩ | requested | ⟨_, _, _, requested⟩
    all_goals
      rw [requested] at opens
      cases opens

end Run

/-- The events of a delivery are packets of the run, or timeouts. -/
theorem Delivers.leftover {quotes : List Payload} {sender : Address} {last final : ℚ}
    {events : List Event} {numbers : List Nat}
    (delivers : Delivers quotes sender last events numbers final) (stop : Payload) :
    ∀ event ∈ events, Leftover (stop :: quotes) sender event := by
  induction delivers with
  | nil => simp
  | @quote _ now _ _ _ _ payload allocated sent _ ih =>
      intro event member
      rcases List.mem_cons.mp member with rfl | rest
      · exact Or.inr ⟨payload, List.mem_cons_of_mem _ (List.mem_of_getElem? sent), allocated, now,
          rfl⟩
      · exact ih event rest
  | @silence _ now _ _ _ _ _ ih =>
      intro event member
      rcases List.mem_cons.mp member with rfl | rest
      · exact Or.inl ⟨now, rfl⟩
      · exact ih event rest

theorem Closes.leftover {stop : Payload} {sender : Address} {sent planned : Nat} {final : ℚ}
    {event : Event} {claimed : Nat} {timedOut : Bool}
    (closes : Closes stop sender sent planned final event claimed timedOut)
    (quotes : List Payload) : Leftover (stop :: quotes) sender event := by
  cases closes with
  | @marker now allocated => exact Or.inr ⟨stop, List.mem_cons_self, allocated, now, rfl⟩
  | @silence now _ => exact Or.inl ⟨now, rfl⟩

/-- What the report of a run says: the length that counts as sent, the different quotes
that have arrived, and those that have not. -/
structure ReportsRun (report : Report) (arguments : Arguments) (numbers : List Nat)
    (claimed : Nat) (timedOut : Bool) : Prop where
  timedOut : report.timedOut = timedOut
  targetRate : report.targetRate = arguments.pps.toNat
  packetsSent : report.packetsSent = claimed
  validPackets : report.validPackets = Arrivals.distinct numbers
  missingPackets : report.missingPackets = lost claimed numbers
  invalidPackets : report.invalidPackets = 0
  duplicatePackets : report.duplicatePackets = numbers.length - Arrivals.distinct numbers
  outOfOrderPackets : report.outOfOrderPackets = Arrivals.late numbers
  integrityOk : report.integrityOk = true ↔
    claimed = arguments.plannedPackets.toNat ∧
      numbers = List.range' 1 arguments.plannedPackets.toNat

/-- The report of a stream with the arrivals of a run. -/
theorem reportsRun_reportOf {arguments : Arguments} {stream : Stream} {numbers : List Nat}
    {claimed : Nat} {timedOut : Bool} (target : stream.targetPps = arguments.pps.toNat)
    (planned : stream.planned = arguments.plannedPackets.toNat) (invalid : stream.invalid = 0)
    (quotes : stream.quotes = numbers)
    (inside : ∀ number ∈ numbers, 1 ≤ number ∧ number ≤ claimed) :
    ReportsRun (reportOf ⟨stream, claimed, timedOut⟩) arguments numbers claimed timedOut where
  timedOut := rfl
  targetRate := target
  packetsSent := rfl
  validPackets := congrArg Arrivals.distinct quotes
  missingPackets := by rw [lost_eq inside, ← quotes, reportOf]
  invalidPackets := invalid
  duplicatePackets := by rw [← quotes, reportOf, Stream.repeated]
  outOfOrderPackets := congrArg Arrivals.late quotes
  integrityOk := by
    rw [reportOf_integrityOk, Stream.Intact, planned, invalid, quotes]
    simp

/-- For every interruption of the sender, whatever the network loses, repeats or reorders,
the idle receiver answers a run with one report. It counts as sent what was sent, or what
was planned when every end marker is lost, and as missing the quotes that never arrived. -/
theorem paced_run_reported {arguments : Arguments} {ticks clock : Nat → Nat} {fuel sent : Nat}
    {transmission : Transmission} {sender : Address} {since final : ℚ} {events rest : List Event}
    {numbers : List Nat} {closing : Event} {claimed : Nat} {timedOut : Bool}
    (announced : validStartControl arguments.pps.toNat arguments.durationMs.toNat
      arguments.plannedPackets.toNat = true)
    (atMost : sent ≤ arguments.plannedPackets.toNat)
    (ran : PacedSender.main arguments ticks clock fuel sent = some transmission)
    (delivers : Delivers (transmission.quotes.map Prod.fst) sender since events numbers final)
    (closes : Closes transmission.stop sender sent arguments.plannedPackets.toNat final closing
      claimed timedOut)
    (leftover : ∀ event ∈ rest,
      Leftover (transmission.stop :: transmission.quotes.map Prod.fst) sender event) :
    ∃ test report,
      run (.received ⟨datagramOf transmission.start sender, true⟩ since ::
        (events ++ closing :: rest)) =
        .ok test ∧
      test.active = false ∧ test.reports = [report] ∧
      ReportsRun report arguments numbers claimed timedOut := by
  have transmits := StreamPackets.transmits_of_transmit atMost ran
  obtain ⟨rate, bounded, opens⟩ := (requestOf_startPacket transmits.start).1 announced
  have numbered := quotes_numbered transmits
  have size := length_quotes transmits
  -- The account of the whole run, part by part.
  have opened :
      Account.initial.next (.received ⟨datagramOf transmission.start sender, true⟩ since) =
      ⟨some sender, .opened arguments.pps.toNat arguments.plannedPackets.toNat rate bounded,
        some since, []⟩ := by
    rw [Account.next, request_datagramOf, opens]
    rfl
  generalize started :
    Account.initial.next (.received ⟨datagramOf transmission.start sender, true⟩ since) =
      start at opened
  have planned : start.stream.planned = arguments.plannedPackets.toNat := by
    rw [opened]
    rfl
  obtain ⟨own, active, closed, target, length, invalid, quotes⟩ :=
    Account.foldl_delivers numbered delivers (congrArg Account.sender opened)
      (congrArg Account.lastActivity opened) ((size.trans_le atMost).trans planned.ge)
  rw [planned] at length
  obtain ⟨idle, ended⟩ := Account.next_closes (requestOf_stop transmits.stop) (length ▸ closes) own
    active (length ▸ atMost)
  have whole : Account.after (.received ⟨datagramOf transmission.start sender, true⟩ since ::
      (events ++ closing :: rest)) = (events.foldl Account.next start).next closing := by
    rw [Account.after, List.foldl_cons, started, List.foldl_append, List.foldl_cons]
    exact Account.foldl_leftover (requests_behind transmits) leftover idle
  rcases run_keeps (.received ⟨datagramOf transmission.start sender, true⟩ since ::
      (events ++ closing :: rest)) with ⟨test, ran, refines⟩ | ⟨_, event, member, without⟩
  · rw [whole] at refines
    have inside : ∀ number ∈ numbers, 1 ≤ number ∧ number ≤ claimed := by
      intro number member
      have bound := delivers.inside number member
      rw [size] at bound
      cases closes with
      | marker => exact bound
      | silence => exact ⟨bound.1, bound.2.trans atMost⟩
    have none : start.closed = [] := by rw [opened]
    have fresh : start.stream.targetPps = arguments.pps.toNat ∧ start.stream.invalid = 0 ∧
        start.stream.quotes = [] := by
      rw [opened]
      exact ⟨rfl, rfl, rfl⟩
    have printed := refines.reports
    rw [ended, closed, none] at printed
    refine ⟨test, _, ran, ?_, printed, reportsRun_reportOf (target.trans fresh.1) length
      (invalid.trans fresh.2.1) ?_ inside⟩
    · rw [refines.active, idle]
      rfl
    · rw [quotes, fresh.2.2, List.nil_append]
  · exfalso
    rcases List.mem_cons.mp member with rfl | behind
    · exact not_outOfMemory (Or.inl rfl) without
    · have fromRun : Leftover (transmission.stop :: transmission.quotes.map Prod.fst)
          sender event := by
        rcases List.mem_append.mp behind with early | late
        · exact delivers.leftover transmission.stop event early
        · rcases List.mem_cons.mp late with rfl | later
          · exact closes.leftover _
          · exact leftover event later
      exact enough_memory transmits fromRun without

/-- A sender on the test network, and a stream of two quotes. -/
def trader : Address := ⟨0xC0A80201#32, 5005#16⟩

def twoQuotes : Arguments := ⟨2, 1, 5001⟩

/-- The first quote and every end marker are lost, and the second quote arrives twice. -/
theorem paced_run_reported_lost :
    ∃ transmission first second, PacedSender.main twoQuotes (· * 1000000000) (fun _ => 0) 5 2 =
        some transmission ∧ transmission.quotes.map Prod.fst = [first, second] ∧
      ∃ test report,
        run [.received ⟨datagramOf transmission.start trader, true⟩ 0,
          .received ⟨datagramOf second trader, true⟩ 1, .timeout 2,
          .received ⟨datagramOf second trader, true⟩ (5 / 2), .timeout (9 / 2),
          .received ⟨datagramOf first trader, true⟩ 5] = .ok test ∧
        test.reports = [report] ∧ report.timedOut = true ∧ report.packetsSent = 2 ∧
        report.validPackets = 1 ∧ report.missingPackets = 1 ∧ report.duplicatePackets = 1 := by
  have atMost : 2 ≤ twoQuotes.plannedPackets.toNat := by decide +kernel
  have planned : twoQuotes.plannedPackets.toNat = 2 := by decide +kernel
  have announced : validStartControl twoQuotes.pps.toNat twoQuotes.durationMs.toNat
      twoQuotes.plannedPackets.toNat = true := by decide +kernel
  obtain ⟨transmission, ran⟩ := Option.isSome_iff_exists.mp
    (by decide +kernel :
      (PacedSender.main twoQuotes (· * 1000000000) (fun _ => 0) 5 2).isSome = true)
  have size := length_quotes (StreamPackets.transmits_of_transmit atMost ran)
  obtain ⟨first, second, quotes⟩ := List.length_eq_two.mp size
  have delivers : Delivers (transmission.quotes.map Prod.fst) trader 0
      [.received ⟨datagramOf second trader, true⟩ 1, .timeout 2,
        .received ⟨datagramOf second trader, true⟩ (5 / 2)] [2, 2] (5 / 2) := by
    have sent : [first, second][1]? = some second := rfl
    rw [quotes]
    exact .quote sent (.silence (by norm_num [inactivityTimeoutSeconds]) (.quote sent .nil))
  have closes : Closes transmission.stop trader 2 twoQuotes.plannedPackets.toNat (5 / 2)
      (.timeout (9 / 2)) 2 true := by
    rw [planned]
    exact .silence (by norm_num [inactivityTimeoutSeconds])
  have leftover : ∀ event ∈ [Event.received ⟨datagramOf first trader, true⟩ 5],
      Leftover (transmission.stop :: transmission.quotes.map Prod.fst) trader event := by
    intro event member
    rw [List.mem_singleton.mp member, quotes]
    exact Or.inr ⟨first, by simp, true, 5, rfl⟩
  obtain ⟨test, report, runs, _, printed, reports⟩ :=
    paced_run_reported announced atMost ran delivers closes leftover
  refine ⟨transmission, first, second, ran, quotes, test, report, runs, printed, reports.timedOut,
    reports.packetsSent, reports.validPackets, reports.missingPackets, reports.duplicatePackets⟩

end HftPipeline.Host.PacedReceiver
