import HftPipeline.Host.ReceiverAgreement
import HftPipeline.Host.ReceiversAtRest
import HftPipeline.Host.StreamStart

/-!
# A run of the optimized sender and its report

Every packet of the sender arrives in order at a receiver that is idle. The receiver
answers with one report, and the report holds what was sent, except when nothing was
sent: a claimed length of zero is out of range, and both receivers resolve it to the
planned count.
-/

namespace HftPipeline.Host

open HftPipeline.Std HftPipeline.Wire

namespace OptimizedSender

variable {arguments : Arguments} {clock : Nat → Nat} {sent : Nat}

/-- The sending loop sends the numbered quotes and counts them. -/
theorem sendQuotes (clocked : ∀ n, clock n < 2 ^ 64) (atMost : sent < 2 ^ 32)
    (front : List Payload) :
    ∃ quotes, (List.range' 1 sent).foldlM (sendQuote clock) ⟨0, front⟩ =
        some ⟨sent, front ++ quotes⟩ ∧
      List.Forall₂ (fun sequence quote => makeQuotePacket sequence (clock sequence) = some quote)
        (List.range' 1 sent) quotes := by
  induction sent with
  | zero => exact ⟨[], by simp, List.Forall₂.nil⟩
  | succ sent ih =>
      obtain ⟨quotes, looped, packed⟩ := ih (by omega)
      obtain ⟨quote, made⟩ := Option.isSome_iff_exists.mp
        (makeQuotePacket_isSome atMost (clocked (sent + 1)))
      have longer : List.range' 1 (sent + 1) = List.range' 1 sent ++ [sent + 1] := by
        rw [List.range'_concat, Nat.one_mul, Nat.add_comm 1 sent]
      refine ⟨quotes ++ [quote], ?_, ?_⟩
      · rw [longer, List.foldlM_append, looped]
        simp [sendQuote, made]
      · rw [longer]
        exact List.rel_append packed (List.Forall₂.cons made List.Forall₂.nil)

/-- The packets of an interrupted run: the announcement, the quotes up to the
interruption, and the repeated end marker that claims their number. -/
theorem main_eq (checked : checkArguments arguments = .ok ()) (clocked : ∀ n, clock n < 2 ^ 64)
    (atMost : sent ≤ arguments.plannedPackets.toNat) :
    ∃ start quotes stop,
      main arguments clock sent = some (start :: (quotes ++ List.replicate endMarkerRepeats stop)) ∧
      startPacket arguments (clock 0) = some start ∧
      List.Forall₂ (fun sequence quote => makeQuotePacket sequence (clock sequence) = some quote)
        (List.range' 1 sent) quotes ∧
      endPacket arguments sent (clock (sent + 1)) = some stop := by
  have fits := fit checked
  obtain ⟨_, _, _, planned, _⟩ := checkArguments_eq_ok.mp checked
  simp only [maxPlannedPackets] at planned
  obtain ⟨start, started⟩ := Option.isSome_iff_exists.mp (fits.start _ (clocked 0))
  obtain ⟨stop, stopped⟩ :=
    Option.isSome_iff_exists.mp (fits.stop sent _ atMost (clocked (sent + 1)))
  obtain ⟨quotes, looped, packed⟩ := sendQuotes clocked (by omega : sent < 2 ^ 32) [start]
  refine ⟨start, quotes, stop, ?_, started, packed, stopped⟩
  have sequences : (List.range' 1 arguments.plannedPackets.toNat).take sent =
      List.range' 1 sent := by
    rw [List.take_range'_of_length_ge]
    exact atMost
  simp only [packets] at started stopped
  simp [main, sequences, started, looped, stopped]

end OptimizedSender

/-- Every quote of the sender is a well-formed one. -/
theorem requestOf_quote {payload : Payload} {sequence timeNs : Nat}
    (packed : makeQuotePacket sequence timeNs = some payload) :
    ∃ range, requestOf payload = .quote sequence range := by
  have fields := unpack_pack packed
  have fits := unpack_fits payload
  rw [fields] at fits
  refine ⟨fits.sequence, ?_⟩
  simp [requestOf, fields, senderFields, messageQuoteUpdate, messageStreamStart, messageStreamEnd]

/-- The end marker claims the number of the quotes in both of its fields. -/
theorem requestOf_stop {arguments : Arguments} {payload : Payload} {sent timeNs : Nat}
    (packed : OptimizedSender.endPacket arguments sent timeNs = some payload) :
    ∃ range, requestOf payload = .finish sent sent range := by
  have fields := unpack_pack packed
  have fits := unpack_fits payload
  rw [fields] at fits
  refine ⟨⟨fits.quantity, fits.sequence⟩, ?_⟩
  simp [requestOf, fields, senderFields, messageStreamStart, messageStreamEnd]

namespace Account

variable {account : Account} {sender : Address}

/-- The quotes of the running stream's sender are recorded in order. -/
theorem foldl_quotes (owned : account.sender = some sender) {sequences : List Nat}
    {quotes : List Payload}
    (numbered : List.Forall₂ (fun sequence quote => ∃ range,
      requestOf quote = .quote sequence range) sequences quotes)
    (within : ∀ sequence ∈ sequences, 1 ≤ sequence ∧ sequence ≤ account.stream.planned) :
    let after := (quotes.map (datagramOf · sender)).foldl next account
    after.sender = some sender ∧ after.closed = account.closed ∧
      after.stream.planned = account.stream.planned ∧
      after.stream.invalid = account.stream.invalid ∧
      after.stream.quotes = account.stream.quotes ++ sequences := by
  induction numbered generalizing account with
  | nil => simp [owned]
  | @cons sequence quote sequences quotes asked _ ih =>
      obtain ⟨range, requested⟩ := asked
      have inside := within sequence List.mem_cons_self
      have stepped : account.next (datagramOf quote sender) =
          { account with stream := account.stream.record sequence inside } := by
        rw [next, request_datagramOf, requested, handle, dif_pos ⟨owned, inside⟩]
      simp only [List.map_cons, List.foldl_cons, stepped]
      obtain ⟨own, closed, planned, invalid, recorded⟩ :=
        @ih { account with stream := account.stream.record sequence inside } owned
          fun other member => within other (List.mem_cons_of_mem _ member)
      refine ⟨own, closed, planned, invalid, recorded.trans ?_⟩
      simp [Stream.record]

/-- The first of the repeated end markers closes the stream, and the others find none. -/
theorem foldl_stops (owned : account.sender = some sender) {sent : Nat} {stop : Payload}
    (claims : ∃ range, requestOf stop = .finish sent sent range) (repeats : Nat) :
    ((List.replicate (repeats + 1) stop).map (datagramOf · sender)).foldl next account =
      { account with
        sender := none
        closed := account.closed ++
          [(account.stream, resolveSent sent sent account.stream.planned)] } := by
  obtain ⟨range, requested⟩ := claims
  induction repeats with
  | zero =>
      rw [List.replicate_one, List.map_singleton, List.foldl_cons, List.foldl_nil, next,
        request_datagramOf, requested, handle]
      exact if_pos owned
  | succ repeats ih =>
      rw [List.replicate_succ', List.map_append, List.foldl_append, ih, List.map_singleton,
        List.foldl_cons, List.foldl_nil, next, request_datagramOf, requested, handle]
      exact if_neg (by simp)

end Account

/-- What the packets of a run ask for: a stream of a planned length, unless its start is
out of range, the first quotes in order, and the end of the stream. -/
structure RunRequests (targetPps planned sent : Nat) (announced : Prop) (start : Payload)
    (quotes : List Payload) (stop : Payload) : Prop where
  opens : announced → ∃ durationMs rate bounded,
    requestOf start = .start targetPps durationMs planned rate bounded
  ignored : ¬ announced → requestOf start = .ignored
  numbered : List.Forall₂ (fun sequence quote => ∃ range, requestOf quote = .quote sequence range)
    (List.range' 1 sent) quotes
  claims : ∃ range, requestOf stop = .finish sent sent range

/-- Numbered quotes are quote requests. -/
theorem asks_quote {sequences : List Nat} {quotes : List Payload}
    (numbered : List.Forall₂ (fun sequence quote => ∃ range,
      requestOf quote = .quote sequence range) sequences quotes) :
    ∀ quote ∈ quotes, ∃ sequence range, requestOf quote = .quote sequence range := by
  induction numbered with
  | nil => simp
  | cons asked _ ih => exact List.forall_mem_cons.mpr ⟨⟨_, asked⟩, ih⟩

/-- The arrivals of packets that are delivered in order, with or without memory for a
byte map. -/
def delivered (packets : List Payload) (sender : Address) (memory : Bool) : List Arrival :=
  packets.map fun packet => ⟨datagramOf packet sender, memory⟩

/-- The packets of a run behind its start. -/
def runTail (quotes : List Payload) (stop : Payload) : List Payload :=
  quotes ++ List.replicate OptimizedSender.endMarkerRepeats stop

/-- A run of the sender asks for a START, its quotes in order and an END. -/
theorem OptimizedSender.runRequests {arguments : Arguments} {clock : Nat → Nat} {sent : Nat}
    (checked : checkArguments arguments = .ok ()) (clocked : ∀ n, clock n < 2 ^ 64)
    (atMost : sent ≤ arguments.plannedPackets.toNat) :
    ∃ start quotes stop, main arguments clock sent = some (start :: runTail quotes stop) ∧
      RunRequests arguments.pps.toNat arguments.plannedPackets.toNat sent
        (1 / 2000 < arguments.duration) start quotes stop := by
  obtain ⟨start, quotes, stop, sends, started, numbered, stopped⟩ := main_eq checked clocked atMost
  have announced := announced_iff checked
  refine ⟨start, quotes, stop, sends, ?_, ?_, ?_, requestOf_stop stopped⟩
  · intro long
    exact ⟨_, requestOf_start (unpack_pack started) (announced.mpr long)⟩
  · intro short
    exact requestOf_ignored (unpack_pack started) (mt announced.mp short)
  · exact numbered.imp fun sequence quote packed => requestOf_quote packed

namespace RunRequests

variable {targetPps planned sent : Nat} {announced : Prop} {start stop : Payload}
  {quotes : List Payload} (run : RunRequests targetPps planned sent announced start quotes stop)

include run

/-- Behind the start there is no other one. -/
theorem waits {packet : Payload} (member : packet ∈ runTail quotes stop) (sender : Address) :
    opensStream (datagramOf packet sender) = false := by
  rcases List.mem_append.mp member with quote | marker
  · obtain ⟨sequence, range, requested⟩ := asks_quote run.numbered packet quote
    simp [opensStream, requested]
  · obtain ⟨range, requested⟩ := run.claims
    simp [opensStream, List.eq_of_mem_replicate marker, requested]

/-- Without an announcement there is none at all. -/
theorem never_starts (short : ¬ announced) (sender : Address) (memory : Bool) {arrival : Arrival}
    (member : arrival ∈ delivered (start :: runTail quotes stop) sender memory) :
    opensStream arrival.datagram = false := by
  obtain ⟨packet, among, rfl⟩ := List.mem_map.mp member
  rcases List.mem_cons.mp among with rfl | later
  · simp [opensStream, run.ignored short]
  · exact run.waits later sender

/-- The account of an announced run holds its stream, closed. -/
theorem account (long : announced) (atMost : sent ≤ planned) (sender : Address) :
    ∃ stream : Stream, stream.planned = planned ∧ stream.invalid = 0 ∧
      stream.quotes = List.range' 1 sent ∧
      (Account.after ((start :: runTail quotes stop).map (datagramOf · sender))).closed =
        [(stream, resolveSent sent sent stream.planned)] := by
  obtain ⟨durationMs, rate, bounded, requested⟩ := run.opens long
  have opened : Account.initial.next (datagramOf start sender) =
      ⟨some sender, .opened targetPps planned rate bounded, []⟩ := by
    rw [Account.next, request_datagramOf, requested]
    rfl
  have within (sequence : Nat) (member : sequence ∈ List.range' 1 sent) :
      1 ≤ sequence ∧ sequence ≤ planned := by
    have inside := List.mem_range'_1.mp member
    omega
  obtain ⟨owned, closed, length, clean, recorded⟩ :=
    @Account.foldl_quotes ⟨some sender, .opened targetPps planned rate bounded, []⟩ sender rfl _ _
      run.numbered within
  have ended := Account.foldl_stops owned run.claims 4
  rw [Account.after, List.map_cons, List.foldl_cons, opened, runTail, List.map_append,
    List.foldl_append, OptimizedSender.endMarkerRepeats, ended]
  exact ⟨_, length, clean, recorded, by rw [closed]; rfl⟩

end RunRequests

/-- The report of a run holds what was sent. -/
structure ReportsRun (summary : PythonReceiver.Summary) (sent planned : Nat) : Prop where
  actualSent : summary.actualSent = sent
  valid : summary.validPackets = sent
  missing : summary.missingPackets = 0
  invalid : summary.invalidPackets = 0
  duplicate : summary.duplicatePackets = 0
  outOfOrder : summary.outOfOrderPackets = 0
  verdict : summary.integrityOk = true ↔ sent = planned

/-- The stream of a run reports it, unless no quote was sent. -/
theorem reportsRun_iff {stream : Stream} {sent : Nat} (inOrder : stream.quotes = List.range' 1 sent)
    (clean : stream.invalid = 0) (atMost : sent ≤ stream.planned) (announced : 1 ≤ stream.planned) :
    ReportsRun (PythonReceiver.summaryOf stream (resolveSent sent sent stream.planned)) sent
        stream.planned ↔ 1 ≤ sent := by
  constructor
  · intro reports
    have claimed : resolveSent sent sent stream.planned = sent := reports.actualSent
    unfold resolveSent at claimed
    split_ifs at claimed <;> omega
  · intro nonempty
    have claimed : resolveSent sent sent stream.planned = sent := if_pos ⟨nonempty, atMost⟩
    have distinct : Arrivals.distinct stream.quotes = sent := by
      rw [inOrder, Arrivals.distinct, List.toFinset_card_of_nodup List.nodup_range',
        List.length_range']
    have verdict := PythonReceiver.summaryOf_integrityOk stream sent
    rw [claimed]
    exact
      { actualSent := rfl
        valid := distinct
        missing := by rw [PythonReceiver.summaryOf, distinct, Nat.sub_self]
        invalid := clean
        duplicate := by
          rw [PythonReceiver.summaryOf, Stream.repeated, distinct, inOrder, List.length_range',
            Nat.sub_self]
        outOfOrder := by rw [PythonReceiver.summaryOf, inOrder, Arrivals.late_range']
        verdict := by
          rw [verdict, Stream.Intact, inOrder]
          exact ⟨And.left, fun all => ⟨all, clean, by rw [all]⟩⟩ }

namespace PythonReceiver

/-- The receiver prints one summary, and it is that of the run. -/
def Reports (state : State) (arrivals : List Arrival) (sent planned : Nat) : Prop :=
  ∃ after summary, arrivals.foldlM receive state = .ok after ∧
    after.summaries = state.summaries ++ [summary] ∧ ReportsRun summary sent planned

section Run

variable {targetPps planned sent : Nat} {announced : Prop} {start stop : Payload}
  {quotes : List Payload} (run : RunRequests targetPps planned sent announced start quotes stop)

include run

/-- A run that is announced leaves one summary of exactly its quotes. -/
theorem foldlM_announced (long : announced) (atMost : sent ≤ planned) (sender : Address)
    (state : State) : ∃ after, ∃ stream : Stream,
      (delivered (start :: runTail quotes stop) sender true).foldlM receive state = .ok after ∧
      after.summaries =
        state.summaries ++ [summaryOf stream (resolveSent sent sent stream.planned)] ∧
      stream.planned = planned ∧ stream.invalid = 0 ∧ stream.quotes = List.range' 1 sent := by
  obtain ⟨durationMs, rate, bounded, requested⟩ := run.opens long
  obtain ⟨stream, length, clean, inOrder, closed⟩ := run.account long atMost sender
  have datagrams : (delivered (start :: runTail quotes stop) sender true).map Arrival.datagram =
      (start :: runTail quotes stop).map (datagramOf · sender) := by
    simp [delivered]
  rcases run_keeps (delivered (start :: runTail quotes stop) sender true) with
    ⟨after, ran, refines⟩ | ⟨arrival, member, refused, _⟩
  · have printed := refines.summaries
    rw [datagrams, closed] at printed
    rw [PythonReceiver.run] at ran
    refine ⟨State.behind state after, stream, ?_, ?_, length, clean, inOrder⟩
    · rw [delivered, List.map_cons] at ran ⊢
      rw [foldlM_start ((request_datagramOf start sender).trans requested), ran]
      rfl
    · rw [State.behind, printed]
      rfl
  · obtain ⟨packet, _, rfl⟩ := List.mem_map.mp member
    cases refused

/-- From rest, a run is reported exactly when it was announced, some quote was sent and
the byte map could be allocated. -/
theorem reports_iff (atMost : sent ≤ planned) (some : 1 ≤ planned) (sender : Address)
    (memory : Bool) {state : State} (idle : state.streamActive = false) :
    Reports state (delivered (start :: runTail quotes stop) sender memory) sent planned ↔
      1 ≤ sent ∧ announced ∧ memory = true := by
  by_cases long : announced
  · cases memory with
    | true =>
        obtain ⟨after, stream, ran, printed, rfl, clean, inOrder⟩ :=
          foldlM_announced run long atMost sender state
        have reported := reportsRun_iff inOrder clean atMost some
        constructor
        · rintro ⟨other, summary, again, summaries, reports⟩
          cases ran.symm.trans again
          cases List.append_cancel_left (printed.symm.trans summaries)
          exact ⟨reported.mp reports, long, rfl⟩
        · rintro ⟨nonempty, _⟩
          exact ⟨after, _, ran, printed, reported.mpr nonempty⟩
    | false =>
        obtain ⟨durationMs, rate, bounded, requested⟩ := run.opens long
        refine iff_of_false ?_ (by simp)
        rintro ⟨after, _, ran, _⟩
        rw [delivered, List.map_cons, List.foldlM_cons, receive_eq, request_datagramOf,
          requested] at ran
        cases ran
  · have unchanged : (delivered (start :: runTail quotes stop) sender memory).foldlM receive state =
        .ok state :=
      Fallible.foldlM_fixed fun arrival member =>
        receive_idle idle (run.never_starts long sender memory member)
    refine iff_of_false ?_ fun reported => long reported.2.1
    rintro ⟨after, summary, ran, printed, _⟩
    cases unchanged.symm.trans ran
    simp at printed

end Run

end PythonReceiver

namespace CReceiver

/-- The receiver prints one report, and it is that of the run. -/
def Reports (state : State) (calls : List (List Arrival)) (sent planned : Nat) : Prop :=
  ∃ after report, calls.foldlM receiveCall state = .ok after ∧
    after.reports = state.reports ++ [report] ∧ ReportsRun report.summary sent planned

section Run

variable {targetPps planned sent : Nat} {announced : Prop} {start stop : Payload}
  {quotes : List Payload} (run : RunRequests targetPps planned sent announced start quotes stop)
  {calls : List (List Arrival)} {sender : Address}

include run

/-- A run that is announced leaves one report of exactly its quotes. -/
theorem foldlM_announced (long : announced) (atMost : sent ≤ planned)
    (flat : calls.flatten = delivered (start :: runTail quotes stop) sender true) {state : State}
    (idle : state.active = false) : ∃ after, ∃ stream : Stream,
      calls.foldlM receiveCall state = .ok after ∧
      after.reports =
        state.reports ++ [reportOf stream (resolveSent sent sent stream.planned)] ∧
      stream.planned = planned ∧ stream.invalid = 0 ∧ stream.quotes = List.range' 1 sent := by
  obtain ⟨durationMs, rate, bounded, requested⟩ := run.opens long
  obtain ⟨stream, length, clean, inOrder, closed⟩ := run.account long atMost sender
  have datagrams : calls.flatten.map Arrival.datagram =
      (start :: runTail quotes stop).map (datagramOf · sender) := by
    rw [flat]
    simp [delivered]
  rcases main_keeps calls with ⟨after, ran, refines⟩ | ⟨arrival, member, refused, _⟩
  · have printed := refines.reports
    rw [datagrams, closed] at printed
    refine ⟨State.behind state after, stream, ?_, ?_, length, clean, inOrder⟩
    · rw [delivered, List.map_cons] at flat
      rw [foldlM_start flat ((request_datagramOf start sender).trans requested) idle, ran]
      rfl
    · rw [State.behind, printed]
      rfl
  · rw [flat] at member
    obtain ⟨packet, _, rfl⟩ := List.mem_map.mp member
    cases refused

/-- From rest, a run is reported exactly when it was announced, some quote was sent and
the byte map could be allocated. -/
theorem reports_iff (atMost : sent ≤ planned) (some : 1 ≤ planned) {memory : Bool}
    (flat : calls.flatten = delivered (start :: runTail quotes stop) sender memory) {state : State}
    (idle : state.active = false) :
    Reports state calls sent planned ↔ 1 ≤ sent ∧ announced ∧ memory = true := by
  by_cases long : announced
  · cases memory with
    | true =>
        obtain ⟨after, stream, ran, printed, rfl, clean, inOrder⟩ :=
          foldlM_announced run long atMost flat idle
        have unrepeated : stream.repeated < 2 ^ 64 := by
          have bounded := stream.bounded
          simp only [largestStream] at bounded
          rw [Stream.repeated, inOrder, List.length_range']
          omega
        have same := summary_reportOf (resolveSent_le sent sent stream.planned)
          (by omega : stream.invalid < 2 ^ 64) unrepeated
        have reported := reportsRun_iff inOrder clean atMost some
        rw [← same] at reported
        constructor
        · rintro ⟨other, report, again, reports, reportsRun⟩
          cases ran.symm.trans again
          cases List.append_cancel_left (printed.symm.trans reports)
          exact ⟨reported.mp reportsRun, long, rfl⟩
        · rintro ⟨nonempty, _⟩
          exact ⟨after, _, ran, printed, reported.mpr nonempty⟩
    | false =>
        obtain ⟨durationMs, rate, bounded, requested⟩ := run.opens long
        rw [delivered, List.map_cons] at flat
        obtain ⟨goOn, _, starts⟩ := foldlM_first flat
        refine iff_of_false ?_ (by simp)
        rintro ⟨after, _, ran, _⟩
        rw [starts state idle, processDatagram_eq, request_datagramOf, requested] at ran
        cases ran
  · have unchanged : calls.foldlM receiveCall state = .ok state := by
      refine Fallible.foldlM_fixed fun call called => receiveCall_idle idle ?_
      intro arrival member
      have among := List.mem_flatten_of_mem called member
      rw [flat] at among
      exact run.never_starts long sender memory among
    refine iff_of_false ?_ fun reported => long reported.2.1
    rintro ⟨after, report, ran, printed, _⟩
    cases unchanged.symm.trans ran
    simp at printed

end Run

end CReceiver

/-- For arguments that pass the sender's checks, any interruption, and a channel that
delivers every datagram in order: from rest, each receiver prints exactly one report with
the numbers of the run if and only if some quote was sent, the duration was announced as
a positive number of milliseconds, and the byte map could be allocated. -/
theorem receivers_report_run_iff {arguments : Arguments}
    (checked : OptimizedSender.checkArguments arguments = .ok ()) {clock : Nat → Nat}
    (clocked : ∀ n, clock n < 2 ^ 64) {sent : Nat}
    (atMost : sent ≤ arguments.plannedPackets.toNat) :
    ∃ packets, OptimizedSender.main arguments clock sent = some packets ∧
      ∀ sender memory,
        (∀ state : PythonReceiver.State, state.streamActive = false →
          (PythonReceiver.Reports state (delivered packets sender memory) sent
              arguments.plannedPackets.toNat ↔
            1 ≤ sent ∧ 1 / 2000 < arguments.duration ∧ memory = true)) ∧
        ∀ (state : CReceiver.State) (calls : List (List Arrival)), state.active = false →
          calls.flatten = delivered packets sender memory →
          (CReceiver.Reports state calls sent arguments.plannedPackets.toNat ↔
            1 ≤ sent ∧ 1 / 2000 < arguments.duration ∧ memory = true) := by
  obtain ⟨start, quotes, stop, sends, run⟩ :=
    OptimizedSender.runRequests checked clocked atMost
  obtain ⟨_, _, _, planned, _⟩ := OptimizedSender.checkArguments_eq_ok.mp checked
  have some : 1 ≤ arguments.plannedPackets.toNat := by omega
  refine ⟨_, sends, fun sender memory => ⟨?_, ?_⟩⟩
  · intro state idle
    exact PythonReceiver.reports_iff run atMost some sender memory idle
  · intro state calls idle flat
    exact CReceiver.reports_iff run atMost some flat idle

/-- Two packets are planned, and the second one is not sent. -/
def briefRun : Arguments := ⟨2, 1, 5001⟩

/-- A brief run cut off behind its first quote, at both receivers. -/
theorem receivers_report_interrupted_run :
    OptimizedSender.checkArguments briefRun = .ok () ∧
      ∃ packets, OptimizedSender.main briefRun (fun _ => 0) 1 = some packets ∧
        PythonReceiver.Reports .initial (delivered packets tester true) 1 2 ∧
        CReceiver.Reports .initial [delivered packets tester true] 1 2 := by
  have checked : OptimizedSender.checkArguments briefRun = .ok () := by decide +kernel
  have planned : briefRun.plannedPackets.toNat = 2 := by decide +kernel
  have clocked : ∀ n, (fun _ => 0 : Nat → Nat) n < 2 ^ 64 := fun _ => Nat.two_pow_pos 64
  obtain ⟨packets, sends, reports⟩ := receivers_report_run_iff checked clocked
    (by rw [planned]; decide : 1 ≤ briefRun.plannedPackets.toNat)
  obtain ⟨python, c⟩ := reports tester true
  rw [planned] at python c
  have condition : 1 ≤ 1 ∧ 1 / 2000 < briefRun.duration ∧ true = true := by
    norm_num [briefRun]
  exact ⟨checked, packets, sends, (python .initial rfl).mpr condition,
    (c .initial [delivered packets tester true] rfl (by simp)).mpr condition⟩

/-- What both receivers print for a run of two planned packets that was interrupted
before the first one. -/
def lostRun : PythonReceiver.Summary where
  targetPps := 2
  actualSent := 2
  validPackets := 0
  missingPackets := 2
  invalidPackets := 0
  duplicatePackets := 0
  outOfOrderPackets := 0
  highestSequence := 0
  integrityOk := false

/-- Nothing was sent, and the report says that two packets were sent and lost. -/
theorem nothing_sent_reported_lost :
    OptimizedSender.checkArguments briefRun = .ok () ∧
      ∃ packets, OptimizedSender.main briefRun (fun _ => 0) 0 = some packets ∧
        (PythonReceiver.run (delivered packets tester true)).map PythonReceiver.State.summaries =
          .ok [lostRun] ∧
        (CReceiver.main [delivered packets tester true]).map (fun state =>
          state.reports.map CReceiver.Report.summary) = .ok [lostRun] ∧
        ¬ ReportsRun lostRun 0 2 := by
  have checked : OptimizedSender.checkArguments briefRun = .ok () := by decide +kernel
  have printed : (OptimizedSender.main briefRun (fun _ => 0) 0).map (fun packets =>
      ((PythonReceiver.run (delivered packets tester true)).map PythonReceiver.State.summaries,
        (CReceiver.main [delivered packets tester true]).map fun state =>
          state.reports.map CReceiver.Report.summary)) = some (.ok [lostRun], .ok [lostRun]) := by
    decide +kernel
  obtain ⟨packets, sends, both⟩ := Option.map_eq_some_iff.mp printed
  exact ⟨checked, packets, sends, congrArg Prod.fst both, congrArg Prod.snd both,
    fun reports => absurd reports.actualSent (by decide)⟩

end HftPipeline.Host
