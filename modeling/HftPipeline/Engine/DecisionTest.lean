import HftPipeline.Engine.LiveDecisions
import HftPipeline.Host.DecisionTest
import HftPipeline.Host.ParserLoop
import HftPipeline.Spec.FixedPrices

/-!
# What the decision test sees

The test runs through the loop of the design, and what the board shows after each of its
packets depends on the constants of the test only: nothing up to the last quote of the
warm-up, which is held, and then one signal for each of the three quotes.
-/

namespace HftPipeline.Host.DecisionTest

open HftPipeline.Rtl HftPipeline.Rtl.BlockDesign HftPipeline.Spec HftPipeline.Std HftPipeline.Wire
open LiveReceiver (Dma LoopsThrough loopback presented joinPackets)

/-- The constants of a test whose packets can be packed and whose market is not crossed. -/
structure Constants.Valid (constants : Constants) : Prop where
  instrumentId : constants.instrumentId < 2 ^ 32
  askPrice : constants.askPrice < 2 ^ 32
  uncrossed : constants.bidPrice ≤ constants.askPrice
  quantity : constants.quantity < 2 ^ 32
  buyQuantity : constants.buyQuantity < 2 ^ 32
  sellQuantity : constants.sellQuantity < 2 ^ 32

/-- The packets of some calls, from a place in the test on. -/
inductive Builds (constants : Constants) : Nat → List Call → List Payload → Prop where
  | nil {place : Nat} : Builds constants place [] []
  | cons {place : Nat} {call : Call} {calls : List Call} {packet : Payload} {packets : List Payload}
      (built : buildPacket constants (place + 1) (1000 + 100 * place) call = some packet)
      (later : Builds constants (place + 1) calls packets) :
      Builds constants place (call :: calls) (packet :: packets)

namespace Builds

variable {constants : Constants} {place : Nat} {calls : List Call} {packets : List Payload}

/-- Each call builds one packet. -/
theorem length_eq (builds : Builds constants place calls packets) :
    packets.length = calls.length := by
  induction builds with
  | nil => rfl
  | cons _ _ ih => exact congrArg Nat.succ ih

/-- The first calls build the first packets. -/
theorem take (builds : Builds constants place calls packets) (count : Nat) :
    Builds constants place (calls.take count) (packets.take count) := by
  induction builds generalizing count with
  | nil =>
      rw [List.take_nil, List.take_nil]
      exact .nil
  | cons built _ ih =>
      cases count with
      | zero => exact .nil
      | succ count => exact .cons built (ih count)

/-- Packets of calls one after the other. -/
theorem append {front back : List Call}
    (builds : Builds constants place (front ++ back) packets) :
    ∃ first second, packets = first ++ second ∧ Builds constants place front first ∧
      Builds constants (place + front.length) back second := by
  induction front generalizing place packets with
  | nil => exact ⟨[], packets, rfl, .nil, builds⟩
  | cons call front ih =>
      cases builds with
      | cons built later =>
          obtain ⟨first, second, rfl, here, rest⟩ := ih later
          refine ⟨_, second, rfl, .cons built here, ?_⟩
          rwa [List.length_cons, Nat.add_comm front.length, ← Nat.add_assoc]

end Builds

section Run

variable {constants : Constants} {dma : Dma}

/-- A transfer that comes back goes on. -/
theorem dmaTransfer_returned {transfer : Nat} {packet : Payload}
    (answer : dma transfer packet.1 = some packet.1) :
      dmaTransfer dma transfer packet = .ok () := by
  have whole : packet.1.take packetSize = packet.1 := List.take_of_length_le packet.2.le
  simp [dmaTransfer, answer, whole, packet.2]

/-- Over a DMA that returns them the calls send their packets. -/
theorem foldlM_send {place : Nat} {calls : List Call} {packets : List Payload}
    (builds : Builds constants place calls packets) {sent : List Payload}
    (placed : sent.length = place)
    (returns : ∀ index packet, packets[index]? = some packet →
      dma (place + index) packet.1 = some packet.1) :
    calls.foldlM (send constants dma) ⟨place + 1, 1000 + 100 * place, sent⟩ =
      .ok ⟨place + packets.length + 1, 1000 + 100 * (place + packets.length), sent ++ packets⟩ := by
  induction builds generalizing sent with
  | nil => simp [pure, Except.pure]
  | @cons place call calls packet packets built _ ih =>
      have here : dmaTransfer dma sent.length packet = .ok () :=
        dmaTransfer_returned (placed ▸ returns 0 packet rfl)
      have turned : send constants dma ⟨place + 1, 1000 + 100 * place, sent⟩ call =
          .ok ⟨place + 1 + 1, 1000 + 100 * (place + 1), sent ++ [packet]⟩ := by
        rw [send, built]
        simp only [here, Nat.mul_succ, ← Nat.add_assoc]
        rfl
      have longer : (sent ++ [packet]).length = place + 1 := by
        rw [List.length_append, placed]
        rfl
      have later := ih longer fun index other at_ => by
        rw [Nat.add_assoc, Nat.add_comm 1]
        exact returns (index + 1) other at_
      rw [List.foldlM_cons, turned]
      refine later.trans ?_
      rw [List.length_cons, List.append_assoc, List.singleton_append, Nat.add_assoc place 1,
        Nat.add_comm 1]

end Run

section Messages

variable {constants : Constants}

/-- The market of the test at a slot. -/
def Constants.prices (constants : Constants) (valid : constants.Valid) (slot : Slot) :
    FixedPrices where
  slot := slot
  bid := BitVec.ofNat 32 constants.bidPrice
  ask := BitVec.ofNat 32 constants.askPrice
  uncrossed := by
    have ask := valid.askPrice
    have order := valid.uncrossed
    rw [BitVec.le_def, BitVec.toNat_ofNat, BitVec.toNat_ofNat, Nat.mod_eq_of_lt (by omega),
      Nat.mod_eq_of_lt ask]
    exact order

/-- The sides and quantities of the quotes. -/
def Constants.quotes (constants : Constants) : List (Bool × Nat) :=
  (false, constants.quantity) ::
    ((List.range' 1 32).map fun sample => (sample % 2 == 1, constants.quantity)) ++
    [(true, constants.quantity), (false, constants.buyQuantity), (true, constants.sellQuantity)]

/-- The updates that quotes make, from a place in the test on. -/
def updatesFrom : Nat → List (Bool × Nat) → List Update
  | _, [] => []
  | place, quote :: quotes =>
      ⟨quote.1, BitVec.ofNat 64 (1000 + 100 * place), BitVec.ofNat 32 quote.2⟩ ::
        updatesFrom (place + 1) quotes

/-- The first quotes have the first updates. -/
theorem updatesFrom_take (place count : Nat) (quotes : List (Bool × Nat)) :
    updatesFrom place (quotes.take count) = (updatesFrom place quotes).take count := by
  induction quotes generalizing place count with
  | nil => simp [updatesFrom]
  | cons quote quotes ih =>
      cases count with
      | zero => rfl
      | succ count => simp [updatesFrom, ih]

/-- The script sends a START, its quotes and an END. -/
theorem calls_eq (constants : Constants) : calls constants = ⟨messageStreamStart, 0, 0, 0⟩ ::
    (constants.quotes.map fun quote => quoteCall constants quote.1 quote.2) ++
      [⟨messageStreamEnd, 0, 0, 0⟩] := by
  simp [calls, Constants.quotes]

variable {ids : PacketFilter.Ids} {place : Nat} {packet : Payload}

/-- The packet of a quote carries the quote of its side. -/
theorem payloadMessage_quote (valid : constants.Valid) {slot : Slot}
    (tracked : ids.slotOf (BitVec.ofNat 32 constants.instrumentId) = some slot)
    {isAsk : Bool} {quantity : Nat}
    (built : buildPacket constants (place + 1) (1000 + 100 * place)
      (quoteCall constants isAsk quantity) = some packet) :
    payloadMessage ids packet = some (.quote ((constants.prices valid slot).quote (place + 1)
      ⟨isAsk, BitVec.ofNat 64 (1000 + 100 * place), BitVec.ofNat 32 quantity⟩)) := by
  have fields := unpack_pack built
  have accepted : protocolIsValid (unpack packet) = true := by
    rw [fields, protocolIsValid_iff]
    cases isAsk <;> simp [quoteCall]
  rw [payloadMessage, if_pos accepted, fields, fieldsMessage]
  cases isAsk <;>
    simp [quoteCall, messageQuoteUpdate, messageStreamStart, messageStreamEnd, tracked,
      FixedPrices.quote, Constants.prices]

/-- A packet built as a START or an END is the control message. -/
theorem payloadMessage_control {messageType : Nat} {control : Control}
    (kind : messageType = messageStreamStart ∧ control = .start ∨
      messageType = messageStreamEnd ∧ control = .stop)
    (built : buildPacket constants (place + 1) (1000 + 100 * place) ⟨messageType, 0, 0, 0⟩ =
      some packet) : payloadMessage ids packet = some (.control control) := by
  have fields := unpack_pack built
  have accepted : protocolIsValid (unpack packet) = true := by
    rw [fields, protocolIsValid_iff]
    rcases kind with ⟨rfl, _⟩ | ⟨rfl, _⟩ <;> simp
  rw [payloadMessage, if_pos accepted, fields, fieldsMessage]
  rcases kind with ⟨rfl, rfl⟩ | ⟨rfl, rfl⟩ <;> simp [messageStreamStart, messageStreamEnd]

/-- The packets built from quotes are the quote messages of their prices. -/
theorem messages_quotes (valid : constants.Valid) {slot : Slot}
    (tracked : ids.slotOf (BitVec.ofNat 32 constants.instrumentId) = some slot)
    {quotes : List (Bool × Nat)} {packets : List Payload}
    (builds : Builds constants place
      (quotes.map fun quote => quoteCall constants quote.1 quote.2) packets) :
    packets.filterMap (payloadMessage ids) =
      (constants.prices valid slot).quotes (place + 1) (updatesFrom place quotes) := by
  induction quotes generalizing place packets with
  | nil =>
      cases builds
      rfl
  | cons quote quotes ih =>
      cases builds with
      | cons built later =>
          rw [List.filterMap_cons, payloadMessage_quote valid tracked built, ih later]
          rfl

/-- The decisions of the test: one at the end of the warm-up, which is held like the first
quote behind it, and those on the larger quantities. -/
def Constants.decisions (constants : Constants) (prices : FixedPrices) : List Decision :=
  let quantity (number : Nat) : BitVec 32 := BitVec.ofNat 32 number
  [prices.decide ⟨4, 1, 2, 100⟩ 4300#64 (quantity constants.quantity) (quantity constants.quantity),
    prices.decide ⟨4, 1, 2, 100⟩ 4400#64 (quantity constants.quantity)
      (quantity constants.quantity),
    prices.decide ⟨4, 1, 2, 100⟩ 4500#64 (quantity constants.buyQuantity)
      (quantity constants.quantity),
    prices.decide ⟨4, 1, 2, 100⟩ 4600#64 (quantity constants.buyQuantity)
      (quantity constants.sellQuantity)]

/-- The first updates of the test lead to the first of its decisions. -/
theorem decisions_updates (constants : Constants) (prices : FixedPrices) (count : Nat) :
    prices.decisions ⟨4, 1, 2, 100⟩ 0 ⟨none, none⟩
        (updatesFrom 1 (constants.quotes.take count)) =
      (constants.decisions prices).take (count - 32) := by
  have whole : updatesFrom 1 constants.quotes =
      ⟨false, 1100#64, BitVec.ofNat 32 constants.quantity⟩ ::
        ⟨true, 1200#64, BitVec.ofNat 32 constants.quantity⟩ ::
          (updatesFrom 1 constants.quotes).drop 2 := rfl
  have warm : prices.decisions ⟨4, 1, 2, 100⟩ 1 ⟨some (BitVec.ofNat 32 constants.quantity),
      some (BitVec.ofNat 32 constants.quantity)⟩ ((updatesFrom 1 constants.quotes).drop 2) =
        constants.decisions prices := rfl
  rw [updatesFrom_take]
  rcases count with _ | _ | count
  · rfl
  · rw [whole]
    rfl
  · rw [whole, List.take_succ_cons, List.take_succ_cons, ← warm, Nat.add_sub_add_right]
    exact FixedPrices.decisions_take _ _ _ _ count

/-- After each packet of the test the session has made the decisions up to there. -/
theorem payloadSignals_take (valid : constants.Valid) {slot : Slot}
    (tracked : ids.slotOf (BitVec.ofNat 32 constants.instrumentId) = some slot)
    {packets : List Payload} (builds : Builds constants 0 (calls constants) packets) (count : Nat) :
    payloadSignals ids (packets.take count) =
      ((constants.decisions (constants.prices valid slot)).take (count - 33)).map
        decisionSignal := by
  have built := builds.take count
  cases count with
  | zero => rfl
  | succ count =>
      rw [calls_eq, List.cons_append, List.take_succ_cons, List.take_append,
        ← List.map_take] at built
      generalize packets.take (count + 1) = sent at built
      cases built with
      | @cons _ _ _ start _ started later =>
          obtain ⟨quotes, stops, rfl, quoted, stopped⟩ := later.append
          have silent (session : Session) : session.decisions ⟨4, 1, 2, 100⟩
              (stops.filterMap (payloadMessage ids)) = [] := by
            generalize count - _ = room at stopped
            cases room with
            | zero =>
                cases stopped
                rfl
            | succ room =>
                rw [List.take_succ_cons, List.take_nil] at stopped
                cases stopped with
                | cons closed rest =>
                    cases rest
                    rw [List.filterMap_cons, payloadMessage_control (Or.inr ⟨rfl, rfl⟩) closed]
                    rfl
          rw [payloadSignals, List.filterMap_cons,
            payloadMessage_control (Or.inl ⟨rfl, rfl⟩) started, List.filterMap_append,
            messages_quotes valid tracked quoted]
          have decided := (FixedPrices.holds_start (constants.prices valid slot) Session.initial
            2).decisions ⟨4, 1, 2, 100⟩ (updatesFrom 1 (constants.quotes.take count))
          simp only [Session.decisions, Session.decision, Option.toList_none, List.nil_append]
          rw [Session.decisions_append, decided, silent, List.append_nil, decisions_updates,
            Nat.add_sub_add_right]

end Messages

section Main

variable {constants : Constants}

/-- Every packet of the test can be packed. -/
theorem exists_builds (valid : constants.Valid) {calls : List Call} {place : Nat}
    (small : place + calls.length < 2 ^ 32)
    (fits : ∀ call ∈ calls, call.messageType < 256 ∧ call.side < 256 ∧
      call.priceTicks < 2 ^ 32 ∧ call.quantity < 2 ^ 32) :
    ∃ packets, Builds constants place calls packets := by
  induction calls generalizing place with
  | nil => exact ⟨[], .nil⟩
  | cons call calls ih =>
      rw [List.length_cons] at small
      obtain ⟨kind, side, price, quantity⟩ := fits call List.mem_cons_self
      have instrument := valid.instrumentId
      obtain ⟨packets, later⟩ := ih (by omega : place + 1 + calls.length < 2 ^ 32)
        fun other member => fits other (List.mem_cons_of_mem _ member)
      have built : buildPacket constants (place + 1) (1000 + 100 * place) call = some _ :=
        dif_pos (by constructor <;> simp only [magicBytes] <;> first | rfl | omega)
      exact ⟨_, .cons built later⟩

/-- Valid constants fit the fields of every call. -/
theorem calls_fit (valid : constants.Valid) : ∀ call ∈ calls constants,
    call.messageType < 256 ∧ call.side < 256 ∧ call.priceTicks < 2 ^ 32 ∧
      call.quantity < 2 ^ 32 := by
  obtain ⟨_, ask, order, quantity, buy, sell⟩ := valid
  have quote (isAsk : Bool) {size : Nat} (small : size < 2 ^ 32) :
      let call := quoteCall constants isAsk size
      call.messageType < 256 ∧ call.side < 256 ∧ call.priceTicks < 2 ^ 32 ∧
        call.quantity < 2 ^ 32 := by
    cases isAsk <;> simp only [quoteCall, messageQuoteUpdate] <;>
      exact ⟨by decide, by decide, by simp; omega, small⟩
  intro call member
  rw [calls_eq, List.cons_append, List.mem_cons, List.mem_append, List.mem_singleton] at member
  rcases member with rfl | member | rfl
  · exact ⟨by decide, by decide, by decide, by decide⟩
  · obtain ⟨⟨isAsk, size⟩, among, rfl⟩ := List.mem_map.mp member
    refine quote isAsk ?_
    simp only [Constants.quotes, List.mem_append, List.mem_cons, List.mem_map, Prod.mk.injEq,
      List.not_mem_nil, or_false] at among
    rcases among with (⟨_, rfl⟩ | ⟨_, _, _, rfl⟩) | ⟨_, rfl⟩ | ⟨_, rfl⟩ | ⟨_, rfl⟩ <;> assumption
  · exact ⟨by decide, by decide, by decide, by decide⟩

/-- Through any schedule of the design and from any contents of its memories, the decision
test sends all of its packets. Whenever some of them have been sent, the board has shown
the decisions up to there and nothing else: none in front of the last quote of the
warm-up, and one for each quote from there on. -/
theorem decision_test_shows (constants : Constants) (valid : constants.Valid) :
    ∃ packets, Builds constants 0 (calls constants) packets ∧
      ∀ (params : EngineWrapper.Params) (slot : Slot),
        params.ids.slotOf (BitVec.ofNat 32 constants.instrumentId) = some slot →
        ∀ (before : BlockDesign.State) (held : PacketParser.Input)
          (input : Nat → PacketParser.Input),
          (∀ dma, LoopsThrough (PacketParser.sAxis false input) (PacketParser.mAxis false input) dma
              (packets.map ([·])) →
            ∀ count ≤ 38, run constants dma count =
              .ok ⟨count + 1, 1000 + 100 * count, packets.take count⟩) ∧
          ∀ count cycle, acceptedBeats input cycle = presented ((packets.take count).map ([·])) →
            signalsBefore params before held input (cycle + 9) =
              ((constants.decisions (constants.prices valid slot)).take (count - 33)).map
                decisionSignal := by
  obtain ⟨packets, builds⟩ :=
    exists_builds valid (by simp [calls] : 0 + (calls constants).length < 2 ^ 32) (calls_fit valid)
  have size : packets.length = 38 := builds.length_eq.trans (by simp [calls])
  refine ⟨packets, builds, fun params slot tracked before held input => ⟨?_, ?_⟩⟩
  · intro dma loops count few
    have nonempty : ∀ transfer ∈ packets.map ([·]), transfer ≠ [] := by
      intro transfer member
      obtain ⟨packet, _, rfl⟩ := List.mem_map.mp member
      exact List.cons_ne_nil _ _
    have agree := loops.returns (PacketParser.elasticRegister false input).lossless nonempty
    have returns : ∀ index packet, (packets.take count)[index]? = some packet →
        dma (0 + index) packet.1 = some packet.1 := by
      intro index packet at_
      rw [List.getElem?_take] at at_
      split_ifs at at_
      have answer := agree index [packet] (by rw [List.getElem?_map, at_]; rfl)
      simpa [joinPackets, loopback] using answer
    have sends : ((calls constants).take count).foldlM (send constants dma) ⟨1, 1000, []⟩ = _ :=
      foldlM_send (builds.take count) rfl returns
    rw [run, sends, List.length_take, size, Nat.min_eq_left few, Nat.zero_add, List.nil_append]
  · intro count cycle accepted
    have flat : ((packets.take count).map ([·])).flatten = packets.take count := by
      rw [← List.flatMap_def, List.flatMap_singleton']
    rw [signalsBefore_add, accepted, LiveReceiver.reference_presented, flat,
      payloadSignals_take valid tracked builds]

end Main

/-- The constants of the module, with the default instruments and a schedule without gaps:
the signals are the printed ones, behind one that is held at the end of the warm-up. -/
theorem decision_test_shows_expected : ∃ packets, Builds constants 0 (calls constants) packets ∧
    let beats := presented (packets.map ([·]))
    run constants loopback 38 = .ok ⟨39, 4800, packets⟩ ∧
      signalsBefore .default (staleBoard 7#33) (PacketParser.offered beats 0)
          (PacketParser.offered beats) (beats.length + 9) =
        [⟨0#3, 4300#64, 0#2, 0, 104⟩, ⟨0#3, 4400#64, 0#2, 0, 104⟩,
          ⟨0#3, 4500#64, 1#2, 200, 104⟩, ⟨0#3, 4600#64, 2#2, -200, 104⟩] := by
  have valid : constants.Valid := ⟨by decide, by decide, by decide, by decide, by decide, by decide⟩
  obtain ⟨packets, builds, shows⟩ := decision_test_shows constants valid
  have size : packets.length = 38 := builds.length_eq
  let beats := presented (packets.map ([·]))
  have nonempty : ∀ transfer ∈ packets.map ([·]), transfer ≠ [] := by
    intro transfer member
    obtain ⟨packet, _, rfl⟩ := List.mem_map.mp member
    exact List.cons_ne_nil _ _
  obtain ⟨runs, shown⟩ := shows .default ⟨0#3, by decide⟩ (by decide) (staleBoard 7#33)
    (PacketParser.offered beats 0) (PacketParser.offered beats)
  have sent := runs loopback (LiveReceiver.loopsThrough_offered false nonempty) 38 (Nat.le_refl _)
  rw [List.take_of_length_le size.le] at sent
  have all := shown 38 beats.length
    (by rw [acceptedBeats_offered, List.take_of_length_le size.le])
  refine ⟨packets, builds, sent, all.trans ?_⟩
  simp [Constants.decisions, Constants.prices, FixedPrices.decide, decisionSignal, Decision.signal,
    TradeSignal.bits, constants, WeightedDecision.signalHold, WeightedDecision.signalBuy,
    WeightedDecision.signalSell]

end HftPipeline.Host.DecisionTest
