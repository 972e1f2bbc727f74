import HftPipeline.Rtl.SlotArray
import HftPipeline.Std.RingWindow

/-!
# The trading session, one packet at a time

This is what the engine is for, stated without a clock: a session is switched on
and off by control messages, admits quotes by their sequence number, keeps the
best bid and ask of every instrument, and turns each two-sided uncrossed book
into a midpoint sample. From the 32nd sample of an instrument on, every sample
yields a decision.
-/

namespace HftPipeline.Spec

open HftPipeline.Rtl HftPipeline.Std

structure Quote where
  slot : Slot
  side : BitVec 8
  seq : BitVec 32
  timestamp : BitVec 64
  price : BitVec 32
  quantity : BitVec 32
deriving DecidableEq

inductive Control where
  | start
  | stop
deriving DecidableEq

inductive Message where
  | control (control : Control)
  | quote (quote : Quote)
deriving DecidableEq

/-- One side of a book. -/
structure Level where
  price : BitVec 32
  quantity : BitVec 32
deriving DecidableEq

structure Book where
  bid : Option Level
  ask : Option Level
deriving DecidableEq

namespace Book

def empty : Book := ⟨none, none⟩

/-- The book after a quote. Only sides 0 (bid) and 1 (ask) are applied. -/
def apply (book : Book) (quote : Quote) : Option Book :=
  if quote.side = 0#8 then some { book with bid := some ⟨quote.price, quote.quantity⟩ }
  else if quote.side = 1#8 then some { book with ask := some ⟨quote.price, quote.quantity⟩ }
  else none

end Book

/-- A two-sided book that is not crossed, at the time of the quote that made it. -/
structure Sample where
  slot : Slot
  timestamp : BitVec 64
  bid : Level
  ask : Level
  uncrossed : bid.price ≤ ask.price
deriving DecidableEq

/-- Twice the midpoint. -/
def Sample.midpoint2 (sample : Sample) : Nat := sample.bid.price.toNat + sample.ask.price.toNat

/-- The sample a book yields after a quote, unless it is one-sided or crossed. -/
def Book.sample (book : Book) (quote : Quote) : Option Sample :=
  match book.bid, book.ask with
  | some bid, some ask =>
      if uncrossed : bid.price ≤ ask.price then
        some ⟨quote.slot, quote.timestamp, bid, ask, uncrossed⟩
      else
        none
  | _, _ => none

/-- The sequence policy. The first quote of a stream is admitted, and later ones
when they continue the last admitted number or are ahead of its successor. -/
def admits (last : Option (BitVec 32)) (seq : BitVec 32) : Bool :=
  match last with
  | none => true
  | some last => seq = last + 1#32 || (last + 1#32 < seq && seq ≠ last)

/-- The three inputs of a decision. -/
structure Features where
  slot : Slot
  timestamp : BitVec 64
  trend : Int
  imbalance : Int
  spread : Int
deriving DecidableEq

/-- The features of a sample, given the midpoint history that ends with it. The
averages are the floors of the window sums over the window sizes. -/
def Sample.features (sample : Sample) (history : List Nat) : Features where
  slot := sample.slot
  timestamp := sample.timestamp
  trend := (RingWindow.recentSum 8 history / 8 : Nat) - (RingWindow.recentSum 32 history / 32 : Nat)
  imbalance := sample.bid.quantity.toNat - sample.ask.quantity.toNat
  spread := sample.ask.price.toNat - sample.bid.price.toNat

inductive TradeSignal where
  | hold
  | buy
  | sell
deriving DecidableEq

structure Decision where
  slot : Slot
  timestamp : BitVec 64
  score : Int
  required : Int
deriving DecidableEq

/-- The rule that compares the score with the threshold. -/
def Decision.signal (decision : Decision) : TradeSignal :=
  if decision.required < decision.score then .buy
  else if decision.score < -decision.required then .sell
  else .hold

/-- The weights of the scoring model. -/
structure Weights where
  trend : Int
  imbalance : Int
  spread : Int
  base : Int
deriving DecidableEq

def Weights.decide (weights : Weights) (features : Features) : Decision where
  slot := features.slot
  timestamp := features.timestamp
  score := weights.trend * features.trend + weights.imbalance * features.imbalance
  required := weights.base + weights.spread * features.spread

/-- What the session remembers. Each history is newest first. -/
structure Session where
  active : Bool
  last : Option (BitVec 32)
  books : Slot → Book
  history : Slot → List Nat

namespace Session

/-- The session before any message. -/
def initial : Session where
  active := false
  last := none
  books := fun _ => .empty
  history := fun _ => []

/-- Whether a quote counts: the stream is active and its number is admitted. -/
def forwards (session : Session) (quote : Quote) : Bool :=
  session.active && admits session.last quote.seq

/-- The book that a quote leaves, when it counts and has a known side. -/
def bookAfter (session : Session) (quote : Quote) : Option Book :=
  if session.forwards quote then (session.books quote.slot).apply quote else none

/-- The sample that a quote adds. -/
def sample (session : Session) (quote : Quote) : Option Sample :=
  (session.bookAfter quote).bind fun book => book.sample quote

/-- The history of an instrument with a sample added. -/
def historyWith (session : Session) (sample : Sample) : List Nat :=
  sample.midpoint2 :: session.history sample.slot

/-- The session after a message. -/
def next (session : Session) : Option Message → Session
  | none => session
  | some (.control .start) => { initial with active := true }
  | some (.control .stop) => { session with active := false }
  | some (.quote quote) =>
      { session with
        last := if session.forwards quote then some quote.seq else session.last
        books := match session.bookAfter quote with
          | some book => Function.update session.books quote.slot book
          | none => session.books
        history := match session.sample quote with
          | some sample => Function.update session.history sample.slot (session.historyWith sample)
          | none => session.history }

/-- The decision that a message triggers. -/
def decision (weights : Weights) (session : Session) : Option Message → Option Decision
  | some (.quote quote) => (session.sample quote).bind fun sample =>
      let history := session.historyWith sample
      if 32 ≤ history.length then some (weights.decide (sample.features history)) else none
  | _ => none

/-- The session after a list of messages. -/
def after (session : Session) (messages : List Message) : Session :=
  messages.foldl (fun session message => session.next (some message)) session

/-- The decisions of a list of messages, in order. -/
def decisions (weights : Weights) (session : Session) : List Message → List Decision
  | [] => []
  | message :: rest =>
      (session.decision weights (some message)).toList ++
        (session.next (some message)).decisions weights rest

/-- The decisions of two runs of messages follow one another. -/
theorem decisions_append (weights : Weights) (session : Session) (front back : List Message) :
    session.decisions weights (front ++ back) =
      session.decisions weights front ++ (session.after front).decisions weights back := by
  induction front generalizing session with
  | nil => rfl
  | cons message front ih => simp [decisions, after, ih, List.append_assoc]

/-- A cycle without a message leaves the session as it is. -/
@[simp] theorem next_none (session : Session) : session.next none = session := rfl

/-- Samples are taken in an active session only. -/
theorem active_of_sample {session : Session} {quote : Quote} {sample : Sample}
    (sampled : session.sample quote = some sample) : session.active = true := by
  by_cases forwarded : session.forwards quote = true
  · exact (Bool.and_eq_true_iff.mp forwarded).1
  · simp [Session.sample, bookAfter, forwarded] at sampled

/-- A sample is the two-sided book that a forwarded quote makes. -/
theorem sample_eq_some {session : Session} {quote : Quote} {sample : Sample} :
    session.sample quote = some sample ↔ session.forwards quote = true ∧
      (session.books quote.slot).apply quote = some ⟨some sample.bid, some sample.ask⟩ ∧
      sample.slot = quote.slot ∧ sample.timestamp = quote.timestamp := by
  unfold Session.sample bookAfter
  constructor
  · intro sampled
    obtain ⟨book, applied, shown⟩ := Option.bind_eq_some_iff.mp sampled
    by_cases counts : session.forwards quote = true
    · rw [if_pos counts] at applied
      obtain ⟨bid, ask⟩ := book
      cases bid with
      | none => cases shown
      | some bid =>
          cases ask with
          | none => cases shown
          | some ask =>
              simp only [Book.sample] at shown
              split_ifs at shown with uncrossed
              cases shown
              exact ⟨counts, applied, rfl, rfl⟩
    · rw [if_neg counts] at applied
      cases applied
  · rintro ⟨counts, applied, slot, timestamp⟩
    obtain ⟨sampleSlot, sampleTimestamp, bid, ask, uncrossed⟩ := sample
    cases slot
    cases timestamp
    simp only at applied
    rw [if_pos counts, applied, Option.bind_some, Book.sample]
    simp only
    rw [dif_pos uncrossed]

/-- A decision is made of the sample of a quote behind a full history. -/
theorem decision_eq_some {weights : Weights} {session : Session} {quote : Quote}
    {decision : Decision} :
    session.decision weights (some (.quote quote)) = some decision ↔
      ∃ sample, session.sample quote = some sample ∧
        32 ≤ (session.historyWith sample).length ∧
        decision = weights.decide (sample.features (session.historyWith sample)) := by
  simp only [Session.decision, Option.bind_eq_some_iff]
  constructor
  · rintro ⟨sample, sampled, decided⟩
    split_ifs at decided with warm
    cases decided
    exact ⟨sample, sampled, warm, rfl⟩
  · rintro ⟨sample, sampled, warm, rfl⟩
    exact ⟨sample, sampled, if_pos warm⟩

end Session

end HftPipeline.Spec
