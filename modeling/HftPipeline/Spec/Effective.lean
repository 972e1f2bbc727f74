import Mathlib.Tactic.Common
import HftPipeline.Spec.Session

/-!
# Messages that count

A quote counts while a stream is active and when its number exceeds every number that
counted before it in the stream. The decisions of a session are those of the messages
that count, and their numbers serve for nothing else: repetitions, late quotes, quotes
outside a stream and any renumbering that keeps the order leave no trace. The largest
number is left out, because the successor of it is zero.
-/

namespace HftPipeline.Spec

/-- The messages that count, from whether a stream is active and its newest number. -/
def effectiveFrom (active : Bool) (newest : Option Nat) : List Message → List Message
  | [] => []
  | .control .start :: messages => .control .start :: effectiveFrom true none messages
  | .control .stop :: messages => .control .stop :: effectiveFrom false newest messages
  | .quote quote :: messages =>
      if active && newest.all (· < quote.seq.toNat) then
        .quote quote :: effectiveFrom active (some quote.seq.toNat) messages
      else effectiveFrom active newest messages

/-- The messages that count from the beginning. -/
def effective (messages : List Message) : List Message := effectiveFrom false none messages

/-- A message without its number. -/
def Message.unnumbered : Message → Message
  | .control pulse => .control pulse
  | .quote update => .quote { update with seq := 0#32 }

/-- Not a quote with the largest number. -/
def Message.Numbered : Message → Prop
  | .control _ => True
  | .quote update => update.seq.toNat < 2 ^ 32 - 1

instance : DecidablePred Message.Numbered
  | .control _ => isTrue trivial
  | .quote update => inferInstanceAs (Decidable (update.seq.toNat < 2 ^ 32 - 1))

/-- Below the largest number, a number is admitted exactly when it exceeds the last one. -/
theorem admits_eq {last : Option (BitVec 32)} (below : ∀ seq ∈ last, seq.toNat < 2 ^ 32 - 1)
    (seq : BitVec 32) : admits last seq = (last.map BitVec.toNat).all (· < seq.toNat) := by
  cases last with
  | none => rfl
  | some last =>
      have bound := below last rfl
      have successor : (last + 1#32).toNat = last.toNat + 1 := by
        rw [BitVec.toNat_add, BitVec.toNat_ofNat]
        omega
      rw [admits, Option.map_some, Option.all_some, Bool.eq_iff_iff]
      simp only [Bool.or_eq_true, Bool.and_eq_true, decide_eq_true_eq, BitVec.lt_def,
        ← BitVec.toNat_inj, successor, ne_eq]
      omega

namespace Session

/-- The session without its last number. It admits every quote while it is active. -/
def forget (session : Session) : Session := { session with last := none }

/-- The decisions of a session that admits every quote while it is active. -/
def replay (weights : Weights) (session : Session) : List Message → List Decision
  | [] => []
  | message :: messages => (session.forget.decision weights (some message)).toList ++
      (session.forget.next (some message)).replay weights messages

theorem replay_forget (weights : Weights) (session : Session) (messages : List Message) :
    session.forget.replay weights messages = session.replay weights messages := by
  cases messages <;> rfl

section Step

variable (weights : Weights) {session : Session} {quote : Quote}

theorem forwards_eq (below : ∀ seq ∈ session.last, seq.toNat < 2 ^ 32 - 1) (quote : Quote) :
    session.forwards quote =
      (session.active && (session.last.map BitVec.toNat).all (· < quote.seq.toNat)) := by
  rw [forwards, admits_eq below]

/-- A quote that does not count leaves no trace. -/
theorem next_of_refused (refused : session.forwards quote = false) :
    session.next (some (.quote quote)) = session ∧
      session.decision weights (some (.quote quote)) = none := by
  have book : session.bookAfter quote = none := by simp [bookAfter, refused]
  have sample : session.sample quote = none := by simp [Session.sample, book]
  constructor
  · simp [next, refused, book, sample]
  · simp [decision, sample]

variable (session) in
/-- A quote that counts does so whatever its number is. -/
theorem replay_counts (counts : session.forwards quote = true) (messages : List Message) :
    session.replay weights (Message.unnumbered (.quote quote) :: messages) =
      (session.decision weights (some (.quote quote))).toList ++
        (session.next (some (.quote quote))).replay weights messages := by
  have active : session.active = true := (Bool.and_eq_true_iff.mp counts).1
  have unnumbered : session.forget.forwards { quote with seq := 0#32 } = true := by
    simp [forwards, forget, active, admits]
  have book : session.forget.bookAfter { quote with seq := 0#32 } = session.bookAfter quote := by
    rw [bookAfter, bookAfter, if_pos unnumbered, if_pos counts]
    rfl
  have sample : session.forget.sample { quote with seq := 0#32 } = session.sample quote := by
    rw [Session.sample, Session.sample, book]
    rfl
  have same : (session.forget.next (some (.quote { quote with seq := 0#32 }))).forget =
      (session.next (some (.quote quote))).forget := by
    simp only [next, forget] at book sample ⊢
    rw [book, sample]
    rfl
  have decided : session.forget.decision weights (some (.quote { quote with seq := 0#32 })) =
      session.decision weights (some (.quote quote)) := by
    simp only [decision, sample]
    rfl
  rw [Message.unnumbered, replay, decided, ← replay_forget, same, replay_forget]

end Step

/-- The decisions are those of the messages that count, without their numbers. -/
theorem decisions_eq_replay (weights : Weights) (session : Session) {messages : List Message}
    (numbered : ∀ message ∈ messages, message.Numbered)
    (below : ∀ seq ∈ session.last, seq.toNat < 2 ^ 32 - 1) :
    session.decisions weights messages = session.replay weights
      ((effectiveFrom session.active (session.last.map BitVec.toNat) messages).map
        Message.unnumbered) := by
  induction messages generalizing session with
  | nil => rfl
  | cons message messages ih =>
      have later : ∀ message ∈ messages, message.Numbered :=
        fun other member => numbered other (List.mem_cons_of_mem _ member)
      cases message with
      | control control =>
          cases control with
          | start => exact ih { initial with active := true } later (by simp [initial])
          | stop =>
              have closed := ih { session with active := false } later below
              exact closed.trans (replay_forget weights { session with active := false } _).symm
      | quote quote =>
          have fits : quote.seq.toNat < 2 ^ 32 - 1 := numbered _ List.mem_cons_self
          rw [decisions, effectiveFrom, ← forwards_eq below quote]
          cases counts : session.forwards quote with
          | false =>
              obtain ⟨kept, silent⟩ := next_of_refused weights counts
              rw [kept, silent, Option.toList_none, List.nil_append, if_neg (by decide)]
              exact ih session later below
          | true =>
              have newest : (session.next (some (.quote quote))).last = some quote.seq := by
                simp [next, counts]
              have active : (session.next (some (.quote quote))).active = session.active := rfl
              rw [if_pos rfl, List.map_cons, replay_counts weights session counts,
                ih _ later (by rw [newest]; rintro seq ⟨⟩; exact fits), newest, active]
              rfl

/-- From the beginning, messages that agree on what counts lead to the same decisions. -/
theorem decisions_of_effective (weights : Weights) {left right : List Message}
    (leftNumbered : ∀ message ∈ left, message.Numbered)
    (rightNumbered : ∀ message ∈ right, message.Numbered)
    (same : (effective left).map Message.unnumbered = (effective right).map Message.unnumbered) :
    initial.decisions weights left = initial.decisions weights right := by
  have none : ∀ seq ∈ initial.last, seq.toNat < 2 ^ 32 - 1 := by simp [initial]
  have leftReplay := decisions_eq_replay weights initial leftNumbered none
  have rightReplay := decisions_eq_replay weights initial rightNumbered none
  rw [leftReplay, rightReplay]
  exact congrArg _ same

end Session

end HftPipeline.Spec
