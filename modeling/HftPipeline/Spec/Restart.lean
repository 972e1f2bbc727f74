import Mathlib.Data.List.Infix
import HftPipeline.Spec.Separation
import HftPipeline.Std.Averages

/-!
# Joining a stream late

A session that is started in the middle of a stream knows less than one that has seen the
stream from the beginning: its books hold some of the levels, and its histories the
newest of the midpoints. It has no sample of an instrument until it has both levels, and
decides when its history covers the windows, so each of its decisions is made by the
other session too, and from its first decision for an instrument on they agree. Once it
has both levels it has every sample, and the other session decides at most 31 times more
before its history is long enough.
-/

namespace HftPipeline.Spec

open HftPipeline.Rtl HftPipeline.Std

/-- Every level of a book is a level of another. -/
structure Book.Within (late full : Book) : Prop where
  bid : ∀ level ∈ late.bid, full.bid = some level
  ask : ∀ level ∈ late.ask, full.ask = some level

/-- Both levels are known. -/
def Book.TwoSided (book : Book) : Prop := book.bid ≠ none ∧ book.ask ≠ none

section Books

variable {late full : Book}

/-- The empty book is within every other. -/
theorem Book.empty_within (full : Book) : Book.empty.Within full := ⟨nofun, nofun⟩

/-- A book with both levels is the whole book. -/
theorem Book.Within.eq (within : late.Within full) (sides : late.TwoSided) : full = late := by
  obtain ⟨bid, bids⟩ := Option.ne_none_iff_exists'.mp sides.1
  obtain ⟨ask, asks⟩ := Option.ne_none_iff_exists'.mp sides.2
  obtain ⟨fullBid, fullAsk⟩ := full
  obtain ⟨lateBid, lateAsk⟩ := late
  simp only at bids asks
  subst bids asks
  rw [show fullBid = some bid from within.bid bid rfl, show fullAsk = some ask from
    within.ask ask rfl]

/-- A quote that is applied stays within, and takes no level away. -/
theorem Book.Within.apply (within : late.Within full) (quote : Quote) :
    Option.Rel (fun late' full' => late'.Within full' ∧ (late.TwoSided → late'.TwoSided))
      (late.apply quote) (full.apply quote) := by
  rw [Book.apply, Book.apply]
  split_ifs
  · exact .some ⟨⟨fun _ => id, within.ask⟩, fun sides => ⟨Option.some_ne_none _, sides.2⟩⟩
  · exact .some ⟨⟨within.bid, fun _ => id⟩, fun sides => ⟨sides.1, Option.some_ne_none _⟩⟩
  · exact .none

/-- A book with a side missing gives no sample. -/
theorem Book.sample_of_not_twoSided (oneSided : ¬late.TwoSided) (quote : Quote) :
    late.sample quote = none := by
  obtain ⟨_ | bid, _ | ask⟩ := late
  · rfl
  · rfl
  · rfl
  · exact absurd ⟨Option.some_ne_none bid, Option.some_ne_none ask⟩ oneSided

end Books

/-- What a quote does to the book and the history of its own instrument. -/
theorem Session.next_own (session : Session) {quote : Quote} {slot : Slot}
    (own : quote.slot = slot) :
    (session.next (some (.quote quote))).books slot =
        (session.bookAfter quote).getD (session.books slot) ∧
      (session.next (some (.quote quote))).history slot =
        ((session.sample quote).map Sample.midpoint2).toList ++ session.history slot := by
  subst own
  simp only [Session.next]
  constructor
  · cases session.bookAfter quote with
    | none => rfl
    | some book => exact Function.update_self _ _ _
  · cases sampled : session.sample quote with
    | none => rfl
    | some sample =>
        have slots : sample.slot = quote.slot := (Session.sample_eq_some.mp sampled).2.2.1
        simp only [slots, Function.update_self, Session.historyWith]
        rfl

/-- What a session that has joined late knows of an instrument. -/
structure Session.JoinsAt (slot : Slot) (late full : Session) : Prop where
  book : (late.books slot).Within (full.books slot)
  history : late.history slot <+: full.history slot
  early : ¬(late.books slot).TwoSided → late.history slot = []

/-- A fresh session joins every other one at every slot. -/
theorem Session.joinsAt_initial (slot : Slot) (full : Session) :
    ({ Session.initial with active := true } : Session).JoinsAt slot full :=
  ⟨Book.empty_within _, List.nil_prefix, fun _ => rfl⟩

namespace Session.JoinsAt

variable {slot : Slot} {late full : Session} {quote : Quote}

/-- A quote both sessions let through leaves the late book within the full one. -/
theorem bookAfter (joins : late.JoinsAt slot full) (own : quote.slot = slot)
    (same : late.forwards quote = full.forwards quote) :
    Option.Rel (fun left right => left.Within right ∧
        ((late.books slot).TwoSided → left.TwoSided))
      (late.bookAfter quote) (full.bookAfter quote) := by
  rw [Session.bookAfter, Session.bookAfter, same, own]
  split_ifs
  · exact joins.book.apply quote
  · exact .none

/-- Both sessions get the same sample, or the late one none while its book lacks a side. -/
theorem sample (joins : late.JoinsAt slot full) (own : quote.slot = slot)
    (same : late.forwards quote = full.forwards quote) :
    late.sample quote = full.sample quote ∨
      late.sample quote = none ∧ ¬(late.books slot).TwoSided := by
  have books := joins.bookAfter own same
  rw [Session.sample, Session.sample]
  generalize late.bookAfter quote = lateBook at books ⊢
  generalize full.bookAfter quote = fullBook at books ⊢
  cases books with
  | none => exact .inl rfl
  | @some lateBook fullBook kept =>
      by_cases sides : lateBook.TwoSided
      · rw [kept.1.eq sides]
        exact .inl rfl
      · exact .inr ⟨Book.sample_of_not_twoSided sides quote, mt kept.2 sides⟩

/-- A quote both sessions let through keeps them joined at the slot. -/
theorem next_quote (joins : late.JoinsAt slot full)
    (same : late.forwards quote = full.forwards quote) :
    (late.next (some (.quote quote))).JoinsAt slot (full.next (some (.quote quote))) := by
  by_cases own : quote.slot = slot
  · have samples := joins.sample own same
    have books := joins.bookAfter own same
    obtain ⟨lateBook, lateHistory⟩ := late.next_own own
    obtain ⟨fullBook, fullHistory⟩ := full.next_own own
    have sampled : late.sample quote = (late.bookAfter quote).bind (·.sample quote) := rfl
    generalize late.bookAfter quote = left at books lateBook sampled
    generalize full.bookAfter quote = right at books fullBook
    constructor
    · rw [lateBook, fullBook]
      cases books with
      | none => exact joins.book
      | some kept => exact kept.1
    · rw [lateHistory, fullHistory]
      rcases samples with alike | ⟨none, oneSided⟩
      · rw [alike]
        exact (List.prefix_append_right_inj _).mpr joins.history
      · rw [none, joins.early oneSided]
        exact List.nil_prefix
    · rw [lateBook, lateHistory, sampled]
      intro oneSided
      cases books with
      | none => exact joins.early oneSided
      | @some left right kept =>
          have unseen : late.history slot = [] := joins.early (mt kept.2 oneSided)
          have silent : left.sample quote = none := Book.sample_of_not_twoSided oneSided quote
          rw [Option.bind_some, silent, unseen]
          rfl
  · obtain ⟨lateBook, lateHistory⟩ := late.next_other own
    obtain ⟨fullBook, fullHistory⟩ := full.next_other own
    exact ⟨by rw [lateBook, fullBook]; exact joins.book,
      by rw [lateHistory, fullHistory]; exact joins.history,
      by rw [lateBook, lateHistory]; exact joins.early⟩

/-- A book that has both levels keeps them. -/
theorem twoSided_next (joins : late.JoinsAt slot full)
    (same : late.forwards quote = full.forwards quote) (sides : (late.books slot).TwoSided) :
    ((late.next (some (.quote quote))).books slot).TwoSided := by
  by_cases own : quote.slot = slot
  · have books := joins.bookAfter own same
    rw [(late.next_own own).1]
    generalize late.bookAfter quote = left at books ⊢
    generalize full.bookAfter quote = right at books
    cases books with
    | none => exact sides
    | some kept => exact kept.2 sides
  · rw [(late.next_other own).1]
    exact sides

/-- A full history of the late session decides in both alike. -/
theorem decide_eq (joins : late.JoinsAt slot full) (weights : Weights) {sample : Sample}
    (own : sample.slot = slot) (warm : 32 ≤ (late.historyWith sample).length) :
    weights.decide (sample.features (full.historyWith sample)) =
      weights.decide (sample.features (late.historyWith sample)) := by
  have histories : late.historyWith sample <+: full.historyWith sample := by
    rw [Session.historyWith, Session.historyWith, own]
    exact (List.prefix_cons_inj _).mpr joins.history
  obtain ⟨rest, split⟩ := histories
  rw [← split, Sample.features, Sample.features,
    RingWindow.recentSum_append (by omega), RingWindow.recentSum_append warm]

/-- A decision of the late session is one of the other. Where only the other one decides, the
book of the late session lacks a side or its history grows without covering the windows. -/
theorem decision (joins : late.JoinsAt slot full) (weights : Weights) (own : quote.slot = slot)
    (same : late.forwards quote = full.forwards quote) :
    late.decision weights (some (.quote quote)) = full.decision weights (some (.quote quote)) ∨
      late.decision weights (some (.quote quote)) = none ∧
        ((late.books slot).TwoSided → (late.history slot).length + 1 =
          ((late.next (some (.quote quote))).history slot).length ∧
            (late.history slot).length + 1 < 32) := by
  simp only [Session.decision]
  rcases joins.sample own same with alike | ⟨silent, oneSided⟩
  · rw [← alike, (late.next_own own).2]
    cases sampled : late.sample quote with
    | none => exact .inl rfl
    | some sample =>
        have slots : sample.slot = slot := (Session.sample_eq_some.mp sampled).2.2.1.trans own
        simp only [Option.bind_some]
        by_cases warm : 32 ≤ (late.historyWith sample).length
        · have longer : (late.historyWith sample).length ≤ (full.historyWith sample).length := by
            have shorter := joins.history.length_le
            simp only [Session.historyWith, slots, List.length_cons]
            omega
          rw [if_pos warm, if_pos (warm.trans longer), joins.decide_eq weights slots warm]
          exact .inl rfl
        · refine .inr ⟨if_neg warm, fun _ => ⟨rfl, ?_⟩⟩
          simpa only [Session.historyWith, slots, List.length_cons, Nat.not_le] using warm
  · rw [silent]
    exact .inr ⟨rfl, fun sides => absurd sides oneSided⟩

end Session.JoinsAt

/-- The decisions for one instrument. -/
def Session.decisionsFor (slot : Slot) (weights : Weights) (session : Session)
    (messages : List Message) : List Decision :=
  (session.decisions weights messages).filter (·.slot = slot)

/-- The decisions of a slot are those of the first message and of the rest. -/
theorem Session.decisionsFor_cons (slot : Slot) (weights : Weights) (session : Session)
    (message : Message) (messages : List Message) :
    session.decisionsFor slot weights (message :: messages) =
      ((session.decision weights (some message)).filter (·.slot = slot)).toList ++
        (session.next (some message)).decisionsFor slot weights messages := by
  rw [Session.decisionsFor, Session.decisions, List.filter_append, Session.decisionsFor]
  cases session.decision weights (some message) with
  | none => rfl
  | some decision => by_cases own : decision.slot = slot <;> simp [Option.filter, own]

/-- A decision has completed the windows of its instrument. -/
theorem Session.warm_of_decision {weights : Weights} {session : Session}
    {quote : Quote} {slot : Slot} {decision : Decision} (own : quote.slot = slot)
    (decided : session.decision weights (some (.quote quote)) = some decision) :
    32 ≤ ((session.next (some (.quote quote))).history slot).length := by
  obtain ⟨sample, sampled, warm, _⟩ := Session.decision_eq_some.mp decided
  have slots : sample.slot = slot := (Session.sample_eq_some.mp sampled).2.2.1.trans own
  rw [(session.next_own own).2, sampled]
  rw [Session.historyWith, slots] at warm
  exact warm

section Quotes

variable {slot : Slot} {late full : Session} {quote : Quote}

/-- What the late session decides from a quote on ends what the other one decides, and once it
has both levels it lacks no more decisions than midpoints for its first one. -/
theorem Session.JoinsAt.decisionsFor_quote (joins : late.JoinsAt slot full)
    (same : late.forwards quote = full.forwards quote) (weights : Weights)
    {messages : List Message} {extra : List Decision}
    (later : (full.next (some (.quote quote))).decisionsFor slot weights messages =
      extra ++ (late.next (some (.quote quote))).decisionsFor slot weights messages)
    (few : ((late.next (some (.quote quote))).books slot).TwoSided →
      extra.length ≤ 31 - ((late.next (some (.quote quote))).history slot).length) :
    ∃ all, full.decisionsFor slot weights (.quote quote :: messages) =
        all ++ late.decisionsFor slot weights (.quote quote :: messages) ∧
      ((late.books slot).TwoSided → all.length ≤ 31 - (late.history slot).length) := by
  rw [Session.decisionsFor_cons, Session.decisionsFor_cons, later]
  have next := joins.next_quote same
  have bounded (sides : (late.books slot).TwoSided) := few (joins.twoSided_next same sides)
  by_cases own : quote.slot = slot
  · have grows : (late.history slot).length ≤
        ((late.next (some (.quote quote))).history slot).length := by
      rw [(late.next_own own).2, List.length_append]
      exact Nat.le_add_left _ _
    rcases joins.decision weights own same with alike | ⟨silent, cold⟩
    · rw [← alike]
      cases decided : late.decision weights (some (.quote quote)) with
      | none => exact ⟨extra, rfl, fun sides => (bounded sides).trans (by omega)⟩
      | some decision =>
          have warm := Session.warm_of_decision own decided
          have sides : ((late.next (some (.quote quote))).books slot).TwoSided :=
            of_not_not fun oneSided => by simp [next.early oneSided] at warm
          have none : extra = [] := List.eq_nil_of_length_eq_zero (by have := few sides; omega)
          rw [none]
          exact ⟨[], rfl, fun _ => Nat.zero_le _⟩
    · rw [silent]
      refine ⟨_, (List.append_assoc _ _ _).symm, fun sides => ?_⟩
      have one : ((full.decision weights (some (.quote quote))).filter
          (·.slot = slot)).toList.length ≤ 1 := Option.length_toList_le
      have short := bounded sides
      obtain ⟨step, room⟩ := cold sides
      rw [List.length_append]
      omega
  · have foreign (session : Session) :
        (session.decision weights (some (.quote quote))).filter (·.slot = slot) = none := by
      refine Option.filter_eq_none_iff.mpr fun decision decided => ?_
      have slots : decision.slot = quote.slot := Session.slot_of_decision decided
      simp [slots, own]
    rw [foreign, foreign]
    refine ⟨extra, rfl, fun sides => ?_⟩
    rw [← (late.next_other own).2]
    exact bounded sides

end Quotes

/-- The late session of a stream that both sessions follow. -/
structure Session.Joins (slot : Slot) (late full : Session) : Prop
    extends late.JoinsAt slot full where
  active : late.active = full.active
  last : late.last = full.last

namespace Session.Joins

variable {slot : Slot} {late full : Session}

/-- Joined sessions let the same quotes through. -/
theorem forwards (joins : late.Joins slot full) (quote : Quote) :
    late.forwards quote = full.forwards quote := by
  rw [Session.forwards, Session.forwards, joins.active, joins.last]

/-- A quote keeps joined sessions joined. -/
theorem next_quote (joins : late.Joins slot full) (quote : Quote) :
    (late.next (some (.quote quote))).Joins slot (full.next (some (.quote quote))) where
  toJoinsAt := joins.toJoinsAt.next_quote (joins.forwards quote)
  active := joins.active
  last := by simp only [Session.next, joins.forwards quote, joins.last]

/-- A message keeps joined sessions joined. -/
theorem next (joins : late.Joins slot full) (message : Message) :
    (late.next (some message)).Joins slot (full.next (some message)) := by
  cases message with
  | quote quote => exact joins.next_quote quote
  | control pulse =>
      cases pulse with
      | start => exact ⟨Session.joinsAt_initial slot _, rfl, rfl⟩
      | stop => exact ⟨⟨joins.book, joins.history, joins.early⟩, rfl, joins.last⟩

/-- Messages keep joined sessions joined. -/
theorem after (joins : late.Joins slot full) (messages : List Message) :
    (late.after messages).Joins slot (full.after messages) := by
  induction messages generalizing late full with
  | nil => exact joins
  | cons message messages ih => exact ih (joins.next message)

/-- The decisions of a late session for an instrument are the last ones of a session that
has seen everything, and once it has both levels it lacks at most 31. -/
theorem decisionsFor (joins : late.Joins slot full) (weights : Weights) (messages : List Message) :
    ∃ all, full.decisionsFor slot weights messages =
        all ++ late.decisionsFor slot weights messages ∧
      ((late.books slot).TwoSided → all.length ≤ 31 - (late.history slot).length) := by
  induction messages generalizing late full with
  | nil => exact ⟨[], rfl, fun _ => Nat.zero_le _⟩
  | cons message messages ih =>
      cases message with
      | control pulse =>
          cases pulse with
          | start => exact ⟨[], rfl, fun _ => Nat.zero_le _⟩
          | stop => exact ih (joins.next (.control .stop))
      | quote quote =>
          obtain ⟨extra, later, few⟩ := ih (joins.next_quote quote)
          exact joins.toJoinsAt.decisionsFor_quote (joins.forwards quote) weights later few

end Session.Joins

/-- The decisions of a slot from two runs of messages follow one another. -/
theorem Session.decisionsFor_append (slot : Slot) (weights : Weights) (session : Session)
    (front back : List Message) :
    session.decisionsFor slot weights (front ++ back) =
      session.decisionsFor slot weights front ++
        (session.after front).decisionsFor slot weights back := by
  rw [Session.decisionsFor, Session.decisions_append, List.filter_append]
  rfl

section Restarts

variable {session : Session} {first : Quote} (counts : session.forwards first = true) (slot : Slot)

include counts

/-- A session that is started in front of a quote that counts has joined the stream behind
it. -/
theorem Session.joins_restart :
    (Session.initial.after [.control .start, .quote first]).Joins slot
      (session.next (some (.quote first))) where
  toJoinsAt := (Session.joinsAt_initial slot session).next_quote counts.symm
  active := (Bool.and_eq_true_iff.mp counts).1.symm
  last := by
    simp only [Session.next, counts, if_true]
    rfl

variable (weights : Weights)

/-- A session that is started in front of a quote that counts makes the last of the decisions
for each instrument. -/
theorem Session.decisionsFor_restart (messages : List Message) :
    Session.initial.decisionsFor slot weights (.control .start :: .quote first :: messages) <:+
      session.decisionsFor slot weights (.quote first :: messages) := by
  have started : Session.initial.next (some (.control .start)) =
      { Session.initial with active := true } := rfl
  obtain ⟨extra, later, few⟩ :=
    (Session.joins_restart counts slot).decisionsFor weights messages
  obtain ⟨all, ends, _⟩ := (Session.joinsAt_initial slot session).decisionsFor_quote
    counts.symm weights later few
  rw [Session.decisionsFor_cons, started, ends]
  exact List.suffix_append _ _

/-- What it lacks behind the point where it has both levels is at most 31 decisions. -/
theorem Session.length_decisionsFor_restart (front back : List Message)
    (sides : ((Session.initial.after (.control .start :: .quote first :: front)).books
      slot).TwoSided) :
    (session.decisionsFor slot weights (.quote first :: (front ++ back))).length ≤
      (session.decisionsFor slot weights (.quote first :: front)).length + 31 +
        (Session.initial.decisionsFor slot weights
          (.control .start :: .quote first :: (front ++ back))).length := by
  obtain ⟨lost, ends, few⟩ :=
    ((Session.joins_restart counts slot).after front).decisionsFor weights back
  have whole := session.decisionsFor_append slot weights (.quote first :: front) back
  have late := Session.initial.decisionsFor_append slot weights
    (.control .start :: .quote first :: front) back
  have behind : (session.after (.quote first :: front)).decisionsFor slot weights back =
      lost ++ (Session.initial.after (.control .start :: .quote first :: front)).decisionsFor
        slot weights back := ends
  have bound : lost.length ≤ 31 := (few sides).trans (Nat.sub_le _ _)
  simp only [List.cons_append] at whole late
  rw [whole, late, behind, List.length_append, List.length_append, List.length_append]
  omega

end Restarts

end HftPipeline.Spec
