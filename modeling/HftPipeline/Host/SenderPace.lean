import HftPipeline.Host.PacedSending

/-!
# The pace of the stream senders

No quote leaves before its deadline, and the deadlines are those of the given rate from
the start of the stream on, so that never more quotes have left than the rate allows. A
quote that leaves late does not move the deadlines behind it: the lateness of a stall is
taken back, and on a clock of fine steps no quote is ever later than a step.
-/

namespace HftPipeline.Host

open HftPipeline.Std HftPipeline.Wire

/-- The deadlines of the first quotes. -/
def deadlines (pps startNs sent : Nat) : List Nat :=
  (List.range sent).map fun index => startNs + index * nanosecondsPerSecond / pps

theorem map_deadlineNs (pps startNs sent : Nat) :
    (List.range' 1 sent).map (deadlineNs pps startNs) = deadlines pps startNs sent := by
  rw [List.range'_eq_map_range, List.map_map, deadlines]
  refine List.map_congr_left fun index _ => ?_
  rw [Function.comp_apply, deadlineNs, Nat.add_sub_cancel_left]

theorem deadlines_getElem? (pps startNs : Nat) {sent index : Nat} (inside : index < sent) :
    (deadlines pps startNs sent)[index]? =
      some (startNs + index * nanosecondsPerSecond / pps) := by
  rw [deadlines, List.getElem?_map, List.getElem?_range inside, Option.map_some]

/-- Consecutive deadlines are at least the whole nanoseconds of a period apart. -/
theorem deadlines_apart (pps startNs sent : Nat) :
    (deadlines pps startNs sent).IsChain fun first second =>
      first + nanosecondsPerSecond / pps ≤ second := by
  rw [deadlines, List.isChain_map, List.range_eq_range']
  refine (List.isChain_range' 0 sent 1).imp fun index next follows => ?_
  have parts : index * nanosecondsPerSecond / pps + nanosecondsPerSecond / pps ≤
      (index * nanosecondsPerSecond + nanosecondsPerSecond) / pps := Nat.div_add_div_le_add_div
  rw [follows, Nat.succ_mul]
  omega

namespace StreamPackets

variable {packets : StreamPackets} {arguments : Arguments} {ticks clock : Nat → Nat}

/-- The waits of a run keep the pace: no quote is early, never more of them than the rate
allows have been released, on a clock of fine steps none is later than a step, and what a
stall delays is caught up as soon as the clock steps finely again. -/
structure Paced (arguments : Arguments) (ticks : Nat → Nat) (quotes : List (Payload × Nat)) :
    Prop where
  punctual : ∀ index quote, quotes[index]? = some quote →
    ticks 0 + index * nanosecondsPerSecond / arguments.pps.toNat ≤ ticks quote.2
  rate : ∀ elapsed, (quotes.countP fun quote => ticks quote.2 < ticks 0 + elapsed) *
    nanosecondsPerSecond < elapsed * arguments.pps.toNat + nanosecondsPerSecond
  prompt : ∀ grain, (∀ reading, ticks (reading + 1) ≤ ticks reading + grain) →
    grain ≤ nanosecondsPerSecond / arguments.pps.toNat →
    ∀ index quote, quotes[index]? = some quote →
      ticks quote.2 ≤ ticks 0 + index * nanosecondsPerSecond / arguments.pps.toNat + grain
  recovers : ∀ index quote late grain, quotes[index]? = some quote →
    ticks quote.2 ≤ ticks 0 + index * nanosecondsPerSecond / arguments.pps.toNat + late →
    (∀ reading ≥ quote.2, ticks (reading + 1) ≤ ticks reading + grain) →
    grain ≤ nanosecondsPerSecond / arguments.pps.toNat →
    ∀ count other, quotes[index + count]? = some other →
      ticks other.2 ≤
        ticks 0 + (index + count) * nanosecondsPerSecond / arguments.pps.toNat +
          max grain (late - count * (nanosecondsPerSecond / arguments.pps.toNat - grain))

/-- The packets are the first quotes of the stream, in order and stamped one after the other. -/
def InOrder (packets : StreamPackets) (clock : Nat → Nat) (sent : Nat) (quotes : List Payload) :
    Prop :=
  List.Forall₂ (fun sequence quote => packets.quote sequence (clock sequence) = some quote)
    (List.range' 1 sent) quotes

/-- There are as many of them as were sent. -/
theorem InOrder.length_eq {packets : StreamPackets} {clock : Nat → Nat} {sent : Nat}
    {quotes : List Payload} (ordered : packets.InOrder clock sent quotes) :
    quotes.length = sent := by
  have same := List.Forall₂.length_eq ordered
  rwa [List.length_range', eq_comm] at same

/-- Of the first quotes, those due within some time are at most what the rate sends in it. -/
theorem countP_deadlines {pps : Nat} (rate : 0 < pps) (startNs sent elapsed : Nat) :
    ((deadlines pps startNs sent).countP fun deadline => deadline < startNs + elapsed) *
      nanosecondsPerSecond < elapsed * pps + nanosecondsPerSecond := by
  have ordered : (deadlines pps startNs sent).Pairwise (· ≤ ·) :=
    ((deadlines_apart pps startNs sent).imp fun _ _ => (Nat.le_add_right _ _).trans).pairwise
  cases counted : (deadlines pps startNs sent).countP fun deadline =>
    deadline < startNs + elapsed with
  | zero =>
      simp only [nanosecondsPerSecond]
      omega
  | succ count =>
      have inside : count < sent := by
        have bound := List.countP_le_length (p := fun deadline => deadline < startNs + elapsed)
          (l := deadlines pps startNs sent)
        rw [counted, deadlines, List.length_map, List.length_range] at bound
        omega
      have due := Pacing.lt_of_countP ordered counted (deadlines_getElem? pps startNs inside)
      have early : count * nanosecondsPerSecond < elapsed * pps :=
        (Nat.div_lt_iff_lt_mul rate).mp (by omega)
      rw [Nat.succ_mul]
      omega

/-- Every sending loop keeps the pace of its rate. -/
theorem Sent.paced {sent : Nat} {quotes : List (Payload × Nat)}
    (sends : Sent packets arguments ticks clock (List.range' 1 sent) 1 quotes)
    (rate : 0 < arguments.pps.toNat) : Paced arguments ticks quotes := by
  have released := sends.released
  rw [map_deadlineNs] at released
  have size : quotes.length = sent := by
    have same := sends.packed.length_eq
    rwa [List.length_range', List.length_map, eq_comm] at same
  have readingOf {index : Nat} {quote : Payload × Nat} (at_ : quotes[index]? = some quote) :
      (quotes.map Prod.snd)[index]? = some quote.2 := by
    rw [List.getElem?_map, at_, Option.map_some]
  have inside {index : Nat} {quote : Payload × Nat} (at_ : quotes[index]? = some quote) :
      index < sent := size ▸ (List.getElem?_eq_some_iff.mp at_).1
  constructor
  · intro index quote at_
    obtain ⟨due, deadline⟩ := List.getElem?_eq_some_iff.mp
      (deadlines_getElem? arguments.pps.toNat (ticks 0) (inside at_))
    obtain ⟨released', reading⟩ := List.getElem?_eq_some_iff.mp (readingOf at_)
    have passed := released.passed.get due released'
    rwa [List.get_eq_getElem, List.get_eq_getElem, deadline, reading] at passed
  · intro elapsed
    have few := released.countP_le (ticks 0 + elapsed)
    rw [List.countP_map] at few
    have scaled := Nat.mul_le_mul_right nanosecondsPerSecond few
    exact scaled.trans_lt (countP_deadlines rate (ticks 0) sent elapsed)
  · intro grain fine finer index quote at_
    have begins : ∀ deadline ∈ (deadlines arguments.pps.toNat (ticks 0) sent).head?,
        ticks 1 ≤ deadline + grain := by
      intro deadline first
      rw [List.head?_eq_getElem?, deadlines_getElem? _ _ (by have := inside at_; omega)] at first
      cases first
      rw [Nat.zero_mul, Nat.zero_div]
      exact fine 0
    have onTime := released.recovers (nanosecondsPerSecond / arguments.pps.toNat) grain
      (fun later _ => fine later) (by simpa using finer) begins (deadlines_apart _ _ _)
      (deadlines_getElem? _ _ (inside at_)) (readingOf at_)
    rwa [max_eq_left (Nat.sub_le _ _)] at onTime
  · intro index quote late grain at_ lateness fine finer count other behind
    have rest := released.drop (readingOf at_)
    have begins : ∀ deadline ∈ ((deadlines arguments.pps.toNat (ticks 0) sent).drop index).head?,
        ticks quote.2 ≤ deadline + late := by
      intro deadline first
      rw [List.head?_drop, deadlines_getElem? _ _ (inside at_)] at first
      cases first
      exact lateness
    have caughtUp := rest.recovers (nanosecondsPerSecond / arguments.pps.toNat) late fine
      (by simpa using finer) begins ((deadlines_apart _ _ _).drop index)
      ((List.getElem?_drop ..).trans (deadlines_getElem? _ _ (inside behind)))
      ((List.getElem?_drop ..).trans (readingOf behind))
    rwa [Nat.add_zero, Nat.one_mul] at caughtUp

end StreamPackets

namespace OptimizedSender

variable {arguments : Arguments} {ticks clock : Nat → Nat} {fuel : Nat}

/-- How late the quotes of a run are released. -/
def latenesses (arguments : Arguments) (ticks : Nat → Nat) (quotes : List (Payload × Nat)) :
    List Nat :=
  List.zipWith (fun deadline quote => ticks quote.2 - deadline)
    (deadlines arguments.pps.toNat (ticks 0) quotes.length) quotes

/-- The counters of a list of latenesses. -/
structure Lateness.Counts (pps : Nat) (lateness : Lateness) (late : List Nat) : Prop where
  missed : lateness.missedDeadlines = late.countP fun ns => nanosecondsPerSecond ≤ ns * pps
  bound : ∀ ns ∈ late, ns ≤ lateness.maximumLatenessNs
  reached : lateness.maximumLatenessNs = 0 ∨ lateness.maximumLatenessNs ∈ late
  total : lateness.totalLatenessNs = late.sum

/-- One more lateness is counted once. -/
theorem Lateness.Counts.add {pps : Nat} (rate : 0 < pps) {lateness : Lateness} {late : List Nat}
    (counts : lateness.Counts pps late) (latenessNs : Nat) :
    (lateness.add pps latenessNs).Counts pps (late ++ [latenessNs]) := by
  have missed : (latenessNs : ℚ) ≥ nanosecondsPerSecond / pps ↔
      nanosecondsPerSecond ≤ latenessNs * pps := by
    rw [ge_iff_le, div_le_iff₀ (by exact_mod_cast rate)]
    exact_mod_cast Iff.rfl
  constructor
  · simp only [Lateness.add, missed, counts.missed, List.countP_append, List.countP_singleton,
      decide_eq_true_eq]
    split_ifs <;> rfl
  · intro ns member
    have before (known : ns ∈ late) := counts.bound ns known
    simp only [Lateness.add]
    rcases List.mem_append.mp member with known | now
    · have := before known
      split_ifs <;> omega
    · rw [List.mem_singleton.mp now]
      split_ifs <;> omega
  · simp only [Lateness.add]
    split_ifs
    · exact Or.inr (by simp)
    · exact counts.reached.imp_right fun member => List.mem_append_left _ member
  · simp only [Lateness.add, counts.total, List.sum_append, List.sum_singleton]

/-- The loop without waits sends the same quotes. -/
theorem foldlM_sendQuote {sequences : List Nat} {quotes : List Payload} (progress : Progress)
    (packed : List.Forall₂ (fun sequence quote => makeQuotePacket sequence (clock sequence) =
      some quote) sequences quotes) :
    sequences.foldlM (sendQuote clock) progress =
      some ⟨sequences.getLast?.getD progress.sentPackets, progress.sent ++ quotes⟩ := by
  induction packed generalizing progress with
  | nil => simp
  | @cons sequence quote sequences quotes made _ ih =>
      rw [List.foldlM_cons, sendQuote, made]
      refine (ih ⟨sequence, progress.sent ++ [quote]⟩).trans ?_
      cases sequences with
      | nil => simp
      | cons second others => simp [List.getLast?_cons]

end OptimizedSender

end HftPipeline.Host
