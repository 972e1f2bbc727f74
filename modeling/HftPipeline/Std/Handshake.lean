import HftPipeline.Std.Clocked

/-!
# Valid/ready handshakes

A beat moves through a port in the cycles in which its sender shows it and its
receiver takes it. An elastic register stands between two ports and holds at most
one beat. What has left it is a prefix of what has entered, and the only
difference is the beat it still shows.
-/

namespace HftPipeline.Std.Handshake

open HftPipeline.Std

variable {Beat : Type}

/-- One valid/ready port over time. -/
structure Port (Beat : Type) where
  valid : Nat → Bool
  ready : Nat → Bool
  beat : Nat → Beat

namespace Port

/-- The beat that moves through a port in one cycle. -/
def transfer (port : Port Beat) (cycle : Nat) : Option Beat :=
  if port.valid cycle && port.ready cycle then some (port.beat cycle) else none

/-- The beats that moved through a port before a cycle, in order. -/
def transferred (port : Port Beat) (cycle : Nat) : List Beat :=
  Clocked.seen port.transfer cycle

/-- The beat that waits at a port, if any. -/
def waiting (port : Port Beat) (cycle : Nat) : List Beat :=
  if port.valid cycle then [port.beat cycle] else []

variable {port : Port Beat} {cycle : Nat}

/-- The next cycle transfers at most one beat more. -/
theorem transferred_succ : port.transferred (cycle + 1) =
    port.transferred cycle ++ (port.transfer cycle).toList := Clocked.seen_succ _ _

/-- A beat shown and taken is transferred. -/
theorem transfer_of_taken (shown : port.valid cycle = true) (taken : port.ready cycle = true) :
    port.transfer cycle = some (port.beat cycle) := by
  simp [transfer, shown, taken]

/-- A beat that is not taken is not transferred. -/
theorem transfer_of_refused (refused : port.ready cycle = false) : port.transfer cycle = none := by
  simp [transfer, refused]

/-- At most the one beat shown is waiting. -/
theorem length_waiting : (port.waiting cycle).length = if port.valid cycle then 1 else 0 := by
  unfold waiting
  split <;> rfl

end Port

/-- A register between two ports that takes a beat whenever it is empty or being
emptied, and otherwise keeps the one it holds. -/
structure ElasticRegister (source sink : Port Beat) : Prop where
  empty : sink.valid 0 = false
  ready : ∀ cycle, source.ready cycle = (!sink.valid cycle || sink.ready cycle)
  valid : ∀ cycle, source.ready cycle = true → sink.valid (cycle + 1) = source.valid cycle
  loads : ∀ cycle, source.ready cycle = true → source.valid cycle = true →
    sink.beat (cycle + 1) = source.beat cycle
  holds : ∀ cycle, source.ready cycle = false →
    sink.valid (cycle + 1) = sink.valid cycle ∧ sink.beat (cycle + 1) = sink.beat cycle

/-- Every beat taken at the source leaves at the sink, once, unchanged and in order;
a beat that waits at the sink stays as it is; and nothing slows a free flow. -/
structure Lossless (source sink : Port Beat) : Prop where
  inOrder : ∀ cycle, sink.transferred cycle <+: source.transferred cycle
  oneWaiting : ∀ cycle, (source.transferred cycle).length =
    (sink.transferred cycle).length + if sink.valid cycle then 1 else 0
  stalls : ∀ cycle, sink.valid cycle = true → sink.ready cycle = false →
    sink.valid (cycle + 1) = true ∧ sink.beat (cycle + 1) = sink.beat cycle ∧
      source.transfer cycle = none
  flows : (∀ cycle, source.valid cycle = true ∧ sink.ready cycle = true) → ∀ cycle,
    source.transfer cycle = some (source.beat cycle) ∧
      sink.transfer (cycle + 1) = some (source.beat cycle)

namespace ElasticRegister

variable {source sink : Port Beat}

/-- One cycle: the beat held before and the beat taken are the beat released and
the beat held after. -/
theorem conserves (register : ElasticRegister source sink) (cycle : Nat) :
    sink.waiting cycle ++ (source.transfer cycle).toList =
      (sink.transfer cycle).toList ++ sink.waiting (cycle + 1) := by
  have ready := register.ready cycle
  cases free : source.ready cycle with
  | false =>
      -- The register is full and its beat stays: nothing enters and nothing leaves.
      rw [free, eq_comm, Bool.or_eq_false_iff, Bool.not_eq_false'] at ready
      obtain ⟨sameValid, sameBeat⟩ := register.holds cycle free
      simp [Port.waiting, Port.transfer, free, ready.1, ready.2, sameValid, sameBeat]
  | true =>
      have shown := register.valid cycle free
      have released : (sink.transfer cycle).toList = sink.waiting cycle := by
        rw [free, eq_comm, Bool.or_eq_true, Bool.not_eq_true'] at ready
        rcases ready with empty | taken
        · simp [Port.waiting, Port.transfer, empty]
        · cases held : sink.valid cycle <;> simp [Port.waiting, Port.transfer, held, taken]
      rw [released]
      cases offered : source.valid cycle with
      | false => simp [Port.waiting, Port.transfer, offered, shown]
      | true => simp [Port.waiting, Port.transfer, offered, shown, free,
          register.loads cycle free offered]

/-- What entered is what left and what still waits. -/
theorem conservation (register : ElasticRegister source sink) (cycle : Nat) :
    source.transferred cycle = sink.transferred cycle ++ sink.waiting cycle := by
  induction cycle with
  | zero => simp [Port.transferred, Port.waiting, register.empty]
  | succ cycle ih =>
      rw [Port.transferred_succ, Port.transferred_succ, ih, List.append_assoc,
        register.conserves, List.append_assoc]

/-- An elastic register loses, repeats and reorders nothing. -/
theorem lossless (register : ElasticRegister source sink) : Lossless source sink where
  inOrder := by
    intro cycle
    rw [register.conservation]
    exact List.prefix_append _ _
  oneWaiting := by
    intro cycle
    rw [register.conservation, List.length_append, Port.length_waiting]
  stalls := by
    intro cycle shown refused
    have closed : source.ready cycle = false := by simp [register.ready, shown, refused]
    obtain ⟨sameValid, sameBeat⟩ := register.holds cycle closed
    exact ⟨sameValid.trans shown, sameBeat, Port.transfer_of_refused closed⟩
  flows := by
    intro flowing cycle
    obtain ⟨offered, taken⟩ := flowing cycle
    have free : source.ready cycle = true := by simp [register.ready, taken]
    have shown := (register.valid cycle free).trans offered
    refine ⟨Port.transfer_of_taken offered free, ?_⟩
    rw [Port.transfer_of_taken shown (flowing (cycle + 1)).2, register.loads cycle free offered]

end ElasticRegister

end HftPipeline.Std.Handshake
