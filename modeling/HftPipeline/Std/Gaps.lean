import HftPipeline.Std.Records

/-!
# Gaps among numbered arrivals

The numbers that records skip are charged when they are skipped. Those that arrive
later on are not lost, so the charge exceeds the loss by the arrivals that fill a gap.
-/

namespace HftPipeline.Std.Gaps

open HftPipeline.Std.Arrivals HftPipeline.Std.Records

/-- The numbers strictly between the first arrival and the greatest that have not arrived. -/
def lost : List Nat → Finset Nat
  | [] => ∅
  | first :: rest => {number ∈ Finset.Ioo first (highest (first :: rest)) | number ∉ first :: rest}

/-- New, above the first number and below a greater one. -/
def FillsGap (before : List Nat) (number : Nat) : Prop :=
  number ∉ before ∧ IsBehind before number ∧ ∃ first ∈ before.head?, first < number

instance (before : List Nat) (number : Nat) : Decidable (FillsGap before number) :=
  inferInstanceAs (Decidable (_ ∧ _ ∧ _))

@[simp] theorem not_fillsGap_nil (number : Nat) : ¬FillsGap [] number := by simp [FillsGap]

/-- A number that has arrived before. -/
abbrev IsSeen (before : List Nat) (number : Nat) : Prop := number ∈ before

abbrev fills (numbers : List Nat) : List Nat := selected FillsGap numbers

section Snoc

variable {first number : Nat} {rest : List Nat}

theorem mem_lost {other : Nat} : other ∈ lost (first :: rest) ↔
    (first < other ∧ other < highest (first :: rest)) ∧ other ∉ first :: rest := by
  simp only [lost, Finset.mem_filter, Finset.mem_Ioo]

/-- The numbers that a record skips are lost at first. -/
theorem card_lost_of_record (isRecord : IsRecord (first :: rest) number) :
    (lost (first :: rest ++ [number])).card =
      (lost (first :: rest)).card + (number - (highest (first :: rest) + 1)) := by
  have above := (isRecord_iff (List.cons_ne_nil first rest) number).mp isRecord
  have start : first ≤ highest (first :: rest) := le_highest List.mem_cons_self
  have grown : lost (first :: rest ++ [number]) =
      lost (first :: rest) ∪ Finset.Ioo (highest (first :: rest)) number := by
    ext other
    have greatest := highest_mem_of_ne_nil (List.cons_ne_nil first rest)
    have atMost : other ∈ first :: rest → other ≤ highest (first :: rest) := le_highest
    rw [List.cons_append, mem_lost, ← List.cons_append, isRecord.highest_snoc, Finset.mem_union,
      mem_lost, Finset.mem_Ioo, List.mem_append, List.mem_singleton]
    by_cases arrived : other ∈ first :: rest
    · have bound := atMost arrived
      simp only [arrived, true_or, not_true_eq_false, and_false, false_or, false_iff]
      omega
    · have differs : other ≠ highest (first :: rest) := fun same => arrived (same ▸ greatest)
      simp only [arrived, false_or, not_false_eq_true, and_true]
      omega
  have apart : Disjoint (lost (first :: rest)) (Finset.Ioo (highest (first :: rest)) number) := by
    rw [Finset.disjoint_left]
    intro other member beyond
    rw [mem_lost] at member
    rw [Finset.mem_Ioo] at beyond
    omega
  rw [grown, Finset.card_union_of_disjoint apart, Nat.card_Ioo]
  omega

/-- Behind a greater number the range of the gaps stays. -/
theorem highest_of_not_record (notRecord : ¬IsRecord (first :: rest) number) :
    highest (first :: rest ++ [number]) = highest (first :: rest) := by
  rw [isRecord_iff (List.cons_ne_nil first rest)] at notRecord
  rw [highest_snoc]
  exact max_eq_left (by omega)

/-- A number that fills a gap is lost no longer. -/
theorem card_lost_of_fill (fill : FillsGap (first :: rest) number) :
    (lost (first :: rest ++ [number])).card + 1 = (lost (first :: rest)).card := by
  obtain ⟨new, isBehind, least, isFirst, above⟩ := fill
  have below := (isBehind_iff (List.cons_ne_nil first rest) number).mp isBehind
  have same : first = least := by simpa using isFirst
  subst same
  have notRecord : ¬IsRecord (first :: rest) number :=
    fun isRecord => isRecord.not_isBehind isBehind
  have shrunk : lost (first :: rest ++ [number]) = (lost (first :: rest)).erase number := by
    ext other
    rw [List.cons_append, mem_lost, ← List.cons_append, highest_of_not_record notRecord,
      Finset.mem_erase, mem_lost, List.mem_append, List.mem_singleton]
    tauto
  have missing : number ∈ lost (first :: rest) := mem_lost.mpr ⟨⟨above, below⟩, new⟩
  rw [shrunk, Finset.card_erase_add_one missing]

/-- Any other arrival changes no gap. -/
theorem lost_of_other (notRecord : ¬IsRecord (first :: rest) number)
    (noFill : ¬FillsGap (first :: rest) number) :
    lost (first :: rest ++ [number]) = lost (first :: rest) := by
  have bound : number ≤ highest (first :: rest) := by
    rw [isRecord_iff (List.cons_ne_nil first rest)] at notRecord
    omega
  ext other
  rw [List.cons_append, mem_lost, ← List.cons_append, highest_of_not_record notRecord, mem_lost,
    List.mem_append, List.mem_singleton]
  refine ⟨fun ⟨range, unseen⟩ => ⟨range, fun seen => unseen (.inl seen)⟩, ?_⟩
  rintro ⟨range, unseen⟩
  refine ⟨range, ?_⟩
  rintro (seen | rfl)
  · exact unseen seen
  · exact noFill ⟨unseen, (isBehind_iff (List.cons_ne_nil first rest) other).mpr range.2,
      first, rfl, range.1⟩

end Snoc

/-- What is charged when it is skipped is lost or arrives later on. -/
theorem card_skipped_eq (numbers : List Nat) :
    (skipped numbers).card = (lost numbers).card + (fills numbers).length := by
  induction numbers using List.reverseRecOn with
  | nil => rfl
  | append_singleton before number ih =>
      simp only [fills] at ih ⊢
      rw [length_selected_snoc]
      cases before with
      | nil =>
          have nothing : lost [number] = ∅ := by simp [lost, highest]
          simp [nothing]
      | cons first rest =>
          by_cases isRecord : IsRecord (first :: rest) number
          · have noFill : ¬FillsGap (first :: rest) number :=
              fun fill => isRecord.not_isBehind fill.2.1
            rw [card_skipped_of_record (List.cons_ne_nil first rest) isRecord,
              card_lost_of_record isRecord, if_neg noFill, ih]
            omega
          · rw [skipped_of_not_record isRecord, ih]
            by_cases fill : FillsGap (first :: rest) number
            · have counted := card_lost_of_fill fill
              rw [if_pos fill]
              omega
            · rw [lost_of_other isRecord fill, if_neg fill, Nat.add_zero]

end HftPipeline.Std.Gaps
