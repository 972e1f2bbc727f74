import HftPipeline.Std.Arrivals

/-!
# Records among numbered arrivals

An arrival is a record when it exceeds all before it. Otherwise it repeats the
greatest number so far or falls behind it, so the three kinds partition any list of
arrivals. The numbers that no record takes, up to the greatest, are the skipped ones.
-/

namespace HftPipeline.Std.Records

open HftPipeline.Std.Arrivals

section Selection

variable {α : Type} (test : List α → α → Prop) [∀ before item, Decidable (test before item)]

/-- The items that a test of everything before them selects, behind the given ones. -/
def selectedBehind (before : List α) : List α → List α
  | [] => []
  | item :: items =>
      (if test before item then [item] else []) ++ selectedBehind (before ++ [item]) items

/-- The items that a test of everything before them selects, in order. -/
def selected (items : List α) : List α := selectedBehind test [] items

/-- Nothing is selected from an empty list. -/
@[simp] theorem selected_nil : selected test [] = [] := rfl

/-- A last item is selected when it passes behind everything in front of it. -/
theorem selectedBehind_snoc (before items : List α) (item : α) :
    selectedBehind test before (items ++ [item]) = selectedBehind test before items ++
      if test (before ++ items) item then [item] else [] := by
  induction items generalizing before with
  | nil => simp [selectedBehind]
  | cons first items ih =>
      have split : before ++ first :: items = before ++ [first] ++ items := by simp
      rw [List.cons_append, selectedBehind, ih, selectedBehind, split, ← List.append_assoc]

/-- A last item is selected when it passes behind the list in front of it. -/
theorem selected_snoc (items : List α) (item : α) :
    selected test (items ++ [item]) =
      selected test items ++ if test items item then [item] else [] := by
  rw [selected, selectedBehind_snoc, List.nil_append, ← selected]

/-- A last item adds one to the selection when it passes. -/
theorem length_selected_snoc (items : List α) (item : α) :
    (selected test (items ++ [item])).length =
      (selected test items).length + if test items item then 1 else 0 := by
  rw [selected_snoc, List.length_append]
  split <;> rfl

/-- Only items of the list are selected. -/
theorem selected_subset (items : List α) : selected test items ⊆ items := by
  induction items using List.reverseRecOn with
  | nil => exact List.Subset.refl _
  | append_singleton items item ih =>
      rw [selected_snoc]
      apply List.append_subset.mpr
      refine ⟨fun other member => List.mem_append_left _ (ih member), ?_⟩
      split
      · exact List.subset_append_right _ _
      · exact List.nil_subset _

/-- Nothing is selected exactly when the test fails at every item. -/
theorem selected_eq_nil_iff (items : List α) : selected test items = [] ↔
    ∀ before item after, items = before ++ item :: after → ¬test before item := by
  induction items using List.reverseRecOn with
  | nil => simp
  | append_singleton items last ih =>
      rw [selected_snoc, List.append_eq_nil_iff, ih]
      constructor
      · rintro ⟨earlier, fails⟩ before item after split
        rcases List.eq_nil_or_concat after with rfl | ⟨middle, final, rfl⟩
        · obtain ⟨rfl, same⟩ := List.append_inj' split rfl
          rw [← List.singleton_inj.mp same]
          intro holds
          simp [holds] at fails
        · have front : items = before ++ item :: middle := by
            have longer : items ++ [last] = (before ++ item :: middle) ++ [final] := by
              simpa using split
            exact (List.append_inj' longer rfl).1
          exact earlier before item middle front
      · intro never
        refine ⟨fun before item after split => never before item (after ++ [last]) ?_, ?_⟩
        · rw [split, List.append_assoc, List.cons_append]
        · rw [if_neg (never items last [] rfl)]

end Selection

/-- Greater than every number before. -/
def IsRecord (before : List Nat) (number : Nat) : Prop := ∀ other ∈ before, other < number

/-- The greatest number before, once more. -/
def IsRepeat (before : List Nat) (number : Nat) : Prop :=
  number ∈ before ∧ ∀ other ∈ before, other ≤ number

/-- Below some number before. -/
def IsBehind (before : List Nat) (number : Nat) : Prop := ∃ other ∈ before, number < other

instance (before : List Nat) (number : Nat) : Decidable (IsRecord before number) :=
  inferInstanceAs (Decidable (∀ other ∈ before, other < number))

instance (before : List Nat) (number : Nat) : Decidable (IsRepeat before number) :=
  inferInstanceAs (Decidable (number ∈ before ∧ ∀ other ∈ before, other ≤ number))

instance (before : List Nat) (number : Nat) : Decidable (IsBehind before number) :=
  inferInstanceAs (Decidable (∃ other ∈ before, number < other))

/-- The first number is a record. -/
@[simp] theorem isRecord_nil (number : Nat) : IsRecord [] number := by simp [IsRecord]

/-- The first number repeats nothing. -/
@[simp] theorem not_isRepeat_nil (number : Nat) : ¬ IsRepeat [] number := by simp [IsRepeat]

/-- The first number is behind nothing. -/
@[simp] theorem not_isBehind_nil (number : Nat) : ¬ IsBehind [] number := by simp [IsBehind]

section Nonempty

variable {before : List Nat} (nonempty : before ≠ [])

include nonempty

/-- The highest number of a nonempty list is one of its numbers. -/
theorem highest_mem_of_ne_nil : highest before ∈ before := by
  rcases highest_mem before with none | member
  · obtain ⟨first, member⟩ := List.exists_mem_of_ne_nil before nonempty
    have zero : first = highest before := by
      have atMost := le_highest member
      omega
    rwa [← zero]
  · exact member

/-- A record is a number above the highest one before it. -/
theorem isRecord_iff (number : Nat) : IsRecord before number ↔ highest before < number := by
  constructor
  · intro greater
    exact greater _ (highest_mem_of_ne_nil nonempty)
  · intro greater other member
    exact (le_highest member).trans_lt greater

/-- A repeat is the highest number before it once more. -/
theorem isRepeat_iff (number : Nat) : IsRepeat before number ↔ number = highest before := by
  constructor
  · rintro ⟨member, atMost⟩
    exact le_antisymm (le_highest member) (atMost _ (highest_mem_of_ne_nil nonempty))
  · rintro rfl
    exact ⟨highest_mem_of_ne_nil nonempty, fun _ => le_highest⟩

/-- A number is behind when it is below the highest one before it. -/
theorem isBehind_iff (number : Nat) : IsBehind before number ↔ number < highest before := by
  constructor
  · rintro ⟨other, member, below⟩
    exact below.trans_le (le_highest member)
  · intro below
    exact ⟨_, highest_mem_of_ne_nil nonempty, below⟩

end Nonempty

/-- A record repeats nothing. -/
theorem IsRecord.not_isRepeat {before : List Nat} {number : Nat}
    (isRecord : IsRecord before number) :
    ¬ IsRepeat before number := by
  rintro ⟨member, -⟩
  exact (isRecord _ member).false

/-- A record is not behind. -/
theorem IsRecord.not_isBehind {before : List Nat} {number : Nat}
    (isRecord : IsRecord before number) :
    ¬ IsBehind before number := by
  rintro ⟨other, member, below⟩
  exact (isRecord _ member).asymm below

/-- The greatest number is there as soon as there is any. -/
theorem max?_eq_highest {before : List Nat} (nonempty : before ≠ []) :
    before.max? = some (highest before) :=
  List.max?_eq_some_iff.mpr ⟨highest_mem_of_ne_nil nonempty, fun _ => le_highest⟩

/-- It changes with a record only. -/
theorem max?_snoc_of_not_record {before : List Nat} {number : Nat} (nonempty : before ≠ [])
    (notRecord : ¬IsRecord before number) : (before ++ [number]).max? = before.max? := by
  rw [isRecord_iff nonempty] at notRecord
  rw [max?_eq_highest nonempty, max?_eq_highest (by simp), highest_snoc, max_eq_left (by omega)]

/-- A record is the greatest number from then on. -/
theorem IsRecord.highest_snoc {before : List Nat} {number : Nat}
    (isRecord : IsRecord before number) :
    highest (before ++ [number]) = number := by
  rw [Arrivals.highest_snoc]
  rcases highest_mem before with none | member
  · omega
  · exact max_eq_right (isRecord _ member).le

abbrev records (numbers : List Nat) : List Nat := selected IsRecord numbers
abbrev repeats (numbers : List Nat) : List Nat := selected IsRepeat numbers
abbrev behind (numbers : List Nat) : List Nat := selected IsBehind numbers

/-- Every arrival is of exactly one kind. -/
theorem length_kinds (numbers : List Nat) :
    (records numbers).length + (repeats numbers).length + (behind numbers).length =
      numbers.length := by
  induction numbers using List.reverseRecOn with
  | nil => rfl
  | append_singleton before number ih =>
      have one : (if IsRecord before number then 1 else 0) +
          (if IsRepeat before number then 1 else 0) +
            (if IsBehind before number then 1 else 0) = 1 := by
        cases before with
        | nil => simp
        | cons first rest =>
            have nonempty : first :: rest ≠ [] := List.cons_ne_nil _ _
            simp only [isRecord_iff nonempty, isRepeat_iff nonempty, isBehind_iff nonempty]
            rcases lt_trichotomy number (highest (first :: rest)) with below | same | above
            · simp [below, below.not_gt, below.ne]
            · simp [same]
            · simp [above, above.not_gt, above.ne']
      simp only [records, repeats, behind, length_selected_snoc, List.length_append,
        List.length_singleton] at ih ⊢
      omega

/-- The numbers from the first arrival to the greatest that no record takes. -/
def skipped : List Nat → Finset Nat
  | [] => ∅
  | first :: rest =>
      {number ∈ Finset.Icc first (highest (first :: rest)) | number ∉ records (first :: rest)}

/-- An empty list skips nothing. -/
@[simp] theorem skipped_nil : skipped [] = ∅ := rfl

/-- The first arrival skips nothing. -/
@[simp] theorem skipped_singleton (number : Nat) : skipped [number] = ∅ := by
  simp [skipped, highest, records, selected, selectedBehind]

/-- No more numbers are skipped than the highest one counts. -/
theorem card_skipped_le (numbers : List Nat) : (skipped numbers).card ≤ highest numbers := by
  cases numbers with
  | nil => exact Nat.le_refl _
  | cons first rest =>
      -- The first arrival is itself a record.
      have within : skipped (first :: rest) ⊆ Finset.Ioc first (highest (first :: rest)) := by
        intro number member
        simp only [skipped, Finset.mem_filter, Finset.mem_Icc] at member
        have differs : number ≠ first := by
          rintro rfl
          apply member.2
          simp [records, selected, selectedBehind]
        exact Finset.mem_Ioc.mpr ⟨by omega, member.1.2⟩
      have bound := Finset.card_le_card within
      rw [Nat.card_Ioc] at bound
      omega

/-- A record skips the numbers between the greatest so far and itself. -/
theorem card_skipped_of_record {before : List Nat} (nonempty : before ≠ []) {number : Nat}
    (isRecord : IsRecord before number) :
    (skipped (before ++ [number])).card =
      (skipped before).card + (number - (highest before + 1)) := by
  obtain ⟨first, rest, rfl⟩ := List.exists_cons_of_ne_nil nonempty
  have above := (isRecord_iff nonempty number).mp isRecord
  have start : first ≤ highest (first :: rest) := le_highest List.mem_cons_self
  have grown : highest (first :: rest ++ [number]) = number := by
    rw [highest_snoc]
    exact max_eq_right above.le
  have union : skipped (first :: rest ++ [number]) =
      skipped (first :: rest) ∪ Finset.Ioo (highest (first :: rest)) number := by
    ext other
    have atMost : other ∈ records (first :: rest) → other ≤ highest (first :: rest) :=
      fun member => le_highest (selected_subset _ _ member)
    rw [List.cons_append, skipped, ← List.cons_append, grown, records, selected_snoc,
      if_pos isRecord, skipped]
    simp only [Finset.mem_union, Finset.mem_filter, Finset.mem_Icc, Finset.mem_Ioo,
      List.mem_append, List.mem_singleton, not_or]
    by_cases taken : other ∈ records (first :: rest)
    · have bounded := atMost taken
      simp only [taken, not_true_eq_false, false_and, and_false, false_or, false_iff]
      omega
    · simp only [taken, not_false_eq_true, true_and, and_true]
      omega
  have apart :
      Disjoint (skipped (first :: rest)) (Finset.Ioo (highest (first :: rest)) number) := by
    rw [Finset.disjoint_left]
    intro other member beyond
    simp only [skipped, Finset.mem_filter, Finset.mem_Icc] at member
    simp only [Finset.mem_Ioo] at beyond
    omega
  rw [union, Finset.card_union_of_disjoint apart, Nat.card_Ioo]
  omega

/-- An arrival that is no record skips nothing. -/
theorem skipped_of_not_record {before : List Nat} {number : Nat}
    (notRecord : ¬ IsRecord before number) : skipped (before ++ [number]) = skipped before := by
  cases before with
  | nil => simp at notRecord
  | cons first rest =>
      have nonempty : first :: rest ≠ [] := List.cons_ne_nil _ _
      rw [isRecord_iff nonempty] at notRecord
      have same : highest (first :: rest ++ [number]) = highest (first :: rest) := by
        rw [highest_snoc]
        exact max_eq_left (by omega)
      have kept : records (first :: rest ++ [number]) = records (first :: rest) := by
        rw [records, selected_snoc, if_neg (by rwa [isRecord_iff nonempty]), List.append_nil]
      rw [List.cons_append, skipped, ← List.cons_append, same, kept, skipped]

end HftPipeline.Std.Records
