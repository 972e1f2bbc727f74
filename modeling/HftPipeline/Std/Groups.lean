import Mathlib.Data.List.Range
import Mathlib.Data.List.Basic

/-!
# Fixed-size groups of a growing list

`groups` cuts a list into consecutive groups of one size and `remainder` keeps
what does not fill a group. Appending one item either extends the remainder or
completes exactly one more group, which is how an incremental consumer with a
position counter sees the same list.
-/

namespace HftPipeline.Std.Groups

variable {α : Type}

/-- The complete consecutive groups of `size` items. -/
def groups (size : Nat) (items : List α) : List (List α) :=
  (List.range (items.length / size)).map fun index => (items.drop (size * index)).take size

/-- The items after the last complete group. -/
def remainder (size : Nat) (items : List α) : List α :=
  items.drop (size * (items.length / size))

/-- An empty list has no groups. -/
@[simp] theorem groups_nil (size : Nat) : groups size ([] : List α) = [] := by
  simp [groups]

/-- An empty list leaves nothing over. -/
@[simp] theorem remainder_nil (size : Nat) : remainder size ([] : List α) = [] := by
  simp [remainder]

/-- What is left over is the remainder of the length. -/
theorem length_remainder (size : Nat) (items : List α) :
    (remainder size items).length = items.length % size := by
  rw [remainder, List.length_drop]
  have split := Nat.div_add_mod items.length size
  omega

/-- Every group has the full size. -/
theorem length_of_mem_groups {size : Nat} {items group : List α}
    (member : group ∈ groups size items) : group.length = size := by
  simp only [groups, List.mem_map, List.mem_range] at member
  obtain ⟨index, bounded, rfl⟩ := member
  have covered : size * (index + 1) ≤ items.length :=
    (Nat.mul_le_mul_left size bounded).trans (Nat.mul_div_le items.length size)
  rw [Nat.mul_add] at covered
  simp only [List.length_take, List.length_drop]
  omega

/-- Cutting loses nothing: the groups and the remainder rebuild the list. -/
theorem groups_append_remainder (size : Nat) (items : List α) :
    (groups size items).flatten ++ remainder size items = items := by
  have covered : ∀ count, ((List.range count).map fun index =>
      (items.drop (size * index)).take size).flatten = items.take (size * count) := by
    intro count
    induction count with
    | zero => simp
    | succ count ih =>
        rw [List.range_succ, List.map_append, List.flatten_append, ih, Nat.mul_add, Nat.mul_one,
          List.take_add]
        simp
  rw [groups, covered, remainder, List.take_append_drop]

/-- Complete groups hold their number times the size. -/
private theorem length_flatten_of_complete {size : Nat} {parts : List (List α)}
    (complete : ∀ part ∈ parts, part.length = size) :
    parts.flatten.length = size * parts.length := by
  induction parts with
  | nil => simp
  | cons part parts ih =>
      rw [List.flatten_cons, List.length_append, complete part List.mem_cons_self,
        ih (fun other member => complete other (List.mem_cons_of_mem _ member)),
        List.length_cons, Nat.mul_add, Nat.mul_one, Nat.add_comm]

/-- A list given as complete groups and a short rest has that many groups. -/
private theorem groupCount {size : Nat} {parts : List (List α)} {rest : List α}
    (complete : ∀ part ∈ parts, part.length = size) (short : rest.length < size) :
    (parts.flatten ++ rest).length / size = parts.length := by
  rw [List.length_append, length_flatten_of_complete complete,
    Nat.mul_add_div (by omega), Nat.div_eq_of_lt short, Nat.add_zero]

/-- A list given as complete groups and a short rest is cut into exactly these. -/
theorem groups_of_parts {size : Nat} {parts : List (List α)} {rest : List α}
    (complete : ∀ part ∈ parts, part.length = size) (short : rest.length < size) :
    groups size (parts.flatten ++ rest) = parts := by
  induction parts with
  | nil => simp [groups, Nat.div_eq_of_lt short]
  | cons part parts ih =>
      have head : part.length = size := complete part List.mem_cons_self
      have tail : ∀ other ∈ parts, other.length = size :=
        fun other member => complete other (List.mem_cons_of_mem _ member)
      have whole := groupCount complete short
      have later := ih tail
      simp only [groups, groupCount tail short] at later
      simp only [List.length_cons] at whole
      simp only [groups, whole, List.range_succ_eq_map, List.map_cons, List.map_map]
      congr 1
      · simp [← head]
      · conv_rhs => rw [← later]
        apply List.map_congr_left
        intro index _
        have skip : size * index.succ = part.length + size * index := by
          rw [head, Nat.succ_eq_add_one, Nat.mul_add]
          omega
        simp only [Function.comp_apply, skip, List.flatten_cons, List.append_assoc]
        rw [List.drop_append, List.drop_eq_nil_of_le (Nat.le_add_right _ _), List.nil_append,
          Nat.add_sub_cancel_left]

/-- A list given as complete groups and a short rest leaves the rest over. -/
theorem remainder_of_parts {size : Nat} {parts : List (List α)} {rest : List α}
    (complete : ∀ part ∈ parts, part.length = size) (short : rest.length < size) :
    remainder size (parts.flatten ++ rest) = rest := by
  rw [remainder, groupCount complete short, ← length_flatten_of_complete complete,
    List.drop_left]

/-- An item that does not fill the current group only extends the remainder. -/
theorem groups_snoc_of_short {size : Nat} {items : List α} (item : α)
    (short : (remainder size items).length + 1 < size) :
    groups size (items ++ [item]) = groups size items ∧
      remainder size (items ++ [item]) = remainder size items ++ [item] := by
  have extended : (remainder size items ++ [item]).length < size := by simpa using short
  have split : items ++ [item] =
      (groups size items).flatten ++ (remainder size items ++ [item]) := by
    rw [← List.append_assoc, groups_append_remainder]
  rw [split]
  exact ⟨groups_of_parts (fun _ => length_of_mem_groups) extended,
    remainder_of_parts (fun _ => length_of_mem_groups) extended⟩

/-- The item that fills the current group completes exactly one more group. -/
theorem groups_snoc_of_full {size : Nat} {items : List α} (item : α)
    (full : (remainder size items).length + 1 = size) :
    groups size (items ++ [item]) = groups size items ++ [remainder size items ++ [item]] ∧
      remainder size (items ++ [item]) = [] := by
  have complete : ∀ part ∈ groups size items ++ [remainder size items ++ [item]],
      part.length = size := by
    intro part member
    rcases List.mem_append.mp member with old | new
    · exact length_of_mem_groups old
    · rw [List.mem_singleton.mp new]
      simpa using full
  have split : items ++ [item] =
      (groups size items ++ [remainder size items ++ [item]]).flatten ++ [] := by
    simp [← List.append_assoc, groups_append_remainder]
  have positive : ([] : List α).length < size := by
    simp only [List.length_nil]
    omega
  rw [split]
  exact ⟨groups_of_parts complete positive, remainder_of_parts complete positive⟩

/-- Behind complete groups a list is cut as if it stood alone. -/
theorem groups_append {size : Nat} (positive : 0 < size) {front : List α} (back : List α)
    (aligned : remainder size front = []) :
    groups size (front ++ back) = groups size front ++ groups size back ∧
      remainder size (front ++ back) = remainder size back := by
  have complete : ∀ part ∈ groups size front ++ groups size back, part.length = size := by
    intro part member
    rcases List.mem_append.mp member with old | new
    · exact length_of_mem_groups old
    · exact length_of_mem_groups new
  have short : (remainder size back).length < size := by
    rw [length_remainder]
    exact Nat.mod_lt _ positive
  have whole := groups_append_remainder size front
  rw [aligned, List.append_nil] at whole
  have split : front ++ back =
      (groups size front ++ groups size back).flatten ++ remainder size back := by
    rw [List.flatten_append, whole, List.append_assoc, groups_append_remainder]
  rw [split]
  exact ⟨groups_of_parts complete short, remainder_of_parts complete short⟩

/-- A list given as complete groups is cut into exactly these. -/
theorem groups_of_flatten {size : Nat} (positive : 0 < size) {parts : List (List α)}
    (complete : ∀ part ∈ parts, part.length = size) :
    groups size parts.flatten = parts ∧ remainder size parts.flatten = [] := by
  have short : ([] : List α).length < size := positive
  have cut := groups_of_parts complete short
  have rest := remainder_of_parts complete short
  rw [List.append_nil] at cut rest
  exact ⟨cut, rest⟩

/-- The groups of a prefix are the first groups. -/
theorem groups_mono {size : Nat} (positive : 0 < size) {front whole : List α}
    (before : front <+: whole) : groups size front <+: groups size whole := by
  obtain ⟨back, rfl⟩ := before
  obtain ⟨cut, aligned⟩ := groups_of_flatten positive
    (fun _ => length_of_mem_groups : ∀ part ∈ groups size front, part.length = size)
  have split : front ++ back =
      (groups size front).flatten ++ (remainder size front ++ back) := by
    rw [← List.append_assoc, groups_append_remainder]
  rw [split, (groups_append positive _ aligned).1, cut]
  exact List.prefix_append _ _

/-- A list shorter than a group has none. -/
theorem groups_of_short {size : Nat} {items : List α} (short : items.length < size) :
    groups size items = [] ∧ remainder size items = items := by
  constructor
  · simp [groups, Nat.div_eq_of_lt short]
  · simp [remainder, Nat.div_eq_of_lt short]

/-- Consecutive batches of `size` items, the last one possibly shorter. -/
def batches (size : Nat) (items : List α) : List (List α) :=
  groups size items ++ if remainder size items = [] then [] else [remainder size items]

/-- The batches put together are the list again. -/
theorem flatten_batches (size : Nat) (items : List α) : (batches size items).flatten = items := by
  have whole := groups_append_remainder size items
  by_cases empty : remainder size items = []
  · simpa [batches, empty] using whole
  · simpa [batches, empty] using whole

/-- Complete groups are the batches of a list without a remainder. -/
theorem batches_of_complete {size : Nat} {items : List α} (complete : remainder size items = []) :
    batches size items = groups size items := by
  simp [batches, complete]

/-- A batch cut behind one more item, full or not, is the last of all batches. -/
theorem batches_snoc {size : Nat} (positive : 0 < size) (items : List α) (item : α) :
    batches size (items ++ [item]) = groups size items ++ [remainder size items ++ [item]] := by
  have bound := Nat.mod_lt items.length positive
  rw [← length_remainder] at bound
  by_cases full : (remainder size items).length + 1 = size
  · obtain ⟨cut, rest⟩ := groups_snoc_of_full item full
    rw [batches_of_complete rest, cut]
  · obtain ⟨cut, rest⟩ := groups_snoc_of_short item
      (show (remainder size items).length + 1 < size by omega)
    simp [batches, cut, rest]

/-- Lists of one length are cut alike, whatever their items. -/
theorem batches_map {β : Type} (view : α → β) (size : Nat) (items : List α) :
    batches size (items.map view) = (batches size items).map (List.map view) := by
  have cut : groups size (items.map view) = (groups size items).map (List.map view) := by
    simp [groups, List.map_drop, List.map_take, Function.comp_def]
  have rest : remainder size (items.map view) = (remainder size items).map view := by
    simp [remainder, List.map_drop]
  rw [batches, batches, cut, rest, List.map_append]
  by_cases empty : remainder size items = []
  · simp [empty]
  · simp [empty]

end HftPipeline.Std.Groups
