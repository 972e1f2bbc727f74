import Mathlib.Data.List.Basic

/-!
# Slots of one memory

A flat memory is divided into slots of one size. A store at the start of a slot that fits
into it is read back from there and is seen in no other slot, so storing one item in each
of the first slots leaves every item behind, whatever the memory held before.
-/

namespace HftPipeline.Std.Slots

variable {Cell : Type} {size slot other start length : Nat} {memory cells : List Cell}

/-- The memory behind a store at an offset. -/
def store (memory : List Cell) (offset : Nat) (cells : List Cell) : List Cell :=
  memory.take offset ++ cells ++ memory.drop (offset + cells.length)

/-- What stands in the memory at an offset. -/
def load (memory : List Cell) (offset length : Nat) : List Cell := (memory.drop offset).take length

/-- Cells stored inside the memory leave its length as it is. -/
theorem length_store {offset : Nat} (inside : offset + cells.length ≤ memory.length) :
    (store memory offset cells).length = memory.length := by
  simp only [store, List.length_append, List.length_take, List.length_drop]
  omega

/-- A store is read back, whole or in part. -/
theorem load_store {offset : Nat} (inside : offset + cells.length ≤ memory.length)
    (within : start + length ≤ cells.length) :
    load (store memory offset cells) (offset + start) length = load cells start length := by
  have front : (memory.take offset).length = offset := by
    rw [List.length_take]
    omega
  rw [load, store, List.append_assoc, ← List.drop_drop, List.drop_left' front,
    List.drop_append_of_le_length (by omega), List.take_append_of_le_length]
  · rfl
  · rw [List.length_drop]
    omega

/-- Two stores side by side are one. -/
theorem store_store {offset : Nat} (inside : offset + cells.length ≤ memory.length)
    (more : List Cell) :
    store (store memory offset cells) (offset + cells.length) more =
      store memory offset (cells ++ more) := by
  have front : (memory.take offset ++ cells).length = offset + cells.length := by
    rw [List.length_append, List.length_take]
    omega
  simp only [store]
  rw [List.take_left' front, ← List.drop_drop, List.drop_left' front, List.drop_drop,
    List.length_append, List.append_assoc, ← Nat.add_assoc]
  simp only [List.append_assoc]

/-- A store changes nothing in front of it and nothing behind it. -/
theorem load_store_apart {offset at_ : Nat} (inside : offset + cells.length ≤ memory.length)
    (apart : at_ + length ≤ offset ∨ offset + cells.length ≤ at_) :
    load (store memory offset cells) at_ length = load memory at_ length := by
  apply List.ext_getElem?
  intro index
  simp only [load, store, List.getElem?_take, List.getElem?_drop]
  split_ifs with within
  · rcases apart with before | behind
    · rw [List.append_assoc, List.getElem?_append_left, List.getElem?_take_of_lt (by omega)]
      rw [List.length_take]
      omega
    · have size : (memory.take offset ++ cells).length = offset + cells.length := by
        rw [List.length_append, List.length_take]
        omega
      rw [List.getElem?_append_right (by omega), size, List.getElem?_drop]
      congr 1
      omega
  · rfl

/-- The fields of a record are stored side by side. -/
def storeFields : List Cell → Nat → List (List Cell) → List Cell
  | memory, _, [] => memory
  | memory, offset, field :: fields =>
      storeFields (store memory offset field) (offset + field.length) fields

/-- Fields stored one behind the other are one store of them all. -/
theorem storeFields_eq {fields : List (List Cell)} {offset : Nat}
    (inside : offset + fields.flatten.length ≤ memory.length) :
    storeFields memory offset fields = store memory offset fields.flatten := by
  induction fields generalizing memory offset with
  | nil => simp [storeFields, store]
  | cons field fields ih =>
      rw [List.flatten_cons, List.length_append, ← Nat.add_assoc] at inside
      have first : offset + field.length ≤ memory.length := by omega
      rw [storeFields, ih (by rwa [length_store first]), store_store first, List.flatten_cons]

/-- Every field is read back from its place in the record. -/
theorem load_flatten {fields : List (List Cell)} {index offset length : Nat} {field : List Cell}
    (at_ : fields[index]? = some field) (front : (fields.take index).flatten.length = offset)
    (size : field.length = length) : load fields.flatten offset length = field := by
  obtain ⟨bound, found⟩ := List.getElem?_eq_some_iff.mp at_
  have split : fields.flatten =
      (fields.take index).flatten ++ (field ++ (fields.drop (index + 1)).flatten) := by
    rw [← found, ← List.flatten_cons, ← List.drop_eq_getElem_cons bound, ← List.flatten_append,
      List.take_append_drop]
  rw [load, split, List.drop_left' front, List.take_left' size]

/-- One item is stored in each slot from some slot on. -/
def storeAll (size : Nat) : List Cell → Nat → List (List Cell) → List Cell
  | memory, _, [] => memory
  | memory, slot, item :: items =>
      storeAll size (store memory (slot * size) item) (slot + 1) items

/-- The items fit into their slots, and the slots into the memory. -/
structure Fits (size : Nat) (memory : List Cell) (slot : Nat)
    (items : List (List Cell)) : Prop where
  small : ∀ item ∈ items, item.length ≤ size
  slots : (slot + items.length) * size ≤ memory.length

section All

variable {items : List (List Cell)}

/-- The first item has room at its slot. -/
theorem Fits.first {item : List Cell} (fits : Fits size memory slot (item :: items)) :
    slot * size + item.length ≤ memory.length := by
  have small := fits.small item List.mem_cons_self
  have slots := fits.slots
  rw [List.length_cons] at slots
  have span : (slot + 1) * size ≤ (slot + (items.length + 1)) * size :=
    Nat.mul_le_mul_right size (by omega)
  rw [Nat.succ_mul] at span
  omega

/-- With the first item stored, the others fit behind it. -/
theorem Fits.rest {item : List Cell} (fits : Fits size memory slot (item :: items)) :
    Fits size (store memory (slot * size) item) (slot + 1) items where
  small := fun other member => fits.small other (List.mem_cons_of_mem _ member)
  slots := by
    have slots := fits.slots
    rw [List.length_cons] at slots
    rw [length_store fits.first, Nat.add_assoc, Nat.add_comm 1]
    exact slots

/-- Storing items that fit leaves the length of the memory as it is. -/
theorem length_storeAll (fits : Fits size memory slot items) :
    (storeAll size memory slot items).length = memory.length := by
  induction items generalizing memory slot with
  | nil => rfl
  | cons item items ih =>
      rw [storeAll, ih fits.rest, length_store fits.first]

/-- The slots in front of the stored ones and behind them keep their cells. -/
theorem load_storeAll_apart (fits : Fits size memory slot items)
    (apart : other < slot ∨ slot + items.length ≤ other) (within : start + length ≤ size) :
    load (storeAll size memory slot items) (other * size + start) length =
      load memory (other * size + start) length := by
  induction items generalizing memory slot with
  | nil => rfl
  | cons item items ih =>
      rw [List.length_cons] at apart
      have small := fits.small item List.mem_cons_self
      have beside : other * size + start + length ≤ slot * size ∨
          slot * size + item.length ≤ other * size + start := by
        rcases apart with before | behind
        · have span : (other + 1) * size ≤ slot * size := Nat.mul_le_mul_right size before
          rw [Nat.succ_mul] at span
          omega
        · have span : (slot + 1) * size ≤ other * size :=
            Nat.mul_le_mul_right size (by omega)
          rw [Nat.succ_mul] at span
          omega
      rw [storeAll, ih fits.rest (by omega), load_store_apart fits.first beside]

/-- Every item is read back from its slot, whole or in part. -/
theorem load_storeAll (fits : Fits size memory slot items) {index : Nat} {item : List Cell}
    (at_ : items[index]? = some item) (within : start + length ≤ item.length) :
    load (storeAll size memory slot items) ((slot + index) * size + start) length =
      load item start length := by
  induction items generalizing memory slot index with
  | nil => cases at_
  | cons first items ih =>
      cases index with
      | zero =>
          cases at_
          have small := fits.small item List.mem_cons_self
          rw [storeAll, Nat.add_zero slot,
            load_storeAll_apart fits.rest (Or.inl (Nat.lt_succ_self _)) (by omega),
            load_store fits.first within]
      | succ index =>
          have found := ih fits.rest at_
          rwa [Nat.add_assoc, Nat.add_comm 1] at found

end All

section Cleared

variable {written front : List Cell} {clear marked : Cell} {room hidden : Nat}

/-- What stands in the first cells of a memory that were cleared and then written to. -/
theorem load_cleared (inside : room ≤ memory.length) (short : written.length ≤ room) :
    load (store (store memory 0 (List.replicate room clear)) 0 written) 0 room =
      written ++ List.replicate (room - written.length) clear := by
  have size : (store memory 0 (List.replicate room clear)).length = memory.length :=
    length_store (by simpa using inside)
  have behind : (store memory 0 (List.replicate room clear)).drop written.length =
      List.replicate (room - written.length) clear ++ memory.drop room := by
    rw [store, List.take_zero, List.nil_append, List.length_replicate, Nat.zero_add,
      List.drop_append_of_le_length (by simpa using short), List.drop_replicate]
  rw [load, store, List.take_zero, List.nil_append, Nat.zero_add, behind, List.drop_zero,
    ← List.append_assoc, List.take_left']
  simp only [List.length_append, List.length_replicate]
  omega

/-- A cleared memory hides that cells are missing exactly when these are clear themselves:
the last marked cell shows how many may be missing. -/
theorem cleared_eq_iff (differs : marked ≠ clear) (shape : cells =
      front ++ marked :: List.replicate hidden clear) (short : written.length ≤ cells.length) :
    written ++ List.replicate (cells.length - written.length) clear = cells ↔
      ∃ missing ≤ hidden, written = cells.take (cells.length - missing) := by
  have size : cells.length = front.length + hidden + 1 := by
    rw [shape]
    simp only [List.length_append, List.length_cons, List.length_replicate]
    omega
  constructor
  · intro same
    refine ⟨cells.length - written.length, ?_, ?_⟩
    · -- Otherwise the marked cell would be one of those that are missing.
      by_contra more
      have at_ : cells[front.length]? = some marked := by
        rw [shape, List.getElem?_append_right (Nat.le_refl _), Nat.sub_self]
        rfl
      rw [← same, List.getElem?_append_right (by omega), List.getElem?_replicate_of_lt (by omega),
        Option.some.injEq] at at_
      exact differs at_.symm
    · rw [Nat.sub_sub_self short]
      conv_rhs => rw [← same]
      rw [List.take_left' rfl]
  · rintro ⟨missing, few, rfl⟩
    have kept : (cells.take (cells.length - missing)).length = cells.length - missing := by
      rw [List.length_take]
      omega
    have behind : cells.drop (cells.length - missing) = List.replicate missing clear := by
      have past : cells.length - missing = front.length + ((hidden - missing) + 1) := by omega
      rw [past, shape, ← List.drop_drop, List.drop_left' rfl, List.drop_succ_cons,
        List.drop_replicate, Nat.sub_sub_self few]
    rw [kept, Nat.sub_sub_self (by omega), ← behind, List.take_append_drop]

end Cleared

end HftPipeline.Std.Slots
