import Mathlib.Data.BitVec
import Mathlib.Logic.Function.Basic

/-!
# Arrays over instrument slots

The engine keeps one entry per instrument in unpacked arrays `[0:4]` that are
indexed by a three-bit slot. Entries 0 to 4 are the array. An index outside it
reads an unknown value: the remaining entries stand for that value, no write
reaches them, and nothing is ever assumed of them.
-/

namespace HftPipeline.Rtl

abbrev SlotArray (α : Type) := BitVec 3 → α

/-- A slot of one of the five instruments. -/
abbrev Slot := {word : BitVec 3 // word < 5#3}

/-- The five numbers are words below five. -/
theorem Slot.word_lt (number : Fin 5) : BitVec.ofNat 3 number.1 < 5#3 := by
  revert number
  decide

/-- The slot of a number. -/
def Slot.ofFin (number : Fin 5) : Slot := ⟨BitVec.ofNat 3 number.1, Slot.word_lt number⟩

/-- The slots in their order. -/
def slots : List Slot := (List.finRange 5).map Slot.ofFin

/-- There are no other slots. -/
theorem mem_slots (slot : Slot) : slot ∈ slots := by
  have inside : slot.1.toNat < 5 := slot.2
  refine List.mem_map.mpr ⟨⟨slot.1.toNat, inside⟩, List.mem_finRange _, Subtype.ext ?_⟩
  exact (BitVec.ofNat_toNat 3 slot.1).trans (BitVec.setWidth_eq slot.1)

namespace SlotArray

variable {α : Type}

/-- The loop `for (i = 0; i < 5; i = i + 1) array[i] <= value`. -/
def clear (value : α) (array : SlotArray α) : SlotArray α :=
  fun slot => if slot < 5#3 then value else array slot

/-- The assignment `array[slot] <= value`. -/
def write (array : SlotArray α) (slot : BitVec 3) (value : α) : SlotArray α :=
  Function.update array slot value

@[simp] theorem clear_slot (value : α) (array : SlotArray α) (slot : Slot) :
    clear value array slot.1 = value := by
  simp [clear, slot.2]

@[simp] theorem write_same (array : SlotArray α) (slot : BitVec 3) (value : α) :
    array.write slot value slot = value := by
  simp [write]

theorem write_ne (array : SlotArray α) {slot other : BitVec 3} (value : α)
    (different : other ≠ slot) :
    array.write slot value other = array other := by
  simp [write, different]

theorem write_slot (array : SlotArray α) (slot other : Slot) (value : α) :
    array.write slot.1 value other.1 = if other = slot then value else array other.1 := by
  by_cases same : other = slot
  · subst same
    simp
  · rw [if_neg same, write_ne array value (fun equal => same (Subtype.ext equal))]

end SlotArray

end HftPipeline.Rtl
