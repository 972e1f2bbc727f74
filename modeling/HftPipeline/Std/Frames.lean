import Mathlib.Data.List.Basic

/-!
# Frames in a stream

A marked item ends a frame. A stream has one cut into frames, so whoever receives a
prefix of it and cuts at the marks obtains the first of the frames that were sent.
-/

namespace HftPipeline.Std.Frames

variable {Item : Type} {last : Item → Bool}

/-- The complete frames of a stream. -/
def frames (last : Item → Bool) : List Item → List (List Item)
  | [] => []
  | item :: items =>
      if last item then [item] :: frames last items
      else match frames last items with
        | [] => []
        | frame :: rest => (item :: frame) :: rest

/-- Items of which only the last one is marked. -/
inductive IsFrame (last : Item → Bool) : List Item → Prop where
  | single {item} (marked : last item = true) : IsFrame last [item]
  | cons {item items} (unmarked : last item = false) (rest : IsFrame last items) :
      IsFrame last (item :: items)

/-- A frame at the front of a stream is its first one. -/
theorem IsFrame.frames_append {frame : List Item} (isFrame : IsFrame last frame)
    (rest : List Item) : frames last (frame ++ rest) = frame :: frames last rest := by
  induction isFrame with
  | single marked => simp [frames, marked]
  | cons unmarked _ ih => simp [frames, unmarked, ih]

/-- Frames sent one after the other are the frames of their stream. -/
theorem frames_flatten {sent : List (List Item)} (areFrames : ∀ frame ∈ sent, IsFrame last frame) :
    frames last sent.flatten = sent := by
  induction sent with
  | nil => rfl
  | cons frame sent ih =>
      have first := areFrames frame List.mem_cons_self
      rw [List.flatten_cons, first.frames_append,
        ih fun other member => areFrames other (List.mem_cons_of_mem _ member)]

/-- More items change no frame that is already complete. -/
theorem frames_mono (last : Item → Bool) {front whole : List Item} (inside : front <+: whole) :
    frames last front <+: frames last whole := by
  obtain ⟨rest, rfl⟩ := inside
  induction front with
  | nil => exact List.nil_prefix
  | cons item front ih =>
      rw [List.cons_append, frames, frames]
      split_ifs
      · exact (List.prefix_cons_inj [item]).mpr ih
      · cases cut : frames last front with
        | nil => exact List.nil_prefix
        | cons frame later =>
            obtain ⟨more, extended⟩ := ih
            rw [cut] at extended
            rw [← extended]
            exact ⟨more, rfl⟩

/-- A receiver of a prefix of some frames obtains the first of them. -/
theorem received_frames {received : List Item} {sent : List (List Item)}
    (areFrames : ∀ frame ∈ sent, IsFrame last frame) (inside : received <+: sent.flatten) :
    frames last received <+: sent := by
  have cut := frames_mono last inside
  rwa [frames_flatten areFrames] at cut

end HftPipeline.Std.Frames
