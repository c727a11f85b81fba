import ArtForgeStudio.Canvas.Geometry
import ArtForgeStudio.Library.Extents
import Mathlib.Tactic.Linarith

/-! # Bounds and free places

What the bounds of a selection are, and that a place for a new note is free.
-/

namespace ArtForgeStudio.Canvas

open ArtForgeStudio.LocalStore ArtForgeStudio.Extents

variable {notes : List CanvasNoteData} {ids : Finset String} {bounds : CanvasRect}

/-- The rectangle reaches exactly as far as the notes do, to all four sides. -/
structure BoundsOf (notes : List CanvasNoteData) (rect : CanvasRect) : Prop where
  left : IsLeast {x | ∃ note ∈ notes, note.x = x} rect.x
  top : IsLeast {y | ∃ note ∈ notes, note.y = y} rect.y
  right : IsGreatest {x | ∃ note ∈ notes, note.x + note.width = x} (rect.x + rect.width)
  bottom : IsGreatest {y | ∃ note ∈ notes, note.y + note.height = y} (rect.y + rect.height)

theorem selectionBounds_spec (h : selectionBounds notes ids = some bounds) :
    BoundsOf (notes.filter (·.id ∈ ids)) bounds := by
  unfold selectionBounds at h
  split at h
  · cases h
  · rename_i first selected hselected
    cases h
    have hfirst : ∀ (f : CanvasNoteData → Rat), {a | ∃ note ∈ notes.filter (·.id ∈ ids), f note = a} =
        {a | a = f first ∨ ∃ note ∈ selected, f note = a} := by
      intro f
      ext a
      simp [hselected, eq_comm]
    constructor
    · rw [hfirst]
      exact isLeast_foldl_min _ _ _
    · rw [hfirst]
      exact isLeast_foldl_min _ _ _
    · rw [hfirst, add_sub_cancel]
      exact isGreatest_foldl_max (fun note : CanvasNoteData => note.x + note.width) _ _
    · rw [hfirst, add_sub_cancel]
      exact isGreatest_foldl_max (fun note : CanvasNoteData => note.y + note.height) _ _

theorem selectionBounds_eq_none (h : selectionBounds notes ids = none) :
    ∀ note ∈ notes, note.id ∉ ids := by
  unfold selectionBounds at h
  split at h
  · rename_i hempty
    simpa [List.filter_eq_nil_iff] using hempty
  · cases h

/-- The note lies within the rectangle of the group. -/
structure Encloses (group note : CanvasNoteData) : Prop where
  left : group.x ≤ note.x
  top : group.y ≤ note.y
  right : note.x + note.width ≤ group.x + group.width
  bottom : note.y + note.height ≤ group.y + group.height

theorem Encloses.trans {outer inner note : CanvasNoteData} (houter : Encloses outer inner)
    (hinner : Encloses inner note) : Encloses outer note :=
  ⟨houter.left.trans hinner.left, houter.top.trans hinner.top, hinner.right.trans houter.right,
    hinner.bottom.trans houter.bottom⟩

/-- The rectangle of the group is the bounds with room around them, the most on top. -/
structure PaddedAround (bounds : CanvasRect) (group : CanvasNoteData) : Prop where
  left : group.x = bounds.x - groupPadding
  top : group.y = bounds.y - groupTopPadding
  width : group.width = bounds.width + groupPadding * 2
  height : group.height = bounds.height + groupTopPadding + groupPadding

theorem PaddedAround.encloses {group note : CanvasNoteData} (h : PaddedAround bounds group)
    (hbounds : BoundsOf notes bounds) (hnote : note ∈ notes) : Encloses group note := by
  have hleft := hbounds.left.2 ⟨note, hnote, rfl⟩
  have htop := hbounds.top.2 ⟨note, hnote, rfl⟩
  have hright := hbounds.right.2 ⟨note, hnote, rfl⟩
  have hbottom := hbounds.bottom.2 ⟨note, hnote, rfl⟩
  constructor <;> simp only [h.left, h.top, h.width, h.height, groupPadding, groupTopPadding] <;>
    linarith

/-- To one side at least the rectangle keeps clear of the note. -/
def ClearOf (note : CanvasNoteData) (rect : CanvasRect) : Prop :=
  note.x + note.width + generatedNodeGap ≤ rect.x ∨
    rect.x + rect.width + generatedNodeGap ≤ note.x ∨
    note.y + note.height + generatedNodeGap ≤ rect.y ∨
    rect.y + rect.height + generatedNodeGap ≤ note.y

theorem canvasPositionIsFree_iff (rect : CanvasRect) (ignoreId : Option String) :
    canvasPositionIsFree notes rect ignoreId ↔ ∀ note ∈ notes, note.kind ≠ "group" →
      ignoreId ≠ some note.id → ClearOf note rect := by
  simp only [canvasPositionIsFree, ClearOf, List.all_eq_true, Bool.or_eq_true, decide_eq_true_eq]
  refine forall₂_congr fun note _ => ?_
  tauto

/-- Past the last note to the right there is room. -/
theorem beyond_rightmost_is_free (desiredX y width height : Rat) (ignoreId : Option String) :
    canvasPositionIsFree notes ⟨((notes.filter fun note => note.kind ≠ "group" &&
      ignoreId ≠ some note.id).map fun note => note.x + note.width).foldl max desiredX +
        generatedNodeGap, y, width, height⟩ ignoreId := by
  rw [canvasPositionIsFree_iff]
  intro note hnote hkind hother
  have hgreatest := isGreatest_foldl_max (fun note : CanvasNoteData => note.x + note.width) desiredX
    (notes.filter fun note => note.kind ≠ "group" && ignoreId ≠ some note.id)
  rw [List.foldl_map]
  have hmem : note ∈ notes.filter fun note => note.kind ≠ "group" && ignoreId ≠ some note.id := by
    simp [hnote, hkind, hother]
  have hle := hgreatest.2 (.inr ⟨note, hmem, rfl⟩)
  left
  dsimp only at hle ⊢
  linarith

/-- The place that is found is free, and it is the desired one if that is free. -/
theorem nearest_free_position_is_free (notes : List CanvasNoteData)
    (desiredX desiredY width height : Rat) (ignoreId : Option String) :
    let place := nearestFreeCanvasPosition notes desiredX desiredY width height ignoreId
    canvasPositionIsFree notes ⟨place.1, place.2, width, height⟩ ignoreId ∧
    (∀ note ∈ notes, note.kind ≠ "group" → ignoreId ≠ some note.id →
      ClearOf note ⟨place.1, place.2, width, height⟩) ∧
    (canvasPositionIsFree notes ⟨desiredX, desiredY, width, height⟩ ignoreId →
      place = (desiredX, desiredY)) := by
  intro place
  have hfree : canvasPositionIsFree notes ⟨place.1, place.2, width, height⟩ ignoreId := by
    dsimp only [place]
    unfold nearestFreeCanvasPosition
    extract_lets isFree places others rightmost
    cases hfound : ((desiredX, desiredY) :: places).find? isFree with
    | some found => exact List.find?_some (p := isFree) hfound
    | none => exact beyond_rightmost_is_free desiredX desiredY width height ignoreId
  refine ⟨hfree, (canvasPositionIsFree_iff _ ignoreId).mp hfree, fun hdesired => ?_⟩
  simp only [place, nearestFreeCanvasPosition, List.find?_cons, hdesired]

end ArtForgeStudio.Canvas
