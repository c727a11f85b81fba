import ArtForgeStudio.Canvas.Geometry
import Mathlib.Tactic.FieldSimp
import Mathlib.Algebra.Order.Field.Rat

/-! # The shape of the node of an image

A node of an image has the shape of its image from the first time on that it takes it. The larger of
its edges becomes the height each time. So a landscape image grows when its node takes the same
shape again, by as much as it is wider than high.
-/

namespace ArtForgeStudio.Canvas

open ArtForgeStudio.LocalStore

/-- The note takes the shape of its image, about its centre; and whether its size changed. -/
def fitImageNodeToIntrinsicAspectChanged (note : CanvasNoteData) (imageWidth imageHeight : Rat) :
    Bool × CanvasNoteData :=
  if !isImageKind note.kind || imageWidth ≤ 0 || imageHeight ≤ 0 then (false, note)
  else
    let baseHeight := max (max note.width note.height) minImageNodeEdge
    let size : Rat × Rat := (baseHeight * imageWidth / imageHeight, baseHeight)
    let wide : Rat × Rat := if size.1 < minImageNodeEdge then
      (size.1 * (minImageNodeEdge / size.1), size.2 * (minImageNodeEdge / size.1)) else size
    let full : Rat × Rat := if wide.2 < minImageNodeEdge then
      (wide.1 * (minImageNodeEdge / wide.2), wide.2 * (minImageNodeEdge / wide.2)) else wide
    if note.width = full.1 ∧ note.height = full.2 then (false, note)
    else (true, { note with
      width := full.1, height := full.2
      x := note.x + note.width / 2 - full.1 / 2, y := note.y + note.height / 2 - full.2 / 2 })

variable {note : CanvasNoteData} {imageWidth imageHeight : Rat}

theorem fitImageNodeChanged_snd (note : CanvasNoteData) (imageWidth imageHeight : Rat) :
    (fitImageNodeToIntrinsicAspectChanged note imageWidth imageHeight).2 =
      fitImageNodeToIntrinsicAspect note imageWidth imageHeight := by
  unfold fitImageNodeToIntrinsicAspectChanged fitImageNodeToIntrinsicAspect
  split
  · rfl
  · extract_lets baseHeight size wide full
    split <;> rfl

/-- The larger edge becomes the height, and the width may not fall below the least edge. -/
def fittedHeight (note : CanvasNoteData) (imageWidth imageHeight : Rat) : Rat :=
  max (max (max note.width note.height) minImageNodeEdge)
    (minImageNodeEdge * imageHeight / imageWidth)

theorem minEdge_le_fittedHeight (note : CanvasNoteData) (imageWidth imageHeight : Rat) :
    minImageNodeEdge ≤ fittedHeight note imageWidth imageHeight :=
  (le_max_right _ _).trans (le_max_left _ _)

theorem minEdge_le_fittedWidth (hwidth : 0 < imageWidth) (hheight : 0 < imageHeight) :
    minImageNodeEdge ≤ fittedHeight note imageWidth imageHeight * imageWidth / imageHeight := by
  have hleast : minImageNodeEdge * imageHeight / imageWidth ≤
      fittedHeight note imageWidth imageHeight := le_max_right _ _
  rw [div_le_iff₀ hwidth] at hleast
  rwa [le_div_iff₀ hheight]

theorem larger_edge_eq (note : CanvasNoteData) (imageWidth imageHeight : Rat) :
    max (fittedHeight note imageWidth imageHeight * imageWidth / imageHeight)
        (fittedHeight note imageWidth imageHeight) =
      fittedHeight note imageWidth imageHeight * max (imageWidth / imageHeight) 1 := by
  have hnonneg : 0 ≤ fittedHeight note imageWidth imageHeight :=
    le_trans (by norm_num [minImageNodeEdge]) (minEdge_le_fittedHeight note imageWidth imageHeight)
  rw [mul_max_of_nonneg _ _ hnonneg, mul_one, mul_div_assoc]

/-- A width below the least edge is raised to it, and the height with it. -/
theorem narrow_correction {height : Rat} (hwidth : 0 < imageWidth) (hheight : 0 < imageHeight)
    (hpositive : 0 < height) (size : Rat × Rat)
    (hsize : size = (height * imageWidth / imageHeight, height)) :
    (if size.1 < minImageNodeEdge then
        (size.1 * (minImageNodeEdge / size.1), size.2 * (minImageNodeEdge / size.1)) else size) =
      (max height (minImageNodeEdge * imageHeight / imageWidth) * imageWidth / imageHeight,
        max height (minImageNodeEdge * imageHeight / imageWidth)) := by
  have hnonzero : height ≠ 0 := hpositive.ne'
  have hnarrow : size.1 < minImageNodeEdge ↔
      height < minImageNodeEdge * imageHeight / imageWidth := by
    rw [hsize, div_lt_iff₀ hheight, lt_div_iff₀ hwidth]
  split
  · next hsmall =>
    rw [max_eq_right (hnarrow.mp hsmall).le, hsize, Prod.mk.injEq]
    constructor <;> field_simp
  · next hlarge => rw [max_eq_left (not_lt.mp (mt hnarrow.mpr hlarge)), hsize]

/-- The note about its centre with the height, and with the width that its image has to it. -/
def shaped (note : CanvasNoteData) (imageWidth imageHeight height : Rat) : CanvasNoteData :=
  { note with
    width := height * imageWidth / imageHeight, height := height
    x := note.x + note.width / 2 - height * imageWidth / imageHeight / 2
    y := note.y + note.height / 2 - height / 2 }

theorem shaped_same {height : Rat} (hwidth : note.width = height * imageWidth / imageHeight)
    (hheight : note.height = height) : shaped note imageWidth imageHeight height = note := by
  unfold shaped
  rw [← hwidth, ← hheight, add_sub_cancel_right, add_sub_cancel_right]

@[simp] theorem shaped_shaped (note : CanvasNoteData) (imageWidth imageHeight height : Rat) :
    shaped (shaped note imageWidth imageHeight height) imageWidth imageHeight height =
      shaped note imageWidth imageHeight height := shaped_same rfl rfl

/-- The second correction of the source never applies: the height is not below the least edge. -/
theorem fitImageNodeChanged_eq (hkind : isImageKind note.kind) (hwidth : 0 < imageWidth)
    (hheight : 0 < imageHeight) :
    fitImageNodeToIntrinsicAspectChanged note imageWidth imageHeight =
      (decide (¬(note.width = fittedHeight note imageWidth imageHeight * imageWidth / imageHeight ∧
          note.height = fittedHeight note imageWidth imageHeight)),
        shaped note imageWidth imageHeight (fittedHeight note imageWidth imageHeight)) := by
  unfold fitImageNodeToIntrinsicAspectChanged
  rw [if_neg (by simp [hkind, hwidth, hheight])]
  extract_lets baseHeight size wide full
  have hbase : 0 < baseHeight := lt_max_of_lt_right (by norm_num [minImageNodeEdge])
  have hwide : wide = (fittedHeight note imageWidth imageHeight * imageWidth / imageHeight,
      fittedHeight note imageWidth imageHeight) := narrow_correction hwidth hheight hbase size rfl
  have hfull : full = wide := by
    apply if_neg
    rw [hwide]
    exact not_lt.mpr (minEdge_le_fittedHeight _ _ _)
  rw [hfull, hwide]
  by_cases hsame : note.width = fittedHeight note imageWidth imageHeight * imageWidth / imageHeight ∧
      note.height = fittedHeight note imageWidth imageHeight
  · rw [if_pos hsame, decide_eq_false (not_not.mpr hsame), shaped_same hsame.1 hsame.2]
  · rw [if_neg hsame, decide_eq_true hsame, shaped]

theorem fitImageNode_eq_shaped (hkind : isImageKind note.kind) (hwidth : 0 < imageWidth)
    (hheight : 0 < imageHeight) :
    fitImageNodeToIntrinsicAspect note imageWidth imageHeight =
      shaped note imageWidth imageHeight (fittedHeight note imageWidth imageHeight) := by
  rw [← fitImageNodeChanged_snd, fitImageNodeChanged_eq hkind hwidth hheight]

theorem fittedHeight_shaped (note : CanvasNoteData) (imageWidth imageHeight : Rat) :
    fittedHeight (shaped note imageWidth imageHeight (fittedHeight note imageWidth imageHeight))
        imageWidth imageHeight =
      fittedHeight note imageWidth imageHeight * max (imageWidth / imageHeight) 1 := by
  have hleast := minEdge_le_fittedHeight note imageWidth imageHeight
  have hnarrow : minImageNodeEdge * imageHeight / imageWidth ≤
      fittedHeight note imageWidth imageHeight := le_max_right _ _
  rw [← larger_edge_eq]
  unfold shaped
  generalize fittedHeight note imageWidth imageHeight = height at hleast hnarrow ⊢
  rw [fittedHeight]
  dsimp only
  rw [max_eq_left (hleast.trans (le_max_right _ _)), max_eq_left (hnarrow.trans (le_max_right _ _))]

theorem height_iterate (hkind : isImageKind note.kind) (hwidth : 0 < imageWidth)
    (hheight : 0 < imageHeight) (times : Nat) :
    ((fitImageNodeToIntrinsicAspect · imageWidth imageHeight)^[times + 1] note).height =
      fittedHeight note imageWidth imageHeight * max (imageWidth / imageHeight) 1 ^ times := by
  induction times generalizing note with
  | zero =>
    rw [pow_zero, mul_one, zero_add, Function.iterate_one,
      fitImageNode_eq_shaped hkind hwidth hheight]
    rfl
  | succ times ih =>
    have hfitted : isImageKind (fitImageNodeToIntrinsicAspect note imageWidth imageHeight).kind := by
      rw [(fitImageNode_outline note imageWidth imageHeight).2]
      exact hkind
    rw [Function.iterate_succ_apply, ih hfitted, fitImageNode_eq_shaped hkind hwidth hheight,
      fittedHeight_shaped, mul_assoc, ← pow_succ']

/-- What is asked of a note that takes the shape of its image: the report and the note found. -/
structure TakesShapeOnce (note : CanvasNoteData) (imageWidth imageHeight : Rat)
    (found : Bool × CanvasNoteData) : Prop where
  centreX : found.2.x + found.2.width / 2 = note.x + note.width / 2
  centreY : found.2.y + found.2.height / 2 = note.y + note.height / 2
  aspect : found.2.width / found.2.height = imageWidth / imageHeight
  leastWidth : minImageNodeEdge ≤ found.2.width
  leastHeight : minImageNodeEdge ≤ found.2.height
  reports : found.1 ↔ (found.2.width, found.2.height) ≠ (note.width, note.height)
  again : fitImageNodeToIntrinsicAspectChanged found.2 imageWidth imageHeight = (false, found.2)

theorem fit_again_iff (hkind : isImageKind note.kind) (hwidth : 0 < imageWidth)
    (hheight : 0 < imageHeight) :
    fitImageNodeToIntrinsicAspectChanged
        (shaped note imageWidth imageHeight (fittedHeight note imageWidth imageHeight))
        imageWidth imageHeight =
      (false, shaped note imageWidth imageHeight (fittedHeight note imageWidth imageHeight)) ↔
      imageWidth ≤ imageHeight := by
  have hpositive : 0 < fittedHeight note imageWidth imageHeight :=
    lt_of_lt_of_le (by norm_num [minImageNodeEdge]) (minEdge_le_fittedHeight note _ _)
  have hagain := fittedHeight_shaped note imageWidth imageHeight
  have hshaped : isImageKind (shaped note imageWidth imageHeight
    (fittedHeight note imageWidth imageHeight)).kind := hkind
  rw [← div_le_one₀ hheight, ← max_eq_right_iff]
  constructor
  · intro hsame
    rw [fitImageNodeChanged_eq hshaped hwidth hheight] at hsame
    have hheights := congrArg (fun found => found.2.height) hsame
    apply mul_left_cancel₀ hpositive.ne'
    rw [mul_one, ← hagain]
    exact hheights
  · intro hratio
    rw [hratio, mul_one] at hagain
    rw [fitImageNodeChanged_eq hshaped hwidth hheight, hagain, shaped_shaped,
      decide_eq_false (not_not.mpr ⟨rfl, rfl⟩)]

/-- A node takes the shape of its image once and for all if the image is not wider than high. -/
theorem image_nodes_take_their_shape_once_iff (hkind : isImageKind note.kind)
    (hwidth : 0 < imageWidth) (hheight : 0 < imageHeight) :
    TakesShapeOnce note imageWidth imageHeight
        (fitImageNodeToIntrinsicAspectChanged note imageWidth imageHeight) ↔
      imageWidth ≤ imageHeight := by
  rw [← fit_again_iff hkind hwidth hheight, fitImageNodeChanged_eq hkind hwidth hheight]
  constructor
  · exact fun htakes => htakes.again
  · intro hagain
    have hleast := minEdge_le_fittedHeight note imageWidth imageHeight
    have hpositive : 0 < fittedHeight note imageWidth imageHeight :=
      lt_of_lt_of_le (by norm_num [minImageNodeEdge]) hleast
    refine ⟨?_, ?_, ?_, ?_, ?_, ?_, hagain⟩
    · exact sub_add_cancel _ _
    · exact sub_add_cancel _ _
    · simp only [shaped]
      field_simp
    · exact minEdge_le_fittedWidth hwidth hheight
    · exact hleast
    · simp only [shaped, decide_eq_true_eq, ne_eq, Prod.mk.injEq]
      exact not_congr ⟨fun h => ⟨h.1.symm, h.2.symm⟩, fun h => ⟨h.1.symm, h.2.symm⟩⟩

def newImageNote : CanvasNoteData :=
  { id := "n", kind := "image", content := "", x := 0, y := 0, width := 340, height := 250 }

theorem portrait_takes_its_shape_once :
    TakesShapeOnce newImageNote 1000 2000
      (fitImageNodeToIntrinsicAspectChanged newImageNote 1000 2000) :=
  (image_nodes_take_their_shape_once_iff (by decide) (by decide) (by decide)).mpr (by decide)

/-- A landscape image of 1920 by 1080 goes from 340 to 5440 / 9 pixels of height when it is
imported into its node again. -/
theorem landscape_grows_again :
    ¬ TakesShapeOnce newImageNote 1920 1080
      (fitImageNodeToIntrinsicAspectChanged newImageNote 1920 1080) := by
  intro htakes
  have hagain := congrArg (fun found => found.2.height) htakes.again
  revert hagain
  decide +kernel

end ArtForgeStudio.Canvas
