import ArtForgeStudio.Images.Cells
import ArtForgeStudio.Library.Floods
import Mathlib.Algebra.Group.Int.Defs
import Mathlib.Data.List.Count

/-! # The background of a cut-out

A flood from the border clears the background pixels it comes to. It writes the alpha that its own
test reads; a cleared pixel counts as background, so the test comes out the same.
-/

namespace ArtForgeStudio.Images

open ArtForgeStudio.Loops ArtForgeStudio.Floods Relation

structure Rgba where
  red : UInt8
  green : UInt8
  blue : UInt8
  alpha : UInt8
  deriving DecidableEq

/-- An image whose sides are `u32`, with one pixel for each cell. -/
structure RgbaImage where
  width : Nat
  height : Nat
  pixels : List Rgba
  size : pixels.length = width * height
  width_lt : width < 2 ^ 32
  height_lt : height < 2 ^ 32

def absDiff (a b : UInt8) : Nat := max a.toNat b.toNat - min a.toNat b.toNat

def isForeground (pixel background : Rgba) : Bool :=
  if pixel.alpha.toNat ≤ 18 then false
  else if background.alpha.toNat ≤ 40 then true
  else
    let delta (channel : Rgba → UInt8) : Int := (channel pixel).toNat - (channel background).toNat
    let colorDistance := delta (·.red) ^ 2 + delta (·.green) ^ 2 + delta (·.blue) ^ 2
    24 * 24 < colorDistance || 28 < absDiff pixel.alpha background.alpha

def Rgba.cleared (pixel : Rgba) : Rgba := { pixel with alpha := 0 }

namespace RgbaImage

variable (image : RgbaImage)

/-- A pixel outside of the image ends the call. -/
def getPixel (cell : Cell) : Option Rgba :=
  if cell.1 < image.width ∧ cell.2 < image.height then image.pixels[place image.width cell]? else none

/-- `crop.get_pixel_mut(x, y)[3] = 0` -/
def clearAlpha (cell : Cell) : Option RgbaImage := do
  let pixel ← image.getPixel cell
  some { image with
    pixels := image.pixels.set (place image.width cell) pixel.cleared
    size := by rw [List.length_set, image.size] }

end RgbaImage

structure Clearing where
  image : RgbaImage
  visited : List Bool
  queue : List Cell

/-- The cells of the border, the corners twice. -/
def borderQueue (width height : Nat) : Option (List Cell) := do
  let queue ← forRange width (fun queue x => do
    let bottom ← subU32 height 1
    some (queue ++ [(x, 0), (x, bottom)])) []
  forRange height (fun queue y => do
    let right ← subU32 width 1
    some (queue ++ [(0, y), (right, y)])) queue

/-- The `while` of the flood. -/
def clearLoop (background : Rgba) : Nat → Clearing → Option RgbaImage
  | 0, _ => none
  | fuel + 1, state =>
    match state.queue with
    | [] => some state.image
    | cell :: queue => do
      let index ← cellIndex state.image.width cell.1 cell.2
      let seen ← state.visited[index]?
      let skipped ← if seen then some true
        else (state.image.getPixel cell).map (isForeground · background)
      if skipped then clearLoop background fuel { state with queue }
      else
        let visited ← writeAt state.visited index true
        let image ← state.image.clearAlpha cell
        let cells ← neighbours cell.1 cell.2
        let inside := cells.filter fun next =>
          next.1 < state.image.width && next.2 < state.image.height
        clearLoop background fuel { image, visited, queue := queue ++ inside }

/-- Every cleared cell queues at most four others, so the rounds suffice. -/
def clearEdgeConnectedBackground (image : RgbaImage) (background : Rgba) : Option RgbaImage := do
  let size ← mulU32 image.width image.height
  let queue ← borderQueue image.width image.height
  clearLoop background (queue.length + 4 * size + 1)
    { image, visited := List.replicate size false, queue }

section Outside

variable (image : RgbaImage) (background : Rgba)

def IsBackground (cell : Cell) : Prop :=
  ∃ pixel, image.getPixel cell = some pixel ∧ isForeground pixel background = false

def OnBorder (cell : Cell) : Prop :=
  cell.1 = 0 ∨ cell.1 + 1 = image.width ∨ cell.2 = 0 ∨ cell.2 + 1 = image.height

/-- The background that is connected to the border through background. -/
def Outside : Cell → Prop :=
  Reached (fun cell => IsBackground image background cell ∧ OnBorder image cell)
    fun a b => IsBackground image background b ∧ Adjacent a b

/-- The result has the alpha of the outside cleared and is the image otherwise. -/
structure ClearsOutside (result : RgbaImage) : Prop where
  width : result.width = image.width
  height : result.height = image.height
  outside : ∀ cell, Outside image background cell →
    result.getPixel cell = (image.getPixel cell).map Rgba.cleared
  rest : ∀ cell, ¬Outside image background cell → result.getPixel cell = image.getPixel cell

end Outside

section Pixels

variable {image result : RgbaImage} {background : Rgba} {cell : Cell}

theorem getPixel_of_inside (h : Inside image.width image.height cell) :
    image.getPixel cell = image.pixels[place image.width cell]? := if_pos h

theorem inside_of_getPixel {pixel : Rgba} (h : image.getPixel cell = some pixel) :
    Inside image.width image.height cell := by
  unfold RgbaImage.getPixel at h
  split at h
  · assumption
  · contradiction

theorem exists_getPixel (h : Inside image.width image.height cell) :
    ∃ pixel, image.getPixel cell = some pixel := by
  rw [getPixel_of_inside h]
  exact exists_getElem? (image.size.symm ▸ place_lt h)

theorem IsBackground.inside (h : IsBackground image background cell) :
    Inside image.width image.height cell := by
  obtain ⟨pixel, hpixel, -⟩ := h
  exact inside_of_getPixel hpixel

theorem isForeground_cleared (pixel : Rgba) : isForeground pixel.cleared background = false := rfl

theorem Outside.isBackground (h : Outside image background cell) :
    IsBackground image background cell := by
  obtain ⟨start, hstart, hreach⟩ := h
  cases hreach with
  | refl => exact hstart.1
  | tail _ hedge => exact hedge.1

/-- Images with the same pixels are the same. -/
theorem RgbaImage.ext_getPixel (hwidth : result.width = image.width)
    (hheight : result.height = image.height)
    (hpixel : ∀ cell, result.getPixel cell = image.getPixel cell) : result = image := by
  obtain ⟨width, height, pixels, hsize, hw, hh⟩ := image
  obtain ⟨width', height', pixels', hsize', hw', hh'⟩ := result
  dsimp only at hwidth hheight
  subst hwidth hheight
  have hpixels : pixels' = pixels := by
    ext1 i
    by_cases hi : i < width' * height'
    · have hcell := hpixel (cellAt width' i)
      rw [getPixel_of_inside (inside_cellAt hi), getPixel_of_inside (inside_cellAt hi)] at hcell
      simpa only [place_cellAt] using hcell
    · rw [List.getElem?_eq_none (by omega), List.getElem?_eq_none (by omega)]
  subst hpixels
  rfl

theorem getPixel_clearAlpha {pixel : Rgba} (h : image.getPixel cell = some pixel) :
    ∃ next, image.clearAlpha cell = some next ∧ next.width = image.width ∧
      next.height = image.height ∧
      ∀ other, next.getPixel other = if other = cell then some pixel.cleared else image.getPixel other := by
  have hinside := inside_of_getPixel h
  refine ⟨{ image with
    pixels := image.pixels.set (place image.width cell) pixel.cleared
    size := by rw [List.length_set, image.size] },
    by rw [RgbaImage.clearAlpha, h]; rfl, rfl, rfl, fun other => ?_⟩
  unfold RgbaImage.getPixel
  dsimp only
  by_cases hother : other.1 < image.width ∧ other.2 < image.height
  · rw [if_pos hother, if_pos hother, getElem?_set_of_lt (image.size.symm ▸ place_lt hinside)]
    refine if_congr ⟨place_inj hother.1 hinside.1, congrArg _⟩ rfl rfl
  · rw [if_neg hother, if_neg hother, if_neg]
    rintro rfl
    exact hother hinside

end Pixels

section Flood

variable {image : RgbaImage} {background : Rgba} {state : Clearing} {cell : Cell}
  {queue : List Cell} {visited : List Bool}

def Visited (image : RgbaImage) (visited : List Bool) (cell : Cell) : Prop :=
  Inside image.width image.height cell ∧ visited[place image.width cell]? = some true

/-- The flood on its way: what was visited is cleared, and nothing else was written. -/
structure Clears (image : RgbaImage) (background : Rgba) (state : Clearing) : Prop where
  width : state.image.width = image.width
  height : state.image.height = image.height
  length : state.visited.length = image.width * image.height
  inside : ∀ cell ∈ state.queue, Inside image.width image.height cell
  cleared : ∀ cell, Visited image state.visited cell →
    state.image.getPixel cell = (image.getPixel cell).map Rgba.cleared
  rest : ∀ cell, ¬Visited image state.visited cell →
    state.image.getPixel cell = image.getPixel cell
  flood : Flood (fun cell => IsBackground image background cell ∧ OnBorder image cell)
    (fun a b => IsBackground image background b ∧ Adjacent a b) (Visited image state.visited)
    (fun cell => IsBackground image background cell ∧ cell ∈ state.queue)

theorem visited_set (hcell : Inside image.width image.height cell)
    (hlength : visited.length = image.width * image.height) (other : Cell) :
    Visited image (visited.set (place image.width cell) true) other ↔
      other = cell ∨ Visited image visited other := by
  unfold Visited
  rw [getElem?_set_of_lt (hlength.symm ▸ place_lt hcell)]
  constructor
  · rintro ⟨hinside, h⟩
    by_cases hplace : place image.width other = place image.width cell
    · exact .inl (place_inj hinside.1 hcell.1 hplace)
    · rw [if_neg hplace] at h
      exact .inr ⟨hinside, h⟩
  · rintro (rfl | ⟨hinside, h⟩)
    · exact ⟨hcell, if_pos rfl⟩
    · refine ⟨hinside, ?_⟩
      split
      · rfl
      · exact h

/-- A cell that was visited before or that is foreground is passed over. -/
theorem Clears.skip (h : Clears image background state) (hqueue : state.queue = cell :: queue)
    (hskip : Visited image state.visited cell ∨ ¬IsBackground image background cell) :
    Clears image background { state with queue } where
  width := h.width
  height := h.height
  length := h.length
  inside other hother := h.inside other (hqueue ▸ List.mem_cons_of_mem _ hother)
  cleared := h.cleared
  rest := h.rest
  flood := by
    refine h.flood.drop ?_ ?_
    · rintro b ⟨hbackground, hb⟩
      exact ⟨hbackground, hqueue ▸ List.mem_cons_of_mem _ hb⟩
    · rintro b ⟨hbackground, hb⟩
      rw [hqueue] at hb
      rcases List.mem_cons.mp hb with rfl | hb
      · exact .inl (hskip.resolve_right fun hnot => hnot hbackground)
      · exact .inr ⟨hbackground, hb⟩

/-- A background cell that was not visited is cleared, and its neighbours are queued. -/
theorem Clears.clear (h : Clears image background state) (hqueue : state.queue = cell :: queue)
    (hnew : ¬Visited image state.visited cell) (hbackground : IsBackground image background cell)
    {cells : List Cell} (hcells : ∀ other, Inside image.width image.height other →
      (other ∈ cells ↔ Adjacent cell other)) {next : RgbaImage}
    (hwidth : next.width = state.image.width) (hheight : next.height = state.image.height)
    {pixel : Rgba} (hpixel : state.image.getPixel cell = some pixel)
    (hnext : ∀ other, next.getPixel other =
      if other = cell then some pixel.cleared else state.image.getPixel other) :
    Clears image background
      { image := next, visited := state.visited.set (place image.width cell) true,
        queue := queue ++ cells.filter fun next =>
          next.1 < state.image.width && next.2 < state.image.height } := by
  have hinside := hbackground.inside
  have hvisited := visited_set hinside h.length
  have hfilter : ∀ other, other ∈ cells.filter (fun next =>
      next.1 < state.image.width && next.2 < state.image.height) ↔
      Inside image.width image.height other ∧ Adjacent cell other := by
    intro other
    rw [List.mem_filter, Bool.and_eq_true, decide_eq_true_iff, decide_eq_true_iff, h.width, h.height]
    constructor
    · rintro ⟨hmem, hother⟩
      exact ⟨hother, (hcells other hother).mp hmem⟩
    · rintro ⟨hother, hadjacent⟩
      exact ⟨(hcells other hother).mpr hadjacent, hother⟩
  refine ⟨hwidth.trans h.width, hheight.trans h.height, ?_, ?_, ?_, ?_, ?_⟩
  · rw [List.length_set, h.length]
  · intro other hother
    rcases List.mem_append.mp hother with hother | hother
    · exact h.inside other (hqueue ▸ List.mem_cons_of_mem _ hother)
    · exact ((hfilter other).mp hother).1
  · intro other hother
    rw [hnext]
    rcases (hvisited other).mp hother with rfl | hother
    · rw [if_pos rfl, ← h.rest other hnew, hpixel]
      rfl
    · have hne : other ≠ cell := fun heq => hnew (heq ▸ hother)
      rw [if_neg hne]
      exact h.cleared other hother
  · intro other hother
    rw [hvisited, not_or] at hother
    rw [hnext, if_neg hother.1]
    exact h.rest other hother.2
  · rw [show Visited image (state.visited.set (place image.width cell) true) = _ from
      funext fun other => propext (hvisited other)]
    refine h.flood.step ⟨hbackground, hqueue ▸ List.mem_cons_self⟩ ?_ ?_ ?_
    · rintro b ⟨hb, hmem⟩
      rcases List.mem_append.mp hmem with hmem | hmem
      · exact .inl ⟨hb, hqueue ▸ List.mem_cons_of_mem _ hmem⟩
      · exact .inr ⟨hb, ((hfilter b).mp hmem).2⟩
    · rintro b ⟨hb, hmem⟩
      rw [hqueue] at hmem
      rcases List.mem_cons.mp hmem with rfl | hmem
      · exact .inl rfl
      · exact .inr (.inr ⟨hb, List.mem_append_left _ hmem⟩)
    · rintro b ⟨hb, hadjacent⟩
      exact .inr (.inr ⟨hb, List.mem_append_right _ ((hfilter b).mpr ⟨hb.inside, hadjacent⟩)⟩)

/-- What is left of the work: the queue, and four neighbours for each cell not visited yet. -/
def Clearing.work (state : Clearing) : Nat := state.queue.length + 4 * state.visited.count false

theorem neighbours_length {x y : Nat} {cells : List Cell} (h : neighbours x y = some cells) :
    cells.length = 4 := by
  obtain ⟨right, -, h⟩ := Option.bind_eq_some_iff.mp h
  obtain ⟨below, -, h⟩ := Option.bind_eq_some_iff.mp h
  obtain rfl := Option.some.inj h
  rfl

theorem count_set_true {i : Nat} (h : visited[i]? = some false) :
    (visited.set i true).count false + 1 = visited.count false := by
  obtain ⟨hlt, hget⟩ := List.getElem?_eq_some_iff.mp h
  have hpositive := List.count_pos_iff.mpr (List.mem_of_getElem? h)
  rw [List.count_set hlt, hget]
  simp only [beq_self_eq_true, if_true, beq_iff_eq, Bool.true_eq_false, if_false]
  omega

theorem clearLoop_spec (hbound : image.width * image.height < 2 ^ 32) {fuel : Nat}
    (hfuel : state.work < fuel) (h : Clears image background state) :
    ∃ last, Clears image background last ∧ last.queue = [] ∧
      clearLoop background fuel state = some last.image := by
  induction fuel generalizing state with
  | zero => exact absurd hfuel (Nat.not_lt_zero _)
  | succ fuel ih =>
    cases hqueue : state.queue with
    | nil => exact ⟨state, h, hqueue, by rw [clearLoop, hqueue]⟩
    | cons cell queue =>
      have hinside : Inside image.width image.height cell :=
        h.inside cell (hqueue ▸ List.mem_cons_self)
      have hlt : place image.width cell < state.visited.length := h.length.symm ▸ place_lt hinside
      have hindex : cellIndex state.image.width cell.1 cell.2 = some (place image.width cell) := by
        rw [h.width]
        exact cellIndex_of_inside hbound hinside
      have hwork : state.work = queue.length + 1 + 4 * state.visited.count false := by
        rw [Clearing.work, hqueue, List.length_cons]
      obtain ⟨seen, hseen⟩ := exists_getElem? hlt
      have hpass (hskip : Visited image state.visited cell ∨ ¬IsBackground image background cell) :
          ∃ last, Clears image background last ∧ last.queue = [] ∧
            clearLoop background fuel { state with queue } = some last.image := by
        refine ih ?_ (h.skip hqueue hskip)
        rw [Clearing.work]
        dsimp only
        omega
      rw [clearLoop, hqueue]
      simp only [hindex, hseen, Option.bind_eq_bind, Option.bind_some]
      cases seen with
      | true => exact hpass (.inl ⟨hinside, hseen⟩)
      | false =>
        have hnew : ¬Visited image state.visited cell := fun hvisited => by
          rw [hvisited.2] at hseen
          contradiction
        obtain ⟨pixel, hpixel⟩ : ∃ pixel, state.image.getPixel cell = some pixel :=
          exists_getPixel (by rwa [h.width, h.height])
        have hbackground : IsBackground image background cell ↔
            isForeground pixel background = false := by
          rw [IsBackground, ← h.rest cell hnew, hpixel]
          simp
        simp only [hpixel, Option.map_some, Bool.false_eq_true, if_false]
        cases hforeground : isForeground pixel background with
        | true => exact hpass (.inr fun hb => by simp [hbackground.mp hb] at hforeground)
        | false =>
          obtain ⟨next, hclear, hwidth, hheight, hnext⟩ := getPixel_clearAlpha hpixel
          obtain ⟨cells, hcells, hadjacent⟩ := mem_neighbours image.width_lt image.height_lt hinside
          have hstep := h.clear hqueue hnew (hbackground.mpr hforeground) hadjacent hwidth hheight
            hpixel hnext
          rw [writeAt_of_lt hlt]
          simp only [hclear, hcells, Option.bind_some, Bool.false_eq_true, if_false]
          refine ih ?_ hstep
          have hcount := count_set_true hseen
          have hfour := (List.length_filter_le (fun next : Cell =>
            next.1 < state.image.width && next.2 < state.image.height) cells).trans_eq
              (neighbours_length hcells)
          rw [Clearing.work]
          dsimp only
          rw [List.length_append]
          omega

end Flood

section Call

variable {image result : RgbaImage} {background : Rgba} {width height : Nat}

theorem borderQueue_spec (hwidth : 1 ≤ width) (hheight : 1 ≤ height) :
    ∃ queue, borderQueue width height = some queue ∧
      ∀ cell, cell ∈ queue ↔ Inside width height cell ∧
        (cell.1 = 0 ∨ cell.1 + 1 = width ∨ cell.2 = 0 ∨ cell.2 + 1 = height) := by
  obtain ⟨rows, hrows, hmem⟩ : ∃ rows, forRange width (fun queue x => do
      let bottom ← subU32 height 1
      some (queue ++ [(x, 0), (x, bottom)])) [] = some rows ∧
      ∀ cell : Cell, cell ∈ rows ↔ cell.1 < width ∧ (cell.2 = 0 ∨ cell.2 + 1 = height) := by
    apply forRange_rule (fun done rows => ∀ cell : Cell,
      cell ∈ rows ↔ cell.1 < done ∧ (cell.2 = 0 ∨ cell.2 + 1 = height))
    · simp
    · intro done hdone rows hrows
      refine ⟨rows ++ [(done, 0), (done, height - 1)], by rw [subU32_of_le hheight]; rfl, ?_⟩
      rintro ⟨x, y⟩
      simp only [List.mem_append, hrows, List.mem_cons, List.not_mem_nil, or_false, Prod.mk.injEq]
      omega
  obtain ⟨queue, hqueue, hall⟩ : ∃ queue, forRange height (fun queue y => do
      let right ← subU32 width 1
      some (queue ++ [(0, y), (right, y)])) rows = some queue ∧
      ∀ cell : Cell, cell ∈ queue ↔ cell ∈ rows ∨
        cell.2 < height ∧ (cell.1 = 0 ∨ cell.1 + 1 = width) := by
    apply forRange_rule (fun done queue => ∀ cell : Cell, cell ∈ queue ↔ cell ∈ rows ∨
      cell.2 < done ∧ (cell.1 = 0 ∨ cell.1 + 1 = width))
    · simp
    · intro done hdone queue hqueue
      refine ⟨queue ++ [(0, done), (width - 1, done)], by rw [subU32_of_le hwidth]; rfl, ?_⟩
      rintro ⟨x, y⟩
      simp only [List.mem_append, hqueue, List.mem_cons, List.not_mem_nil, or_false, Prod.mk.injEq,
        or_assoc]
      refine or_congr_right ?_
      omega
  refine ⟨queue, by rw [borderQueue, hrows]; exact hqueue, fun cell => ?_⟩
  rw [hall, hmem, Inside]
  omega

/-- The call clears the outside. -/
theorem clearEdgeConnectedBackground_spec (image : RgbaImage) (background : Rgba)
    (hwidth : 1 ≤ image.width) (hheight : 1 ≤ image.height)
    (hbound : image.width * image.height < 2 ^ 32) :
    ∃ result, clearEdgeConnectedBackground image background = some result ∧
      ClearsOutside image background result := by
  obtain ⟨queue, hqueue, hmem⟩ := borderQueue_spec hwidth hheight
  have hnone : ∀ cell, ¬Visited image (List.replicate (image.width * image.height) false) cell := by
    rintro cell ⟨-, h⟩
    simp [List.getElem?_replicate] at h
  have hstart : Clears image background
      ⟨image, List.replicate (image.width * image.height) false, queue⟩ := by
    refine ⟨rfl, rfl, List.length_replicate, fun cell h => ((hmem cell).mp h).1,
      fun cell h => absurd h (hnone cell), fun _ _ => rfl, ?_⟩
    rw [show Visited image (List.replicate (image.width * image.height) false) = fun _ => False from
      funext fun cell => propext (iff_false_intro (hnone cell))]
    refine Flood.initial fun cell => and_congr_right fun hbackground => ?_
    rw [hmem, and_iff_right hbackground.inside]
    rfl
  obtain ⟨last, hlast, hempty, hloop⟩ := clearLoop_spec hbound (Nat.lt_succ_self _) hstart
  refine ⟨last.image, ?_, hlast.width, hlast.height, ?_, ?_⟩
  · rw [clearEdgeConnectedBackground, mulU32_of_lt hbound, hqueue]
    simpa [Clearing.work] using hloop
  · intro cell hcell
    exact hlast.cleared cell ((hlast.flood.done_iff (by simp [hempty]) cell).mpr hcell)
  · intro cell hcell
    exact hlast.rest cell fun h => hcell ((hlast.flood.done_iff (by simp [hempty]) cell).mp h)

/-- What counts as background is the same after the call. -/
theorem ClearsOutside.isBackground_iff (h : ClearsOutside image background result) (cell : Cell) :
    IsBackground result background cell ↔ IsBackground image background cell := by
  by_cases hcell : Outside image background cell
  · have hbackground := hcell.isBackground
    obtain ⟨pixel, hpixel, -⟩ := id hbackground
    refine iff_of_true ⟨pixel.cleared, ?_, isForeground_cleared pixel⟩ hbackground
    rw [h.outside cell hcell, hpixel]
    rfl
  · rw [IsBackground, IsBackground, h.rest cell hcell]

theorem ClearsOutside.outside_iff (h : ClearsOutside image background result) (cell : Cell) :
    Outside result background cell ↔ Outside image background cell := by
  refine Reached.congr (fun cell => and_congr (h.isBackground_iff cell) ?_)
    fun a b => and_congr_left fun _ => h.isBackground_iff b
  rw [OnBorder, OnBorder, h.width, h.height]

/-- Clearing what is cleared changes nothing. -/
theorem ClearsOutside.again {twice : RgbaImage} (h : ClearsOutside image background result)
    (h' : ClearsOutside result background twice) : twice = result := by
  refine RgbaImage.ext_getPixel h'.width h'.height fun cell => ?_
  by_cases hcell : Outside image background cell
  · rw [h'.outside cell ((h.outside_iff cell).mpr hcell), h.outside cell hcell, Option.map_map]
    rfl
  · exact h'.rest cell fun houtside => hcell ((h.outside_iff cell).mp houtside)

/-- The call returns, its result has exactly the outside cleared, and a second call changes
nothing. -/
def ClearsExactly (image : RgbaImage) (background : Rgba) : Prop :=
  ∃ result, clearEdgeConnectedBackground image background = some result ∧
    ClearsOutside image background result ∧
    clearEdgeConnectedBackground result background = some result

/-- It does so for every image whose number of pixels is a `u32`; the product of the sides is taken
before it is made a `usize`. -/
theorem clearsExactly_iff (image : RgbaImage) (background : Rgba) (hwidth : 1 ≤ image.width)
    (hheight : 1 ≤ image.height) :
    ClearsExactly image background ↔ image.width * image.height < 2 ^ 32 := by
  constructor
  · rintro ⟨result, hresult, -⟩
    by_contra hlarge
    rw [clearEdgeConnectedBackground, mulU32, if_neg hlarge] at hresult
    contradiction
  · intro hbound
    obtain ⟨result, hresult, hclears⟩ :=
      clearEdgeConnectedBackground_spec image background hwidth hheight hbound
    obtain ⟨twice, htwice, hclears'⟩ := clearEdgeConnectedBackground_spec result background
      (by rwa [hclears.width]) (by rwa [hclears.height]) (by rwa [hclears.width, hclears.height])
    exact ⟨result, hresult, hclears, hclears.again hclears' ▸ htwice⟩

/-- A blank image; it is not built to reason about it. -/
def blank (width height : Nat) (hwidth : width < 2 ^ 32) (hheight : height < 2 ^ 32) : RgbaImage where
  width := width
  height := height
  pixels := List.replicate (width * height) ⟨255, 255, 255, 255⟩
  size := List.length_replicate
  width_lt := hwidth
  height_lt := hheight

/-- A blank image of three by two pixels is cleared. -/
theorem clearsExactly_blank :
    ClearsExactly (blank 3 2 (by decide) (by decide)) ⟨255, 255, 255, 255⟩ :=
  (clearsExactly_iff (blank 3 2 (by decide) (by decide)) ⟨255, 255, 255, 255⟩ (by decide)
    (by decide)).mpr (by decide)

/-- The sides of this image are `u32`, their product is not. -/
theorem large_image_not_cleared : ¬∀ (image : RgbaImage) (background : Rgba), 1 ≤ image.width →
    1 ≤ image.height → ClearsExactly image background := by
  intro h
  obtain ⟨result, hresult, -⟩ :=
    h (blank 65536 65536 (by decide) (by decide)) ⟨255, 255, 255, 255⟩ (by decide) (by decide)
  rw [clearEdgeConnectedBackground, mulU32, if_neg (by decide)] at hresult
  contradiction

end Call

end ArtForgeStudio.Images
