import ArtForgeStudio.Canvas.Operations

/-! # Places and sizes on the canvas

Where new notes go, what a pointer hits, and how groups follow their children. Nothing here changes
which notes there are, or their kinds.
-/

namespace ArtForgeStudio.Canvas

open ArtForgeStudio.LocalStore

/-- The first element with the property is changed. -/
def updateFirst {A : Type} (p : A → Bool) (change : A → A) : List A → List A
  | [] => []
  | item :: items => if p item then change item :: items else item :: updateFirst p change items

def generatedNodeGap : Rat := 48

def generatedNodeSearchRings : Nat := 64

/-- The note is in no one's way: a group, or the note that is placed itself. -/
def canvasPositionIsFree (notes : List CanvasNoteData) (candidate : CanvasRect)
    (ignoreId : Option String) : Bool :=
  notes.all fun note =>
    note.kind = "group" || ignoreId = some note.id ||
      note.x + note.width + generatedNodeGap ≤ candidate.x ||
      candidate.x + candidate.width + generatedNodeGap ≤ note.x ||
      note.y + note.height + generatedNodeGap ≤ candidate.y ||
      candidate.y + candidate.height + generatedNodeGap ≤ note.y

/-- The places of a ring, in the order in which they are tried. -/
def ringPlaces (ring : Int) : List (Int × Int) :=
  [(ring, 0), (0, ring), (-ring, 0), (0, -ring)] ++
    (List.range' 1 (ring.toNat - 1)).flatMap (fun n =>
      let offset : Int := n
      [(ring, offset), (ring, -offset), (offset, ring), (-offset, ring),
        (-ring, offset), (-ring, -offset), (offset, -ring), (-offset, -ring)]) ++
    [(ring, ring), (ring, -ring), (-ring, ring), (-ring, -ring)]

def nearestFreeCanvasPosition (notes : List CanvasNoteData) (desiredX desiredY width height : Rat)
    (ignoreId : Option String) : Rat × Rat :=
  let isFree (place : Rat × Rat) := canvasPositionIsFree notes ⟨place.1, place.2, width, height⟩ ignoreId
  let places := (List.range' 1 generatedNodeSearchRings).flatMap fun ring =>
    (ringPlaces ring).map fun grid =>
      (desiredX + grid.1 * (width + generatedNodeGap), desiredY + grid.2 * (height + generatedNodeGap))
  match ((desiredX, desiredY) :: places).find? isFree with
  | some place => place
  | none =>
    let others := notes.filter fun note => note.kind ≠ "group" && ignoreId ≠ some note.id
    let rightmost := (others.map fun note => note.x + note.width).foldl max desiredX
    (rightmost + generatedNodeGap, desiredY)

def generatedCanvasResultPosition (source : Option CanvasNoteData) (resultWidth resultHeight : Rat)
    (resultIndex totalCount : Int) : Rat × Rat :=
  let gapX : Rat := 96
  let gapY : Rat := 36
  let index : Rat := max resultIndex 0
  let count : Rat := max totalCount 1
  let stackHeight := count * resultHeight + (count - 1) * gapY
  match source with
  | some source => (source.x + source.width + gapX,
      source.y + source.height / 2 - stackHeight / 2 + index * (resultHeight + gapY))
  | none => (index * (resultWidth + gapX), 0)

def minImageNodeEdge : Rat := 80

def isImageKind (kind : String) : Bool := kind = "image" || kind = "board-image"

/-- The note takes the shape of its image, about its centre. -/
def fitImageNodeToIntrinsicAspect (note : CanvasNoteData) (imageWidth imageHeight : Rat) :
    CanvasNoteData :=
  if !isImageKind note.kind || imageWidth ≤ 0 || imageHeight ≤ 0 then note
  else
    let baseHeight := max (max note.width note.height) minImageNodeEdge
    let size : Rat × Rat := (baseHeight * imageWidth / imageHeight, baseHeight)
    let wide : Rat × Rat := if size.1 < minImageNodeEdge then
      (size.1 * (minImageNodeEdge / size.1), size.2 * (minImageNodeEdge / size.1)) else size
    let full : Rat × Rat := if wide.2 < minImageNodeEdge then
      (wide.1 * (minImageNodeEdge / wide.2), wide.2 * (minImageNodeEdge / wide.2)) else wide
    if note.width = full.1 ∧ note.height = full.2 then note
    else { note with
      width := full.1, height := full.2
      x := note.x + note.width / 2 - full.1 / 2, y := note.y + note.height / 2 - full.2 / 2 }

/-- The text and the size of a new note. -/
def canvasNodeDefaults (kind : String) (english : Bool) : String × Rat × Rat :=
  match kind with
  | "image" => ("", 340, 250)
  | "video" => ("", 400, 270)
  | "audio" => ("", 340, 190)
  | "group" => (if english then "Group" else "节点组", 680, 360)
  | _ => ("", 320, 210)

/-- The nearer of two places; the first if none is. -/
def nearer (best : Option (Rat × String)) (place : Rat × String) : Option (Rat × String) :=
  match best with
  | some closest => if place.1 < closest.1 then some place else best
  | none => some place

def nearest (places : List (Rat × String)) : Option String := (places.foldl nearer none).map (·.2)

/-- The square of the distance from a place, if it is within the tolerance. -/
def withinReach (placeX placeY x y tolerance : Rat) : Option Rat :=
  let distance := (placeX - x) * (placeX - x) + (placeY - y) * (placeY - y)
  if distance ≤ tolerance * tolerance then some distance else none

def targetAtInput (notes : List CanvasNoteData) (sourceId : String) (x y tolerance : Rat) :
    Option String :=
  nearest ((notes.filter fun note => note.id ≠ sourceId && note.kind ≠ "group").filterMap fun note =>
    (withinReach note.x (note.y + note.height / 2) x y tolerance).map (·, note.id))

def sourceAtOutput (notes : List CanvasNoteData) (targetId : String) (x y tolerance : Rat) :
    Option String :=
  nearest ((notes.filter fun note => note.id ≠ targetId && note.kind ≠ "group").filterMap fun note =>
    (withinReach (note.x + note.width) (note.y + note.height / 2) x y tolerance).map (·, note.id))

/-- The parent of a note by its identifier; the last of several notes counts. -/
def parentOf (notes : List CanvasNoteData) (id : String) : Option String :=
  ((notes.map fun note => (note.id, note.parentGroupId)).reverse).lookup id

/-- The walk up from a group, up to the top or to a group seen before. -/
def depthFrom (parents : String → Option String) :
    (fuel : Nat) → (current : String) → (visited : Finset String) → Option Nat
  | 0, _, _ => none
  | fuel + 1, current, visited =>
    match parents current with
    | none => some 0
    | some parent =>
      if parent = "" ∨ parent ∈ visited then some 0
      else (depthFrom parents fuel parent (insert parent visited)).map (· + 1)

def groupDepth (notes : List CanvasNoteData) (groupId : String) : Nat :=
  (depthFrom (parentOf notes) (notes.length + 1) groupId ∅).getD 0

/-- A group takes in its children. -/
def fitGroup (notes : List CanvasNoteData) (groupId : String) : List CanvasNoteData :=
  let childIds := ((notes.filter (·.parentGroupId = groupId)).map (·.id)).toFinset
  match selectionBounds notes childIds with
  | none => notes
  | some bounds => updateFirst (·.id = groupId) (fun group => { group with
      x := bounds.x - groupPadding, y := bounds.y - groupTopPadding
      width := bounds.width + groupPadding * 2
      height := bounds.height + groupTopPadding + groupPadding }) notes

/-- The groups take in their children, the deepest first. -/
def fitGroupsToChildren (notes : List CanvasNoteData) : List CanvasNoteData :=
  let groups := (notes.filter (·.kind = "group")).map fun note => (note.id, groupDepth notes note.id)
  (groups.mergeSort fun left right => right.2 ≤ left.2).foldl
    (fun notes group => fitGroup notes group.1) notes

/-- The walk up from a note comes back to where it was. -/
def comesBack (parents : String → Option String) :
    (fuel : Nat) → (current : String) → (visited : Finset String) → Option Bool
  | 0, _, _ => none
  | fuel + 1, current, visited =>
    if current = "" then some false
    else if current ∈ visited then some true
    else comesBack parents fuel ((parents current).getD "") (insert current visited)

theorem parentOf_eq_some {notes : List CanvasNoteData} {id parent : String}
    (h : parentOf notes id = some parent) :
    ∃ note ∈ notes, note.id = id ∧ note.parentGroupId = parent :=
  mem_of_lookup_reverse h

theorem parentOf_of_mem {notes : List CanvasNoteData} {note : CanvasNoteData}
    (hunique : (notes.map (·.id)).Nodup) (hnote : note ∈ notes) :
    parentOf notes note.id = some note.parentGroupId :=
  lookup_reverse_of_mem hunique hnote

theorem depthFrom_isSome {notes : List CanvasNoteData} {fuel : Nat} {current : String}
    {visited : Finset String}
    (hfuel : (notes.filter (·.parentGroupId ∉ visited)).length < fuel) :
    (depthFrom (parentOf notes) fuel current visited).isSome := by
  induction fuel generalizing current visited with
  | zero => exact absurd hfuel (Nat.not_lt_zero _)
  | succ fuel ih =>
    unfold depthFrom
    cases hparent : parentOf notes current with
    | none => rfl
    | some parent =>
      dsimp only
      split
      · rfl
      · rename_i hnew
        obtain ⟨note, hnote, -, rfl⟩ := parentOf_eq_some hparent
        have hless := unvisited_lt (·.parentGroupId) hnote fun hseen => hnew (.inr hseen)
        rw [Option.isSome_map]
        exact ih (by omega)

/-- The fuel is enough: no group is passed twice. -/
theorem groupDepth_eq_some (notes : List CanvasNoteData) (groupId : String) :
    depthFrom (parentOf notes) (notes.length + 1) groupId ∅ = some (groupDepth notes groupId) := by
  have hsome : (depthFrom (parentOf notes) (notes.length + 1) groupId ∅).isSome :=
    depthFrom_isSome (Nat.lt_succ_of_le (List.length_filter_le _ _))
  obtain ⟨depth, hdepth⟩ := Option.isSome_iff_exists.mp hsome
  rw [groupDepth, hdepth]
  rfl

theorem comesBack_isSome {notes : List CanvasNoteData} {fuel : Nat} {current : String}
    {visited : Finset String} (hfuel : (notes.filter (·.id ∉ visited)).length + 2 ≤ fuel) :
    (comesBack (parentOf notes) fuel current visited).isSome := by
  induction fuel generalizing current visited with
  | zero => omega
  | succ fuel ih =>
    unfold comesBack
    split
    · rfl
    · split
      · rfl
      · rename_i hnew
        cases hparent : parentOf notes current with
        | none =>
          obtain ⟨rest, rfl⟩ : ∃ rest, fuel = rest + 1 := ⟨fuel - 1, by omega⟩
          simp [comesBack]
        | some parent =>
          obtain ⟨note, hnote, rfl, -⟩ := parentOf_eq_some hparent
          have hless := unvisited_lt (·.id) hnote hnew
          exact ih (by omega)

/-- The fuel is enough to come back to a note or to the top. -/
theorem comesBack_eq_some {notes : List CanvasNoteData} {note : CanvasNoteData}
    (hnote : note ∈ notes) (current : String) :
    ∃ found, comesBack (parentOf notes) (notes.length + 1) current {note.id} = some found := by
  have hless := unvisited_lt (·.id) hnote (Finset.notMem_empty _)
  have hall : (notes.filter (·.id ∉ (∅ : Finset String))).length ≤ notes.length :=
    List.length_filter_le _ _
  rw [insert_empty_eq] at hless
  exact Option.isSome_iff_exists.mp (comesBack_isSome (by omega))

/-- Every note lies in a group that is there, and none in itself. -/
def normalizeCanvasGroups (notes : List CanvasNoteData) : List CanvasNoteData :=
  let groupIds := (notes.filter (·.kind = "group")).map (·.id)
  let named := notes.map fun note =>
    if note.parentGroupId = note.id ∨ note.parentGroupId ∉ groupIds then
      { note with parentGroupId := "" } else note
  named.map fun note =>
    if (comesBack (parentOf named) (named.length + 1) note.parentGroupId {note.id}).getD false then
      { note with parentGroupId := "" } else note

/-- Which notes there are, and of which kind. -/
def outline (notes : List CanvasNoteData) : List (String × String) :=
  notes.map fun note => (note.id, note.kind)

section Outline

variable {notes : List CanvasNoteData} {change : CanvasNoteData → CanvasNoteData}

theorem outline_map (h : ∀ note, (change note).id = note.id ∧ (change note).kind = note.kind) :
    outline (notes.map change) = outline notes := by
  rw [outline, List.map_map]
  exact List.map_congr_left fun note _ => Prod.ext (h note).1 (h note).2

theorem outline_updateFirst (p : CanvasNoteData → Bool)
    (h : ∀ note ∈ notes, p note → (change note).id = note.id ∧ (change note).kind = note.kind) :
    outline (updateFirst p change notes) = outline notes := by
  induction notes with
  | nil => rfl
  | cons note notes ih =>
    unfold updateFirst
    split
    · rename_i hp
      obtain ⟨hid, hkind⟩ := h note List.mem_cons_self hp
      simp [outline, hid, hkind]
    · have hrest := ih fun other hother => h other (List.mem_cons_of_mem _ hother)
      simpa [outline] using hrest

@[simp] theorem outline_clearSelection (notes : List CanvasNoteData) :
    outline (clearSelection notes) = outline notes :=
  outline_map fun _ => ⟨rfl, rfl⟩

@[simp] theorem outline_fitGroup (notes : List CanvasNoteData) (groupId : String) :
    outline (fitGroup notes groupId) = outline notes := by
  unfold fitGroup
  dsimp only
  split
  · rfl
  · exact outline_updateFirst _ fun _ _ _ => ⟨rfl, rfl⟩

@[simp] theorem outline_fitGroupsToChildren (notes : List CanvasNoteData) :
    outline (fitGroupsToChildren notes) = outline notes := by
  have hfold : ∀ groups : List (String × Nat), ∀ notes : List CanvasNoteData,
      outline (groups.foldl (fun notes group => fitGroup notes group.1) notes) = outline notes := by
    intro groups
    induction groups with
    | nil => exact fun _ => rfl
    | cons group groups ih => exact fun notes => (ih _).trans (outline_fitGroup notes group.1)
  exact hfold _ notes

theorem fitImageNode_outline (note : CanvasNoteData) (imageWidth imageHeight : Rat) :
    (fitImageNodeToIntrinsicAspect note imageWidth imageHeight).id = note.id ∧
      (fitImageNodeToIntrinsicAspect note imageWidth imageHeight).kind = note.kind := by
  unfold fitImageNodeToIntrinsicAspect
  split
  · exact ⟨rfl, rfl⟩
  · extract_lets baseHeight size wide full
    split <;> exact ⟨rfl, rfl⟩

end Outline

end ArtForgeStudio.Canvas
