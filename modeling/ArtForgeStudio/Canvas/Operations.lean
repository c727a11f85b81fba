import ArtForgeStudio.Api.Wire
import ArtForgeStudio.Canvas.History
import Mathlib.Algebra.Order.Ring.Unbundled.Rat
import Mathlib.Data.Finset.Basic

/-! # Operations on the canvas

The links that may be made, what a selection means, and how groups are made, dissolved, removed
and copied. Coordinates are exact, where the code rounds to single precision; no branch of an
operation but that of an empty selection depends on them. New identifiers come from `uuids`.
-/

namespace ArtForgeStudio.Canvas

open ArtForgeStudio.LocalStore

inductive CanvasConnectResult where
  | connected (linkId targetId : String) (replacedLinkId : Option String)
  | rejected
  deriving DecidableEq

/-- The search from the last pending node; nothing is found out without fuel. -/
def linkReachesFrom (links : List CanvasLinkData) (target : String) :
    (fuel : Nat) → (pending : List String) → (visited : Finset String) → Option Bool
  | _, [], _ => some false
  | 0, _ :: _, _ => none
  | fuel + 1, nodeId :: pending, visited =>
    if nodeId = target then some true
    else if nodeId ∈ visited then linkReachesFrom links target fuel pending visited
    else linkReachesFrom links target fuel
      (((links.filter (·.sourceId = nodeId)).map (·.targetId)).reverse ++ pending)
      (insert nodeId visited)

def linkReaches (links : List CanvasLinkData) (start target : String) : Bool :=
  (linkReachesFrom links target (links.length + 1) [start] ∅).getD false

def connectionAllowed (links : List CanvasLinkData) (sourceId targetId : String) : Bool :=
  if sourceId = targetId ∨
      links.any fun link => link.sourceId = sourceId && link.targetId = targetId then false
  else !linkReaches (links.filter fun link => link.targetId ≠ targetId) targetId sourceId

/-- The new link takes the place of the one that led to the target. -/
def connectNodesWithFlow (linkId : String) (links : List CanvasLinkData)
    (sourceId targetId : String) (flowReversed : Bool) :
    CanvasConnectResult × List CanvasLinkData :=
  if !connectionAllowed links sourceId targetId then (.rejected, links)
  else
    (.connected linkId targetId ((links.find? (·.targetId = targetId)).map (·.id)),
      links.filter (fun link => link.targetId ≠ targetId) ++
        [{ id := linkId, sourceId := sourceId, targetId := targetId, flowReversed := flowReversed }])

def connectNodes (linkId : String) (links : List CanvasLinkData) (sourceId targetId : String) :
    CanvasConnectResult × List CanvasLinkData :=
  connectNodesWithFlow linkId links sourceId targetId false

def selectedIds (notes : List CanvasNoteData) : Finset String :=
  ((notes.filter (·.selected)).map (·.id)).toFinset

/-- One child: it is kept once, and a group is looked into. -/
def descend (found : List String × Finset String) (child : CanvasNoteData) :
    List String × Finset String :=
  if child.id ∈ found.2 then found
  else (if child.kind = "group" then child.id :: found.1 else found.1, insert child.id found.2)

def descendantsFrom (notes : List CanvasNoteData) :
    (fuel : Nat) → (pending : List String) → (result : Finset String) → Option (Finset String)
  | _, [], result => some result
  | 0, _ :: _, _ => none
  | fuel + 1, parentId :: pending, result =>
    let found := (notes.filter (·.parentGroupId = parentId)).foldl descend (pending, result)
    descendantsFrom notes fuel found.1 found.2

def descendantIds (notes : List CanvasNoteData) (groupId : String) : Finset String :=
  (descendantsFrom notes (notes.length + 1) [groupId] ∅).getD ∅

/-- What is seen for the first time is one less to see. -/
theorem unvisited_lt {notes : List CanvasNoteData} {note : CanvasNoteData} {visited : Finset String}
    (key : CanvasNoteData → String) (hnote : note ∈ notes) (hnew : key note ∉ visited) :
    (notes.filter (key · ∉ insert (key note) visited)).length <
      (notes.filter (key · ∉ visited)).length := by
  have hfilter : notes.filter (key · ∉ insert (key note) visited) =
      (notes.filter (key · ∉ visited)).filter (key · ≠ key note) := by
    rw [List.filter_filter]
    refine List.filter_congr fun other _ => ?_
    simp [Finset.mem_insert, not_or]
  rw [hfilter, List.length_filter_lt_length_iff_exists]
  exact ⟨note, List.mem_filter.mpr ⟨hnote, by simpa using hnew⟩, by simp⟩

/-- The selected notes, with all that lies in a selected group. -/
def expandedSelectionIds (notes : List CanvasNoteData) : Finset String :=
  ((notes.filter fun note => note.selected && note.kind = "group").map (·.id)).foldl
    (fun ids groupId => ids ∪ descendantIds notes groupId) (selectedIds notes)

def clearSelection (notes : List CanvasNoteData) : List CanvasNoteData :=
  notes.map fun note => { note with selected := false }

structure CanvasRect where
  x : Rat
  y : Rat
  width : Rat
  height : Rat

def selectionBounds (notes : List CanvasNoteData) (ids : Finset String) : Option CanvasRect :=
  match notes.filter (·.id ∈ ids) with
  | [] => none
  | first :: selected =>
    let left := selected.foldl (fun left note => min left note.x) first.x
    let top := selected.foldl (fun top note => min top note.y) first.y
    let right := selected.foldl (fun right note => max right (note.x + note.width))
      (first.x + first.width)
    let bottom := selected.foldl (fun bottom note => max bottom (note.y + note.height))
      (first.y + first.height)
    some ⟨left, top, right - left, bottom - top⟩

def groupPadding : Rat := 36

def groupTopPadding : Rat := 72

/-- `suffix.parse::<usize>()` -/
def parseUsize (suffix : List Char) : Option Nat :=
  let digits := if suffix.head? = some '+' then suffix.tail else suffix
  if digits = [] then none else (Api.parseDigits digits 0).filter (· < 0x10000000000000000)

/-- The number in a group's name, if it is a positive one. -/
def groupIndex (start : String) (note : CanvasNoteData) : Option Nat :=
  if note.kind = "group" ∧ start.toList <+: note.content.toList then
    (parseUsize (note.content.toList.drop start.toList.length)).filter (0 < ·)
  else none

def nextGroupName (notes : List CanvasNoteData) (english : Bool) : String :=
  let start := if english then "Group " else "分组"
  let used := notes.filterMap (groupIndex start)
  let index := ((List.range' 1 (used.length + 1)).find? fun index => !used.contains index).getD 1
  start ++ toString index

def moveInto (ids : Finset String) (parentGroupId groupId : String) (note : CanvasNoteData) :
    CanvasNoteData :=
  if note.id ∈ ids ∧ note.parentGroupId = parentGroupId then
    { note with parentGroupId := groupId, selected := false }
  else note

/-- The selected notes that lie where the first of them does go into a new group. -/
def groupSelection (groupId : String) (notes : List CanvasNoteData) (english : Bool) :
    Option String × List CanvasNoteData :=
  let ids := expandedSelectionIds notes
  match selectionBounds notes ids with
  | none => (none, notes)
  | some bounds =>
    let parentGroupId := ((notes.find? (·.id ∈ ids)).map (·.parentGroupId)).getD ""
    (some groupId, notes.map (moveInto ids parentGroupId groupId) ++
      [{ id := groupId, kind := "group", content := nextGroupName notes english
         x := bounds.x - groupPadding, y := bounds.y - groupTopPadding
         width := bounds.width + groupPadding * 2
         height := bounds.height + groupTopPadding + groupPadding
         parentGroupId := parentGroupId, selected := true }])

/-- The children of a group go to another parent, selected. -/
def releaseChildren (groupId parentId : String) (notes : List CanvasNoteData) : List CanvasNoteData :=
  notes.map fun note =>
    if note.parentGroupId = groupId then { note with parentGroupId := parentId, selected := true }
    else note

def ungroupSelection (notes : List CanvasNoteData) : Finset String × List CanvasNoteData :=
  let selectedGroups := (notes.filter fun note => note.selected && note.kind = "group").map
    fun note => (note.id, note.parentGroupId)
  let removed := (selectedGroups.map (·.1)).toFinset
  let released := selectedGroups.foldl
    (fun notes group => releaseChildren group.1 group.2 notes) notes
  (removed, released.filter (·.id ∉ removed))

def ungroupNode (notes : List CanvasNoteData) (groupId : String) : Bool × List CanvasNoteData :=
  match notes.find? fun note => note.id = groupId && note.kind = "group" with
  | none => (false, notes)
  | some group =>
    (true, (releaseChildren groupId group.parentGroupId notes).filter (·.id ≠ groupId))

/-- The last of several entries for a key is looked up. -/
theorem mem_of_lookup_reverse {A V : Type} {items : List A} {key : A → String} {value : A → V}
    {id : String} {v : V}
    (h : ((items.map fun item => (key item, value item)).reverse).lookup id = some v) :
    ∃ item ∈ items, key item = id ∧ value item = v := by
  obtain ⟨before, after, hentries, -⟩ := List.lookup_eq_some_iff.mp h
  have hmem : (id, v) ∈ items.map fun item => (key item, value item) := by
    rw [← List.mem_reverse, hentries]
    simp
  obtain ⟨item, hitem, heq⟩ := List.mem_map.mp hmem
  exact ⟨item, hitem, (Prod.mk.inj heq).1, (Prod.mk.inj heq).2⟩

/-- When all keys are different, every entry is found. -/
theorem lookup_reverse_of_mem {A V : Type} {items : List A} {key : A → String} {value : A → V}
    {item : A} (hunique : (items.map key).Nodup) (hitem : item ∈ items) :
    ((items.map fun item => (key item, value item)).reverse).lookup (key item) =
      some (value item) := by
  have hmem : (key item, value item) ∈ (items.map fun item => (key item, value item)).reverse :=
    List.mem_reverse.mpr (List.mem_map_of_mem hitem)
  obtain ⟨v, hv⟩ := Option.isSome_iff_exists.mp
    (List.lookup_isSome_iff.mpr ⟨_, hmem, beq_self_eq_true _⟩)
  obtain ⟨other, hother, hkey, rfl⟩ := mem_of_lookup_reverse hv
  rw [hv, List.inj_on_of_nodup_map hunique hother hitem hkey]

/-- The parent of a removed group, by its identifier; the last of several notes counts. -/
def removedParent (notes : List CanvasNoteData) (removed : Finset String) (groupId : String) :
    Option String :=
  (((notes.filter fun note => note.id ∈ removed && note.kind = "group").map
    fun note => (note.id, note.parentGroupId)).reverse).lookup groupId

def withoutRemoved (removed : Finset String) (links : List CanvasLinkData) : List CanvasLinkData :=
  links.filter fun link => link.sourceId ∉ removed && link.targetId ∉ removed

def removeSelection (notes : List CanvasNoteData) (links : List CanvasLinkData) :
    Finset String × List CanvasNoteData × List CanvasLinkData :=
  let removed := selectedIds notes
  let notes := notes.map fun note => { note with
    parentGroupId := (removedParent notes removed note.parentGroupId).getD note.parentGroupId }
  (removed, notes.filter (·.id ∉ removed), withoutRemoved removed links)

def removeGroupWithDescendants (notes : List CanvasNoteData) (links : List CanvasLinkData)
    (groupId : String) : Finset String × List CanvasNoteData × List CanvasLinkData :=
  if notes.any fun note => note.id = groupId && note.kind = "group" then
    let removed := insert groupId (descendantIds notes groupId)
    (removed, notes.filter (·.id ∉ removed), withoutRemoved removed links)
  else (∅, notes, links)

def CanvasController.copySelection (controller : CanvasController) (notes : List CanvasNoteData)
    (links : List CanvasLinkData) : CanvasController :=
  let ids := expandedSelectionIds notes
  { controller with
    clipboard :=
      { notes := notes.filter (·.id ∈ ids)
        links := links.filter fun link => link.sourceId ∈ ids && link.targetId ∈ ids } }

/-- The new identifier of a copied note; the last of several notes counts. -/
def CanvasClipboard.idMap (uuids : Nat → String) (clipboard : CanvasClipboard) (id : String) :
    Option String :=
  ((clipboard.notes.zipIdx.map fun item => (item.1.id, uuids item.2)).reverse).lookup id

/-- The copies take the first new identifiers, and their links the ones after. -/
def CanvasController.pasteClipboard (uuids : Nat → String) (controller : CanvasController)
    (offsetX offsetY : Rat) : List CanvasNoteData × List CanvasLinkData :=
  let clipboard := controller.clipboard
  let idMap := clipboard.idMap uuids
  (clipboard.notes.map fun note => { note with
      id := (idMap note.id).getD ""
      parentGroupId := (idMap note.parentGroupId).getD ""
      x := note.x + offsetX, y := note.y + offsetY, selected := true },
    clipboard.links.zipIdx.filterMap fun item => do
      let sourceId ← idMap item.1.sourceId
      let targetId ← idMap item.1.targetId
      pure { id := uuids (clipboard.notes.length + item.2), sourceId := sourceId
             targetId := targetId, flowReversed := item.1.flowReversed })

end ArtForgeStudio.Canvas
