import ArtForgeStudio.Canvas.Workspaces

/-! # The callbacks of the canvas

Each takes what the interface hands over and the new identifiers, and gives the state after it. A
completion of background work is a callback of its own; one that was cancelled does not take place.
-/

namespace ArtForgeStudio.Canvas

open ArtForgeStudio.Api ArtForgeStudio.LocalStore

/-- The store, the history of the active canvas, and the prompt in the interface. -/
structure CanvasApp where
  store : Store := {}
  history : CanvasController := {}
  canvasWorkflowPrompt : String := ""

def selectNode (notes : List CanvasNoteData) (id : String) (toggle : Bool) : List CanvasNoteData :=
  updateFirst (·.id = id) (fun note => { note with selected := !toggle || !note.selected })
    (if toggle then notes else clearSelection notes)

def CanvasRect.intersects (rect other : CanvasRect) : Bool :=
  rect.x ≤ other.x + other.width && other.x ≤ rect.x + rect.width &&
    rect.y ≤ other.y + other.height && other.y ≤ rect.y + rect.height

def selectInRect (notes : List CanvasNoteData) (rect : CanvasRect) (additive : Bool) :
    List CanvasNoteData :=
  (if additive then notes else clearSelection notes).map fun note =>
    if rect.intersects ⟨note.x, note.y, note.width, note.height⟩ then { note with selected := true }
    else note

def moveSelection (notes : List CanvasNoteData) (dx dy : Rat) : List CanvasNoteData :=
  let ids := expandedSelectionIds notes
  notes.map fun note => if note.id ∈ ids then { note with x := note.x + dx, y := note.y + dy } else note

/-- A note that a link may end at. -/
def isLinkEnd (notes : List CanvasNoteData) (id : String) : Bool :=
  notes.any fun note => note.id = id && note.kind ≠ "group"

/-- An image that was stored in the background. -/
structure PreparedCanvasImage where
  path : String
  width : Rat
  height : Rat

inductive CanvasImageImportTarget where
  | existing (id originalPath : String)
  | new (id : String) (centerX centerY : Rat)

/-- The note that is split, as it was when the work began. -/
structure CanvasSplitSource where
  id : String
  imagePath : String
  x : Rat
  y : Rat
  width : Rat
  height : Rat

structure CanvasSplitTile where
  path : String
  row : Nat
  column : Nat
  width : Nat
  height : Nat

structure CanvasExtractedElement where
  path : String
  width : Nat
  height : Nat

/-- What is pasted: the copied selection, if the system's clipboard is as it was then. An image in
it is imported in the background. -/
inductive PastedContent where
  | selection
  | text (text : String)
  | image

namespace CanvasApp

variable (app : CanvasApp)

def canvasSnapshot : CanvasSnapshot := ⟨app.store.canvasNotes, app.store.canvasLinks⟩

def restoreCanvasSnapshot (snapshot : CanvasSnapshot) : CanvasApp :=
  { app with store :=
    { app.store with canvasNotes := snapshot.notes, canvasLinks := snapshot.links } }

/-- The canvas is recorded, and another one takes its place. -/
def edit (notes : List CanvasNoteData) (links : List CanvasLinkData) : CanvasApp :=
  { app.restoreCanvasSnapshot ⟨notes, links⟩ with history := app.history.record app.canvasSnapshot }

/-- A selected note is put on the canvas, if there is room. -/
def addNote (note : CanvasNoteData) : CanvasApp :=
  if maxCanvasNodes ≤ app.store.canvasNotes.length then app
  else app.edit (clearSelection app.store.canvasNotes ++ [note]) app.store.canvasLinks

def select (notes : List CanvasNoteData) : CanvasApp :=
  app.restoreCanvasSnapshot ⟨notes, app.store.canvasLinks⟩

def selectCanvasNode (id : String) (toggle : Bool) : CanvasApp :=
  app.select (selectNode app.store.canvasNotes id toggle)

def selectCanvasRect (x1 y1 x2 y2 : Rat) (additive : Bool) : CanvasApp :=
  app.select (selectInRect app.store.canvasNotes
    ⟨min x1 x2, min y1 y2, max x1 x2 - min x1 x2, max y1 y2 - min y1 y2⟩ additive)

def clearCanvasSelection : CanvasApp := app.select (clearSelection app.store.canvasNotes)

def selectAllCanvasNodes : CanvasApp :=
  app.select (app.store.canvasNotes.map fun note => { note with selected := true })

def addCanvasNode (uuids : Nat → String) (english : Bool) (kind : String) (centerX centerY : Rat) :
    CanvasApp :=
  let kind := if kind = "image" ∨ kind = "group" then kind else "text"
  let (content, width, height) := canvasNodeDefaults kind english
  app.addNote
    { id := uuids 0, kind := kind
      content := if kind = "group" then nextGroupName app.store.canvasNotes english else content
      x := centerX - width / 2, y := centerY - height / 2, width := width, height := height
      selected := true }

def createCanvasGenerationSource (uuids : Nat → String) (english : Bool) (prompt : String)
    (centerX centerY : Rat) : CanvasApp :=
  if trim prompt = "" then app
  else
    let (_, width, height) := canvasNodeDefaults "image" english
    let place := nearestFreeCanvasPosition app.store.canvasNotes (centerX - width / 2)
      (centerY - height / 2) width height none
    app.addNote
      { id := uuids 0, kind := "image", content := trim prompt, x := place.1, y := place.2
        width := width, height := height, selected := true }

def updateCanvasNode (id content : String) (x y : Rat) : CanvasApp :=
  match app.store.canvasNotes.find? (·.id = id) with
  | none => app
  | some note =>
    if note.content = content ∧ note.x = x ∧ note.y = y then app
    else app.edit (updateFirst (·.id = id) (fun note => { note with content := content, x := x, y := y })
      app.store.canvasNotes) app.store.canvasLinks

def moveCanvasSelection (dx dy : Rat) : CanvasApp :=
  if (dx = 0 ∧ dy = 0) ∨ expandedSelectionIds app.store.canvasNotes = ∅ then app
  else app.edit (fitGroupsToChildren (moveSelection app.store.canvasNotes dx dy)) app.store.canvasLinks

def copyCanvasSelection : CanvasApp :=
  { app with
    history := app.history.copySelection app.store.canvasNotes app.store.canvasLinks }

/-- Copies are put on the canvas, if there is room. -/
def insertCopies (copies : List CanvasNoteData × List CanvasLinkData) : CanvasApp :=
  let notes := app.store.canvasNotes
  let links := app.store.canvasLinks
  if copies.1 = [] then app
  else if notes.length + copies.1.length > maxCanvasNodes ∨
      links.length + copies.2.length > maxCanvasLinks then app
  else app.edit (fitGroupsToChildren (clearSelection notes ++ copies.1)) (links ++ copies.2)

def pasteCanvasSelection (uuids : Nat → String) (offsetX offsetY : Rat) : CanvasApp :=
  app.insertCopies (app.history.pasteClipboard uuids (max offsetX 0) (max offsetY 0))

/-- The selection is copied even if the copies find no room. -/
def duplicateCanvasSelection (uuids : Nat → String) : CanvasApp :=
  app.copyCanvasSelection.insertCopies
    (app.copyCanvasSelection.history.pasteClipboard uuids 24 24)

def pasteCanvasContent (uuids : Nat → String) (english : Bool) (content : PastedContent)
    (centerX centerY : Rat) : CanvasApp :=
  match content with
  | .selection => app.pasteCanvasSelection uuids 24 24
  | .image => app
  | .text text =>
    let (_, width, height) := canvasNodeDefaults "text" english
    app.addNote
      { id := uuids 0, kind := "text", content := text, x := centerX - width / 2
        y := centerY - height / 2, width := width, height := height, selected := true }

def groupCanvasSelection (uuids : Nat → String) (english : Bool) (centerX centerY : Rat) : CanvasApp :=
  let notes := app.store.canvasNotes
  if maxCanvasNodes ≤ notes.length then app
  else
    let grouped := match groupSelection (uuids 0) notes english with
      | (some _, grouped) => grouped
      | (none, notes) =>
        let (_, width, height) := canvasNodeDefaults "group" english
        clearSelection notes ++
          [{ id := uuids 0, kind := "group", content := nextGroupName notes english
             x := centerX - width / 2, y := centerY - height / 2, width := width, height := height
             selected := true }]
    app.edit (fitGroupsToChildren grouped) app.store.canvasLinks

def ungroupCanvasNode (id : String) : CanvasApp :=
  match ungroupNode app.store.canvasNotes id with
  | (true, notes) => app.edit (fitGroupsToChildren notes) app.store.canvasLinks
  | (false, _) => app

def ungroupCanvasSelection : CanvasApp :=
  if app.store.canvasNotes.any fun note => note.selected && note.kind = "group" then
    app.edit (fitGroupsToChildren (ungroupSelection app.store.canvasNotes).2) app.store.canvasLinks
  else app

def removeCanvasSelection : CanvasApp :=
  if selectedIds app.store.canvasNotes = ∅ then app
  else
    let (_, notes, links) := removeSelection app.store.canvasNotes app.store.canvasLinks
    app.edit (fitGroupsToChildren notes) links

def removeCanvasGroupWithChildren (id : String) : CanvasApp :=
  let (removed, notes, links) :=
    removeGroupWithDescendants app.store.canvasNotes app.store.canvasLinks id
  if removed = ∅ then app else app.edit (fitGroupsToChildren notes) links

/-- The children of a removed group go to where it lay. -/
def removeCanvasNode (id : String) : CanvasApp :=
  let notes := app.store.canvasNotes
  if notes.any (·.id = id) then
    let released := match notes.find? fun note => note.id = id && note.kind = "group" with
      | some group => notes.map fun (note : CanvasNoteData) =>
        if note.parentGroupId = id then { note with parentGroupId := group.parentGroupId } else note
      | none => notes
    app.edit (fitGroupsToChildren (released.filter (·.id ≠ id)))
      (app.store.canvasLinks.filter fun link => link.sourceId ≠ id && link.targetId ≠ id)
  else app

/-- A connection that is refused leaves nothing but the selection cleared. -/
def addConnectedCanvasNode (uuids : Nat → String) (english : Bool) (kind sourceId : String)
    (x y : Rat) : CanvasApp :=
  let notes := app.store.canvasNotes
  let links := app.store.canvasLinks
  if maxCanvasNodes ≤ notes.length ∨ maxCanvasLinks ≤ links.length ∨ !isLinkEnd notes sourceId then app
  else
    let kind := if kind = "image" ∨ kind = "video" then kind else "text"
    let (content, width, height) := canvasNodeDefaults kind english
    match connectNodes (uuids 1) links sourceId (uuids 0) with
    | (.connected .., connected) => app.edit (clearSelection notes ++
        [{ id := uuids 0, kind := kind, content := content, x := x, y := y, width := width
           height := height, selected := true }]) connected
    | (.rejected, _) => app.clearCanvasSelection

def finishCanvasLink (uuids : Nat → String) (sourceId : String) (x y tolerance : Rat) :
    String × CanvasApp :=
  let notes := app.store.canvasNotes
  let links := app.store.canvasLinks
  if !isLinkEnd notes sourceId then ("rejected", app)
  else match targetAtInput notes sourceId x y (max tolerance 8) with
    | none => ("empty", app)
    | some targetId =>
      let replacing := links.any (·.targetId = targetId)
      if replacing = false ∧ maxCanvasLinks ≤ links.length then ("rejected", app)
      else match connectNodes (uuids 0) links sourceId targetId with
        | (.connected .., links) => ("connected", app.edit notes links)
        | (.rejected, _) => ("rejected", app)

/-- Neither the target nor the number of links is looked at. -/
def finishCanvasReconnect (uuids : Nat → String) (targetId : String) (x y tolerance : Rat) :
    String × CanvasApp :=
  let notes := app.store.canvasNotes
  match sourceAtOutput notes targetId x y (max tolerance 8) with
  | none => ("rejected", app)
  | some sourceId =>
    match connectNodesWithFlow (uuids 0) app.store.canvasLinks sourceId targetId true with
    | (.connected .., links) => ("connected", app.edit notes links)
    | (.rejected, _) => ("rejected", app)

def removeCanvasLink (id : String) : CanvasApp :=
  if app.store.canvasLinks.any (·.id = id) then
    app.edit app.store.canvasNotes (app.store.canvasLinks.filter (·.id ≠ id))
  else app

def importCanvasImage (image : PreparedCanvasImage) : CanvasImageImportTarget → CanvasApp
  | .existing id originalPath =>
    let notes := app.store.canvasNotes
    let isTarget (note : CanvasNoteData) : Bool :=
      note.id = id && note.kind = "image" && note.imagePath = originalPath
    if notes.any isTarget then
      app.edit (updateFirst isTarget (fun note =>
        fitImageNodeToIntrinsicAspect { note with imagePath := image.path } image.width image.height)
        notes) app.store.canvasLinks
    else app
  | .new id centerX centerY =>
    let (_, width, height) := canvasNodeDefaults "image" false
    app.addNote (fitImageNodeToIntrinsicAspect
      { id := id, kind := "board-image", content := "", x := centerX - width / 2
        y := centerY - height / 2, width := width, height := height, imagePath := image.path
        selected := true } image.width image.height)

/-- The images that came of a source are put beside it and linked from it, if it is still what it
was and there is room. -/
def addBoardImages (uuids : Nat → String) (source : CanvasSplitSource)
    (images : List CanvasNoteData) : CanvasApp :=
  let notes := app.store.canvasNotes
  let links := app.store.canvasLinks
  let sourceIsCurrent := notes.any fun note =>
    note.id = source.id && note.imagePath = source.imagePath && isImageKind note.kind
  if !sourceIsCurrent ∨ notes.length + images.length > maxCanvasNodes ∨
      links.length + images.length > maxCanvasLinks then app
  else
    app.edit (clearSelection notes ++ images)
      ((images.map (·.id)).zipIdx.foldl (fun links created =>
        (connectNodes (uuids (images.length + created.2)) links source.id created.1).2) links)

def extractCanvasElements (uuids : Nat → String) (source : CanvasSplitSource)
    (elements : List CanvasExtractedElement) : CanvasApp :=
  let nextZ := topLayer app.store.canvasNotes + 1
  let cellWidth : Rat := 220
  let cellHeight : Rat := 200
  let gap : Rat := 16
  app.addBoardImages uuids source (elements.zipIdx.map fun (element, index) =>
    let note := fitImageNodeToIntrinsicAspect
      { id := uuids index, kind := "board-image", content := "", x := 0, y := 0, width := 180
        height := 180, zIndex := nextZ + index, imagePath := element.path, selected := index = 0 }
      element.width element.height
    { note with
      x := source.x + source.width + 64 + (index % 4 : Nat) * (cellWidth + gap) +
        (cellWidth - note.width) / 2
      y := source.y + (index / 4 : Nat) * (cellHeight + gap) + (cellHeight - note.height) / 2 })

def splitCanvasImage (uuids : Nat → String) (source : CanvasSplitSource) (rows columns : Nat)
    (tiles : List CanvasSplitTile) : CanvasApp :=
  let nextZ := topLayer app.store.canvasNotes + 1
  let rawWidth := source.width / columns
  let rawHeight := source.height / rows
  let displayScale := max (max (80 / rawWidth) (80 / rawHeight)) 1
  let tileWidth := rawWidth * displayScale
  let tileHeight := rawHeight * displayScale
  let gap : Rat := 16
  app.addBoardImages uuids source (tiles.zipIdx.map fun (tile, index) =>
    let scale := min (tileWidth / tile.width) (tileHeight / tile.height)
    { id := uuids index, kind := "board-image", content := ""
      x := source.x + source.width + 64 + tile.column * (tileWidth + gap)
      y := source.y + tile.row * (tileHeight + gap)
      width := tile.width * scale, height := tile.height * scale, zIndex := nextZ + index
      imagePath := tile.path, selected := index = 0 })

def openCanvasWorkspace (workspaceId : String) : CanvasApp :=
  let (prompt, store) := switchCanvasWorkspace app.store app.canvasWorkflowPrompt workspaceId
  { store := store, canvasWorkflowPrompt := prompt }

/-- The note of an image of the viewer, beside the selected notes, or else beside all. -/
def viewerImageNote (id : String) (notes : List CanvasNoteData) (image : PreparedCanvasImage) :
    CanvasNoteData :=
  let (_, width, height) := canvasNodeDefaults "image" false
  let note := fitImageNodeToIntrinsicAspect
    { id := id, kind := "board-image", content := "", x := 0, y := 0, width := width, height := height
      imagePath := image.path, selected := true } image.width image.height
  let selected := selectedIds notes
  match selectionBounds notes (if selected = ∅ then (notes.map (·.id)).toFinset else selected) with
  | some bounds => { note with x := bounds.x + bounds.width + 64, y := bounds.y }
  | none => note

/-- The workspace that was named becomes the active one. The history stays what it was. -/
def importViewerImage (uuids : Nat → String) (targetWorkspace : String)
    (image : PreparedCanvasImage) : CanvasApp :=
  let workspace := normalizeCanvasWorkspaceId targetWorkspace
  if maxCanvasNodes ≤ (app.store.canvas workspace).1.length then app
  else
    let switched := switchCanvasWorkspace app.store app.canvasWorkflowPrompt workspace
    let notes := switched.2.canvasNotes
    { app with
      store := { switched.2 with
        canvasNotes := clearSelection notes ++ [viewerImageNote (uuids 0) notes image] }
      canvasWorkflowPrompt := switched.1 }

def deliver (prepared : PreparedNamespaceDelivery) (loadingNodeId linkId : String) : CanvasApp :=
  match stageCanvasNamespaceDelivery app.store prepared loadingNodeId linkId with
  | .ok (_, store) => { app with store := store }
  | .error _ => app

def undoCanvas : CanvasApp :=
  match app.history.undo app.canvasSnapshot with
  | some (previous, history) => { app.restoreCanvasSnapshot previous with history := history }
  | none => app

def redoCanvas : CanvasApp :=
  match app.history.redo app.canvasSnapshot with
  | some (next, history) => { app.restoreCanvasSnapshot next with history := history }
  | none => app

end CanvasApp

end ArtForgeStudio.Canvas
