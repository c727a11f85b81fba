import ArtForgeStudio.Canvas.Geometry
import ArtForgeStudio.Library.Outcome

/-! # The canvas in its store

The active workspace stands in fields of its own; it and all others stand in a map. Its prompt is
in the state of the interface.
-/

namespace ArtForgeStudio.Canvas

open ArtForgeStudio.Api ArtForgeStudio.Codecs ArtForgeStudio.LocalStore ArtForgeStudio.Outcome

/-- What a delivery reads of an asset. -/
structure AssetData where
  id : String
  sourcePath : String
  category : String
  origin : String
  conversationId : String
  model : String
  deliveryRecoverable : Bool := false
  deliveryDownloading : Bool := false
  deriving DecidableEq

structure Store where
  activeCanvasWorkspaceId : String := ""
  canvasNotes : List CanvasNoteData := []
  canvasLinks : List CanvasLinkData := []
  canvasReferences : List ReferenceData := []
  canvasWorkspaces : BTreeMap CanvasWorkspaceData := ∅
  assets : List AssetData := []
  generations : List AssetData := []

def maxCanvasNodes : Nat := 200

def maxCanvasLinks : Nat := 400

def defaultCanvasWorkspaceId : String := "infinite-canvas"

def normalizeCanvasWorkspaceId (value : String) : String :=
  if trim value = "" then defaultCanvasWorkspaceId else trim value

@[simp] theorem normalizeCanvasWorkspaceId_idem (value : String) :
    normalizeCanvasWorkspaceId (normalizeCanvasWorkspaceId value) = normalizeCanvasWorkspaceId value := by
  by_cases hblank : trim value = ""
  · have hdefault : trim defaultCanvasWorkspaceId = defaultCanvasWorkspaceId := by decide
    simp [normalizeCanvasWorkspaceId, hblank, hdefault]
  · simp [normalizeCanvasWorkspaceId, hblank]

def isLineBreak (c : Char) : Bool :=
  c = '\r' || c = '\n' || c = Char.ofNat 0x2028 || c = Char.ofNat 0x2029

/-- The lines of a prompt on one line. -/
def normalizeCanvasWorkflowPrompt (prompt : String) : String :=
  if !prompt.toList.any isLineBreak then prompt
  else " ".intercalate (((prompt.toList.splitOnP isLineBreak).map fun line =>
    trim (String.ofList line)).filter (· ≠ ""))

def normalizeCanvasWorkspacePrompts (workspaces : BTreeMap CanvasWorkspaceData) :
    BTreeMap CanvasWorkspaceData :=
  workspaces.map fun _ workspace =>
    { workspace with prompt := normalizeCanvasWorkflowPrompt workspace.prompt }

/-- The workspaces, with what stands in the fields of the active one. -/
def Store.savedWorkspaces (store : Store) (currentPrompt : String) : BTreeMap CanvasWorkspaceData :=
  store.canvasWorkspaces.insert (normalizeCanvasWorkspaceId store.activeCanvasWorkspaceId)
    { notes := store.canvasNotes, links := store.canvasLinks
      prompt := normalizeCanvasWorkflowPrompt currentPrompt, references := store.canvasReferences }

/-- A workspace as it is shown when it becomes the active one. -/
def CanvasWorkspaceData.opened (workspace : CanvasWorkspaceData) : CanvasWorkspaceData :=
  { workspace with
    notes := clearSelection workspace.notes
    prompt := normalizeCanvasWorkflowPrompt workspace.prompt }

/-- The prompt of the workspace that is active now, and the store. -/
def switchCanvasWorkspace (store : Store) (currentPrompt targetWorkspaceId : String) :
    String × Store :=
  let workspaces := store.savedWorkspaces currentPrompt
  let targetWorkspaceId := normalizeCanvasWorkspaceId targetWorkspaceId
  let target := CanvasWorkspaceData.opened ((workspaces[targetWorkspaceId]?).getD {})
  (target.prompt, { store with
    activeCanvasWorkspaceId := targetWorkspaceId
    canvasNotes := target.notes
    canvasLinks := target.links
    canvasReferences := target.references
    canvasWorkspaces := workspaces.insert targetWorkspaceId target })

/-- What the record, the confirmation and the preview of a delivery say. -/
structure PreparedNamespaceDelivery where
  taskType : String
  canvasSourceNodeId : String
  canvasWorkflowId : String
  clientRequestId : String
  conversationId : String
  modelCode : String
  count : Int
  failedAssetId : Option String
  fileId : String
  itemIndex : Nat
  sourcePath : String
  width : Nat
  height : Nat

def deliveryNodeId (prepared : PreparedNamespaceDelivery) : String :=
  "delivery-" ++ prepared.clientRequestId ++ "-" ++ toString prepared.itemIndex

def isPlaceholder (sourceNodeId : String) (note : CanvasNoteData) : Bool :=
  note.id = sourceNodeId && note.kind = "image" && trimIsEmpty note.imagePath

/-- The first result goes into the note that it was asked for in, if that one waits for it. -/
def replaceCanvasGenerationPlaceholder (notes : List CanvasNoteData)
    (sourceNodeId loadingNodeId sourcePath : String) (imageWidth imageHeight : Rat)
    (resultIndex : Int) : Option (List CanvasNoteData) :=
  if resultIndex ≠ 0 ∨ loadingNodeId ≠ sourceNodeId then none
  else (notes.find? (isPlaceholder sourceNodeId)).map fun source =>
    let filled := fitImageNodeToIntrinsicAspect { source with
      content := "", imagePath := sourcePath, width := 340, height := 250, selected := false }
      imageWidth imageHeight
    let place := nearestFreeCanvasPosition
      (updateFirst (isPlaceholder sourceNodeId) (fun _ => filled) notes)
      (source.x + source.width / 2 - filled.width / 2)
      (source.y + source.height / 2 - filled.height / 2) filled.width filled.height (some source.id)
    updateFirst (isPlaceholder sourceNodeId) (fun _ => { filled with x := place.1, y := place.2 }) notes

def topLayer (notes : List CanvasNoteData) : Int := (notes.map (·.zIndex)).max?.getD 0

/-- The note of a result and its link from the source. -/
def addCanvasOutput (prepared : PreparedNamespaceDelivery) (source : CanvasNoteData)
    (nodeId linkId : String) (notes : List CanvasNoteData) (links : List CanvasLinkData) :
    Except String (List CanvasNoteData × List CanvasLinkData) :=
  let node := fitImageNodeToIntrinsicAspect
    { id := nodeId, kind := "image", content := "", x := 0, y := 0, imagePath := prepared.sourcePath
      width := 340, height := 250, zIndex := min (topLayer notes + 1) 0x7fffffff }
    prepared.width prepared.height
  let desired := generatedCanvasResultPosition (some source) node.width node.height
    prepared.itemIndex prepared.count
  let place := nearestFreeCanvasPosition notes desired.1 desired.2 node.width node.height none
  match connectNodes linkId links prepared.canvasSourceNodeId nodeId with
  | (.connected .., links) => .ok (notes ++ [{ node with x := place.1, y := place.2 }], links)
  | (.rejected, _) => .error "Canvas output link could not be created"

def Store.inactive (store : Store) : List (String × CanvasWorkspaceData) :=
  store.canvasWorkspaces.toList.filter fun workspace =>
    workspace.1 ≠ normalizeCanvasWorkspaceId store.activeCanvasWorkspaceId

/-- The one workspace with the source. -/
def deliveryTarget (store : Store) (sourceId : String) : Except String String := do
  let sources (notes : List CanvasNoteData) := notes.countP (·.id = sourceId)
  ensure (sources store.canvasNotes ≤ 1) "ambiguous Canvas source"
  store.inactive.forM fun workspace =>
    ensure (sources workspace.2.notes ≤ 1) "ambiguous Canvas source"
  let active := normalizeCanvasWorkspaceId store.activeCanvasWorkspaceId
  match (if sources store.canvasNotes = 1 then [active] else []) ++
      (store.inactive.filter fun workspace => sources workspace.2.notes = 1).map (·.1) with
  | [target] => .ok target
  | _ => .error "original Canvas workspace missing or ambiguous"

def Store.canvas (store : Store) (workspaceId : String) : List CanvasNoteData × List CanvasLinkData :=
  if workspaceId = normalizeCanvasWorkspaceId store.activeCanvasWorkspaceId then
    (store.canvasNotes, store.canvasLinks)
  else
    let workspace := (store.canvasWorkspaces[workspaceId]?).getD {}
    (workspace.notes, workspace.links)

theorem Store.savedWorkspaces_get (store : Store) (prompt id : String) :
    let workspace := ((store.savedWorkspaces prompt)[id]?).getD {}
    (workspace.notes, workspace.links) = store.canvas id := by
  dsimp only
  unfold Store.canvas Store.savedWorkspaces
  rw [Std.ExtTreeMap.getElem?_insert]
  by_cases hactive : id = normalizeCanvasWorkspaceId store.activeCanvasWorkspaceId
  · simp [hactive]
  · rw [if_neg (by simpa using Ne.symm hactive), if_neg hactive]

theorem switchCanvasWorkspace_notes (store : Store) (prompt target : String) :
    (switchCanvasWorkspace store prompt target).2.canvasNotes =
      clearSelection (store.canvas (normalizeCanvasWorkspaceId target)).1 := by
  rw [← store.savedWorkspaces_get prompt]
  rfl

def Store.setCanvas (store : Store) (workspaceId : String) (notes : List CanvasNoteData)
    (links : List CanvasLinkData) : Store :=
  if workspaceId = normalizeCanvasWorkspaceId store.activeCanvasWorkspaceId then
    { store with canvasNotes := notes, canvasLinks := links }
  else
    let workspace := (store.canvasWorkspaces[workspaceId]?).getD {}
    { store with
      canvasWorkspaces := store.canvasWorkspaces.insert workspaceId
        { workspace with notes := notes, links := links } }

/-- A result that was staged before must still be where it was put. -/
def checkStagedOutput (prepared : PreparedNamespaceDelivery) (origin nodeId : String)
    (asset : AssetData) (notes : List CanvasNoteData) (links : List CanvasLinkData) :
    Except String Unit := do
  ensure (asset.sourcePath = prepared.sourcePath ∧ asset.category = "other" ∧ asset.origin = origin ∧
      asset.conversationId = prepared.conversationId ∧ asset.model = prepared.modelCode ∧
      asset.deliveryRecoverable = false ∧ asset.deliveryDownloading = false)
    "Canvas output retry metadata changed"
  match notes.filter fun note => note.kind = "image" && note.imagePath = prepared.sourcePath &&
      (note.id = nodeId || note.id = prepared.canvasSourceNodeId) with
  | [note] =>
    let linked := links.any fun link =>
      link.sourceId = prepared.canvasSourceNodeId && link.targetId = nodeId
    ensure (note.id = nodeId → linked = true) "Canvas output retry source link missing"
  | _ => .error "Canvas output retry node missing or ambiguous"

def stageCanvasNamespaceDelivery (store : Store) (prepared : PreparedNamespaceDelivery)
    (loadingNodeId linkId : String) : Except String (String × Store) := do
  let sourceId := prepared.canvasSourceNodeId
  ensure (prepared.taskType = "image_generation" ∧ sourceId ≠ "" ∧ prepared.failedAssetId = none)
    "invalid Canvas output identity"
  let target ← deliveryTarget store sourceId
  let (notes, links) := store.canvas target
  let some source := notes.find? (·.id = sourceId) | .error "Canvas source missing"
  let id := prepared.fileId
  let origin := if prepared.canvasWorkflowId = "character-split" then "character_split" else "generation"
  let nodeId := deliveryNodeId prepared
  rejectIf (store.generations.any fun asset => asset.id = id || asset.sourcePath = prepared.sourcePath)
    "Canvas output cannot adopt generation history"
  rejectIf (store.assets.any fun asset => asset.sourcePath = prepared.sourcePath && asset.id ≠ id)
    "Canvas output path conflict"
  let assets := store.assets.filter (·.id = id)
  ensure (assets.length ≤ 1) "Canvas output asset ambiguous"
  match assets with
  | asset :: _ =>
    checkStagedOutput prepared origin nodeId asset notes links
    pure (id, store)
  | [] =>
    rejectIf (notes.any fun note => note.id = nodeId || note.imagePath = prepared.sourcePath)
      "Canvas output node collision"
    let replaces := loadingNodeId = sourceId && source.kind = "image" && trimIsEmpty source.imagePath
    ensure (replaces ∨ (notes.length < maxCanvasNodes ∧ links.length < maxCanvasLinks))
      "Canvas capacity reached"
    let (notes, links) ← match replaceCanvasGenerationPlaceholder notes sourceId loadingNodeId
        prepared.sourcePath prepared.width prepared.height 0 with
      | some notes => .ok (notes, links)
      | none => addCanvasOutput prepared source nodeId linkId notes links
    let asset : AssetData :=
      { id := id, sourcePath := prepared.sourcePath, category := "other", origin := origin
        conversationId := prepared.conversationId, model := prepared.modelCode }
    pure (id, { store.setCanvas target notes links with assets := asset :: store.assets })

section Staging

variable {store next : Store} {prepared : PreparedNamespaceDelivery}
  {loadingNodeId linkId sourcePath : String} {notes after : List CanvasNoteData}

theorem outline_replacePlaceholder {sourceNodeId : String} {imageWidth imageHeight : Rat}
    {resultIndex : Int}
    (h : replaceCanvasGenerationPlaceholder notes sourceNodeId loadingNodeId sourcePath imageWidth
      imageHeight resultIndex = some after) : outline after = outline notes := by
  unfold replaceCanvasGenerationPlaceholder at h
  split at h
  · cases h
  · obtain ⟨source, hsource, rfl⟩ := Option.map_eq_some_iff.mp h
    have hplaceholder := List.find?_some hsource
    refine outline_updateFirst _ fun note _ hnote => ?_
    simp only [isPlaceholder, Bool.and_eq_true, decide_eq_true_eq] at hplaceholder hnote
    obtain ⟨hid, hkind⟩ := fitImageNode_outline { source with
      content := "", imagePath := sourcePath, width := 340, height := 250, selected := false }
      imageWidth imageHeight
    exact ⟨hid.trans (hplaceholder.1.1.trans hnote.1.1.symm),
      hkind.trans (hplaceholder.1.2.trans hnote.1.2.symm)⟩

/-- There is nothing to replace in a note that does not wait for a result. -/
theorem replacePlaceholder_isSome {source : CanvasNoteData} {imageWidth imageHeight : Rat}
    (hsource : source ∈ notes) (hwaits : isPlaceholder source.id source) :
    (replaceCanvasGenerationPlaceholder notes source.id source.id sourcePath imageWidth imageHeight
      0).isSome := by
  have hfind : (notes.find? (isPlaceholder source.id)).isSome :=
    List.find?_isSome.mpr ⟨source, hsource, hwaits⟩
  simpa [replaceCanvasGenerationPlaceholder] using hfind

/-- A delivery that is staged leaves the store as it is, fills a note of the workspace that it is
for, or adds one to it. -/
theorem stageCanvasNamespaceDelivery_cases {id : String}
    (h : stageCanvasNamespaceDelivery store prepared loadingNodeId linkId = .ok (id, next)) :
    next = store ∨ ∃ target notes links assets,
      deliveryTarget store prepared.canvasSourceNodeId = .ok target ∧
      next = { store.setCanvas target notes links with assets := assets } ∧
      (outline notes = outline (store.canvas target).1 ∧ links = (store.canvas target).2 ∨
        (store.canvas target).1.length < maxCanvasNodes ∧
        (∀ note ∈ (store.canvas target).1, note.id ≠ deliveryNodeId prepared) ∧
        ∃ source, addCanvasOutput prepared source (deliveryNodeId prepared) linkId
          (store.canvas target).1 (store.canvas target).2 = .ok (notes, links)) := by
  unfold stageCanvasNamespaceDelivery at h
  simp only [bind_eq_ok, exists_unit, ensure_eq_ok] at h
  obtain ⟨-, target, htarget, h⟩ := h
  split at h
  · rename_i source hsource
    simp only [bind_eq_ok, exists_unit, ensure_eq_ok] at h
    obtain ⟨-, -, -, h⟩ := h
    split at h
    · simp only [bind_eq_ok, exists_unit, pure_eq_ok] at h
      exact .inl (Prod.mk.inj h.2).2.symm
    · simp only [bind_eq_ok, exists_unit, ensure_eq_ok, rejectIf_eq_ok] at h
      obtain ⟨hcollision, hroom, h⟩ := h
      split at h
      · rename_i notes hreplaced
        simp only [Except.ok.injEq, exists_eq_left', pure_eq_ok, bind_eq_ok] at h
        exact .inr ⟨target, _, _, _, htarget, (Prod.mk.inj h).2.symm,
          .inl ⟨outline_replacePlaceholder hreplaced, rfl⟩⟩
      · rename_i hkept
        simp only [bind_eq_ok, pure_eq_ok] at h
        obtain ⟨added, hadded, h⟩ := h
        refine .inr ⟨target, _, _, _, htarget, (Prod.mk.inj h).2.symm, .inr ⟨?_, ?_, source, hadded⟩⟩
        · refine (hroom.resolve_left fun hreplaces => ?_).1
          simp only [Bool.and_eq_true, decide_eq_true_eq] at hreplaces
          obtain ⟨⟨hloading, hkind⟩, hblank⟩ := hreplaces
          have hid : source.id = prepared.canvasSourceNodeId := by simpa using List.find?_some hsource
          have hsome := @replacePlaceholder_isSome prepared.sourcePath _ source prepared.width
            prepared.height (List.mem_of_find?_eq_some hsource) (by simp [isPlaceholder, hkind, hblank])
          rw [hloading] at hkept
          rw [hid, hkept] at hsome
          cases hsome
        · intro note hnote heq
          exact hcollision (List.any_eq_true.mpr ⟨note, hnote, by simp [heq]⟩)
  · cases h

end Staging

end ArtForgeStudio.Canvas
