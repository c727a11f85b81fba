import ArtForgeStudio.Canvas.Workspaces
import ArtForgeStudio.Deliveries.Assets
import ArtForgeStudio.LocalStore.Save
import ArtForgeStudio.Recovery.Operations
import Mathlib.Algebra.Order.Ring.Unbundled.Rat
import Mathlib.Data.List.MinMax

/-! # Staging a delivery

A delivered file is put into the store, as an asset of the gallery, as a note of a canvas, or as a
video. Nothing is saved here; what is checked is checked before anything is changed. The sizes of
an image are compared as exact quotients, where the code rounds to double precision.
-/

namespace ArtForgeStudio.Deliveries

open ArtForgeStudio.Api ArtForgeStudio.Codecs ArtForgeStudio.LocalStore ArtForgeStudio.Outcome
  ArtForgeStudio.Recovery

def shortText (text : String) (maxChars : Nat) : String :=
  String.ofList (text.toList.take maxChars) ++
    if maxChars < text.toList.length then "..." else ""

/-- `replace("\r\n", "\n")` -/
def unixLines : List Char → List Char
  | '\r' :: '\n' :: rest => '\n' :: unixLines rest
  | c :: rest => c :: unixLines rest
  | [] => []

/-- `split("\n\n")` -/
def paragraphs : List Char → List (List Char)
  | '\n' :: '\n' :: rest => [] :: paragraphs rest
  | c :: rest =>
    match paragraphs rest with
    | first :: others => (c :: first) :: others
    | [] => [[c]]
  | [] => [[]]

def hiddenPrefixes : List String :=
  ["生成控制：", "参数优先规则：", "UI 生成规则：", "UI 组件图集规则（必须遵守）：",
    "Generation controls:", "Parameter priority rule:", "UI generation rule:",
    "UI component atlas rule (mandatory):"]

def displayGenerationPrompt (prompt : String) : String :=
  let shown := (paragraphs (unixLines prompt.toList)).filter fun part =>
    !hiddenPrefixes.any fun hidden => hidden.toList.isPrefixOf (part.dropWhile isWhiteSpace)
  trim (String.ofList (['\n', '\n'].intercalate shown))

def supportedRatios : List (String × Int × Int) :=
  [("1:1", 1, 1), ("3:2", 3, 2), ("2:3", 2, 3), ("4:3", 4, 3), ("3:4", 3, 4), ("5:4", 5, 4),
    ("4:5", 4, 5), ("16:9", 16, 9), ("9:16", 9, 16), ("2:1", 2, 1), ("1:2", 1, 2),
    ("21:9", 21, 9), ("9:21", 9, 21)]

def ratioFromActualDimensions (width height : Int) : String :=
  if width ≤ 0 ∨ height ≤ 0 then "1:1"
  else
    let actual : Rat := width / height
    let nearest := supportedRatios.argmin fun ratio => |actual - (ratio.2.1 / ratio.2.2 : Rat)|
    (nearest.map (·.1)).getD "1:1"

def qualityFromActualDimensions (width height : Int) : String :=
  if max width height > 2560 then "4K" else if max width height > 1024 then "2K" else "1K"

/-- What the store keeps of canvases and videos. -/
structure Retained where
  activeCanvasWorkspaceId : String := ""
  canvasNotes : List CanvasNoteData := []
  canvasLinks : List CanvasLinkData := []
  canvasReferences : List ReferenceData := []
  canvasWorkspaces : BTreeMap CanvasWorkspaceData := ∅
  videoOutputs : BTreeMap SavedVideoOutput := ∅

/-- A delivery whose file was read: the file is named by a UUID, in a folder of the user. -/
structure NamespaceDeliveryProof where
  record : PendingGenerationRecord
  confirmation : DeliveryConfirmation
  sourcePath : String
  canonical : canonicalUuid confirmation.fileId = true
  named : ∃ folder ending, sourcePath = folder ++ confirmation.fileId ++ ending

/-- A delivered image, with the size of its preview. -/
structure PreparedNamespaceDelivery extends NamespaceDeliveryProof where
  dimensions : UInt32 × UInt32

structure PreparedNamespaceVideoDelivery extends NamespaceDeliveryProof

/-- `as i32` -/
def signed (n : UInt32) : Int := n.toInt32.toInt

abbrev StagingError := ReplaceError Empty

/-- The origin and the name of a tool of the toolbox. -/
def toolbox (taskType : String) : Except String (Option (String × String)) :=
  match taskType with
  | "image_generation" | "image_edit" | "image_upscale" => .ok none
  | "image_watermark_removal" => .ok (some ("watermark_removal", "去水印"))
  | "image_colorization" => .ok (some ("image_colorization", "老照片上色"))
  | "image_enhancement" => .ok (some ("image_enhancement", "图片清晰"))
  | "image_cutout" => .ok (some ("image_cutout", "智能抠图"))
  | _ => .error "unsupported image delivery metadata type"

namespace PreparedNamespaceDelivery

variable (prepared : PreparedNamespaceDelivery)

/-- The failed card that waits for the file, or the file itself. -/
def assetId : String := prepared.confirmation.failedAssetId.getD prepared.confirmation.fileId

def notificationId : String := "delivery-" ++ prepared.confirmation.fileId

def width : Int := signed prepared.dimensions.1

def height : Int := signed prepared.dimensions.2

end PreparedNamespaceDelivery

inductive GalleryStep where
  | staged
  | replaces (failed : AssetData)
  | adds

section GalleryChecks

variable (prepared : PreparedNamespaceDelivery) (tool : Option (String × String))
  (generations : List AssetData) (notifications : List NotificationData)

/-- The card of a delivery that was staged before; a tool has none. -/
def checkStagedCard (asset : AssetData) : Except String Unit :=
  match tool with
  | some (origin, _) =>
    ensure (generations = [] ∧ asset.category = "other" ∧ asset.origin = origin)
      "toolbox delivery must remain Other-only"
  | none =>
    match generations with
    | generation :: _ =>
      ensure (generation.sourcePath = prepared.sourcePath ∧ generation.deliveryRecoverable = false ∧
        generation.deliveryDownloading = false) "successful delivery generation conflicts"
    | [] => .error "delivery generation projection missing"

def checkStagedDelivery (asset : AssetData) : Except String GalleryStep := do
  ensure (asset.sourcePath = prepared.sourcePath ∧ asset.deliveryRecoverable = false ∧
    asset.deliveryDownloading = false) "successful delivery asset conflicts"
  checkStagedCard prepared tool generations asset
  ensure (notifications.length = 1 ∧ notifications.all (·.success))
    "delivery success notification missing or conflicting"
  pure .staged

def checkFreshDelivery : Except String GalleryStep := do
  let record := prepared.record
  ensure (notifications = []) "delivery notification conflicts"
  match prepared.confirmation.failedAssetId with
  | some _ =>
    match generations with
    | failed :: _ =>
      ensure (failed.sourcePath = "failed" ∧ failed.deliveryRecoverable = true ∧
        failed.conversationId = record.conversationId ∧ failed.category = record.category ∧
        failed.kind = record.mode ∧ failed.model = record.modelCode)
        "failed delivery card identity mismatch"
      pure (.replaces failed)
    | [] => .error "failed delivery card missing or ambiguous"
  | none =>
    ensure (generations = []) "delivery generation identity conflicts"
    pure .adds

def galleryStep (assets : List AssetData) : Except String GalleryStep :=
  match assets with
  | asset :: _ => checkStagedDelivery prepared tool generations notifications asset
  | [] => checkFreshDelivery prepared generations notifications

end GalleryChecks

/-- What a delivery is to do in the gallery, with the tool that it comes from. -/
def checkNamespaceDelivery {Others : Type} (store : Store Others)
    (prepared : PreparedNamespaceDelivery) :
    Except String (Option (String × String) × GalleryStep) := do
  let tool ← toolbox prepared.record.taskType
  ensure (tool = none ∨ prepared.confirmation.failedAssetId = none)
    "toolbox output cannot replace an ordinary failed card"
  let id := prepared.assetId
  let assets := store.assets.filter (·.id = id)
  let generations := store.generations.filter (·.id = id)
  let notifications := store.notifications.filter (·.id = prepared.notificationId)
  ensure (assets.length ≤ 1 ∧ generations.length ≤ 1) "delivery metadata is ambiguous"
  rejectIf ((store.assets ++ store.generations).any fun asset =>
    asset.sourcePath = prepared.sourcePath && asset.id ≠ id)
    "delivery path belongs to conflicting metadata"
  let step ← galleryStep prepared tool generations notifications assets
  pure (tool, step)

section Gallery

variable (fileStem : String → Option String) (prepared : PreparedNamespaceDelivery)
  (tool : Option (String × String)) (time : String)

/-- The references of the task, or those that they were made from. -/
def lineage (record : PendingGenerationRecord) : List String :=
  if record.lineageReferencePaths ≠ [] then record.lineageReferencePaths else record.referencePaths

def deliveryTitle : String :=
  let record := prepared.record
  if record.taskType = "image_enhancement" then
    let source := record.lineageReferencePaths.head?.or record.referencePaths.head?
    let stem := ((source.bind fileStem).filter fun stem => !trimIsEmpty stem).getD "图片"
    shortText stem 18 ++ " 清晰增强"
  else if record.taskType = "image_cutout" then shortText (trim record.rawPrompt) 18 ++ " 抠图"
  else shortText record.rawPrompt 18

def deliveryNotification : NotificationData :=
  let record := prepared.record
  let title := deliveryTitle fileStem prepared
  { id := prepared.notificationId
    title :=
      if record.taskType = "image_enhancement" then "图片清晰增强完成：" ++ title
      else if record.taskType = "image_cutout" then "智能抠图完成：" ++ title
      else (tool.map (·.2)).getD "Generation succeeded" ++ "：" ++ shortText record.rawPrompt 24
    model := (tool.map (·.2)).getD record.modelCode
    time := time, reason := "", success := true, read := false, announcement := false }

/-- The failed card with its file. -/
def completedCard (failed : AssetData) : AssetData :=
  { failed with
    sourcePath := prepared.sourcePath
    width := prepared.width
    height := prepared.height
    ratio := ratioFromActualDimensions prepared.width prepared.height
    quality := qualityFromActualDimensions prepared.width prepared.height
    time := time
    isNew := true
    deliveryRecoverable := false
    deliveryDownloading := false }

/-- What was cut out, by the quality that was asked for. -/
def cutoutLabel (quality : String) : String :=
  match quality with
  | "portrait" => "人像"
  | "avatar" => "头像"
  | "skin" => "皮肤"
  | "product" => "商品"
  | "clothing" => "服饰"
  | "sky" => "天空"
  | _ => "通用"

def deliveredAsset : AssetData :=
  let record := prepared.record
  let enhancement := record.taskType = "image_enhancement"
  let cutout := record.taskType = "image_cutout"
  { id := prepared.assetId
    conversationId := if tool.isSome then "" else record.conversationId
    title := deliveryTitle fileStem prepared
    category := if tool.isSome then "other" else record.category
    kind := if enhancement ∨ cutout then "game" else record.mode
    time := time
    prompt :=
      if enhancement then "图片清晰增强"
      else if cutout then "智能抠图（" ++ cutoutLabel record.quality ++ "）"
      else displayGenerationPrompt record.generationPrompt
    ratio := ratioFromActualDimensions prepared.width prepared.height
    quality := qualityFromActualDimensions prepared.width prepared.height
    model := (tool.map (·.2)).getD record.modelCode
    origin := (tool.map (·.1)).getD
      (if record.taskType = "image_edit" then "image_edit" else "generation")
    width := prepared.width
    height := prepared.height
    sourcePath := prepared.sourcePath
    referencePaths :=
      if record.lineageReferencePaths ≠ [] then record.lineageReferencePaths
      else if record.taskType = "image_edit" ∨ record.taskType = "image_upscale" then []
      else record.referencePaths
    cutoutDone := cutout
    removeBlackDone := false
    upscaleDone := record.taskType = "image_upscale" ∨ enhancement
    isNew := tool.isNone
    deliveryRecoverable := false
    deliveryDownloading := false }

def stageNamespaceDelivery {Others : Type} (store : Store Others) :
    Except StagingError String × Store Others :=
  let id := prepared.assetId
  match checkNamespaceDelivery store prepared with
  | .error message => (.error (.refused message), store)
  | .ok (_, .staged) => (.ok id, store)
  | .ok (tool, .replaces failed) =>
    let completed := completedCard prepared time failed
    let notification := { deliveryNotification fileStem prepared tool time with
      title := "图片下载完成：" ++ shortText completed.prompt 24 }
    match replaceFailedDeliveryAssetWith store id completed notification fun _ => .ok () with
    | (.ok (), next) => (.ok id, next)
    | (.error error, next) => (.error error, next)
  | .ok (tool, .adds) =>
    let item := deliveredAsset fileStem prepared tool time
    (.ok id, { store with
      assets := item :: store.assets
      generations := if tool.isNone then item :: store.generations else store.generations
      notifications := deliveryNotification fileStem prepared tool time :: store.notifications
      dismissedPromptHistory :=
        if tool.isNone then
          revealPromptHistoryForCategory store.dismissedPromptHistory item.category item.prompt
        else store.dismissedPromptHistory })

end Gallery

/-- What the canvas reads of an asset. -/
def AssetData.onCanvas (asset : AssetData) : Canvas.AssetData where
  id := asset.id
  sourcePath := asset.sourcePath
  category := asset.category
  origin := asset.origin
  conversationId := asset.conversationId
  model := asset.model
  deliveryRecoverable := asset.deliveryRecoverable
  deliveryDownloading := asset.deliveryDownloading

def PreparedNamespaceDelivery.onCanvas (prepared : PreparedNamespaceDelivery) :
    Canvas.PreparedNamespaceDelivery where
  taskType := prepared.record.taskType
  canvasSourceNodeId := prepared.record.canvasSourceNodeId
  canvasWorkflowId := prepared.record.canvasWorkflowId
  clientRequestId := prepared.record.clientRequestId
  conversationId := prepared.record.conversationId
  modelCode := prepared.record.modelCode
  count := prepared.record.count
  failedAssetId := prepared.confirmation.failedAssetId
  fileId := prepared.confirmation.fileId
  itemIndex := prepared.confirmation.itemIndex
  sourcePath := prepared.sourcePath
  width := prepared.dimensions.1.toNat
  height := prepared.dimensions.2.toNat

/-- The store as its canvases see it. -/
def Store.canvasStore (store : Store Retained) : Canvas.Store where
  activeCanvasWorkspaceId := store.others.activeCanvasWorkspaceId
  canvasNotes := store.others.canvasNotes
  canvasLinks := store.others.canvasLinks
  canvasReferences := store.others.canvasReferences
  canvasWorkspaces := store.others.canvasWorkspaces
  assets := store.assets.map AssetData.onCanvas
  generations := store.generations.map AssetData.onCanvas

/-- The notes and links of a workspace are replaced. -/
def Store.setCanvas (store : Store Retained) (target : String) (notes : List CanvasNoteData)
    (links : List CanvasLinkData) : Store Retained :=
  let canvases := store.canvasStore.setCanvas target notes links
  { store with
    others := { store.others with
      canvasNotes := canvases.canvasNotes
      canvasLinks := canvases.canvasLinks
      canvasWorkspaces := canvases.canvasWorkspaces } }

section CanvasOutputs

variable (store : Store Retained) (prepared : PreparedNamespaceDelivery)

def canvasOrigin : String :=
  if prepared.record.canvasWorkflowId = "character-split" then "character_split" else "generation"

/-- Whether a delivery is on the canvas already. -/
def canvasStep (assets : List AssetData) (notes : List CanvasNoteData) (links : List CanvasLinkData) :
    Except String Bool := do
  let nodeId := Canvas.deliveryNodeId prepared.onCanvas
  match assets with
  | asset :: _ =>
    Canvas.checkStagedOutput prepared.onCanvas (canvasOrigin prepared) nodeId asset.onCanvas notes
      links
    pure true
  | [] =>
    rejectIf (notes.any fun note => note.id = nodeId || note.imagePath = prepared.sourcePath)
      "Canvas output node collision"
    pure false

/-- The workspace of a delivery, and whether the delivery is there already. -/
def checkCanvasNamespaceDelivery : Except String (String × Bool) := do
  let sourceId := prepared.record.canvasSourceNodeId
  ensure (prepared.record.taskType = "image_generation" ∧ sourceId ≠ "" ∧
    prepared.confirmation.failedAssetId = none) "invalid Canvas output identity"
  let target ← Canvas.deliveryTarget store.canvasStore sourceId
  let (notes, links) := store.canvasStore.canvas target
  ensure (notes.any (·.id = sourceId)) "Canvas source missing"
  let id := prepared.confirmation.fileId
  rejectIf (store.generations.any fun asset =>
    asset.id = id || asset.sourcePath = prepared.sourcePath)
    "Canvas output cannot adopt generation history"
  rejectIf (store.assets.any fun asset => asset.sourcePath = prepared.sourcePath && asset.id ≠ id)
    "Canvas output path conflict"
  let assets := store.assets.filter (·.id = id)
  ensure (assets.length ≤ 1) "Canvas output asset ambiguous"
  let staged ← canvasStep prepared assets notes links
  pure (target, staged)

/-- The notes and links of a workspace with the output, if there is room for it. -/
def placeCanvasOutput (target loadingNodeId linkId : String) :
    Except String (List CanvasNoteData × List CanvasLinkData) :=
  let sourceId := prepared.record.canvasSourceNodeId
  let (notes, links) := store.canvasStore.canvas target
  match notes.find? (·.id = sourceId) with
  | none => .error "Canvas source missing"
  | some source => do
    let replaces := loadingNodeId = sourceId && source.kind = "image" && trimIsEmpty source.imagePath
    ensure (replaces ∨ (notes.length < Canvas.maxCanvasNodes ∧ links.length < Canvas.maxCanvasLinks))
      "Canvas capacity reached"
    match Canvas.replaceCanvasGenerationPlaceholder notes sourceId loadingNodeId
        prepared.sourcePath prepared.dimensions.1.toNat prepared.dimensions.2.toNat 0 with
    | some notes => pure (notes, links)
    | none =>
      Canvas.addCanvasOutput prepared.onCanvas source (Canvas.deliveryNodeId prepared.onCanvas)
        linkId notes links

def canvasAsset (time : String) : AssetData where
  id := prepared.confirmation.fileId
  conversationId := prepared.record.conversationId
  title := shortText prepared.record.rawPrompt 18
  category := "other"
  kind := prepared.record.mode
  time := time
  prompt := displayGenerationPrompt prepared.record.generationPrompt
  ratio := ratioFromActualDimensions prepared.width prepared.height
  quality := qualityFromActualDimensions prepared.width prepared.height
  model := prepared.record.modelCode
  origin := canvasOrigin prepared
  width := prepared.width
  height := prepared.height
  sourcePath := prepared.sourcePath
  referencePaths := lineage prepared.record
  cutoutDone := false
  removeBlackDone := false
  upscaleDone := false
  isNew := true
  deliveryRecoverable := false
  deliveryDownloading := false

def stageCanvasNamespaceDelivery (time loadingNodeId linkId : String) :
    Except StagingError String × Store Retained :=
  let id := prepared.confirmation.fileId
  match checkCanvasNamespaceDelivery store prepared with
  | .error message => (.error (.refused message), store)
  | .ok (_, true) => (.ok id, store)
  | .ok (target, false) =>
    match placeCanvasOutput store prepared target loadingNodeId linkId with
    | .error message => (.error (.refused message), store)
    | .ok (notes, links) => (.ok id, { store.setCanvas target notes links with
        assets := canvasAsset prepared time :: store.assets })

end CanvasOutputs

def videoOutput (prepared : PreparedNamespaceVideoDelivery) (time : String) : SavedVideoOutput where
  model := prepared.record.modelCode
  resolution := prepared.record.quality
  durationSecs := (prepared.record.videoRequest.map (·.durationSecs)).getD 0
  sourceAssetId := prepared.record.sourceAssetId
  previewSourcePath := prepared.record.videoPreviewPath
  prompt := prepared.record.rawPrompt
  clientRequestId := prepared.record.clientRequestId
  serverTaskId := prepared.confirmation.taskId
  fileId := prepared.confirmation.fileId
  billingAccountGroupId := prepared.record.billingAccountGroupId
  sha256 := prepared.confirmation.sha256
  sizeBytes := prepared.confirmation.sizeBytes
  sourcePath := prepared.sourcePath
  title := shortText prepared.record.rawPrompt 48
  createdAt := time

/-- What two records of one delivered video must agree on. -/
def sameVideo (existing output : SavedVideoOutput) : Bool :=
  existing.sourceAssetId = output.sourceAssetId &&
    existing.previewSourcePath = output.previewSourcePath &&
    existing.clientRequestId = output.clientRequestId &&
    existing.serverTaskId = output.serverTaskId && existing.fileId = output.fileId &&
    existing.billingAccountGroupId = output.billingAccountGroupId &&
    existing.sha256 = output.sha256 && existing.sizeBytes = output.sizeBytes &&
    existing.sourcePath = output.sourcePath

def checkVideoDelivery (store : Store Retained) (prepared : PreparedNamespaceVideoDelivery)
    (output : SavedVideoOutput) : Except String Unit := do
  let record := prepared.record
  ensure ((record.taskType = "image_to_video" ∨ record.taskType = "video_generation") ∧
    record.videoRequest.isSome ∧ prepared.confirmation.failedAssetId = none)
    "video output identity incomplete"
  rejectIf (store.others.videoOutputs.toList.any fun entry =>
      entry.1 ≠ output.key && entry.2.sourcePath = output.sourcePath)
    "video path belongs to another retained output"
  match store.others.videoOutputs[output.key]? with
  | some existing => ensure (sameVideo existing output) "retained video output identity conflicts"
  | none => pure ()

def stageVideoDelivery (store : Store Retained) (prepared : PreparedNamespaceVideoDelivery)
    (time : String) : Except StagingError String × Store Retained :=
  let output := videoOutput prepared time
  match checkVideoDelivery store prepared output with
  | .error message => (.error (.refused message), store)
  | .ok () => (.ok output.key,
      { store with
        others := { store.others with
          videoOutputs := store.others.videoOutputs.insertIfNew output.key output } })

end ArtForgeStudio.Deliveries
