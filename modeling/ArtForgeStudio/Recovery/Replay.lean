import ArtForgeStudio.Recovery.Operations

/-! # Replaying a retained request

A replay is rebuilt from the retained row alone: the caller chooses a key and never a payer,
a body or a path. A row that does not determine its body is refused.
-/

namespace ArtForgeStudio.Recovery

open ArtForgeStudio.Api ArtForgeStudio.Outcome ArtForgeStudio.KeyedRows

def supportedRatios : List String :=
  ["1:1", "3:2", "2:3", "4:3", "3:4", "5:4", "4:5", "16:9", "9:16", "2:1", "1:2", "21:9", "9:21"]

def apiAspectRatio (ratio : String) : String :=
  (supportedRatios.find? (· = ratio)).getD "1:1"

structure SavedReplayRequest (R : Type) where
  session : SessionScope
  key : String
  payer : String
  source : R
  body : Json
  path : String

/-- The retained rows as the current namespace directory sees their paths. -/
def remapGeneration (authority : NamespaceStorageAuthority) (record : PendingGenerationRecord) :
    PendingGenerationRecord :=
  { record with
    referencePaths := record.referencePaths.map authority.lease.remapPath
    lineageReferencePaths := record.lineageReferencePaths.map authority.lease.remapPath
    videoPreviewPath := authority.lease.remapPath record.videoPreviewPath }

def remapPromptTask (authority : NamespaceStorageAuthority) (record : PendingPromptTaskRecord) :
    PendingPromptTaskRecord :=
  { record with referencePaths := record.referencePaths.map authority.lease.remapPath }

def loadPendingGenerations (readable : Bool) (authority : NamespaceStorageAuthority)
    (stored : GenerationFile) : Except Failure (List PendingGenerationRecord) := do
  let file ← load readable authority stored
  pure (file.generations.map (remapGeneration authority))

def loadPendingPromptTasks (readable : Bool) (authority : NamespaceStorageAuthority)
    (stored : PromptFile) : Except Failure (List PendingPromptTaskRecord) := do
  let file ← load readable authority stored
  pure (file.promptTasks.map (remapPromptTask authority))

def loadPendingOrders (readable : Bool) (authority : NamespaceStorageAuthority)
    (stored : OrderFile) : Except Failure (List PendingOrderRecord) := do
  let file ← load readable authority stored
  pure file.orders

def loadPendingPromptOptimizations (readable : Bool) (authority : NamespaceStorageAuthority)
    (stored : PromptFile) : Except Failure (List PendingPromptOptimizationRecord) := do
  let file ← load readable authority stored
  pure file.deepOptimizations

def savedGenerationCreatePath (record : PendingGenerationRecord) : Except Failure String :=
  match record.taskType with
  | "image_watermark_removal" => .ok "/v1/toolbox/watermark-removals"
  | "image_colorization" => .ok "/v1/toolbox/image-colorizations"
  | "image_enhancement" => .ok "/v1/toolbox/image-enhancements"
  | "image_cutout" => .ok "/v1/toolbox/image-cutouts"
  | "image_generation" | "image_edit" | "image_upscale" | "image_to_video" =>
    .ok "/v1/generation/tasks"
  | _ => .error (.ensure "unsupported saved generation type; record preserved")

def savedVideoBody (record : PendingGenerationRecord) : Except Failure Json :=
  match record.videoRequest with
  | none => .error (.ensure "original video quote/body missing; record preserved")
  | some request => do
    request.validate.mapError .request
    ensure (request.clientRequestId = record.clientRequestId ∧ request.taskType = record.taskType)
      (.ensure "retained video request identity mismatch")
    pure request.toValue

def savedToolboxBody (record : PendingGenerationRecord) : Except Failure Json :=
  match record.uploadedFileIds with
  | [referenceFileId] => do
    ensure (!trimIsEmpty referenceFileId) (.ensure "saved toolbox source missing")
    match record.taskType with
    | "image_watermark_removal" | "image_colorization" =>
      pure (toolboxValue record.clientRequestId referenceFileId none)
    | "image_enhancement" =>
      ensure (["2K", "4K"].contains record.quality) (.ensure "saved enhancement quality invalid")
      pure (toolboxValue record.clientRequestId referenceFileId (some ("target_quality", record.quality)))
    | _ =>
      ensure (["general", "portrait", "avatar", "skin", "product", "clothing", "sky"].contains
        record.quality) (.ensure "saved cutout subject invalid")
      pure (toolboxValue record.clientRequestId referenceFileId (some ("subject_type", record.quality)))
  | _ => .error (.ensure "saved toolbox source missing")

/-- The three image requests as a record determines them. -/
def savedGenerationTask (record : PendingGenerationRecord) : CreateGenerationTask where
  clientRequestId := record.clientRequestId
  taskType := record.taskType
  modelCode := record.modelCode
  prompt := record.generationPrompt
  quality := some record.quality
  count := some record.count
  aspectRatio := some (apiAspectRatio record.ratio)
  referenceFileIds := some record.uploadedFileIds
  targetLanguage := none

def savedUpscaleTask (record : PendingGenerationRecord) : CreateUpscaleGenerationTask where
  clientRequestId := record.clientRequestId
  taskType := record.taskType
  modelCode := record.modelCode
  prompt := record.generationPrompt
  quality := record.quality
  referenceFileIds := record.uploadedFileIds
  targetWidth := record.targetWidth
  targetHeight := record.targetHeight

def savedEditTask (record : PendingGenerationRecord) (sourceFileId maskFileId : String) :
    CreateImageEditTask where
  clientRequestId := record.clientRequestId
  taskType := record.taskType
  modelCode := record.modelCode
  prompt := record.generationPrompt
  quality := record.quality
  aspectRatio := apiAspectRatio record.ratio
  sourceFileId := sourceFileId
  maskFileId := maskFileId

def savedGenerationCreateBody (record : PendingGenerationRecord) : Except Failure Json := do
  ensure (record.uploadedFileIds.length = record.referencePaths.length ∨ record.referencePaths = [])
    (.ensure "saved reference uploads incomplete")
  match record.taskType with
  | "image_to_video" => savedVideoBody record
  | "image_watermark_removal" | "image_colorization" | "image_enhancement" | "image_cutout" =>
    savedToolboxBody record
  | "image_generation" => pure (savedGenerationTask record).toValue
  | "image_upscale" => pure (savedUpscaleTask record).toValue
  | "image_edit" =>
    match record.uploadedFileIds with
    | [sourceFileId, maskFileId] => pure (savedEditTask record sourceFileId maskFileId).toValue
    | _ => .error (.ensure "saved image edit inputs missing")
  | _ => .error (.ensure "unsupported saved generation type; record preserved")

def promptTaskCreateRequest (record : PendingPromptTaskRecord) : CreateGenerationTask where
  clientRequestId := record.clientRequestId
  taskType := record.taskType
  modelCode := record.modelCode
  prompt := record.prompt
  quality := none
  count := none
  aspectRatio := none
  referenceFileIds := if record.uploadedFileIds = [] then none else some record.uploadedFileIds
  targetLanguage := record.targetLanguage

/-- `SavedReplayRequest::load` over the rows of one document. -/
def SavedReplayRequest.ofRows {R : Type} [RecoveryRow R] (authority : NamespaceStorageAuthority)
    (session : SessionScope) (key : String) (rows : Except Failure (List R))
    (request : R → Except Failure (String × Json)) : Except Failure (SavedReplayRequest R) := do
  ensure (authority.userPublicId = session.ownerUserId ∧
    authority.lease.authEpoch = session.authEpoch)
    (.ensure "saved replay creator/namespace mismatch")
  match (← rows).find? (clientRequestId · = key) with
  | none => .error (.ensure "retained request not found")
  | some source =>
    let (path, body) ← request source
    pure ⟨session, key, (RecoveryRow.identity source).billingAccountGroupId, source, body, path⟩

def savedGenerationRequest (record : PendingGenerationRecord) : Except Failure (String × Json) := do
  ensure (record.serverTaskId = "" ∧ record.canvasUiExtraction = false ∧
    record.cancelRequested = false)
    (.ensure "accepted, cancelled or unsupported task cannot be replayed as new work")
  let path ← savedGenerationCreatePath record
  let body ← savedGenerationCreateBody record
  pure (path, body)

def savedPromptRequest (record : PendingPromptTaskRecord) : Except Failure (String × Json) := do
  ensure (record.serverTaskId = "" ∧ record.uploadedFileIds.length = record.referencePaths.length)
    (.ensure "saved prompt uploads incomplete")
  pure ("/v1/generation/tasks", (promptTaskCreateRequest record).toValue)

def savedDeepRequest (record : PendingPromptOptimizationRecord) : Except Failure (String × Json) := do
  ensure (record.serverJobId = "") (.ensure "accepted prompt cannot be replayed as new work")
  match record.operation with
  | .create request =>
    ensure (request.clientRequestId = record.clientRequestId) (.ensure "saved prompt key mismatch")
    pure ("/v1/prompt-optimizations", request.toValue)
  | .retry sourceJobId => pure ("/v1/prompt-optimizations/" ++ sourceJobId ++ "/retry",
      .obj [("client_request_id", .str record.clientRequestId)])

def savedOrderRequest (record : PendingOrderRecord) : Except Failure (String × Json) := do
  ensure (record.orderId = "") (.ensure "accepted order cannot be replayed as new work")
  match record.kind with
  | "credit" =>
    pure ("/v1/credits/orders", creditOrderValue record.productCode record.clientRequestId)
  | "membership" =>
    pure ("/v1/membership/orders", membershipOrderValue record.productCode record.clientRequestId)
  | "membership_upgrade" =>
    ensure (record.upgradeQuoteId ≠ "")
      (.ensure "missing original quote; no replacement quote is allowed")
    pure ("/v1/membership/upgrade-orders",
      upgradeOrderValue record.upgradeQuoteId record.clientRequestId)
  | _ => .error (.ensure "unsupported saved order type")

variable (readable : Bool) (authority : NamespaceStorageAuthority) (session : SessionScope)
  (key : String)

def SavedReplayRequest.generation (stored : GenerationFile) :
    Except Failure (SavedReplayRequest PendingGenerationRecord) :=
  SavedReplayRequest.ofRows authority session key (loadPendingGenerations readable authority stored)
    savedGenerationRequest

def SavedReplayRequest.prompt (stored : PromptFile) :
    Except Failure (SavedReplayRequest PendingPromptTaskRecord) :=
  SavedReplayRequest.ofRows authority session key (loadPendingPromptTasks readable authority stored)
    savedPromptRequest

def SavedReplayRequest.deep (stored : PromptFile) :
    Except Failure (SavedReplayRequest PendingPromptOptimizationRecord) :=
  SavedReplayRequest.ofRows authority session key
    (loadPendingPromptOptimizations readable authority stored) savedDeepRequest

def SavedReplayRequest.order (stored : OrderFile) :
    Except Failure (SavedReplayRequest PendingOrderRecord) :=
  SavedReplayRequest.ofRows authority session key (loadPendingOrders readable authority stored)
    savedOrderRequest

/-- `verify` before the request is sent: the retained row is still the one it was built from. -/
def SavedReplayRequest.verify {R : Type} [RecoveryRow R] [DecidableEq R]
    (request : SavedReplayRequest R) (rows : Except Failure (List R)) : Except Failure Unit := do
  match (← rows).find? (clientRequestId · = request.key) with
  | none => .error (.ensure "retained request not found")
  | some source =>
    ensure (source = request.source) (.ensure "retained replay request changed")

section Laws

variable {readable authority session key}

theorem clientRequestId_remapGeneration (record : PendingGenerationRecord) :
    clientRequestId (remapGeneration authority record) = clientRequestId record := rfl

theorem find?_map_key {R : Type} [RecoveryRow R] {f : R → R}
    (hf : ∀ row, clientRequestId (f row) = clientRequestId row) (rows : List R) :
    (rows.map f).find? (clientRequestId · = key) = (find clientRequestId rows key).map f := by
  induction rows with
  | nil => rfl
  | cons row rows ih =>
    simp only [List.map_cons, List.find?_cons, hf, find_cons]
    by_cases h : clientRequestId row = key <;> simp [h, ih]

theorem ofRows_ok {R : Type} [RecoveryRow R] {rows : Except Failure (List R)}
    {request : R → Except Failure (String × Json)} {saved : SavedReplayRequest R} :
    SavedReplayRequest.ofRows authority session key rows request = .ok saved ↔
      authority.userPublicId = session.ownerUserId ∧
      authority.lease.authEpoch = session.authEpoch ∧
      ∃ loaded source path body, rows = .ok loaded ∧
        loaded.find? (clientRequestId · = key) = some source ∧
        request source = .ok (path, body) ∧
        saved = ⟨session, key, (RecoveryRow.identity source).billingAccountGroupId, source, body,
          path⟩ := by
  simp only [SavedReplayRequest.ofRows, bind_eq_ok, exists_unit, ensure_eq_ok, and_assoc]
  refine and_congr_right fun _ => and_congr_right fun _ => ?_
  constructor
  · rintro ⟨loaded, hloaded, hfound⟩
    cases hfind : loaded.find? (clientRequestId · = key) with
    | none => simp [hfind] at hfound
    | some source =>
      simp only [hfind, bind_eq_ok, pure_eq_ok] at hfound
      obtain ⟨⟨path, body⟩, hrequest, rfl⟩ := hfound
      exact ⟨loaded, source, path, body, hloaded, hfind, hrequest, rfl⟩
  · rintro ⟨loaded, source, path, body, hloaded, hfind, hrequest, rfl⟩
    refine ⟨loaded, hloaded, ?_⟩
    simp only [hfind, bind_eq_ok, pure_eq_ok]
    exact ⟨(path, body), hrequest, rfl⟩

theorem savedGenerationRequest_ok {record : PendingGenerationRecord} {path : String} {body : Json} :
    savedGenerationRequest record = .ok (path, body) ↔
      record.serverTaskId = "" ∧ record.canvasUiExtraction = false ∧
      record.cancelRequested = false ∧ savedGenerationCreatePath record = .ok path ∧
      savedGenerationCreateBody record = .ok body := by
  simp only [savedGenerationRequest, bind_eq_ok, exists_unit, ensure_eq_ok, pure_eq_ok,
    Prod.mk.injEq, and_assoc]
  refine and_congr_right fun _ => and_congr_right fun _ => and_congr_right fun _ => ?_
  constructor
  · rintro ⟨_, hpath, _, hbody, rfl, rfl⟩
    exact ⟨hpath, hbody⟩
  · rintro ⟨hpath, hbody⟩
    exact ⟨path, hpath, body, hbody, rfl, rfl⟩

/-- A replay is built from the row that the document retains under the key. -/
theorem generation_ok {stored : GenerationFile}
    {saved : SavedReplayRequest PendingGenerationRecord}
    (h : SavedReplayRequest.generation readable authority session key stored = .ok saved) :
    ValidFor authority.userPublicId (stored.getD RecoveryEnvelope.empty) ∧
    ∃ row, generationTable.lookup stored key = some row ∧
      saved.source = remapGeneration authority row ∧ saved.key = key ∧
      saved.payer = row.billingAccountGroupId ∧ saved.session = session ∧
      savedGenerationRequest (remapGeneration authority row) = .ok (saved.path, saved.body) := by
  obtain ⟨-, -, loaded, source, path, body, hloaded, hfind, hrequest, rfl⟩ := ofRows_ok.mp h
  obtain ⟨file, hfile, hmap⟩ := bind_eq_ok.mp hloaded
  obtain ⟨-, rfl, hvalid⟩ := load_ok.mp hfile
  cases pure_eq_ok.mp hmap
  rw [find?_map_key clientRequestId_remapGeneration] at hfind
  obtain ⟨row, hrow, rfl⟩ := Option.map_eq_some_iff.mp hfind
  exact ⟨hvalid, row, hrow, rfl, rfl, rfl, rfl, hrequest⟩

theorem loadPendingOrders_ok {stored : OrderFile} {rows : List PendingOrderRecord}
    (h : loadPendingOrders readable authority stored = .ok rows) :
    ValidFor authority.userPublicId (stored.getD RecoveryEnvelope.empty) ∧
      rows = orderTable.rowsOf stored := by
  obtain ⟨file, hfile, hrows⟩ := bind_eq_ok.mp h
  obtain ⟨-, rfl, hvalid⟩ := load_ok.mp hfile
  exact ⟨hvalid, (pure_eq_ok.mp hrows).symm⟩

theorem order_ok {stored : OrderFile} {saved : SavedReplayRequest PendingOrderRecord}
    (h : SavedReplayRequest.order readable authority session key stored = .ok saved) :
    ∃ row, orderTable.lookup stored key = some row ∧ savedOrderRequest row = .ok (saved.path, saved.body) ∧
      saved = ⟨session, key, row.billingAccountGroupId, row, saved.body, saved.path⟩ := by
  obtain ⟨-, -, loaded, source, path, body, hloaded, hfind, hrequest, rfl⟩ := ofRows_ok.mp h
  obtain ⟨-, rfl⟩ := loadPendingOrders_ok hloaded
  exact ⟨source, hfind, hrequest, rfl⟩

theorem loadPendingPromptOptimizations_ok {stored : PromptFile}
    {rows : List PendingPromptOptimizationRecord}
    (h : loadPendingPromptOptimizations readable authority stored = .ok rows) :
    ValidFor authority.userPublicId (stored.getD RecoveryEnvelope.empty) ∧
      rows = deepTable.rowsOf stored := by
  obtain ⟨file, hfile, hrows⟩ := bind_eq_ok.mp h
  obtain ⟨-, rfl, hvalid⟩ := load_ok.mp hfile
  exact ⟨hvalid, (pure_eq_ok.mp hrows).symm⟩

theorem deep_ok {stored : PromptFile} {saved : SavedReplayRequest PendingPromptOptimizationRecord}
    (h : SavedReplayRequest.deep readable authority session key stored = .ok saved) :
    ∃ row, deepTable.lookup stored key = some row ∧ savedDeepRequest row = .ok (saved.path, saved.body) ∧
      saved = ⟨session, key, row.billingAccountGroupId, row, saved.body, saved.path⟩ := by
  obtain ⟨-, -, loaded, source, path, body, hloaded, hfind, hrequest, rfl⟩ := ofRows_ok.mp h
  obtain ⟨-, rfl⟩ := loadPendingPromptOptimizations_ok hloaded
  exact ⟨source, hfind, hrequest, rfl⟩

theorem clientRequestId_remapPromptTask (record : PendingPromptTaskRecord) :
    clientRequestId (remapPromptTask authority record) = clientRequestId record := rfl

theorem loadPendingPromptTasks_ok {stored : PromptFile} {rows : List PendingPromptTaskRecord}
    (h : loadPendingPromptTasks readable authority stored = .ok rows) :
    ValidFor authority.userPublicId (stored.getD RecoveryEnvelope.empty) ∧
      rows = (promptTable.rowsOf stored).map (remapPromptTask authority) := by
  obtain ⟨file, hfile, hrows⟩ := bind_eq_ok.mp h
  obtain ⟨-, rfl, hvalid⟩ := load_ok.mp hfile
  exact ⟨hvalid, (pure_eq_ok.mp hrows).symm⟩

theorem prompt_ok {stored : PromptFile} {saved : SavedReplayRequest PendingPromptTaskRecord}
    (h : SavedReplayRequest.prompt readable authority session key stored = .ok saved) :
    ∃ row, promptTable.lookup stored key = some row ∧ saved.key = key ∧
      saved.payer = row.billingAccountGroupId ∧
      savedPromptRequest (remapPromptTask authority row) = .ok (saved.path, saved.body) := by
  obtain ⟨-, -, loaded, source, path, body, hloaded, hfind, hrequest, rfl⟩ := ofRows_ok.mp h
  obtain ⟨-, rfl⟩ := loadPendingPromptTasks_ok hloaded
  rw [find?_map_key clientRequestId_remapPromptTask] at hfind
  obtain ⟨row, hrow, rfl⟩ := Option.map_eq_some_iff.mp hfind
  exact ⟨row, hrow, rfl, rfl, hrequest⟩

end Laws

end ArtForgeStudio.Recovery
