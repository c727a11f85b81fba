import ArtForgeStudio.Generation.World

/-! # The submission workers and the recovery scan

Each worker is written as the source has it, action by action; threads may be interleaved or
stopped between any two actions. Left out is what no other thread can see: messages to the
user interface, files on disk and best-effort deletions of uploaded references.
-/

namespace ArtForgeStudio.Generation

open ArtForgeStudio.Api ArtForgeStudio.Recovery ArtForgeStudio.Concurrency

/-- The references are deleted one by one; a failure keeps the row. -/
def deleteReferences : List String → Action Bool
  | [] => pure true
  | _ :: rest => do
    match ← command with
    | .error _ => pure false
    | .ok () => deleteReferences rest

/-- The part of `cleanup_cancelled_generation` that asks the server. The row goes only when the
task is reported cancelled without any success. -/
def confirmCancellation (authority : NamespaceStorageAuthority) (savedGroup : Option String)
    (row : PendingGenerationRecord) (uploaded : List String) (taskId : String) : Action Bool := do
  match ← taskScoped row.clientRequestId savedGroup taskId with
  | .error _ => pure false
  | .ok before =>
  if requireSavedGroup row.billingAccountGroupId before.billingAccountGroupId ≠ .ok () ||
      before.id ≠ taskId then pure false else do
  match ← command with
  | .error _ => pure false
  | .ok () =>
  match ← taskScoped row.clientRequestId savedGroup taskId with
  | .error _ => pure false
  | .ok after =>
  if requireSavedGroup row.billingAccountGroupId after.billingAccountGroupId ≠ .ok () ||
      after.id ≠ taskId || !after.cancelledEmpty then pure false else do
  if !(← deleteReferences uploaded) then pure false else do
  pure ((← removePendingGeneration authority (RecoveryRow.identity row)) matches .ok true)

def forgetCancellation (key : String) : Action Unit :=
  .atomic fun _ world => ((), { world with cancelled := world.cancelled.filter (· ≠ key) })

/-- `cleanup_cancelled_generation`; its checked twin differs in the type of its error alone. -/
def cleanupCancelledGeneration (authority : NamespaceStorageAuthority) (savedGroup : Option String)
    (key : String) (uploaded : List String) (serverTaskId : Option String) : Action Bool := do
  if !(← backendGenerationScopeActive) then pure false else do
  match ← loadRow authority key with
  | none => pure false
  | some row =>
  if !((← applyGenerationPatch authority (RecoveryRow.identity row) .requestCancellation)
      matches .ok true) then pure false else
  -- No id is not proof that the request never arrived: the row stays.
  match serverTaskId.filter (· ≠ "") with
  | none => pure false
  | some taskId =>
  if !(← confirmCancellation authority savedGroup row uploaded taskId) then pure false else do
  forgetCancellation key
  pure true

def beginGenerationSubmission (authority : NamespaceStorageAuthority) (key : String) :
    Action Bool := do
  match ← loadRow authority key with
  | none => pure false
  | some row =>
    pure ((← applyGenerationPatch authority (RecoveryRow.identity row) .beginSubmission)
      matches .ok true)

def removesRecord (error : ApiError) : Bool :=
  error.isBillingRejection || !error.shouldPreserveGenerationRecovery

/-- A failed creation: a refused or locally failed one removes the row. -/
def creationFailed (authority : NamespaceStorageAuthority) (identity : RecoveryRecordIdentity)
    (error : ApiError) : Action Unit := do
  if !(← backendGenerationScopeActive) then pure () else
  if removesRecord error then do
    let _ ← removePendingGeneration authority identity
    pure ()
  else pure ()

/-- A write after which an id is recorded or lost when it was received, and a plain one
otherwise. -/
def operateWhen (thread : Nat) (authority : NamespaceStorageAuthority) (received : Bool)
    (op : GenerationOperation) : Action (Except Failure Bool) :=
  if received then operateReceived thread authority op else operate authority op

/-- The polling loop with a bound on its number of polls. -/
def pollTask (thread : Nat) (authority : NamespaceStorageAuthority)
    (identity : RecoveryRecordIdentity) (savedGroup : Option String) (taskId : String) :
    Nat → GenerationTaskDetail → Action Unit
  | 0, _ => .atomic fun _ world => ((), { world with polling := thread :: world.polling })
  | polls + 1, detail => do
    if !(← backendGenerationScopeActive) then pure () else
    if ← generationCancelRequested identity.clientRequestId then do
      let _ ← cleanupCancelledGeneration authority savedGroup identity.clientRequestId []
        (some taskId)
      pure ()
    else
    -- progress and results go to the receiver
    if !(← listening) then pure () else
    if detail.terminal then do
      let _ ← applyGenerationPatch authority identity (.terminal detail.successCount.toNat)
      pure ()
    else
    match ← taskScoped identity.clientRequestId savedGroup taskId with
    | .error _ => pure ()
    | .ok detail => pollTask thread authority identity savedGroup taskId polls detail

/-- The loop over the references; the row goes when an upload fails. -/
def uploadReferences (authority : NamespaceStorageAuthority) (identity : RecoveryRecordIdentity) :
    List String → List String → Action (Option (List String))
  | [], uploaded => pure (some uploaded)
  | _ :: paths, uploaded => do
    match ← uploadReference with
    | .error _ =>
      if !(← backendGenerationScopeActive) then pure none else do
      let _ ← removePendingGeneration authority identity
      pure none
    | .ok fileId =>
    let uploaded := uploaded ++ [fileId]
    if !((← applyGenerationPatch authority identity (.uploadedFileIds uploaded)) matches .ok true)
      then pure none else
    if ← generationCancelRequested identity.clientRequestId then do
      let _ ← cleanupCancelledGeneration authority none identity.clientRequestId uploaded none
      pure none
    else uploadReferences authority identity paths uploaded

/-- The end of the first two workers, from the accepted task on. -/
def followAccepted (thread : Nat) (authority : NamespaceStorageAuthority)
    (identity : RecoveryRecordIdentity) (uploaded : List String) (polls : Nat)
    (detail : GenerationTaskDetail) : Action Unit := do
  let key := identity.clientRequestId
  -- The id is known and not yet recorded.
  if ← generationCancelRequested key then do
    let _ ← cleanupCancelledGeneration authority none key uploaded (some detail.id)
    pure ()
  else do
  if !((← operateReceived thread authority
      (.patch identity (.accepted detail.id uploaded false))) matches .ok true) then pure () else
  if !(← listening) then do
    let _ ← command
    pure ()
  else pollTask thread authority identity none detail.id polls detail

def beginAndSubmit (thread : Nat) (authority : NamespaceStorageAuthority)
    (billingScope : BillingScope) (record : PendingGenerationRecord) (uploaded : List String)
    (polls : Nat) (body : Json) : Action Unit := do
  let identity := RecoveryRow.identity record
  if !(← beginGenerationSubmission authority record.clientRequestId) then pure () else
  match ← createTaskBodyBilling thread none billingScope record.clientRequestId body with
  | .error error => creationFailed authority identity error
  | .ok detail => followAccepted thread authority identity uploaded polls detail

def startBackendGenerationWorker (thread : Nat) (authority : NamespaceStorageAuthority)
    (billingScope : BillingScope) (record : PendingGenerationRecord) (polls : Nat) :
    Action Unit := do
  let identity := RecoveryRow.identity record
  let key := record.clientRequestId
  if !(← backendGenerationScopeActive) then pure () else
  if !(← generationReferencesMatch) then pure () else
  match ← uploadReferences authority identity record.referencePaths [] with
  | none => pure ()
  | some uploaded =>
  if ← generationCancelRequested key then do
    let _ ← cleanupCancelledGeneration authority none key uploaded none
    pure ()
  else
  let request : CreateGenerationTask := {
    clientRequestId := key
    taskType := "image_generation"
    modelCode := record.modelCode
    prompt := record.generationPrompt
    quality := some record.quality
    count := some record.count
    aspectRatio := some (apiAspectRatio record.ratio)
    referenceFileIds := some uploaded
    targetLanguage := none }
  beginAndSubmit thread authority billingScope record uploaded polls request.toValue

def preparedUpscaleSubmissionRun (thread : Nat) (authority : NamespaceStorageAuthority)
    (billingScope : BillingScope) (record : PendingGenerationRecord) (polls : Nat) :
    Action Unit := do
  let identity := RecoveryRow.identity record
  let key := record.clientRequestId
  if !(← backendGenerationScopeActive) then pure () else
  if !(← generationReferencesMatch) then pure () else
  match ← uploadReference with
  | .error _ =>
    if !(← backendGenerationScopeActive) then pure () else do
    let _ ← removePendingGeneration authority identity
    pure ()
  | .ok fileId =>
  let uploaded := [fileId]
  if !((← applyGenerationPatch authority identity (.uploadedAndReleaseInputs uploaded))
    matches .ok true) then pure () else
  if ← generationCancelRequested key then do
    let _ ← cleanupCancelledGeneration authority none key uploaded none
    pure ()
  else
  let request : CreateUpscaleGenerationTask := {
    clientRequestId := key
    taskType := "image_upscale"
    modelCode := record.modelCode
    prompt := record.generationPrompt
    quality := record.quality
    referenceFileIds := uploaded
    targetWidth := record.targetWidth
    targetHeight := record.targetHeight }
  beginAndSubmit thread authority billingScope record uploaded polls request.toValue

/-- The inputs go from the row and from the record; `none` when the row could not be written. -/
def dropInputs (authority : NamespaceStorageAuthority) (record : PendingGenerationRecord) :
    Action (Option PendingGenerationRecord) := do
  if (← applyGenerationPatch authority (RecoveryRow.identity record) .releaseReferenceInputs)
    matches .ok true then pure (some (releaseReferenceInputs record)) else pure none

def releaseRecoveredUpscaleInputs (authority : NamespaceStorageAuthority)
    (record : PendingGenerationRecord) : Action (Option PendingGenerationRecord) :=
  if record.taskType ≠ "image_upscale" || record.referencePaths.isEmpty then pure (some record)
  else dropInputs authority record

/-- An accepted image edit needs its inputs no more. -/
def releaseEditInputs (authority : NamespaceStorageAuthority) (record : PendingGenerationRecord) :
    Action (Option PendingGenerationRecord) :=
  if record.taskType = "image_edit" && !record.serverTaskId.isEmpty then
    dropInputs authority record
  else pure (some record)

/-- An upscale whose inputs are uploaded needs them no more. -/
def releaseUpscaleInputs (authority : NamespaceStorageAuthority) (uploaded : Bool)
    (record : PendingGenerationRecord) : Action (Option PendingGenerationRecord) :=
  if record.taskType = "image_upscale" && uploaded then
    releaseRecoveredUpscaleInputs authority record
  else pure (some record)

def missingReferences (record : PendingGenerationRecord) :
    List (String × Option String × Option Nat) :=
  (record.referencePaths.zipIdx.drop record.uploadedFileIds.length).map fun reference =>
    (reference.1, record.referenceSha256[reference.2]?, record.referenceSizeBytes[reference.2]?)

/-- The uploads that the record still lacks. An upload that fails leaves the row. -/
def uploadMissing (authority : NamespaceStorageAuthority) (identity : RecoveryRecordIdentity)
    (savedGroup : Option String) :
    List (String × Option String × Option Nat) → List String → Action (Option (List String))
  | [], uploaded => pure (some uploaded)
  | (_, hash, size) :: paths, uploaded => do
    if !(← listening) then pure none else
    if hash.isNone || size.isNone then pure none else
    match ← uploadReference with
    | .error _ => pure none
    | .ok fileId =>
    let uploaded := uploaded ++ [fileId]
    if !((← applyGenerationPatch authority identity (.uploadedFileIds uploaded)) matches .ok true)
      then pure none else
    if ← generationCancelRequested identity.clientRequestId then do
      let _ ← cleanupCancelledGeneration authority savedGroup identity.clientRequestId uploaded none
      pure none
    else uploadMissing authority identity savedGroup paths uploaded

/-- The create request of a record with these uploads: the body, an error in front of the
request, or `none` for an image edit without its two inputs. -/
def recordRequest (record : PendingGenerationRecord) (uploaded : List String) :
    Option (Except ApiError Json) :=
  let taskType := if trimIsEmpty record.taskType then "image_generation" else record.taskType
  if taskType = "image_to_video" then
    record.videoRequest.map fun request => (request.validate).map fun _ => request.toValue
  else if taskType = "image_upscale" then
    some (.ok (CreateUpscaleGenerationTask.toValue {
      clientRequestId := record.clientRequestId
      taskType := "image_upscale"
      modelCode := record.modelCode
      prompt := record.generationPrompt
      quality := record.quality
      referenceFileIds := uploaded
      targetWidth := record.targetWidth
      targetHeight := record.targetHeight }))
  else if taskType = "image_edit" then
    match uploaded with
    | [sourceFileId, maskFileId] => some (.ok (CreateImageEditTask.toValue {
        clientRequestId := record.clientRequestId
        taskType := "image_edit"
        modelCode := record.modelCode
        prompt := record.generationPrompt
        quality := record.quality
        aspectRatio := apiAspectRatio record.ratio
        sourceFileId := sourceFileId
        maskFileId := maskFileId }))
    | _ => none
  else
    some (.ok (CreateGenerationTask.toValue {
      clientRequestId := record.clientRequestId
      taskType := "image_generation"
      modelCode := record.modelCode
      prompt := record.generationPrompt
      quality := some record.quality
      count := some record.count
      aspectRatio := some (apiAspectRatio record.ratio)
      referenceFileIds := some uploaded
      targetLanguage := none }))

/-- The end of `run_generation_record_checked`, from the detail on: `received` tells a created
task from a queried one. -/
def followRecord (thread : Nat) (authority : NamespaceStorageAuthority)
    (savedGroup : Option String) (record : PendingGenerationRecord) (uploaded : List String)
    (polls : Nat) (received : Bool) (detail : GenerationTaskDetail) : Action Unit := do
  let identity := RecoveryRow.identity record
  let key := record.clientRequestId
  if ← generationCancelRequested key then do
    let _ ← cleanupCancelledGeneration authority savedGroup key uploaded (some detail.id)
    pure ()
  else
  if !record.serverTaskId.isEmpty && record.serverTaskId ≠ detail.id then pure () else
  if requireSavedGroup record.billingAccountGroupId detail.billingAccountGroupId ≠ .ok () then
    pure () else
  let accepted := GenerationOperation.patch identity
    (.accepted detail.id uploaded (record.taskType = "image_edit"))
  if !((← operateWhen thread authority received accepted) matches .ok true) then pure () else
  pollTask thread authority identity savedGroup detail.id polls detail

def submitRecord (thread : Nat) (authority : NamespaceStorageAuthority)
    (billingScope : Option BillingScope) (savedGroup : Option String)
    (record : PendingGenerationRecord) (uploaded : List String) (polls : Nat) : Action Unit := do
  let identity := RecoveryRow.identity record
  match billingScope with
  | none => pure ()
  | some billingScope =>
  if !(← beginGenerationSubmission authority record.clientRequestId) then pure () else
  match recordRequest record uploaded with
  | none =>
    -- without its video request the worker stops; an incomplete image edit is given up
    if record.taskType = "image_to_video" then pure () else do
    let _ ← removePendingGeneration authority identity
    pure ()
  | some (.error _) => pure ()
  | some (.ok body) =>
  match ← createTaskBodyBilling thread savedGroup billingScope record.clientRequestId body with
  | .error error =>
    if error.isTerminalSessionError then pure () else creationFailed authority identity error
  | .ok detail =>
    followRecord thread authority savedGroup record uploaded polls true detail

def runGenerationRecordChecked (thread : Nat) (authority : NamespaceStorageAuthority)
    (billingScope : Option BillingScope) (session : SessionScope)
    (record : PendingGenerationRecord) (polls : Nat) : Action Unit := do
  let identity := RecoveryRow.identity record
  let key := record.clientRequestId
  if !(← backendGenerationScopeActive) then pure () else
  if billingScope.any (fun scope => record.billingAccountGroupId ≠ scope.accountGroupId) ||
      record.ownerUserId ≠ session.ownerUserId || record.authEpoch ≠ session.authEpoch then
    pure () else
  let savedGroup := some record.billingAccountGroupId
  if record.serverTaskId.isEmpty && !(← generationReferencesMatch) then pure () else
  match ← releaseEditInputs authority record with
  | none => pure ()
  | some record =>
  match ← releaseUpscaleInputs authority (!record.serverTaskId.isEmpty ||
      (!record.referencePaths.isEmpty &&
        record.uploadedFileIds.length ≥ record.referencePaths.length)) record with
  | none => pure ()
  | some record =>
  match ← uploadMissing authority identity savedGroup (missingReferences record)
      record.uploadedFileIds with
  | none => pure ()
  | some uploaded =>
  match ← releaseUpscaleInputs authority (!record.referencePaths.isEmpty &&
      uploaded.length ≥ record.referencePaths.length) record with
  | none => pure ()
  | some record =>
  if ← generationCancelRequested key then do
    let _ ← cleanupCancelledGeneration authority savedGroup key uploaded none
    pure ()
  else
  if !(← listening) then pure () else
  if record.serverTaskId.isEmpty then
    submitRecord thread authority billingScope savedGroup record uploaded polls
  else
  match ← taskScoped key savedGroup record.serverTaskId with
  | .error _ => pure ()
  | .ok detail => followRecord thread authority savedGroup record uploaded polls false detail

def runRecoveredGenerationWorker (thread : Nat) (authority : NamespaceStorageAuthority)
    (session : SessionScope) (record : PendingGenerationRecord) (polls : Nat) : Action Unit :=
  if record.serverTaskId.isEmpty then pure ()
  else runGenerationRecordChecked thread authority none session record polls

/-- `SavedReplayRequest::generation` on the document as it is read. -/
def savedReplayRequest (authority : NamespaceStorageAuthority) (session : SessionScope)
    (key : String) : Action (Except Failure (SavedReplayRequest PendingGenerationRecord)) :=
  .read fun answers world =>
    SavedReplayRequest.generation answers.readable authority session key world.file

def verifyReplay (authority : NamespaceStorageAuthority)
    (request : SavedReplayRequest PendingGenerationRecord) : Action (Except Failure Unit) :=
  .read fun answers world =>
    request.verify (loadPendingGenerations answers.readable authority world.file)

def replaySaved (thread : Nat) (authority : NamespaceStorageAuthority)
    (request : SavedReplayRequest PendingGenerationRecord) :
    Action (Except ApiError GenerationTaskDetail) := do
  if !(← backendGenerationScopeActive) then pure (.error .authenticationRequired) else
  match ← verifyReplay authority request with
  | .error _ => pure (.error (.localState ""))
  | .ok () =>
    let result ← authenticatedJsonWithScope thread true
      ⟨request.key, request.path, request.payer, request.body⟩
    pure (result.mapError (·.withBillingPayer request.payer))

/-- The detail that a retained row is bound to: of its task, or of its replayed creation. -/
def recoveredDetail (thread : Nat) (authority : NamespaceStorageAuthority)
    (session : SessionScope) (record : PendingGenerationRecord) :
    Action (Except ApiError GenerationTaskDetail) :=
  if record.serverTaskId.isEmpty then do
    match ← savedReplayRequest authority session record.clientRequestId with
    | .error _ => pure (.error (.localState ""))
    | .ok request => replaySaved thread authority request
  else taskScoped record.clientRequestId (some record.billingAccountGroupId) record.serverTaskId

/-- The end of the task of a cancelled row: cancelled now, unless it has ended. -/
def endTask (record : PendingGenerationRecord) (detail : GenerationTaskDetail) :
    Action (Option GenerationTaskDetail) :=
  if detail.terminal then pure (some detail) else do
  match ← command with
  | .error _ => pure none
  | .ok () =>
  match ← taskScoped record.clientRequestId (some record.billingAccountGroupId)
      record.serverTaskId with
  | .error _ => pure none
  | .ok detail =>
  if requireSavedGroup record.billingAccountGroupId detail.billingAccountGroupId ≠ .ok () then
    pure none
  else pure (some detail)

/-- The cancellation of a row with a task: the detail of the ended task, which may still hold
results, or `none` when there is nothing more to do with the row. -/
def recoverCancelled (authority : NamespaceStorageAuthority) (record : PendingGenerationRecord)
    (detail : GenerationTaskDetail) : Action (Option GenerationTaskDetail) := do
  if !record.cancelRequested then pure (some detail) else
  match ← endTask record detail with
  | none => pure none
  | some detail =>
  if !detail.terminal then pure none else
  if detail.cancelledEmpty then do
    let _ ← removePendingGeneration authority (RecoveryRow.identity record)
    pure none
  else pure (some detail)

/-- A row of an earlier login is moved to this one. -/
def moveToLogin (thread : Nat) (authority : NamespaceStorageAuthority) (session : SessionScope)
    (received : Bool) (record : PendingGenerationRecord) : Action (Except Failure Bool) :=
  if record.authEpoch ≠ session.authEpoch then
    operateWhen thread authority received (.rebind (RecoveryRow.identity record) session.authEpoch)
  else pure (.ok true)

/-- `bind_generation_recovery_candidate` from the answer of the server on. -/
def bindDetail (thread : Nat) (authority : NamespaceStorageAuthority) (session : SessionScope)
    (received : Bool) (record : PendingGenerationRecord) (detail : GenerationTaskDetail) :
    Action (Option PendingGenerationRecord) := do
  if requireSavedGroup record.billingAccountGroupId detail.billingAccountGroupId ≠ .ok () then
    pure none else
  if !(← backendGenerationScopeActive) then pure none else
  if !((← moveToLogin thread authority session received record) matches .ok true) then pure none
  else
  let record := RecoveryRow.setAuthEpoch session.authEpoch record
  match ← recoverCancelled authority record detail with
  | none => pure none
  | some detail =>
  if !received then pure (some record) else
  if !((← operateReceived thread authority (.patch (RecoveryRow.identity record)
      (.accepted detail.id record.uploadedFileIds false))) matches .ok true) then pure none else
  pure (some { record with serverTaskId := detail.id })

def bindGenerationRecoveryCandidate (thread : Nat) (authority : NamespaceStorageAuthority)
    (session : SessionScope) (record : PendingGenerationRecord) :
    Action (Option PendingGenerationRecord) := do
  if record.ownerUserId ≠ session.ownerUserId || authority.userPublicId ≠ session.ownerUserId then
    pure none else
  if !(← backendGenerationScopeActive) then pure none else
  if generationRecordComplete record then do
    let _ ← operate authority (.retire (RecoveryRow.identity record))
    pure none
  else
  if record.cancelRequested && record.serverTaskId.isEmpty then pure none else
  match ← recoveredDetail thread authority session record with
  | .error _ => pure none
  | .ok detail => bindDetail thread authority session record.serverTaskId.isEmpty record detail

def recoverableTaskTypes : List String :=
  ["image_generation", "image_edit", "image_upscale", "image_watermark_removal",
    "image_colorization", "image_enhancement", "image_cutout", "image_to_video"]

def scanRecords (thread : Nat) (authority : NamespaceStorageAuthority) (session : SessionScope) :
    List PendingGenerationRecord → List PendingGenerationRecord → Action (List PendingGenerationRecord)
  | [], recovered => pure recovered
  | record :: records, recovered => do
    if !(← backendGenerationScopeActive) then pure recovered else
    if !recoverableTaskTypes.contains record.taskType || record.canvasUiExtraction then
      scanRecords thread authority session records recovered else
    match ← bindGenerationRecoveryCandidate thread authority session record with
    | some record => scanRecords thread authority session records (recovered ++ [record])
    | none => scanRecords thread authority session records recovered

def loadRows (authority : NamespaceStorageAuthority) :
    Action (Except Failure (List PendingGenerationRecord)) :=
  .read fun answers world => loadPendingGenerations answers.readable authority world.file

/-- `recover_pending_generations`: what was bound is handed over at the end. -/
def recoverPendingGenerations (thread : Nat) (authority : NamespaceStorageAuthority)
    (session : SessionScope) : Action Unit := do
  match ← loadRows authority with
  | .error _ => pure ()
  | .ok records =>
    let recovered ← scanRecords thread authority session records []
    .atomic fun _ world => ((), { world with recovered := recovered ++ world.recovered })

end ArtForgeStudio.Generation
