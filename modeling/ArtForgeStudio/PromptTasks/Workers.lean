import ArtForgeStudio.Generation.World
import ArtForgeStudio.Payment.Workers

/-! # Prompt tasks

A worker runs the task of one row: it uploads the references, asks the server for the task, follows
it and stores its result. The row says how far it got. A user who cancels the task stops the worker,
and another one takes the row away.
-/

namespace ArtForgeStudio.PromptTasks

open ArtForgeStudio.Api ArtForgeStudio.Recovery ArtForgeStudio.KeyedRows ArtForgeStudio.Concurrency
  ArtForgeStudio.Outcome
open ArtForgeStudio.Generation (GenerationTaskDetail)
open ArtForgeStudio.Payment (transitionFailure)

/-- A task as the server answers it. -/
structure PromptTaskDetail extends GenerationTaskDetail where
  failureCode : Option String := none
  /-- as `normalize_prompt_task_result` leaves it -/
  resultPrompt : Option String := none
  deriving DecidableEq

structure PromptRequest where
  key : String
  payer : String
  path : String
  body : Json

/-- What a row asks the server for, whether or not it was accepted. -/
def promptRequest (row : PendingPromptTaskRecord) : Option PromptRequest :=
  match savedPromptRequest { row with serverTaskId := "" } with
  | .ok (path, body) => some ⟨row.clientRequestId, row.billingAccountGroupId, path, body⟩
  | .error _ => none

/-- An answer of the server about a key: to a create request, or to a query of its task. -/
structure Report where
  key : String
  creation : Bool
  detail : PromptTaskDetail
  deriving DecidableEq

/-- What one action is told from outside; an action reads the members it asks for. -/
structure Answers where
  /-- the worker is not stopped, and its namespace and session are current -/
  scope : Bool
  /-- `cancelled_prompt_task_requests` -/
  cancelled : List String := []
  readable : Bool
  storage : StorageAnswers
  /-- `owns_path` -/
  owned : Bool
  /-- the fingerprint and the size of a reference -/
  source : Except ApiError (String × Nat)
  upload : Except ApiError String
  /-- `begin_user_work` -/
  admission : Except ApiError Unit
  /-- an access token is there, or the server answers to its refresh -/
  token : Except ApiError Unit
  /-- whether the request leaves the client -/
  post : Except ApiError Unit
  reply : Except ApiError PromptTaskDetail
  /-- the answer to a query -/
  task : Except ApiError PromptTaskDetail
  /-- the answer to a cancellation or a deletion -/
  command : Except ApiError Unit

/-- The document, and the histories that no worker reads. -/
structure World where
  file : PromptFile := none
  /-- every key a row was ever stored under -/
  stored : List String := []
  sent : List PromptRequest := []
  reports : List Report := []

namespace World

variable (world : World)

def row (key : String) : Option PendingPromptTaskRecord := promptTable.lookup world.file key

def operated (answers : StorageAnswers) (authority : NamespaceStorageAuthority)
    (op : PromptOperation) : World :=
  let file := (op.run answers authority world.file).2
  let key := op.identity.clientRequestId
  { world with
    file := file
    stored := if (promptTable.lookup file key).isSome then key :: world.stored else world.stored }

def besides (answers : StorageAnswers) (authority : NamespaceStorageAuthority) (op : DeepOperation) :
    World := { world with file := (op.run answers authority world.file).2 }

def send (request : PromptRequest) : World := { world with sent := request :: world.sent }

def answers (key : String) (creation : Bool) : Except ApiError PromptTaskDetail → World
  | .ok detail => { world with reports := ⟨key, creation, detail⟩ :: world.reports }
  | .error _ => world

end World

abbrev Action := Program Unit World Answers

/-- Actions that may fail; `?` of the source is their sequence. -/
abbrev Fallible := ExceptT ApiError Action

def attempt {α : Type} (action : Fallible α) : Fallible (Except ApiError α) := ExceptT.lift action.run

def promptTaskCancelledError : ApiError := .localState "prompt task cancelled"

def promptTaskApiErrorIsTransient (error : ApiError) : Bool :=
  error.shouldPreserveGenerationRecovery || error.code = some "request_in_progress"

def promptTaskApiErrorRequiresLogin (error : ApiError) : Bool :=
  error = .authenticationRequired || error.isTerminalSessionError

def ensureScope : Fallible Unit :=
  .mk (.read fun answers _ => if answers.scope then .ok () else .error .authenticationRequired)

structure PromptWorker where
  authority : NamespaceStorageAuthority
  session : SessionScope
  /-- the request whose cancellation stops the worker -/
  requestId : Option String := none

namespace PromptWorker

variable (worker : PromptWorker)

def userCancelled (answers : Answers) : Bool := worker.requestId.any answers.cancelled.contains

def ensure : Fallible Unit :=
  .mk (.read fun answers _ =>
    if !answers.scope then .error .authenticationRequired
    else if worker.userCancelled answers then .error promptTaskCancelledError
    else .ok ())

def wait : Fallible Bool :=
  .mk (.read fun answers _ => .ok (answers.scope && !worker.userCancelled answers))

def waitOrStop : Fallible Unit := do
  if ← worker.wait then pure ()
  else .mk (.read fun answers _ =>
    .error (if worker.userCancelled answers then promptTaskCancelledError
      else .authenticationRequired))

end PromptWorker

def operate (authority : NamespaceStorageAuthority) (op : PromptOperation) :
    Action (Except Failure Bool) :=
  .atomic fun answers world => ((op.run answers.storage authority world.file).1,
    world.operated answers.storage authority op)

/-- An operation that must find its row. -/
def requireUpdate (authority : NamespaceStorageAuthority) (op : PromptOperation) (missing : String) :
    Fallible Unit :=
  .mk do
    match ← operate authority op with
    | .ok true => pure (.ok ())
    | .ok false => pure (.error (.localState missing))
    | .error failure => pure (.error (transitionFailure failure))

def requirePromptPatch (worker : PromptWorker) (record : PendingPromptTaskRecord)
    (patch : PromptTaskRecoveryPatch) : Fallible Unit :=
  requireUpdate worker.authority (.patch (RecoveryRow.identity record) patch)
    "提示词记录已变化，未覆盖原始数据"

def rebindPrompt (worker : PromptWorker) (record : PendingPromptTaskRecord) (missing : String) :
    Fallible PendingPromptTaskRecord :=
  if record.authEpoch ≠ worker.session.authEpoch then do
    requireUpdate worker.authority
      (.rebind (RecoveryRow.identity record) worker.session.authEpoch) missing
    pure (RecoveryRow.setAuthEpoch worker.session.authEpoch record)
  else pure record

def nameTask (worker : PromptWorker) (record : PendingPromptTaskRecord) (id : String) :
    Fallible PendingPromptTaskRecord :=
  if record.serverTaskId = "" then do
    requirePromptPatch worker record (.serverTaskId id)
    pure { record with serverTaskId := id }
  else pure record

/-- `access_or_refresh_scope` and `refresh_scope` -/
def accessOrRefresh : Fallible Unit := .mk (.read fun answers _ => answers.token)

def post (request : PromptRequest) : Fallible Unit :=
  .mk (.atomic fun answers world => (answers.post,
    match answers.post with
    | .ok () => world.send request
    | .error _ => world))

def receive (key : String) : Fallible PromptTaskDetail :=
  .mk (.atomic fun answers world => (answers.reply, world.answers key true answers.reply))

def sendOnce (request : PromptRequest) : Fallible PromptTaskDetail := do
  post request
  receive request.key

/-- `authenticated_json_with_scope`: a rejected access token is refreshed and the request sent
once more. -/
def authenticatedJsonWithScope (request : PromptRequest) : Fallible PromptTaskDetail := do
  accessOrRefresh
  tryCatchThe ApiError (sendOnce request) fun error =>
    if error.isAccessTokenRejected then do
      accessOrRefresh
      sendOnce request
    else throw error

/-- `billing_json_scoped` -/
def billingJson (request : PromptRequest) : Fallible PromptTaskDetail :=
  tryCatchThe ApiError (authenticatedJsonWithScope request) fun error =>
    throw (error.withBillingPayer request.payer)

/-- `create_task_billing`, with the saved group of the record -/
def createTaskBilling (record : PendingPromptTaskRecord) (scope : BillingScope) :
    Fallible PromptTaskDetail := do
  let detail ← billingJson ⟨record.clientRequestId, scope.accountGroupId, "/v1/generation/tasks",
    (promptTaskCreateRequest record).toValue⟩
  .mk (pure (requireSavedGroup scope.accountGroupId detail.billingAccountGroupId))
  .mk (pure (requireSavedGroup record.billingAccountGroupId detail.billingAccountGroupId))
  pure detail

/-- `SavedReplayRequest::prompt` -/
def savedReplay (worker : PromptWorker) (key : String) :
    Fallible (SavedReplayRequest PendingPromptTaskRecord) :=
  .mk (.read fun answers world =>
    (SavedReplayRequest.prompt answers.readable worker.authority worker.session key
      world.file).mapError transitionFailure)

def replaySaved (worker : PromptWorker) (request : SavedReplayRequest PendingPromptTaskRecord) :
    Fallible PromptTaskDetail := do
  .mk (.read fun answers _ => answers.admission)
  .mk (.read fun answers world =>
    (request.verify (loadPendingPromptTasks answers.readable worker.authority world.file)).mapError
      transitionFailure)
  billingJson ⟨request.key, request.payer, request.path, request.body⟩

def taskScoped (record : PendingPromptTaskRecord) : Fallible PromptTaskDetail := do
  let detail ← .mk (.atomic fun answers world =>
    (answers.task, world.answers record.clientRequestId false answers.task))
  .mk (pure (requireSavedGroup record.billingAccountGroupId detail.billingAccountGroupId))
  pure detail

def cancelScoped : Fallible Unit := .mk (.read fun answers _ => answers.command)

/-- The task of a record: asked for once more as the row says, or queried. -/
def replayOrQuery (worker : PromptWorker) (record : PendingPromptTaskRecord) :
    Fallible PromptTaskDetail :=
  if record.serverTaskId = "" then do
    let request ← savedReplay worker record.clientRequestId
    replaySaved worker request
  else taskScoped record

def checkDetail (record : PendingPromptTaskRecord) (detail : PromptTaskDetail) (message : String) :
    Except ApiError Unit := do
  requireSavedGroup record.billingAccountGroupId detail.billingAccountGroupId
  rejectIf (trimIsEmpty detail.id ∨ (record.serverTaskId ≠ "" ∧ detail.id ≠ record.serverTaskId))
    (.localState message)

def deleteReference : Fallible Bool :=
  .mk (.read fun answers _ =>
    match answers.command with
    | .ok () => .ok true
    | .error error =>
      if error.code = some "reference_file_in_use" || error matches .http 404 _ _ then .ok true
      else if promptTaskApiErrorRequiresLogin error then .error error
      else .ok false)

/-- `cleanup_prompt_references_captured` -/
def cleanupPromptReferences (worker : PromptWorker) : List String → Fallible Bool
  | [] => do
    worker.ensure
    pure true
  | _ :: rest => do
    worker.ensure
    if ← deleteReference then cleanupPromptReferences worker rest else pure false

/-- The fingerprint and the size of a reference that the namespace owns. -/
def readSource (foreign : String) : Fallible (String × Nat) :=
  .mk (.read fun answers _ => if answers.owned then answers.source else .error (.localState foreign))

def verifyPromptReference (worker : PromptWorker) (record : PendingPromptTaskRecord) (index : Nat) :
    Fallible Unit := do
  worker.ensure
  .mk (pure (rejectIf record.referencePaths[index]?.isNone (.localState "原引用路径不完整")))
  let source ← readSource "原引用不在已保存账号中，记录保持原样"
  .mk (pure (rejectIf (record.referenceSha256[index]? ≠ some source.1 ∨
    record.referenceSizeBytes[index]? ≠ some source.2) (.localState "原引用内容已变化，提示词记录保持原样")))

/-- The references from an index on. -/
def verifyPromptReferences (worker : PromptWorker) (record : PendingPromptTaskRecord) :
    Nat → Nat → Fallible Unit
  | _, 0 => pure ()
  | index, missing + 1 => do
    verifyPromptReference worker record index
    verifyPromptReferences worker record (index + 1) missing

def validPendingPromptTask (record : PendingPromptTaskRecord) : Bool :=
  record.schemaVersion = 2 && !trimIsEmpty record.clientRequestId &&
    !trimIsEmpty record.ownerUserId && !trimIsEmpty record.taskType &&
    !trimIsEmpty record.modelCode && !trimIsEmpty record.prompt &&
    record.referencePaths.length = record.referenceSha256.length &&
    record.referencePaths.length = record.referenceSizeBytes.length &&
    record.uploadedFileIds.length ≤ record.referencePaths.length &&
    ["composer", "custom_prompt", "canvas_node", "video_prompt"].contains record.targetKind &&
    (record.targetKind ≠ "video_prompt" || !trimIsEmpty record.targetId)

def promptTaskCompletedUnclaimed (record : PendingPromptTaskRecord) : Bool :=
  !record.cancelRequested && (!trimIsEmpty record.resultPrompt || !trimIsEmpty record.terminalError)

def promptUnsentPartial (record : PendingPromptTaskRecord) : Bool :=
  record.serverTaskId = "" && record.resultPrompt = "" && record.terminalError = "" &&
    !record.resultCommitted && !record.appliedToTarget &&
    record.uploadedFileIds.length < record.referencePaths.length &&
    record.referenceSha256.length = record.referencePaths.length &&
    record.referenceSizeBytes.length = record.referencePaths.length

/-- The branch of `revalidate_prompt_epoch` that replays the request of the record. -/
def replaysRecord (record : PendingPromptTaskRecord) : Bool :=
  record.serverTaskId = "" && record.uploadedFileIds.length = record.referencePaths.length &&
    record.resultPrompt = "" && record.terminalError = "" && !record.resultCommitted &&
    !record.appliedToTarget

def checkUnchanged (record : PendingPromptTaskRecord) (rows : List PendingPromptTaskRecord) :
    Except ApiError Unit :=
  match rows.find? (RecoveryRow.identity · = RecoveryRow.identity record) with
  | none => .error (.localState "原提示词身份已变化")
  | some current => rejectIf (current ≠ record) (.localState "原提示词记录已变化，未重新绑定")

def requireUnchanged (worker : PromptWorker) (record : PendingPromptTaskRecord) : Fallible Unit :=
  .mk (.read fun answers world => do
    let rows ← (loadPendingPromptTasks answers.readable worker.authority world.file).mapError
      transitionFailure
    checkUnchanged record rows)

/-- The server is asked about a record of an earlier login; a record that was replayed gets its
task. -/
def acceptedTask (worker : PromptWorker) (record : PendingPromptTaskRecord) :
    Fallible (Option String) := do
  .mk (pure (rejectIf (record.serverTaskId = "" ∧ !replaysRecord record)
    (.localState "原任务身份无法安全核验，记录已保留")))
  let detail ← replayOrQuery worker record
  worker.ensure
  .mk (pure (checkDetail record detail "原服务端任务编号不匹配"))
  pure (if record.serverTaskId = "" then some detail.id else none)

/-- What lets a record of an earlier login into this one: its references are unchanged, or the
server knows its task. -/
def verifiedTask (worker : PromptWorker) (record : PendingPromptTaskRecord) :
    Fallible (Option String) :=
  if promptUnsentPartial record then do
    verifyPromptReferences worker record record.uploadedFileIds.length
      (record.referencePaths.length - record.uploadedFileIds.length)
    pure none
  else acceptedTask worker record

def revalidatePromptEpoch (worker : PromptWorker) (record : PendingPromptTaskRecord) :
    Fallible PendingPromptTaskRecord := do
  if record.authEpoch = worker.session.authEpoch then pure record else do
  worker.ensure
  requireUnchanged worker record
  let accepted ← verifiedTask worker record
  worker.ensure
  let record ← rebindPrompt worker record "原任务身份无法重新绑定，记录已保留"
  match accepted with
  | some id => nameTask worker record id
  | none => pure record

inductive PromptTaskOutcome where
  | ready (record : PendingPromptTaskRecord)
  | settled (record : PendingPromptTaskRecord)

def releaseReferences (worker : PromptWorker) (record : PendingPromptTaskRecord) :
    Fallible PendingPromptTaskRecord :=
  if record.uploadedFileIds = [] then pure record else do
  if ← cleanupPromptReferences worker record.uploadedFileIds then do
    worker.ensure
    requirePromptPatch worker record (.uploadedFileIds [])
    pure { record with uploadedFileIds := [] }
  else pure record

def removeSettled (worker : PromptWorker) (record : PendingPromptTaskRecord) : Fallible Unit :=
  if record.uploadedFileIds = [] then do
    worker.ensure
    requireUpdate worker.authority (.remove (RecoveryRow.identity record))
      "已保存结果的清理尚未确认，原始记录已保留"
  else pure ()

def finishPromptTerminal (worker : PromptWorker) (record : PendingPromptTaskRecord) :
    Fallible PromptTaskOutcome := do
  worker.ensure
  let record ← releaseReferences worker record
  if record.resultCommitted then do
    removeSettled worker record
    pure (.settled record)
  else pure (.ready record)

/-- One look at the task after a cancellation was sent: whether it is at its end. -/
def confirmOnce (record : PendingPromptTaskRecord) (cancellation : Except ApiError Unit) :
    Fallible Bool := do
  ensureScope
  .mk (pure (match cancellation with
    | .ok () => .ok ()
    | .error error => rejectIf (promptTaskApiErrorRequiresLogin error ||
        error.isClientUpdateRequired) error))
  match ← attempt (taskScoped record) with
  | .ok detail => do
    ensureScope
    .mk (pure (requireSavedGroup record.billingAccountGroupId detail.billingAccountGroupId))
    .mk (pure (rejectIf (detail.id ≠ record.serverTaskId)
      (.localState "原服务端任务编号不匹配，取消记录已保留")))
    if detail.terminal then pure true else do
    .mk (pure (match cancellation with
      | .ok () => .ok ()
      | .error error => rejectIf (!promptTaskApiErrorIsTransient error &&
          !(error matches .http 409 _ _)) error))
    pure false
  | .error error => do
    .mk (pure (rejectIf (!(promptTaskApiErrorIsTransient error &&
      !promptTaskApiErrorRequiresLogin error && !error.isClientUpdateRequired)) error))
    pure false

def cancelAgain (worker : PromptWorker) (cancellation : Except ApiError Unit) :
    Fallible (Except ApiError Unit) := do
  if ← worker.wait then
    match cancellation with
    | .error error =>
      if promptTaskApiErrorIsTransient error then attempt cancelScoped else pure cancellation
    | .ok () => pure cancellation
  else do
    worker.ensure
    throw .authenticationRequired

def confirmAttempts (worker : PromptWorker) (record : PendingPromptTaskRecord) :
    Nat → Except ApiError Unit → Fallible Unit
  | 0, _ => throw (.localState "服务端取消尚未确认，任务记录已保留")
  | left + 1, cancellation => do
    let ended ← confirmOnce record cancellation
    if ended then pure () else
    if left = 0 then throw (.localState "服务端取消尚未确认，任务记录已保留") else do
    let cancellation ← cancelAgain worker cancellation
    confirmAttempts worker record left cancellation

def confirmPromptCancellation (worker : PromptWorker) (record : PendingPromptTaskRecord) :
    Fallible Unit := do
  let cancellation ← attempt cancelScoped
  confirmAttempts worker record 6 cancellation

/-- A task that may be on the server is ended there. -/
def endTask (worker : PromptWorker) (record : PendingPromptTaskRecord) : Fallible Unit := do
  ensureScope
  let detail ← replayOrQuery worker record
  ensureScope
  .mk (pure (checkDetail record detail "原服务端任务编号不匹配，取消记录已保留"))
  let record ← nameTask worker record detail.id
  if detail.terminal then pure () else confirmPromptCancellation worker record

def endSent (worker : PromptWorker) (record : PendingPromptTaskRecord) : Fallible Unit :=
  if record.serverTaskId ≠ "" ∨ record.submissionStarted then endTask worker record else pure ()

def cancelPromptRecord (worker : PromptWorker) (record : PendingPromptTaskRecord) :
    Fallible Unit := do
  ensureScope
  .mk (pure (rejectIf (record.ownerUserId ≠ worker.session.ownerUserId ∨
    !validPendingPromptTask record) (.localState "原提示词任务无法核验，取消记录已保留")))
  let record ← rebindPrompt worker record "原提示词身份已变化，取消记录已保留"
  requirePromptPatch worker record .requestCancellation
  endSent worker record
  let cleaned ← cleanupPromptReferences worker record.uploadedFileIds
  .mk (pure (rejectIf (!cleaned) (.localState "取消后的参考图清理尚未确认，任务记录已保留")))
  ensureScope
  requireUpdate worker.authority (.remove (RecoveryRow.identity record))
    "原提示词记录已变化，取消记录已保留"

/-- The loops end with their rounds as they do when the session ends. -/
def uploadReference (worker : PromptWorker) : Nat → Fallible String
  | 0 => throw .authenticationRequired
  | rounds + 1 => do
    worker.ensure
    match ← attempt (.mk (.read fun answers _ => answers.upload)) with
    | .ok fileId => pure fileId
    | .error error =>
      if promptTaskApiErrorIsTransient error then do
        worker.waitOrStop
        uploadReference worker rounds
      else throw error

def uploadReferences (worker : PromptWorker) (rounds : Nat) :
    Nat → PendingPromptTaskRecord → Fallible PendingPromptTaskRecord
  | 0, record => pure record
  | missing + 1, record => do
    worker.ensure
    let fileId ← uploadReference worker rounds
    ensureScope
    let uploaded := record.uploadedFileIds ++ [fileId]
    requirePromptPatch worker record (.uploadedFileIds uploaded)
    worker.ensure
    uploadReferences worker rounds missing { record with uploadedFileIds := uploaded }

/-- The first submission goes to the captured billing scope, every later one is a replay. -/
def submit (worker : PromptWorker) (billing : Option BillingScope)
    (record : PendingPromptTaskRecord) : Fallible (Except ApiError PromptTaskDetail) := do
  requirePromptPatch worker record .beginSubmission
  worker.ensure
  match billing with
  | some scope => attempt (createTaskBilling record scope)
  | none => do
    let request ← savedReplay worker record.clientRequestId
    attempt (replaySaved worker request)

def promptTerminalFailureMessage (code : Option String) : String :=
  match code with
  | some "INSUFFICIENT_BALANCE" | some "provider_credentials_unavailable"
  | some "provider_disabled" => "提示词优化服务暂时不可用，请稍后重试；原始提示词已保留"
  | _ => "服务端提示词任务未完成，原始记录已保留"

def fail (worker : PromptWorker) (record : PendingPromptTaskRecord) (message : String) :
    Fallible PendingPromptTaskRecord := do
  requirePromptPatch worker record (.terminalError message)
  pure { record with terminalError := message }

def recordTerminal (worker : PromptWorker) (record : PendingPromptTaskRecord)
    (detail : PromptTaskDetail) : Fallible PendingPromptTaskRecord :=
  if ["completed", "partially_completed"].contains detail.status then
    match detail.resultPrompt.filter (!trimIsEmpty ·) with
    | some result => do
      requirePromptPatch worker record (.resultPrompt result)
      pure { record with resultPrompt := result }
    | none => fail worker record "服务端已结束但未返回可用提示词，原始记录已保留"
  else fail worker record (promptTerminalFailureMessage detail.failureCode)

/-- The next answer of the server, with the record that it was asked about. -/
def askServer (worker : PromptWorker) (billing : Option BillingScope)
    (record : PendingPromptTaskRecord) :
    Fallible (PendingPromptTaskRecord × Except ApiError PromptTaskDetail) :=
  if record.serverTaskId = "" then do
    let result ← submit worker billing record
    pure ({ record with submissionStarted := true }, result)
  else do
    let result ← attempt (taskScoped record)
    pure (record, result)

/-- The task of an answer belongs to the record, which moves to the session with it. -/
def acceptTask (worker : PromptWorker) (record : PendingPromptTaskRecord) (id : String) :
    Fallible PendingPromptTaskRecord := do
  let record ← rebindPrompt worker record "提示词原始身份已变化，记录已保留"
  nameTask worker record id

def followTask (worker : PromptWorker) :
    Nat → Option BillingScope → PendingPromptTaskRecord → Fallible PromptTaskOutcome
  | 0, _, _ => throw .authenticationRequired
  | rounds + 1, billing, record => do
    worker.ensure
    let billing' := if record.serverTaskId = "" then none else billing
    let (record, result) ← askServer worker billing record
    match result with
    | .error error =>
      if promptTaskApiErrorIsTransient error then do
        worker.waitOrStop
        followTask worker rounds billing' record
      else throw error
    | .ok detail => do
      ensureScope
      .mk (pure (checkDetail record detail "服务端提示词编号不匹配，原始任务已保留"))
      let record ← acceptTask worker record detail.id
      worker.ensure
      if detail.terminal then do
        let record ← recordTerminal worker record detail
        finishPromptTerminal worker record
      else do
        worker.waitOrStop
        followTask worker rounds billing' record

def runPromptRecord (worker : PromptWorker) (rounds : Nat) (billing : Option BillingScope)
    (record : PendingPromptTaskRecord) : Fallible PromptTaskOutcome := do
  worker.ensure
  .mk (pure (rejectIf (record.ownerUserId ≠ worker.session.ownerUserId ∨
    !validPendingPromptTask record) (.localState "提示词原始记录无效，已保留")))
  if record.cancelRequested then do
    cancelPromptRecord worker record
    throw promptTaskCancelledError
  else do
  let record ← revalidatePromptEpoch worker record
  worker.ensure
  if promptTaskCompletedUnclaimed record then finishPromptTerminal worker record else do
  let record ← uploadReferences worker rounds
    (record.referencePaths.length - record.uploadedFileIds.length) record
  followTask worker rounds billing record

def fingerprints (worker : PromptWorker) : List String → Fallible (List (String × Nat))
  | [] => pure []
  | _ :: rest => do
    worker.ensure
    let source ← readSource "参考图尚未导入原账号，未创建提示词请求"
    let sources ← fingerprints worker rest
    pure (source :: sources)

/-- The work of a new record: its row is stored before its run. -/
def runNewPrompt (worker : PromptWorker) (rounds : Nat) (billing : BillingScope)
    (record : PendingPromptTaskRecord) : Fallible PromptTaskOutcome := do
  let sources ← fingerprints worker record.referencePaths
  let record := { record with
    referenceSha256 := sources.map (·.1)
    referenceSizeBytes := sources.map (·.2) }
  worker.ensure
  requireUpdate worker.authority (.upsert billing record) ""
  runPromptRecord worker rounds (some billing) record

/-- The work of `finish_prompt_cancellation`. -/
def runCancellation (worker : PromptWorker) (expected : PendingPromptTaskRecord) :
    Fallible Unit := do
  let found ← .mk (.read fun answers world => do
    let rows ← (loadPendingPromptTasks answers.readable worker.authority world.file).mapError
      transitionFailure
    pure (rows.find? fun row => row.clientRequestId = expected.clientRequestId &&
      row.ownerUserId = expected.ownerUserId &&
      row.billingAccountGroupId = expected.billingAccountGroupId))
  match found with
  | some record => cancelPromptRecord worker record
  | none => pure ()

end ArtForgeStudio.PromptTasks
