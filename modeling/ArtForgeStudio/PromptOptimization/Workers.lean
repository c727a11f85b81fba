import ArtForgeStudio.Payment.Workers

/-! # Deep prompt optimization

One worker at a time asks the server for deep optimizations and follows their jobs. A request that
has no job id yet is asked again as its row says before anything else is asked for. Rows are never
removed; beside the worker the window closes rows, and other tasks write theirs into the document.
-/

namespace ArtForgeStudio.PromptOptimization

open ArtForgeStudio.Api ArtForgeStudio.Recovery ArtForgeStudio.KeyedRows ArtForgeStudio.Concurrency
  ArtForgeStudio.Outcome
open ArtForgeStudio.Payment (transitionFailure)

structure PromptOptimizationDetail where
  id : String
  billingAccountGroupId : String

structure DeepRequest where
  key : String
  payer : String
  path : String
  body : Json

/-- What a row asks the server for, whether or not it has a job. -/
def deepRequest (row : PendingPromptOptimizationRecord) : Option DeepRequest :=
  match savedDeepRequest { row with serverJobId := "" } with
  | .ok (path, body) => some ⟨row.clientRequestId, row.billingAccountGroupId, path, body⟩
  | .error _ => none

/-- A request, and the document when it was sent. -/
structure Sent where
  request : DeepRequest
  document : PromptFile

/-- What one action is told from outside; an action reads the members it asks for. -/
structure Answers where
  /-- the user is not quiescing and the session is current -/
  active : Bool
  /-- `is_current` of the billing scope -/
  current : Bool
  readable : Bool
  storage : StorageAnswers
  /-- `begin_user_work` -/
  admission : Except ApiError Unit
  /-- an access token is there, or the server answers to its refresh -/
  token : Except ApiError Unit
  post : Except ApiError Unit
  reply : Except ApiError PromptOptimizationDetail
  /-- the answer for a job that is there -/
  job : Except ApiError PromptOptimizationDetail

structure UserAuthority (user : String) extends NamespaceStorageAuthority where
  owner : userPublicId = user

theorem run_valid {user : String} (authority : UserAuthority user) {answers : StorageAnswers}
    {op : DeepOperation} {stored : PromptFile}
    (h : ValidFor user (stored.getD RecoveryEnvelope.empty)) :
    ValidFor user ((op.run answers authority.toNamespaceStorageAuthority stored).2.getD
      RecoveryEnvelope.empty) := by
  obtain ⟨authority, rfl⟩ := authority
  exact (op.tableResult answers authority stored).valid h

theorem prompt_run_valid {user : String} (authority : UserAuthority user) {answers : StorageAnswers}
    {op : PromptOperation} {stored : PromptFile}
    (h : ValidFor user (stored.getD RecoveryEnvelope.empty)) :
    ValidFor user ((op.run answers authority.toNamespaceStorageAuthority stored).2.getD
      RecoveryEnvelope.empty) := by
  obtain ⟨authority, rfl⟩ := authority
  exact (op.tableResult answers authority stored).valid h

/-- The document of a user, and the histories that no worker reads. -/
structure World (user : String) where
  file : PromptFile
  valid : ValidFor user (file.getD RecoveryEnvelope.empty)
  sent : List Sent := []
  /-- the jobs that the server named, under the keys of the requests that it answered -/
  answered : List (String × String) := []
  accepted : List String := []

variable {user : String}

namespace World

def row (world : World user) (key : String) : Option PendingPromptOptimizationRecord :=
  deepTable.lookup world.file key

def operated (world : World user) (answers : StorageAnswers) (authority : UserAuthority user)
    (op : DeepOperation) : World user :=
  { world with
    file := (op.run answers authority.toNamespaceStorageAuthority world.file).2
    valid := run_valid authority world.valid }

/-- The world after a task of another kind wrote its row. -/
def besides (world : World user) (answers : StorageAnswers) (authority : UserAuthority user)
    (op : PromptOperation) : World user :=
  { world with
    file := (op.run answers authority.toNamespaceStorageAuthority world.file).2
    valid := prompt_run_valid authority world.valid }

def send (world : World user) (request : DeepRequest) : World user :=
  { world with sent := ⟨request, world.file⟩ :: world.sent }

def answers (world : World user) (key : String) :
    Except ApiError PromptOptimizationDetail → World user
  | .ok detail => { world with answered := (key, detail.id) :: world.answered }
  | .error _ => world

def accept (world : World user) (id : String) : World user :=
  { world with accepted := id :: world.accepted }

end World

abbrev Action (user : String) := Program Unit (World user) Answers

/-- Actions that may fail; `?` of the source is their sequence. -/
abbrev Fallible (user : String) := ExceptT ApiError (Action user)

def ensureActive : Fallible user Unit :=
  .mk (.read fun answers _ => if answers.active then .ok () else .error .authenticationRequired)

def ensureCurrent : Fallible user Unit :=
  .mk (.read fun answers _ => if answers.current then .ok () else .error .authenticationRequired)

def beginUserWork : Fallible user Unit := .mk (.read fun answers _ => answers.admission)

def operate (authority : UserAuthority user) (op : DeepOperation) :
    Action user (Except Failure Bool) :=
  .atomic fun answers world =>
    ((op.run answers.storage authority.toNamespaceStorageAuthority world.file).1,
      world.operated answers.storage authority op)

/-- An operation that must find its row. -/
def requireUpdate (authority : UserAuthority user) (op : DeepOperation) (missing : String) :
    Fallible user Unit :=
  .mk do
    match ← operate authority op with
    | .ok true => pure (.ok ())
    | .ok false => pure (.error (transitionError missing))
    | .error failure => pure (.error (transitionFailure failure))

def loadRows (authority : UserAuthority user) :
    Fallible user (List PendingPromptOptimizationRecord) :=
  .mk (.read fun answers world => (loadPendingPromptOptimizations answers.readable
    authority.toNamespaceStorageAuthority world.file).mapError transitionFailure)

/-- The request that is not resolved yet. -/
def findUnresolved (authority : UserAuthority user) :
    Fallible user (Option PendingPromptOptimizationRecord) := do
  let rows ← loadRows authority
  pure (rows.find? (·.serverJobId = ""))

def deepRecordForJob (readable : Bool) (authority : NamespaceStorageAuthority) (id : String)
    (stored : PromptFile) : Except ApiError PendingPromptOptimizationRecord := do
  let records ← (loadPendingPromptOptimizations readable authority stored).mapError transitionFailure
  match records.filter (·.serverJobId = id) with
  | [] => .error (transitionError "任务缺少已保存的付款账号，原记录已保留")
  | [row] => .ok row
  | _ => .error (transitionError "任务恢复记录不唯一，未发送请求")

def readRecordForJob (authority : UserAuthority user) (id : String) :
    Fallible user PendingPromptOptimizationRecord :=
  .mk (.read fun answers world =>
    deepRecordForJob answers.readable authority.toNamespaceStorageAuthority id world.file)

/-- `access_or_refresh_scope` and `refresh_scope` -/
def accessOrRefresh : Fallible user Unit := .mk (.read fun answers _ => answers.token)

def post (request : DeepRequest) : Fallible user Unit :=
  .mk (.atomic fun answers world => (answers.post,
    match answers.post with
    | .ok () => world.send request
    | .error _ => world))

def receive (key : String) : Fallible user PromptOptimizationDetail :=
  .mk (.atomic fun answers world => (answers.reply, world.answers key answers.reply))

def sendOnce (request : DeepRequest) : Fallible user PromptOptimizationDetail := do
  post request
  receive request.key

/-- `authenticated_json_with_scope`: a rejected access token is refreshed and the request sent
once more. -/
def authenticatedJsonWithScope (request : DeepRequest) : Fallible user PromptOptimizationDetail := do
  accessOrRefresh
  tryCatchThe ApiError (sendOnce request) fun error =>
    if error.isAccessTokenRejected then do
      accessOrRefresh
      sendOnce request
    else throw error

/-- `billing_json_scoped` -/
def billingJson (request : DeepRequest) : Fallible user PromptOptimizationDetail :=
  tryCatchThe ApiError (authenticatedJsonWithScope request) fun error =>
    throw (error.withBillingPayer request.payer)

def createBilling (request : CreatePromptOptimization) (scope : BillingScope) :
    Fallible user PromptOptimizationDetail :=
  billingJson ⟨request.clientRequestId, scope.accountGroupId, "/v1/prompt-optimizations",
    request.toValue⟩

def retryBilling (sourceJobId key : String) (scope : BillingScope) :
    Fallible user PromptOptimizationDetail :=
  billingJson ⟨key, scope.accountGroupId, "/v1/prompt-optimizations/" ++ sourceJobId ++ "/retry",
    .obj [("client_request_id", .str key)]⟩

/-- `get_scoped` and the actions on a job that is there -/
def askJob : Fallible user PromptOptimizationDetail := .mk (.read fun answers _ => answers.job)

/-- `replay_saved` of the request that the row under the key determines. -/
def replaySaved (authority : UserAuthority user) (session : SessionScope) (key : String) :
    Fallible user PromptOptimizationDetail := do
  let request ← .mk (.read fun answers world =>
    (SavedReplayRequest.deep answers.readable authority.toNamespaceStorageAuthority session key
      world.file).mapError transitionFailure)
  beginUserWork
  .mk (.read fun answers world =>
    (request.verify (loadPendingPromptOptimizations answers.readable
      authority.toNamespaceStorageAuthority world.file)).mapError transitionFailure)
  billingJson ⟨request.key, request.payer, request.path, request.body⟩

def checkDeepDetail (record : PendingPromptOptimizationRecord) (detail : PromptOptimizationDetail) :
    Except ApiError Unit := do
  requireSavedGroup record.billingAccountGroupId detail.billingAccountGroupId
  rejectIf (!canonicalUuid detail.id) (transitionError "服务端任务标识无效，恢复记录已保留")
  rejectIf (record.serverJobId ≠ "" ∧ record.serverJobId ≠ detail.id)
    (transitionError "服务端返回了不同的任务，恢复记录已保留")
  rejectIf (record.operation = .retry detail.id ∧ record.serverJobId = "")
    (transitionError "重试未返回新的任务标识，原任务已保留")

/-- The row of a record moves to the session. -/
def rebindDeep (authority : UserAuthority user) (session : SessionScope)
    (record : PendingPromptOptimizationRecord) : Fallible user PendingPromptOptimizationRecord :=
  if record.authEpoch ≠ session.authEpoch then do
    requireUpdate authority (.rebind (RecoveryRow.identity record) session.authEpoch) "任务恢复记录已变化"
    pure (RecoveryRow.setAuthEpoch session.authEpoch record)
  else pure record

/-- The row of a record that has no job id gets it. -/
def nameJob (authority : UserAuthority user) (record : PendingPromptOptimizationRecord)
    (id : String) : Fallible user Unit :=
  if record.serverJobId = "" then
    requireUpdate authority (.jobId (RecoveryRow.identity record) id)
      "任务已接收，但本地确认未完成；请按原请求恢复"
  else pure ()

def acceptDeepDetail (authority : UserAuthority user) (session : SessionScope)
    (record : PendingPromptOptimizationRecord) (detail : PromptOptimizationDetail) :
    Fallible user PromptOptimizationDetail := do
  .mk (pure (checkDeepDetail record detail))
  let record ← rebindDeep authority session record
  nameJob authority record detail.id
  .mk (.atomic fun _ world => (.ok detail, world.accept detail.id))

/-- Replayed while it has no job. -/
def currentDetail (authority : UserAuthority user) (session : SessionScope)
    (record : PendingPromptOptimizationRecord) : Fallible user PromptOptimizationDetail :=
  if record.serverJobId = "" then replaySaved authority session record.clientRequestId else askJob

def replayOrGetDeep (authority : UserAuthority user) (session : SessionScope)
    (record : PendingPromptOptimizationRecord) : Fallible user PromptOptimizationDetail := do
  beginUserWork
  let detail ← currentDetail authority session record
  acceptDeepDetail authority session record detail

/-- The row of a new request. -/
def newDeepRecord (billing : BillingScope) (operation : PendingPromptOptimizationOperation)
    (key : String) : PendingPromptOptimizationRecord where
  schemaVersion := 2
  clientRequestId := key
  ownerUserId := billing.session.ownerUserId
  billingAccountGroupId := billing.accountGroupId
  authEpoch := billing.session.authEpoch
  serverJobId := ""
  operation := operation
  presentationDismissed := false

def submitDeep (billing : BillingScope) (operation : PendingPromptOptimizationOperation)
    (key : String) : Fallible user PromptOptimizationDetail :=
  match operation with
  | .create request => createBilling request billing
  | .retry sourceJobId => retryBilling sourceJobId key billing

def checkSource (authority : UserAuthority user) (operation : PendingPromptOptimizationOperation) :
    Fallible user Unit :=
  match operation with
  | .create _ => pure ()
  | .retry sourceJobId => do
    let _ ← readRecordForJob authority sourceJobId
    pure ()

/-- The row is stored before the request is sent. -/
def storeAndSubmit (authority : UserAuthority user) (billing : BillingScope)
    (operation : PendingPromptOptimizationOperation) (key : String) :
    Fallible user PromptOptimizationDetail := do
  checkSource authority operation
  ensureCurrent
  let record := newDeepRecord billing operation key
  requireUpdate authority (.upsert billing record) ""
  ensureCurrent
  ensureActive
  beginUserWork
  let detail ← submitDeep billing operation key
  acceptDeepDetail authority billing.session record detail

/-- An unresolved request always wins. -/
def executeNewDeep (authority : UserAuthority user) (billing : BillingScope)
    (operation : PendingPromptOptimizationOperation) (key : String) :
    Fallible user PromptOptimizationDetail := do
  match ← findUnresolved authority with
  | some saved => replayOrGetDeep authority billing.session saved
  | none => storeAndSubmit authority billing operation key

/-- A worker of `spawn_deep_job`, with what was captured for it. -/
structure DeepWorker (user : String) where
  authority : UserAuthority user
  session : SessionScope

/-- The closure of `start_prompt_optimization` and `retry_prompt_optimization`. A refused billing
scope stops new work alone. -/
def startNewDeep (worker : DeepWorker user) (billing : Except ApiError BillingScope)
    (operation : PendingPromptOptimizationOperation) (key : String) :
    Fallible user (Option PromptOptimizationDetail) := do
  match ← findUnresolved worker.authority with
  | some saved => some <$> replayOrGetDeep worker.authority worker.session saved
  | none => do
    let scope ← .mk (pure billing)
    some <$> executeNewDeep worker.authority scope operation key

def startPromptOptimization (worker : DeepWorker user) (billing : Except ApiError BillingScope)
    (request : CreatePromptOptimization) : Fallible user (Option PromptOptimizationDetail) :=
  startNewDeep worker billing (.create request) request.clientRequestId

def retryPromptOptimization (worker : DeepWorker user) (billing : Except ApiError BillingScope)
    (sourceJobId key : String) : Fallible user (Option PromptOptimizationDetail) :=
  startNewDeep worker billing (.retry sourceJobId) key

/-- `run_prompt_request_scoped` -/
def runPromptRequest (worker : DeepWorker user) (id : String) :
    Fallible user (Option PromptOptimizationDetail) := do
  let saved ← readRecordForJob worker.authority id
  beginUserWork
  let detail ← askJob
  some <$> acceptDeepDetail worker.authority worker.session saved detail

/-- The row that the window shows again: the unresolved one, or the last that no retry follows. -/
def visibleDeepRecoveryRow (rows : List PendingPromptOptimizationRecord) :
    Option PendingPromptOptimizationRecord :=
  let ancestors := rows.filterMap fun row =>
    match row.operation with
    | .retry sourceJobId => some sourceJobId
    | .create _ => none
  let visible := rows.filter fun row => !row.presentationDismissed &&
    (row.serverJobId = "" || !ancestors.contains row.serverJobId)
  (visible.find? (·.serverJobId = "")).or visible.getLast?

def recoverPromptOptimization (worker : DeepWorker user) :
    Fallible user (Option PromptOptimizationDetail) := do
  let rows ← loadRows worker.authority
  match visibleDeepRecoveryRow rows with
  | some saved => some <$> replayOrGetDeep worker.authority worker.session saved
  | none => pure none

end ArtForgeStudio.PromptOptimization
