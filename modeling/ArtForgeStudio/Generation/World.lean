import ArtForgeStudio.Recovery.Replay
import ArtForgeStudio.Recovery.Runs
import ArtForgeStudio.Library.Concurrency

/-! # The world of the submission workers

The workers share one recovery document, the set of cancellations in memory and the results
of recovery scans. The histories beside them are read by no worker: what was sent and
received by whom, and why a record may go.
-/

namespace ArtForgeStudio.Generation

open ArtForgeStudio.Api ArtForgeStudio.Recovery ArtForgeStudio.KeyedRows ArtForgeStudio.Concurrency

structure GenerationTaskItem where
  index : Nat
  status : String
  fileId : String
  sha256 : String
  sizeBytes : Nat
  deriving DecidableEq

structure GenerationTaskDetail where
  id : String
  billingAccountGroupId : String
  status : String
  successCount : Int
  items : List GenerationTaskItem := []
  deriving DecidableEq

namespace GenerationTaskDetail

def terminal (detail : GenerationTaskDetail) : Bool :=
  ["completed", "partially_completed", "failed", "cancelled"].contains detail.status

/-- `status == "cancelled" && success_count == 0` -/
def cancelledEmpty (detail : GenerationTaskDetail) : Bool :=
  detail.status = "cancelled" && detail.successCount = 0

end GenerationTaskDetail

inductive Reply where
  | network (message : String) (timeout : Bool)
  | malformed (message : String)
  | http (status : Nat) (code : String) (message : String)
  | accepted (detail : GenerationTaskDetail)
  deriving DecidableEq

namespace Reply

def result : Reply → Except ApiError GenerationTaskDetail
  | network message timeout => .error (.network message timeout)
  | malformed message => .error (.protocol message)
  | http status code message => .error (.http status code message)
  | accepted detail => .ok detail

/-- The server refused the creation. An upgrade answer and the lock of an identical request
refuse nothing, and neither does a failure of the server itself. -/
def refuses : Reply → Bool
  | http status code message =>
    (ApiError.http status code message).isBillingRejection ||
      (status < 500 && !(status == 408 || status == 425 || status == 429) &&
        !(status == 426 && code == "client_upgrade_required") &&
        !(status == 409 && code == "request_in_progress"))
  | _ => false

end Reply

structure Creation where
  key : String
  path : String
  payer : String
  body : Json

/-- What one action is told from outside; an action reads the members it asks for. -/
structure Answers where
  /-- `begin_user_work` admits and `backend_generation_scope_active` holds -/
  active : Bool
  matching : Bool
  readable : Bool
  storage : StorageAnswers
  upload : Except ApiError String
  /-- an access token is there or its refresh succeeds -/
  token : Except ApiError Unit
  post : Creation → Except ApiError Unit
  reply : Creation → Reply
  query : String → Except ApiError GenerationTaskDetail
  command : Except ApiError Unit
  /-- the receiver of outcomes is there and no cooperative stop was asked for -/
  listening : Bool

structure Receipt where
  thread : Nat
  key : String
  taskId : String
  deriving DecidableEq

/-- Why a row may go although a request with its key was sent. -/
inductive Release where
  | refused (reply : Reply)
  | cancelled (detail : GenerationTaskDetail)
  | complete (row : PendingGenerationRecord)

structure World where
  file : GenerationFile
  /-- `cancelled_generation_requests` -/
  cancelled : List String := []
  /-- the records that finished scans handed to the user interface -/
  recovered : List PendingGenerationRecord := []
  /-- every key a row was ever stored under -/
  inserted : List String := []
  /-- the creations that stored rows determined -/
  determined : List Creation := []
  sent : List Creation := []
  senders : List (Nat × String) := []
  received : List Receipt := []
  replies : List (String × Reply) := []
  released : List (String × Release) := []
  /-- the receivers whose own local write failed -/
  unrecorded : List (Nat × String) := []
  /-- the threads that still polled when their number of polls was used up -/
  polling : List Nat := []

/-- What a row asks the server for, if it determines its request. -/
def rowRequest (row : PendingGenerationRecord) : Option Creation :=
  match savedGenerationCreatePath row, savedGenerationCreateBody row with
  | .ok path, .ok body => some ⟨row.clientRequestId, path, row.billingAccountGroupId, body⟩
  | _, _ => none

namespace World

variable (world : World)

def row (key : String) : Option PendingGenerationRecord := generationTable.lookup world.file key

def release (key : String) (release : Release) : World :=
  { world with released := (key, release) :: world.released }

def noteReply (replay : Bool) (key : String) (reply : Reply) : World :=
  if replay then world else { world with replies := (key, reply) :: world.replies }

def isNamed (key taskId : String) : Bool :=
  world.received.any fun receipt => receipt.key = key && receipt.taskId = taskId

/-- The request of a row that waits for its task. -/
def waitingRequest (row : Option PendingGenerationRecord) : Option Creation :=
  (row.filter (·.serverTaskId = "")).bind rowRequest

/-- The completed row that an operation dropped. -/
def dropped (authority : NamespaceStorageAuthority) (op : GenerationOperation)
    (before after : Option PendingGenerationRecord) : Option PendingGenerationRecord :=
  match before, after with
  | some row, none =>
    match op.fieldUpdate authority row with
    | .ok (some updated) => if generationRecordComplete updated then some updated else none
    | _ => none
  | _, _ => none

def operated (answers : StorageAnswers) (authority : NamespaceStorageAuthority)
    (op : GenerationOperation) : World :=
  let file := (op.run answers authority world.file).2
  let after := generationTable.lookup file op.key
  { world with
    file := file
    determined := (waitingRequest after).toList ++ world.determined
    released := ((dropped authority op (world.row op.key) after).map
      fun row => (op.key, Release.complete row)).toList ++ world.released }

/-- A thread wrote an id that it received: a failed write excuses it. -/
def settle (thread : Nat) (key : String) : Except Failure Bool → World
  | .error _ => { world with unrecorded := (thread, key) :: world.unrecorded }
  | .ok _ => world

end World

inductive Act where
  | scopeActive
  | cancelRequested (key : String)
  | operate (op : GenerationOperation)
  | query (taskId : String)
  | send (creation : Creation)
  | reply (creation : Creation)
  | other

instance : Inhabited Act := ⟨.other⟩

abbrev Action := Program Act World Answers

def backendGenerationScopeActive : Action Bool :=
  .labelled .scopeActive fun answers world => (answers.active, world)

def generationReferencesMatch : Action Bool := .read fun answers _ => answers.matching

def listening : Action Bool := .read fun answers _ => answers.listening

def generationCancelRequested (key : String) : Action Bool :=
  .labelled (.cancelRequested key) fun _ world => (world.cancelled.contains key, world)

def loadRow (authority : NamespaceStorageAuthority) (key : String) :
    Action (Option PendingGenerationRecord) :=
  .read fun answers world =>
    match loadPendingGenerations answers.readable authority world.file with
    | .ok rows => rows.find? (clientRequestId · = key)
    | .error _ => none

def operate (authority : NamespaceStorageAuthority) (op : GenerationOperation) :
    Action (Except Failure Bool) :=
  .labelled (.operate op) fun answers world => ((op.run answers.storage authority world.file).1,
    world.operated answers.storage authority op)

def applyGenerationPatch (authority : NamespaceStorageAuthority)
    (identity : RecoveryRecordIdentity) (patch : GenerationRecoveryPatch) :=
  operate authority (.patch identity patch)

def removePendingGeneration (authority : NamespaceStorageAuthority)
    (identity : RecoveryRecordIdentity) := operate authority (.remove identity)

/-- A write after which an accepted id is recorded or lost. -/
def operateReceived (thread : Nat) (authority : NamespaceStorageAuthority)
    (op : GenerationOperation) : Action (Except Failure Bool) :=
  .labelled (.operate op) fun answers world =>
    let result := (op.run answers.storage authority world.file).1
    (result, (world.operated answers.storage authority op).settle thread op.key result)

def uploadReference : Action (Except ApiError String) := .read fun answers _ => answers.upload

def command : Action (Except ApiError Unit) := .read fun answers _ => answers.command

def checkedSavedDetail (savedGroup : Option String) (detail : GenerationTaskDetail) :
    Except ApiError GenerationTaskDetail := do
  match savedGroup with
  | some group => requireSavedGroup group detail.billingAccountGroupId
  | none => pure ()
  pure detail

/-- `task_scoped` for a task of a key: the report that the task of the key is cancelled without
results lets its row go. -/
def taskScoped (key : String) (savedGroup : Option String) (taskId : String) :
    Action (Except ApiError GenerationTaskDetail) :=
  .labelled (.query taskId) fun answers world =>
    let result := (answers.query taskId).bind (checkedSavedDetail savedGroup)
    (result, match result with
      | .ok detail =>
        if detail.cancelledEmpty && world.isNamed key detail.id then
          world.release key (.cancelled detail)
        else world
      | .error _ => world)

def accessOrRefreshScope : Action (Except ApiError Unit) := .read fun answers _ => answers.token

/-- `send_once_scope` up to the wire. -/
def sendOnceScope (thread : Nat) (creation : Creation) : Action (Except ApiError Unit) :=
  .labelled (.send creation) fun answers world =>
    match answers.post creation with
    | .error error => (.error error, world)
    | .ok () => (.ok (), { world with
        sent := creation :: world.sent
        senders := (thread, creation.key) :: world.senders })

/-- The reply; an id counts as received when it is for the payer of the request. -/
def receiveReply (thread : Nat) (replay : Bool) (creation : Creation) : Action Reply :=
  .labelled (.reply creation) fun answers world =>
    let reply := answers.reply creation
    let noted := world.noteReply replay creation.key reply
    (reply, match reply with
      | .accepted detail =>
        if requireSavedGroup creation.payer detail.billingAccountGroupId = .ok () then
          { noted with received := ⟨thread, creation.key, detail.id⟩ :: noted.received }
        else noted
      | _ => noted)

/-- The creation ends with an error; the last reply to the first submitter decides whether the
server refused it. -/
def endCreation (replay : Bool) (key : String) (last : Option Reply) (error : ApiError) :
    Action (Except ApiError GenerationTaskDetail) :=
  .atomic fun _ world => (.error error,
    match last.filter (·.refuses) with
    | some reply => if replay then world else world.release key (.refused reply)
    | none => world)

/-- `authenticated_json_with_scope` for a creation: a rejected access token is refreshed and
the request sent once more. -/
def authenticatedJsonWithScope (thread : Nat) (replay : Bool) (creation : Creation) :
    Action (Except ApiError GenerationTaskDetail) := do
  match ← accessOrRefreshScope with
  | .error error => endCreation replay creation.key none error
  | .ok () =>
  match ← sendOnceScope thread creation with
  | .error error => endCreation replay creation.key none error
  | .ok () =>
  let first ← receiveReply thread replay creation
  match first.result with
  | .ok detail => pure (.ok detail)
  | .error error =>
  if !error.isAccessTokenRejected then endCreation replay creation.key (some first) error else
  match ← accessOrRefreshScope with
  | .error error => endCreation replay creation.key (some first) error
  | .ok () =>
  match ← sendOnceScope thread creation with
  | .error error => endCreation replay creation.key (some first) error
  | .ok () =>
  let second ← receiveReply thread replay creation
  match second.result with
  | .ok detail => pure (.ok detail)
  | .error error => endCreation replay creation.key (some second) error

def createTaskBodyBilling (thread : Nat) (savedGroup : Option String) (scope : BillingScope)
    (key : String) (body : Json) : Action (Except ApiError GenerationTaskDetail) := do
  let result ← authenticatedJsonWithScope thread false
    ⟨key, "/v1/generation/tasks", scope.accountGroupId, body⟩
  pure do
    let detail ← result.mapError (·.withBillingPayer scope.accountGroupId)
    requireSavedGroup scope.accountGroupId detail.billingAccountGroupId
    checkedSavedDetail savedGroup detail

end ArtForgeStudio.Generation
