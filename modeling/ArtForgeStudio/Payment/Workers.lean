import ArtForgeStudio.Recovery.Replay
import ArtForgeStudio.Recovery.Safety
import ArtForgeStudio.Library.Parts

/-! # The payment workers

Three workers write the rows of one orders document around their requests: one creates an
order, one recovers a retained row, one follows an accepted order. A worker runs in a thread
that is registered under the key of its row; the window beside them only dismisses rows.
-/

namespace ArtForgeStudio.Payment

open ArtForgeStudio.Api ArtForgeStudio.Recovery ArtForgeStudio.KeyedRows ArtForgeStudio.Concurrency

structure OrderDetail where
  id : String
  billingAccountGroupId : String
  status : String
  fulfillmentStatus : String
  deriving DecidableEq

inductive PaymentOrderPhase where
  | pendingPayment
  | paidFulfilling
  | fulfilled
  | closed
  deriving DecidableEq

def paymentOrderPhase (order : OrderDetail) : PaymentOrderPhase :=
  if order.status = "paid" ∧ order.fulfillmentStatus = "fulfilled" then .fulfilled
  else if order.status = "closed" ∨ order.status = "expired" then .closed
  else if order.status = "paid" then .paidFulfilling
  else .pendingPayment

def OrderDetail.settled (order : OrderDetail) : Bool :=
  paymentOrderPhase order = .fulfilled || paymentOrderPhase order = .closed

/-- Only an explicit refusal of a new request lets its row go. -/
def paymentErrorPreservesOrderRecovery : ApiError → Bool
  | .http 400 code _ => !(code = "credit_pack_unavailable" || code = "membership_plan_unavailable")
  | _ => true

/-- Why a request did not leave the client. -/
inductive Unsent where
  | configuration (message : String)
  | network (message : String) (timeout : Bool)
  | upgradeRequired

def Unsent.error : Unsent → ApiError
  | configuration message => .configuration message
  | network message timeout => .network message timeout
  | upgradeRequired => .http 426 "client_upgrade_required" "当前客户端版本过旧，必须更新后继续使用"

inductive Reply where
  | network (message : String) (timeout : Bool)
  | malformed (message : String)
  | http (status : Nat) (code : String) (message : String)
  | order (detail : OrderDetail)

def Reply.result : Reply → Except ApiError OrderDetail
  | network message timeout => .error (.network message timeout)
  | malformed message => .error (.protocol message)
  | http status code message => .error (.http status code message)
  | order detail => .ok detail

/-- What one action is told from outside; an action reads the members it asks for. -/
structure Answers where
  /-- the worker is not cancelled, and its namespace and session are current -/
  active : Bool
  /-- the flag that the window sets when the user closes the payment -/
  dismissed : Bool
  readable : Bool
  storage : StorageAnswers
  /-- `begin_user_work` in front of a replay -/
  admission : Except ApiError Unit
  agreements : Except ApiError Unit
  quote : Except ApiError String
  /-- an access token is there, or the server answers to its refresh -/
  token : Except ApiError Unit
  post : Option Unsent
  reply : Reply
  /-- the server answers to a query or a sync of an accepted order -/
  order : Except ApiError OrderDetail

/-- A create-order request, with the product that it is to buy. -/
structure Creation where
  key : String
  payer : String
  product : String
  path : String
  body : Json

/-- An answer HTTP 400 that lets a row go: to the first creation of the key, or to a token
refresh within it. The order id is the one that the row had then. -/
structure Refusal where
  key : String
  orderId : String
  refresh : Bool
  deriving DecidableEq

/-- The document, and the histories that no worker reads. -/
structure World where
  file : OrderFile
  /-- every key a row was ever stored under -/
  stored : List String
  sent : List Creation := []
  /-- the orders that the server returned, under the keys they were asked for -/
  returned : List (String × OrderDetail) := []
  refused : List Refusal := []

/-- What a row asks the server for, whether or not it was accepted. -/
def orderCreation (row : PendingOrderRecord) : Option Creation :=
  match savedOrderRequest { row with orderId := "" } with
  | .ok (path, body) =>
    some ⟨row.clientRequestId, row.billingAccountGroupId, row.productCode, path, body⟩
  | .error _ => none

namespace World

variable (world : World)

def row (key : String) : Option PendingOrderRecord := orderTable.lookup world.file key

/-- The world after an operation on the document. -/
def operated (answers : StorageAnswers) (authority : NamespaceStorageAuthority)
    (op : OrderOperation) : World :=
  let file := (op.run answers authority world.file).2
  let key := op.identity.clientRequestId
  { world with
    file := file
    stored := if (orderTable.lookup file key).isSome then key :: world.stored else world.stored }

def returns (key : String) : Except ApiError OrderDetail → World
  | .ok detail => { world with returned := (key, detail) :: world.returned }
  | .error _ => world

/-- An error inside a creation; only in the first one it can let the row go. -/
def refuse (first : Bool) (key : String) (refresh : Bool) (error : ApiError) : World :=
  if first && !paymentErrorPreservesOrderRecovery error then
    { world with
      refused := ⟨key, ((world.row key).map (·.orderId)).getD "", refresh⟩ :: world.refused }
  else world

end World

abbrev Action := Program Unit World Answers

/-- Actions that may fail; `?` of the source is their sequence. -/
abbrev Fallible := ExceptT ApiError Action

structure PaymentWorker where
  authority : NamespaceStorageAuthority
  session : SessionScope

def isActive : Fallible Bool := .mk (.read fun answers _ => .ok answers.active)

def ensureActive : Fallible Unit :=
  .mk (.read fun answers _ => if answers.active then .ok () else .error .authenticationRequired)

def presentationDismissed : Fallible Bool := .mk (.read fun answers _ => .ok answers.dismissed)

/-- The text of a failure; the layers below the recovery store have texts of their own. -/
def failureMessage : Failure → String
  | .recovery .namespaceRequired => "recovery requires a user namespace"
  | .recovery .invalidDocument => "recovery document is invalid"
  | .recovery .scopeMismatch => "recovery scope does not match"
  | .recovery .identityChanged => "recovery identity cannot be changed"
  | .recovery .conflictExhausted => "recovery publication conflicted repeatedly"
  | .ensure message => message
  | .request _ | .storage => ""

def transitionFailure (failure : Failure) : ApiError := transitionError (failureMessage failure)

def operate (authority : NamespaceStorageAuthority) (op : OrderOperation) :
    Action (Except Failure Bool) :=
  .atomic fun answers world => ((op.run answers.storage authority world.file).1,
    world.operated answers.storage authority op)

/-- An operation with `require_order_recovery_update`. -/
def requireUpdate (authority : NamespaceStorageAuthority) (op : OrderOperation) : Fallible Unit :=
  .mk do
    match ← operate authority op with
    | .ok true => pure (.ok ())
    | .ok false => pure (.error (transitionFailure (.recovery .identityChanged)))
    | .error failure => pure (.error (transitionFailure failure))

def upsertPendingOrder (authority : NamespaceStorageAuthority) (scope : BillingScope)
    (record : PendingOrderRecord) : Fallible Unit := requireUpdate authority (.upsert scope record)

def findSavedPayment (worker : PaymentWorker) (key : String) : Fallible PendingOrderRecord :=
  .mk (.read fun answers world =>
    match loadPendingOrders answers.readable worker.authority world.file with
    | .error failure => .error (transitionFailure failure)
    | .ok rows =>
      match rows.find? (fun row =>
        row.ownerUserId = worker.session.ownerUserId ∧ row.clientRequestId = key) with
      | some row => .ok row
      | none => .error (.localState "原始订单恢复记录不可用，未更改付款方"))

def acceptAgreements : Fallible Unit := .mk (.read fun answers _ => answers.agreements)

def createUpgradeQuote : Fallible String := .mk (.read fun answers _ => answers.quote)

/-- `order_scoped` and `sync_order_scoped` -/
def queryOrder (key : String) : Fallible OrderDetail :=
  .mk (.atomic fun answers world => (answers.order, world.returns key answers.order))

/-- `access_or_refresh_scope` and `refresh_scope` -/
def accessOrRefresh (first : Bool) (key : String) : Fallible Unit :=
  .mk (.atomic fun answers world => (answers.token,
    match answers.token with
    | .ok () => world
    | .error error => world.refuse first key true error))

def post (creation : Creation) : Fallible Unit :=
  .mk (.atomic fun answers world =>
    match answers.post with
    | some unsent => (.error unsent.error, world)
    | none => (.ok (), { world with sent := creation :: world.sent }))

def receive (first : Bool) (key : String) : Fallible OrderDetail :=
  .mk (.atomic fun answers world => (answers.reply.result,
    match answers.reply.result with
    | .ok detail => world.returns key (.ok detail)
    | .error error => world.refuse first key false error))

def sendOnce (first : Bool) (creation : Creation) : Fallible OrderDetail := do
  post creation
  receive first creation.key

/-- `authenticated_json_with_scope` for a creation: a rejected access token is refreshed and
the request sent once more. -/
def authenticatedJsonWithScope (first : Bool) (creation : Creation) : Fallible OrderDetail := do
  accessOrRefresh first creation.key
  tryCatchThe ApiError (sendOnce first creation) fun error =>
    if error.isAccessTokenRejected then do
      accessOrRefresh first creation.key
      sendOnce first creation
    else throw error

/-- `billing_json_scoped` -/
def createOrderBilling (first : Bool) (creation : Creation) : Fallible OrderDetail :=
  tryCatchThe ApiError (authenticatedJsonWithScope first creation) fun error =>
    throw (error.withBillingPayer creation.payer)

/-- `replay_saved` of the request that the row under the key determines. -/
def replaySaved (worker : PaymentWorker) (key : String) : Fallible OrderDetail := do
  let request ← .mk (.read fun answers world =>
    (SavedReplayRequest.order answers.readable worker.authority worker.session key
      world.file).mapError transitionFailure)
  .mk (.read fun answers _ => answers.admission)
  .mk (.read fun answers world =>
    (request.verify (loadPendingOrders answers.readable worker.authority world.file)).mapError
      transitionFailure)
  createOrderBilling false
    ⟨request.key, request.payer, request.source.productCode, request.path, request.body⟩

structure PaymentStarted where
  order : OrderDetail
  record : PendingOrderRecord
  settled : Bool

def requireOrder (record : PendingOrderRecord) (order : OrderDetail) : Except ApiError Unit := do
  requireSavedGroup record.billingAccountGroupId order.billingAccountGroupId
  if trimIsEmpty order.id ∨ (record.orderId ≠ "" ∧ record.orderId ≠ order.id) then
    .error (.localState "服务端订单身份不一致，原始记录已保留")

/-- The row of a record moves to the session of the worker. -/
def rebindOrder (worker : PaymentWorker) (record : PendingOrderRecord) :
    Fallible PendingOrderRecord :=
  if record.authEpoch ≠ worker.session.authEpoch then do
    requireUpdate worker.authority (.rebind (RecoveryRow.identity record) worker.session.authEpoch)
    pure (RecoveryRow.setAuthEpoch worker.session.authEpoch record)
  else pure record

/-- A close during the creation stays hidden. -/
def dismissOrder (worker : PaymentWorker) (record : PendingOrderRecord) : Fallible Unit := do
  if ← presentationDismissed then
    requireUpdate worker.authority (.dismiss (RecoveryRow.identity record))
  else pure ()

def removeSettled (worker : PaymentWorker) (record : PendingOrderRecord) (order : OrderDetail) :
    Fallible Unit :=
  if order.settled then do
    ensureActive
    requireUpdate worker.authority (.remove (RecoveryRow.identity record))
  else pure ()

def bindAndSettleOrder (worker : PaymentWorker) (record : PendingOrderRecord) (order : OrderDetail) :
    Fallible PaymentStarted := do
  ensureActive
  .mk (pure (requireOrder record order))
  let record ← rebindOrder worker record
  ensureActive
  requireUpdate worker.authority (.orderId (RecoveryRow.identity record) order.id)
  let record := { record with orderId := order.id }
  dismissOrder worker record
  let saved ← findSavedPayment worker record.clientRequestId
  let record := { record with presentationDismissed := saved.presentationDismissed }
  removeSettled worker record order
  pure ⟨order, record, order.settled⟩

def missingOriginalUpgradeQuote : ApiError :=
  .localState "缺少原始升级报价，记录已保留；不会重新报价或更改付款方"

/-- The order of a retained row: replayed while it has no order id. -/
def recoveredOrder (worker : PaymentWorker) (record : PendingOrderRecord) : Fallible OrderDetail :=
  if record.orderId = "" then
    if record.kind = "membership_upgrade" ∧ record.upgradeQuoteId = "" then
      throw missingOriginalUpgradeQuote
    else replaySaved worker record.clientRequestId
  else queryOrder record.clientRequestId

def recoverPendingOrderWorker (worker : PaymentWorker) (record : PendingOrderRecord) :
    Fallible PaymentStarted := do
  ensureActive
  if record.ownerUserId ≠ worker.session.ownerUserId then throw .authenticationRequired else
  let order ← recoveredOrder worker record
  bindAndSettleOrder worker record order

def syncPaymentWorker (worker : PaymentWorker) (key orderId : String) : Fallible PaymentStarted := do
  ensureActive
  let record ← findSavedPayment worker key
  if record.orderId ≠ orderId then throw (.localState "原始订单编号已变化，记录已保留") else
  ensureActive
  let order ← queryOrder key
  bindAndSettleOrder worker record order

/-- `create_upgrade_order_checked`: the quote is stored before the order names it. -/
def createUpgradeOrderChecked (worker : PaymentWorker) (scope : BillingScope)
    (record : PendingOrderRecord) : Fallible OrderDetail := do
  ensureActive
  let quote ← createUpgradeQuote
  ensureActive
  ensureActive
  requireUpdate worker.authority (.quoteId (RecoveryRow.identity record) quote)
  ensureActive
  createOrderBilling true ⟨record.clientRequestId, scope.accountGroupId, record.productCode,
    "/v1/membership/upgrade-orders", upgradeOrderValue quote record.clientRequestId⟩

def createOrder (worker : PaymentWorker) (scope : BillingScope) (record : PendingOrderRecord) :
    Fallible OrderDetail :=
  let key := record.clientRequestId
  match record.kind with
  | "credit" => createOrderBilling true ⟨key, scope.accountGroupId, record.productCode,
      "/v1/credits/orders", creditOrderValue record.productCode key⟩
  | "membership" => createOrderBilling true ⟨key, scope.accountGroupId, record.productCode,
      "/v1/membership/orders", membershipOrderValue record.productCode key⟩
  | "membership_upgrade" => createUpgradeOrderChecked worker scope record
  | _ => throw (.localState "未知订单类型，原始记录已保留")

def submitOrder (worker : PaymentWorker) (scope : BillingScope) (record : PendingOrderRecord) :
    Fallible PaymentStarted := do
  ensureActive
  acceptAgreements
  ensureActive
  let order ← createOrder worker scope record
  bindAndSettleOrder worker record order

/-- The row of a refused creation goes, unless an order was accepted for it. -/
def abandonRefused (worker : PaymentWorker) (record : PendingOrderRecord) (error : ApiError) :
    Fallible Unit :=
  if paymentErrorPreservesOrderRecovery error then pure () else do
  if ← isActive then
    let current ← findSavedPayment worker record.clientRequestId
    if RecoveryRow.identity current = RecoveryRow.identity record ∧ current.orderId = "" then
      requireUpdate worker.authority (.remove (RecoveryRow.identity current))
    else pure ()
  else pure ()

/-- The record is stored before anything is sent for it. -/
def createStoredOrder (worker : PaymentWorker) (scope : BillingScope) (record : PendingOrderRecord) :
    Fallible PaymentStarted := do
  upsertPendingOrder worker.authority scope record
  dismissOrder worker record
  tryCatchThe ApiError (submitOrder worker scope record) fun error => do
    abandonRefused worker record error
    throw error

def createPaymentWorker (worker : PaymentWorker) (scope : BillingScope)
    (record : PendingOrderRecord) : Fallible PaymentStarted := do
  ensureActive
  ensureActive
  let dismissed ← presentationDismissed
  createStoredOrder worker scope { record with presentationDismissed := dismissed }

end ArtForgeStudio.Payment
