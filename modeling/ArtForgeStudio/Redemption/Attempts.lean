import ArtForgeStudio.Api.Error
import ArtForgeStudio.Api.Requests
import ArtForgeStudio.Library.Runs
import Mathlib.Logic.Function.Basic

/-! # Redeeming a credit code

The redeem callback saves a record of the code, the payer and a fresh key before a worker
sends anything; a record that is still there is replayed instead. The callback and the
completion run on the UI thread, the workers beside it, and the account may change between
any two of their steps.
-/

namespace ArtForgeStudio.Redemption

open ArtForgeStudio.Api ArtForgeStudio.Runs

structure PendingCreditRedemption where
  code : String
  clientRequestId : String
  billingAccountGroupId : String
  deriving DecidableEq

/-- `pending_credit_redemptions_by_owner` -/
abbrev Records := String → Option PendingCreditRedemption

def creditRedemptionRequestIdForBilling (pending : Records) (scope : BillingScope)
    (code createRequestId : String) : Except ApiError (String × Records) :=
  let owner := scope.session.ownerUserId
  match pending owner with
  | some saved =>
    if saved.code ≠ code ∨ saved.billingAccountGroupId ≠ scope.accountGroupId then
      .error (.localState "之前的兑换请求尚未确认，原付款账号和兑换码已保留，请切回原账号重试")
    else .ok (saved.clientRequestId, pending)
  | none => .ok (createRequestId,
      Function.update pending owner (some ⟨code, createRequestId, scope.accountGroupId⟩))

inductive CreditRedemptionSettlement where
  | succeeded
  | ambiguousFailure
  | definitiveFailure
  deriving DecidableEq

def settleCreditRedemption (pending : Records) (owner code clientRequestId : String)
    (settlement : CreditRedemptionSettlement) : Records :=
  let matchesCompletedRequest := (pending owner).any fun saved =>
    saved.code = code ∧ saved.clientRequestId = clientRequestId
  if settlement ≠ .ambiguousFailure ∧ matchesCompletedRequest then
    Function.update pending owner none
  else pending

structure CreditRedemptionReceipt where
  session : SessionScope
  payer : String
  code : String
  key : String
  retainedReplay : Bool
  deriving DecidableEq

/-- How the completion of an attempt treats its record. -/
def CreditRedemptionReceipt.settlement (receipt : CreditRedemptionReceipt) :
    Except ApiError Unit → CreditRedemptionSettlement
  | .ok _ => .succeeded
  | .error error =>
    if receipt.retainedReplay || error.shouldPreserveRedemptionRetry then .ambiguousFailure
    else .definitiveFailure

/-- A request `POST /v1/credits/redemptions`: its session, payer and idempotency key, and the
two members of its body. -/
structure RedeemRequest where
  session : SessionScope
  payer : String
  idempotencyKey : String
  code : String
  clientRequestId : String
  deriving DecidableEq

def PendingCreditRedemption.request (record : PendingCreditRedemption) (session : SessionScope) :
    RedeemRequest :=
  ⟨session, record.billingAccountGroupId, record.clientRequestId, record.code,
    record.clientRequestId⟩

inductive Phase where
  | prepared
  | running (sent : Bool)
  | finished (outcome : Except ApiError Unit)

/-- `PreparedCreditRedemption` and the worker that runs it. A replay holds the record that it
read and sends that. -/
structure Attempt where
  receipt : CreditRedemptionReceipt
  replay : Option PendingCreditRedemption
  phase : Phase := .prepared

def Attempt.request (attempt : Attempt) : RedeemRequest :=
  let receipt := attempt.receipt
  match attempt.replay with
  | some source => { source.request receipt.session with idempotencyKey := receipt.key }
  | none => ⟨receipt.session, receipt.payer, receipt.key, receipt.code, receipt.key⟩

/-- What happened so far, which no step reads: the requests sent, and the completions that
settled a record. -/
inductive Entry where
  | sent (request : RedeemRequest)
  | settled (receipt : CreditRedemptionReceipt) (outcome : Except ApiError Unit)
  deriving DecidableEq

structure World where
  session : Option SessionScope := none
  authEpoch : Nat := 0
  memory : Records := fun _ => none
  /-- The records that each account's client state was last saved with. -/
  saved : String → Records
  busy : Bool := false
  upgradeTripped : Bool := false
  attempts : List Attempt := []
  history : List Entry := []

/-- `save_local_store_checked`: without the store's acknowledgement nothing is saved. -/
def saveLocalStoreChecked (session : SessionScope) (memory : Records) (fault : Option String)
    (world : World) : Except String World :=
  match fault with
  | some message => .error message
  | none =>
    if world.upgradeTripped then .error "当前客户端版本过旧，请更新后重试" else
    .ok { world with
      memory := memory, saved := Function.update world.saved session.ownerUserId memory }

def readRetainedRedemption (session : SessionScope) (key : String) (fault : Option String)
    (world : World) : Except String PendingCreditRedemption :=
  match fault with
  | some message => .error message
  | none =>
    if world.upgradeTripped then .error "ordinary work is closed" else
    let row := (world.saved session.ownerUserId session.ownerUserId).filter fun row =>
      row.clientRequestId = key ∧ row.code ≠ "" ∧ row.billingAccountGroupId ≠ ""
    match row with
    | none => .error "exact retained redemption missing"
    | some row =>
      -- the text is the parser's own, and no step reads it
      if parsesAsUuid row.billingAccountGroupId then .ok row else .error "invalid payer"

/-- What the account and the store answer to the redeem callback. -/
structure Answers where
  /-- The payer that `capture_billing_action` confirms. -/
  payer : Except ApiError String
  createRequestId : String
  readFault : Option String := none
  saveFault : Option String := none

def prepareCreditRedemption (session : SessionScope) (code : String) (answers : Answers)
    (world : World) : Except ApiError Attempt × World :=
  match world.memory session.ownerUserId with
  | some existing =>
    if existing.code ≠ code then
      (.error (transitionError "原兑换请求尚未确认，请重试原兑换码"), world)
    else match readRetainedRedemption session existing.clientRequestId answers.readFault world with
    | .error message => (.error (transitionError message), world)
    | .ok source =>
      if source.billingAccountGroupId ≠ existing.billingAccountGroupId ∨
          source.code ≠ existing.code ∨ source.clientRequestId ≠ existing.clientRequestId then
        (.error (transitionError "原兑换请求记录不一致，未发送"), world)
      else
        (.ok {
          receipt := ⟨session, existing.billingAccountGroupId, existing.code,
            existing.clientRequestId, true⟩
          replay := some source }, world)
  | none =>
    match answers.payer with
    | .error error => (.error error, world)
    | .ok payer =>
      match creditRedemptionRequestIdForBilling world.memory ⟨session, payer⟩ code
          answers.createRequestId with
      | .error error => (.error error, world)
      | .ok (key, pending) =>
        match saveLocalStoreChecked session pending answers.saveFault world with
        | .error message => (.error (transitionError message), world)
        | .ok next => (.ok { receipt := ⟨session, payer, code, key, false⟩, replay := none }, next)

/-- The redeem callback: one attempt at a time while the form is busy. -/
def redeem (code : String) (answers : Answers) (world : World) : World :=
  if world.busy then world else
  match world.session with
  | none => world
  | some session =>
    match prepareCreditRedemption session code answers world with
    | (.error _, next) => next
    | (.ok attempt, next) => { next with busy := true, attempts := attempt :: next.attempts }

/-- `begin_user_work`, and for a replay the check that its record is still the saved one. -/
def Attempt.admission (attempt : Attempt) (readFault : Option String) (world : World) : Phase :=
  if world.upgradeTripped then
    .finished (.error (.http 426 "client_upgrade_required" "当前客户端版本过旧，必须更新后继续使用"))
  else if world.session ≠ some attempt.receipt.session then
    .finished (.error .authenticationRequired)
  else match attempt.replay with
  | none => .running false
  | some source =>
    match readRetainedRedemption attempt.receipt.session attempt.receipt.key readFault world with
    | .error message => .finished (.error (transitionError message))
    | .ok row =>
      if row = source then .running false
      else .finished (.error (transitionError "retained replay request changed"))

def World.setPhase (index : Nat) (phase : Phase) (world : World) : World :=
  { world with attempts := world.attempts.modify index ({ · with phase := phase }) }

def startAttempt (index : Nat) (readFault : Option String) (world : World) : World :=
  match world.attempts[index]? with
  | some attempt =>
    match attempt.phase with
    | .prepared => world.setPhase index (attempt.admission readFault world)
    | _ => world
  | none => world

/-- A request of the worker goes on the wire, the first one or the one after a refresh. -/
def sendAttempt (index : Nat) (world : World) : World :=
  match world.attempts[index]? with
  | some attempt =>
    match attempt.phase with
    | .running _ =>
      { world.setPhase index (.running true) with
        history := .sent attempt.request :: world.history }
    | _ => world
  | none => world

/-- The call of the worker ends. An upgrade rejection closes ordinary work first, and only a
sent request can succeed. -/
def answerAttempt (index : Nat) (outcome : Except ApiError Unit) (world : World) : World :=
  match world.attempts[index]? with
  | some attempt =>
    match attempt.phase, outcome with
    | .running _, .error error =>
      { world.setPhase index (.finished (.error error)) with
        upgradeTripped := world.upgradeTripped || error.isClientUpdateRequired }
    | .running true, .ok _ => world.setPhase index (.finished outcome)
    | _, _ => world
  | none => world

def redemptionReceiptIsCurrent (receipt : CreditRedemptionReceipt) (world : World) : Bool :=
  !world.upgradeTripped && world.session = some receipt.session &&
    (world.memory receipt.session.ownerUserId).any fun pending =>
      pending.code = receipt.code ∧ pending.clientRequestId = receipt.key ∧
        pending.billingAccountGroupId = receipt.payer

def completeCreditRedemption (receipt : CreditRedemptionReceipt) (outcome : Except ApiError Unit)
    (saveFault : Option String) (world : World) : World :=
  if !redemptionReceiptIsCurrent receipt world then world else
  let world := { world with busy := false }
  let settlement := receipt.settlement outcome
  let settled := settleCreditRedemption world.memory receipt.session.ownerUserId receipt.code
    receipt.key settlement
  match saveLocalStoreChecked receipt.session settled saveFault world with
  -- the records before the settlement are restored
  | .error _ => world
  | .ok next =>
    if settlement = .ambiguousFailure then next
    else { next with history := .settled receipt outcome :: next.history }

/-- The poll of the UI thread takes the outcome of a worker. -/
def completeAttempt (index : Nat) (saveFault : Option String) (world : World) : World :=
  match world.attempts[index]? with
  | some attempt =>
    match attempt.phase with
    | .finished outcome => completeCreditRedemption attempt.receipt outcome saveFault
        { world with attempts := world.attempts.eraseIdx index }
    | _ => world
  | none => world

def Phase.isRunning : Phase → Bool
  | .running _ => true
  | _ => false

/-- A retirement waits for the workers that hold an activity permit, then clears the store. -/
def leaveAccount (world : World) : World :=
  if world.attempts.any (·.phase.isRunning) then world
  else { world with session := none, memory := fun _ => none, busy := false }

/-- An activation publishes a new session with the records saved for its owner. -/
def enterAccount (owner : String) (world : World) : World :=
  if world.session.isSome then world
  else { world with
    session := some ⟨owner, world.authEpoch + 1⟩
    authEpoch := world.authEpoch + 1
    memory := world.saved owner }

inductive Event where
  | redeem (code : String) (answers : Answers)
  /-- `clear_billing_snapshot_state`: another payer resets the form, the attempts go on. -/
  | switchBilling
  | start (index : Nat) (readFault : Option String)
  | send (index : Nat)
  | answer (index : Nat) (outcome : Except ApiError Unit)
  | complete (index : Nat) (saveFault : Option String)
  | save
  | leave
  | enter (owner : String)
  | trip
  | restart

def step (event : Event) (world : World) : World :=
  match event with
  | .redeem code answers => redeem code answers world
  | .switchBilling => { world with busy := false }
  | .start index readFault => startAttempt index readFault world
  | .send index => sendAttempt index world
  | .answer index outcome => answerAttempt index outcome world
  | .complete index saveFault => completeAttempt index saveFault world
  | .save =>
    match world.session with
    | none => world
    | some session => { world with
        saved := Function.update world.saved session.ownerUserId world.memory }
  | .leave => leaveAccount world
  | .enter owner => enterAccount owner world
  | .trip => { world with upgradeTripped := true }
  | .restart => { saved := world.saved, history := world.history }

abbrev runEvents (events : List Event) (world : World) : World := run step events world

end ArtForgeStudio.Redemption
