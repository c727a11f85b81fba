import ArtForgeStudio.Session.Manager

/-! # The billing context

The manager holds the one payer that paid requests may name. A switch to another payer is
begun with a ticket, confirmed by a snapshot of the server and published; a ticket that is
dropped rolls the switch back. Tickets outlive the state that they were made from.
-/

namespace ArtForgeStudio.Billing

open ArtForgeStudio.Api ArtForgeStudio.Session

inductive KnownCapability where
  | bill | readOwnQuota | leaveTeam | readGroupFinance | purchase | redeem | manageGroup
  | manageInvitations | manageMembers | readGroupUsage
  deriving DecidableEq

def KnownCapability.asWire : KnownCapability → String
  | bill => "bill"
  | readOwnQuota => "read_own_quota"
  | leaveTeam => "leave_team"
  | readGroupFinance => "read_group_finance"
  | purchase => "purchase"
  | redeem => "redeem"
  | manageGroup => "manage_group"
  | manageInvitations => "manage_invitations"
  | manageMembers => "manage_members"
  | readGroupUsage => "read_group_usage"

structure QuotaSummary where
  periodStart : String
  periodEnd : String
  monthlyLimit : String
  settled : String
  reserved : String
  remaining : String
  deriving DecidableEq

structure CreditAccount where
  available : String
  reserved : String
  lifetimeGranted : String
  lifetimeSpent : String
  version : String
  deriving DecidableEq

structure AccountGroupChoice where
  groupId : String
  groupStatus : String
  role : String
  memberId : Option String
  relationshipStatus : Option String
  readableContext : Bool
  selectable : Bool
  groupVersion : String
  membershipVersion : Option String
  capabilities : List String
  quota : Option QuotaSummary
  deriving DecidableEq

def AccountGroupChoice.hasCapability (choice : AccountGroupChoice) (expected : KnownCapability) :
    Bool := choice.capabilities.contains expected.asWire

structure AccountSnapshot where
  userId : String
  readOnly : Bool
  capabilities : List String
  billingGroup : AccountGroupChoice
  credits : Option CreditAccount
  quota : Option QuotaSummary
  deriving DecidableEq

/-- Equality of the two `BTreeSet`s. -/
def sameCapabilities (left right : List String) : Bool :=
  left.all right.contains && right.all left.contains

structure GroupRequestScope where
  session : SessionScope
  accountGroupId : String
  deriving DecidableEq

structure BillingScope where
  request : GroupRequestScope
  contextEpoch : Nat
  deriving DecidableEq

def validateSnapshotContext (account : AccountSnapshot) (scope : BillingScope) :
    Except ApiError Unit :=
  let group := account.billingGroup
  let activeIsSelectable := group.selectable && group.groupStatus = "active" &&
    ["owner", "member"].contains group.role && !account.readOnly
  let frozenOwnerFallback := group.role = "owner" && group.groupStatus = "frozen" &&
    group.readableContext && !group.selectable && account.readOnly && !group.hasCapability .bill &&
    !group.hasCapability .purchase && !group.hasCapability .redeem
  if account.userId = scope.request.session.ownerUserId &&
      group.groupId = scope.request.accountGroupId && group.readableContext &&
      sameCapabilities account.capabilities group.capabilities &&
      (activeIsSelectable || frozenOwnerFallback) then .ok ()
  else .error (.protocol "服务端返回的账号上下文与已确认计费账号不一致")

inductive PreviousBillingAuthority where
  | stillValid | invalidated
  deriving DecidableEq

structure PendingBillingSwitch where
  scope : BillingScope
  device : String
  rollback : PreviousBillingAuthority
  deriving DecidableEq

structure ConfirmedBillingContext where
  scope : BillingScope
  snapshot : AccountSnapshot
  usable : Bool
  deriving DecidableEq

structure BillingContextState where
  epoch : Nat := 0
  closed : Bool := false
  session : Option SessionScope := none
  pending : Option PendingBillingSwitch := none
  current : Option ConfirmedBillingContext := none
  deriving DecidableEq

structure BillingSwitchTicket where
  pending : PendingBillingSwitch
  armed : Bool
  deriving DecidableEq

structure StagedBillingConfirmation where
  pending : PendingBillingSwitch
  snapshot : AccountSnapshot
  deriving DecidableEq

def billingError (message : String) : ApiError := .localState message

/-- The current context, no longer usable. -/
def ConfirmedBillingContext.retire (current : ConfirmedBillingContext) : ConfirmedBillingContext :=
  { current with usable := false }

namespace BillingContextState

variable (state : BillingContextState)

def close : BillingContextState :=
  { state with closed := true, pending := none, current := none, session := none }

/-- The next epoch; without one the manager closes for good. -/
def advance : Except ApiError Nat × BillingContextState :=
  if state.closed then (.error (billingError "计费上下文已关闭"), state) else
  match checkedAdd1 state.epoch with
  | none => (.error (billingError "计费上下文计数已耗尽"), state.close)
  | some epoch => (.ok epoch, { state with epoch := epoch })

def bindAuthenticatedSession (session : SessionScope) : Except ApiError Unit × BillingContextState :=
  match state.advance with
  | (.error error, state) => (.error error, state)
  | (.ok _, state) =>
    (.ok (), { state with session := some session, pending := none, current := none })

def invalidateForAuthChange : BillingContextState :=
  { state.advance.2 with session := none, pending := none, current := none }

def beginSwitch (session : SessionScope) (device group : String)
    (rollback : PreviousBillingAuthority) :
    Except ApiError BillingSwitchTicket × BillingContextState :=
  if state.session ≠ some session || device.isEmpty || !canonicalUuid group then
    (.error (billingError "计费切换会话或标识不匹配"), state) else
  match state.advance with
  | (.error error, state) => (.error error, state)
  | (.ok epoch, state) =>
    let current := if rollback = .invalidated then state.current.map (·.retire) else state.current
    let pending := ⟨⟨⟨session, group⟩, epoch⟩, device, rollback⟩
    (.ok ⟨pending, true⟩, { state with current := current, pending := some pending })

/-- The rollback of a switch, if it is still the pending one: the context before it comes back
under a new epoch. -/
def abortMatching (pending : PendingBillingSwitch) : BillingContextState :=
  if state.pending ≠ some pending then state else
  match { state with pending := none }.advance with
  | (.error _, state) => state
  | (.ok epoch, state) =>
    { state with current := state.current.map fun current =>
        let current := { current with scope := { current.scope with contextEpoch := epoch } }
        if pending.rollback = .invalidated then current.retire else current }

/-- `UpgradeLatch::apply_if_open` around `abort_matching`. -/
def abortIfOpen (tripped : Bool) (pending : PendingBillingSwitch) : BillingContextState :=
  if tripped then state else state.abortMatching pending

def sameChoice (choice : AccountGroupChoice) (snapshot : AccountSnapshot) : Bool :=
  let group := snapshot.billingGroup
  choice.groupId = group.groupId && choice.role = group.role &&
    choice.groupStatus = group.groupStatus && choice.selectable = group.selectable &&
    choice.readableContext = group.readableContext && choice.memberId = group.memberId &&
    choice.relationshipStatus = group.relationshipStatus &&
    choice.groupVersion = group.groupVersion &&
    choice.membershipVersion = group.membershipVersion &&
    sameCapabilities choice.capabilities snapshot.capabilities

def stageConfirmation (tripped : Bool) (ticket : BillingSwitchTicket) (choice : AccountGroupChoice)
    (snapshot : AccountSnapshot) :
    Except ApiError StagedBillingConfirmation × BillingContextState :=
  if state.closed || state.pending ≠ some ticket.pending ||
      state.session ≠ some ticket.pending.scope.request.session then
    (.error (.protocol "计费切换票据已失效"), state)
  else if !sameChoice choice snapshot ||
      validateSnapshotContext snapshot ticket.pending.scope ≠ .ok () then
    (.error (.protocol "账号确认与已选团队不一致"), state.abortIfOpen tripped ticket.pending)
  else (.ok ⟨ticket.pending, snapshot⟩, state)

def publishPersisted (ticket : BillingSwitchTicket) (staged : StagedBillingConfirmation) :
    BillingContextState :=
  if !state.closed && state.pending = some ticket.pending && staged.pending = ticket.pending then
    { state with
      current := some ⟨staged.pending.scope, staged.snapshot, true⟩
      pending := none }
  else state

def abortSwitch (ticket : BillingSwitchTicket) : BillingContextState :=
  state.abortMatching ticket.pending

/-- `Drop for BillingSwitchTicket` -/
def dropTicket (tripped : Bool) (ticket : BillingSwitchTicket) : BillingContextState :=
  if ticket.armed then state.abortIfOpen tripped ticket.pending else state

/-- The context that requests may name. -/
def confirmed : Option ConfirmedBillingContext :=
  if state.closed || state.pending.isSome then none else state.current.filter (·.usable)

def confirmedScope : Option BillingScope := state.confirmed.map (·.scope)

def confirmedSnapshot : Option AccountSnapshot := state.confirmed.map (·.snapshot)

def isCurrent (scope : BillingScope) : Bool := state.confirmedScope = some scope

def invalidateCurrentBilling : BillingContextState :=
  match state.advance with
  | (.error _, state) => state
  | (.ok _, state) => { state with pending := none, current := state.current.map (·.retire) }

/-- A newer balance of the confirmed payer. -/
def refreshFinancialSnapshot (scope : BillingScope) (snapshot : AccountSnapshot) :
    Bool × BillingContextState :=
  if validateSnapshotContext snapshot scope ≠ .ok () then (false, state) else
  if state.closed || state.pending.isSome then (false, state) else
  match state.current.filter fun current => current.usable && current.scope = scope with
  | none => (false, state)
  | some current =>
    let saved := current.snapshot
    if saved.billingGroup.role ≠ snapshot.billingGroup.role ||
        saved.billingGroup.memberId ≠ snapshot.billingGroup.memberId then (false, state) else
    let refreshed := { saved with
      credits := snapshot.credits
      quota := snapshot.quota
      billingGroup := { saved.billingGroup with quota := snapshot.billingGroup.quota } }
    (true, { state with current := some { current with snapshot := refreshed } })

def currentScope (capability : KnownCapability) : Except ApiError BillingScope :=
  match state.confirmed with
  | none => .error (billingError "计费账号尚未确认")
  | some current =>
    if !current.snapshot.billingGroup.hasCapability capability then
      .error (.http 403 "account_group_capability_denied" "当前账号不允许此操作")
    else if current.snapshot.readOnly &&
        [KnownCapability.bill, .purchase, .redeem].contains capability then
      .error (billingError "当前账号只读")
    else .ok current.scope

def billableScope : Except ApiError BillingScope := state.currentScope .bill

end BillingContextState

structure World where
  state : BillingContextState := {}
  /-- the upgrade latch -/
  tripped : Bool := false
  /-- the tickets that are alive -/
  tickets : List BillingSwitchTicket := []
  staged : List StagedBillingConfirmation := []
  /-- every switch that was begun, the newest first -/
  begun : List PendingBillingSwitch := []

inductive Action where
  | bind (session : SessionScope)
  | invalidateForAuthChange
  | begin (session : SessionScope) (device group : String) (rollback : PreviousBillingAuthority)
  | stage (ticket : BillingSwitchTicket) (choice : AccountGroupChoice) (snapshot : AccountSnapshot)
  | publish (ticket : BillingSwitchTicket) (staged : StagedBillingConfirmation)
  | abort (ticket : BillingSwitchTicket)
  | drop (ticket : BillingSwitchTicket)
  | suppressRollback (ticket : BillingSwitchTicket)
  | invalidateCurrentBilling
  | refreshFinancialSnapshot (scope : BillingScope) (snapshot : AccountSnapshot)
  | trip

/-- One operation; with a ticket or a confirmation that does not exist nothing happens. -/
def step : Action → World → World
  | .bind session, world => { world with state := (world.state.bindAuthenticatedSession session).2 }
  | .invalidateForAuthChange, world => { world with state := world.state.invalidateForAuthChange }
  | .begin session device group rollback, world =>
    match world.state.beginSwitch session device group rollback with
    | (.error _, state) => { world with state := state }
    | (.ok ticket, state) => { world with
        state := state
        tickets := ticket :: world.tickets
        begun := ticket.pending :: world.begun }
  | .stage ticket choice snapshot, world =>
    if !world.tickets.contains ticket then world else
    match world.state.stageConfirmation world.tripped ticket choice snapshot with
    | (.error _, state) => { world with state := state }
    | (.ok staged, state) => { world with state := state, staged := staged :: world.staged }
  | .publish ticket staged, world =>
    if !world.tickets.contains ticket || !world.staged.contains staged then world else
    { world with
      state := world.state.publishPersisted ticket staged
      tickets := world.tickets.erase ticket
      staged := world.staged.erase staged }
  | .abort ticket, world =>
    if !world.tickets.contains ticket then world else
    { world with
      state := world.state.abortSwitch ticket
      tickets := world.tickets.erase ticket }
  | .drop ticket, world =>
    if !world.tickets.contains ticket then world else
    { world with
      state := world.state.dropTicket world.tripped ticket
      tickets := world.tickets.erase ticket }
  | .suppressRollback ticket, world =>
    if !world.tickets.contains ticket then world else
    { world with tickets := { ticket with armed := false } :: world.tickets.erase ticket }
  | .invalidateCurrentBilling, world =>
    { world with state := world.state.invalidateCurrentBilling }
  | .refreshFinancialSnapshot scope snapshot, world =>
    { world with state := (world.state.refreshFinancialSnapshot scope snapshot).2 }
  | .trip, world => { world with tripped := true }

end ArtForgeStudio.Billing
