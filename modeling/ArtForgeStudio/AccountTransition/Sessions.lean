import ArtForgeStudio.AccountTransition.World

/-! # The sessions that move the lease

An activation retires the old lease, loads the next account and publishes it from the window; a
billing switch keeps the lease; a directory migration replaces it by its successor. A guard is
released where its owner goes out of scope.
-/

namespace ArtForgeStudio.AccountTransition

open ArtForgeStudio.Api ArtForgeStudio.ClientState ArtForgeStudio.Concurrency
open ArtForgeStudio.Session (checkedAdd1)

inductive ActivationInput where
  | login
  | resume
  | preparedSwitch (scope : SessionScope)
  | logout (scope : SessionScope) (token : Option String)

def ActivationInput.explicitLogin : ActivationInput → Bool
  | login => true
  | resume | preparedSwitch _ | logout .. => false

structure RetirementCover where
  lease : NamespaceLease
  store : String
  profile : String

def RetirementCover.check (cover : RetirementCover) (old : NamespaceLease) : Fallible Unit :=
  if cover.lease = old then pure ()
  else throw (transitionError "待封存账号与当前账号不一致")

def RetirementCover.persist (cover : RetirementCover) (old : NamespaceLease) : Fallible Unit := do
  cover.check old
  retryClientStateWrite (persistChecked (.localStore old cover.store))
  retryClientStateWrite (persistChecked (.userProfile old cover.profile))

/-- The lease that is about to be published. A billing switch has no transition of its own. -/
structure PreparedActivation where
  lease : NamespaceLease
  transition : Option Nat

/-- The writer of a candidate that will not be published. -/
def deactivateCandidate : Option NamespaceLease → Action Unit
  | none => pure ()
  | some lease => lock fun world =>
    let after := world.writes (.deactivate lease)
    ((), match (world.writer.world.deactivate lease).1 with
      | .ok () => after
      | .error _ => after.owes fun debt => { debt with candidateWriter := true })

/-- The drop of a `PendingActivation` that changes the user and was not committed. -/
def dropPending (writerLease : Option NamespaceLease) : Action Unit := do
  deactivateCandidate writerLease
  let acknowledged ← ask
  change fun world => world.owes fun debt => { debt with credentials := !acknowledged }

def PreparedActivation.drop (prepared : PreparedActivation) : Action Unit :=
  match prepared.transition with
  | none => pure ()
  | some transition => do
    dropPending (some prepared.lease)
    dropTransition transition

def scopeMatches (lease : NamespaceLease) (scope : SessionScope) : Bool :=
  lease.authEpoch = scope.authEpoch ∧ lease.userNamespace.userPublicId = scope.ownerUserId

def prepareBillingSwitch (scope : SessionScope) : Fallible PreparedActivation := do
  let lease ← attempt fun world =>
    (match world.activeNamespace.filter (scopeMatches · scope) with
      | some lease => .ok lease
      | none => .error .authenticationRequired, world)
  outside
  pure ⟨lease, none⟩

def checkCleanupDebt (explicitLogin : Bool) : Fallible Unit := attempt fun world =>
  (match world.cleanupFailure with
    | some debt =>
      if !explicitLogin || debt.candidateWriter then .error (transitionError debt.display)
      else .ok ()
    | none => .ok (), world)

/-- The check that a logout is about the active account. -/
def checkLogout (input : ActivationInput) (old : Option NamespaceLease) : Fallible Unit :=
  match input with
  | .logout scope _ =>
    if old.any (scopeMatches · scope) then pure () else throw .authenticationRequired
  | .login | .resume | .preparedSwitch _ => pure ()

/-- A flush that failed locally is tried again after the cover of the window was written. -/
def flushOld (old : NamespaceLease) (cover : Option RetirementCover) : Fallible Reservation := do
  match ← ExceptT.lift (flushForRetirement old).run with
  | .ok flushed => pure flushed
  | .error (.localState message) =>
    match cover with
    | none => throw (transitionError message)
    | some cover =>
      cover.persist old
      match ← ExceptT.lift (flushForRetirement old).run with
      | .ok flushed => pure flushed
      | .error error => throw (transitionError error.display)
  | .error error => throw (transitionError error.display)

def retireOld (transition : Nat) (old : NamespaceLease) (cover : Option RetirementCover) :
    Fallible Unit := do
  beginQuiesce old
  releasing (dropQuiesced old) do
    let flushed ← flushOld old cover
    retireFlushed transition flushed
  ExceptT.lift (retireQuiesced old)
  ExceptT.lift (setActiveNamespace none)

/-- One part of the cleanup, and the debt that it leaves. -/
def cleanup (update : Bool → CleanupDebt → CleanupDebt) : Action Bool := do
  let done ← ask
  change fun world => world.owes (update !done)
  pure done

def cleanupCredentials (due : Bool) : Fallible Bool :=
  if due then ExceptT.lift (cleanup fun failed debt => { debt with credentials := failed })
  else pure true

def attemptRemoteLogout : ActivationInput → Fallible Bool
  | .logout _ (some _) => ExceptT.lift (cleanup fun failed debt =>
      { debt with remoteLogout := failed || debt.remoteLogout })
  | .logout _ none | .login | .resume | .preparedSwitch _ => pure true

def cleanupResult (ui credentials remote : Bool) : Fallible Unit :=
  if ui && credentials && remote then pure ()
  else throw (transitionError ("；".intercalate <|
    (if ui then [] else ["退出界面清理未确认"]) ++
    (if credentials then [] else [CleanupDebt.incompleteCredentialCleanup]) ++
    (if remote then [] else ["远程退出未确认"])))

/-- The cleanup after the retirement: the window, the credentials, the remote logout. -/
def settleRetirement (input : ActivationInput) (retired : Bool) : Fallible Unit := do
  let ui ← ExceptT.lift (cleanup fun failed debt => { debt with privateUi := failed })
  let credentials ← cleanupCredentials (retired || input.explicitLogin)
  let remote ← attemptRemoteLogout input
  cleanupResult ui credentials remote

/-- The retirement of the active lease, if there is one. -/
def retireActive (transition : Nat) (old : Option NamespaceLease) (cover : Option RetirementCover) :
    Fallible Unit :=
  match old with
  | some old => retireOld transition old cover
  | none => pure ()

def leaveOld (input : ActivationInput) (transition : Nat) (cover : Option RetirementCover) :
    Fallible Unit := do
  let old ← attempt fun world => (.ok world.activeNamespace, world)
  checkLogout input old
  retireActive transition old cover
  settleRetirement input old.isSome

/-- The session of the next user, its directories and its data. -/
def loadCandidate (transition ticket : Nat) : Fallible NamespaceLease := do
  let lease ← .mk (.read fun answer _ =>
    if answer.ok then .ok ⟨answer.userNamespace, answer.authEpoch, ticket⟩
    else .error answer.error)
  let lease ← .mk (.read fun answer _ =>
    if lease.userNamespace.mappings = [] then .ok lease
    else if answer.ok then .ok { lease with userNamespace := answer.userNamespace }
    else .error answer.error)
  outside
  requireUnpublished transition "candidate namespace is not unpublished"
  outside
  pure lease

/-- The candidate becomes active in the writer. -/
def activateCandidate (transition : Nat) (lease : NamespaceLease) : Fallible PreparedActivation := do
  releasing (dropTransition transition >>= fun _ => dropPending none) do
    requireUnpublished transition "candidate namespace proof does not match"
    prepareActivity
    writerActivate lease
  releasing (dropTransition transition >>= fun _ => dropPending (some lease)) outside
  pure ⟨lease, some transition⟩

def enterNew (transition ticket : Nat) : Fallible PreparedActivation := do
  releasing (dropTransition transition) outside
  let lease ← releasing (dropPending none >>= fun _ => dropTransition transition)
    (loadCandidate transition ticket)
  activateCandidate transition lease

/-- A logout ends here. -/
def enterNext (input : ActivationInput) (transition ticket : Nat) :
    Fallible (Option PreparedActivation) :=
  match input with
  | .logout .. => do
    ExceptT.lift (dropTransition transition)
    pure none
  | .login | .resume | .preparedSwitch _ => do
    let prepared ← enterNew transition ticket
    pure (some prepared)

def prepareActivation (input : ActivationInput) (ticket : Nat) (cover : Option RetirementCover) :
    Fallible (Option PreparedActivation) := do
  outside
  checkCleanupDebt input.explicitLogin
  let transition ← beginTransition
  releasing (dropTransition transition) (leaveOld input transition cover)
  enterNext input transition ticket

def prepareActivationWithCover (input : ActivationInput) (ticket : Nat)
    (cover : Option RetirementCover) : Fallible (Option PreparedActivation) :=
  match input with
  | .preparedSwitch scope => do
    let prepared ← prepareBillingSwitch scope
    pure (some prepared)
  | .login | .resume | .logout .. => prepareActivation input ticket cover

/-- The group is saved a second time after any error. -/
def retrySelection (write : ExceptT ClientStateWriteError Action Unit) : Fallible Unit := do
  match ← ExceptT.lift write.run with
  | .ok () => pure ()
  | .error _ =>
    match ← ExceptT.lift write.run with
    | .ok () => pure ()
    | .error error => throw (transitionError error.display)

namespace PreparedActivation

variable (prepared : PreparedActivation)

/-- The profile that the window prepared and the group are saved. -/
def persist : Fallible Unit := do
  outside
  let profile ← .mk (.read fun answer _ => .ok answer.data)
  retryClientStateWrite (persistChecked (.userProfile prepared.lease profile))
  let group ← .mk (.read fun answer _ => .ok answer.data)
  retrySelection (persistChecked
    (.selectedGroup prepared.lease.userNamespace.userPublicId "" group))

/-- What the window does under the lock of an open upgrade latch. -/
def publish : Action Unit :=
  match prepared.transition with
  | some transition => do
    change fun world =>
      { world with namespaceOperations := world.namespaceOperations.publish prepared.lease }
    dropTransition transition
    setActiveNamespace (some prepared.lease)
    change fun world => { world with activity := world.activity.publish prepared.lease }
  | none => setActiveNamespace (some prepared.lease)

/-- The window publishes what was saved, or discards it. -/
def apply : Action Unit := do
  let applied ← ask
  if applied then prepared.publish else prepared.drop

def save : Action Unit := do
  match ← prepared.persist.run with
  | .error _ => prepared.drop
  | .ok () => prepared.apply

/-- The way of a prepared activation through the window and the disk. -/
def conclude : Action Unit := do
  let models ← ask
  if models then prepared.save else prepared.drop

end PreparedActivation

def dropTicket (id : Nat) (ending : Ending) : Action Unit := change fun world =>
  { world with admission := world.admission.dropTicket id, ended := some ending }

def concludeActivation : Except ApiError (Option PreparedActivation) → Action Unit
  | .ok (some prepared) => prepared.conclude
  | .ok none | .error _ => pure ()

/-- The worker of an activation, with the window that it waits for. -/
def activationWorker (input : ActivationInput) (cover : Option RetirementCover) (ticket : Nat) :
    Action Unit := do
  let result ← (prepareActivationWithCover input ticket cover).run
  concludeActivation result
  dropTicket ticket .activation

/-- The guards of a migration session. -/
structure DirectoryMigration where
  lease : NamespaceLease
  transition : Nat
  flushed : Reservation

def requireActive (lease : NamespaceLease) : Fallible Unit := attempt fun world =>
  (if world.activeNamespace = some lease then .ok ()
    else .error (.localState "账号目录已变化，请重新选择目录"), world)

def flushActive (lease : NamespaceLease) : Fallible Reservation := do
  match ← ExceptT.lift (flushForRetirement lease).run with
  | .ok flushed => pure flushed
  | .error error => throw (.localState error.display)

/-- The guards behind the transition. -/
def reserveActive (lease : NamespaceLease) : Fallible Reservation := do
  requireActive lease
  outside
  tryQuiesce lease
  releasing (dropQuiesced lease) (flushActive lease)

def beginMigration (lease : NamespaceLease) : Fallible DirectoryMigration := do
  let transition ← tryBeginTransition
  let flushed ← releasing (dropTransition transition) (reserveActive lease)
  pure ⟨lease, transition, flushed⟩

namespace DirectoryMigration

variable (session : DirectoryMigration)

/-- The drop of a session that was not committed. -/
def dropUncommitted : Action Unit := do
  dropTransition session.transition
  dropQuiesced session.lease
  dropReservation session.flushed

/-- The preparation, the copy and `commit`: the successor of the lease, once it is durable. -/
def commit : Fallible NamespaceLease := do
  outside
  let candidate ← .mk (.read fun answer _ =>
    match checkedAdd1 session.lease.namespaceEpoch with
    | some epoch => .ok ⟨answer.userNamespace, session.lease.authEpoch, epoch⟩
    | none => .error (.localState "namespace epoch exhausted"))
  .mk (.read fun answer world =>
    if !world.writer.world.holds session.flushed then
      .error (.localState "migration writer reservation expired")
    else if answer.ok then .ok candidate else .error answer.error)

/-- The drop of a committed session that has all its guards: the old writer never reopens. -/
def dropCommitted : Action Unit := do
  let _ ← (retireFlushed session.transition session.flushed).run
  retireQuiesced session.lease
  setActiveNamespace none
  dropTransition session.transition

def openCandidate (candidate : NamespaceLease) : Fallible NamespaceLease :=
  .mk (.read fun answer _ =>
    if answer.ok then .ok { candidate with userNamespace := answer.userNamespace }
    else .error answer.error)

/-- The part of `finish_inner` after the old lease is gone, up to its publication. -/
def activateSuccessor (candidate : NamespaceLease) : Fallible Unit := do
  outside
  requireUnpublished session.transition "candidate namespace is not unpublished"
  outside
  requireUnpublished session.transition "candidate namespace proof does not match"
  prepareActivity
  writerActivate candidate

/-- The old lease is retired in `finish_inner`. When the proof is refused, the quiesce is
retired by the drop of the session. -/
def retire : Fallible Unit := do
  releasing (do
      dropTransition session.transition
      retireQuiesced session.lease
      setActiveNamespace none)
    (retireFlushed session.transition session.flushed)
  ExceptT.lift (retireQuiesced session.lease)
  ExceptT.lift (setActiveNamespace none)

def finish (candidate : NamespaceLease) : Fallible Unit := do
  let candidate ← releasing session.dropCommitted (openCandidate candidate)
  session.retire
  releasing (dropTransition session.transition >>= fun _ => setActiveNamespace none)
    (session.activateSuccessor candidate)
  ExceptT.lift (PreparedActivation.publish ⟨candidate, some session.transition⟩)

/-- What becomes of a durable commit: the copy reports an error, or the session is finished. -/
def conclude (candidate : NamespaceLease) : Action Ending := do
  let copied ← ask
  if copied then do
    let result ← (session.finish candidate).run
    pure (if result.isOk then .migrated else .unfinished session.lease)
  else do
    session.dropCommitted
    pure (.unfinished session.lease)

/-- The worker of a session that began. -/
def work (before : Option NamespaceLease) : Action Ending := do
  match ← session.commit.run with
  | .error _ => do
    session.dropUncommitted
    pure (.uncommitted before)
  | .ok candidate => session.conclude candidate

end DirectoryMigration

def workMigration (before : Option NamespaceLease) :
    Except ApiError DirectoryMigration → Action Ending
  | .error _ => pure (.uncommitted before)
  | .ok session => session.work before

/-- `before` is what was active when the ticket was taken; no step reads it. -/
def migrationWorker (lease : NamespaceLease) (before : Option NamespaceLease) (ticket : Nat) :
    Action Unit := do
  let result ← (beginMigration lease).run
  let ending ← workMigration before result
  dropTicket ticket ending

inductive Event where
  | activate (input : ActivationInput) (cover : Option RetirementCover)
  | migrate (lease : NamespaceLease)
  /-- The next action of the session. -/
  | session (answer : Answer)
  | shutdown
  | beginOperation (lease : NamespaceLease)
  | dropOperation (id : Nat) (lease : NamespaceLease)
  | beginWork (lease : NamespaceLease)
  | endWork (lease : NamespaceLease)
  /-- A producer or the worker of the writer. -/
  | writer (event : ClientState.Event)

/-- The steps of the writer that only sessions take. -/
def switches : ClientState.Event → Bool
  | .activate _ | .deactivate _ | .flushForRetirement .. | .flushed _ | .dropReservation _
  | .retireFlushed _ => true
  | .queuePrivate .. | .queueDevice .. | .checked .. | .work _ => false

structure System where
  world : World
  session : Action Unit

namespace System

def start : System := ⟨{}, pure ()⟩

/-- A session begins with its ticket. -/
def begin (program : Nat → Action Unit) (system : System) : System :=
  match system.world.admission.begin with
  | (.ok ticket, admission) => ⟨{ system.world with admission := admission }, program ticket⟩
  | (.error _, admission) => { system with world := { system.world with admission := admission } }

def step (event : Event) (system : System) : System :=
  let world := system.world
  match event with
  | .activate input cover => system.begin (activationWorker input cover)
  | .migrate lease => system.begin (migrationWorker lease world.activeNamespace)
  | .session answer =>
    if world.ready answer then
      let next := system.session.step answer world
      ⟨next.2, next.1⟩
    else system
  | .shutdown =>
    { system with world := { world with admission := { world.admission with closed := true } } }
  | .beginOperation lease =>
    match world.namespaceOperations.beginOperation lease with
    | (.ok id, gate) =>
      { system with
        world := { world with namespaceOperations := gate
                              operations := (id, lease) :: world.operations } }
    | (.error _, gate) => { system with world := { world with namespaceOperations := gate } }
  | .dropOperation id lease =>
    if world.operations.contains (id, lease) then
      { system with
        world := { world with
          namespaceOperations := world.namespaceOperations.dropOperation id
          operations := world.operations.erase (id, lease) } }
    else system
  | .beginWork lease =>
    match world.activity.beginRecoveryUnit lease with
    | (.ok (), gate) =>
      { system with
        world := { world with activity := gate, permits := lease :: world.permits } }
    | (.error _, gate) => { system with world := { world with activity := gate } }
  | .endWork lease =>
    if world.permits.contains lease then
      { system with
        world := { world with
          activity := world.activity.dropPermit lease
          permits := world.permits.erase lease } }
    else system
  | .writer event =>
    if switches event then system else { system with world := world.writes event }

end System

end ArtForgeStudio.AccountTransition
