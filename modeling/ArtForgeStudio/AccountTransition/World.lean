import ArtForgeStudio.Api.Error
import ArtForgeStudio.Api.Requests
import ArtForgeStudio.ClientState.Guarantees
import ArtForgeStudio.Gates.NamespaceOperations
import ArtForgeStudio.Gates.UserActivity
import ArtForgeStudio.Library.Exclusive

/-! # Where an account's lease is active

The writer, the two gates and the active namespace are switched one after another, each under
a lock of its own. Only the session that holds the admission ticket switches them; the other
threads work, write and count beside it.
-/

namespace ArtForgeStudio.AccountTransition

open ArtForgeStudio.Api ArtForgeStudio.ClientState ArtForgeStudio.Concurrency ArtForgeStudio.Gates
open ArtForgeStudio.Session (checkedAdd1)

structure AccountTransitionAdmission where
  sequence : Nat := 0
  active : Option Nat := none
  closed : Bool := false

namespace AccountTransitionAdmission

variable (admission : AccountTransitionAdmission)

def begin : Except String Nat × AccountTransitionAdmission :=
  if admission.closed = false ∧ admission.active = none then
    match checkedAdd1 admission.sequence with
    | some id => (.ok id, { admission with sequence := id, active := some id })
    | none => (.error "account transition counter exhausted", { admission with closed := true })
  else (.error "账号切换正在进行", admission)

def dropTicket (id : Nat) : AccountTransitionAdmission :=
  if admission.active = some id then { admission with active := none } else admission

end AccountTransitionAdmission

structure CleanupDebt where
  credentials : Bool := false
  privateUi : Bool := false
  candidateWriter : Bool := false
  remoteLogout : Bool := false

namespace CleanupDebt

def isEmpty (debt : CleanupDebt) : Bool :=
  !debt.credentials && !debt.privateUi && !debt.candidateWriter && !debt.remoteLogout

def incompleteCredentialCleanup : String := "凭据清理及退出尚未完成；重启可能恢复保留的会话"

def display (debt : CleanupDebt) : String :=
  "；".intercalate <|
    (if debt.credentials then [incompleteCredentialCleanup] else []) ++
    (if debt.privateUi then ["退出界面清理未确认"] else []) ++
    (if debt.candidateWriter then ["候选账号存储清理未确认，当前登录保持关闭"] else []) ++
    (if debt.remoteLogout then ["远程退出未确认"] else [])

end CleanupDebt

def updateCleanupDebt (update : CleanupDebt → CleanupDebt) (slot : Option CleanupDebt) :
    Option CleanupDebt :=
  let debt := update (slot.getD {})
  if debt.isEmpty then none else some debt

/-- What a session waits for at a condition variable or a channel. -/
inductive Wait where
  | transition
  | activity
  | acknowledgement (queued : QueuedWrite)

/-- How a session ended. -/
inductive Ending where
  | activation
  /-- A migration ended before its durable commit; what was active when it began. -/
  | uncommitted (before : Option NamespaceLease)
  /-- A migration of a lease failed after its durable commit. -/
  | unfinished (old : NamespaceLease)
  | migrated
  deriving DecidableEq

structure World where
  admission : AccountTransitionAdmission := {}
  namespaceOperations : NamespaceOperationState NamespaceLease := {}
  activity : ActivityState NamespaceLease := {}
  writer : ClientState.System := .start
  activeNamespace : Option NamespaceLease := none
  cleanupFailure : Option CleanupDebt := none
  waiting : Option Wait := none
  /-- the operation guards of the other threads -/
  operations : List (Nat × NamespaceLease) := []
  /-- the activity permits of the other threads -/
  permits : List NamespaceLease := []
  ended : Option Ending := none

/-- What one action is told from outside; an action reads the members it asks for. -/
structure Answer where
  ok : Bool
  error : ApiError
  userNamespace : UserNamespace
  authEpoch : Nat
  data : String

namespace World

variable (world : World)

/-- The result of a command of the writer, once it is there. -/
def acknowledgement (queued : QueuedWrite) : Option WriteResult :=
  (world.writer.world.acknowledged.find? (·.1 = queued)).map (·.2)

/-- The wait of the session is over. A channel also ends when its other side goes. -/
def ready (answer : Answer) : Bool :=
  match world.waiting with
  | none => true
  | some .transition =>
    world.namespaceOperations.operation.isNone && world.namespaceOperations.transition.isNone
  | some .activity => world.activity.count = 0
  | some (.acknowledgement queued) => (world.acknowledgement queued).isSome || !answer.ok

def writes (event : ClientState.Event) : World :=
  { world with writer := world.writer.step event }

def owes (update : CleanupDebt → CleanupDebt) : World :=
  { world with cleanupFailure := updateCleanupDebt update world.cleanupFailure }

end World

abbrev Action := Program Unit World Answer
abbrev Fallible := ExceptT ApiError Action

def lock {α : Type} (action : World → α × World) : Action α := .atomic fun _ => action

def change (update : World → World) : Action Unit := lock fun world => ((), update world)

def attempt {ε α : Type} (action : World → Except ε α × World) : ExceptT ε Action α :=
  .mk (lock action)

/-- A call that changes nothing of this. -/
def outside : Fallible Unit :=
  .mk (.read fun answer _ => if answer.ok then .ok () else .error answer.error)

def ask : Action Bool := .read fun answer _ => answer.ok

def dropTransition (id : Nat) : Action Unit := change fun world =>
  { world with namespaceOperations := world.namespaceOperations.dropTransition id }

def admitted {α : Type} (result : Except String α × NamespaceOperationState NamespaceLease)
    (waiting : Option Wait) (world : World) : Except ApiError α × World :=
  (result.1.mapError transitionError,
    { world with namespaceOperations := result.2, waiting := waiting })

def beginTransition : Fallible Nat := do
  attempt fun world =>
    let result := world.namespaceOperations.registerTransition
    admitted result (if result.1.isOk then some .transition else none) world
  attempt fun world => admitted world.namespaceOperations.enterTransition none world

def tryBeginTransition : Fallible Nat :=
  attempt fun world => admitted world.namespaceOperations.tryBeginTransition none world

/-- The check of `begin_prepublication_recovery` and of `prepare_publication`. -/
def requireUnpublished (id : Nat) (error : String) : Fallible Unit :=
  attempt fun world =>
    (if world.namespaceOperations.unpublished id then .ok () else .error (transitionError error), world)

def dropQuiesced (lease : NamespaceLease) : Action Unit := change fun world =>
  { world with activity := world.activity.dropQuiesced lease }

def quiesced (result : Except String Unit × ActivityState NamespaceLease) (waiting : Option Wait)
    (world : World) : Except ApiError Unit × World :=
  (result.1.mapError transitionError, { world with activity := result.2, waiting := waiting })

def beginQuiesce (lease : NamespaceLease) : Fallible Unit := do
  attempt fun world =>
    let result := world.activity.registerQuiesce lease
    quiesced result (if result.1.isOk then some .activity else none) world
  attempt fun world => (.ok (), { world with waiting := none })

def tryQuiesce (lease : NamespaceLease) : Fallible Unit :=
  attempt fun world => quiesced (world.activity.tryQuiesce lease) none world

def retireQuiesced (lease : NamespaceLease) : Action Unit := change fun world =>
  { world with activity := world.activity.retire lease }

def prepareActivity : Fallible Unit :=
  attempt fun world => (world.activity.prepareActivation.mapError transitionError, world)

def setActiveNamespace (lease : Option NamespaceLease) : Action Unit := change fun world =>
  { world with activeNamespace := lease }

def dropReservation (reservation : Reservation) : Action Unit := change fun world =>
  world.writes (.dropReservation reservation)

/-- The lock of `flush_for_retirement`: the reservation, and whether its command was sent. -/
def registerRetirement (lease : NamespaceLease) :
    ExceptT ClientStateWriteError Action (Reservation × Bool) :=
  .mk (.atomic fun answer world =>
    let after := world.writes (.flushForRetirement lease answer.ok)
    let generation := after.writer.world.pending.sequence
    match (world.writer.world.flushForRetirement lease answer.ok).1 with
    | .ok () => (.ok (⟨lease, generation, false⟩, true),
        { after with waiting := some (.acknowledgement
            ⟨generation, .flushForRetirement lease generation⟩) })
    -- the checks in front of the reservation have other errors
    | .error (.localState _) => (.ok (⟨lease, generation, false⟩, false), after)
    | .error error => (.error error, after))

/-- The end of the wait: the flush is proved while its reservation lasts. -/
def proveFlushed (reservation : Reservation) :
    ExceptT ClientStateWriteError Action Reservation :=
  attempt fun world =>
    match world.acknowledgement ⟨reservation.generation,
        .flushForRetirement reservation.lease reservation.generation⟩ with
    | none => (.error localError, { world with waiting := none })
    | some (.error error) => (.error error, { world with waiting := none })
    | some (.ok ()) =>
      (if world.writer.world.holds reservation then .ok { reservation with flushed := true }
        else .error .staleLease, { world.writes (.flushed reservation) with waiting := none })

def flushForRetirement (lease : NamespaceLease) :
    ExceptT ClientStateWriteError Action Reservation := do
  let (reservation, sent) ← registerRetirement lease
  releasing (dropReservation reservation)
    (if sent then proveFlushed reservation else throw localError)

/-- `retire_flushed`: the gate is locked while the writer retires the proof's lease. -/
def retireFlushed (transition : Nat) (proof : Reservation) : Fallible Unit :=
  releasing (dropReservation proof) (attempt fun world =>
    match world.namespaceOperations.retireFlushed transition proof.lease with
    | (.ok (), gate) =>
      (.ok (), { world.writes (.retireFlushed proof) with namespaceOperations := gate })
    | (.error error, gate) =>
      (.error (transitionError error), { world with namespaceOperations := gate }))

def writerActivate (lease : NamespaceLease) : Fallible Unit :=
  attempt fun world =>
    ((world.writer.world.activate lease).1.mapError fun error => transitionError error.display,
      world.writes (.activate lease))

/-- A checked write and the wait for its result. -/
def persistChecked (write : CheckedWrite) : ExceptT ClientStateWriteError Action Unit := do
  let queued ← .mk (.atomic fun answer world =>
    let after := world.writes (.checked write answer.ok)
    let queued : QueuedWrite := ⟨after.writer.world.pending.sequence, .checked write⟩
    match (world.writer.world.checked write answer.ok).1 with
    | .ok () => (.ok queued, { after with waiting := some (.acknowledgement queued) })
    | .error error => (.error error, after))
  attempt fun world =>
    ((world.acknowledgement queued).getD (.error localError), { world with waiting := none })

def retryClientStateWrite (write : ExceptT ClientStateWriteError Action Unit) : Fallible Unit := do
  match ← ExceptT.lift write.run with
  | .ok () => pure ()
  | .error (.localState _) =>
    match ← ExceptT.lift write.run with
    | .ok () => pure ()
    | .error error => throw (transitionError error.display)
  | .error error => throw (transitionError error.display)

end ArtForgeStudio.AccountTransition
