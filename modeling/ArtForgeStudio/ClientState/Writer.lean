import ArtForgeStudio.Session.Manager
import ArtForgeStudio.Library.Concurrency

/-! # The writer of the client state

Producers leave snapshots in four slots or send commands to one worker, which alone writes the
database. A snapshot replaces the one that waits in its slot. Every lock of the pending state is
one action, and producers act between any two of them.
-/

namespace ArtForgeStudio.ClientState

open ArtForgeStudio.Session ArtForgeStudio.Concurrency

structure UserNamespace where
  userPublicId : String
  root : String
  mappings : List String
  deriving DecidableEq

structure NamespaceLease where
  userNamespace : UserNamespace
  authEpoch : Nat
  namespaceEpoch : Nat
  deriving DecidableEq

inductive ClientStateWriteError where
  | staleLease
  | retirementInProgress
  | authorityExhausted
  | localState (message : String)
  deriving DecidableEq

def ClientStateWriteError.display : ClientStateWriteError → String
  | staleLease => "用户命名空间已失效"
  | retirementInProgress => "用户命名空间正在停止写入"
  | authorityExhausted => "本地写入权限已关闭"
  | localState message => message

def localError : ClientStateWriteError := .localState "本地状态操作失败"

abbrev WriteResult := Except ClientStateWriteError Unit

/-- The first error of two results. -/
def both : WriteResult → WriteResult → WriteResult
  | .ok (), next => next
  | .error error, _ => .error error

inductive Slot where
  | store | profile | device | exportDirectory
  deriving DecidableEq

def Slot.isPrivate : Slot → Bool
  | store | profile => true
  | device | exportDirectory => false

/-- A snapshot with its place in the one order of all writes. Device snapshots have no lease. -/
structure Entry where
  sequence : Nat
  lease : Option NamespaceLease
  data : String
  deriving DecidableEq

/-- The commands that a caller waits for. -/
inductive CheckedWrite where
  | flushDevice
  | flush (lease : NamespaceLease)
  | localStore (lease : NamespaceLease) (data : String)
  | retainedRedemptionRead (lease : NamespaceLease) (clientRequestId : String)
  | userProfile (lease : NamespaceLease) (data : String)
  | deviceSettings (data : String)
  | exportDirectory (data : String)
  | selectedGroup (userPublicId deviceInstallationId accountGroupId : String)
  deriving DecidableEq

inductive ClientStateWrite where
  | wake (lease : NamespaceLease)
  | wakeDevice
  | flushForRetirement (lease : NamespaceLease) (generation : Nat)
  | checked (write : CheckedWrite)
  deriving DecidableEq

structure QueuedWrite where
  sequence : Nat
  command : ClientStateWrite
  deriving DecidableEq

/-- The lease that must be active for the command to be sent. -/
def CheckedWrite.owner : CheckedWrite → Option NamespaceLease
  | flush lease | localStore lease _ | retainedRedemptionRead lease _ | userProfile lease _ =>
    some lease
  | flushDevice | deviceSettings _ | exportDirectory _ | selectedGroup .. => none

structure SlotWrite where
  slot : Slot
  entry : Entry
  deriving DecidableEq

/-- The snapshot that a checked command carries. -/
def CheckedWrite.slotWrite (sequence : Nat) : CheckedWrite → Option SlotWrite
  | localStore lease data => some ⟨.store, sequence, some lease, data⟩
  | userProfile lease data => some ⟨.profile, sequence, some lease, data⟩
  | deviceSettings data => some ⟨.device, sequence, none, data⟩
  | exportDirectory data => some ⟨.exportDirectory, sequence, none, data⟩
  | flushDevice | flush _ | retainedRedemptionRead .. | selectedGroup .. => none

def QueuedWrite.slotWrite (queued : QueuedWrite) : Option SlotWrite :=
  match queued.command with
  | .checked write => write.slotWrite queued.sequence
  | .wake _ | .wakeDevice | .flushForRetirement .. => none

structure PendingClientState where
  active : Option NamespaceLease
  sequence : Nat
  retirement : Option Nat
  authorityExhausted : Bool
  slots : Slot → Option Entry
  privateWake : Bool
  deviceWake : Bool

namespace PendingClientState

def default : PendingClientState := ⟨none, 0, none, false, fun _ => none, false, false⟩

variable (pending : PendingClientState)

def require (lease : NamespaceLease) : WriteResult :=
  if pending.active = some lease then .ok () else .error .staleLease

def requireUnreserved : WriteResult :=
  if pending.authorityExhausted then .error .authorityExhausted
  else if pending.retirement.isSome then .error .retirementInProgress
  else .ok ()

def requireEnqueue (lease : NamespaceLease) : WriteResult :=
  both (pending.require lease) pending.requireUnreserved

/-- What a caller waits for may be sent without a lease. -/
def requireChecked : Option NamespaceLease → WriteResult
  | some lease => pending.requireEnqueue lease
  | none => .ok ()

/-- Device writes belong to nobody. -/
def requireOwner : Option NamespaceLease → WriteResult
  | some lease => pending.require lease
  | none => .ok ()

def nextSequence : Except ClientStateWriteError Nat × PendingClientState :=
  if pending.authorityExhausted then (.error .authorityExhausted, pending)
  else
    match checkedAdd1 pending.sequence with
    | some sequence => (.ok sequence, { pending with sequence })
    | none => (.error .authorityExhausted, { pending with authorityExhausted := true })

-- a wake that is queued already still runs: it cannot take what belongs to another lease
def clearPrivate : PendingClientState :=
  { pending with
    slots := fun slot => if slot.isPrivate then none else pending.slots slot
    privateWake := false }

def clearDevice : PendingClientState :=
  { pending with
    slots := fun slot => if slot.isPrivate then pending.slots slot else none
    deviceWake := false }

end PendingClientState

structure RetirementWriteDebt where
  slot : Slot
  lease : Option NamespaceLease
  sequence : Nat
  error : ClientStateWriteError

structure CommittedSequences where
  committed : Slot → Nat
  errors : Slot → Option (Option NamespaceLease × ClientStateWriteError)
  retirementDebts : List RetirementWriteDebt

namespace CommittedSequences

def default : CommittedSequences := ⟨fun _ => 0, fun _ => none, []⟩

def owes (slot : Slot) (lease : Option NamespaceLease) (debt : RetirementWriteDebt) : Bool :=
  debt.slot = slot ∧ debt.lease = lease

def owesNewer (slot : Slot) (lease : Option NamespaceLease) (sequence : Nat)
    (debts : List RetirementWriteDebt) : Bool :=
  match debts.find? (owes slot lease) with
  | some debt => decide (sequence < debt.sequence)
  | none => false

/-- The debts after a write of this sequence has failed or not. -/
def recordDebts (slot : Slot) (lease : Option NamespaceLease) (sequence : Nat)
    (result : WriteResult) (debts : List RetirementWriteDebt) : List RetirementWriteDebt :=
  if owesNewer slot lease sequence debts then debts
  else
    match result with
    | .ok () => debts.eraseP (owes slot lease)
    | .error error => debts.eraseP (owes slot lease) ++ [⟨slot, lease, sequence, error⟩]

def recordRetirementResult (slot : Slot) (lease : Option NamespaceLease) (sequence : Nat)
    (result : WriteResult) (last : CommittedSequences) : CommittedSequences :=
  { last with retirementDebts := recordDebts slot lease sequence result last.retirementDebts }

def retirementResult (lease : NamespaceLease) (last : CommittedSequences) : WriteResult :=
  match last.retirementDebts.find? (fun debt => debt.lease = none ∨ debt.lease = some lease) with
  | some debt => .error debt.error
  | none => .ok ()

def takeDeviceError (last : CommittedSequences) : WriteResult × CommittedSequences :=
  let result := match last.errors .device, last.errors .exportDirectory with
    | some (_, error), _ | none, some (_, error) => .error error
    | none, none => .ok ()
  (result, { last with errors := fun slot => if slot.isPrivate then last.errors slot else none })

def takePrivateError (lease : NamespaceLease) (last : CommittedSequences) :
    WriteResult × CommittedSequences :=
  let noted := (last.errors .store).toList ++ (last.errors .profile).toList
  let result := match noted.find? (fun note => note.1 = some lease) with
    | some note => .error note.2
    | none => .ok ()
  (result, { last with errors := fun slot => if slot.isPrivate then none else last.errors slot })

end CommittedSequences

/-- A write of the database: under which user, and which lease was active at its commit. -/
structure Written extends SlotWrite where
  user : Option String
  active : Option NamespaceLease
  deriving DecidableEq

/-- A retirement reservation, and whether it has become the proof of a flush. -/
structure Reservation where
  lease : NamespaceLease
  generation : Nat
  flushed : Bool
  deriving DecidableEq

/-- The pending state, the channel and the locals of the worker, with what happened so far:
writes, acknowledgements and accepted snapshots newest first, and every activation with the
sequence at which it was made. -/
structure World where
  pending : PendingClientState
  queue : List QueuedWrite
  received : Option QueuedWrite
  taken : Slot → Option Entry
  last : CommittedSequences
  reservations : List Reservation
  written : List Written
  accepted : List SlotWrite
  acknowledged : List (QueuedWrite × WriteResult)
  activated : List (NamespaceLease × Nat)
  sendFailed : Bool

namespace World

def start : World :=
  ⟨.default, [], none, fun _ => none, .default, [], [], [], [], [], false⟩

/-- The commands whose processing has not begun. -/
def commands (world : World) : List QueuedWrite := world.received.toList ++ world.queue

def activate (lease : NamespaceLease) (world : World) : WriteResult × World :=
  match world.pending.requireUnreserved with
  | .error error => (.error error, world)
  | .ok () => (.ok (),
      { world with
        pending := { world.pending.clearPrivate with active := some lease }
        activated := (lease, world.pending.sequence) :: world.activated })

def deactivate (lease : NamespaceLease) (world : World) : WriteResult × World :=
  match world.pending.requireEnqueue lease with
  | .error error => (.error error, world)
  | .ok () => (.ok (), { world with pending := { world.pending.clearPrivate with active := none } })

def send (queued : QueuedWrite) (sent : Bool) (world : World) : WriteResult × World :=
  if sent then (.ok (), { world with queue := world.queue ++ [queued] })
  else (.error localError, { world with sendFailed := true })

/-- The next sequence, if there is one left. -/
def sequenced (world : World) (use : Nat → World → WriteResult × World) : WriteResult × World :=
  match world.pending.nextSequence with
  | (.error error, pending) => (.error error, { world with pending })
  | (.ok sequence, pending) => use sequence { world with pending }

/-- The snapshot in its slot. It counts as accepted even if its wake cannot be sent. -/
def fill (slot : Slot) (lease : Option NamespaceLease) (data : Option String) (sequence : Nat)
    (world : World) : World :=
  match data with
  | none => world
  | some data =>
    { world with
      pending := { world.pending with
        slots := Function.update world.pending.slots slot (some ⟨sequence, lease, data⟩) }
      accepted := ⟨slot, sequence, lease, data⟩ :: world.accepted }

def wakePrivate (lease : NamespaceLease) (sequence : Nat) (sent : Bool) (world : World) :
    WriteResult × World :=
  if world.pending.privateWake then (.ok (), world)
  else
    match world.send ⟨sequence, .wake lease⟩ sent with
    | (.error error, world) => (.error error, world)
    | (.ok (), world) => (.ok (), { world with pending := { world.pending with privateWake := true } })

def wakeDevice (sequence : Nat) (sent : Bool) (world : World) : WriteResult × World :=
  if world.pending.deviceWake then (.ok (), world)
  else
    match world.send ⟨sequence, .wakeDevice⟩ sent with
    | (.error error, world) => (.error error, world)
    | (.ok (), world) => (.ok (), { world with pending := { world.pending with deviceWake := true } })

def queuePrivate (lease : NamespaceLease) (store profile : Option String) (sent : Bool)
    (world : World) : WriteResult × World :=
  match world.pending.requireEnqueue lease with
  | .error error => (.error error, world)
  | .ok () => world.sequenced fun sequence world =>
      ((world.fill .store (some lease) store sequence).fill .profile (some lease) profile
        sequence).wakePrivate lease sequence sent

/-- The settings are normalized and the directory is validated before. -/
def queueDevice (settings directory : Option String) (sent : Bool) (world : World) :
    WriteResult × World :=
  world.sequenced fun sequence world =>
    ((world.fill .device none settings sequence).fill .exportDirectory none directory
      sequence).wakeDevice sequence sent

def checked (write : CheckedWrite) (sent : Bool) (world : World) : WriteResult × World :=
  match world.pending.requireChecked write.owner with
  | .error error => (.error error, world)
  | .ok () => world.sequenced fun sequence world =>
      match world.send ⟨sequence, .checked write⟩ sent with
      | (.error error, world) => (.error error, world)
      | (.ok (), world) => (.ok (),
          { world with accepted := (write.slotWrite sequence).toList ++ world.accepted })

/-- The lock of the retirement and its command. The reservation exists before the send can fail. -/
def flushForRetirement (lease : NamespaceLease) (sent : Bool) (world : World) :
    WriteResult × World :=
  match world.pending.requireEnqueue lease with
  | .error error => (.error error, world)
  | .ok () => world.sequenced fun generation world =>
      { world with
        pending := { world.pending with retirement := some generation }
        reservations := ⟨lease, generation, false⟩ :: world.reservations }.send
        ⟨generation, .flushForRetirement lease generation⟩ sent

def holds (reservation : Reservation) (world : World) : Bool :=
  world.pending.retirement = some reservation.generation ∧
    world.pending.active = some reservation.lease

def forget (reservation : Reservation) (world : World) : World :=
  { world with reservations := world.reservations.filter (· ≠ reservation) }

/-- The reservation is gone, and the retirement with it if it is still the one reserved. -/
def dropReservation (reservation : Reservation) (world : World) : World :=
  if world.holds reservation then
    { world.forget reservation with pending := { world.pending with retirement := none } }
  else world.forget reservation

/-- The end of the wait in `flushForRetirement`: the reservation becomes the proof or is dropped. -/
def flushed (reservation : Reservation) (world : World) : World :=
  match world.acknowledged.find? (fun note => note.1 =
      ⟨reservation.generation, .flushForRetirement reservation.lease reservation.generation⟩) with
  | none => world
  | some (_, .error _) => world.dropReservation reservation
  | some (_, .ok ()) =>
    if world.holds reservation then
      { world with
        reservations := { reservation with flushed := true } ::
          (world.forget reservation).reservations }
    else world.dropReservation reservation

def retireFlushed (reservation : Reservation) (world : World) : World :=
  if world.holds reservation then
    { world.forget reservation with
      pending := { world.pending.clearPrivate with active := none, retirement := none } }
  else
    { world.forget reservation with
      pending := { world.pending with authorityExhausted := true } }

def takePrivate (lease : NamespaceLease) (world : World) : WriteResult × World :=
  match world.pending.require lease with
  | .error error => (.error error, world)
  | .ok () => (.ok (),
      { world with
        pending := world.pending.clearPrivate
        taken := fun slot =>
          if slot.isPrivate then world.pending.slots slot else world.taken slot })

def takeDevice (world : World) : World :=
  { world with
    pending := world.pending.clearDevice
    taken := fun slot => if slot.isPrivate then world.taken slot else world.pending.slots slot }

/-- The guard spans the commit: no other lease can become active between the check and it. -/
def commit (write : SlotWrite) (writes : Bool) (world : World) : WriteResult × World :=
  match world.pending.requireOwner write.entry.lease with
  | .error error => (.error error, world)
  | .ok () =>
    if write.entry.sequence ≤ world.last.committed write.slot then (.ok (), world)
    else if writes then (.ok (),
      { world with
        written := ⟨write, write.entry.lease.map (·.userNamespace.userPublicId),
          world.pending.active⟩ :: world.written
        last := { world.last with
          committed := Function.update world.last.committed write.slot write.entry.sequence } })
    else (.error localError, world)

/-- A commit with its debt: none is recorded for a write that came too late. -/
def settle (write : SlotWrite) (writes : Bool) (world : World) : WriteResult × World :=
  let before := world.last.committed write.slot
  let (result, world) := world.commit write writes
  if result ≠ .ok () ∨ before < world.last.committed write.slot then
    (result,
      { world with
        last := world.last.recordRetirementResult write.slot write.entry.lease
          write.entry.sequence result })
  else (result, world)

/-- The snapshot that the worker took from the slot. The error of a device write stays noted when
a snapshot came too late, that of a private write does not. -/
def settleTaken (slot : Slot) (writes : Bool) (world : World) : WriteResult × World :=
  match world.taken slot with
  | none => (.ok (), world)
  | some entry =>
    let late := decide (entry.sequence ≤ world.last.committed slot)
    let (result, world) := world.settle ⟨slot, entry⟩ writes
    let note := match result with
      | .ok () => none
      | .error error => some (entry.lease, error)
    let noted := if late && !slot.isPrivate then world.last.errors
      else Function.update world.last.errors slot note
    (result,
      { world with
        taken := Function.update world.taken slot none
        last := { world.last with errors := noted } })

def requireRetirement (lease : NamespaceLease) (generation : Nat) (world : World) : WriteResult :=
  both (world.pending.require lease)
    (if world.pending.retirement = some generation then .ok () else .error .staleLease)

end World

abbrev Action := Program Unit World Bool

/-- An action of the worker: the command it received is being processed from here on. The answer
says whether a write of the database succeeds. -/
def act {α : Type} (action : Bool → World → α × World) : Action α :=
  .atomic fun writes world => action writes { world with received := none }

def drainPrivate (lease : NamespaceLease) : Action WriteResult := do
  match ← act fun _ world => world.takePrivate lease with
  | .error error => pure (.error error)
  | .ok () =>
    let store ← act fun writes world => world.settleTaken .store writes
    let profile ← act fun writes world => world.settleTaken .profile writes
    pure (both store profile)

def drainDevice : Action WriteResult := do
  act fun _ world => ((), world.takeDevice)
  let settings ← act fun writes world => world.settleTaken .device writes
  let directory ← act fun writes world => world.settleTaken .exportDirectory writes
  pure (both settings directory)

def takeDeviceError : Action WriteResult :=
  act fun _ world =>
    let (result, last) := world.last.takeDeviceError
    (result, { world with last })

def takePrivateError (lease : NamespaceLease) : Action WriteResult :=
  act fun _ world =>
    let (result, last) := world.last.takePrivateError lease
    (result, { world with last })

def acknowledge (queued : QueuedWrite) (result : WriteResult) : Action Unit :=
  act fun _ world => ((), { world with acknowledged := (queued, result) :: world.acknowledged })

def process (queued : QueuedWrite) : Action Unit :=
  match queued.command with
  | .wake lease => do
    let _ ← drainPrivate lease
    pure ()
  | .wakeDevice => do
    let _ ← drainDevice
    pure ()
  | .flushForRetirement lease generation => do
    match ← act fun _ world => (world.requireRetirement lease generation, world) with
    | .error error => acknowledge queued (.error error)
    | .ok () =>
      let device ← drainDevice
      let owned ← drainPrivate lease
      let debts ← act fun _ world => (world.last.retirementResult lease, world)
      acknowledge queued (both (both device owned) debts)
  | .checked .flushDevice => do
    let result ← drainDevice
    let prior ← takeDeviceError
    acknowledge queued (both result prior)
  | .checked (.flush lease) => do
    let device ← drainDevice
    let owned ← drainPrivate lease
    let priorDevice ← takeDeviceError
    let priorPrivate ← takePrivateError lease
    acknowledge queued (both (both (both device owned) priorDevice) priorPrivate)
  | .checked (.localStore lease data) => do
    let result ← act fun writes world =>
      world.settle ⟨.store, queued.sequence, some lease, data⟩ writes
    acknowledge queued result
  | .checked (.userProfile lease data) => do
    let result ← act fun writes world =>
      world.settle ⟨.profile, queued.sequence, some lease, data⟩ writes
    acknowledge queued result
  | .checked (.deviceSettings data) => do
    let result ← act fun writes world => world.settle ⟨.device, queued.sequence, none, data⟩ writes
    acknowledge queued result
  | .checked (.exportDirectory data) => do
    let result ← act fun writes world => world.settle
      ⟨.exportDirectory, queued.sequence, none, data⟩ writes
    acknowledge queued result
  | .checked (.retainedRedemptionRead lease _) => do
    -- the record read goes to the caller only
    let result ← act fun reads world =>
      (both (world.pending.require lease) (if reads then .ok () else .error localError), world)
    acknowledge queued result
  | .checked (.selectedGroup ..) => do
    -- another table, which no slot covers
    let result ← act fun writes world => (if writes then .ok () else .error localError, world)
    acknowledge queued result

inductive Event where
  | activate (lease : NamespaceLease)
  | deactivate (lease : NamespaceLease)
  | queuePrivate (lease : NamespaceLease) (store profile : Option String) (sent : Bool)
  | queueDevice (settings directory : Option String) (sent : Bool)
  | checked (write : CheckedWrite) (sent : Bool)
  | flushForRetirement (lease : NamespaceLease) (sent : Bool)
  | flushed (reservation : Reservation)
  | dropReservation (reservation : Reservation)
  | retireFlushed (reservation : Reservation)
  | work (writes : Bool)

structure System where
  world : World
  worker : Action Unit

namespace System

def start : System := ⟨.start, pure ()⟩

/-- A producer's step, or the next one of the worker: it receives a command when it is idle. -/
def step (event : Event) (system : System) : System :=
  let producer (world : World) : System := { system with world }
  match event with
  | .activate lease => producer (system.world.activate lease).2
  | .deactivate lease => producer (system.world.deactivate lease).2
  | .queuePrivate lease store profile sent =>
    producer (system.world.queuePrivate lease store profile sent).2
  | .queueDevice settings directory sent =>
    producer (system.world.queueDevice settings directory sent).2
  | .checked write sent => producer (system.world.checked write sent).2
  | .flushForRetirement lease sent => producer (system.world.flushForRetirement lease sent).2
  | .flushed reservation =>
    if reservation ∈ system.world.reservations ∧ reservation.flushed = false then
      producer (system.world.flushed reservation)
    else system
  | .dropReservation reservation =>
    if reservation ∈ system.world.reservations then
      producer (system.world.dropReservation reservation)
    else system
  | .retireFlushed reservation =>
    if reservation ∈ system.world.reservations ∧ reservation.flushed = true then
      producer (system.world.retireFlushed reservation)
    else system
  | .work writes =>
    match system.worker with
    | .ret () =>
      match system.world.queue with
      | [] => system
      | queued :: rest =>
        ⟨{ system.world with queue := rest, received := some queued }, process queued⟩
    | .act _ update next => ⟨update writes system.world, next writes system.world⟩

end System

end ArtForgeStudio.ClientState
