import ArtForgeStudio.Inbox.Notices
import ArtForgeStudio.Library.Runs

/-! # The notice center

One window thread keeps the notices of the account and shows announcements. It sends requests that
other threads answer later and in any order, while the user acts on the notices, leaves the account
and enters another.
-/

namespace ArtForgeStudio.Inbox

open ArtForgeStudio.Api ArtForgeStudio.LocalStore

/-- The account that a request belongs to: the binding of its storage and the scope of its session. -/
structure Capture where
  lease : Nat
  scope : Nat
deriving DecidableEq

/-- A request, with what the window has noted when it sent it. -/
inductive Request where
  | operation (epoch : Nat)
  | page (epoch : Nat) (append : Bool)
  | check (epoch binding : Nat)
  | claim (epoch binding : Nat) (expected : String)
  | shown
deriving DecidableEq

structure Pending where
  id : Nat
  capture : Capture
  request : Request

structure Pagination where
  loading : Bool := false
  hasMore : Bool := false
  nextCursor : String := ""

/-- The notices of the store, under the binding of its storage. -/
structure Store where
  persistence : Option Nat
  notifications : List NotificationData
  pageEpoch : Nat
  page : Pagination

/-- `AnnouncementRuntime`, whether an announcement is open, and what was granted and shown so far under
each binding. -/
structure Popup where
  binding : Option Capture
  schedule : AnnouncementSchedule
  queue : List ServerNotification
  ready : Option ServerNotification
  currentId : Option String
  claiming : Bool
  batchClosed : Bool
  bindingEpoch : Nat
  announcementOpen : Bool
  grants : List (Nat × String)
  shows : List (Nat × String)

structure Center where
  store : Store
  popup : Popup
  pending : List Pending
  next : Nat

/-- What the outside says to the looks that one turn takes at it, in the order in which it does. -/
structure Outside where
  scope : Option Nat := none
  captured : Bool := false
  bound : Bool := false
  updating : Bool := false
  prepared : Bool := false
  completes : Bool := false
  enqueued : Bool := false
  showing : Bool := false
  shown : Bool := false
  stopping : Bool := false
  stopped : Bool := false
  spawning : Bool := false
  spawned : Bool := false
  ended : Bool := false

def epochBound : Nat := 0x10000000000000000

namespace Center

def withStore (center : Center) (store : Store) : Center := { center with store := store }

def withPopup (center : Center) (popup : Popup) : Center := { center with popup := popup }

/-- The request is on its way, under the next number. -/
def send (center : Center) (capture : Capture) (request : Request) : Center :=
  { center with
    pending := ⟨center.next, capture, request⟩ :: center.pending
    next := center.next + 1 }

section Setters

variable {center : Center} {store : Store} {popup : Popup} {capture : Capture} {request : Request}

@[simp] theorem withStore_store : (center.withStore store).store = store := rfl
@[simp] theorem withStore_popup : (center.withStore store).popup = center.popup := rfl
@[simp] theorem withStore_pending : (center.withStore store).pending = center.pending := rfl
@[simp] theorem withStore_next : (center.withStore store).next = center.next := rfl
@[simp] theorem withPopup_store : (center.withPopup popup).store = center.store := rfl
@[simp] theorem withPopup_popup : (center.withPopup popup).popup = popup := rfl
@[simp] theorem withPopup_pending : (center.withPopup popup).pending = center.pending := rfl
@[simp] theorem withPopup_next : (center.withPopup popup).next = center.next := rfl
@[simp] theorem send_store : (center.send capture request).store = center.store := rfl
@[simp] theorem send_popup : (center.send capture request).popup = center.popup := rfl
@[simp] theorem send_next : (center.send capture request).next = center.next + 1 := rfl
@[simp] theorem send_pending : (center.send capture request).pending =
    ⟨center.next, capture, request⟩ :: center.pending := rfl

end Setters

variable (clock : Clock) (o : Outside) (capture : Capture) (center : Center)

/-- `NotificationCapture::is_current`; all but the binding of the store is asked of the outside. -/
def isCurrent (admitted : Bool) : Bool := center.store.persistence = some capture.lease && admitted

/-- `NotificationCapture::new` -/
def newCapture : Option Capture :=
  match center.store.persistence, o.scope with
  | some lease, some scope => if o.captured then some ⟨lease, scope⟩ else none
  | _, _ => none

/-- `binding_matches` of the announcements -/
def bindingMatches : Bool :=
  center.isCurrent capture o.bound && center.popup.binding = some capture

def updateNotificationStore (epoch : Option Nat) (update : Store → Store) : Bool × Center :=
  if center.isCurrent capture o.updating && o.prepared && o.completes &&
      center.store.persistence = some capture.lease && epoch.all (· = center.store.pageEpoch) then
    (o.enqueued, center.withStore (update center.store))
  else (false, center)

def applyNotificationUi (apply : Center → Center) : Option Center :=
  if center.isCurrent capture o.showing && o.shown &&
      center.store.persistence = some capture.lease then some (apply center)
  else none

def spawnNotificationThread (request : Request) : Option Center :=
  if center.isCurrent capture o.spawning && o.spawned then some (center.send capture request)
  else none

def setLoading (loading : Bool) (store : Store) : Store :=
  { store with page := { store.page with loading := loading } }

/-- The list stops loading, if it is still at the epoch. -/
def stopLoading (epoch : Nat) : Center :=
  let o := { o with showing := o.stopping, shown := o.stopped }
  (center.applyNotificationUi o capture fun center =>
    if center.store.pageEpoch = epoch then center.withStore (setLoading false center.store)
    else center).getD center

/-- `notification_error`; the end of a session signs the account out, which is a turn of its own. -/
def notificationError (epoch : Nat) : Center :=
  if o.ended then center else center.stopLoading o capture epoch

def actionUpdate (action : NotificationAction) (store : Store) : Store :=
  { store with
    pageEpoch := store.pageEpoch + 1
    notifications := action.apply store.notifications
    page := if action = .clear then {} else { store.page with loading := false } }

def startNotificationOperation (action : NotificationAction) : Center :=
  match center.newCapture o with
  | none => center
  | some capture =>
    if center.store.pageEpoch + 1 < epochBound then
      let (saved, center) := center.updateNotificationStore o capture none (actionUpdate action)
      if saved then
        (center.spawnNotificationThread o capture (.operation center.store.pageEpoch)).getD
          (center.notificationError o capture center.store.pageEpoch)
      else center
    else center

def pageUpdate (append : Bool) (store : Store) : Store :=
  { store with
    pageEpoch := store.pageEpoch + 1
    page :=
      { loading := true
        hasMore := append && store.page.hasMore
        nextCursor := if append then store.page.nextCursor else "" } }

def startNotificationPage (append : Bool) : Center :=
  match center.newCapture o with
  | none => center
  | some capture =>
    if center.store.pageEpoch + 1 < epochBound then
      match center.applyNotificationUi o capture fun center =>
          center.withStore (pageUpdate append center.store) with
      | none => center
      | some center =>
        (center.spawnNotificationThread o capture (.page center.store.pageEpoch append)).getD
          (center.notificationError o capture center.store.pageEpoch)
    else center

def loadMoreNotifications (later : Outside) : Center :=
  match center.newCapture o with
  | none => center
  | some capture =>
    if center.store.page.loading || !center.store.page.hasMore then center
    else if trimIsEmpty center.store.page.nextCursor then
      (center.applyNotificationUi o capture fun center => center.withStore
        { center.store with page := { center.store.page with hasMore := false } }).getD center
    else center.startNotificationPage later true

/-- The page of the server comes into the store at the epoch at which it was asked for. -/
def answerUpdate (append : Bool) (items : List ServerNotification) (nextCursor : Option String)
    (store : Store) : Store :=
  { store with
    notifications := applyPage clock append items store.notifications
    page :=
      { loading := false
        hasMore := !trimIsEmpty (nextCursor.getD "")
        nextCursor := nextCursor.getD "" } }

def completeOperation (later : Outside) (epoch : Nat) (failed : Bool) : Center :=
  if failed then
    let center := center.notificationError o capture epoch
    if !o.ended && center.isCurrent capture o.bound && center.store.pageEpoch = epoch then
      center.startNotificationPage later false
    else center
  else center

def completePage (epoch : Nat) (append : Bool)
    (result : Option (List ServerNotification × Option String)) : Center :=
  match result with
  | none => center.notificationError o capture epoch
  | some (items, nextCursor) =>
    let (updated, center) := center.updateNotificationStore o capture (some epoch)
      (answerUpdate clock append items nextCursor)
    if updated then center else center.stopLoading o capture epoch

def clearAnnouncementAccountState : Center :=
  { center with
    popup :=
      { center.popup with
        binding := none
        bindingEpoch := center.next
        schedule := center.popup.schedule.reset
        queue := []
        ready := none
        currentId := none
        claiming := false
        batchClosed := false
        announcementOpen := false }
    next := center.next + 1 }

def requestAnnouncementCheck (online force : Bool) (now : Nat) : Center :=
  match center.newCapture o with
  | none => center
  | some capture =>
    if !online || !center.bindingMatches o capture then center
    else
      let periodic := center.popup.schedule.due now
      if !periodic && (!force || center.popup.schedule.inFlight) then center
      else
        let started := center.withPopup
          { center.popup with
            schedule := center.popup.schedule.started now
            batchClosed := !periodic && center.popup.batchClosed }
        (started.spawnNotificationThread o capture
            (.check center.store.pageEpoch center.popup.bindingEpoch)).getD
          (started.withPopup
            { started.popup with schedule := started.popup.schedule.finished false now })

def mergeUpdate (items : List ServerNotification) (store : Store) : Store :=
  { store with notifications := mergeAnnouncements clock items store.notifications }

def completeCheck (epoch binding : Nat) (result : Option (List ServerNotification)) (now : Nat)
    (instant : Int) : Center :=
  if !center.bindingMatches o capture || center.popup.bindingEpoch ≠ binding then center
  else
    let center := center.withPopup
      { center.popup with schedule := center.popup.schedule.finished result.isSome now }
    match result with
    | none => center
    | some items =>
      if center.store.pageEpoch ≠ epoch then center
      else
        let items := (items.take 50).filter (announcementIsEligible clock · instant)
        let (updated, center) :=
          center.updateNotificationStore o capture (some epoch) (mergeUpdate clock items)
        if updated then center.withPopup { center.popup with queue := items } else center

def claimAnnouncement (id : String) : Center :=
  let claiming := center.withPopup { center.popup with claiming := true }
  (claiming.spawnNotificationThread o capture
      (.claim center.store.pageEpoch center.popup.bindingEpoch id)).getD
    (claiming.withPopup { claiming.popup with claiming := false })

/-- What the server says to a claim is noted whether or not it still counts. -/
def completeClaim (epoch binding : Nat) (expected : String)
    (result : Option (Bool × Option ServerNotification)) (instant : Int) : Center :=
  let center :=
    match result with
    | some (true, some item) =>
      center.withPopup { center.popup with grants := (binding, item.id) :: center.popup.grants }
    | _ => center
  if !center.bindingMatches o capture || center.popup.bindingEpoch ≠ binding then center
  else
    let center := center.withPopup { center.popup with claiming := false }
    if center.store.pageEpoch ≠ epoch then center
    else
      match result with
      | some (true, some item) =>
        if item.id = expected && announcementIsEligible clock item instant then
          center.withPopup { center.popup with ready := some item }
        else center
      | _ => center

/-- `queued_announcement_can_show` -/
def queuedAnnouncementCanShow (item : ServerNotification) (instant : Int) : Bool :=
  announcementIsEligible clock item instant &&
    center.store.notifications.any fun stored =>
      stored.id = item.id && stored.announcement && !stored.read

def showAnnouncement (item : ServerNotification) : Center :=
  match center.applyNotificationUi o capture fun center => center.withPopup
      { center.popup with
        announcementOpen := true
        currentId := some item.id
        shows := (center.popup.bindingEpoch, item.id) :: center.popup.shows } with
  | none => center
  | some center => (center.spawnNotificationThread o capture .shown).getD center

/-- An item of the queue that is worth a claim. -/
def worthClaiming (instant : Int) (item : ServerNotification) : Bool :=
  center.store.notifications.any (fun existing => existing.id = item.id && !existing.read) &&
    announcementIsEligible clock item instant

/-- The rest of a tick, once the checks are under way: what is ready is shown, else the next of the
queue is claimed. -/
def presentAnnouncement (uiReady : Bool) (instant : Int) : Center :=
  if !uiReady || center.popup.announcementOpen || center.popup.batchClosed then center
  else
    match center.popup.ready with
    | some item =>
      let center := center.withPopup { center.popup with ready := none }
      if center.queuedAnnouncementCanShow clock item instant then
        center.showAnnouncement o capture item
      else center
    | none =>
      if center.popup.claiming then center
      else
        match center.popup.queue.dropWhile fun item => !center.worthClaiming clock instant item with
        | [] => center.withPopup { center.popup with queue := [] }
        | item :: rest =>
          let center := center.withPopup { center.popup with queue := rest }
          center.claimAnnouncement o capture item.id

def announcementTick (check show_ : Outside) (online uiReady : Bool) (now : Nat) (instant : Int) :
    Center :=
  match (center.newCapture o).filter fun _ => online with
  | none =>
    if center.popup.binding.isSome || center.popup.announcementOpen then
      center.clearAnnouncementAccountState
    else center
  | some capture =>
    let center :=
      if center.bindingMatches o capture then center
      else
        let cleared := center.clearAnnouncementAccountState
        cleared.withPopup { cleared.popup with binding := some capture }
    (center.requestAnnouncementCheck check online false now).presentAnnouncement clock show_ capture
      uiReady instant

/-- A notice of the list is opened once more; nothing is claimed for it. -/
def openAnnouncement (id : String) : Center :=
  match center.newCapture o with
  | none => center
  | some capture =>
    match center.store.notifications.find? fun item => item.id = id && item.announcement with
    | none => center
    | some item =>
      (center.applyNotificationUi o capture fun center => center.withPopup
        { center.popup with announcementOpen := true, currentId := some item.id }).getD center

def closeAnnouncement : Center :=
  let id := center.popup.currentId
  let closed := center.withPopup
    { center.popup with
      batchClosed := true
      queue := []
      ready := none
      currentId := none
      announcementOpen := false }
  match id with
  | none => closed
  | some id => closed.startNotificationOperation o (.read id)

/-- `clear_notification_account_state` -/
def clearNotificationAccountState : Center :=
  let cleared := center.clearAnnouncementAccountState
  cleared.withStore
    { cleared.store with
      notifications := []
      pageEpoch := min (cleared.store.pageEpoch + 1) (epochBound - 1)
      page := {} }

/-- The store of an account that is left is a new one. -/
def retire : Center := center.clearNotificationAccountState.withStore ⟨none, [], 0, {}⟩

/-- The store of an account that is entered is read from its storage under a new binding. -/
def publish (loaded : List NotificationData) : Center :=
  { center with
    store := ⟨some center.next, loaded, 0, {}⟩
    next := center.next + 1 }

/-- `finish_directory_migration_ui`: the store that is there goes on under the binding of the migrated
account. -/
def finishDirectoryMigration (active : Bool) : Center :=
  if active then
    { center with
      store := { center.store with persistence := some center.next }
      next := center.next + 1 }
  else center

/-- A notice of the client's own, before all others. -/
def insertOwn (notice : NotificationData) : Center :=
  center.withStore { center.store with notifications := notice :: center.store.notifications }

/-- The save of an own notice failed: it is taken back if it is still the first. -/
def withdrawOwn (id : String) : Center :=
  if (center.store.notifications.head?.map (·.id)) = some id then
    center.withStore { center.store with notifications := center.store.notifications.tail }
  else center

end Center

/-- The answer to a request. -/
inductive Answer where
  | operation (failed : Bool)
  | page (result : Option (List ServerNotification × Option String))
  | check (result : Option (List ServerNotification))
  | claim (result : Option (Bool × Option ServerNotification))

inductive Turn where
  | operate (o : Outside) (action : NotificationAction)
  | refresh (o : Outside)
  | loadMore (o later : Outside)
  | check (o : Outside) (online force : Bool) (now : Nat)
  | tick (o check show_ : Outside) (online uiReady : Bool) (now : Nat) (instant : Int)
  | openAnnouncement (o : Outside) (id : String)
  | closeAnnouncement (o : Outside)
  | answer (o later : Outside) (id : Nat) (answer : Answer) (now : Nat) (instant : Int)
  | clear
  | retire
  | publish (loaded : List NotificationData)
  | finishDirectoryMigration (active : Bool)
  | insertOwn (notice : NotificationData)
  | withdrawOwn (id : String)

/-- The timer of a request meets its answer. The end of the session is no answer to a check or a
claim; `ended` signs the account out. -/
def completeRequest (clock : Clock) (o later : Outside) (pending : Pending) (answer : Answer)
    (now : Nat) (instant : Int) (center : Center) : Center :=
  match pending.request, answer with
  | .operation epoch, .operation failed =>
    center.completeOperation o pending.capture later epoch failed
  | .page epoch append, .page result => center.completePage clock o pending.capture epoch append result
  | .check epoch binding, .check result =>
    if o.ended then center
    else center.completeCheck clock o pending.capture epoch binding result now instant
  | .claim epoch binding expected, .claim result =>
    if o.ended then center
    else center.completeClaim clock o pending.capture epoch binding expected result instant
  | _, _ => center

def turn (clock : Clock) : Turn → Center → Center
  | .operate o action, center => center.startNotificationOperation o action
  | .refresh o, center => center.startNotificationPage o false
  | .loadMore o later, center => center.loadMoreNotifications o later
  | .check o online force now, center => center.requestAnnouncementCheck o online force now
  | .tick o check show_ online uiReady now instant, center =>
    center.announcementTick clock o check show_ online uiReady now instant
  | .openAnnouncement o id, center => center.openAnnouncement o id
  | .closeAnnouncement o, center => center.closeAnnouncement o
  | .answer o later id answer now instant, center =>
    match center.pending.find? (·.id = id) with
    | none => center
    | some pending =>
      completeRequest clock o later pending answer now instant
        { center with pending := center.pending.filter (·.id ≠ id) }
  | .clear, center => center.clearNotificationAccountState
  | .retire, center => center.retire
  | .publish loaded, center => center.publish loaded
  | .finishDirectoryMigration active, center => center.finishDirectoryMigration active
  | .insertOwn notice, center => center.insertOwn notice
  | .withdrawOwn id, center => center.withdrawOwn id

end ArtForgeStudio.Inbox
