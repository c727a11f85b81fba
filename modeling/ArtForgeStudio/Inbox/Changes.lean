import ArtForgeStudio.Inbox.Turns
import Mathlib.Logic.Relation

/-! # Changes of the notice center

Every turn is a chain of a few changes, apart from those that bring notices from the storage or from
the client itself.
-/

namespace ArtForgeStudio.Inbox

open ArtForgeStudio.Api ArtForgeStudio.LocalStore

/-- The epoch of the list that a request was sent at. -/
def Request.epoch : Request → Nat
  | .operation epoch | .page epoch _ | .check epoch _ | .claim epoch _ _ => epoch
  | .shown => 0

/-- Whether a request is a check of the announcements under this binding. -/
def Request.IsCheck (binding : Nat) : Request → Prop
  | .check _ binding' => binding' = binding
  | _ => False

def Request.IsClaim (binding : Nat) : Request → Prop
  | .claim _ binding' _ => binding' = binding
  | _ => False

instance (binding : Nat) : DecidablePred (Request.IsCheck binding)
  | .check _ binding' => inferInstanceAs (Decidable (binding' = binding))
  | .operation _ | .page _ _ | .claim _ _ _ | .shown => inferInstanceAs (Decidable False)

instance (binding : Nat) : DecidablePred (Request.IsClaim binding)
  | .claim _ binding' _ => inferInstanceAs (Decidable (binding' = binding))
  | .operation _ | .page _ _ | .check _ _ | .shown => inferInstanceAs (Decidable False)

/-- What a turn can do to the center while it holds the request that it answers, where the answer
brings these notices. -/
inductive Change (clock : Clock) (held : Option Pending) (brought : List NotificationData)
    (center : Center) : Center → Prop
  | page (page : Pagination) : Change clock held brought center
      (center.withStore { center.store with page := page })
  | asked (page : Pagination) (hnext : center.store.pageEpoch + 1 < epochBound) :
      Change clock held brought center (center.withStore
        { center.store with pageEpoch := center.store.pageEpoch + 1, page := page })
  | acted (action : NotificationAction) (page : Pagination)
      (hnext : center.store.pageEpoch + 1 < epochBound) :
      Change clock held brought center (center.withStore
        { center.store with
          pageEpoch := center.store.pageEpoch + 1
          notifications := action.apply center.store.notifications
          page := page })
  | received (pending : Pending) (append : Bool) (items : List ServerNotification)
      (page : Pagination) (hheld : held = some pending)
      (hrequest : pending.request = .page center.store.pageEpoch append)
      (hlease : center.store.persistence = some pending.capture.lease)
      (hbrought : brought = items.map (notificationData clock)) :
      Change clock held brought center (center.withStore
        { center.store with
          notifications := applyPage clock append items center.store.notifications
          page := page })
  | merged (pending : Pending) (items : List ServerNotification) (hheld : held = some pending)
      (hrequest : pending.request = .check center.store.pageEpoch center.popup.bindingEpoch)
      (hlease : center.store.persistence = some pending.capture.lease)
      (hbrought : ∀ item ∈ items, notificationData clock item ∈ brought) :
      Change clock held brought center (center.withStore (Center.mergeUpdate clock items center.store))
  | sent (capture : Capture) (request : Request)
      (hlease : center.store.persistence = some capture.lease)
      (hrequest : request = .operation center.store.pageEpoch ∨
        (∃ append, request = .page center.store.pageEpoch append) ∨ request = .shown) :
      Change clock held brought center (center.send capture request)
  | checkSent (capture : Capture) (schedule : AnnouncementSchedule) (batchClosed : Bool)
      (hheld : held = none) (hlease : center.store.persistence = some capture.lease)
      (hidle : center.popup.schedule.inFlight = false) (hflight : schedule.inFlight = true) :
      Change clock held brought center
        ((center.withPopup
          { center.popup with schedule := schedule, batchClosed := batchClosed }).send capture
            (.check center.store.pageEpoch center.popup.bindingEpoch))
  | checkFailed (schedule : AnnouncementSchedule) (batchClosed : Bool)
      (hidle : center.popup.schedule.inFlight = false) :
      Change clock held brought center (center.withPopup
        { center.popup with schedule := schedule, batchClosed := batchClosed })
  | checkDone (pending : Pending) (schedule : AnnouncementSchedule) (hheld : held = some pending)
      (hrequest : pending.request.IsCheck center.popup.bindingEpoch) :
      Change clock held brought center (center.withPopup { center.popup with schedule := schedule })
  | claimSent (capture : Capture) (expected : String) (hheld : held = none)
      (hlease : center.store.persistence = some capture.lease)
      (hidle : center.popup.claiming = false) :
      Change clock held brought center
        ((center.withPopup { center.popup with claiming := true }).send capture
          (.claim center.store.pageEpoch center.popup.bindingEpoch expected))
  | claimFailed (hidle : center.popup.claiming = false) : Change clock held brought center
      (center.withPopup { center.popup with claiming := false })
  | claimDone (pending : Pending) (hheld : held = some pending)
      (hrequest : pending.request.IsClaim center.popup.bindingEpoch) :
      Change clock held brought center (center.withPopup { center.popup with claiming := false })
  | granted (binding : Nat) (id : String) : Change clock held brought center (center.withPopup
      { center.popup with grants := (binding, id) :: center.popup.grants })
  | claimed (pending : Pending) (item : ServerNotification) (hheld : held = some pending)
      (hrequest : pending.request.IsClaim center.popup.bindingEpoch) :
      Change clock held brought center (center.withPopup
        { center.popup with
          grants := (center.popup.bindingEpoch, item.id) :: center.popup.grants
          claiming := false
          ready := some item })
  | popup (popup : Popup) (hbinding : popup.bindingEpoch = center.popup.bindingEpoch)
      (hschedule : popup.schedule = center.popup.schedule)
      (hclaiming : popup.claiming = center.popup.claiming)
      (hgrants : popup.grants = center.popup.grants) (hshows : popup.shows = center.popup.shows)
      (hready : popup.ready = none ∨ popup.ready = center.popup.ready) :
      Change clock held brought center (center.withPopup popup)
  | shown (item : ServerNotification) (hready : center.popup.ready = some item)
      (hstored : ∃ notice ∈ center.store.notifications,
        notice.id = item.id ∧ notice.announcement = true ∧ notice.read = false) :
      Change clock held brought center (center.withPopup
        { center.popup with
          ready := none
          announcementOpen := true
          currentId := some item.id
          shows := (center.popup.bindingEpoch, item.id) :: center.popup.shows })
  | cleared : Change clock held brought center center.clearAnnouncementAccountState
  | emptied (page : Pagination) : Change clock held brought center (center.withStore
      { center.store with
        notifications := []
        pageEpoch := min (center.store.pageEpoch + 1) (epochBound - 1)
        page := page })
  | left : Change clock held brought center (center.withStore ⟨none, [], 0, {}⟩)
  | rebound : Change clock held brought center
      { center with
        store := { center.store with persistence := some center.next }
        next := center.next + 1 }
  | withdrawn : Change clock held brought center (center.withStore
      { center.store with notifications := center.store.notifications.tail })

/-- A chain of changes. -/
def Changes (clock : Clock) (held : Option Pending) (brought : List NotificationData) :
    Center → Center → Prop := Relation.ReflTransGen (Change clock held brought)

theorem Changes.invariant {clock : Clock} {held : Option Pending}
    {brought : List NotificationData} {center after : Center} {I : Center → Prop}
    (h : Changes clock held brought center after)
    (hstep : ∀ center after, Change clock held brought center after → I center → I after)
    (hstart : I center) : I after := by
  induction h with
  | refl => exact hstart
  | tail _ hchange ih => exact hstep _ _ hchange ih

/-- The notices that the answer of a request brings. -/
def Answer.notices (clock : Clock) : Answer → List NotificationData
  | .page (some (items, _)) => items.map (notificationData clock)
  | .check (some items) => items.map (notificationData clock)
  | _ => []

section Functions

variable {clock : Clock} {o later : Outside} {capture : Capture} {center after : Center}
  {held : Option Pending} {brought : List NotificationData} {action : NotificationAction}
  {pending : Pending} {epoch binding now : Nat} {instant : Int} {append : Bool}

theorem Change.changes (h : Change clock held brought center after) :
    Changes clock held brought center after := .single h

theorem Changes.refl : Changes clock held brought center center := Relation.ReflTransGen.refl

theorem Center.lease_of_isCurrent {admitted : Bool} (h : center.isCurrent capture admitted = true) :
    center.store.persistence = some capture.lease :=
  of_decide_eq_true (Bool.and_eq_true_iff.mp h).1

theorem Center.applyNotificationUi_eq_some {apply : Center → Center}
    (h : center.applyNotificationUi o capture apply = some after) :
    center.store.persistence = some capture.lease ∧ after = apply center := by
  unfold Center.applyNotificationUi at h
  split at h
  · rename_i hcurrent
    simp only [Bool.and_eq_true, decide_eq_true_eq] at hcurrent
    exact ⟨hcurrent.2, (Option.some.inj h).symm⟩
  · contradiction

theorem Center.spawnNotificationThread_eq_some {request : Request}
    (h : center.spawnNotificationThread o capture request = some after) :
    center.store.persistence = some capture.lease ∧ after = center.send capture request := by
  unfold Center.spawnNotificationThread at h
  split at h
  · rename_i hcurrent
    exact ⟨lease_of_isCurrent (Bool.and_eq_true_iff.mp hcurrent).1, (Option.some.inj h).symm⟩
  · contradiction

/-- The store is left alone, or it is updated where it is still the one of the request. -/
theorem Center.updateNotificationStore_cases (epoch : Option Nat) (update : Store → Store) :
    center.updateNotificationStore o capture epoch update = (false, center) ∨
      center.store.persistence = some capture.lease ∧
        epoch.all (· = center.store.pageEpoch) = true ∧
        ∃ saved, center.updateNotificationStore o capture epoch update =
          (saved, center.withStore (update center.store)) := by
  unfold Center.updateNotificationStore
  split
  · rename_i hcurrent
    simp only [Bool.and_eq_true, decide_eq_true_eq] at hcurrent
    exact .inr ⟨hcurrent.1.2, hcurrent.2, _, rfl⟩
  · exact .inl rfl

theorem Center.stopLoading_changes :
    Changes clock held brought center (center.stopLoading o capture epoch) := by
  unfold Center.stopLoading
  dsimp only
  cases happly : center.applyNotificationUi _ capture _ with
  | none => exact .refl
  | some after =>
    obtain ⟨-, rfl⟩ := applyNotificationUi_eq_some happly
    rw [Option.getD_some]
    split
    · exact (Change.page _).changes
    · exact .refl

theorem Center.notificationError_changes :
    Changes clock held brought center (center.notificationError o capture epoch) := by
  unfold Center.notificationError
  split
  · exact .refl
  · exact stopLoading_changes

/-- A request is sent, or its failure is noted. -/
theorem Center.spawn_changes {request : Request}
    (hrequest : request = .operation center.store.pageEpoch ∨
      (∃ append, request = .page center.store.pageEpoch append) ∨ request = .shown)
    {failed : Center} (hfailed : Changes clock held brought center failed) :
    Changes clock held brought center
      ((center.spawnNotificationThread o capture request).getD failed) := by
  cases hspawn : center.spawnNotificationThread o capture request with
  | none => exact hfailed
  | some after =>
    obtain ⟨hlease, rfl⟩ := spawnNotificationThread_eq_some hspawn
    exact (Change.sent capture request hlease hrequest).changes

theorem Center.startNotificationOperation_changes :
    Changes clock held brought center (center.startNotificationOperation o action) := by
  unfold Center.startNotificationOperation
  split
  · exact .refl
  rename_i capture hcapture
  split
  · rename_i hnext
    rcases updateNotificationStore_cases none (actionUpdate action) with
      hsame | ⟨-, -, saved, hupdate⟩
    · rw [hsame]
      exact .refl
    · rw [hupdate]
      have hacted : Change clock held brought center
          (center.withStore (actionUpdate action center.store)) := .acted action _ hnext
      cases saved with
      | false => exact hacted.changes
      | true => exact hacted.changes.trans (spawn_changes (.inl rfl) notificationError_changes)
  · exact .refl

theorem Center.startNotificationPage_changes :
    Changes clock held brought center (center.startNotificationPage o append) := by
  unfold Center.startNotificationPage
  split
  · exact .refl
  rename_i capture hcapture
  split
  · rename_i hnext
    split
    · exact .refl
    · rename_i after happly
      obtain ⟨-, rfl⟩ := applyNotificationUi_eq_some happly
      exact (Change.asked _ hnext).changes.trans
        (spawn_changes (.inr (.inl ⟨append, rfl⟩)) notificationError_changes)
  · exact .refl

theorem Center.loadMoreNotifications_changes :
    Changes clock held brought center (center.loadMoreNotifications o later) := by
  unfold Center.loadMoreNotifications
  split
  · exact .refl
  rename_i capture hcapture
  split
  · exact .refl
  split
  · cases happly : center.applyNotificationUi o capture _ with
    | none => exact .refl
    | some after =>
      obtain ⟨-, rfl⟩ := applyNotificationUi_eq_some happly
      exact (Change.page _).changes
  · exact startNotificationPage_changes

theorem Center.completeOperation_changes {failed : Bool} :
    Changes clock held brought center
      (center.completeOperation o capture later epoch failed) := by
  unfold Center.completeOperation
  split
  · dsimp only
    split
    · exact notificationError_changes.trans startNotificationPage_changes
    · exact notificationError_changes
  · exact .refl

theorem Center.completePage_changes (hrequest : pending.request = .page epoch append)
    {result : Option (List ServerNotification × Option String)} :
    Changes clock (some pending) (Answer.notices clock (.page result)) center
      (center.completePage clock o pending.capture epoch append result) := by
  unfold Center.completePage
  split
  · exact notificationError_changes
  rename_i items nextCursor
  rcases updateNotificationStore_cases (some epoch) (answerUpdate clock append items nextCursor) with
    hsame | ⟨hlease, hepoch, saved, hupdate⟩
  · rw [hsame]
    exact stopLoading_changes
  · rw [hupdate]
    have hepoch : epoch = center.store.pageEpoch := by simpa using hepoch
    have hreceived : Change clock (some pending) _ center
        (center.withStore (answerUpdate clock append items nextCursor center.store)) :=
      .received pending append items _ rfl (hepoch ▸ hrequest) hlease rfl
    cases saved with
    | true => exact hreceived.changes
    | false => exact hreceived.changes.trans stopLoading_changes

theorem Center.requestAnnouncementCheck_changes {online force : Bool} :
    Changes clock none brought center (center.requestAnnouncementCheck o online force now) := by
  unfold Center.requestAnnouncementCheck
  split
  · exact .refl
  rename_i capture hcapture
  split
  · exact .refl
  dsimp only
  split
  · exact .refl
  rename_i hstarts
  have hidle : center.popup.schedule.inFlight = false := by
    cases hflight : center.popup.schedule.inFlight with
    | false => rfl
    | true => simp [AnnouncementSchedule.due, hflight] at hstarts
  cases hspawn : Center.spawnNotificationThread _ _ _ _ with
  | none => exact (Change.checkFailed _ _ hidle).changes
  | some after =>
    obtain ⟨hlease, rfl⟩ := spawnNotificationThread_eq_some hspawn
    have hsent : Change clock none brought center _ := .checkSent capture
      (center.popup.schedule.started now) (!center.popup.schedule.due now && center.popup.batchClosed)
      rfl hlease hidle rfl
    exact hsent.changes

theorem Center.popup_changes {popup : Popup} (hbinding : popup.bindingEpoch = center.popup.bindingEpoch)
    (hschedule : popup.schedule = center.popup.schedule)
    (hclaiming : popup.claiming = center.popup.claiming)
    (hgrants : popup.grants = center.popup.grants) (hshows : popup.shows = center.popup.shows)
    (hready : popup.ready = none ∨ popup.ready = center.popup.ready) :
    Changes clock held brought center (center.withPopup popup) :=
  (Change.popup popup hbinding hschedule hclaiming hgrants hshows hready).changes

theorem Center.completeCheck_changes (hrequest : pending.request = .check epoch binding)
    {result : Option (List ServerNotification)} :
    Changes clock (some pending) (Answer.notices clock (.check result)) center
      (center.completeCheck clock o pending.capture epoch binding result now instant) := by
  unfold Center.completeCheck
  split
  · exact .refl
  rename_i hmatches
  simp only [Bool.or_eq_true, Bool.not_eq_true', decide_eq_true_eq, not_or, Bool.not_eq_false,
    not_not] at hmatches
  obtain ⟨hmatches, rfl⟩ := hmatches
  have hdone : Change clock (some pending) (Answer.notices clock (.check result)) center _ :=
    .checkDone pending (center.popup.schedule.finished result.isSome now) rfl (by rw [hrequest]; rfl)
  refine hdone.changes.trans ?_
  cases result with
  | none => exact .refl
  | some items =>
    dsimp only
    split
    · exact .refl
    rename_i hepoch
    have hsame : center.store.pageEpoch = epoch := not_not.mp hepoch
    generalize hkept : (items.take 50).filter _ = kept
    rcases Center.updateNotificationStore_cases (some epoch) (mergeUpdate clock kept) with
      hsame | ⟨hlease, -, saved, hupdate⟩
    · rw [hsame]
      exact .refl
    · rw [hupdate]
      have hmerged : Change clock (some pending) (Answer.notices clock (.check (some items))) _ _ :=
        .merged pending kept rfl (by rw [hrequest, ← hsame]; rfl) hlease fun item hitem =>
          List.mem_map_of_mem (List.mem_of_mem_take (List.mem_filter.mp (hkept ▸ hitem)).1)
      cases saved with
      | false => exact hmerged.changes
      | true => exact hmerged.changes.trans (popup_changes rfl rfl rfl rfl rfl (.inr rfl))

theorem Center.claimDone_changes (hclaim : pending.request.IsClaim center.popup.bindingEpoch) :
    Changes clock (some pending) brought center
      (center.withPopup { center.popup with claiming := false }) :=
  (Change.claimDone pending rfl hclaim).changes

/-- The answer to a claim of another binding is noted and no more. -/
theorem Center.completeClaim_changes {expected : String}
    (hrequest : pending.request = .claim epoch binding expected)
    {result : Option (Bool × Option ServerNotification)} :
    Changes clock (some pending) brought center
      (center.completeClaim clock o pending.capture epoch binding expected result instant) := by
  unfold Center.completeClaim
  have hclaim : pending.request.IsClaim binding := by rw [hrequest]; rfl
  match result with
  | none | some (false, _) | some (true, none) =>
    dsimp only
    split
    · exact .refl
    rename_i hmatches
    simp only [Bool.or_eq_true, decide_eq_true_eq, not_or, not_not] at hmatches
    obtain ⟨-, rfl⟩ := hmatches
    split <;> exact claimDone_changes hclaim
  | some (true, some item) =>
    dsimp only
    have hgranted : Change clock (some pending) brought center _ := .granted binding item.id
    split
    · exact hgranted.changes
    rename_i hmatches
    simp only [Bool.or_eq_true, decide_eq_true_eq, not_or, not_not] at hmatches
    have hbinding : center.popup.bindingEpoch = binding := hmatches.2
    subst hbinding
    have hdone : Changes clock (some pending) brought center _ :=
      hgranted.changes.trans (claimDone_changes hclaim)
    split
    · exact hdone
    split
    · have hclaimed : Change clock (some pending) brought center _ := .claimed pending item rfl hclaim
      exact hclaimed.changes
    · exact hdone

theorem Center.claimAnnouncement_changes {id : String} (hidle : center.popup.claiming = false) :
    Changes clock none brought center (center.claimAnnouncement o capture id) := by
  unfold Center.claimAnnouncement
  dsimp only
  cases hspawn : Center.spawnNotificationThread _ _ _ _ with
  | none =>
    have hfailed : Change clock none brought center _ := .claimFailed hidle
    exact hfailed.changes
  | some after =>
    obtain ⟨hlease, rfl⟩ := spawnNotificationThread_eq_some hspawn
    have hsent : Change clock none brought center _ := .claimSent capture id rfl hlease hidle
    exact hsent.changes

/-- Only what is ready is shown, while its notice is there and unread. -/
theorem Center.showAnnouncement_changes {item : ServerNotification}
    (hready : center.popup.ready = some item)
    (hshow : (center.withPopup { center.popup with ready := none }).queuedAnnouncementCanShow clock
      item instant = true) :
    Changes clock none brought center
      ((center.withPopup { center.popup with ready := none }).showAnnouncement o capture item) := by
  unfold Center.showAnnouncement
  have hstored : ∃ notice ∈ center.store.notifications,
      notice.id = item.id ∧ notice.announcement = true ∧ notice.read = false := by
    obtain ⟨notice, hnotice, hstored⟩ := List.any_eq_true.mp (Bool.and_eq_true_iff.mp hshow).2
    simp only [Bool.and_eq_true, decide_eq_true_eq, Bool.not_eq_true'] at hstored
    exact ⟨notice, hnotice, hstored.1.1, hstored.1.2, hstored.2⟩
  split
  · exact popup_changes rfl rfl rfl rfl rfl (.inl rfl)
  · rename_i after happly
    obtain ⟨-, rfl⟩ := applyNotificationUi_eq_some happly
    have hshown : Change clock none brought center _ := .shown item hready hstored
    exact hshown.changes.trans (spawn_changes (.inr (.inr rfl)) .refl)

theorem Center.presentAnnouncement_changes {uiReady : Bool} :
    Changes clock none brought center
      (center.presentAnnouncement clock o capture uiReady instant) := by
  unfold Center.presentAnnouncement
  split
  · exact .refl
  split
  · rename_i item hready
    dsimp only
    split
    · rename_i hshow
      exact showAnnouncement_changes hready hshow
    · exact popup_changes rfl rfl rfl rfl rfl (.inl rfl)
  · split
    · exact .refl
    rename_i hclaiming
    split
    · exact popup_changes rfl rfl rfl rfl rfl (.inr rfl)
    · rename_i item rest _
      refine .trans ?_ (claimAnnouncement_changes (by simpa using hclaiming))
      exact popup_changes rfl rfl rfl rfl rfl (.inr rfl)

theorem Center.clear_changes :
    Changes clock held brought center center.clearAnnouncementAccountState := Change.cleared.changes

theorem Center.announcementTick_changes {check show_ : Outside} {online uiReady : Bool} :
    Changes clock none brought center
      (center.announcementTick clock o check show_ online uiReady now instant) := by
  unfold Center.announcementTick
  split
  · split
    · exact clear_changes
    · exact .refl
  · dsimp only
    refine .trans ?_ (requestAnnouncementCheck_changes.trans presentAnnouncement_changes)
    split
    · exact .refl
    · exact clear_changes.trans (popup_changes rfl rfl rfl rfl rfl (.inr rfl))

theorem Center.openAnnouncement_changes {id : String} :
    Changes clock held brought center (center.openAnnouncement o id) := by
  unfold Center.openAnnouncement
  split
  · exact .refl
  split
  · exact .refl
  cases happly : Center.applyNotificationUi _ _ _ _ with
  | none => exact .refl
  | some after =>
    obtain ⟨-, rfl⟩ := applyNotificationUi_eq_some happly
    exact popup_changes rfl rfl rfl rfl rfl (.inr rfl)

theorem Center.closeAnnouncement_changes :
    Changes clock held brought center (center.closeAnnouncement o) := by
  unfold Center.closeAnnouncement
  dsimp only
  split
  · exact popup_changes rfl rfl rfl rfl rfl (.inl rfl)
  · refine .trans ?_ startNotificationOperation_changes
    exact popup_changes rfl rfl rfl rfl rfl (.inl rfl)

theorem Center.clearNotificationAccountState_changes :
    Changes clock held brought center center.clearNotificationAccountState :=
  clear_changes.trans (Change.emptied _).changes

theorem Center.finishDirectoryMigration_changes {active : Bool} :
    Changes clock held brought center (center.finishDirectoryMigration active) := by
  unfold Center.finishDirectoryMigration
  split
  · exact Change.rebound.changes
  · exact .refl

theorem Center.withdrawOwn_changes {id : String} :
    Changes clock held brought center (center.withdrawOwn id) := by
  unfold Center.withdrawOwn
  split
  · exact Change.withdrawn.changes
  · exact .refl

end Functions

/-- What a turn does: notices come in from the storage or from the client itself, the window acts, or
a request is taken from those on their way and its answer is met. -/
theorem turn_cases (clock : Clock) (turn : Turn) (center : Center) :
    (∃ loaded, turn = .publish loaded) ∨ (∃ notice, turn = .insertOwn notice) ∨
    Changes clock none [] center (Inbox.turn clock turn center) ∨
    ∃ o later id answer now instant, turn = .answer o later id answer now instant ∧
      ∃ pending ∈ center.pending, pending.id = id ∧
        Changes clock (some pending) (answer.notices clock)
          { center with pending := center.pending.filter (·.id ≠ id) }
          (Inbox.turn clock turn center) := by
  cases turn with
  | publish loaded => exact .inl ⟨loaded, rfl⟩
  | insertOwn notice => exact .inr (.inl ⟨notice, rfl⟩)
  | operate o action => exact .inr (.inr (.inl Center.startNotificationOperation_changes))
  | refresh o => exact .inr (.inr (.inl Center.startNotificationPage_changes))
  | loadMore o later => exact .inr (.inr (.inl Center.loadMoreNotifications_changes))
  | check o online force now => exact .inr (.inr (.inl Center.requestAnnouncementCheck_changes))
  | tick o check show_ online uiReady now instant =>
    exact .inr (.inr (.inl Center.announcementTick_changes))
  | openAnnouncement o id => exact .inr (.inr (.inl Center.openAnnouncement_changes))
  | closeAnnouncement o => exact .inr (.inr (.inl Center.closeAnnouncement_changes))
  | clear => exact .inr (.inr (.inl Center.clearNotificationAccountState_changes))
  | retire =>
    exact .inr (.inr (.inl
      (Center.clearNotificationAccountState_changes.trans Change.left.changes)))
  | finishDirectoryMigration active =>
    exact .inr (.inr (.inl Center.finishDirectoryMigration_changes))
  | withdrawOwn id => exact .inr (.inr (.inl Center.withdrawOwn_changes))
  | answer o later id answer now instant =>
    rw [Inbox.turn]
    cases hfind : center.pending.find? (·.id = id) with
    | none => exact .inr (.inr (.inl .refl))
    | some pending =>
      have hid : pending.id = id := by simpa using List.find?_some hfind
      refine .inr (.inr (.inr ⟨o, later, id, answer, now, instant, rfl, pending,
        List.mem_of_find?_eq_some hfind, hid, ?_⟩))
      dsimp only
      unfold completeRequest
      split
      · exact Center.completeOperation_changes
      · rename_i hrequest
        exact Center.completePage_changes hrequest
      · rename_i hrequest
        split
        · exact .refl
        · exact Center.completeCheck_changes hrequest
      · rename_i hrequest
        split
        · exact .refl
        · exact Center.completeClaim_changes hrequest
      · exact .refl

end ArtForgeStudio.Inbox
