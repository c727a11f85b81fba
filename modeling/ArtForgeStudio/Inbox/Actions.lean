import ArtForgeStudio.Inbox.Safety

/-! # Actions on notices

What the user has done to the notices stays done: no answer to an older request undoes it.
-/

namespace ArtForgeStudio.Inbox

open ArtForgeStudio.Api ArtForgeStudio.LocalStore ArtForgeStudio.Runs

/-- The storage has no notice twice, and a notice of the client's own has a new id. -/
def Turn.Sound (turn : Turn) (center : Center) : Prop :=
  match turn with
  | .publish loaded => Unique loaded
  | .insertOwn notice => notice.id ∉ center.store.notifications.map (·.id)
  | _ => True

/-- The notices that a turn brings, other than by the answer to a request older than this number. -/
def Turn.brings (clock : Clock) (since : Nat) : Turn → List NotificationData
  | .publish loaded => loaded
  | .insertOwn notice => [notice]
  | .answer _ _ id reply _ _ => if since ≤ id then reply.notices clock else []
  | _ => []

section Actions

variable {clock : Clock} {held : Option Pending} {brought : List NotificationData}
  {center after : Center} {action part : NotificationAction} {since : Nat} {capture : Capture}
  {request : Request} {store : Store} {popup : Popup} {o : Outside} {id : String}

theorem Change.unique (h : Change clock held brought center after)
    (hunique : Unique center.store.notifications) : Unique after.store.notifications := by
  cases h with
  | acted => exact hunique.apply
  | received => exact hunique.applyPage
  | merged => exact hunique.mergeAnnouncements
  | emptied | left => exact List.nodup_nil
  | withdrawn => exact hunique.sublist ((List.tail_sublist _).map _)
  | page | asked | sent | checkSent | checkFailed | checkDone | claimSent | claimFailed | claimDone
  | granted | claimed | popup | shown | cleared | rebound => exact hunique

theorem unique_turn {turn : Turn} (hsound : turn.Sound center)
    (h : Unique center.store.notifications) :
    Unique (Inbox.turn clock turn center).store.notifications := by
  refine turn_invariant (I := fun _ center => Unique center.store.notifications) ?_ ?_
    (fun _ _ _ _ hchange _ => hchange.unique) (fun _ _ => h) (fun _ _ h => h) h
  · rintro loaded rfl
    exact hsound
  · rintro notice rfl
    exact List.nodup_cons.mpr ⟨hsound, h⟩

/-- However the answers of the server come in, no notice is listed twice. -/
theorem notices_stay_unique (deviceId : List UInt8) (turns : List Turn)
    (hsound : AtEachStep (turn clock) Turn.Sound turns (initial deviceId)) :
    Unique (run (turn clock) turns (initial deviceId)).store.notifications := by
  refine run_invariant (fun center => Unique center.store.notifications)
    (fun _ _ h hsound => unique_turn hsound h) ?_ hsound
  exact List.nodup_nil

/-- The action does what its part does: `.clear` has a part `.delete` for every id, `.readAll` a part
`.read`, and what deletes a notice reads it. -/
def NotificationAction.Covers (action part : NotificationAction) : Prop :=
  ∀ notice, part.Undoes notice → action.Undoes notice

/-- What was done to a notice stands, and what is on its way since before was sent at an older epoch. -/
structure Settled (part : NotificationAction) (since : Nat) (held : Option Pending)
    (center : Center) : Prop where
  invariant : Invariant held center
  unique : Unique center.store.notifications
  taken : ∀ notice ∈ center.store.notifications, ¬part.Undoes notice
  next : since ≤ center.next
  older : ∀ pending, held = some pending ∨ pending ∈ center.pending → pending.id < since →
    center.store.persistence = some pending.capture.lease →
      pending.request.epoch < center.store.pageEpoch

theorem Settled.withStore (h : Settled part since held center)
    (hinv : Invariant held (center.withStore store)) (hunique : Unique store.notifications)
    (htaken : ∀ notice ∈ store.notifications, ¬part.Undoes notice)
    (hlease : store.persistence = center.store.persistence)
    (hle : center.store.pageEpoch ≤ store.pageEpoch) :
    Settled part since held (center.withStore store) :=
  ⟨hinv, hunique, htaken, h.next, fun pending hmem hid heq =>
    (h.older pending hmem hid (hlease ▸ heq)).trans_le hle⟩

theorem Settled.withPopup (h : Settled part since held center)
    (hinv : Invariant held (center.withPopup popup)) :
    Settled part since held (center.withPopup popup) :=
  ⟨hinv, h.unique, h.taken, h.next, h.older⟩

theorem Settled.send (h : Settled part since held center)
    (hinv : Invariant held (center.send capture request)) :
    Settled part since held (center.send capture request) := by
  refine ⟨hinv, h.unique, h.taken, h.next.trans (Nat.le_succ _), ?_⟩
  intro pending hmem hid heq
  rw [Center.send_pending, List.mem_cons] at hmem
  rcases hmem with hheld | rfl | hmem
  · exact h.older pending (.inl hheld) hid heq
  · exact absurd hid (Nat.not_lt.mpr h.next)
  · exact h.older pending (.inr hmem) hid heq

/-- Nothing was sent under a binding that is new. -/
theorem Settled.bindAnew (h : Settled part since held center)
    (hlease : store.persistence = some center.next) (hepoch : store.pageEpoch < epochBound)
    (hunique : Unique store.notifications)
    (htaken : ∀ notice ∈ store.notifications, ¬part.Undoes notice) :
    Settled part since held { center with store := store, next := center.next + 1 } := by
  refine ⟨h.invariant.bindAnew hlease hepoch, hunique, htaken, h.next.trans (Nat.le_succ _), ?_⟩
  intro pending hmem _ heq
  obtain ⟨-, hbefore, -⟩ := h.invariant.requests pending hmem
  exact absurd (Option.some.inj (hlease.symm.trans heq)) (Nat.ne_of_gt hbefore)

/-- An answer that still counts was asked for since. -/
theorem Settled.since_le (h : Settled part since held center) {pending : Pending}
    (hheld : held = some pending) (hlease : center.store.persistence = some pending.capture.lease)
    (hepoch : pending.request.epoch = center.store.pageEpoch) : since ≤ pending.id := by
  by_contra hid
  exact Nat.lt_irrefl _ (hepoch ▸ h.older pending (.inl hheld) (Nat.not_le.mp hid) hlease)

theorem Change.settled (h : Change clock held brought center after)
    (hbrought : ∀ pending, held = some pending → since ≤ pending.id →
      ∀ notice ∈ brought, ¬part.Undoes notice)
    (hsettled : Settled part since held center) : Settled part since held after := by
  have hinv := h.invariant hsettled.invariant
  have hunique := h.unique hsettled.unique
  cases h with
  | page page => exact hsettled.withStore hinv hunique hsettled.taken rfl le_rfl
  | asked page hnext => exact hsettled.withStore hinv hunique hsettled.taken rfl (Nat.le_succ _)
  | acted later page hnext =>
    exact hsettled.withStore hinv hunique (NotificationAction.not_undoes_apply_later hsettled.taken)
      rfl (Nat.le_succ _)
  | received pending append items page hheld hrequest hlease heq =>
    refine hsettled.withStore hinv hunique ?_ rfl le_rfl
    have hsince := hsettled.since_le hheld hlease (by rw [hrequest]; rfl)
    intro notice hmem
    rcases mem_applyPage hmem with hold | hnew
    · exact hsettled.taken notice hold
    · exact hbrought pending hheld hsince notice (heq ▸ hnew)
  | merged pending items hheld hrequest hlease hitems =>
    refine hsettled.withStore hinv hunique ?_ rfl le_rfl
    have hsince := hsettled.since_le hheld hlease (by rw [hrequest]; rfl)
    intro notice hmem hundoes
    rcases mem_mergeAnnouncements hmem with hold | ⟨data, hdata, read, rfl⟩
    · exact hsettled.taken notice hold hundoes
    · obtain ⟨item, hitem, rfl⟩ := List.mem_map.mp hdata
      exact hbrought pending hheld hsince _ (hitems item hitem) hundoes.of_or_read
  | emptied page =>
    exact hsettled.withStore hinv hunique (fun _ hmem => absurd hmem List.not_mem_nil) rfl
      (min_epoch hsettled.invariant.epoch).1
  | withdrawn =>
    exact hsettled.withStore hinv hunique
      (fun notice hmem => hsettled.taken notice (List.mem_of_mem_tail hmem)) rfl le_rfl
  | left =>
    exact ⟨hinv, hunique, fun _ hmem => absurd hmem List.not_mem_nil, hsettled.next,
      fun _ _ _ heq => by contradiction⟩
  | rebound => exact hsettled.bindAnew rfl hsettled.invariant.epoch hunique hsettled.taken
  | sent => exact hsettled.send hinv
  | checkSent | claimSent =>
    refine Settled.send ?_ hinv
    exact hsettled.withPopup (hsettled.invariant.withPopup rfl)
  | checkFailed | checkDone | claimFailed | claimDone | granted | claimed | popup | shown =>
    exact hsettled.withPopup hinv
  | cleared =>
    exact ⟨hinv, hunique, hsettled.taken, hsettled.next.trans (Nat.le_succ _), hsettled.older⟩

theorem Settled.take (h : Settled part since none center) {pending : Pending}
    (hmem : pending ∈ center.pending) : Settled part since (some pending)
      { center with pending := center.pending.filter (·.id ≠ pending.id) } := by
  refine ⟨h.invariant.take hmem, h.unique, h.taken, h.next, ?_⟩
  rintro other (hheld | hother)
  · obtain rfl := Option.some.inj hheld
    exact h.older pending (.inr hmem)
  · exact h.older other (.inr (List.mem_of_mem_filter hother))

theorem Settled.drop (h : Settled part since held center) : Settled part since none center :=
  ⟨h.invariant.drop, h.unique, h.taken, h.next, fun pending hmem =>
    h.older pending (.inr (by simpa using hmem))⟩

/-- What a turn must not bring so that what was done to a notice stands. -/
structure Turn.Keeps (clock : Clock) (part : NotificationAction) (since : Nat) (turn : Turn)
    (center : Center) : Prop where
  sound : turn.Sound center
  brings : ∀ notice ∈ turn.brings clock since, ¬part.Undoes notice

/-- The answers that the hypothesis of a change is about are those of younger requests. -/
theorem Turn.Keeps.younger {turn : Turn} (h : turn.Keeps clock part since center)
    (hheld : held = none ∨ ∃ pending answer o later now instant, held = some pending ∧
      brought = answer.notices clock ∧ turn = .answer o later pending.id answer now instant) :
    ∀ pending, held = some pending → since ≤ pending.id →
      ∀ notice ∈ brought, ¬part.Undoes notice := by
  intro pending hpending hsince notice hmem
  rcases hheld with hnone | ⟨_, answer, o, later, now, instant, rfl, rfl, rfl⟩
  · cases hnone.symm.trans hpending
  · obtain rfl := Option.some.inj hpending
    exact h.brings notice (by rw [Turn.brings, if_pos hsince]; exact hmem)

theorem Settled.turn {turn : Turn} (hkeeps : turn.Keeps clock part since center)
    (h : Settled part since none center) :
    Settled part since none (Inbox.turn clock turn center) := by
  refine turn_invariant (I := Settled part since) ?_ ?_
    (fun _ _ _ _ hchange hheld => hchange.settled (hkeeps.younger hheld))
    (fun _ hmem => h.take hmem) (fun _ _ h => h.drop) h
  · rintro loaded rfl
    exact h.bindAnew rfl epochBound_pos hkeeps.sound hkeeps.brings
  · rintro notice rfl
    refine h.withStore (h.invariant.withStore rfl le_rfl h.invariant.epoch)
      (List.nodup_cons.mpr ⟨hkeeps.sound, h.unique⟩) ?_ rfl le_rfl
    exact List.forall_mem_cons.mpr ⟨hkeeps.brings notice List.mem_cons_self, h.taken⟩

/-- An action that moves the epoch of the list is taken, and all that is on its way is older. -/
theorem startNotificationOperation_settled (clock : Clock) (hcovers : action.Covers part) (hinv : Invariant none center)
    (hunique : Unique center.store.notifications)
    (htaken : (center.startNotificationOperation o action).store.pageEpoch ≠
      center.store.pageEpoch) :
    Settled part center.next none (center.startNotificationOperation o action) := by
  have hno : ∀ pending : Pending, none = some pending → center.next ≤ pending.id →
      ∀ notice ∈ ([] : List NotificationData), ¬part.Undoes notice :=
    fun _ _ _ _ hmem => absurd hmem List.not_mem_nil
  unfold Center.startNotificationOperation at htaken ⊢
  split at htaken
  · exact absurd rfl htaken
  rename_i capture hcapture
  split at htaken
  · rename_i hnext
    have hacted : Settled part center.next none
        (center.withStore (Center.actionUpdate action center.store)) := by
      refine ⟨hinv.withStore rfl (Nat.le_succ _) hnext, hunique.apply,
        fun notice hmem hundoes => NotificationAction.not_undoes_apply hunique notice hmem
          (hcovers notice hundoes), le_rfl, ?_⟩
      intro pending hmem _ heq
      obtain ⟨-, -, -, hepoch⟩ := hinv.requests pending hmem
      exact Nat.lt_succ_of_le (hepoch heq)
    have hchanges {c : Center} (h : Changes clock none [] (center.withStore
        (Center.actionUpdate action center.store)) c) : Settled part center.next none c :=
      h.invariant (fun _ _ hchange => hchange.settled hno) hacted
    rw [if_pos hnext]
    rcases Center.updateNotificationStore_cases none (Center.actionUpdate action) with
      hsame | ⟨-, -, saved, hupdate⟩
    · rw [hsame] at htaken
      exact absurd rfl htaken
    · rw [hupdate]
      cases saved with
      | false => exact hacted
      | true => exact hchanges (Center.spawn_changes (.inl rfl) Center.notificationError_changes)
  · exact absurd rfl htaken

/-- An unread announcement. -/
def unreadNotice : ServerNotification where
  id := "a"
  notificationType := "system.announcement"
  title := ""
  body := ""
  metadata := .obj [("importance", .str "important"), ("expires_at", .str "later")]
  createdAt := ""
  readAt := none

def plainClock : Clock := ⟨fun _ => none, fun _ => some 10⟩

/-- Nothing outside stands in the way. -/
def willing : Outside where
  scope := some 7
  captured := true
  bound := true
  updating := true
  prepared := true
  completes := true
  enqueued := true
  showing := true
  shown := true
  stopping := true
  stopped := true
  spawning := true
  spawned := true

/-- The list is read from the storage and asked for once more, and the announcements are checked. -/
def openedTurns : List Turn :=
  [.publish [notificationData plainClock unreadNotice], .refresh willing,
    .tick willing willing willing true true 0 0,
    .answer willing willing 4 (.check (some [unreadNotice])) 1 0]

def opened : Center := run (turn plainClock) openedTurns (initial [])

/-- Another notice. -/
def otherNotice : ServerNotification := { unreadNotice with id := "b" }

def clearTaken : Center := turn plainClock (.operate willing .clear) opened

/-- The list is asked for again and has another notice. Then it comes in late as it was before, and a
tick finds the announcement in the queue. -/
def lateTurns : List Turn :=
  [.refresh willing, .answer willing willing 6 (.page (some ([otherNotice], none))) 2 0,
    .answer willing willing 2 (.page (some ([unreadNotice], none))) 3 0,
    .tick willing willing willing true true 4 0]

theorem openedTurns_sound :
    AtEachStep (turn plainClock) Turn.Sound openedTurns (initial []) :=
  ⟨List.nodup_singleton _, trivial, trivial, trivial, trivial⟩

theorem lateTurns_keep (hother : ¬part.Undoes (notificationData plainClock otherNotice)) :
    AtEachStep (turn plainClock) (Turn.Keeps plainClock part opened.next) lateTurns clearTaken :=
  ⟨⟨trivial, fun _ hmem => absurd hmem List.not_mem_nil⟩,
    ⟨trivial, fun _ hmem => List.mem_singleton.mp hmem ▸ hother⟩,
    ⟨trivial, fun _ hmem => absurd hmem List.not_mem_nil⟩,
    ⟨trivial, fun _ hmem => absurd hmem List.not_mem_nil⟩, trivial⟩

theorem notices_stay_unique_opened : Unique opened.store.notifications :=
  notices_stay_unique [] openedTurns openedTurns_sound

/-- The center that a sound run reaches. -/
theorem reached (deviceId : List UInt8) {turns : List Turn}
    (hsound : AtEachStep (turn clock) Turn.Sound turns (initial deviceId)) :
    Invariant none (run (turn clock) turns (initial deviceId)) ∧
      Unique (run (turn clock) turns (initial deviceId)).store.notifications :=
  ⟨run_invariant (Invariant none) (fun turn _ h _ => h.turn turn) (initial_invariant deviceId) hsound,
    notices_stay_unique deviceId turns hsound⟩

/-- What the user has done to a notice stays done, whatever the server answers to what was asked before,
until something newer brings this notice back. -/
theorem taken_actions_stay_taken (deviceId : List UInt8) (before after : List Turn) (o : Outside)
    (action part : NotificationAction) {center taken : Center} (hcovers : action.Covers part)
    (hbefore : AtEachStep (turn clock) Turn.Sound before (initial deviceId))
    (hcenter : center = run (turn clock) before (initial deviceId))
    (htaken : taken = turn clock (.operate o action) center)
    (hepoch : taken.store.pageEpoch ≠ center.store.pageEpoch)
    (hafter : AtEachStep (turn clock) (Turn.Keeps clock part center.next) after taken) :
    ∀ notice ∈ (run (turn clock) after taken).store.notifications, ¬part.Undoes notice := by
  obtain ⟨hinv, hunique⟩ := reached deviceId hbefore
  rw [← hcenter] at hinv hunique
  subst htaken
  have hsettled := startNotificationOperation_settled clock hcovers hinv hunique hepoch
  exact (run_invariant (Settled part center.next none) (fun _ _ h hkeeps => h.turn hkeeps)
    hsettled hafter).taken

theorem taken_actions_stay_taken_late :
    (run (turn plainClock) lateTurns clearTaken).store.notifications.length = 1 ∧
    ∀ notice ∈ (run (turn plainClock) lateTurns clearTaken).store.notifications,
      ¬(NotificationAction.delete "a").Undoes notice :=
  ⟨by decide, taken_actions_stay_taken [] openedTurns lateTurns willing .clear (.delete "a")
    (fun _ _ => trivial) openedTurns_sound rfl rfl (by decide)
    (lateTurns_keep (show "b" ≠ "a" by decide))⟩

/-- What was shown of an id so far. -/
def shownOf (id : String) (center : Center) : List (Nat × String) :=
  center.popup.shows.filter (·.2 = id)

/-- Nothing with a dismissed id is shown, be it queued, ready or about to be claimed. -/
theorem Change.shownOf (h : Change clock held brought center after)
    (hsettled : Settled (.read id) since held center) :
    shownOf id after = shownOf id center := by
  cases h with
  | shown item hready hstored =>
    obtain ⟨notice, hnotice, hid, -, hread⟩ := hstored
    have hother : item.id ≠ id := by
      rintro rfl
      exact hsettled.taken notice hnotice ⟨hid, hread⟩
    exact List.filter_cons_of_neg (by simpa using hother)
  | popup popup _ _ _ _ hshows => exact congrArg (List.filter _) hshows
  | page | asked | acted | received | merged | sent | checkSent | checkFailed | checkDone
  | claimSent | claimFailed | claimDone | granted | claimed | cleared | emptied | left | rebound
  | withdrawn => rfl

theorem Settled.turn_shownOf {turn : Turn} (hkeeps : turn.Keeps clock (.read id) since center)
    (h : Settled (.read id) since none center) :
    Inbox.shownOf id (Inbox.turn clock turn center) = Inbox.shownOf id center := by
  refine (turn_invariant (I := fun held after =>
    Settled (.read id) since held after ∧ Inbox.shownOf id after = Inbox.shownOf id center) ?_ ?_
      (fun _ _ _ _ hchange hheld hafter => ⟨hchange.settled (hkeeps.younger hheld) hafter.1,
        (hchange.shownOf hafter.1).trans hafter.2⟩)
      (fun _ hmem => ⟨h.take hmem, rfl⟩) (fun _ _ hafter => ⟨hafter.1.drop, hafter.2⟩) ⟨h, rfl⟩).2
  · rintro loaded rfl
    exact ⟨h.turn hkeeps, rfl⟩
  · rintro notice rfl
    exact ⟨h.turn hkeeps, rfl⟩

/-- An announcement that the user has read, deleted or cleared away does not pop up again, whatever is
queued or on its way, until something newer brings its notice back unread. -/
theorem dismissed_announcements_stay_away (deviceId : List UInt8) (before after : List Turn)
    (o : Outside) (action : NotificationAction) (id : String) {center taken : Center}
    (hcovers : action.Covers (.read id))
    (hbefore : AtEachStep (turn clock) Turn.Sound before (initial deviceId))
    (hcenter : center = run (turn clock) before (initial deviceId))
    (htaken : taken = turn clock (.operate o action) center)
    (hepoch : taken.store.pageEpoch ≠ center.store.pageEpoch)
    (hafter : AtEachStep (turn clock) (Turn.Keeps clock (.read id) center.next) after taken) :
    shownOf id (run (turn clock) after taken) = shownOf id taken := by
  obtain ⟨hinv, hunique⟩ := reached deviceId hbefore
  rw [← hcenter] at hinv hunique
  subst htaken
  have hsettled := startNotificationOperation_settled clock hcovers hinv hunique hepoch
  refine (run_invariant (fun after => Settled (.read id) center.next none after ∧
    shownOf id after = shownOf id (turn clock (.operate o action) center)) ?_ ⟨hsettled, rfl⟩ hafter).2
  intro turn after hstate hkeeps
  exact ⟨hstate.1.turn hkeeps, (hstate.1.turn_shownOf hkeeps).trans hstate.2⟩

theorem dismissed_announcements_stay_away_late :
    shownOf "a" (run (turn plainClock) lateTurns clearTaken) = shownOf "a" clearTaken :=
  dismissed_announcements_stay_away [] openedTurns lateTurns willing .clear "a"
    (fun _ _ => trivial) openedTurns_sound rfl rfl (by decide)
    (lateTurns_keep fun h => absurd h.1 (show "b" ≠ "a" by decide))

end Actions

end ArtForgeStudio.Inbox
