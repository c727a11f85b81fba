import ArtForgeStudio.Inbox.Safety
import ArtForgeStudio.Library.SingleFlight

/-! # Checks, claims and popups

An announcement pops up only on a claim that the server granted under the binding that still stands,
and under one binding there is never more than one check and one claim on their way.
-/

namespace ArtForgeStudio.Inbox

open ArtForgeStudio.Api ArtForgeStudio.LocalStore ArtForgeStudio.Runs ArtForgeStudio.SingleFlight

section Popups

variable {clock : Clock} {held : Option Pending} {brought : List NotificationData}
  {center after : Center} {binding : Nat} {pending : Pending} {capture : Capture} {request : Request}

/-- The announcement that is ready, under the binding that stands. -/
def Popup.readied (popup : Popup) : List (Nat × String) :=
  popup.ready.toList.map fun item => (popup.bindingEpoch, item.id)

/-- Each popup, and the one that is ready, has a grant of its own. -/
def Popup.Granted (popup : Popup) : Prop :=
  ∀ key, popup.readied.count key + popup.shows.count key ≤ popup.grants.count key

theorem Change.granted_of (h : Change clock held brought center after)
    (hgranted : center.popup.Granted) : after.popup.Granted := by
  intro key
  have hkey := hgranted key
  cases h with
  | page | asked | acted | received | merged | sent | emptied | left | rebound | withdrawn => exact hkey
  | checkSent | checkFailed | checkDone | claimSent | claimFailed | claimDone => exact hkey
  | granted binding id => exact hkey.trans (List.count_le_count_cons ..)
  | claimed pending item =>
    have hshows : center.popup.shows.count key ≤ center.popup.grants.count key :=
      (Nat.le_add_left _ _).trans hkey
    simp only [Popup.readied, Center.withPopup_popup, Option.toList_some, List.map_cons,
      List.map_nil, List.count_cons, List.count_nil]
    omega
  | popup popup hbinding hschedule hclaiming hgrants hshows hready =>
    have hreadied : popup.readied.count key ≤ center.popup.readied.count key := by
      rw [Popup.readied, Popup.readied, hbinding]
      rcases hready with hready | hready
      · simp [hready]
      · rw [hready]
    rw [Center.withPopup_popup, hgrants, hshows]
    exact (Nat.add_le_add_right hreadied _).trans hkey
  | shown item hready =>
    simp only [Popup.readied, hready, Option.toList_some, List.map_cons, List.map_nil,
      List.count_cons, List.count_nil] at hkey
    simp only [Popup.readied, Center.withPopup_popup, Option.toList_none, List.map_nil,
      List.count_cons, List.count_nil]
    omega
  | cleared => exact (Nat.add_le_add_right (Nat.zero_le _) _).trans hkey

theorem granted_turn (turn : Turn) (h : center.popup.Granted) :
    (Inbox.turn clock turn center).popup.Granted :=
  turn_invariant (I := fun _ center => center.popup.Granted) (fun _ _ => h) (fun _ _ => h)
    (fun _ _ _ _ hchange _ => hchange.granted_of) (fun _ _ => h) (fun _ _ h => h) h

/-- Under no binding is an announcement shown more often than the server granted it. -/
theorem announcements_are_granted (deviceId : List UInt8) (turns : List Turn)
    (binding : Nat) (id : String) :
    (run (turn clock) turns (initial deviceId)).popup.shows.count (binding, id) ≤
      (run (turn clock) turns (initial deviceId)).popup.grants.count (binding, id) := by
  have hgranted : (run (turn clock) turns (initial deviceId)).popup.Granted :=
    run_invariant (P := fun _ _ => True) (fun center : Center => center.popup.Granted)
      (fun turn _ h _ => granted_turn turn h) (fun _ => Nat.le_refl 0)
      (atEachStep_of_forall fun _ _ => trivial)
  exact (Nat.le_add_left _ _).trans (hgranted (binding, id))

/-- There is at most one check and one claim of the binding that stands, and while there is one on its
way the schedule and the flag say so. -/
structure Single (held : Option Pending) (center : Center) : Prop where
  invariant : Invariant held center
  check : Solo (fun pending : Pending => pending.request.IsCheck center.popup.bindingEpoch)
    center.popup.schedule.inFlight held center.pending
  claim : Solo (fun pending : Pending => pending.request.IsClaim center.popup.bindingEpoch)
    center.popup.claiming held center.pending

theorem Change.single (h : Change clock held brought center after) (hsingle : Single held center) :
    Single held after := by
  have hinv := h.invariant hsingle.invariant
  obtain ⟨hbefore, hcheck, hclaim⟩ := hsingle
  cases h with
  | page | asked | acted | received | merged | emptied | left | rebound | withdrawn | granted | shown =>
    exact ⟨hinv, hcheck, hclaim⟩
  | popup popup hbinding hschedule hclaiming =>
    refine ⟨hinv, ?_, ?_⟩
    · rw [Center.withPopup_popup, hbinding, hschedule]
      exact hcheck
    · rw [Center.withPopup_popup, hbinding, hclaiming]
      exact hclaim
  | sent capture request hlease hrequest =>
    refine ⟨hinv, hcheck.cons_of_not ?_, hclaim.cons_of_not ?_⟩ <;>
      rcases hrequest with rfl | ⟨append, rfl⟩ | rfl <;> exact id
  | checkSent capture schedule batchClosed hheld hlease hidle hflight =>
    subst hheld
    rw [hidle] at hcheck
    refine ⟨hinv, ?_, hclaim.cons_of_not id⟩
    rw [Center.send_popup, Center.withPopup_popup, hflight]
    exact hcheck.cons _
  | checkFailed schedule batchClosed hidle =>
    rw [hidle] at hcheck
    exact ⟨hinv, hcheck.of_count_none hcheck.count_none _, hclaim⟩
  | checkDone pending schedule hheld hrequest =>
    subst hheld
    exact ⟨hinv, hcheck.of_count_none (hcheck.count_none_of_held hrequest) _, hclaim⟩
  | claimSent capture expected hheld hlease hidle =>
    subst hheld
    rw [hidle] at hclaim
    exact ⟨hinv, hcheck.cons_of_not id, hclaim.cons _⟩
  | claimFailed hidle =>
    rw [hidle] at hclaim
    exact ⟨hinv, hcheck, hclaim⟩
  | claimDone pending hheld hrequest | claimed pending item hheld hrequest =>
    subst hheld
    exact ⟨hinv, hcheck, hclaim.of_count_none (hclaim.count_none_of_held hrequest) _⟩
  | cleared =>
    -- the number of the new binding is one that no request was sent under
    have hbound : ∀ pending, held = some pending ∨ pending ∈ center.pending →
        pending.request.Bound center.next := fun pending hmem => (hbefore.requests pending hmem).2.2.1
    refine ⟨hinv, solo_of_forall_not ?_ ?_, solo_of_forall_not ?_ ?_⟩
    · exact fun pending hheld => (hbound pending (.inl hheld)).not_isCheck
    · exact fun pending hmem => (hbound pending (.inr hmem)).not_isCheck
    · exact fun pending hheld => (hbound pending (.inl hheld)).not_isClaim
    · exact fun pending hmem => (hbound pending (.inr hmem)).not_isClaim

theorem Single.turn (turn : Turn) (h : Single none center) :
    Single none (Inbox.turn clock turn center) :=
  turn_invariant (I := Single) (fun loaded _ => ⟨h.invariant.publish loaded, h.check, h.claim⟩)
    (fun _ _ => ⟨h.invariant.withStore rfl le_rfl h.invariant.epoch, h.check, h.claim⟩)
    (fun _ _ _ _ hchange _ => hchange.single)
    (fun _ hmem => ⟨h.invariant.take hmem, h.check.take hmem (by simp), h.claim.take hmem (by simp)⟩)
    (fun _ _ h => ⟨h.invariant.drop, h.check.drop, h.claim.drop⟩) h

/-- The checks on their way under the binding that stands. -/
def Center.checks (center : Center) : Nat :=
  center.pending.countP fun pending => pending.request.IsCheck center.popup.bindingEpoch

def Center.claims (center : Center) : Nat :=
  center.pending.countP fun pending => pending.request.IsClaim center.popup.bindingEpoch

/-- However turns and answers interleave, there is never more than one check and one claim on its way
under the binding that stands. -/
theorem checks_and_claims_do_not_overlap (deviceId : List UInt8) (turns : List Turn) :
    (run (turn clock) turns (initial deviceId)).checks ≤ 1 ∧
      (run (turn clock) turns (initial deviceId)).claims ≤ 1 := by
  have hstart : Single none (initial deviceId) :=
    ⟨initial_invariant deviceId, solo_of_forall_not (by simp) (by simp [initial]),
      solo_of_forall_not (by simp) (by simp [initial])⟩
  have hsingle : Single none (run (turn clock) turns (initial deviceId)) :=
    run_invariant (P := fun _ _ => True) (Single none) (fun turn _ h _ => h.turn turn) hstart
      (atEachStep_of_forall fun _ _ => trivial)
  exact ⟨hsingle.check.count_le, hsingle.claim.count_le⟩

end Popups

end ArtForgeStudio.Inbox
