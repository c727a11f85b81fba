import ArtForgeStudio.Inbox.Changes

/-! # Runs of the notice center

The requests that are on their way were sent at an epoch that the list has passed or is still at. What
was sent before an action of the user is older than the action, whatever it answers and however late.
-/

namespace ArtForgeStudio.Inbox

open ArtForgeStudio.Api ArtForgeStudio.LocalStore ArtForgeStudio.Runs

def initial (deviceId : List UInt8) : Center where
  store := ⟨none, [], 0, {}⟩
  popup :=
    { binding := none
      schedule := .new deviceId
      queue := []
      ready := none
      currentId := none
      claiming := false
      batchClosed := false
      bindingEpoch := 0
      announcementOpen := false
      grants := []
      shows := [] }
  pending := []
  next := 1

/-- The binding that a check or a claim was sent under is older than this number. -/
def Request.Bound (next : Nat) : Request → Prop
  | .check _ binding | .claim _ binding _ => binding < next
  | .operation _ | .page _ _ | .shown => True

structure Invariant (held : Option Pending) (center : Center) : Prop where
  epoch : center.store.pageEpoch < epochBound
  lease : ∀ lease, center.store.persistence = some lease → lease < center.next
  binding : center.popup.bindingEpoch < center.next
  requests : ∀ pending, held = some pending ∨ pending ∈ center.pending →
    pending.id < center.next ∧ pending.capture.lease < center.next ∧
      pending.request.Bound center.next ∧
      (center.store.persistence = some pending.capture.lease →
        pending.request.epoch ≤ center.store.pageEpoch)

section Invariant

variable {clock : Clock} {held : Option Pending} {brought : List NotificationData}
  {center after : Center} {store : Store} {popup : Popup} {capture : Capture} {request : Request}
  {pending : Pending}

theorem Request.Bound.mono {a b : Nat} (h : request.Bound a) (hle : a ≤ b) : request.Bound b := by
  cases request with
  | check _ _ | claim _ _ _ => exact Nat.lt_of_lt_of_le h hle
  | operation _ | page _ _ | shown => trivial

theorem Request.Bound.not_isCheck {next : Nat} (h : request.Bound next) : ¬request.IsCheck next := by
  cases request with
  | check _ binding => exact fun heq => absurd h (Nat.not_lt.mpr (Nat.le_of_eq heq.symm))
  | operation _ | page _ _ | claim _ _ _ | shown => exact id

theorem Request.Bound.not_isClaim {next : Nat} (h : request.Bound next) : ¬request.IsClaim next := by
  cases request with
  | claim _ binding _ => exact fun heq => absurd h (Nat.not_lt.mpr (Nat.le_of_eq heq.symm))
  | operation _ | page _ _ | check _ _ | shown => exact id

theorem Invariant.withStore (h : Invariant held center)
    (hlease : store.persistence = center.store.persistence)
    (hle : center.store.pageEpoch ≤ store.pageEpoch) (hlt : store.pageEpoch < epochBound) :
    Invariant held (center.withStore store) where
  epoch := hlt
  lease := fun lease heq => h.lease lease (hlease ▸ heq)
  binding := h.binding
  requests := fun pending hmem =>
    have ⟨hid, hcapture, hbound, hepoch⟩ := h.requests pending hmem
    ⟨hid, hcapture, hbound, fun heq => (hepoch (hlease ▸ heq)).trans hle⟩

theorem Invariant.withPopup (h : Invariant held center)
    (hbinding : popup.bindingEpoch = center.popup.bindingEpoch) :
    Invariant held (center.withPopup popup) :=
  ⟨h.epoch, h.lease, hbinding.trans_lt h.binding, h.requests⟩

theorem Invariant.send (h : Invariant held center)
    (hlease : center.store.persistence = some capture.lease)
    (hepoch : request.epoch ≤ center.store.pageEpoch) (hbound : request.Bound center.next) :
    Invariant held (center.send capture request) where
  epoch := h.epoch
  lease := fun lease heq => Nat.lt_succ_of_lt (h.lease lease heq)
  binding := Nat.lt_succ_of_lt h.binding
  requests := by
    intro pending hmem
    rw [Center.send_pending, List.mem_cons] at hmem
    rcases hmem with hheld | rfl | hmem
    · obtain ⟨hid, hcapture, hbound, hepoch⟩ := h.requests pending (.inl hheld)
      exact ⟨Nat.lt_succ_of_lt hid, Nat.lt_succ_of_lt hcapture, hbound.mono (Nat.le_succ _), hepoch⟩
    · exact ⟨Nat.lt_succ_self _, Nat.lt_succ_of_lt (h.lease _ hlease), hbound.mono (Nat.le_succ _),
        fun _ => hepoch⟩
    · obtain ⟨hid, hcapture, hbound, hepoch⟩ := h.requests pending (.inr hmem)
      exact ⟨Nat.lt_succ_of_lt hid, Nat.lt_succ_of_lt hcapture, hbound.mono (Nat.le_succ _), hepoch⟩

theorem epochBound_pos : 0 < epochBound := by decide

/-- The epoch at the end of its range stays there. -/
theorem min_epoch {epoch : Nat} (h : epoch < epochBound) :
    epoch ≤ min (epoch + 1) (epochBound - 1) ∧ min (epoch + 1) (epochBound - 1) < epochBound := by
  omega

/-- No request was sent under a binding that is new. -/
theorem Invariant.bindAnew (h : Invariant held center) (hlease : store.persistence = some center.next)
    (hepoch : store.pageEpoch < epochBound) :
    Invariant held { center with store := store, next := center.next + 1 } := by
  refine ⟨hepoch, fun lease heq => ?_, Nat.lt_succ_of_lt h.binding, ?_⟩
  · obtain rfl := Option.some.inj (heq.symm.trans hlease)
    exact Nat.lt_succ_self _
  · intro pending hmem
    obtain ⟨hid, hcapture, hbound, -⟩ := h.requests pending hmem
    refine ⟨Nat.lt_succ_of_lt hid, Nat.lt_succ_of_lt hcapture, hbound.mono (Nat.le_succ _), ?_⟩
    intro heq
    exact absurd (Option.some.inj (hlease.symm.trans heq)) (Nat.ne_of_gt hcapture)

theorem Change.invariant (h : Change clock held brought center after) (hinv : Invariant held center) :
    Invariant held after := by
  cases h with
  | page page | received pending append items page | merged pending items | withdrawn =>
    exact hinv.withStore rfl le_rfl hinv.epoch
  | asked page hnext | acted action page hnext =>
    exact hinv.withStore rfl (Nat.le_succ _) hnext
  | emptied page => exact hinv.withStore rfl (min_epoch hinv.epoch).1 (min_epoch hinv.epoch).2
  | sent capture request hlease hrequest =>
    rcases hrequest with rfl | ⟨append, rfl⟩ | rfl
    · exact hinv.send hlease le_rfl trivial
    · exact hinv.send hlease le_rfl trivial
    · exact hinv.send hlease (Nat.zero_le _) trivial
  | checkSent capture schedule batchClosed hheld hlease =>
    refine Invariant.send ?_ hlease le_rfl hinv.binding
    exact hinv.withPopup rfl
  | claimSent capture expected hheld hlease =>
    refine Invariant.send ?_ hlease le_rfl hinv.binding
    exact hinv.withPopup rfl
  | checkFailed | checkDone | claimFailed | claimDone | granted | claimed | shown =>
    exact hinv.withPopup rfl
  | popup popup hbinding => exact hinv.withPopup hbinding
  | cleared =>
    refine ⟨hinv.epoch, fun lease heq => Nat.lt_succ_of_lt (hinv.lease lease heq),
      Nat.lt_succ_self _, ?_⟩
    intro pending hmem
    obtain ⟨hid, hcapture, hbound, hepoch⟩ := hinv.requests pending hmem
    exact ⟨Nat.lt_succ_of_lt hid, Nat.lt_succ_of_lt hcapture, hbound.mono (Nat.le_succ _), hepoch⟩
  | left =>
    refine ⟨epochBound_pos, fun lease heq => by contradiction, hinv.binding, ?_⟩
    intro pending hmem
    obtain ⟨hid, hcapture, hbound, -⟩ := hinv.requests pending hmem
    exact ⟨hid, hcapture, hbound, fun heq => by contradiction⟩
  | rebound => exact hinv.bindAnew rfl hinv.epoch

/-- A request that is taken from those on their way is held. -/
theorem Invariant.take (h : Invariant none center) (hmem : pending ∈ center.pending) {id : Nat} :
    Invariant (some pending) { center with pending := center.pending.filter (·.id ≠ id) } := by
  refine ⟨h.epoch, h.lease, h.binding, ?_⟩
  rintro other (hheld | hother)
  · obtain rfl := Option.some.inj hheld
    exact h.requests pending (.inr hmem)
  · exact h.requests other (.inr (List.mem_of_mem_filter hother))

theorem Invariant.drop (h : Invariant held center) : Invariant none center :=
  ⟨h.epoch, h.lease, h.binding, fun pending hmem => h.requests pending (.inr (by simpa using hmem))⟩

theorem Invariant.publish (h : Invariant none center) (loaded : List NotificationData) :
    Invariant none (center.publish loaded) :=
  h.bindAnew rfl epochBound_pos

/-- What the changes of a turn keep, and so do the notices that come in otherwise, is kept by every
turn. -/
theorem turn_invariant {I : Option Pending → Center → Prop} {turn : Turn}
    (hpublish : ∀ loaded, turn = .publish loaded → I none (center.publish loaded))
    (hinsert : ∀ notice, turn = .insertOwn notice → I none (center.insertOwn notice))
    (hchange : ∀ held brought center after, Change clock held brought center after →
      (held = none ∨ ∃ pending answer o later now instant, held = some pending ∧
        brought = answer.notices clock ∧ turn = .answer o later pending.id answer now instant) →
      I held center → I held after)
    (htake : ∀ pending ∈ center.pending, I (some pending)
      { center with pending := center.pending.filter (·.id ≠ pending.id) })
    (hdrop : ∀ pending after, I (some pending) after → I none after)
    (h : I none center) : I none (Inbox.turn clock turn center) := by
  rcases turn_cases clock turn center with ⟨loaded, rfl⟩ | ⟨notice, rfl⟩ | hchanges |
    ⟨o, later, id, answer, now, instant, rfl, pending, hmem, rfl, hchanges⟩
  · exact hpublish loaded rfl
  · exact hinsert notice rfl
  · exact hchanges.invariant (fun _ _ h => hchange _ _ _ _ h (.inl rfl)) h
  · refine hdrop pending _ (hchanges.invariant (fun _ _ h => hchange _ _ _ _ h (.inr ?_))
      (htake pending hmem))
    exact ⟨pending, answer, o, later, now, instant, rfl, rfl, rfl⟩

theorem Invariant.turn (h : Invariant none center) (turn : Turn) :
    Invariant none (Inbox.turn clock turn center) :=
  turn_invariant (fun loaded _ => h.publish loaded) (fun _ _ => h.withStore rfl le_rfl h.epoch)
    (fun _ _ _ _ hchange _ => hchange.invariant) (fun _ hmem => h.take hmem) (fun _ _ h => h.drop) h

theorem initial_invariant (deviceId : List UInt8) : Invariant none (initial deviceId) := by
  refine ⟨epochBound_pos, fun _ heq => by contradiction, Nat.zero_lt_one, ?_⟩
  rintro pending (hheld | hmem)
  · contradiction
  · exact absurd hmem List.not_mem_nil

end Invariant

end ArtForgeStudio.Inbox
