import ArtForgeStudio.ClientState.Commands
import ArtForgeStudio.Library.Runs

/-! # The writer as a whole

Every run of producers and worker, in any order and with any write failing, keeps the invariant.
-/

namespace ArtForgeStudio.ClientState

open ArtForgeStudio.Concurrency ArtForgeStudio.Runs

/-- The worker keeps its discipline in a world that keeps the invariant. -/
structure Sound (system : System) : Prop where
  inv : Inv system.world
  safe : discipline.Safe () system.worker (fun _ => At Resting) system.world
  woken : system.world.Woken

section Wakes

open World

variable {world : World} {lease : NamespaceLease} {slot : Slot} {owner : Option NamespaceLease}
  {data : Option String} {sequence : Nat} {sent : Bool}

theorem fill_device (h : world.DeviceWoken) (hslot : slot.isPrivate = true) :
    (world.fill slot owner data sequence).DeviceWoken := by
  cases data with
  | none => exact h
  | some text =>
    intro hsent other hprivate hother
    have hne : other ≠ slot := by
      rintro rfl
      exact absurd (hprivate.symm.trans hslot) nofun
    exact h hsent other hprivate (by simpa [World.fill, hne] using hother)

theorem fill_private (h : world.PrivateWoken) (hslot : slot.isPrivate = false) :
    (world.fill slot owner data sequence).PrivateWoken := by
  cases data with
  | none => exact h
  | some text =>
    intro hsent other hprivate hother
    have hne : other ≠ slot := by
      rintro rfl
      exact absurd (hprivate.symm.trans hslot) nofun
    exact h hsent other hprivate (by simpa [World.fill, hne] using hother)

theorem wakePrivate_woken (h : world.DeviceWoken) :
    (world.wakePrivate lease sequence sent).2.Woken := by
  unfold World.wakePrivate
  split
  · exact ⟨fun _ _ _ _ => ‹_›, h⟩
  · cases sent
    · exact ⟨nofun, nofun⟩
    · exact ⟨fun _ _ _ _ => rfl, h⟩

theorem wakeDevice_woken (h : world.PrivateWoken) :
    (world.wakeDevice sequence sent).2.Woken := by
  unfold World.wakeDevice
  split
  · exact ⟨h, fun _ _ _ _ => ‹_›⟩
  · cases sent
    · exact ⟨nofun, nofun⟩
    · exact ⟨h, fun _ _ _ _ => rfl⟩

theorem clearPrivate_woken (h : world.Woken) {pending : PendingClientState}
    {activated : List (NamespaceLease × Nat)} {reservations : List Reservation}
    (hslots : pending.slots = world.pending.clearPrivate.slots)
    (hdevice : pending.deviceWake = world.pending.deviceWake) :
    { world with pending, activated, reservations }.Woken := by
  refine ⟨fun hsent other hprivate hother => ?_, fun hsent other hprivate hother => ?_⟩ <;>
    dsimp only at hother <;> rw [hslots] at hother <;>
    simp only [PendingClientState.clearPrivate, hprivate] at hother
  · exact absurd rfl hother
  · exact hdevice.trans (h.2 hsent other hprivate hother)

theorem activate_woken (h : world.Woken) : (world.activate lease).2.Woken := by
  unfold World.activate
  split
  · exact h
  · exact clearPrivate_woken h rfl rfl

theorem deactivate_woken (h : world.Woken) : (world.deactivate lease).2.Woken := by
  unfold World.deactivate
  split
  · exact h
  · exact clearPrivate_woken h rfl rfl

theorem queuePrivate_woken (h : world.Woken) (store profile : Option String) :
    (world.queuePrivate lease store profile sent).2.Woken := by
  unfold World.queuePrivate
  split
  · exact h
  · refine world.sequenced_cases h h fun sequence _ => wakePrivate_woken ?_
    exact fill_device (fill_device h.2 rfl) rfl

theorem queueDevice_woken (h : world.Woken) (settings directory : Option String) :
    (world.queueDevice settings directory sent).2.Woken :=
  world.sequenced_cases h h fun _ _ => wakeDevice_woken (fill_private (fill_private h.1 rfl) rfl)

theorem checked_woken (h : world.Woken) (write : CheckedWrite) :
    (world.checked write sent).2.Woken := by
  unfold World.checked
  split
  · exact h
  · refine world.sequenced_cases h h fun sequence _ => ?_
    cases sent
    · exact ⟨nofun, nofun⟩
    · exact h

theorem flushForRetirement_woken (h : world.Woken) :
    (world.flushForRetirement lease sent).2.Woken := by
  unfold World.flushForRetirement
  split
  · exact h
  · refine world.sequenced_cases h h fun generation _ => ?_
    cases sent
    · exact ⟨nofun, nofun⟩
    · exact h

theorem dropReservation_woken (h : world.Woken) (reservation : Reservation) :
    (world.dropReservation reservation).Woken := by
  unfold World.dropReservation
  split <;> exact h

theorem flushed_woken (h : world.Woken) (reservation : Reservation) :
    (world.flushed reservation).Woken := by
  unfold World.flushed
  split
  · exact h
  · exact dropReservation_woken h reservation
  · split
    · exact h
    · exact dropReservation_woken h reservation

theorem retireFlushed_woken (h : world.Woken) (reservation : Reservation) :
    (world.retireFlushed reservation).Woken := by
  unfold World.retireFlushed
  split
  · exact clearPrivate_woken h rfl rfl
  · exact h

end Wakes

section Steps

variable {system : System} {event : Event}

/-- A producer's step, as the worker sees it. -/
theorem producer_step (h : Sound system) (hevent : ∀ writes, event ≠ .work writes) :
    ∃ after, system.step event = { system with world := after } ∧ Follows system.world after ∧
      after.Woken := by
  have hsame : Follows system.world system.world := ⟨.refl _, h.inv⟩
  cases event with
  | activate lease => exact ⟨_, rfl, .activate h.inv, activate_woken h.woken⟩
  | deactivate lease => exact ⟨_, rfl, .deactivate h.inv, deactivate_woken h.woken⟩
  | queuePrivate lease store profile sent =>
    exact ⟨_, rfl, .queuePrivate h.inv store profile, queuePrivate_woken h.woken store profile⟩
  | queueDevice settings directory sent =>
    exact ⟨_, rfl, .queueDevice h.inv settings directory,
      queueDevice_woken h.woken settings directory⟩
  | checked write sent => exact ⟨_, rfl, .checked h.inv write, checked_woken h.woken write⟩
  | flushForRetirement lease sent =>
    exact ⟨_, rfl, .flushForRetirement h.inv, flushForRetirement_woken h.woken⟩
  | flushed reservation =>
    by_cases hmem : reservation ∈ system.world.reservations ∧ reservation.flushed = false
    · exact ⟨_, if_pos hmem, .flushed h.inv hmem.1, flushed_woken h.woken reservation⟩
    · exact ⟨_, if_neg hmem, hsame, h.woken⟩
  | dropReservation reservation =>
    by_cases hmem : reservation ∈ system.world.reservations
    · exact ⟨_, if_pos hmem, .dropReservation h.inv hmem, dropReservation_woken h.woken reservation⟩
    · exact ⟨_, if_neg hmem, hsame, h.woken⟩
  | retireFlushed reservation =>
    by_cases hmem : reservation ∈ system.world.reservations ∧ reservation.flushed = true
    · exact ⟨_, if_pos hmem, .retireFlushed h.inv hmem.1, retireFlushed_woken h.woken reservation⟩
    · exact ⟨_, if_neg hmem, hsame, h.woken⟩
  | work writes => exact absurd rfl (hevent writes)

/-- The worker rests before it receives a command. -/
theorem resting_of_ret (h : Sound system) (hworker : system.worker = .ret ()) :
    Resting system.world := by
  have hsafe := h.safe
  rw [hworker] at hsafe
  exact (hsafe system.world fun hinv => ⟨.refl _, hinv⟩).2

/-- The ways of a step of the worker: nothing to do, a command received, or an action. -/
inductive Worked (system : System) : System → Prop
  | idle (hworker : system.worker = .ret ()) (hqueue : system.world.queue = []) :
      Worked system system
  | received {queued : QueuedWrite} {rest : List QueuedWrite} (hworker : system.worker = .ret ())
      (hqueue : system.world.queue = queued :: rest) :
      Worked system
        ⟨{ system.world with queue := rest, received := some queued }, process queued⟩
  | acted {update : Bool → World → World} {next : Bool → World → Action Unit} (writes : Bool)
      (hworker : system.worker = .act () update next)
      (hworks : Works system.world (update writes system.world)) :
      Worked system ⟨update writes system.world, next writes system.world⟩

theorem work_step (h : Sound system) (writes : Bool) :
    Worked system (system.step (.work writes)) ∧ Sound (system.step (.work writes)) := by
  unfold System.step
  cases hworker : system.worker with
  | ret result =>
    obtain ⟨hbegun, hfree⟩ := resting_of_ret h hworker
    cases hqueue : system.world.queue with
    | nil => exact ⟨by simpa [hworker, hqueue] using Worked.idle hworker hqueue,
        by simpa [hworker, hqueue] using h⟩
    | cons queued rest =>
      have hinv := h.inv.receive hbegun hqueue
      refine ⟨by simpa [hworker, hqueue] using Worked.received hworker hqueue, ?_⟩
      exact ⟨hinv, process_triple queued _ ⟨hinv, rfl, hfree⟩, h.woken⟩
  | act label update next =>
    have hsafe := h.safe
    rw [hworker] at hsafe
    obtain ⟨hguarantee, hnext⟩ := hsafe system.world (fun hinv => ⟨.refl _, hinv⟩) writes trivial
    obtain ⟨hworks, hinv⟩ := hguarantee h.inv
    exact ⟨.acted writes hworker hworks, hinv, hnext, hworks.woken h.woken⟩

theorem Sound.step (h : Sound system) (event : Event) : Sound (system.step event) := by
  by_cases hwork : ∃ writes, event = .work writes
  · obtain ⟨writes, rfl⟩ := hwork
    exact (work_step h writes).2
  · obtain ⟨after, hafter, hfollows, hwoken⟩ :=
      producer_step h fun writes heq => hwork ⟨writes, heq⟩
    rw [hafter]
    exact ⟨hfollows.inv, h.safe.rely fun _ => hfollows, hwoken⟩

theorem Sound.start : Sound .start where
  inv := .start
  safe := fun later hrely => ⟨(hrely .start).inv,
    resting_persistent .start later .start ⟨rfl, fun _ _ => rfl⟩ (hrely .start)⟩
  woken := ⟨fun _ _ _ h => absurd rfl h, fun _ _ _ h => absurd rfl h⟩

theorem Sound.run (h : Sound system) (events : List Event) :
    Sound (run System.step events system) :=
  run_invariant Sound (fun event _ hsound (_ : True) => hsound.step event) h
    (atEachStep_of_forall fun _ _ => trivial)

end Steps

section Retirement

variable {system : System} {event : Event} {reservation : Reservation}

/-- Whoever holds the proof ends its promise. -/
def Event.ends (reservation : Reservation) : Event → Prop
  | .dropReservation other | .retireFlushed other => other = reservation
  | _ => False

theorem mem_forget {world : World} {other : Reservation} (hmem : reservation ∈ world.reservations)
    (hne : other ≠ reservation) : reservation ∈ (world.forget other).reservations :=
  List.mem_filter.mpr ⟨hmem, decide_eq_true hne.symm⟩

theorem mem_dropReservation {world : World} {other : Reservation}
    (hmem : reservation ∈ world.reservations) (hne : other ≠ reservation) :
    reservation ∈ (world.dropReservation other).reservations := by
  unfold World.dropReservation
  split <;> exact mem_forget hmem hne

section Kept

variable (world : World) (slot : Slot) (owner : Option NamespaceLease) (data : Option String)
  (lease : NamespaceLease) (sequence : Nat) (sent : Bool)

@[simp] theorem fill_reservations :
    (world.fill slot owner data sequence).reservations = world.reservations := by
  cases data <;> rfl

@[simp] theorem fill_sendFailed :
    (world.fill slot owner data sequence).sendFailed = world.sendFailed := by
  cases data <;> rfl

@[simp] theorem wakePrivate_reservations :
    (world.wakePrivate lease sequence sent).2.reservations = world.reservations := by
  unfold World.wakePrivate
  split
  · rfl
  · cases sent <;> rfl

@[simp] theorem wakePrivate_sendFailed :
    (world.wakePrivate lease sequence true).2.sendFailed = world.sendFailed := by
  unfold World.wakePrivate
  split <;> rfl

@[simp] theorem wakeDevice_reservations :
    (world.wakeDevice sequence sent).2.reservations = world.reservations := by
  unfold World.wakeDevice
  split
  · rfl
  · cases sent <;> rfl

@[simp] theorem wakeDevice_sendFailed :
    (world.wakeDevice sequence true).2.sendFailed = world.sendFailed := by
  unfold World.wakeDevice
  split <;> rfl

end Kept

/-- The proof lasts until its holder ends it. -/
theorem reservation_lasts (h : Sound system) (hmem : reservation ∈ system.world.reservations)
    (hflushed : reservation.flushed = true) (hevent : ¬event.ends reservation) :
    reservation ∈ (system.step event).world.reservations := by
  cases event with
  | activate lease =>
    change reservation ∈ (system.world.activate lease).2.reservations
    unfold World.activate
    split <;> exact hmem
  | deactivate lease =>
    change reservation ∈ (system.world.deactivate lease).2.reservations
    unfold World.deactivate
    split <;> exact hmem
  | queuePrivate lease store profile sent =>
    change reservation ∈ (system.world.queuePrivate lease store profile sent).2.reservations
    unfold World.queuePrivate
    split
    · exact hmem
    · refine system.world.sequenced_cases (P := (reservation ∈ ·.reservations)) hmem hmem
        fun sequence _ => ?_
      simpa using hmem
  | queueDevice settings directory sent =>
    refine system.world.sequenced_cases (P := (reservation ∈ ·.reservations)) hmem hmem
      fun sequence _ => ?_
    simpa using hmem
  | checked write sent =>
    change reservation ∈ (system.world.checked write sent).2.reservations
    unfold World.checked
    split
    · exact hmem
    · refine system.world.sequenced_cases (P := (reservation ∈ ·.reservations)) hmem hmem
        fun sequence _ => ?_
      cases sent <;> exact hmem
  | flushForRetirement lease sent =>
    change reservation ∈ (system.world.flushForRetirement lease sent).2.reservations
    unfold World.flushForRetirement
    split
    · exact hmem
    · refine system.world.sequenced_cases (P := (reservation ∈ ·.reservations)) hmem hmem
        fun generation _ => ?_
      cases sent <;> exact List.mem_cons_of_mem _ hmem
  | flushed other =>
    by_cases hother : other ∈ system.world.reservations ∧ other.flushed = false
    · have hne : other ≠ reservation := by
        rintro rfl
        exact absurd (hother.2.symm.trans hflushed) nofun
      change reservation ∈ (if other ∈ system.world.reservations ∧ other.flushed = false then
        { system with world := system.world.flushed other } else system).world.reservations
      rw [if_pos hother]
      change reservation ∈ (system.world.flushed other).reservations
      unfold World.flushed
      split
      · exact hmem
      · exact mem_dropReservation hmem hne
      · split
        · exact List.mem_cons_of_mem _ (mem_forget hmem hne)
        · exact mem_dropReservation hmem hne
    · simpa [System.step, hother] using hmem
  | dropReservation other =>
    by_cases hother : other ∈ system.world.reservations
    · simpa [System.step, hother] using mem_dropReservation hmem hevent
    · simpa [System.step, hother] using hmem
  | retireFlushed other =>
    by_cases hother : other ∈ system.world.reservations ∧ other.flushed = true
    · have hkept : reservation ∈ (system.world.retireFlushed other).reservations := by
        unfold World.retireFlushed
        split <;> exact mem_forget hmem hevent
      simpa [System.step, hother] using hkept
    · simpa [System.step, hother] using hmem
  | work writes =>
    have hworked := (work_step h writes).1
    generalize system.step (.work writes) = after at hworked
    cases hworked with
    | idle => exact hmem
    | received => exact hmem
    | acted _ _ hworks => exact hworks.reservations.symm ▸ hmem

/-- What holds of a lease while the proof of its flush lasts. -/
structure Held (reservation : Reservation) (system later : System) : Prop where
  lasts : reservation ∈ later.world.reservations
  active : later.world.pending.active = some reservation.lease
  accepted : later.world.accepted.filter (·.slot.isPrivate) =
    system.world.accepted.filter (·.slot.isPrivate)
  empty : ∀ slot, slot.isPrivate = true → later.world.pending.slots slot = none

theorem sealed_of_flushed (h : Sound system) (hmem : reservation ∈ system.world.reservations)
    (hflushed : reservation.flushed = true) : system.world.Sealed reservation.lease :=
  have hproof := h.inv.proofs reservation hmem hflushed
  h.inv.proven reservation.lease reservation.generation hproof.2 hproof.1

theorem held_start (h : Sound system) (hmem : reservation ∈ system.world.reservations)
    (hflushed : reservation.flushed = true) : Held reservation system system :=
  have hsealed := sealed_of_flushed h hmem hflushed
  ⟨hmem, hsealed.1, rfl, hsealed.2.1⟩

theorem held_step {later : System} (h : Sound later) (hheld : Held reservation system later)
    (hflushed : reservation.flushed = true) (hevent : ¬event.ends reservation) :
    Held reservation system (later.step event) := by
  have hlasts := reservation_lasts h hheld.lasts hflushed hevent
  have hsealed := sealed_of_flushed (h.step event) hlasts hflushed
  refine ⟨hlasts, hsealed.1, ?_, hsealed.2.1⟩
  rw [← hheld.accepted]
  by_cases hwork : ∃ writes, event = .work writes
  · obtain ⟨writes, rfl⟩ := hwork
    have hworked := (work_step h writes).1
    generalize later.step (.work writes) = after at hworked
    cases hworked with
    | idle => rfl
    | received => rfl
    | acted _ _ hworks => exact congrArg _ hworks.accepted
  · obtain ⟨after, hafter, hfollows, -⟩ := producer_step h fun writes heq => hwork ⟨writes, heq⟩
    have hreserved := ((h.step event).inv.proofs reservation hlasts hflushed).1
    rw [hafter] at hreserved ⊢
    exact (hfollows.produced.retirement _ (h.inv.pledged reservation hheld.lasts)
      hreserved).2.2.2.1

/-- No update is lost at a retirement. -/
theorem flush_for_retirement_keeps_writes (events : List Event) (reservation : Reservation)
    (hfresh : (run System.step events .start).world.Fresh)
    (hmem : reservation ∈ (run System.step events .start).world.reservations)
    (hflushed : reservation.flushed = true) :
    (∀ write ∈ (run System.step events .start).world.accepted, write.slot.isPrivate = true →
      write.entry.lease = some reservation.lease →
      (run System.step events .start).world.Covered write) ∧
    ∀ later : List Event, (∀ event ∈ later, ¬event.ends reservation) →
      Held reservation (run System.step events .start)
        (run System.step (events ++ later) .start) := by
  have hsound := Sound.start.run events
  refine ⟨(sealed_of_flushed hsound hmem hflushed).2.2 hfresh, fun later hlater => ?_⟩
  rw [run_append]
  exact (run_invariant (fun state => Sound state ∧
      Held reservation (run System.step events .start) state)
    (fun event state hstate hevent => ⟨hstate.1.step event,
      held_step hstate.1 hstate.2 hflushed hevent⟩)
    ⟨hsound, held_start hsound hmem hflushed⟩ (atEachStep_of_forall hlater)).2

/-- A run in which a lease is retired after a snapshot and a checked write of it. -/
def retiring : List Event :=
  let lease : NamespaceLease := ⟨⟨"user", "/data/user", []⟩, 1, 1⟩
  [.activate lease, .queuePrivate lease (some "first") (some "profile") true,
    .checked (.localStore lease "second") true, .flushForRetirement lease true] ++
  List.replicate 17 (.work true) ++ [.flushed ⟨lease, 3, false⟩]

theorem retiring_keeps_second : (run System.step retiring .start).world.Covered
    ⟨.store, 2, some ⟨⟨"user", "/data/user", []⟩, 1, 1⟩, "second"⟩ :=
  (flush_for_retirement_keeps_writes retiring ⟨⟨⟨"user", "/data/user", []⟩, 1, 1⟩, 3, true⟩
    (by unfold World.Fresh; decide +kernel) (by decide +kernel) rfl).1 _ (by decide +kernel) rfl rfl

end Retirement

/-- Newer snapshots win, and no lease writes while another one is active. -/
theorem newest_wins_under_own_lease (events : List Event) :
    let system := run System.step events .start
    (∀ slot, ((system.world.written.reverse.filter (·.slot = slot)).map
      (·.entry.sequence)).Pairwise (· < ·)) ∧
    (∀ event, system.world.Wrote (system.step event).world) ∧
    (∀ done ∈ system.world.written, done.slot.isPrivate = true →
      ∃ lease, done.entry.lease = some lease ∧ done.active = some lease ∧
        done.user = some lease.userNamespace.userPublicId) ∧
    (system.world.Fresh → ∀ note ∈ system.world.acknowledged, note.2 = .ok () →
      ∀ write, note.1.slotWrite = some write → write.slot.isPrivate = true →
        system.world.Covered write) := by
  intro system
  have hsound : Sound system := Sound.start.run events
  refine ⟨fun slot => ?_, fun event => ?_, fun done hmem hprivate => ?_, hsound.inv.acknowledged⟩
  · rw [List.pairwise_map]
    refine (List.pairwise_reverse.mpr hsound.inv.increasing).filter _ |>.imp_of_mem ?_
    intro done later hdone hlater hincreasing
    have hdone := of_decide_eq_true (List.mem_filter.mp hdone).2
    have hlater := of_decide_eq_true (List.mem_filter.mp hlater).2
    exact hincreasing (hlater.trans hdone.symm)
  · by_cases hwork : ∃ writes, event = .work writes
    · obtain ⟨writes, rfl⟩ := hwork
      have hworked := (work_step hsound writes).1
      generalize system.step (.work writes) = after at hworked
      cases hworked with
      | idle => exact .inl ⟨rfl, rfl⟩
      | received => exact .inl ⟨rfl, rfl⟩
      | acted _ _ hworks => exact hworks.wrote
    · obtain ⟨after, hafter, hfollows, -⟩ :=
        producer_step hsound fun writes heq => hwork ⟨writes, heq⟩
      rw [hafter]
      exact .inl ⟨hfollows.produced.written, congrArg _ hfollows.produced.last⟩
  · obtain ⟨lease, -, hlease⟩ := hsound.inv.history.owned _ (hsound.inv.stored done hmem) hprivate
    obtain ⟨hactive, huser⟩ := hsound.inv.authentic done hmem hprivate
    exact ⟨lease, hlease, hactive.trans hlease, by rw [huser, hlease]; rfl⟩

section Draining

variable {system : System} {event : Event}

/-- The channel takes the command of the event, if it has one. -/
def Event.sends : Event → Bool
  | .queuePrivate _ _ _ sent | .queueDevice _ _ sent | .checked _ sent
  | .flushForRetirement _ sent => sent
  | .activate _ | .deactivate _ | .flushed _ | .dropReservation _ | .retireFlushed _ | .work _ => true

theorem dropReservation_sendFailed (world : World) (reservation : Reservation) :
    (world.dropReservation reservation).sendFailed = world.sendFailed := by
  unfold World.dropReservation
  split <;> rfl

theorem sendFailed_step (h : Sound system) (hsends : event.sends = true)
    (hsent : system.world.sendFailed = false) : (system.step event).world.sendFailed = false := by
  cases event with
  | activate lease =>
    change (system.world.activate lease).2.sendFailed = false
    unfold World.activate
    split <;> exact hsent
  | deactivate lease =>
    change (system.world.deactivate lease).2.sendFailed = false
    unfold World.deactivate
    split <;> exact hsent
  | queuePrivate lease store profile sent =>
    obtain rfl : sent = true := hsends
    change (system.world.queuePrivate lease store profile true).2.sendFailed = false
    unfold World.queuePrivate
    split
    · exact hsent
    · refine system.world.sequenced_cases (P := (·.sendFailed = false)) hsent hsent
        fun sequence _ => ?_
      simpa using hsent
  | queueDevice settings directory sent =>
    obtain rfl : sent = true := hsends
    refine system.world.sequenced_cases (P := (·.sendFailed = false)) hsent hsent
      fun sequence _ => ?_
    simpa using hsent
  | checked write sent =>
    obtain rfl : sent = true := hsends
    change (system.world.checked write true).2.sendFailed = false
    unfold World.checked
    split
    · exact hsent
    · exact system.world.sequenced_cases (P := (·.sendFailed = false)) hsent hsent
        fun sequence _ => hsent
  | flushForRetirement lease sent =>
    obtain rfl : sent = true := hsends
    change (system.world.flushForRetirement lease true).2.sendFailed = false
    unfold World.flushForRetirement
    split
    · exact hsent
    · exact system.world.sequenced_cases (P := (·.sendFailed = false)) hsent hsent
        fun generation _ => hsent
  | flushed reservation =>
    have hflushed : (system.world.flushed reservation).sendFailed = false := by
      unfold World.flushed
      split
      · exact hsent
      · rwa [dropReservation_sendFailed]
      · split
        · exact hsent
        · rwa [dropReservation_sendFailed]
    simp only [System.step]
    split <;> assumption
  | dropReservation reservation =>
    simp only [System.step]
    split
    · rwa [dropReservation_sendFailed]
    · exact hsent
  | retireFlushed reservation =>
    have hretired : (system.world.retireFlushed reservation).sendFailed = false := by
      unfold World.retireFlushed
      split <;> exact hsent
    simp only [System.step]
    split <;> assumption
  | work writes =>
    have hworked := (work_step h writes).1
    generalize system.step (.work writes) = after at hworked
    cases hworked with
    | idle => exact hsent
    | received => exact hsent
    | acted _ _ hworks => exact hworks.sendFailed.trans hsent

/-- The wake of the lease takes what waits, whatever happened before it is processed. -/
theorem wake_takes {queued : QueuedWrite} {lease : NamespaceLease} {later : World}
    (hqueued : queued.command = .wake lease) (hactive : later.pending.active = some lease)
    (writes : Bool) {slot : Slot} (hprivate : slot.isPrivate = true) :
    ((process queued).step writes later).2.pending.slots slot = none := by
  obtain ⟨sequence, command⟩ := queued
  obtain rfl : command = .wake lease := hqueued
  change ({ later with received := none }.takePrivate lease).2.pending.slots slot = none
  simp [World.takePrivate, PendingClientState.require, hactive, PendingClientState.clearPrivate,
    hprivate]

theorem wakeDevice_takes {queued : QueuedWrite} {later : World}
    (hqueued : queued.command = .wakeDevice) (writes : Bool) {slot : Slot}
    (hdevice : slot.isPrivate = false) :
    ((process queued).step writes later).2.pending.slots slot = none := by
  obtain ⟨sequence, command⟩ := queued
  obtain rfl : command = .wakeDevice := hqueued
  change later.pending.clearDevice.slots slot = none
  simp [PendingClientState.clearDevice, hdevice]

theorem within_act {α : Type} (action : Bool → World → α × World) :
    Program.Within 1 (act action) := Program.within_atomic _

theorem within_drainPrivate (lease : NamespaceLease) : Program.Within 3 (drainPrivate lease) := by
  refine (within_act _).bind 2 fun result => ?_
  cases result with
  | error error => exact Program.within_ret _ _
  | ok _ =>
    exact (within_act _).bind 1 fun _ => (within_act _).bind 0
      fun _ => Program.within_ret _ _

theorem within_drainDevice : Program.Within 3 drainDevice :=
  (within_act _).bind 2 fun _ => (within_act _).bind 1 fun _ =>
    (within_act _).bind 0 fun _ => Program.within_ret _ _

theorem within_process (queued : QueuedWrite) : Program.Within 9 (process queued) := by
  have hacknowledge (result : WriteResult) : Program.Within 1 (acknowledge queued result) :=
    within_act _
  have hread (view : Bool → World → WriteResult × World) : Program.Within 2 (do
      let result ← act view
      acknowledge queued result) := (within_act view).bind 1 hacknowledge
  obtain ⟨sequence, command⟩ := queued
  cases command with
  | wake lease => exact ((within_drainPrivate lease).bind 0 fun _ =>
      Program.within_ret 0 ()).mono (by omega)
  | wakeDevice => exact (within_drainDevice.bind 0 fun _ => Program.within_ret 0 ()).mono (by omega)
  | flushForRetirement lease generation =>
    refine (within_act _).bind 8 fun result => ?_
    cases result with
    | error error => exact (hacknowledge _).mono (by omega)
    | ok _ =>
      exact within_drainDevice.bind 5 fun _ => (within_drainPrivate lease).bind 2 fun _ =>
        (within_act _).bind 1 fun _ => hacknowledge _
  | checked write =>
    cases write with
    | flushDevice =>
      exact (within_drainDevice.bind 2 fun _ => (within_act _).bind 1 fun _ =>
        hacknowledge _).mono (by omega)
    | flush lease =>
      exact within_drainDevice.bind 6 fun _ => (within_drainPrivate lease).bind 3 fun _ =>
        (within_act _).bind 2 fun _ => (within_act _).bind 1 fun _ => hacknowledge _
    | localStore lease data => exact (hread _).mono (by omega)
    | userProfile lease data => exact (hread _).mono (by omega)
    | deviceSettings data => exact (hread _).mono (by omega)
    | exportDirectory data => exact (hread _).mono (by omega)
    | retainedRedemptionRead lease clientRequestId => exact (hread _).mono (by omega)
    | selectedGroup user device group => exact (hread _).mono (by omega)

/-- The worker alone comes to its end: a command takes one step more than it has actions. -/
theorem drains_within {count : Nat} {answers : List Bool} (h : Sound system)
    (hwithin : system.worker.Within count)
    (hlength : 10 * system.world.queue.length + count ≤ answers.length) :
    (run System.step (answers.map .work) system).worker = .ret () ∧
      (run System.step (answers.map .work) system).world.queue = [] := by
  induction answers generalizing system count with
  | nil =>
    rw [List.length_nil] at hlength
    have hzero : count = 0 := by omega
    have hqueue : system.world.queue = [] := List.length_eq_zero_iff.mp (by omega)
    subst hzero
    refine ⟨?_, hqueue⟩
    change system.worker = .ret ()
    generalize system.worker = worker at hwithin
    cases worker with
    | ret result => rfl
    | act label update next => exact hwithin.elim
  | cons writes rest ih =>
    simp only [List.map_cons, run_cons]
    obtain ⟨hworked, hsound⟩ := work_step h writes
    generalize system.step (.work writes) = after at hworked hsound
    simp only [List.length_cons] at hlength
    cases hworked with
    | idle hworker hqueue =>
      have hzero : system.worker.Within 0 := by
        rw [hworker]
        trivial
      exact ih h hzero (by simp [hqueue])
    | received hworker hqueue =>
      rename_i queued waiting
      refine ih hsound (within_process queued) ?_
      rw [hqueue, List.length_cons] at hlength
      dsimp only
      omega
    | acted writes hworker hworks =>
      rename_i update next
      rw [hworker] at hwithin
      cases count with
      | zero => exact hwithin.elim
      | succ count =>
        refine ih hsound (hwithin writes system.world) ?_
        dsimp only
        rw [hworks.queue]
        omega

/-- The worker never has more than one command to end. -/
theorem worker_within (events : List Event) :
    (run System.step events .start).worker.Within 9 := by
  refine (run_invariant (fun system => Sound system ∧ system.worker.Within 9)
    (fun event system hsystem (_ : True) => ⟨hsystem.1.step event, ?_⟩)
    ⟨.start, trivial⟩ (atEachStep_of_forall fun _ _ => trivial)).2
  by_cases hwork : ∃ writes, event = .work writes
  · obtain ⟨writes, rfl⟩ := hwork
    have hworked := (work_step hsystem.1 writes).1
    have hwithin := hsystem.2
    generalize system.step (.work writes) = after at hworked
    cases hworked with
    | idle => exact hwithin
    | received => exact within_process _
    | acted writes hworker hworks =>
      rw [hworker] at hwithin
      have hnext : Program.Within 8 _ := hwithin writes system.world
      exact hnext.mono (Nat.le_succ 8)
  · obtain ⟨after, hafter, -⟩ := producer_step hsystem.1 fun writes heq => hwork ⟨writes, heq⟩
    rw [hafter]
    exact hsystem.2

/-- No wake-up is lost. -/
theorem no_lost_wake (events : List Event) (hsends : ∀ event ∈ events, event.sends = true) :
    let system := run System.step events .start
    (∀ slot, slot.isPrivate = true → system.world.pending.slots slot ≠ none →
      ∃ lease, system.world.pending.active = some lease ∧ ∃ queued ∈ system.world.commands,
        queued.command = .wake lease ∧ ∀ later : World, later.pending.active = some lease →
          ∀ writes, ((process queued).step writes later).2.pending.slots slot = none) ∧
    (∀ slot, slot.isPrivate = false → system.world.pending.slots slot ≠ none →
      ∃ queued ∈ system.world.commands, queued.command = .wakeDevice ∧ ∀ (later : World) writes,
        ((process queued).step writes later).2.pending.slots slot = none) ∧
    ∃ steps, ∀ answers : List Bool, steps ≤ answers.length →
      (run System.step (events ++ answers.map .work) .start).world.commands = [] ∧
      ∀ slot, (run System.step (events ++ answers.map .work) .start).world.pending.slots slot =
        none := by
  intro system
  have hall (events : List Event) (hsends : ∀ event ∈ events, event.sends = true) :
      Sound (run System.step events .start) ∧
        (run System.step events .start).world.sendFailed = false :=
    run_invariant (fun system => Sound system ∧ system.world.sendFailed = false)
      (fun event _ hsystem hevent => ⟨hsystem.1.step event,
        sendFailed_step hsystem.1 hevent hsystem.2⟩) ⟨.start, rfl⟩ (atEachStep_of_forall hsends)
  obtain ⟨hsound, hsent⟩ := hall events hsends
  refine ⟨fun slot hprivate hslot => ?_, fun slot hdevice hslot => ?_,
    10 * system.world.queue.length + 9, fun answers hlength => ?_⟩
  · obtain ⟨lease, hactive, queued, hmem, hqueued⟩ :=
      hsound.inv.privateWake (hsound.woken.1 hsent slot hprivate hslot)
    exact ⟨lease, hactive, queued, hmem, hqueued, fun later hlater writes =>
      wake_takes hqueued hlater writes hprivate⟩
  · obtain ⟨queued, hmem, hqueued⟩ :=
      hsound.inv.deviceWake (hsound.woken.2 hsent slot hdevice hslot)
    exact ⟨queued, hmem, hqueued, fun later writes => wakeDevice_takes hqueued writes hdevice⟩
  · obtain ⟨hdrained, hdrainedSent⟩ := hall (events ++ answers.map .work) fun event hmem => by
      obtain hmem | hmem := List.mem_append.mp hmem
      · exact hsends event hmem
      · obtain ⟨writes, -, rfl⟩ := List.mem_map.mp hmem
        rfl
    obtain ⟨hworker, hqueue⟩ := drains_within hsound (worker_within events) hlength
    rw [← run_append] at hworker hqueue
    generalize run System.step (events ++ answers.map .work) .start = drained at *
    have hcommands : drained.world.commands = [] := by
      unfold World.commands
      rw [(resting_of_ret hdrained hworker).1, hqueue]
      rfl
    refine ⟨hcommands, fun slot => ?_⟩
    by_contra hslot
    cases hprivate : slot.isPrivate with
    | true =>
      obtain ⟨-, -, queued, hmem, -⟩ :=
        hdrained.inv.privateWake (hdrained.woken.1 hdrainedSent slot hprivate hslot)
      rw [hcommands] at hmem
      cases hmem
    | false =>
      obtain ⟨queued, hmem, -⟩ :=
        hdrained.inv.deviceWake (hdrained.woken.2 hdrainedSent slot hprivate hslot)
      rw [hcommands] at hmem
      cases hmem

theorem queued_snapshot_drains : ∃ steps, ∀ answers : List Bool, steps ≤ answers.length →
    (run System.step (retiring ++ answers.map .work) .start).world.commands = [] ∧
    ∀ slot, (run System.step (retiring ++ answers.map .work) .start).world.pending.slots slot =
      none :=
  (no_lost_wake retiring (by decide)).2.2

end Draining

end ArtForgeStudio.ClientState
