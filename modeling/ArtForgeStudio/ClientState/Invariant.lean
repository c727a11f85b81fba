import Mathlib.Data.Nat.Basic
import Mathlib.Order.Basic
import ArtForgeStudio.ClientState.Writer

/-! # Where a snapshot can be

An accepted private snapshot is queued, pending, taken, committed, owed, or its lease has gone.
The sequences order the commands, and the last activation splits them: later snapshots belong to
the lease that was activated, earlier ones to other leases.
-/

namespace ArtForgeStudio.ClientState

open ArtForgeStudio.Session

/-- The entry is the other one or replaces it. -/
def Entry.Covers (entry other : Entry) : Prop :=
  entry.lease = other.lease ∧ (entry = other ∨ other.sequence < entry.sequence)

theorem Entry.Covers.trans {first second third : Entry} (h : first.Covers second)
    (h' : second.Covers third) : first.Covers third := by
  obtain ⟨hlease, rfl | hlt⟩ := h
  · exact h'
  · obtain ⟨hlease', rfl | hlt'⟩ := h'
    · exact ⟨hlease, .inr hlt⟩
    · exact ⟨hlease.trans hlease', .inr (hlt'.trans hlt)⟩

theorem Entry.Covers.refl (entry : Entry) : entry.Covers entry := ⟨rfl, .inl rfl⟩

theorem Entry.Covers.le {entry other : Entry} (h : entry.Covers other) :
    other.sequence ≤ entry.sequence := by
  obtain ⟨-, rfl | hlt⟩ := h
  · exact Nat.le_refl _
  · exact hlt.le

namespace World

/-- Committed, or superseded by a committed write of the slot and the lease. -/
def Covered (write : SlotWrite) (world : World) : Prop :=
  ∃ done ∈ world.written, done.slot = write.slot ∧ done.entry.Covers write.entry

/-- A failure of the slot and the lease is remembered. -/
def Owed (write : SlotWrite) (world : World) : Prop :=
  ∃ debt ∈ world.last.retirementDebts, debt.slot = write.slot ∧ debt.lease = write.entry.lease ∧
    write.entry.sequence ≤ debt.sequence

def Settled (write : SlotWrite) (world : World) : Prop :=
  world.Covered write ∨ world.Owed write ∨ world.pending.active ≠ write.entry.lease

/-- Where an accepted private snapshot can be. -/
def Kept (write : SlotWrite) (world : World) : Prop :=
  (∃ queued ∈ world.commands, queued.slotWrite = some write) ∨
  (∃ entry, world.pending.slots write.slot = some entry ∧ entry.Covers write.entry) ∨
  (∃ entry, world.taken write.slot = some entry ∧ entry.Covers write.entry) ∨
  world.Settled write

/-- No lease value was activated twice. -/
def Fresh (world : World) : Prop := (world.activated.map Prod.fst).Nodup

/-- What the proof of a flush promises while it lasts. -/
def Sealed (lease : NamespaceLease) (world : World) : Prop :=
  world.pending.active = some lease ∧
  (∀ slot, slot.isPrivate = true → world.pending.slots slot = none) ∧
  (world.Fresh → ∀ write ∈ world.accepted, write.slot.isPrivate = true →
    write.entry.lease = some lease → world.Covered write)

end World

/-- The accepted snapshots in the order of their sequences: the last activation splits them. -/
structure History (active : Option NamespaceLease) (sequence : Nat) (retirement : Option Nat)
    (activated : List (NamespaceLease × Nat)) (accepted : List SlotWrite) : Prop where
  dated : ∀ write ∈ accepted, 0 < write.entry.sequence ∧ write.entry.sequence ≤ sequence
  distinct : ∀ write ∈ accepted, ∀ other ∈ accepted, write.slot = other.slot →
    write.entry.sequence = other.entry.sequence → write = other
  owned : ∀ write ∈ accepted, write.slot.isPrivate = true →
    ∃ lease ∈ activated.map Prod.fst, write.entry.lease = some lease
  reserved : ∀ generation, retirement = some generation → generation ≤ sequence ∧
    ∀ write ∈ accepted, write.slot.isPrivate = true → write.entry.sequence < generation
  started : ∀ start ∈ activated, start.2 ≤ sequence
  head : ∀ lease, active = some lease → ∃ start, activated.head? = some (lease, start)
  window : (activated.map Prod.fst).Nodup → ∀ lease start,
    activated.head? = some (lease, start) → ∀ write ∈ accepted, write.slot.isPrivate = true →
      (start < write.entry.sequence ↔ write.entry.lease = some lease)

/-- Every snapshot and every command is where it belongs. -/
structure Inv (world : World) : Prop where
  history : History world.pending.active world.pending.sequence world.pending.retirement
    world.activated world.accepted
  waiting : ∀ slot entry, world.pending.slots slot = some entry → ⟨slot, entry⟩ ∈ world.accepted
  current : ∀ slot entry, slot.isPrivate = true → world.pending.slots slot = some entry →
    entry.lease = world.pending.active
  taken : ∀ slot entry, world.taken slot = some entry → ⟨slot, entry⟩ ∈ world.accepted
  queued : ∀ queued ∈ world.commands, ∀ write, queued.slotWrite = some write →
    write ∈ world.accepted
  ordered : world.commands.Pairwise (·.sequence < ·.sequence)
  numbered : ∀ queued ∈ world.commands, queued.sequence ≤ world.pending.sequence
  stored : ∀ done ∈ world.written, done.toSlotWrite ∈ world.accepted
  increasing : world.written.Pairwise fun done earlier => done.slot = earlier.slot →
    earlier.entry.sequence < done.entry.sequence
  bounded : ∀ done ∈ world.written, done.entry.sequence ≤ world.last.committed done.slot
  reached : ∀ slot, world.last.committed slot = 0 ∨
    ∃ done ∈ world.written, done.slot = slot ∧ done.entry.sequence = world.last.committed slot
  authentic : ∀ done ∈ world.written, done.slot.isPrivate = true →
    done.active = done.entry.lease ∧
      done.user = done.entry.lease.map (·.userNamespace.userPublicId)
  kept : world.Fresh → ∀ write ∈ world.accepted, write.slot.isPrivate = true → world.Kept write
  acknowledged : world.Fresh → ∀ note ∈ world.acknowledged, note.2 = .ok () →
    ∀ write, note.1.slotWrite = some write → write.slot.isPrivate = true → world.Covered write
  answered : ∀ note ∈ world.acknowledged, note.1.sequence ≤ world.pending.sequence
  separate : ∀ reservation ∈ world.reservations, ∀ other ∈ world.reservations,
    reservation.generation = other.generation → reservation = other
  pledged : ∀ reservation ∈ world.reservations, reservation.generation ≤ world.pending.sequence
  proven : ∀ lease generation, (⟨generation, .flushForRetirement lease generation⟩, .ok ()) ∈
    world.acknowledged → world.pending.retirement = some generation → world.Sealed lease
  proofs : ∀ reservation ∈ world.reservations, reservation.flushed = true →
    world.pending.retirement = some reservation.generation ∧
      (⟨reservation.generation,
        .flushForRetirement reservation.lease reservation.generation⟩, .ok ()) ∈ world.acknowledged
  privateWake : world.pending.privateWake = true → ∃ lease, world.pending.active = some lease ∧
    ∃ queued ∈ world.commands, queued.command = .wake lease
  deviceWake : world.pending.deviceWake = true → ∃ queued ∈ world.commands,
    queued.command = .wakeDevice

/-- A sequence that was just drawn: the commands and the activations are older. -/
structure Drawn (sequence : Nat) (world : World) : Prop where
  drawn : world.pending.sequence = sequence
  positive : 0 < sequence
  commands : ∀ queued ∈ world.commands, queued.sequence < sequence
  activated : ∀ start ∈ world.activated, start.2 < sequence

/-- Nothing bears the sequence yet. -/
structure Newest (sequence : Nat) (world : World) : Prop where
  accepted : ∀ write ∈ world.accepted, write.entry.sequence < sequence
  acknowledged : ∀ note ∈ world.acknowledged, note.1.sequence < sequence
  reservations : ∀ reservation ∈ world.reservations, reservation.generation < sequence

/-- A snapshot that may be accepted under the sequence drawn. -/
structure Admissible (write : SlotWrite) (world : World) : Prop where
  drawn : Drawn write.entry.sequence world
  new : ∀ other ∈ world.accepted, other.slot = write.slot →
    other.entry.sequence < write.entry.sequence
  owner : write.slot.isPrivate = true → world.pending.retirement = none ∧
    world.pending.active = write.entry.lease ∧ write.entry.lease.isSome = true

namespace Inv

open World

variable {world : World} {write : SlotWrite} {queued : QueuedWrite} {lease : NamespaceLease}
  {owner : Option NamespaceLease} {slot : Slot} {data : Option String} {sequence : Nat}

theorem start : Inv .start := by
  constructor
  case history =>
    constructor <;> simp [World.start, PendingClientState.default]
  all_goals simp [World.start, PendingClientState.default, CommittedSequences.default,
    World.commands]

theorem advance (h : Inv world) (hle : world.pending.sequence ≤ sequence) :
    Inv { world with pending := { world.pending with sequence } } :=
  { h with
    history := {
      h.history with
      dated := fun write hmem =>
        ⟨(h.history.dated write hmem).1, (h.history.dated write hmem).2.trans hle⟩
      reserved := fun generation hgeneration =>
        ⟨(h.history.reserved generation hgeneration).1.trans hle,
          (h.history.reserved generation hgeneration).2⟩
      started := fun start hmem => (h.history.started start hmem).trans hle }
    numbered := fun queued hmem => (h.numbered queued hmem).trans hle
    answered := fun note hmem => (h.answered note hmem).trans hle
    pledged := fun reservation hmem => (h.pledged reservation hmem).trans hle }

theorem exhaust (h : Inv world) :
    Inv { world with pending := { world.pending with authorityExhausted := true } } :=
  { h with }

theorem accept (h : Inv world) (hwrite : Admissible write world) :
    History world.pending.active world.pending.sequence world.pending.retirement world.activated
      (write :: world.accepted) :=
  { h.history with
    dated := List.forall_mem_cons.mpr
      ⟨⟨hwrite.drawn.positive, hwrite.drawn.drawn.ge⟩, h.history.dated⟩
    distinct := by
      intro one hone other hother hslot hsequence
      obtain rfl | hold := List.mem_cons.mp hone <;> obtain rfl | hold' := List.mem_cons.mp hother
      · rfl
      · exact absurd hsequence (hwrite.new other hold' hslot.symm).ne'
      · exact absurd hsequence (hwrite.new one hold hslot).ne
      · exact h.history.distinct one hold other hold' hslot hsequence
    owned := by
      refine List.forall_mem_cons.mpr ⟨fun hprivate => ?_, h.history.owned⟩
      obtain ⟨-, hactive, hsome⟩ := hwrite.owner hprivate
      obtain ⟨lease, hlease⟩ := Option.isSome_iff_exists.mp hsome
      obtain ⟨start, hhead⟩ := h.history.head lease (hactive.trans hlease)
      exact ⟨lease, List.mem_map.mpr ⟨_, List.mem_of_head? hhead, rfl⟩, hlease⟩
    reserved := by
      intro generation hgeneration
      refine ⟨(h.history.reserved generation hgeneration).1, List.forall_mem_cons.mpr
        ⟨fun hprivate => ?_, (h.history.reserved generation hgeneration).2⟩⟩
      exact absurd (hgeneration.symm.trans (hwrite.owner hprivate).1) nofun
    window := by
      intro hfresh lease start hhead
      refine List.forall_mem_cons.mpr ⟨fun hprivate => ?_, h.history.window hfresh lease start hhead⟩
      obtain ⟨-, hactive, hsome⟩ := hwrite.owner hprivate
      obtain ⟨mine, hmine⟩ := Option.isSome_iff_exists.mp hsome
      obtain ⟨start', hhead'⟩ := h.history.head mine (hactive.trans hmine)
      obtain ⟨rfl, rfl⟩ := Prod.mk.inj (Option.some.inj (hhead.symm.trans hhead'))
      exact iff_of_true (hwrite.drawn.activated _ (List.mem_of_head? hhead')) hmine }

/-- A private snapshot is not accepted while a retirement is reserved. -/
theorem not_private (hwrite : Admissible write world) {generation : Nat}
    (hgeneration : world.pending.retirement = some generation) : write.slot.isPrivate = false := by
  by_contra hprivate
  exact absurd (hgeneration.symm.trans (hwrite.owner (by simpa using hprivate)).1) nofun

theorem sealed_accept (hwrite : Admissible write world) {generation : Nat}
    (hgeneration : world.pending.retirement = some generation) (hsealed : world.Sealed lease)
    (hfresh : world.Fresh) : ∀ other ∈ write :: world.accepted, other.slot.isPrivate = true →
      other.entry.lease = some lease → world.Covered other :=
  List.forall_mem_cons.mpr
    ⟨fun hprivate => absurd hprivate (by simp [not_private hwrite hgeneration]),
      hsealed.2.2 hfresh⟩

theorem fill (h : Inv world)
    (hwrite : ∀ text, data = some text → Admissible ⟨slot, sequence, owner, text⟩ world) :
    Inv (world.fill slot owner data sequence) := by
  cases data with
  | none => exact h
  | some text =>
    have hwrite := hwrite text rfl
    exact {
      h with
      history := h.accept hwrite
      waiting := by
        intro other entry hentry
        simp only [World.fill, Function.update_apply] at hentry
        split at hentry
        · obtain ⟨rfl, rfl⟩ := And.intro ‹other = slot› (Option.some.inj hentry)
          exact List.mem_cons_self
        · exact List.mem_cons_of_mem _ (h.waiting other entry hentry)
      current := by
        intro other entry hprivate hentry
        simp only [World.fill, Function.update_apply] at hentry
        split at hentry
        · obtain ⟨rfl, rfl⟩ := And.intro ‹other = slot› (Option.some.inj hentry)
          exact (hwrite.owner hprivate).2.1.symm
        · exact h.current other entry hprivate hentry
      taken := fun other entry htaken => List.mem_cons_of_mem _ (h.taken other entry htaken)
      queued := fun queued hmem write hwrite =>
        List.mem_cons_of_mem _ (h.queued queued hmem write hwrite)
      stored := fun done hmem => List.mem_cons_of_mem _ (h.stored done hmem)
      kept := by
        intro hfresh
        refine List.forall_mem_cons.mpr
          ⟨fun _ => .inr (.inl ⟨_, Function.update_self .., .refl _⟩), fun write hmem hprivate => ?_⟩
        obtain hqueued | ⟨entry, hentry, hcover⟩ | hrest := h.kept hfresh write hmem hprivate
        · exact .inl hqueued
        · refine .inr (.inl ?_)
          by_cases hslot : write.slot = slot
          · subst hslot
            -- the snapshot that waited is of the same lease and older
            refine ⟨_, Function.update_self .., Entry.Covers.trans ⟨?_, .inr ?_⟩ hcover⟩
            · rw [h.current _ _ hprivate hentry, (hwrite.owner hprivate).2.1]
            · exact hwrite.new _ (h.waiting _ _ hentry) rfl
          · exact ⟨entry, by simpa [World.fill, Function.update_apply, hslot] using hentry, hcover⟩
        · exact .inr (.inr hrest)
      proven := by
        intro lease generation hnote hgeneration
        have hsealed := h.proven lease generation hnote hgeneration
        refine ⟨hsealed.1, fun other hprivate => ?_, sealed_accept hwrite hgeneration hsealed⟩
        have hother : other ≠ slot := by
          rintro rfl
          simp [not_private hwrite hgeneration] at hprivate
        simpa [World.fill, Function.update_apply, hother] using hsealed.2.1 other hprivate }

/-- The world after a command was sent. -/
theorem sent (h : Inv world) (hdrawn : Drawn queued.sequence world)
    (hwrite : ∀ write, queued.slotWrite = some write → Admissible write world) :
    Inv { world with
      queue := world.queue ++ [queued]
      accepted := queued.slotWrite.toList ++ world.accepted } := by
  have hcommands : ({ world with
      queue := world.queue ++ [queued]
      accepted := queued.slotWrite.toList ++ world.accepted } : World).commands =
        world.commands ++ [queued] := by
    simp [World.commands]
  have hold : ∀ write ∈ world.accepted, write ∈ queued.slotWrite.toList ++ world.accepted :=
    fun write hmem => List.mem_append_right _ hmem
  exact {
    h with
    history := by
      cases hq : queued.slotWrite with
      | none => exact h.history
      | some write => exact h.accept (hwrite write hq)
    waiting := fun slot entry hentry => hold _ (h.waiting slot entry hentry)
    taken := fun slot entry hentry => hold _ (h.taken slot entry hentry)
    queued := by
      intro other hmem write hother
      rw [hcommands] at hmem
      obtain hmem | hmem := List.mem_append.mp hmem
      · exact hold _ (h.queued other hmem write hother)
      · obtain rfl := List.mem_singleton.mp hmem
        simp [hother]
    ordered := by
      rw [hcommands, List.pairwise_append]
      refine ⟨h.ordered, List.pairwise_singleton .., fun other hmem last hlast => ?_⟩
      obtain rfl := List.mem_singleton.mp hlast
      exact hdrawn.commands other hmem
    numbered := by
      intro other hmem
      rw [hcommands] at hmem
      obtain hmem | hmem := List.mem_append.mp hmem
      · exact h.numbered other hmem
      · obtain rfl := List.mem_singleton.mp hmem
        exact hdrawn.drawn.ge
    stored := fun done hmem => hold _ (h.stored done hmem)
    kept := by
      intro hfresh write hmem hprivate
      obtain hmem | hmem := List.mem_append.mp hmem
      · exact .inl ⟨queued, by simp [hcommands], by simpa using hmem⟩
      · obtain ⟨other, hother, hsome⟩ | hrest := h.kept hfresh write hmem hprivate
        · exact .inl ⟨other, by simp [hcommands, hother], hsome⟩
        · exact .inr hrest
    proven := by
      intro lease generation hnote hgeneration
      have hsealed := h.proven lease generation hnote hgeneration
      refine ⟨hsealed.1, hsealed.2.1, ?_⟩
      cases hq : queued.slotWrite with
      | none => exact hsealed.2.2
      | some write => exact sealed_accept (hwrite write hq) hgeneration hsealed
    privateWake := by
      intro hwake
      obtain ⟨lease, hactive, other, hmem, hother⟩ := h.privateWake hwake
      exact ⟨lease, hactive, other, by simp [hcommands, hmem], hother⟩
    deviceWake := by
      intro hwake
      obtain ⟨other, hmem, hother⟩ := h.deviceWake hwake
      exact ⟨other, by simp [hcommands, hmem], hother⟩ }

theorem flagPrivate (h : Inv world) (hactive : world.pending.active = some lease)
    (hmem : queued ∈ world.commands) (hqueued : queued.command = .wake lease) :
    Inv { world with pending := { world.pending with privateWake := true } } :=
  { h with privateWake := fun _ => ⟨lease, hactive, queued, hmem, hqueued⟩ }

theorem flagDevice (h : Inv world) (hmem : queued ∈ world.commands)
    (hqueued : queued.command = .wakeDevice) :
    Inv { world with pending := { world.pending with deviceWake := true } } :=
  { h with deviceWake := fun _ => ⟨queued, hmem, hqueued⟩ }

theorem failSend (h : Inv world) : Inv { world with sendFailed := true } := { h with }

/-- Another lease becomes active, or none: nothing private is pending then. -/
theorem switch (h : Inv world) (hfree : world.pending.retirement = none) (next : Option NamespaceLease) :
    Inv { world with
      pending := { world.pending.clearPrivate with active := next }
      activated := (next.map (·, world.pending.sequence)).toList ++ world.activated } := by
  have hfresh : ∀ {activated}, ((activated ++ world.activated).map Prod.fst).Nodup → world.Fresh := by
    intro activated hnodup
    rw [List.map_append] at hnodup
    exact (List.nodup_append.mp hnodup).2.1
  have hnew : ∀ {lease}, next = some lease → ∀ {activated},
      (((next.map (·, world.pending.sequence)).toList ++ activated).map Prod.fst).Nodup →
      lease ∉ activated.map Prod.fst := by
    rintro lease rfl activated hnodup
    exact (List.nodup_cons.mp (by simpa using hnodup)).1
  -- a snapshot of a lease that was active before is of another lease now
  have hgone : ∀ write ∈ world.accepted, write.slot.isPrivate = true →
      (((next.map (·, world.pending.sequence)).toList ++ world.activated).map Prod.fst).Nodup →
      next ≠ write.entry.lease := by
    intro write hmem hprivate hnodup heq
    obtain ⟨lease, hlease, hwrite⟩ := h.history.owned write hmem hprivate
    exact hnew (heq.trans hwrite) hnodup hlease
  exact {
    h with
    history := {
      h.history with
      owned := by
        intro write hmem hprivate
        obtain ⟨lease, hlease, hwrite⟩ := h.history.owned write hmem hprivate
        exact ⟨lease, List.map_append ▸ List.mem_append_right _ hlease, hwrite⟩
      reserved := fun generation hgeneration => absurd (hgeneration.symm.trans hfree) nofun
      started := by
        intro start hmem
        obtain hmem | hmem := List.mem_append.mp hmem
        · cases next with
          | none => simp at hmem
          | some lease =>
            obtain rfl : start = (lease, world.pending.sequence) := by simpa using hmem
            exact Nat.le_refl _
        · exact h.history.started start hmem
      head := by
        rintro lease hlease
        cases next with
        | none => cases hlease
        | some mine =>
          obtain rfl : mine = lease := by simpa using hlease
          exact ⟨_, rfl⟩
      window := by
        intro hnodup lease start hhead write hmem hprivate
        cases next with
        | none => exact h.history.window hnodup lease start hhead write hmem hprivate
        | some mine =>
          obtain ⟨rfl, rfl⟩ : mine = lease ∧ world.pending.sequence = start := by
            simpa using hhead
          refine iff_of_false (h.history.dated write hmem).2.not_gt fun hlease => ?_
          exact hgone write hmem hprivate hnodup hlease.symm }
    waiting := by
      intro slot entry hentry
      simp only [PendingClientState.clearPrivate] at hentry
      split at hentry
      · cases hentry
      · exact h.waiting slot entry hentry
    current := by
      intro slot entry hprivate hentry
      simp [PendingClientState.clearPrivate, hprivate] at hentry
    kept := by
      intro hnodup write hmem hprivate
      exact .inr (.inr (.inr (.inr (.inr (hgone write hmem hprivate hnodup)))))
    acknowledged := fun hnodup => h.acknowledged (hfresh hnodup)
    proven := fun lease generation _ hgeneration => absurd (hgeneration.symm.trans hfree) nofun
    proofs := fun reservation hmem hflushed =>
      absurd ((h.proofs reservation hmem hflushed).1.symm.trans hfree) nofun
    privateWake := nofun
    deviceWake := h.deviceWake }

theorem reserve (h : Inv world) (lease : NamespaceLease) (hdrawn : Drawn sequence world) (hnew : Newest sequence world)
    (hfree : world.pending.retirement = none) :
    Inv { world with
      pending := { world.pending with retirement := some sequence }
      reservations := ⟨lease, sequence, false⟩ :: world.reservations } :=
  { h with
    history := {
      h.history with
      reserved := by
        rintro generation hgeneration
        obtain rfl : sequence = generation := Option.some.inj hgeneration
        exact ⟨hdrawn.drawn.ge, fun write hmem _ => hnew.accepted write hmem⟩ }
    separate := by
      intro reservation hmem other hother heq
      have := hnew.reservations
      have := h.separate
      simp only [List.mem_cons] at hmem hother
      grind
    pledged := List.forall_mem_cons.mpr ⟨hdrawn.drawn.ge, h.pledged⟩
    proven := by
      intro lease generation hnote hgeneration
      obtain rfl : sequence = generation := Option.some.inj hgeneration
      exact absurd (hnew.acknowledged _ hnote) (lt_irrefl _)
    proofs := List.forall_mem_cons.mpr ⟨nofun, fun reservation hmem hflushed =>
      absurd ((h.proofs reservation hmem hflushed).1.symm.trans hfree) nofun⟩ }

theorem forget (h : Inv world) (reservation : Reservation) :
    Inv (world.forget reservation) :=
  have hmem : ∀ {other}, other ∈ world.reservations.filter (· ≠ reservation) →
      other ∈ world.reservations := fun hmem => (List.mem_filter.mp hmem).1
  { h with
    separate := fun one hone other hother => h.separate one (hmem hone) other (hmem hother)
    pledged := fun other hother => h.pledged other (hmem hother)
    proofs := fun other hother => h.proofs other (hmem hother) }

theorem release (h : Inv world) (hproofs : ∀ reservation ∈ world.reservations,
    reservation.flushed = false) :
    Inv { world with pending := { world.pending with retirement := none } } :=
  { h with
    history := { h.history with reserved := nofun }
    proven := nofun
    proofs := fun reservation hmem hflushed =>
      absurd ((hproofs reservation hmem).symm.trans hflushed) nofun }

/-- The only proof is that of the retirement reserved. -/
theorem no_other_proof (h : Inv world) {reservation : Reservation}
    (hmem : reservation ∈ world.reservations) (hholds : world.holds reservation = true) :
    ∀ other ∈ (world.forget reservation).reservations, other.flushed = false := by
  intro other hother
  obtain ⟨hother, hne⟩ := List.mem_filter.mp hother
  by_contra hflushed
  simp only [World.holds, decide_eq_true_eq] at hholds
  have hproof := (h.proofs other hother (by simpa using hflushed)).1
  have hgeneration : other.generation = reservation.generation :=
    Option.some.inj (hproof.symm.trans hholds.1)
  exact of_decide_eq_true hne (h.separate other hother reservation hmem hgeneration)

theorem dropReservation (h : Inv world) {reservation : Reservation}
    (hmem : reservation ∈ world.reservations) : Inv (world.dropReservation reservation) := by
  unfold World.dropReservation
  split
  · exact (h.forget reservation).release (h.no_other_proof hmem ‹_›)
  · exact h.forget reservation

theorem retireFlushed (h : Inv world) {reservation : Reservation}
    (hmem : reservation ∈ world.reservations) : Inv (world.retireFlushed reservation) := by
  unfold World.retireFlushed
  split
  · exact ((h.forget reservation).release (h.no_other_proof hmem ‹_›)).switch rfl none
  · exact (h.forget reservation).exhaust

theorem flushed (h : Inv world) {reservation : Reservation}
    (hmem : reservation ∈ world.reservations) : Inv (world.flushed reservation) := by
  unfold World.flushed
  split
  · exact h
  · exact h.dropReservation hmem
  · rename_i note hfind
    split
    · rename_i hholds
      simp only [World.holds, decide_eq_true_eq] at hholds
      have hnote := List.find?_some hfind
      have hnote : (⟨reservation.generation,
          .flushForRetirement reservation.lease reservation.generation⟩, .ok ()) ∈
          world.acknowledged := by
        rw [← of_decide_eq_true hnote]
        exact List.mem_of_find?_eq_some hfind
      have hforget := h.forget reservation
      exact {
        hforget with
        separate := by
          have hother : ∀ other ∈ (world.forget reservation).reservations,
              other.generation ≠ reservation.generation := by
            intro other hother heq
            obtain ⟨hother, hne⟩ := List.mem_filter.mp hother
            exact of_decide_eq_true hne (h.separate other hother reservation hmem heq)
          have hseparate := hforget.separate
          intro one hone other hother' heq
          simp only [List.mem_cons] at hone hother'
          grind
        pledged := List.forall_mem_cons.mpr ⟨h.pledged reservation hmem, hforget.pledged⟩
        proofs := List.forall_mem_cons.mpr ⟨fun _ => ⟨hholds.1, hnote⟩, hforget.proofs⟩ }
    · exact h.dropReservation hmem

end Inv

end ArtForgeStudio.ClientState
