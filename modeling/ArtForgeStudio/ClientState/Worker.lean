import ArtForgeStudio.ClientState.Producers

/-! # What the worker does

A commit settles its snapshot: it is committed, a failure of it is owed, or its lease has gone.
-/

namespace ArtForgeStudio.ClientState

open ArtForgeStudio.Session ArtForgeStudio.Concurrency

section Debts

open CommittedSequences

variable {debt : RetirementWriteDebt} {debts : List RetirementWriteDebt}

theorem mem_eraseP_or_find {α : Type} {p : α → Bool} {a : α} {as : List α} (h : a ∈ as) :
    a ∈ as.eraseP p ∨ as.find? p = some a := by
  induction as with
  | nil => cases h
  | cons b bs ih =>
    by_cases hb : p b = true
    · obtain rfl | hmem := List.mem_cons.mp h
      · exact .inr (List.find?_cons_of_pos hb)
      · exact .inl (by rwa [List.eraseP_cons_of_pos hb])
    · rw [List.eraseP_cons_of_neg hb, List.find?_cons_of_neg hb]
      obtain rfl | hmem := List.mem_cons.mp h
      · exact .inl List.mem_cons_self
      · exact (ih hmem).imp (List.mem_cons_of_mem _) id

/-- A debt goes only for a later write of its slot and lease. -/
theorem mem_recordDebts (slot : Slot) (lease : Option NamespaceLease) (sequence : Nat)
    (result : WriteResult) (h : debt ∈ debts) :
    debt ∈ recordDebts slot lease sequence result debts ∨
      debt.slot = slot ∧ debt.lease = lease ∧ debt.sequence ≤ sequence := by
  unfold recordDebts
  by_cases hnewer : owesNewer slot lease sequence debts = true
  · exact .inl (by simpa [hnewer] using h)
  · rw [if_neg hnewer]
    obtain hmem | hfind := mem_eraseP_or_find h
    · refine .inl ?_
      cases result with
      | ok => exact hmem
      | error error => exact List.mem_append_left _ hmem
    · have howes := List.find?_some hfind
      simp only [owes, decide_eq_true_eq] at howes
      exact .inr ⟨howes.1, howes.2, by simpa [owesNewer, hfind] using hnewer⟩

theorem recordDebts_error (slot : Slot) (lease : Option NamespaceLease) (sequence : Nat)
    (error : ClientStateWriteError) (debts : List RetirementWriteDebt) :
    ∃ debt ∈ recordDebts slot lease sequence (.error error) debts,
      debt.slot = slot ∧ debt.lease = lease ∧ sequence ≤ debt.sequence := by
  unfold recordDebts
  split
  · rename_i hnewer
    unfold owesNewer at hnewer
    split at hnewer
    · rename_i debt hfind
      have howes := List.find?_some hfind
      simp only [owes, decide_eq_true_eq] at howes
      exact ⟨debt, List.mem_of_find?_eq_some hfind, howes.1, howes.2,
        (of_decide_eq_true hnewer).le⟩
    · cases hnewer
  · exact ⟨⟨slot, lease, sequence, error⟩, by simp, rfl, rfl, Nat.le_refl _⟩

end Debts

namespace World

variable {world : World} {write other : SlotWrite} {writes : Bool}

/-- The ways of a commit: refused or failed, too late, or done. -/
inductive Settles (write : SlotWrite) (before : World) : WriteResult → World → Prop
  | failed (error : ClientStateWriteError) : Settles write before (.error error)
      { before with
        last := before.last.recordRetirementResult write.slot write.entry.lease
          write.entry.sequence (.error error) }
  | late (howner : write.entry.lease = none ∨ before.pending.active = write.entry.lease)
      (hlate : write.entry.sequence ≤ before.last.committed write.slot) :
      Settles write before (.ok ()) before
  | done (howner : write.entry.lease = none ∨ before.pending.active = write.entry.lease)
      (hnewer : before.last.committed write.slot < write.entry.sequence) :
      Settles write before (.ok ())
        { before with
          written := ⟨write, write.entry.lease.map (·.userNamespace.userPublicId),
            before.pending.active⟩ :: before.written
          last := {
            committed := Function.update before.last.committed write.slot write.entry.sequence
            errors := before.last.errors
            retirementDebts := CommittedSequences.recordDebts write.slot write.entry.lease
              write.entry.sequence (.ok ()) before.last.retirementDebts } }

theorem settle_settles (write : SlotWrite) (writes : Bool) (world : World) :
    Settles write world (world.settle write writes).1 (world.settle write writes).2 := by
  have howner : world.pending.requireOwner write.entry.lease = .ok () →
      write.entry.lease = none ∨ world.pending.active = write.entry.lease := by
    cases write.entry.lease with
    | none => exact fun _ => .inl rfl
    | some lease =>
      intro hrequire
      simp only [PendingClientState.requireOwner, PendingClientState.require] at hrequire
      split at hrequire
      · exact .inr ‹_›
      · cases hrequire
  unfold World.settle World.commit
  cases hrequire : world.pending.requireOwner write.entry.lease with
  | error error => simpa using Settles.failed error
  | ok _ =>
    by_cases hlate : write.entry.sequence ≤ world.last.committed write.slot
    · simpa [hlate] using Settles.late (howner hrequire) hlate
    · cases writes with
      | false => simpa [hlate] using Settles.failed localError
      | true =>
        have hnewer := not_le.mp hlate
        simpa [hlate, hnewer, CommittedSequences.recordRetirementResult] using
          Settles.done (howner hrequire) hnewer

theorem Settled.of_covers (h : world.Settled write) (hslot : write.slot = other.slot)
    (hcovers : write.entry.Covers other.entry) : world.Settled other := by
  obtain ⟨done, hmem, hdone, hcover⟩ | ⟨debt, hmem, hdebt, hlease, hle⟩ | hgone := h
  · exact .inl ⟨done, hmem, hdone.trans hslot, hcover.trans hcovers⟩
  · exact .inr (.inl ⟨debt, hmem, hdebt.trans hslot, hlease.trans hcovers.1,
      hcovers.le.trans hle⟩)
  · exact .inr (.inr (hcovers.1 ▸ hgone))

theorem covers_of_le (h : Inv world) (hwrite : write ∈ world.accepted)
    (hother : other ∈ world.accepted) (hslot : write.slot = other.slot)
    (hlease : write.entry.lease = other.entry.lease)
    (hle : other.entry.sequence ≤ write.entry.sequence) : write.entry.Covers other.entry := by
  refine ⟨hlease, ?_⟩
  obtain heq | hlt := hle.eq_or_lt
  · exact .inl (congrArg SlotWrite.entry
      (h.history.distinct write hwrite other hother hslot heq.symm))
  · exact .inr hlt

theorem Settles.keeps {result : WriteResult} {after : World} (h : Inv world)
    (hsettles : Settles write world result after) (hwrite : write ∈ world.accepted)
    (hother : other ∈ world.accepted) (hsettled : world.Settled other) : after.Settled other := by
  cases hsettles with
  | late => exact hsettled
  | failed error =>
    obtain hcovered | ⟨debt, hmem, hslot, hlease, hle⟩ | hgone := hsettled
    · exact .inl hcovered
    · obtain hmem | ⟨hslot', hlease', hle'⟩ := mem_recordDebts write.slot write.entry.lease
          write.entry.sequence (.error error) hmem
      · exact .inr (.inl ⟨debt, hmem, hslot, hlease, hle⟩)
      · obtain ⟨next, hnext, hnslot, hnlease, hnle⟩ := recordDebts_error write.slot
          write.entry.lease write.entry.sequence error world.last.retirementDebts
        exact .inr (.inl ⟨next, hnext, hnslot.trans (hslot'.symm.trans hslot),
          hnlease.trans (hlease'.symm.trans hlease), by omega⟩)
    · exact .inr (.inr hgone)
  | done howner hnewer =>
    obtain ⟨done, hmem, hdone⟩ | ⟨debt, hmem, hslot, hlease, hle⟩ | hgone := hsettled
    · exact .inl ⟨done, List.mem_cons_of_mem _ hmem, hdone⟩
    · obtain hmem | ⟨hslot', hlease', hle'⟩ := mem_recordDebts write.slot write.entry.lease
          write.entry.sequence (.ok ()) hmem
      · exact .inr (.inl ⟨debt, hmem, hslot, hlease, hle⟩)
      · have hsame := hslot'.symm.trans hslot
        exact .inl ⟨_, List.mem_cons_self, hsame, covers_of_le h hwrite hother hsame
          (hlease'.symm.trans hlease) (hle.trans hle')⟩
    · exact .inr (.inr hgone)

/-- A commit settles its own snapshot. It counts as done if it came too late: the newer write is
of the same lease, since the last activation splits the sequences. -/
theorem Settles.own {result : WriteResult} {after : World} (h : Inv world) (hfresh : world.Fresh)
    (hsettles : Settles write world result after) (hwrite : write ∈ world.accepted)
    (hprivate : write.slot.isPrivate = true) :
    after.Settled write ∧ (result = .ok () → after.Covered write) := by
  cases hsettles with
  | failed error =>
    obtain ⟨debt, hmem, hslot, hlease, hle⟩ := recordDebts_error write.slot
      write.entry.lease write.entry.sequence error world.last.retirementDebts
    exact ⟨.inr (.inl ⟨debt, hmem, hslot, hlease, hle⟩), nofun⟩
  | done howner hnewer =>
    have hcovered : (⟨write, write.entry.lease.map (·.userNamespace.userPublicId),
        world.pending.active⟩ : Written) ∈ _ :: world.written := List.mem_cons_self
    exact ⟨.inl ⟨_, hcovered, rfl, .refl _⟩, fun _ => ⟨_, hcovered, rfl, .refl _⟩⟩
  | late howner hlate =>
    have hcovered : world.Covered write := by
      have hpositive := (h.history.dated write hwrite).1
      obtain hzero | ⟨done, hmem, hslot, hsequence⟩ := h.reached write.slot
      · omega
      · have hdone := h.stored done hmem
        have hle : write.entry.sequence ≤ done.entry.sequence := by omega
        obtain ⟨lease, -, hlease⟩ := h.history.owned write hwrite hprivate
        obtain hnone | hactive := howner
        · exact absurd (hnone.symm.trans hlease) (Option.some_ne_none lease).symm
        · obtain ⟨start, hhead⟩ := h.history.head lease (hactive.trans hlease)
          have hwindow := h.history.window hfresh lease start hhead
          have hstart := (hwindow write hwrite hprivate).mpr hlease
          have hmine := (hwindow done.toSlotWrite hdone (hslot ▸ hprivate)).mp
            (hstart.trans_le hle)
          exact ⟨done, hmem, hslot, covers_of_le h hdone hwrite hslot (hmine.trans hlease.symm) hle⟩
    exact ⟨.inl hcovered, fun _ => hcovered⟩

theorem Settles.covered {result : WriteResult} {after : World}
    (hsettles : Settles write world result after) (h : world.Covered other) :
    after.Covered other := by
  obtain ⟨done, hmem, hdone⟩ := h
  cases hsettles with
  | failed error => exact ⟨done, hmem, hdone⟩
  | late => exact ⟨done, hmem, hdone⟩
  | done => exact ⟨done, List.mem_cons_of_mem _ hmem, hdone⟩

end World

namespace Inv

open World

variable {world after : World} {write : SlotWrite} {result : WriteResult} {queued : QueuedWrite}
  {lease : NamespaceLease}

theorem settles (h : Inv world) (hsettles : Settles write world result after)
    (hwrite : write ∈ world.accepted) : Inv after := by
  have hkept : after.accepted = world.accepted → after.commands = world.commands →
      after.pending.slots = world.pending.slots → after.taken = world.taken → world.Fresh →
      ∀ other ∈ after.accepted, other.slot.isPrivate = true → after.Kept other := by
    intro haccepted hcommands hslots htaken hfresh other hother hprivate
    unfold World.Kept
    rw [haccepted] at hother
    rw [hcommands, hslots, htaken]
    obtain hqueued | hwaiting | htaken | hsettled := h.kept hfresh other hother hprivate
    · exact .inl hqueued
    · exact .inr (.inl hwaiting)
    · exact .inr (.inr (.inl htaken))
    · exact .inr (.inr (.inr (hsettles.keeps h hwrite hother hsettled)))
  have hcovered : ∀ {other}, world.Covered other → after.Covered other := hsettles.covered
  cases hsettles with
  | late => exact h
  | failed error =>
    exact { h with kept := hkept rfl rfl rfl rfl }
  | done howner hnewer =>
    exact {
      h with
      stored := List.forall_mem_cons.mpr ⟨hwrite, h.stored⟩
      increasing := by
        refine List.pairwise_cons.mpr ⟨fun done hmem hslot => ?_, h.increasing⟩
        have hle := h.bounded done hmem
        rw [← hslot] at hle
        exact hle.trans_lt hnewer
      bounded := by
        refine List.forall_mem_cons.mpr ⟨by simp, fun done hmem => ?_⟩
        have hle := h.bounded done hmem
        by_cases hslot : done.slot = write.slot
        · rw [hslot] at hle
          simpa [hslot] using hle.trans hnewer.le
        · simpa [Function.update_apply, hslot] using hle
      reached := by
        intro slot
        by_cases hslot : slot = write.slot
        · subst hslot
          exact .inr ⟨_, List.mem_cons_self, rfl, by simp⟩
        · simp only [Function.update_apply, hslot, if_false]
          exact (h.reached slot).imp id fun ⟨done, hmem, hdone⟩ =>
            ⟨done, List.mem_cons_of_mem _ hmem, hdone⟩
      authentic := by
        refine List.forall_mem_cons.mpr ⟨fun hprivate => ⟨?_, rfl⟩, h.authentic⟩
        obtain ⟨lease, -, hlease⟩ := h.history.owned write hwrite hprivate
        exact howner.resolve_left fun hnone => absurd (hnone.symm.trans hlease) (Option.some_ne_none lease).symm
      kept := hkept rfl rfl rfl rfl
      acknowledged := fun hfresh note hmem hok other hother hprivate =>
        hcovered (h.acknowledged hfresh note hmem hok other hother hprivate)
      proven := by
        intro lease generation hnote hgeneration
        obtain ⟨hactive, hempty, hold⟩ := h.proven lease generation hnote hgeneration
        exact ⟨hactive, hempty, fun hfresh other hother hprivate hlease =>
          hcovered (hold hfresh other hother hprivate hlease)⟩ }

/-- A command that is received is one of those whose processing has not begun. -/
theorem receive (h : Inv world) {rest : List QueuedWrite} (hbegun : world.received = none)
    (hqueue : world.queue = queued :: rest) :
    Inv { world with queue := rest, received := some queued } := by
  have hcommands : ({ world with queue := rest, received := some queued } : World).commands =
      world.commands := by
    simp [World.commands, hbegun, hqueue]
  exact {
    h with
    queued := by rw [hcommands]; exact h.queued
    ordered := by rw [hcommands]; exact h.ordered
    numbered := by rw [hcommands]; exact h.numbered
    kept := by
      unfold World.Kept
      rw [hcommands]
      exact h.kept
    privateWake := by rw [hcommands]; exact h.privateWake
    deviceWake := by rw [hcommands]; exact h.deviceWake }

/-- The processing of a command begins when what it stands for is done. -/
theorem begin (h : Inv world)
    (hsettled : ∀ queued ∈ world.received, ∀ write, queued.slotWrite = some write →
      write.slot.isPrivate = true → world.Fresh → world.Settled write)
    (hprivate : ∀ queued ∈ world.received, ∀ lease, queued.command = .wake lease →
      world.pending.active = some lease → world.pending.privateWake = false)
    (hdevice : ∀ queued ∈ world.received, queued.command = .wakeDevice →
      world.pending.deviceWake = false) :
    Inv { world with received := none } := by
  have hmem : ∀ queued ∈ world.commands, queued ∈ world.received ∨
      queued ∈ ({ world with received := none } : World).commands := by
    intro queued hmem
    simpa [World.commands] using hmem
  have hqueue : ∀ queued ∈ ({ world with received := none } : World).commands,
      queued ∈ world.commands := by
    intro queued hmem
    exact List.mem_append_right _ (by simpa [World.commands] using hmem)
  exact {
    h with
    queued := fun queued hqueued => h.queued queued (hqueue queued hqueued)
    ordered := (List.pairwise_append.mp h.ordered).2.1
    numbered := fun queued hqueued => h.numbered queued (hqueue queued hqueued)
    kept := by
      intro hfresh write hwrite howned
      obtain ⟨queued, hqueued, hcarries⟩ | hrest := h.kept hfresh write hwrite howned
      · obtain hreceived | hqueued := hmem queued hqueued
        · exact .inr (.inr (.inr (hsettled queued hreceived write hcarries howned hfresh)))
        · exact .inl ⟨queued, hqueued, hcarries⟩
      · exact .inr hrest
    privateWake := by
      intro hwake
      obtain ⟨lease, hactive, queued, hqueued, hcommand⟩ := h.privateWake hwake
      obtain hreceived | hqueued := hmem queued hqueued
      · have hoff := hprivate queued hreceived lease hcommand hactive
        exact absurd (hoff.symm.trans hwake) Bool.false_ne_true
      · exact ⟨lease, hactive, queued, hqueued, hcommand⟩
    deviceWake := by
      intro hwake
      obtain ⟨queued, hqueued, hcommand⟩ := h.deviceWake hwake
      obtain hreceived | hqueued := hmem queued hqueued
      · exact absurd ((hdevice queued hreceived hcommand).symm.trans hwake) Bool.false_ne_true
      · exact ⟨queued, hqueued, hcommand⟩ }

theorem takePrivate (h : Inv world)
    (hfree : ∀ slot, slot.isPrivate = true → world.taken slot = none) :
    Inv { world with
      pending := world.pending.clearPrivate
      taken := fun slot => if slot.isPrivate then world.pending.slots slot else world.taken slot } :=
  { h with
    waiting := by
      intro slot entry hentry
      simp only [PendingClientState.clearPrivate] at hentry
      split at hentry
      · cases hentry
      · exact h.waiting slot entry hentry
    current := by
      intro slot entry hprivate hentry
      simp [PendingClientState.clearPrivate, hprivate] at hentry
    taken := by
      intro slot entry hentry
      dsimp only at hentry
      split at hentry
      · exact h.waiting slot entry hentry
      · exact h.taken slot entry hentry
    kept := by
      intro hfresh write hwrite hprivate
      obtain hqueued | ⟨entry, hentry, hcovers⟩ | ⟨entry, hentry, -⟩ | hsettled :=
        h.kept hfresh write hwrite hprivate
      · exact .inl hqueued
      · exact .inr (.inr (.inl ⟨entry, by simp [hprivate, hentry], hcovers⟩))
      · exact absurd (hentry.symm.trans (hfree write.slot hprivate)) (Option.some_ne_none entry)
      · exact .inr (.inr (.inr hsettled))
    proven := by
      intro lease generation hnote hgeneration
      obtain ⟨hactive, -, hcovered⟩ := h.proven lease generation hnote hgeneration
      exact ⟨hactive, fun slot hprivate => by simp [PendingClientState.clearPrivate, hprivate],
        hcovered⟩
    privateWake := nofun }

theorem takeDevice (h : Inv world) : Inv world.takeDevice :=
  have hslots : ∀ slot, slot.isPrivate = true →
      world.takeDevice.pending.slots slot = world.pending.slots slot := fun slot hprivate => by
    simp [World.takeDevice, PendingClientState.clearDevice, hprivate]
  { h with
    waiting := by
      intro slot entry hentry
      simp only [World.takeDevice, PendingClientState.clearDevice] at hentry
      split at hentry
      · exact h.waiting slot entry hentry
      · cases hentry
    current := fun slot entry hprivate hentry =>
      h.current slot entry hprivate (hslots slot hprivate ▸ hentry)
    taken := by
      intro slot entry hentry
      simp only [World.takeDevice] at hentry
      split at hentry
      · exact h.taken slot entry hentry
      · exact h.waiting slot entry hentry
    kept := by
      intro hfresh write hwrite hprivate
      obtain hqueued | ⟨entry, hentry, hcovers⟩ | ⟨entry, hentry, hcovers⟩ | hsettled :=
        h.kept hfresh write hwrite hprivate
      · exact .inl hqueued
      · exact .inr (.inl ⟨entry, (hslots write.slot hprivate).trans hentry, hcovers⟩)
      · exact .inr (.inr (.inl ⟨entry, by simpa [World.takeDevice, hprivate] using hentry,
          hcovers⟩))
      · exact .inr (.inr (.inr hsettled))
    proven := by
      intro lease generation hnote hgeneration
      obtain ⟨hactive, hempty, hcovered⟩ := h.proven lease generation hnote hgeneration
      exact ⟨hactive, fun slot hprivate => (hslots slot hprivate).trans (hempty slot hprivate),
        hcovered⟩
    deviceWake := nofun }

theorem putAway (h : Inv world) (slot : Slot)
    (errors : Slot → Option (Option NamespaceLease × ClientStateWriteError))
    (hsettled : ∀ entry, world.taken slot = some entry → slot.isPrivate = true → world.Fresh →
      world.Settled ⟨slot, entry⟩) :
    Inv { world with
      taken := Function.update world.taken slot none
      last := { world.last with errors } } :=
  { h with
    taken := by
      intro other entry hentry
      by_cases hother : other = slot
      · simp [hother] at hentry
      · exact h.taken other entry (by simpa [Function.update_apply, hother] using hentry)
    kept := by
      intro hfresh write hwrite hprivate
      obtain hqueued | hwaiting | ⟨entry, hentry, hcovers⟩ | hsettled' :=
        h.kept hfresh write hwrite hprivate
      · exact .inl hqueued
      · exact .inr (.inl hwaiting)
      · by_cases hslot : write.slot = slot
        · subst hslot
          exact .inr (.inr (.inr ((hsettled entry hentry hprivate hfresh).of_covers rfl hcovers)))
        · exact .inr (.inr (.inl ⟨entry, by simpa [Function.update_apply, hslot] using hentry,
            hcovers⟩))
      · exact .inr (.inr (.inr hsettled')) }

theorem acknowledge (h : Inv world) (hle : queued.sequence ≤ world.pending.sequence)
    (hcovered : result = .ok () → ∀ write, queued.slotWrite = some write →
      write.slot.isPrivate = true → world.Fresh → world.Covered write)
    (hproven : result = .ok () → ∀ lease, queued.command = .flushForRetirement lease queued.sequence →
      world.pending.retirement = some queued.sequence → world.Sealed lease) :
    Inv { world with acknowledged := (queued, result) :: world.acknowledged } :=
  { h with
    acknowledged := fun hfresh => List.forall_mem_cons.mpr
      ⟨fun hok write hwrite hprivate => hcovered hok write hwrite hprivate hfresh,
        h.acknowledged hfresh⟩
    answered := List.forall_mem_cons.mpr ⟨hle, h.answered⟩
    proven := by
      intro lease generation hnote hgeneration
      obtain heq | hnote := List.mem_cons.mp hnote
      · obtain ⟨rfl, rfl⟩ := Prod.mk.inj heq
        exact hproven rfl lease rfl hgeneration
      · exact h.proven lease generation hnote hgeneration
    proofs := fun reservation hmem hflushed =>
      ⟨(h.proofs reservation hmem hflushed).1,
        List.mem_cons_of_mem _ (h.proofs reservation hmem hflushed).2⟩ }

end Inv

end ArtForgeStudio.ClientState
