import ArtForgeStudio.AccountTransition.Sessions

/-! # What only sessions change

The leases of the four components with what guards them, the ticket, and the leases that were
activated so far. The steps of all other threads leave these.
-/

namespace ArtForgeStudio.AccountTransition

open ArtForgeStudio.ClientState ArtForgeStudio.Concurrency ArtForgeStudio.Gates ArtForgeStudio.Runs

/-- The ticket, the leases activated in the writer, newest first, and the active namespace. -/
structure Epochs where
  sequence : Nat
  ticket : Option Nat
  activated : List NamespaceLease
  current : Option NamespaceLease
  /-- The cleanup of a candidate's writer failed. -/
  owed : Bool

structure Switches where
  waiters : Nat
  transition : Option Nat
  published : Option NamespaceLease
  activity : Option NamespaceLease
  quiescing : Bool
  writer : Option NamespaceLease
  retirement : Option Nat

namespace Switches

/-- The writer and the gates have one lease and accept work under it. -/
def all (lease : Option NamespaceLease) : Switches :=
  ⟨0, none, lease, lease, false, lease, none⟩

/-- The writer does not accept writes of one lease while work of another one is admitted. -/
def Separate (switches : Switches) : Prop :=
  ∀ a b, switches.writer = some a → switches.retirement = none →
    switches.activity = some b → switches.quiescing = false → a = b

end Switches

structure View where
  epochs : Epochs
  switches : Switches
  reservations : List Reservation
  ended : Option Ending

namespace World

variable (world : World)

def activated : List NamespaceLease := world.writer.world.activated.map (·.1)

def epochs : Epochs :=
  ⟨world.admission.sequence, world.admission.active, world.activated, world.activeNamespace,
    world.cleanupFailure.any (·.candidateWriter)⟩

def switches : Switches :=
  ⟨world.namespaceOperations.waiters, world.namespaceOperations.transition,
    world.namespaceOperations.active, world.activity.lease, world.activity.quiescing,
    world.writer.world.pending.active, world.writer.world.pending.retirement⟩

def view : View :=
  ⟨world.epochs, world.switches, world.writer.world.reservations, world.ended⟩

/-- No counter of the gates is exhausted. -/
def Live : Prop := world.namespaceOperations.closed = false ∧ world.activity.closed = false

/-- The writer is in a state that it can reach, work is stamped with leases of the past, and the
past is not forgotten. -/
structure Keeps (before after : World) : Prop where
  writer : ∃ events, after.writer = run ClientState.System.step events .start
  operations : ∀ guard ∈ after.operations, guard.2 ∈ after.activated
  permits : ∀ lease ∈ after.permits, lease ∈ after.activated
  past : before.activated <:+ after.activated

abbrev Sound : Prop := world.Keeps world

end World

namespace View

variable (view : View)

/-- Agreement between sessions. A writer that could not be cleaned up keeps its candidate, and
nothing else is active then. -/
def Rests (switches : Switches) : Prop :=
  switches = .all view.epochs.current ∨
  view.epochs.owed = true ∧ view.epochs.current = none ∧
    switches = { Switches.all none with writer := switches.writer }

def Settled : Prop := view.Rests view.switches

/-- A migration ended as its stage demands. -/
def EndedWell : Prop :=
  match view.ended with
  | some (.uncommitted before) => view.epochs.current = before
  | some (.unfinished _) => view.epochs.current = none ∧ view.switches.writer = none
  | some .activation | some .migrated | none => True

structure Always (alive : Prop) : Prop where
  increasing : view.epochs.activated.Pairwise fun later earlier =>
    earlier.namespaceEpoch < later.namespaceEpoch
  issued : ∀ lease ∈ view.epochs.activated, lease.namespaceEpoch ≤ view.epochs.sequence
  current : ∀ lease, view.epochs.current = some lease →
    view.epochs.activated.head? = some lease
  debt : view.epochs.owed = true → view.epochs.current = none
  bound : ∀ lease, view.switches.published = some lease ∨ view.switches.activity = some lease →
    lease ∈ view.epochs.activated
  settled : alive → view.epochs.ticket = none → view.Settled ∧ view.EndedWell
  separate : alive → view.switches.Separate

end View

def leases : Exclusive World View where
  view := World.view
  live := World.Live
  keeps := World.Keeps
  keeps_end _ _ h := ⟨h.writer, h.operations, h.permits, List.suffix_refl _⟩
  keeps_trans _ _ _ h h' := ⟨h'.writer, h'.operations, h'.permits, h.past.trans h'.past⟩
  always alive view := view.Always alive

section Others

variable {world : World}

theorem World.Keeps.guaranteed (h : world.Sound) : ClientState.Sound world.writer := by
  obtain ⟨events, hevents⟩ := h.writer
  rw [hevents]
  exact ClientState.Sound.start.run events

/-- The steps of producers and of the worker leave the lease and its retirement. -/
structure Untouched (before after : ClientState.World) : Prop where
  active : after.pending.active = before.pending.active
  retirement : after.pending.retirement = before.pending.retirement
  reservations : after.reservations = before.reservations
  activated : after.activated = before.activated

theorem Untouched.refl (before : ClientState.World) : Untouched before before :=
  ⟨rfl, rfl, rfl, rfl⟩

theorem Untouched.trans {first second third : ClientState.World} (h : Untouched first second)
    (h' : Untouched second third) : Untouched first third :=
  ⟨h'.active.trans h.active, h'.retirement.trans h.retirement,
    h'.reservations.trans h.reservations, h'.activated.trans h.activated⟩

section Producers

variable {before : ClientState.World} {sent : Bool} {sequence : Nat}

theorem untouched_send (queued : QueuedWrite) : Untouched before (before.send queued sent).2 := by
  cases sent <;> exact ⟨rfl, rfl, rfl, rfl⟩

theorem untouched_fill (slot : Slot) (owner : Option NamespaceLease) (data : Option String) :
    Untouched before (before.fill slot owner data sequence) := by
  cases data <;> exact ⟨rfl, rfl, rfl, rfl⟩

theorem untouched_sequenced {use : Nat → ClientState.World → WriteResult × ClientState.World}
    (huse : ∀ sequence world, Untouched world (use sequence world).2) :
    Untouched before (before.sequenced use).2 := by
  refine ClientState.World.sequenced_cases (P := Untouched before) before ?_ ?_ ?_
  · exact .refl before
  · exact ⟨rfl, rfl, rfl, rfl⟩
  · intro sequence _
    have hused := huse sequence { before with pending := { before.pending with sequence } }
    exact ⟨hused.active, hused.retirement, hused.reservations, hused.activated⟩

theorem untouched_wakePrivate (lease : NamespaceLease) :
    Untouched before (before.wakePrivate lease sequence sent).2 := by
  unfold ClientState.World.wakePrivate
  split
  · exact .refl before
  · have hsend : Untouched before (before.send ⟨sequence, .wake lease⟩ sent).2 := untouched_send _
    split
    · rename_i heq
      rwa [heq] at hsend
    · rename_i heq
      rw [heq] at hsend
      exact hsend.trans ⟨rfl, rfl, rfl, rfl⟩

theorem untouched_wakeDevice : Untouched before (before.wakeDevice sequence sent).2 := by
  unfold ClientState.World.wakeDevice
  split
  · exact .refl before
  · have hsend : Untouched before (before.send ⟨sequence, .wakeDevice⟩ sent).2 := untouched_send _
    split
    · rename_i heq
      rwa [heq] at hsend
    · rename_i heq
      rw [heq] at hsend
      exact hsend.trans ⟨rfl, rfl, rfl, rfl⟩

theorem untouched_checked (write : CheckedWrite) :
    Untouched before (before.checked write sent).2 := by
  unfold ClientState.World.checked
  split
  · exact .refl before
  · refine untouched_sequenced fun sequence world => ?_
    have hsend : Untouched world (world.send ⟨sequence, .checked write⟩ sent).2 := untouched_send _
    split
    · rename_i heq
      rwa [heq] at hsend
    · rename_i heq
      rw [heq] at hsend
      exact hsend.trans ⟨rfl, rfl, rfl, rfl⟩

end Producers

theorem untouched_step {system : ClientState.System} (h : ClientState.Sound system)
    {event : ClientState.Event} (hevent : switches event = false) :
    Untouched system.world (system.step event).world := by
  cases event with
  | queuePrivate lease store profile sent =>
    show Untouched system.world (system.world.queuePrivate lease store profile sent).2
    unfold ClientState.World.queuePrivate
    split
    · exact .refl _
    · exact untouched_sequenced fun sequence world =>
        ((untouched_fill _ _ _).trans (untouched_fill _ _ _)).trans (untouched_wakePrivate lease)
  | queueDevice settings directory sent =>
    exact untouched_sequenced fun sequence world =>
      ((untouched_fill _ _ _).trans (untouched_fill _ _ _)).trans untouched_wakeDevice
  | checked write sent => exact untouched_checked write
  | work writes =>
    have hworked := (work_step h writes).1
    generalize system.step (.work writes) = after at hworked
    cases hworked with
    | idle => exact .refl _
    | received => exact ⟨rfl, rfl, rfl, rfl⟩
    | acted _ _ hworks =>
      exact ⟨hworks.active, hworks.retirement, hworks.reservations, hworks.activated⟩
  | _ => cases hevent

/-- An activation of the past stays one. -/
theorem activated_suffix {system : ClientState.System} (h : ClientState.Sound system)
    (event : ClientState.Event) : system.world.activated <:+ (system.step event).world.activated := by
  by_cases hwork : ∃ writes, event = .work writes
  · obtain ⟨writes, rfl⟩ := hwork
    have hsame : Untouched system.world (system.step (.work writes)).world := untouched_step h rfl
    exact hsame.activated.symm ▸ List.suffix_refl _
  · obtain ⟨after, hafter, hfollows, -⟩ := producer_step h fun writes heq => hwork ⟨writes, heq⟩
    rw [hafter]
    exact hfollows.produced.activated

theorem World.Keeps.writes (h : world.Sound) (event : ClientState.Event) :
    world.Keeps (world.writes event) := by
  obtain ⟨events, hevents⟩ := h.writer
  have hpast : world.activated <:+ (world.writes event).activated :=
    (activated_suffix h.guaranteed event).map _
  exact ⟨⟨events ++ [event], by rw [run_append, ← hevents]; rfl⟩,
    fun guard hguard => hpast.subset (h.operations guard hguard),
    fun lease hlease => hpast.subset (h.permits lease hlease), hpast⟩

/-- A step that leaves the view and stamps its guards and permits with leases of the past. -/
theorem leaves_of_view {after : World} (h : leases.Inv world) (hview : after.view = world.view)
    (hlive : after.Live → world.Live) (hkeeps : world.Keeps after) : leases.Leaves world after := by
  refine ⟨hlive, hkeeps, ⟨leases.keeps_end _ _ hkeeps, fun alive halive => ?_⟩, hview⟩
  have halways := h.2 alive fun ha => hlive (halive ha)
  show after.view.Always alive
  rw [hview]
  exact halways

theorem Untouched.view {event : ClientState.Event}
    (h : Untouched world.writer.world (world.writer.step event).world) :
    (world.writes event).view = world.view := by
  obtain ⟨hactive, hretirement, hreservations, hactivated⟩ := h
  simp [World.view, World.epochs, World.switches, World.activated, World.writes, hactive,
    hretirement, hreservations, hactivated]

theorem leaves_writer {event : ClientState.Event} (h : leases.Inv world)
    (hevent : switches event = false) : leases.Leaves world (world.writes event) :=
  leaves_of_view h (untouched_step h.1.guaranteed hevent).view id (h.1.writes event)

/-- A lease that a gate is bound to was activated. -/
theorem bound_of_inv (h : leases.Inv world) {lease : NamespaceLease}
    (hbound : world.namespaceOperations.active = some lease ∨ world.activity.lease = some lease) :
    lease ∈ world.activated :=
  (h.2 False False.elim).bound lease hbound

theorem leaves_beginWork (h : leases.Inv world) (lease : NamespaceLease) (session : Action Unit) :
    leases.Leaves world (System.step (.beginWork lease) ⟨world, session⟩).world := by
  simp only [System.step, ActivityState.beginRecoveryUnit]
  by_cases hadmits : (!world.activity.closed && !world.activity.quiescing &&
      decide (world.activity.lease = some lease)) = true
  · simp only [hadmits, if_true]
    have hlease : world.activity.lease = some lease := by simp at hadmits; exact hadmits.2
    by_cases hroom : world.activity.count < usizeMax
    · simp only [hroom, if_true]
      refine leaves_of_view h rfl id ⟨h.1.writer, h.1.operations, ?_, h.1.past⟩
      exact List.forall_mem_cons.mpr ⟨bound_of_inv h (.inr hlease), h.1.permits⟩
    · simp only [hroom, if_false]
      exact leaves_of_view h rfl (fun hlive => absurd hlive.2 (by simp))
        ⟨h.1.writer, h.1.operations, h.1.permits, h.1.past⟩
  · simp only [hadmits]
    exact leaves_of_view h rfl id ⟨h.1.writer, h.1.operations, h.1.permits, h.1.past⟩

theorem leaves_endWork (h : leases.Inv world) (lease : NamespaceLease) (session : Action Unit) :
    leases.Leaves world (System.step (.endWork lease) ⟨world, session⟩).world := by
  simp only [System.step]
  split
  · refine leaves_of_view h ?_ ?_ ⟨h.1.writer, h.1.operations, fun other hother =>
      h.1.permits other (List.mem_of_mem_erase hother), h.1.past⟩
    · unfold ActivityState.dropPermit
      split <;> rfl
    · unfold ActivityState.dropPermit
      split <;> exact id
  · exact .refl leases h

theorem leaves_beginOperation (h : leases.Inv world) (lease : NamespaceLease)
    (session : Action Unit) :
    leases.Leaves world (System.step (.beginOperation lease) ⟨world, session⟩).world := by
  simp only [System.step, NamespaceOperationState.beginOperation]
  by_cases hfree : world.namespaceOperations.active = some lease ∧
      world.namespaceOperations.transition = none ∧ world.namespaceOperations.waiters = 0 ∧
      world.namespaceOperations.operation = none
  · simp only [hfree, and_self, if_true]
    obtain ⟨error, closed, hnext, hclosed, -⟩ | ⟨-, -, hnext⟩ := OperationSystem.next_cases
      world.namespaceOperations (fun id state => { state with operation := some id })
    · rw [hnext]
      refine leaves_of_view h rfl (fun hlive => ⟨?_, hlive.2⟩)
        ⟨h.1.writer, h.1.operations, h.1.permits, h.1.past⟩
      by_contra hnot
      exact absurd (hclosed (by simpa using hnot)) (by simpa using hlive.1)
    · rw [hnext]
      refine leaves_of_view h rfl id ⟨h.1.writer, ?_, h.1.permits, h.1.past⟩
      exact List.forall_mem_cons.mpr ⟨bound_of_inv h (.inl hfree.1), h.1.operations⟩
  · simp only [hfree, if_false]
    exact leaves_of_view h rfl id ⟨h.1.writer, h.1.operations, h.1.permits, h.1.past⟩

theorem leaves_dropOperation (h : leases.Inv world) (id : Nat) (lease : NamespaceLease)
    (session : Action Unit) :
    leases.Leaves world (System.step (.dropOperation id lease) ⟨world, session⟩).world := by
  simp only [System.step]
  split
  · refine leaves_of_view h ?_ ?_ ⟨h.1.writer, fun other hother =>
      h.1.operations other (List.mem_of_mem_erase hother), h.1.permits, h.1.past⟩
    · unfold NamespaceOperationState.dropOperation
      split <;> rfl
    · unfold NamespaceOperationState.dropOperation
      split <;> exact fun hlive => hlive
  · exact .refl leases h

end Others

end ArtForgeStudio.AccountTransition
