import ArtForgeStudio.AccountTransition.Migration

/-! # One lease everywhere

In every order of the sessions' steps and of the other threads' ones, the four components agree
while no session runs, and no lease is activated twice.
-/

namespace ArtForgeStudio.AccountTransition

open ArtForgeStudio.Api ArtForgeStudio.ClientState ArtForgeStudio.Concurrency ArtForgeStudio.Gates
  ArtForgeStudio.Runs
open ArtForgeStudio.Session (checkedAdd1 checkedAdd1_some)

namespace System

/-- The session keeps its discipline in a world that keeps the invariant. -/
structure Sound (system : System) : Prop where
  inv : leases.Inv system.world
  safe : leases.discipline.Safe () system.session (fun _ => leases.At Idle) system.world

variable {system : System} {world after : World} {session : Action Unit}

theorem start_inv : leases.Inv ({} : World) := by
  refine ⟨⟨⟨[], rfl⟩, nofun, nofun, List.suffix_refl _⟩, fun alive _ => ?_⟩
  refine ⟨.nil, nofun, nofun, nofun, ?_, fun _ _ => ⟨.inl rfl, trivial⟩, nofun⟩
  rintro lease (hnone | hnone) <;> cases hnone

theorem Sound.start : Sound .start := by
  refine ⟨start_inv, fun later hrely => ?_⟩
  exact Exclusive.at_stable _ later ⟨start_inv, fun _ _ => ⟨rfl, fun _ => .inl rfl⟩⟩ hrely

/-- A step of another thread, beside the session. -/
theorem Sound.leaves (h : Sound system) {next : System}
    (hleaves : leases.Leaves system.world next.world) (hsession : next.session = system.session) :
    Sound next ∧ system.world.activated <:+ next.world.activated := by
  refine ⟨⟨hleaves.inv, ?_⟩, hleaves.keeps.past⟩
  rw [hsession]
  exact h.safe.rely fun _ => hleaves

/-- The next action of the session. -/
theorem Sound.act (h : Sound system) (answer : Answer) :
    let next := system.session.step answer system.world
    Sound ⟨next.2, next.1⟩ ∧ system.world.activated <:+ next.2.activated := by
  obtain ⟨world, session⟩ := system
  obtain ⟨hinv, hsafe⟩ := h
  cases session with
  | ret result => exact ⟨⟨hinv, hsafe⟩, List.suffix_refl _⟩
  | act label update next =>
    obtain ⟨htakes, hnext⟩ := hsafe world (fun _ => .refl leases hinv) answer trivial
    have htaken := htakes hinv
    exact ⟨⟨htaken.inv, hnext⟩, htaken.keeps.past⟩

/-- The world in which a session begins. -/
theorem begun_at (h : leases.Inv world) (hfree : world.admission.active = none) {ticket : Nat}
    (hticket : ticket = world.admission.sequence + 1) :
    leases.At (During (Next ticket world.activeNamespace ticket) View.Settled)
      { world with admission :=
        { world.admission with sequence := ticket, active := some ticket } } := by
  subst hticket
  refine ⟨⟨⟨h.1.writer, h.1.operations, h.1.permits, h.1.past⟩, fun alive halive => ?_⟩,
    fun alive halive => ⟨⟨⟨rfl, rfl, rfl⟩, Nat.le_refl _, ?_⟩, fun ha => ?_⟩⟩
  · have halways := h.2 alive halive
    exact { halways with
      issued := fun lease hmem => (halways.issued lease hmem).trans (Nat.le_succ _)
      settled := fun _ hnone => (nomatch hnone) }
  · exact fun lease hmem => Nat.lt_succ_of_le ((h.2 alive halive).issued lease hmem)
  · exact ((h.2 alive halive).settled ha hfree).1

theorem begin_cases (admission : AccountTransitionAdmission) :
    (∃ ticket, admission.active = none ∧ ticket = admission.sequence + 1 ∧ admission.begin =
      (.ok ticket, { admission with sequence := ticket, active := some ticket })) ∨
    ∃ error next, admission.begin = (.error error, next) ∧
      next.sequence = admission.sequence ∧ next.active = admission.active := by
  unfold AccountTransitionAdmission.begin
  split
  · rename_i hfree
    cases hticket : checkedAdd1 admission.sequence with
    | some ticket => exact .inl ⟨ticket, hfree.2, checkedAdd1_some hticket, rfl⟩
    | none => exact .inr ⟨_, _, rfl, rfl, rfl⟩
  · exact .inr ⟨_, _, rfl, rfl, rfl⟩

theorem Sound.begin (h : Sound system) {program : Nat → Action Unit}
    (hprogram : ∀ ticket, leases.Judges
      (During (Next ticket system.world.activeNamespace ticket) View.Settled) (program ticket)
      fun _ => Idle) :
    Sound (system.begin program) ∧
      system.world.activated <:+ (system.begin program).world.activated := by
  have hkeeps := h.inv.1
  unfold System.begin
  obtain ⟨ticket, hfree, hticket, hbegin⟩ | ⟨error, next, hbegin, hsequence, hactive⟩ :=
    begin_cases system.world.admission
  · rw [hbegin]
    have hbegun := begun_at h.inv hfree hticket
    exact ⟨⟨hbegun.1, hprogram ticket _ hbegun⟩, List.suffix_refl _⟩
  · rw [hbegin]
    refine h.leaves (leaves_of_view h.inv ?_ id
      ⟨hkeeps.writer, hkeeps.operations, hkeeps.permits, hkeeps.past⟩) rfl
    simp [World.view, World.epochs, World.switches, World.activated, hsequence, hactive]

theorem step_session {event : Event} (hothers : match event with
      | .activate .. | .migrate _ | .session _ => False
      | _ => True) : (system.step event).session = system.session := by
  cases event with
  | activate | migrate | session => exact hothers.elim
  | shutdown => rfl
  | beginOperation lease | beginWork lease | dropOperation id lease | endWork lease | writer event =>
    simp only [System.step]
    split <;> rfl

theorem Sound.step (h : Sound system) (event : Event) :
    Sound (system.step event) ∧ system.world.activated <:+ (system.step event).world.activated := by
  have hkeeps := h.inv.1
  cases event with
  | activate input cover =>
    refine h.begin fun ticket => (activationWorker_judges input cover).mono ?_ fun _ _ _ => id
    exact fun _ _ hbegun => hbegun.mono (fun _ hnext => hnext.begun) fun _ => id
  | migrate lease => exact h.begin fun ticket => migrationWorker_judges
  | session answer =>
    simp only [System.step]
    split
    · exact h.act answer
    · exact ⟨h, List.suffix_refl _⟩
  | shutdown =>
    exact h.leaves (leaves_of_view h.inv rfl id
      ⟨hkeeps.writer, hkeeps.operations, hkeeps.permits, hkeeps.past⟩) rfl
  | beginOperation lease => exact h.leaves (leaves_beginOperation h.inv lease _) (step_session trivial)
  | dropOperation id lease => exact h.leaves (leaves_dropOperation h.inv id lease _) (step_session trivial)
  | beginWork lease => exact h.leaves (leaves_beginWork h.inv lease _) (step_session trivial)
  | endWork lease => exact h.leaves (leaves_endWork h.inv lease _) (step_session trivial)
  | writer event =>
    simp only [System.step]
    split
    · exact ⟨h, List.suffix_refl _⟩
    · rename_i hevent
      exact h.leaves (leaves_writer h.inv (by simpa using hevent)) rfl

theorem Sound.run (h : Sound system) (events : List Event) :
    Sound (run System.step events system) ∧
      system.world.activated <:+ (run System.step events system).world.activated :=
  run_related (I := Sound) (R := fun before after => before.world.activated <:+ after.world.activated)
    (fun _ => List.suffix_refl _) (fun _ _ _ => List.IsSuffix.trans) (fun event _ h => h.step event) h

end System

namespace World

variable (world : World)

/-- The lease of the writer, of both gates and of the window. -/
structure Everywhere (lease : Option NamespaceLease) : Prop where
  writer : world.writer.world.pending.active = lease
  operations : world.namespaceOperations.active = lease
  activity : world.activity.lease = lease
  current : world.activeNamespace = lease

/-- Work is refused only when a counter is exhausted or another operation is running. -/
structure Accepts (lease : NamespaceLease) : Prop where
  writes : world.writer.world.pending.authorityExhausted = false →
    world.writer.world.pending.requireEnqueue lease = .ok ()
  works : world.activity.count < usizeMax → (world.activity.beginRecoveryUnit lease).1 = .ok ()
  operates : world.namespaceOperations.operation = none →
    world.namespaceOperations.sequence < u64Max →
      ∃ id, (world.namespaceOperations.beginOperation lease).1 = .ok id

/-- The cleanup of a candidate's writer is recorded as failed. -/
def Owed : Prop := world.cleanupFailure.any (·.candidateWriter) = true

structure OneLease : Prop where
  agreement : world.admission.active = none → ¬world.Owed → ∃ lease, world.Everywhere lease
  owed : world.admission.active = none → world.Owed → world.namespaceOperations.active = none ∧
    world.activity.lease = none ∧ world.activeNamespace = none
  uncommitted : ∀ lease, world.admission.active = none →
    world.ended = some (.uncommitted (some lease)) →
      world.Everywhere (some lease) ∧ world.Accepts lease
  unfinished : ∀ old, world.admission.active = none → world.ended = some (.unfinished old) →
    world.Everywhere none
  separate : ∀ lease other, world.writer.world.pending.requireEnqueue lease = .ok () →
    (world.activity.beginRecoveryUnit other).1 = .ok () → lease = other

end World

section Consequences

variable {world : World} {lease : Option NamespaceLease}

theorem everywhere_of_switches (h : world.switches = .all lease)
    (hcurrent : world.activeNamespace = lease) : world.Everywhere lease where
  writer := congrArg Switches.writer h
  operations := congrArg Switches.published h
  activity := congrArg Switches.activity h
  current := hcurrent

/-- What is active everywhere is open, except for a writer that could not be cleaned up. -/
theorem switches_of_settled (h : world.view.Settled) (hclean : ¬world.Owed) :
    world.switches = .all world.activeNamespace :=
  h.resolve_right fun howed => hclean howed.1

theorem unbound_of_settled {alive : Prop} (h : world.view.Settled)
    (halways : world.view.Always alive) (howed : world.Owed) :
    world.namespaceOperations.active = none ∧ world.activity.lease = none ∧
      world.activeNamespace = none := by
  have hcurrent : world.activeNamespace = none := halways.debt howed
  obtain hall | ⟨-, -, hrest⟩ := h
  · rw [show world.view.epochs.current = none from hcurrent] at hall
    exact ⟨congrArg Switches.published hall, congrArg Switches.activity hall, hcurrent⟩
  · exact ⟨congrArg Switches.published hrest, congrArg Switches.activity hrest, hcurrent⟩

theorem accepts_of_switches {lease : NamespaceLease} (h : world.switches = .all (some lease))
    (hlive : world.Live) : world.Accepts lease := by
  have hwriter : world.writer.world.pending.active = some lease := congrArg Switches.writer h
  have hretirement : world.writer.world.pending.retirement = none := congrArg Switches.retirement h
  have hactivity : world.activity.lease = some lease := congrArg Switches.activity h
  have hquiet : world.activity.quiescing = false := congrArg Switches.quiescing h
  have hpublished : world.namespaceOperations.active = some lease := congrArg Switches.published h
  have htransition : world.namespaceOperations.transition = none := congrArg Switches.transition h
  have hwaiters : world.namespaceOperations.waiters = 0 := congrArg Switches.waiters h
  refine ⟨fun hauthority => ?_, fun hroom => ?_, fun hfree hroom => ?_⟩
  · simp [PendingClientState.requireEnqueue, PendingClientState.require,
      PendingClientState.requireUnreserved, hwriter, hretirement, hauthority, both]
  · simp [ActivityState.beginRecoveryUnit, hlive.2, hactivity, hquiet, hroom]
  · simp [NamespaceOperationState.beginOperation, NamespaceOperationState.next, hlive.1, hpublished,
      htransition, hwaiters, hfree, hroom]

theorem admits_of_beginRecoveryUnit {lease : NamespaceLease}
    (h : (world.activity.beginRecoveryUnit lease).1 = .ok ()) :
    world.activity.lease = some lease ∧ world.activity.quiescing = false := by
  unfold ActivityState.beginRecoveryUnit at h
  split at h
  · rename_i hadmits
    simp only [Bool.and_eq_true, Bool.not_eq_true', decide_eq_true_eq] at hadmits
    exact ⟨hadmits.2, hadmits.1.2⟩
  · cases h

end Consequences

theorem System.Sound.one_lease {system : System} (h : system.Sound) (hlive : system.world.Live) :
    system.world.OneLease := by
  have halways := h.inv.2 True fun _ => hlive
  have hsettled (hfree : system.world.admission.active = none) := halways.settled trivial hfree
  refine ⟨fun hfree hclean => ?_, fun hfree howed => ?_, fun lease hfree hended => ?_,
    fun old hfree hended => ?_, fun lease other hwrites hworks => ?_⟩
  · exact ⟨_, everywhere_of_switches (switches_of_settled (hsettled hfree).1 hclean) rfl⟩
  · exact unbound_of_settled (hsettled hfree).1 halways howed
  · obtain ⟨hsettled, hwell⟩ := hsettled hfree
    simp only [View.EndedWell, show (leases.view system.world).ended = _ from hended] at hwell
    have hcurrent : system.world.activeNamespace = some lease := hwell
    have hclean : ¬system.world.Owed := fun howed =>
      absurd ((halways.debt howed).symm.trans hcurrent) nofun
    have hswitches := switches_of_settled hsettled hclean
    rw [hcurrent] at hswitches
    exact ⟨everywhere_of_switches hswitches hcurrent, accepts_of_switches hswitches hlive⟩
  · obtain ⟨hsettled, hwell⟩ := hsettled hfree
    simp only [View.EndedWell, show (leases.view system.world).ended = _ from hended] at hwell
    obtain ⟨hcurrent, hwriter⟩ := hwell
    by_cases howed : system.world.Owed
    · obtain ⟨hpublished, hactivity, -⟩ := unbound_of_settled hsettled halways howed
      exact ⟨hwriter, hpublished, hactivity, hcurrent⟩
    · have hswitches := switches_of_settled hsettled howed
      exact everywhere_of_switches (hswitches.trans (congrArg Switches.all hcurrent)) hcurrent
  · obtain ⟨hactive, hretirement⟩ := ClientState.World.requireEnqueue_admits hwrites
    obtain ⟨hactivity, hquiet⟩ := admits_of_beginRecoveryUnit hworks
    exact halways.separate trivial lease other hactive hretirement hactivity hquiet

/-- In every run that exhausts no counter of the gates, the four components agree while no
session runs, a failed migration leaves the old lease or nothing, and private writes and work
are never admitted under two leases. -/
theorem one_lease_everywhere (events : List Event)
    (hlive : (run System.step events .start).world.Live) :
    (run System.step events .start).world.OneLease :=
  (System.Sound.start.run events).1.one_lease hlive

-- A login whose every step succeeds, and a migration that fails before its commit.
def answering (ok : Bool) : Answer := ⟨ok, .authenticationRequired, ⟨"user", "root", []⟩, 1, "data"⟩

def acts (count : Nat) (ok : Bool) : List Event := List.replicate count (.session (answering ok))

def works (count : Nat) : List Event := List.replicate count (.writer (.work true))

def login : List Event :=
  .activate .login none :: acts 23 true ++ works 3 ++ acts 3 true ++ works 3 ++ acts 7 true

def failedMigration (lease : NamespaceLease) : List Event :=
  .migrate lease :: acts 5 true ++ works 10 ++ acts 3 true ++ acts 10 false

theorem one_lease_after_failed_migration :
    let lease : NamespaceLease := ⟨⟨"user", "root", []⟩, 1, 1⟩
    let world := (run System.step (login ++ failedMigration lease) .start).world
    world.ended = some (.uncommitted (some lease)) ∧ world.OneLease :=
  ⟨by decide +kernel, one_lease_everywhere _ ⟨by decide +kernel, by decide +kernel⟩⟩

/-- Nothing that happened or that waits is stamped with the lease. -/
structure World.Unused (world : World) (lease : NamespaceLease) : Prop where
  activated : lease ∉ world.activated
  operations : ∀ guard ∈ world.operations, guard.2 ≠ lease
  permits : lease ∉ world.permits
  accepted : ∀ write ∈ world.writer.world.accepted, write.slot.isPrivate = true →
    write.entry.lease ≠ some lease
  waiting : ∀ slot entry, world.writer.world.pending.slots slot = some entry →
    slot.isPrivate = true → entry.lease ≠ some lease

/-- The leases activated since an earlier world are new. -/
structure World.Renewed (earlier world : World) : Prop where
  increasing : world.activated.Pairwise fun newer older =>
    older.namespaceEpoch < newer.namespaceEpoch
  fresh : world.writer.world.Fresh
  since : ∃ since, world.activated = since ++ earlier.activated ∧
    ∀ lease ∈ since, earlier.Unused lease

theorem World.Keeps.unused {world : World} (h : world.Sound) {lease : NamespaceLease}
    (hnew : lease ∉ world.activated) : world.Unused lease := by
  have hinv := h.guaranteed.inv
  have haccepted : ∀ write ∈ world.writer.world.accepted, write.slot.isPrivate = true →
      write.entry.lease ≠ some lease := by
    intro write hwrite hprivate heq
    obtain ⟨owner, hmem, howner⟩ := hinv.history.owned write hwrite hprivate
    exact hnew (Option.some.inj (howner.symm.trans heq) ▸ hmem)
  refine ⟨hnew, fun guard hguard heq => hnew (heq ▸ h.operations guard hguard),
    fun hmem => hnew (h.permits lease hmem), haccepted, fun slot entry hslot hprivate => ?_⟩
  exact haccepted ⟨slot, entry⟩ (hinv.waiting slot entry hslot) hprivate

theorem System.Sound.increasing {system : System} (h : system.Sound) :
    system.world.activated.Pairwise fun newer older =>
      older.namespaceEpoch < newer.namespaceEpoch :=
  (h.inv.2 False False.elim).increasing

/-- In every run the epochs of the activated leases increase, whether or not a counter is
exhausted: no guard, permit or snapshot of the past has a lease that is activated later. -/
theorem lease_epochs_increase (events later : List Event) :
    World.Renewed (run System.step events .start).world
      (run System.step (events ++ later) .start).world := by
  rw [run_append]
  have hearlier := (System.Sound.start.run events).1
  obtain ⟨hsound, hpast⟩ := hearlier.run later
  have hincreasing := hsound.increasing
  refine ⟨hincreasing, hincreasing.imp fun hlt heq => ?_, ?_⟩
  · exact absurd (heq ▸ hlt) (Nat.lt_irrefl _)
  · obtain ⟨since, hsince⟩ := hpast
    refine ⟨since, hsince.symm, fun lease hmem => World.Keeps.unused hearlier.inv.1 fun hold => ?_⟩
    rw [← hsince] at hincreasing
    exact Nat.lt_irrefl _ ((List.pairwise_append.mp hincreasing).2.2 lease hmem lease hold)

end ArtForgeStudio.AccountTransition
