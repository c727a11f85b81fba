import ArtForgeStudio.Library.Runs
import Mathlib.Data.List.Count

/-! # The upgrade latch

Ordinary work holds a permit of one of four kinds. The server may require an upgrade: the
latch then admits nothing more and waits until every permit is dropped. Each lock of the
latch is one event, and threads take it in any order.
-/

namespace ArtForgeStudio.Gates

open ArtForgeStudio.Runs

def usizeMax : Nat := 18446744073709551615

structure RequiredUpgrade where
  minimumVersion : Option String
  deriving DecidableEq

/-- The kinds of `OrdinaryPermit`, in the order of their counters. -/
inductive PermitKind where
  | transfer
  | durableCommit
  | blockingEffect
  | externalWorker
  deriving DecidableEq

structure UpgradeLatchState where
  required : Option RequiredUpgrade := none
  counts : PermitKind → Nat := fun _ => 0

namespace UpgradeLatchState

variable (state : UpgradeLatchState)

/-- The first requirement is recorded. -/
def require (required : RequiredUpgrade) : UpgradeLatchState :=
  if state.required.isNone then { state with required := some required } else state

/-- `begin`; one permit more than can be counted trips the latch. -/
def begin (kind : PermitKind) : Except RequiredUpgrade Unit × UpgradeLatchState :=
  match state.required with
  | some required => (.error required, state)
  | none =>
    if state.counts kind < usizeMax then
      (.ok (), { state with counts := Function.update state.counts kind (state.counts kind + 1) })
    else (.error ⟨none⟩, { state with required := some ⟨none⟩ })

/-- `counts[kind] -= 1`, which has no result below zero. -/
def release (kind : PermitKind) : Option UpgradeLatchState :=
  if state.counts kind = 0 then none
  else some { state with counts := Function.update state.counts kind (state.counts kind - 1) }

/-- The check of `apply_if_open` in front of its closure. -/
def open? : Except RequiredUpgrade Unit :=
  match state.required with
  | some required => .error required
  | none => .ok ()

/-- The condition that `wait_drained` waits for. -/
def drained : Bool :=
  state.counts .transfer = 0 && state.counts .durableCommit = 0 &&
    state.counts .blockingEffect = 0 && state.counts .externalWorker = 0

end UpgradeLatchState

/-- Where a call of `trip` or `trip_from_ordinary_transfer` is, after it recorded the
requirement. -/
inductive TripPhase where
  | cleaning
  | draining

/-- The closures that run under the lock of an open latch. -/
inductive LatchClosure where
  | apply
  | deferExternalEffect
  | commitDeferredExternalEffect
  | commitTransfer

structure LatchSystem where
  latch : UpgradeLatchState := {}
  permits : List PermitKind := []
  /-- the live deferred permits, which are not counted -/
  deferred : Nat := 0
  trips : List TripPhase := []
  /-- how many trips have returned -/
  returned : Nat := 0
  issued : List PermitKind := []
  started : List LatchClosure := []
  /-- A counter went below zero. -/
  underflow : Bool := false

inductive LatchEvent where
  | begin (kind : PermitKind)
  | drop (kind : PermitKind)
  | trip (required : RequiredUpgrade)
  | tripFromOrdinaryTransfer (required : RequiredUpgrade)
  /-- The cleanup of a trip returns. -/
  | cleaned (index : Nat)
  /-- A waiting trip looks at the counters. -/
  | wake (index : Nat)
  | run (closure : LatchClosure)
  | dropDeferred

namespace LatchSystem

variable (system : LatchSystem)

def release (kind : PermitKind) : LatchSystem :=
  match system.latch.release kind with
  | some latch => { system with latch := latch, permits := system.permits.erase kind }
  | none => { system with underflow := true, permits := system.permits.erase kind }

/-- A closure is called with the permit that it asks for; a deferred permit is used up. -/
def ready : LatchClosure → Bool
  | .apply | .deferExternalEffect => true
  | .commitDeferredExternalEffect => 0 < system.deferred
  | .commitTransfer => system.permits.contains .transfer

def deferredAfter : LatchClosure → Nat
  | .deferExternalEffect => system.deferred + 1
  | .apply | .commitDeferredExternalEffect | .commitTransfer => system.deferred

def runClosure (closure : LatchClosure) : LatchSystem :=
  let system := match closure with
    | .commitDeferredExternalEffect => { system with deferred := system.deferred - 1 }
    | _ => system
  match system.latch.open? with
  | .error _ => system
  | .ok () =>
    { system with started := closure :: system.started, deferred := system.deferredAfter closure }

/-- An event whose permit or call is not there changes nothing. -/
def step (event : LatchEvent) (system : LatchSystem) : LatchSystem :=
  match event with
  | .begin kind =>
    match system.latch.begin kind with
    | (.ok (), latch) =>
      { system with latch := latch, permits := kind :: system.permits,
                    issued := kind :: system.issued }
    | (.error _, latch) => { system with latch := latch }
  | .drop kind => if system.permits.contains kind then system.release kind else system
  | .trip required =>
    { system with latch := system.latch.require required, trips := .draining :: system.trips }
  | .tripFromOrdinaryTransfer required =>
    if system.permits.contains .transfer then
      { system with latch := system.latch.require required,
                    trips := .cleaning :: system.trips }.release .transfer
    else system
  | .cleaned index =>
    match system.trips[index]? with
    | some .cleaning => { system with trips := system.trips.set index .draining }
    | _ => system
  | .wake index =>
    match system.trips[index]? with
    | some .draining =>
      if system.latch.drained then
        { system with trips := system.trips.eraseIdx index, returned := system.returned + 1 }
      else system
    | _ => system
  | .run closure => if system.ready closure then system.runClosure closure else system
  | .dropDeferred => { system with deferred := system.deferred - 1 }

abbrev runEvents (events : List LatchEvent) : LatchSystem := run step events {}

structure Inv (system : LatchSystem) : Prop where
  counted : ∀ kind, system.latch.counts kind = system.permits.count kind
  exact : system.underflow = false
  fenced : system.trips ≠ [] → system.latch.required.isSome = true
  drained : system.returned ≠ 0 → system.latch.required.isSome = true ∧ system.permits = []

/-- How the latch changes: what it requires stays, and then it admits nothing. -/
structure Moves (before after : LatchSystem) : Prop where
  required : before.latch.required.isSome = true → after.latch.required = before.latch.required ∧
    after.issued = before.issued ∧ after.started = before.started
  returned : before.returned ≤ after.returned

theorem Moves.refl : Moves system system := ⟨fun _ => ⟨rfl, rfl, rfl⟩, Nat.le_refl _⟩

theorem Moves.trans {a b c : LatchSystem} (h : Moves a b) (h' : Moves b c) : Moves a c := by
  refine ⟨fun hsome => ?_, Nat.le_trans h.returned h'.returned⟩
  obtain ⟨hrequired, hissued, hstarted⟩ := h.required hsome
  obtain ⟨hrequired', hissued', hstarted'⟩ := h'.required (hrequired ▸ hsome)
  exact ⟨hrequired'.trans hrequired, hissued'.trans hissued, hstarted'.trans hstarted⟩

section Steps

variable {system} {kind : PermitKind} {required : RequiredUpgrade}

/-- The latch is drained exactly when no permit is live. -/
theorem Inv.drained_iff (h : Inv system) : system.latch.drained = true ↔ system.permits = [] := by
  simp only [UpgradeLatchState.drained, Bool.and_eq_true, decide_eq_true_eq, h.counted]
  constructor
  · rintro ⟨⟨⟨htransfer, hcommit⟩, heffect⟩, hworker⟩
    refine List.eq_nil_iff_forall_not_mem.mpr fun kind hmem => ?_
    cases kind with
    | transfer => exact List.count_eq_zero.mp htransfer hmem
    | durableCommit => exact List.count_eq_zero.mp hcommit hmem
    | blockingEffect => exact List.count_eq_zero.mp heffect hmem
    | externalWorker => exact List.count_eq_zero.mp hworker hmem
  · rintro hnil
    simp [hnil]

/-- A live permit is counted, so its counter goes down by one. -/
theorem Inv.release_eq (h : Inv system) (hlive : kind ∈ system.permits) :
    system.release kind = { system with
      latch := { system.latch with
        counts := Function.update system.latch.counts kind (system.latch.counts kind - 1) },
      permits := system.permits.erase kind } := by
  have hcount : system.latch.counts kind ≠ 0 := by
    rw [h.counted]
    exact Nat.pos_iff_ne_zero.mp (List.count_pos_iff.mpr hlive)
  simp only [release, UpgradeLatchState.release, if_neg hcount]

theorem Inv.release (h : Inv system) (hlive : kind ∈ system.permits) :
    Inv (system.release kind) ∧ Moves system (system.release kind) := by
  rw [h.release_eq hlive]
  refine ⟨⟨fun other => ?_, h.exact, h.fenced, fun hreturned => ?_⟩,
    fun _ => ⟨rfl, rfl, rfl⟩, Nat.le_refl _⟩
  · by_cases hother : other = kind
    · subst hother
      simp [h.counted, List.count_erase_self]
    · simp [hother, h.counted, List.count_erase_of_ne hother]
  · obtain ⟨-, hnil⟩ := h.drained hreturned
    simp [hnil] at hlive

theorem require_required : (system.latch.require required).required.isSome = true := by
  unfold UpgradeLatchState.require
  split
  · rfl
  · rename_i hsome
    simpa [Option.isSome_iff_ne_none] using hsome

theorem require_of_isSome (h : system.latch.required.isSome = true) :
    system.latch.require required = system.latch := by
  simp [UpgradeLatchState.require, Option.isSome_iff_ne_none.mp h]

@[simp] theorem require_counts : (system.latch.require required).counts = system.latch.counts := by
  unfold UpgradeLatchState.require
  split <;> rfl

/-- A trip records its requirement and enters its call. -/
theorem Inv.require (required : RequiredUpgrade) (h : Inv system) (phase : TripPhase) :
    Inv { system with latch := system.latch.require required, trips := phase :: system.trips } ∧
      Moves system
        { system with latch := system.latch.require required, trips := phase :: system.trips } := by
  refine ⟨⟨fun kind => ?_, h.exact, fun _ => require_required, fun hreturned => ?_⟩,
    fun hsome => ⟨?_, rfl, rfl⟩, Nat.le_refl _⟩
  · simpa using h.counted kind
  · exact ⟨require_required, (h.drained hreturned).2⟩
  · rw [require_of_isSome hsome]

theorem Inv.begin (h : Inv system) :
    Inv (step (.begin kind) system) ∧ Moves system (step (.begin kind) system) := by
  cases hrequired : system.latch.required with
  | some required =>
    simp only [step, UpgradeLatchState.begin, hrequired]
    exact ⟨h, .refl system⟩
  | none =>
    have hopen : system.returned = 0 := by
      by_contra hreturned
      simpa [hrequired] using (h.drained hreturned).1
    have hmoves : ∀ after : LatchSystem, system.returned ≤ after.returned → Moves system after :=
      fun after hle => ⟨by simp [hrequired], hle⟩
    simp only [step, UpgradeLatchState.begin, hrequired]
    by_cases hlimit : system.latch.counts kind < usizeMax
    · simp only [if_pos hlimit]
      refine ⟨⟨fun other => ?_, h.exact, fun hne => ?_, fun hreturned => absurd hopen hreturned⟩,
        hmoves _ (Nat.le_refl _)⟩
      · by_cases hother : other = kind
        · subst hother
          simp [h.counted]
        · simp [hother, h.counted, List.count_cons_of_ne (Ne.symm hother)]
      · simpa [hrequired] using h.fenced hne
    · simp only [if_neg hlimit]
      exact ⟨⟨h.counted, h.exact, fun _ => rfl, fun hreturned => absurd hopen hreturned⟩,
        hmoves _ (Nat.le_refl _)⟩

theorem Inv.runClosure (h : Inv system) (closure : LatchClosure) :
    Inv (system.runClosure closure) ∧ Moves system (system.runClosure closure) := by
  unfold LatchSystem.runClosure UpgradeLatchState.open?
  cases hrequired : system.latch.required with
  | some required =>
    cases closure <;> simp only [hrequired] <;>
      exact ⟨⟨h.counted, h.exact, h.fenced, h.drained⟩, fun _ => ⟨rfl, rfl, rfl⟩, Nat.le_refl _⟩
  | none =>
    cases closure <;> simp only [hrequired] <;>
      exact ⟨⟨h.counted, h.exact, h.fenced, h.drained⟩, by simp [hrequired], Nat.le_refl _⟩

theorem Inv.step (event : LatchEvent) (h : Inv system) :
    Inv (step event system) ∧ Moves system (step event system) := by
  have hstay : Inv system ∧ Moves system system := ⟨h, .refl system⟩
  cases event with
  | begin kind => exact h.begin
  | drop kind =>
    simp only [LatchSystem.step]
    split
    · exact h.release (List.contains_iff_mem.mp ‹_›)
    · exact hstay
  | trip required => exact h.require required .draining
  | tripFromOrdinaryTransfer required =>
    simp only [LatchSystem.step]
    split
    · rename_i hlive
      obtain ⟨hrequire, hmoves⟩ := h.require required .cleaning
      obtain ⟨hinv, hmoves'⟩ := hrequire.release (List.contains_iff_mem.mp hlive)
      exact ⟨hinv, hmoves.trans hmoves'⟩
    · exact hstay
  | cleaned index =>
    simp only [LatchSystem.step]
    split
    · refine ⟨⟨h.counted, h.exact, fun hne => h.fenced fun hnil => hne ?_, h.drained⟩,
        fun _ => ⟨rfl, rfl, rfl⟩, Nat.le_refl _⟩
      simp [hnil]
    · exact hstay
  | wake index =>
    simp only [LatchSystem.step]
    split
    · rename_i hget
      have hfenced := h.fenced (List.ne_nil_of_mem (List.mem_of_getElem? hget))
      split
      · rename_i hdrained
        exact ⟨⟨h.counted, h.exact, fun _ => hfenced, fun _ => ⟨hfenced, h.drained_iff.mp hdrained⟩⟩,
          fun _ => ⟨rfl, rfl, rfl⟩, Nat.le_succ _⟩
      · exact hstay
    · exact hstay
  | run closure =>
    simp only [LatchSystem.step]
    split
    · exact h.runClosure closure
    · exact hstay
  | dropDeferred =>
    exact ⟨⟨h.counted, h.exact, h.fenced, h.drained⟩, fun _ => ⟨rfl, rfl, rfl⟩, Nat.le_refl _⟩

end Steps

theorem inv_start : Inv {} := ⟨fun _ => rfl, rfl, nofun, nofun⟩

theorem inv_run (events : List LatchEvent) : Inv (runEvents events) :=
  (run_related Moves.refl (fun _ _ _ => .trans) (fun event _ h => h.step event) inv_start).1

theorem moves_run (before rest : List LatchEvent) :
    Moves (runEvents before) (runEvents (before ++ rest)) := by
  rw [runEvents, runEvents, run_append]
  exact (run_related Moves.refl (fun _ _ _ => .trans) (fun event _ h => h.step event)
    (inv_run before)).2

end LatchSystem

open LatchSystem

/-- The four counters are exact, the first requirement is kept and closes the latch, and a
trip that has returned leaves no permit alive for ever. -/
theorem upgrade_fence (before rest : List LatchEvent) :
    let system := runEvents before
    let later := runEvents (before ++ rest)
    (∀ kind, system.latch.counts kind = system.permits.count kind) ∧ system.underflow = false ∧
    (system.latch.required.isSome = true → later.latch.required = system.latch.required ∧
      later.issued = system.issued ∧ later.started = system.started) ∧
    (system.returned ≠ 0 → later.permits = []) := by
  intro system later
  have hinv : Inv system := inv_run before
  have hmoves : Moves system later := moves_run before rest
  refine ⟨hinv.counted, hinv.exact, hmoves.required, fun hreturned => ?_⟩
  have hlater : later.returned ≠ 0 := by
    have hle := hmoves.returned
    omega
  exact ((inv_run (before ++ rest)).drained hlater).2

end ArtForgeStudio.Gates
