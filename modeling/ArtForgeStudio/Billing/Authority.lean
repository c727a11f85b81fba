import ArtForgeStudio.Billing.Context
import ArtForgeStudio.Library.Runs

/-! # Billing authority is never stale

Every operation is one of eight changes of the state. The epoch of a pending switch is the
current one, and so is the epoch of a confirmed context; what was confirmed under an older
epoch stays unconfirmed.
-/

namespace ArtForgeStudio.Billing

open ArtForgeStudio.Api ArtForgeStudio.Session ArtForgeStudio.Runs

namespace BillingContextState

/-- The context before a switch that is rolled back. -/
def restamped (epoch : Nat) (pending : PendingBillingSwitch) (current : ConfirmedBillingContext) :
    ConfirmedBillingContext :=
  let current := { current with scope := { current.scope with contextEpoch := epoch } }
  if pending.rollback = .invalidated then current.retire else current

/-- There is no next epoch. -/
def Exhausted (state : BillingContextState) : Prop :=
  state.closed = true ∨ 0x10000000000000000 ≤ state.epoch + 1

/-- Beginning and publishing a switch are told apart from everything else. -/
inductive Kind where
  | begin | publish | other

/-- What an operation can do to the state. -/
inductive Change (kind : Kind) (state : BillingContextState) : BillingContextState → Prop
  | same : Change kind state state
  | closed (after : BillingContextState) (hend : state.Exhausted) (hclosed : after.closed = true)
      (hepoch : after.epoch = state.epoch) (hpending : after.pending = none)
      (hcurrent : after.current = none) : Change kind state after
  | bound (session : Option SessionScope) (hopen : state.closed = false) :
      Change kind state { state with
        epoch := state.epoch + 1, session := session, pending := none, current := none }
  | begun (pending : PendingBillingSwitch) (current : Option ConfirmedBillingContext)
      (hkind : kind = .begin) (hopen : state.closed = false) (hepoch : pending.scope.contextEpoch = state.epoch + 1)
      (hsession : state.session = some pending.scope.request.session)
      (hcurrent : current = state.current ∨ current = state.current.map (·.retire)) :
      Change kind state { state with
        epoch := state.epoch + 1, pending := some pending, current := current }
  | aborted (pending : PendingBillingSwitch) (hopen : state.closed = false)
      (hpending : state.pending = some pending) :
      Change kind state { state with
        epoch := state.epoch + 1
        pending := none
        current := state.current.map (restamped (state.epoch + 1) pending) }
  | published (pending : PendingBillingSwitch) (snapshot : AccountSnapshot)
      (hkind : kind = .publish) (hopen : state.closed = false) (hpending : state.pending = some pending) :
      Change kind state { state with
        pending := none, current := some ⟨pending.scope, snapshot, true⟩ }
  | retired (hopen : state.closed = false) :
      Change kind state { state with
        epoch := state.epoch + 1, pending := none, current := state.current.map (·.retire) }
  | refreshed (current : ConfirmedBillingContext) (snapshot : AccountSnapshot)
      (hcurrent : state.current = some current) :
      Change kind state { state with current := some { current with snapshot := snapshot } }

section Operations

variable {kind : Kind} {state after : BillingContextState} {scope : BillingScope}

theorem advance_cases (state : BillingContextState) :
    state.closed = true ∧ (∃ error, state.advance = (.error error, state)) ∨
    0x10000000000000000 ≤ state.epoch + 1 ∧ (∃ error, state.advance = (.error error, state.close)) ∨
    state.closed = false ∧
      state.advance = (.ok (state.epoch + 1), { state with epoch := state.epoch + 1 }) := by
  unfold advance
  cases hclosed : state.closed with
  | true => exact .inl ⟨rfl, _, rfl⟩
  | false =>
    by_cases hnext : state.epoch + 1 < 0x10000000000000000
    · exact .inr (.inr ⟨rfl, by simp [checkedAdd1, hnext]⟩)
    · exact .inr (.inl ⟨by omega, _, by simp only [checkedAdd1, hnext, if_false]; rfl⟩)

/-- A closed state has nothing to confirm. -/
def Sealed (state : BillingContextState) : Prop :=
  state.closed = true → state.pending = none ∧ state.current = none

theorem Change.close (hend : 0x10000000000000000 ≤ state.epoch + 1) : Change kind state state.close :=
  .closed _ (.inr hend) rfl rfl rfl rfl

theorem bindAuthenticatedSession_change (state : BillingContextState) (session : SessionScope) :
    Change kind state (state.bindAuthenticatedSession session).2 := by
  unfold bindAuthenticatedSession
  rcases advance_cases state with ⟨-, error, heq⟩ | ⟨hend, error, heq⟩ | ⟨hopen, heq⟩ <;> rw [heq]
  · exact .same
  · exact .close hend
  · exact .bound (some session) hopen

theorem invalidateForAuthChange_change (state : BillingContextState) :
    Change kind state state.invalidateForAuthChange := by
  unfold invalidateForAuthChange
  rcases advance_cases state with ⟨hclosed, error, heq⟩ | ⟨hend, error, heq⟩ | ⟨hopen, heq⟩ <;>
    rw [heq]
  · exact .closed _ (.inl hclosed) hclosed rfl rfl rfl
  · exact .closed _ (.inr hend) rfl rfl rfl rfl
  · exact .bound none hopen

theorem invalidateCurrentBilling_change (state : BillingContextState) :
    Change kind state state.invalidateCurrentBilling := by
  unfold invalidateCurrentBilling
  rcases advance_cases state with ⟨-, error, heq⟩ | ⟨hend, error, heq⟩ | ⟨hopen, heq⟩ <;> rw [heq]
  · exact .same
  · exact .close hend
  · exact .retired hopen

theorem beginSwitch_change (state : BillingContextState) (session : SessionScope)
    (device group : String) (rollback : PreviousBillingAuthority) :
    Change .begin state (state.beginSwitch session device group rollback).2 := by
  unfold beginSwitch
  split
  · exact .same
  rename_i hcond
  simp only [Bool.or_eq_true, decide_eq_true_eq, not_or, not_not] at hcond
  rcases advance_cases state with ⟨-, error, heq⟩ | ⟨hend, error, heq⟩ | ⟨hopen, heq⟩ <;> rw [heq]
  · exact .same
  · exact .close hend
  · refine .begun _ _ rfl hopen rfl hcond.1.1 ?_
    dsimp only
    split
    · exact .inr rfl
    · exact .inl rfl

theorem abortMatching_change (hsealed : state.Sealed) (pending : PendingBillingSwitch) :
    Change kind state (state.abortMatching pending) := by
  unfold abortMatching
  split
  · exact .same
  rename_i hpending
  rw [not_not] at hpending
  have hopen : state.closed = false := by
    cases hclosed : state.closed with
    | false => rfl
    | true => cases hpending.symm.trans (hsealed hclosed).1
  rcases advance_cases { state with pending := none } with
    ⟨hclosed, -, -⟩ | ⟨hend, error, heq⟩ | ⟨-, heq⟩
  · cases hopen.symm.trans hclosed
  · rw [heq]
    exact .closed _ (.inr hend) rfl rfl rfl rfl
  · rw [heq]
    exact .aborted pending hopen hpending

theorem abortIfOpen_change (hsealed : state.Sealed) (tripped : Bool)
    (pending : PendingBillingSwitch) : Change kind state (state.abortIfOpen tripped pending) := by
  cases tripped with
  | true => exact .same
  | false => exact abortMatching_change hsealed pending

theorem stageConfirmation_change (hsealed : state.Sealed) (tripped : Bool)
    (ticket : BillingSwitchTicket) (choice : AccountGroupChoice) (snapshot : AccountSnapshot) :
    Change kind state (state.stageConfirmation tripped ticket choice snapshot).2 := by
  unfold stageConfirmation
  split
  · exact .same
  split
  · exact abortIfOpen_change hsealed tripped ticket.pending
  · exact .same

theorem dropTicket_change (hsealed : state.Sealed) (tripped : Bool)
    (ticket : BillingSwitchTicket) : Change kind state (state.dropTicket tripped ticket) := by
  unfold dropTicket
  split
  · exact abortIfOpen_change hsealed tripped ticket.pending
  · exact .same

theorem publishPersisted_change (state : BillingContextState) (ticket : BillingSwitchTicket)
    (staged : StagedBillingConfirmation) : Change .publish state (state.publishPersisted ticket staged) := by
  unfold publishPersisted
  split
  · rename_i hcond
    simp only [Bool.and_eq_true, Bool.not_eq_true', decide_eq_true_eq] at hcond
    obtain ⟨⟨hopen, hpending⟩, hstaged⟩ := hcond
    exact .published staged.pending staged.snapshot rfl hopen (hstaged ▸ hpending)
  · exact .same

theorem refreshFinancialSnapshot_change (state : BillingContextState) (scope : BillingScope)
    (snapshot : AccountSnapshot) : Change kind state (state.refreshFinancialSnapshot scope snapshot).2 := by
  unfold refreshFinancialSnapshot
  split
  · exact .same
  split
  · exact .same
  split
  · exact .same
  rename_i current hcurrent
  dsimp only
  split
  · exact .same
  · exact .refreshed current _ (Option.filter_eq_some_iff.mp hcurrent).1

structure StateInv (state : BillingContextState) : Prop where
  closed : state.Sealed
  pending : ∀ pending, state.pending = some pending →
    pending.scope.contextEpoch = state.epoch ∧ state.session = some pending.scope.request.session
  current : ∀ current, state.current = some current →
    current.scope.contextEpoch ≤ state.epoch ∧
      state.session = some current.scope.request.session
  stamped : ∀ current, state.current = some current → current.usable = true →
    state.pending = none → current.scope.contextEpoch = state.epoch

/-- Nothing is confirmed before the next publication. -/
def Revoked (state : BillingContextState) : Prop :=
  ∀ current, state.current = some current → current.usable = false

/-- A scope that an older epoch confirmed, or any scope once there is no epoch left. -/
def Stale (scope : BillingScope) (state : BillingContextState) : Prop :=
  state.closed = true ∨ scope.contextEpoch < state.epoch

theorem StateInv.of_empty (hpending : state.pending = none) (hcurrent : state.current = none) :
    StateInv state := by
  refine ⟨fun _ => ⟨hpending, hcurrent⟩, fun p h => ?_, fun c h => ?_, fun c h => ?_⟩
  · cases hpending.symm.trans h
  · cases hcurrent.symm.trans h
  · cases hcurrent.symm.trans h

theorem restamped_scope (epoch : Nat) (pending : PendingBillingSwitch)
    (current : ConfirmedBillingContext) :
    (restamped epoch pending current).scope = { current.scope with contextEpoch := epoch } := by
  unfold restamped
  dsimp only
  split <;> rfl

theorem Change.inv (h : Change kind state after) (hinv : StateInv state) : StateInv after := by
  cases h with
  | same => exact hinv
  | closed _ _ _ _ hpending hcurrent => exact .of_empty hpending hcurrent
  | bound session hopen => exact .of_empty rfl rfl
  | begun pending current hkind hopen hepoch hsession hcurrent =>
    have hscope : ∀ c, current = some c → ∃ c', state.current = some c' ∧ c.scope = c'.scope := by
      rintro c rfl
      rcases hcurrent with heq | heq
      · exact ⟨c, heq.symm, rfl⟩
      · obtain ⟨c', hc', rfl⟩ := Option.map_eq_some_iff.mp heq.symm
        exact ⟨c', hc', rfl⟩
    refine ⟨fun hclosed => absurd (hopen.symm.trans hclosed) nofun, ?_, fun c hc => ?_, ?_⟩
    · rintro _ ⟨⟩
      exact ⟨hepoch, hsession⟩
    · obtain ⟨c', hc', heq⟩ := hscope c hc
      rw [heq]
      exact ⟨Nat.le_succ_of_le (hinv.current c' hc').1, (hinv.current c' hc').2⟩
    · exact fun _ _ _ hnone => nomatch hnone
  | aborted pending hopen hpending =>
    refine ⟨fun hclosed => absurd (hopen.symm.trans hclosed) nofun, nofun,
      fun c hc => ?_, fun c hc _ _ => ?_⟩
    · obtain ⟨c', hc', rfl⟩ := Option.map_eq_some_iff.mp hc
      rw [restamped_scope]
      exact ⟨Nat.le_refl _, (hinv.current c' hc').2⟩
    · obtain ⟨c', hc', rfl⟩ := Option.map_eq_some_iff.mp hc
      rw [restamped_scope]
  | published pending snapshot hkind hopen hpending =>
    obtain ⟨hepoch, hsession⟩ := hinv.pending pending hpending
    refine ⟨fun hclosed => absurd (hopen.symm.trans hclosed) nofun, nofun, ?_, ?_⟩
    · rintro _ ⟨⟩
      exact ⟨Nat.le_of_eq hepoch, hsession⟩
    · rintro _ ⟨⟩ _ _
      exact hepoch
  | retired hopen =>
    refine ⟨fun hclosed => absurd (hopen.symm.trans hclosed) nofun, nofun,
      fun c hc => ?_, fun c hc husable _ => ?_⟩
    · obtain ⟨c', hc', rfl⟩ := Option.map_eq_some_iff.mp hc
      exact ⟨Nat.le_succ_of_le (hinv.current c' hc').1, (hinv.current c' hc').2⟩
    · obtain ⟨c', hc', rfl⟩ := Option.map_eq_some_iff.mp hc
      cases husable
  | refreshed current snapshot hcurrent =>
    refine ⟨fun hclosed => ?_, hinv.pending, ?_, ?_⟩
    · cases hcurrent.symm.trans (hinv.closed hclosed).2
    · rintro _ ⟨⟩
      exact hinv.current current hcurrent
    · rintro _ ⟨⟩
      exact hinv.stamped current hcurrent

theorem Change.epoch_le (h : Change kind state after) : state.epoch ≤ after.epoch := by
  cases h with
  | same | published | refreshed => exact Nat.le_refl _
  | closed _ _ _ hepoch => exact Nat.le_of_eq hepoch.symm
  | bound | begun | aborted | retired => exact Nat.le_succ _

theorem Change.closed_stays (h : Change kind state after) (hclosed : state.closed = true) :
    after.closed = true := by
  cases h with
  | same | refreshed => exact hclosed
  | closed _ _ hafter => exact hafter
  | bound _ hopen | retired hopen => cases hopen.symm.trans hclosed
  | aborted _ hopen => cases hopen.symm.trans hclosed
  | begun _ _ _ hopen | published _ _ _ hopen => cases hopen.symm.trans hclosed

/-- Only a publication brings a usable context. -/
theorem Change.revoked (h : Change kind state after) (hkind : kind ≠ .publish)
    (hrevoked : state.Revoked) : after.Revoked := by
  intro c hc
  cases h with
  | same => exact hrevoked c hc
  | closed _ _ _ _ _ hcurrent => cases hcurrent.symm.trans hc
  | bound => cases hc
  | begun pending current _ _ _ _ hcurrent =>
    cases hc
    rcases hcurrent with heq | heq
    · exact hrevoked c heq.symm
    · obtain ⟨c', -, rfl⟩ := Option.map_eq_some_iff.mp heq.symm
      rfl
  | aborted pending =>
    obtain ⟨c', hc', rfl⟩ := Option.map_eq_some_iff.mp hc
    unfold restamped
    dsimp only
    split
    · rfl
    · exact hrevoked c' hc'
  | published _ _ hpublish => exact absurd hpublish hkind
  | retired =>
    obtain ⟨c', -, rfl⟩ := Option.map_eq_some_iff.mp hc
    rfl
  | refreshed current snapshot hcurrent =>
    cases hc
    exact hrevoked current hcurrent

theorem confirmed_eq_some {current : ConfirmedBillingContext} :
    state.confirmed = some current ↔ state.closed = false ∧ state.pending = none ∧
      state.current = some current ∧ current.usable = true := by
  unfold confirmed
  cases state.closed <;> cases state.pending <;> simp [Option.filter_eq_some_iff]

theorem isCurrent_iff : state.isCurrent scope = true ↔ state.closed = false ∧
    state.pending = none ∧
    ∃ current, state.current = some current ∧ current.usable = true ∧ current.scope = scope := by
  rw [isCurrent, decide_eq_true_eq, BillingContextState.confirmedScope, Option.map_eq_some_iff]
  simp only [confirmed_eq_some]
  constructor
  · rintro ⟨current, ⟨hopen, hpending, hcurrent, husable⟩, hscope⟩
    exact ⟨hopen, hpending, current, hcurrent, husable, hscope⟩
  · rintro ⟨hopen, hpending, current, hcurrent, husable, hscope⟩
    exact ⟨current, ⟨hopen, hpending, hcurrent, husable⟩, hscope⟩

theorem Revoked.confirmedScope (h : state.Revoked) : state.confirmedScope = none := by
  cases hconfirmed : state.confirmed with
  | none => simp [BillingContextState.confirmedScope, hconfirmed]
  | some current =>
    obtain ⟨-, -, hcurrent, husable⟩ := confirmed_eq_some.mp hconfirmed
    cases (h current hcurrent).symm.trans husable

theorem Stale.not_current (hinv : StateInv state) (h : Stale scope state) :
    state.isCurrent scope = false := by
  rw [Bool.eq_false_iff]
  intro hcurrent
  obtain ⟨hopen, hpending, current, hsome, husable, rfl⟩ := isCurrent_iff.mp hcurrent
  rcases h with hclosed | hlt
  · cases hopen.symm.trans hclosed
  · exact absurd hlt (by rw [hinv.stamped current hsome husable hpending]; exact Nat.lt_irrefl _)

theorem Stale.change (hstale : Stale scope state) (h : Change kind state after) :
    Stale scope after :=
  hstale.imp h.closed_stays fun hlt => Nat.lt_of_lt_of_le hlt h.epoch_le

/-- A current scope stays current or is stale. -/
theorem Change.current (h : Change kind state after) (hinv : StateInv state)
    (hcurrent : state.isCurrent scope = true) :
    after.isCurrent scope = true ∨ Stale scope after := by
  obtain ⟨hopen, hpending, current, hsome, husable, rfl⟩ := isCurrent_iff.mp hcurrent
  have hepoch := hinv.stamped current hsome husable hpending
  have hlt : current.scope.contextEpoch < state.epoch + 1 := Nat.lt_succ_of_le (Nat.le_of_eq hepoch)
  cases h with
  | same => exact .inl hcurrent
  | closed _ _ hclosed => exact .inr (.inl hclosed)
  | bound | begun | retired | aborted => exact .inr (.inr hlt)
  | published _ _ _ _ hsome' => cases hpending.symm.trans hsome'
  | refreshed current' snapshot hsome' =>
    cases hsome.symm.trans hsome'
    exact .inl (isCurrent_iff.mpr ⟨hopen, hpending, _, rfl, husable, rfl⟩)

/-- Only a new switch becomes the pending one. -/
theorem Change.pending_before (h : Change kind state after) (hkind : kind ≠ .begin)
    {pending : PendingBillingSwitch} (hpending : after.pending = some pending) :
    state.pending = some pending := by
  cases h with
  | same | refreshed => exact hpending
  | closed _ _ _ _ hnone => cases hnone.symm.trans hpending
  | bound | aborted | published | retired => cases hpending
  | begun _ _ hbegin => exact absurd hbegin hkind

/-- A switch that was begun is pending under the epoch that it took. -/
theorem beginSwitch_ok {session : SessionScope} {device group : String}
    {rollback : PreviousBillingAuthority} {ticket : BillingSwitchTicket}
    (h : state.beginSwitch session device group rollback = (.ok ticket, after)) :
    after.pending = some ticket.pending ∧ ticket.pending.scope.contextEpoch = after.epoch ∧
      state.epoch < after.epoch ∧ (rollback = .invalidated → after.Revoked) := by
  unfold beginSwitch at h
  split at h
  · cases h
  rcases advance_cases state with ⟨-, error, heq⟩ | ⟨hend, error, heq⟩ | ⟨hopen, heq⟩ <;>
    rw [heq] at h
  · cases h
  · cases h
  · cases h
    refine ⟨rfl, rfl, Nat.lt_succ_self _, ?_⟩
    rintro rfl current hcurrent
    obtain ⟨c, -, rfl⟩ := Option.map_eq_some_iff.mp hcurrent
    rfl

theorem beginSwitch_error {session : SessionScope} {device group : String}
    {rollback : PreviousBillingAuthority} {error : ApiError}
    (h : state.beginSwitch session device group rollback = (.error error, after)) :
    after = state ∨ 0x10000000000000000 ≤ state.epoch + 1 ∧ after = state.close := by
  unfold beginSwitch at h
  split at h
  · cases h
    exact .inl rfl
  rcases advance_cases state with ⟨-, error, heq⟩ | ⟨hend, error, heq⟩ | ⟨hopen, heq⟩ <;>
    rw [heq] at h <;> cases h
  · exact .inl rfl
  · exact .inr ⟨hend, rfl⟩

/-- An abort that changes the state takes a new epoch or closes the manager. -/
theorem abortMatching_epoch {pending : PendingBillingSwitch}
    (hchanged : state.abortMatching pending ≠ state) :
    state.pending = some pending ∧ (state.epoch < (state.abortMatching pending).epoch ∨
      state.Exhausted ∧ (state.abortMatching pending).closed = true) := by
  unfold abortMatching at hchanged ⊢
  split at hchanged
  · exact absurd rfl hchanged
  rename_i hpending
  rw [not_not] at hpending
  refine ⟨hpending, ?_⟩
  rw [if_neg (by simpa using hpending)]
  rcases advance_cases { state with pending := none } with
    ⟨hclosed, error, heq⟩ | ⟨hend, error, heq⟩ | ⟨-, heq⟩ <;> rw [heq]
  · exact .inr ⟨.inl hclosed, hclosed⟩
  · exact .inr ⟨.inr hend, rfl⟩
  · exact .inl (Nat.lt_succ_self _)

theorem abortIfOpen_epoch {tripped : Bool} {pending : PendingBillingSwitch}
    (hchanged : state.abortIfOpen tripped pending ≠ state) :
    state.pending = some pending ∧ (state.epoch < (state.abortIfOpen tripped pending).epoch ∨
      state.Exhausted ∧ (state.abortIfOpen tripped pending).closed = true) := by
  cases tripped with
  | true => exact absurd rfl hchanged
  | false => exact abortMatching_epoch hchanged

theorem stageConfirmation_epoch {tripped : Bool} {ticket : BillingSwitchTicket}
    {choice : AccountGroupChoice} {snapshot : AccountSnapshot}
    (hchanged : (state.stageConfirmation tripped ticket choice snapshot).2 ≠ state) :
    state.pending = some ticket.pending ∧
      (state.epoch < (state.stageConfirmation tripped ticket choice snapshot).2.epoch ∨
        state.Exhausted ∧
          (state.stageConfirmation tripped ticket choice snapshot).2.closed = true) := by
  unfold stageConfirmation at hchanged ⊢
  split at hchanged
  · exact absurd rfl hchanged
  rename_i hcond
  rw [if_neg hcond]
  split at hchanged
  · rename_i hreject
    rw [if_pos hreject]
    exact abortIfOpen_epoch hchanged
  · exact absurd rfl hchanged

end Operations

end BillingContextState

open BillingContextState

structure Inv (world : World) : Prop where
  state : StateInv world.state
  newest : ∀ pending, world.state.pending = some pending → world.begun.head? = some pending
  tickets : ∀ ticket ∈ world.tickets, ticket.pending ∈ world.begun
  ordered : world.begun.Pairwise fun newer older =>
    older.scope.contextEpoch < newer.scope.contextEpoch
  epochs : ∀ pending ∈ world.begun, pending.scope.contextEpoch ≤ world.state.epoch

def Action.kind : Action → Kind
  | .begin _ _ _ _ => .begin
  | .publish _ _ => .publish
  | _ => .other

section Steps

variable {world : World} {action : Action} {actions rest : List Action} {scope : BillingScope}

theorem Inv.start : Inv {} :=
  ⟨.of_empty rfl rfl, nofun, nofun, .nil, nofun⟩

theorem step_stage (ticket : BillingSwitchTicket) (choice : AccountGroupChoice)
    (snapshot : AccountSnapshot) : (step (.stage ticket choice snapshot) world).state = world.state ∨
      (step (.stage ticket choice snapshot) world).state =
        (world.state.stageConfirmation world.tripped ticket choice snapshot).2 := by
  simp only [step]
  split
  · exact .inl rfl
  · right
    split
    · rename_i heq
      rw [heq]
    · rename_i heq
      rw [heq]

theorem step_change (hinv : Inv world) (action : Action) :
    Change action.kind world.state (step action world).state := by
  cases action with
  | bind session => exact bindAuthenticatedSession_change _ _
  | invalidateForAuthChange => exact invalidateForAuthChange_change _
  | begin session device group rollback =>
    have hchange := beginSwitch_change world.state session device group rollback
    simp only [step]
    generalize world.state.beginSwitch session device group rollback = result at hchange ⊢
    obtain ⟨result, state⟩ := result
    cases result with
    | error error => exact hchange
    | ok ticket => exact hchange
  | stage ticket choice snapshot =>
    rcases step_stage ticket choice snapshot with heq | heq <;> rw [heq]
    · exact .same
    · exact stageConfirmation_change hinv.state.closed _ _ _ _
  | publish ticket staged =>
    simp only [step]
    split
    · exact .same
    · exact publishPersisted_change _ _ _
  | abort ticket =>
    simp only [step]
    split
    · exact .same
    · exact abortMatching_change hinv.state.closed _
  | drop ticket =>
    simp only [step]
    split
    · exact .same
    · exact dropTicket_change hinv.state.closed _ _
  | suppressRollback ticket =>
    simp only [step]
    split
    · exact .same
    · exact .same
  | invalidateCurrentBilling => exact invalidateCurrentBilling_change _
  | refreshFinancialSnapshot scope snapshot => exact refreshFinancialSnapshot_change _ _ _
  | trip => exact .same

/-- Tickets are made by `begin` alone. -/
theorem step_tickets (hkind : action.kind ≠ .begin) :
    (step action world).begun = world.begun ∧
      ∀ ticket ∈ (step action world).tickets, ∃ old ∈ world.tickets, old.pending = ticket.pending := by
  have hkept : ∀ tickets : List BillingSwitchTicket, tickets ⊆ world.tickets →
      ∀ ticket ∈ tickets, ∃ old ∈ world.tickets, old.pending = ticket.pending :=
    fun tickets hsub ticket hmem => ⟨ticket, hsub hmem, rfl⟩
  cases action with
  | begin => exact absurd rfl hkind
  | bind | invalidateForAuthChange | invalidateCurrentBilling | refreshFinancialSnapshot | trip =>
    exact ⟨rfl, hkept _ (List.Subset.refl _)⟩
  | stage ticket choice snapshot =>
    simp only [step]
    split
    · exact ⟨rfl, hkept _ (List.Subset.refl _)⟩
    split <;> exact ⟨rfl, hkept _ (List.Subset.refl _)⟩
  | publish ticket staged =>
    simp only [step]
    split
    · exact ⟨rfl, hkept _ (List.Subset.refl _)⟩
    · exact ⟨rfl, hkept _ List.erase_subset⟩
  | abort ticket | drop ticket =>
    simp only [step]
    split
    · exact ⟨rfl, hkept _ (List.Subset.refl _)⟩
    · exact ⟨rfl, hkept _ List.erase_subset⟩
  | suppressRollback ticket =>
    simp only [step]
    split
    · exact ⟨rfl, hkept _ (List.Subset.refl _)⟩
    rename_i hmem
    refine ⟨rfl, List.forall_mem_cons.mpr ⟨⟨ticket, by simpa using hmem, rfl⟩, ?_⟩⟩
    exact hkept _ List.erase_subset

theorem step_inv (hinv : Inv world) (action : Action) : Inv (step action world) := by
  have hchange := step_change hinv action
  have hstate := hchange.inv hinv.state
  by_cases hkind : action.kind = .begin
  · cases action with
    | begin session device group rollback =>
      simp only [step] at hstate ⊢
      cases hresult : world.state.beginSwitch session device group rollback with
      | mk result state =>
        rw [hresult] at hstate
        cases result with
        | error error =>
          rcases beginSwitch_error hresult with rfl | ⟨-, rfl⟩
          · exact ⟨hstate, hinv.newest, hinv.tickets, hinv.ordered, hinv.epochs⟩
          · exact ⟨hstate, nofun, hinv.tickets, hinv.ordered, hinv.epochs⟩
        | ok ticket =>
          obtain ⟨hpending, hepoch, hlt, -⟩ := beginSwitch_ok hresult
          refine ⟨hstate, fun pending h => ?_, ?_, ?_, ?_⟩
          · exact hpending.symm.trans h
          · exact List.forall_mem_cons.mpr ⟨List.mem_cons_self,
              fun old hmem => List.mem_cons_of_mem _ (hinv.tickets old hmem)⟩
          · refine .cons (fun older hmem => ?_) hinv.ordered
            exact Nat.lt_of_le_of_lt (hinv.epochs older hmem) (hepoch ▸ hlt)
          · exact List.forall_mem_cons.mpr ⟨Nat.le_of_eq hepoch,
              fun older hmem => Nat.le_trans (hinv.epochs older hmem) (Nat.le_of_lt hlt)⟩
    | _ => cases hkind
  · obtain ⟨hbegun, htickets⟩ := step_tickets hkind
    refine ⟨hstate, fun pending h => ?_, fun ticket hmem => ?_, ?_, fun pending hmem => ?_⟩
    · rw [hbegun]
      exact hinv.newest pending (hchange.pending_before hkind h)
    · obtain ⟨old, hold, heq⟩ := htickets ticket hmem
      rw [hbegun, ← heq]
      exact hinv.tickets old hold
    · rw [hbegun]
      exact hinv.ordered
    · rw [hbegun] at hmem
      exact Nat.le_trans (hinv.epochs pending hmem) hchange.epoch_le

theorem run_inv (actions : List Action) : Inv (run step actions {}) :=
  run_invariant Inv (fun action _ hinv _ => step_inv hinv action) .start
    (atEachStep_of_forall (C := fun _ => True) fun _ _ => trivial)

/-- The operations that take an epoch: those that fail or find no switch do not. -/
def Advances (action : Action) (world : World) : Prop :=
  match action with
  | .bind _ | .invalidateForAuthChange | .invalidateCurrentBilling => True
  | .begin session device group rollback =>
    ∃ ticket, (world.state.beginSwitch session device group rollback).1 = .ok ticket
  | .stage _ _ _ | .abort _ | .drop _ => (step action world).state ≠ world.state
  | _ => False

/-- The operations that withdraw the confirmed context. -/
def Revokes (action : Action) (world : World) : Prop :=
  match action with
  | .invalidateCurrentBilling => True
  | .begin session device group .invalidated =>
    ∃ ticket, (world.state.beginSwitch session device group .invalidated).1 = .ok ticket
  | _ => False

/-- The ticket that an operation holds. -/
def Action.ticket? : Action → Option BillingSwitchTicket
  | .stage ticket _ _ | .publish ticket _ | .abort ticket | .drop ticket => some ticket
  | _ => none

theorem bind_epoch {state : BillingContextState} {session : SessionScope} :
    state.epoch < (state.bindAuthenticatedSession session).2.epoch ∨
      state.Exhausted ∧ (state.bindAuthenticatedSession session).2.closed = true := by
  unfold bindAuthenticatedSession
  rcases advance_cases state with ⟨hclosed, error, heq⟩ | ⟨hend, error, heq⟩ | ⟨-, heq⟩ <;> rw [heq]
  · exact .inr ⟨.inl hclosed, hclosed⟩
  · exact .inr ⟨.inr hend, rfl⟩
  · exact .inl (Nat.lt_succ_self _)

theorem invalidateForAuthChange_epoch {state : BillingContextState} :
    state.epoch < state.invalidateForAuthChange.epoch ∨
      state.Exhausted ∧ state.invalidateForAuthChange.closed = true := by
  unfold invalidateForAuthChange
  rcases advance_cases state with ⟨hclosed, error, heq⟩ | ⟨hend, error, heq⟩ | ⟨-, heq⟩ <;> rw [heq]
  · exact .inr ⟨.inl hclosed, hclosed⟩
  · exact .inr ⟨.inr hend, rfl⟩
  · exact .inl (Nat.lt_succ_self _)

theorem invalidateCurrentBilling_epoch {state : BillingContextState} :
    state.epoch < state.invalidateCurrentBilling.epoch ∨
      state.Exhausted ∧ state.invalidateCurrentBilling.closed = true := by
  unfold invalidateCurrentBilling
  rcases advance_cases state with ⟨hclosed, error, heq⟩ | ⟨hend, error, heq⟩ | ⟨-, heq⟩ <;> rw [heq]
  · exact .inr ⟨.inl hclosed, hclosed⟩
  · exact .inr ⟨.inr hend, rfl⟩
  · exact .inl (Nat.lt_succ_self _)

theorem invalidateCurrentBilling_revoked {state : BillingContextState} (hsealed : state.Sealed) :
    state.invalidateCurrentBilling.Revoked := by
  unfold invalidateCurrentBilling
  rcases advance_cases state with ⟨hclosed, error, heq⟩ | ⟨-, error, heq⟩ | ⟨-, heq⟩ <;> rw [heq] <;>
    intro current hcurrent
  · cases (hsealed hclosed).2.symm.trans hcurrent
  · cases hcurrent
  · obtain ⟨c, -, rfl⟩ := Option.map_eq_some_iff.mp hcurrent
    rfl

theorem step_ticket {ticket : BillingSwitchTicket} (haction : action.ticket? = some ticket)
    (hchanged : (step action world).state ≠ world.state) :
    world.state.pending = some ticket.pending ∧ (action.kind ≠ .publish →
      world.state.epoch < (step action world).state.epoch ∨
        world.state.Exhausted ∧ (step action world).state.closed = true) := by
  cases action with
  | stage ticket choice snapshot =>
    cases haction
    rcases step_stage ticket choice snapshot with heq | heq <;> rw [heq] at hchanged ⊢
    · exact absurd rfl hchanged
    · obtain ⟨hpending, hepoch⟩ := stageConfirmation_epoch hchanged
      exact ⟨hpending, fun _ => hepoch⟩
  | publish ticket staged =>
    cases haction
    refine ⟨?_, fun h => absurd rfl h⟩
    simp only [step] at hchanged
    split at hchanged
    · exact absurd rfl hchanged
    unfold publishPersisted at hchanged
    split at hchanged
    · rename_i hcond
      simp only [Bool.and_eq_true, decide_eq_true_eq] at hcond
      exact hcond.1.2
    · exact absurd rfl hchanged
  | abort ticket =>
    cases haction
    simp only [step] at hchanged ⊢
    split at hchanged
    · exact absurd rfl hchanged
    rename_i hmem
    rw [if_neg hmem]
    obtain ⟨hpending, hepoch⟩ := abortMatching_epoch hchanged
    exact ⟨hpending, fun _ => hepoch⟩
  | drop ticket =>
    cases haction
    simp only [step] at hchanged ⊢
    split at hchanged
    · exact absurd rfl hchanged
    rename_i hmem
    rw [if_neg hmem]
    unfold dropTicket at hchanged ⊢
    split at hchanged
    · rename_i harmed
      simp only [harmed, if_true]
      obtain ⟨hpending, hepoch⟩ := abortIfOpen_epoch hchanged
      exact ⟨hpending, fun _ => hepoch⟩
    · exact absurd rfl hchanged
  | _ => cases haction

theorem step_advances (hadvances : Advances action world) :
    world.state.epoch < (step action world).state.epoch ∨
      world.state.Exhausted ∧ (step action world).state.closed = true := by
  cases action with
  | bind session => exact bind_epoch
  | invalidateForAuthChange => exact invalidateForAuthChange_epoch
  | invalidateCurrentBilling => exact invalidateCurrentBilling_epoch
  | begin session device group rollback =>
    obtain ⟨ticket, hticket⟩ := hadvances
    simp only [step]
    cases hresult : world.state.beginSwitch session device group rollback with
    | mk result state =>
      rw [hresult] at hticket
      cases hticket
      exact .inl (beginSwitch_ok hresult).2.2.1
  | stage ticket choice snapshot => exact (step_ticket rfl hadvances).2 nofun
  | abort ticket => exact (step_ticket rfl hadvances).2 nofun
  | drop ticket => exact (step_ticket rfl hadvances).2 nofun
  | _ => exact False.elim hadvances

theorem step_revokes (hinv : Inv world) (hrevokes : Revokes action world) :
    (step action world).state.Revoked := by
  cases action with
  | invalidateCurrentBilling => exact invalidateCurrentBilling_revoked hinv.state.closed
  | begin session device group rollback =>
    cases rollback with
    | stillValid => exact False.elim hrevokes
    | invalidated =>
      obtain ⟨ticket, hticket⟩ := hrevokes
      simp only [step]
      cases hresult : world.state.beginSwitch session device group .invalidated with
      | mk result state =>
        rw [hresult] at hticket
        cases hticket
        exact (beginSwitch_ok hresult).2.2.2 rfl
  | _ => exact False.elim hrevokes

/-- A stale scope is current in no later state. -/
theorem stale_run (hinv : Inv world) (hstale : Stale scope world.state) (rest : List Action) :
    (run step rest world).state.isCurrent scope = false := by
  have hkept : Inv (run step rest world) ∧ Stale scope (run step rest world).state :=
    run_invariant (fun world => Inv world ∧ Stale scope world.state)
      (fun action world h _ => ⟨step_inv h.1 action, h.2.change (step_change h.1 action)⟩)
      ⟨hinv, hstale⟩ (atEachStep_of_forall (C := fun _ => True) fun _ _ => trivial)
  exact hkept.2.not_current hkept.1.state

/-- Without a publication that takes effect nothing is confirmed again. -/
theorem revoked_run (hinv : Inv world) (hrevoked : world.state.Revoked)
    (hrest : AtEachStep step
      (fun action world => action.kind = .publish → (step action world).state = world.state)
      rest world) : (run step rest world).state.confirmedScope = none := by
  have hkept : Inv (run step rest world) ∧ (run step rest world).state.Revoked := by
    refine run_invariant (fun world => Inv world ∧ world.state.Revoked) ?_ ⟨hinv, hrevoked⟩ hrest
    rintro action world ⟨hinv, hrevoked⟩ hpublish
    refine ⟨step_inv hinv action, ?_⟩
    by_cases hkind : action.kind = .publish
    · rw [hpublish hkind]
      exact hrevoked
    · exact (step_change hinv action).revoked hkind hrevoked
  exact hkept.2.confirmedScope

/-- Along every run of the manager: epochs grow with every operation that takes one, a scope that
has stopped being current never is again, nothing is confirmed during a switch or after the
last epoch, only the ticket begun last and still pending has an effect, a withdrawn context
stays withdrawn until a publication, and a confirmed scope is of the bound session. -/
theorem billing_authority_fresh (actions : List Action) (action : Action) :
    let world := run step actions {}
    let next := step action world
    (world.state.epoch ≤ next.state.epoch ∧ (Advances action world →
      world.state.epoch < next.state.epoch ∨
        world.state.Exhausted ∧ next.state.closed = true)) ∧
    (∀ scope, world.state.isCurrent scope = true → next.state.isCurrent scope = false →
      ∀ rest, (run step rest next).state.isCurrent scope = false) ∧
    (world.state.pending.isSome ∨ world.state.closed = true → world.state.confirmedScope = none) ∧
    (world.begun.Pairwise fun newer older =>
      older.scope.contextEpoch < newer.scope.contextEpoch) ∧
    (∀ ticket, action.ticket? = some ticket → next.state ≠ world.state →
      world.begun.head? = some ticket.pending ∧ world.state.pending = some ticket.pending) ∧
    (Revokes action world → ∀ rest, AtEachStep step
      (fun action world => action.kind = .publish → (step action world).state = world.state)
      rest next → (run step rest next).state.confirmedScope = none) ∧
    ∀ scope, world.state.confirmedScope = some scope →
      world.state.session = some scope.request.session ∧ scope.contextEpoch = world.state.epoch := by
  intro world next
  have hinv : Inv world := run_inv actions
  have hchange : Change action.kind world.state next.state := step_change hinv action
  have hnext : Inv next := step_inv hinv action
  refine ⟨⟨hchange.epoch_le, step_advances⟩, ?_, ?_, hinv.ordered, ?_, ?_, ?_⟩
  · intro scope hcurrent hlost rest
    rcases hchange.current hinv.state hcurrent with hstill | hstale
    · cases hstill.symm.trans hlost
    · exact stale_run hnext hstale rest
  · intro hhidden
    have hnone : world.state.confirmed = none := if_pos (by
      rcases hhidden with hpending | hclosed
      · rw [hpending, Bool.or_true]
      · rw [hclosed, Bool.true_or])
    rw [BillingContextState.confirmedScope, hnone, Option.map_none]
  · intro ticket hticket hchanged
    have hpending := (step_ticket hticket hchanged).1
    exact ⟨hinv.newest _ hpending, hpending⟩
  · exact fun hrevokes rest hrest => revoked_run hnext (step_revokes hinv hrevokes) hrest
  · intro scope hscope
    obtain ⟨current, hconfirmed, rfl⟩ := Option.map_eq_some_iff.mp hscope
    obtain ⟨-, hpending, hcurrent, husable⟩ := confirmed_eq_some.mp hconfirmed
    exact ⟨(hinv.state.current current hcurrent).2,
      hinv.state.stamped current hcurrent husable hpending⟩

end Steps

end ArtForgeStudio.Billing
