import ArtForgeStudio.Session.Steps

/-! # Scopes never revive and tokens never cross accounts -/

namespace ArtForgeStudio.Session

open ArtForgeStudio.Api ArtForgeStudio.Runs

/-- The one scope that can match. -/
def publishedScope (state : SessionState) : Option SessionScope :=
  if state.epochExhausted || !state.scopePublished then none
  else state.ownerUserId.map fun owner => ⟨owner, state.authEpoch⟩

theorem scopeMatches_iff_published {state : SessionState} {scope : SessionScope} :
    scopeMatches state scope = true ↔ publishedScope state = some scope := by
  obtain ⟨owner, epoch⟩ := scope
  rw [scopeMatches_iff]
  unfold publishedScope
  cases state.epochExhausted <;> cases state.scopePublished <;> cases state.ownerUserId <;>
    simp [and_comm]

/-- What one event does to the lease: the counter never goes back, and a published lease
appears or disappears only with a new counter, until the counters are exhausted. -/
structure LeaseStep (state next : SessionState) : Prop where
  exhausted : state.epochExhausted = true → next.epochExhausted = true
  monotone : state.authEpoch ≤ next.authEpoch
  strict : publishedScope next ≠ publishedScope state →
    next.epochExhausted = true ∨ state.authEpoch < next.authEpoch

/-- The event is an install or an owner refresh that succeeds with the scope. -/
def Publishes (world : World) (scope : SessionScope) : Event → Prop
  | .install tokens owner fault => (installTokensForUser tokens owner fault world).1 = .ok scope
  | .finish index answer fault => ∃ owner epoch expected,
      world.flights[index]? = some (.owner owner epoch expected) ∧
        (finishOwnerRefresh owner epoch expected answer fault
          { world with flights := world.flights.eraseIdx index }).1 = .ok scope
  | _ => False

section Counters

variable {state next : SessionState} {world : World}

theorem LeaseStep.of_eq (hexhausted : next.epochExhausted = state.epochExhausted)
    (hepoch : next.authEpoch = state.authEpoch)
    (hscope : publishedScope next = publishedScope state) : LeaseStep state next where
  exhausted h := hexhausted.trans h
  monotone := Nat.le_of_eq hepoch.symm
  strict h := absurd hscope h

theorem LeaseStep.of_closed (hepoch : next.authEpoch = state.authEpoch)
    (hclosed : next.epochExhausted = true) : LeaseStep state next where
  exhausted _ := hclosed
  monotone := Nat.le_of_eq hepoch.symm
  strict _ := .inl hclosed

theorem LeaseStep.of_next (hexhausted : state.epochExhausted = false)
    (hepoch : next.authEpoch = state.authEpoch + 1) : LeaseStep state next where
  exhausted h := by rw [hexhausted] at h; cases h
  monotone := by omega
  strict _ := .inr (by omega)

theorem publishedScope_unpublished (h : state.scopePublished = false) :
    publishedScope state = none := by
  simp [publishedScope, h]

theorem invalidateSessionLease_eq (state : SessionState) :
    invalidateSessionLease state = closeExhaustedSession state ∨
    state.epochExhausted = false ∧ ∃ refresh, invalidateSessionLease state = { state with
      authEpoch := state.authEpoch + 1
      accessToken := none
      ownerUserId := none
      scopePublished := false
      refreshing := false
      refreshEpoch := refresh
      lastRefreshResult := none } := by
  unfold invalidateSessionLease
  split
  · rename_i auth refresh hopen hauth hrefresh
    rw [checkedAdd1_some hauth]
    exact .inr ⟨hopen, refresh, rfl⟩
  · exact .inl rfl

theorem leaseStep_invalidate (state : SessionState) :
    LeaseStep state (invalidateSessionLease state) := by
  obtain h | ⟨hopen, refresh, h⟩ := invalidateSessionLease_eq state
  · rw [h]
    exact .of_closed rfl rfl
  · rw [h]
    exact .of_next hopen rfl

theorem leaseStep_failure (error : ApiError) (state : SessionState) :
    LeaseStep state (recordRefreshFailure error state) := by
  obtain h | ⟨refresh, h⟩ := recordRefreshFailure_eq error state
  · rw [h]
    exact .of_closed rfl rfl
  · rw [h]
    exact .of_eq rfl rfl rfl

/-- Fields outside the lease do not matter to a step. -/
theorem LeaseStep.congr_left {before : SessionState} (h : LeaseStep state next)
    (hexhausted : state.epochExhausted = before.epochExhausted)
    (hepoch : state.authEpoch = before.authEpoch)
    (hscope : publishedScope state = publishedScope before) : LeaseStep before next where
  exhausted hclosed := h.exhausted (hexhausted.trans hclosed)
  monotone := hepoch ▸ h.monotone
  strict hne := by
    have hstrict := h.strict (hscope ▸ hne)
    rwa [hepoch] at hstrict

theorem leaseStep_conflict (current : Option PersistedRefreshSession) (state : SessionState) :
    LeaseStep state (recordStoreConflict current state) := by
  unfold recordStoreConflict
  dsimp only
  split
  · exact (leaseStep_invalidate _).congr_left rfl rfl rfl
  · rename_i hpublished
    have hpublished : state.scopePublished = false := by simpa using hpublished
    refine (leaseStep_failure _ _).congr_left rfl rfl ?_
    rw [publishedScope_unpublished hpublished, publishedScope_unpublished]
    exact hpublished

theorem scopeMatches_publishTokens (owner accessToken : String) (auth refresh : Nat)
    (hopen : state.epochExhausted = false) :
    scopeMatches (publishTokens owner auth refresh accessToken state) ⟨owner, auth⟩ = true :=
  scopeMatches_iff.mpr ⟨hopen, rfl, rfl, rfl⟩

theorem installTokensForUser_ok {tokens : TokenSet} {owner : String} {fault : StoreFault}
    {scope : SessionScope} (h : (installTokensForUser tokens owner fault world).1 = .ok scope) :
    scope = ⟨owner, world.state.authEpoch + 1⟩ ∧
      scopeMatches (installTokensForUser tokens owner fault world).2.state scope = true := by
  unfold installTokensForUser at h ⊢
  dsimp only at h ⊢
  split at h
  · cases h
  split at h
  · cases h
  obtain hnext | ⟨refresh, hopen, hnext⟩ := nextEpochs_cases true world.state
  · simp [hnext] at h
  · cases fault with
    | some error => simp [hnext] at h
    | none =>
      simp only [hnext, if_true, Except.ok.injEq] at h
      subst h
      rw [if_neg ‹_›, hnext]
      exact ⟨rfl, scopeMatches_publishTokens _ _ _ _ hopen⟩

theorem finishOwnerRefresh_ok {owner : String} {epoch : Nat} {expected : PersistedRefreshSession}
    {answer : Except ApiError TokenSet} {fault : StoreFault} {scope : SessionScope}
    (h : (finishOwnerRefresh owner epoch expected answer fault world).1 = .ok scope) :
    scope = ⟨owner, world.state.authEpoch + 1⟩ ∧
      scopeMatches (finishOwnerRefresh owner epoch expected answer fault world).2.state scope =
        true := by
  unfold finishOwnerRefresh writeIfCurrent at h ⊢
  dsimp only at h ⊢
  split at h
  · cases h
  rename_i hcurrent
  rw [if_neg hcurrent]
  cases answer with
  | error error =>
    obtain hnext | ⟨refresh, -, hnext⟩ :=
      nextEpochs_cases false { world.state with refreshing := false } <;> simp [hnext] at h
  | ok tokens =>
    obtain hnext | ⟨refresh, hopen, hnext⟩ := nextEpochs_cases true world.state
    · simp [hnext] at h
    · cases fault with
      | some error => simp [hnext] at h
      | none =>
        by_cases hstored : world.stored = some expected
        · simp only [hnext, hstored, if_true, Except.ok.injEq] at h ⊢
          subst h
          exact ⟨rfl, scopeMatches_publishTokens _ _ _ _ hopen⟩
        · simp [hnext, hstored] at h

/-- A lease is published under the next counter. -/
theorem Publishes.after {event : Event} {scope : SessionScope} (h : Publishes world scope event) :
    scope.authEpoch = world.state.authEpoch + 1 ∧
      scopeMatches (after event world).state scope = true := by
  cases event with
  | install tokens owner fault =>
    obtain ⟨rfl, hmatches⟩ := installTokensForUser_ok h
    exact ⟨rfl, hmatches⟩
  | finish index answer fault =>
    obtain ⟨owner, epoch, expected, hflight, h⟩ := h
    obtain ⟨rfl, hmatches⟩ := finishOwnerRefresh_ok h
    refine ⟨rfl, ?_⟩
    simp only [Session.after, step, hflight, finishFlight]
    exact hmatches
  | _ => exact h.elim

theorem Change.leaseStep {cause : Cause} {next : World} (h : Change cause world next) :
    LeaseStep world.state next.state := by
  cases h with
  | unchanged | waits | persistBegan | tokenCleared => exact .of_eq rfl rfl rfl
  | closed => exact .of_closed rfl rfl
  | invalidated => exact leaseStep_invalidate _
  | failed error token htoken => exact (leaseStep_failure _ _).congr_left rfl rfl rfl
  | conflict token htoken => exact (leaseStep_conflict _ _).congr_left rfl rfl rfl
  | installed tokens owner refresh hcause hopen => exact .of_next hopen rfl
  | ownerRefreshed tokens owner epoch refresh expected hcause hcurrent hopen =>
    exact .of_next hopen rfl
  | scopeRefreshed => exact .of_eq rfl rfl rfl
  | cleared => exact (leaseStep_invalidate _).congr_left rfl rfl rfl
  | mismatched owner hcause hactive hpublished =>
    refine .of_eq rfl rfl ?_
    rw [publishedScope_unpublished hpublished, publishedScope_unpublished]
    exact hpublished
  | ownerBegan record hcause hactive hpublished =>
    refine .of_eq rfl rfl ?_
    rw [publishedScope_unpublished hpublished, publishedScope_unpublished]
    exact hpublished
  | scopeBegan => exact .of_eq rfl rfl rfl

theorem Moved.leaseStep {event : Event} {next : World} (h : Moved event world next) :
    LeaseStep world.state next.state := by
  cases h with
  | foreign | woken => exact .of_eq rfl rfl rfl
  | direct h => exact h.leaseStep
  | epilogue _ _ _ _ _ _ h => exact h.leaseStep

theorem after_leaseStep (event : Event) (world : World) :
    LeaseStep world.state (after event world).state :=
  (after_moved event world).leaseStep

theorem unpublished_invalidate (state : SessionState) :
    (invalidateSessionLease state).scopePublished = false ∧
      (invalidateSessionLease state).refreshing = false := by
  obtain h | ⟨hopen, refresh, h⟩ := invalidateSessionLease_eq state
  · rw [h]
    exact ⟨rfl, rfl⟩
  · rw [h]
    exact ⟨rfl, rfl⟩

theorem not_refreshing_failure (error : ApiError) (state : SessionState) :
    (recordRefreshFailure error state).refreshing = false := by
  obtain h | ⟨refresh, h⟩ := recordRefreshFailure_eq error state
  · rw [h]
    rfl
  · rw [h]

theorem unpublished_failure (error : ApiError) {state : SessionState}
    (hstate : state.scopePublished = false) :
    (recordRefreshFailure error state).scopePublished = false := by
  obtain h | ⟨refresh, h⟩ := recordRefreshFailure_eq error state <;> rw [h]
  · rfl
  · exact hstate

theorem unpublished_conflict (current : Option PersistedRefreshSession) (state : SessionState) :
    (recordStoreConflict current state).scopePublished = false ∧
      (recordStoreConflict current state).refreshing = false := by
  unfold recordStoreConflict
  dsimp only
  split
  · exact unpublished_invalidate _
  · rename_i hpublished
    exact ⟨unpublished_failure _ (by simpa using hpublished), not_refreshing_failure _ _⟩

end Counters

/-- The lease of a scope is over for good. -/
def Expired (scope : SessionScope) (state : SessionState) : Prop :=
  state.epochExhausted = true ∨ scope.authEpoch < state.authEpoch

theorem Expired.not_matches {scope : SessionScope} {state : SessionState}
    (h : Expired scope state) : scopeMatches state scope = false := by
  rw [← Bool.not_eq_true, scopeMatches_iff]
  rintro ⟨hopen, -, hepoch, -⟩
  obtain hclosed | hlt := h
  · rw [hopen] at hclosed
    cases hclosed
  · omega

theorem Expired.run {scope : SessionScope} {world : World} (h : Expired scope world.state)
    (events : List Event) : Expired scope (runEvents events world).state := by
  induction events generalizing world with
  | nil => exact h
  | cons event events ih =>
    have hstep := after_leaseStep event world
    refine ih ?_
    obtain hclosed | hlt := h
    · exact .inl (hstep.exhausted hclosed)
    · exact .inr (Nat.lt_of_lt_of_le hlt hstep.monotone)

/-- A scope that an event ends is over for good. -/
theorem expired_of_ended {scope : SessionScope} {event : Event} {world : World}
    (hmatches : scopeMatches world.state scope = true)
    (hended : scopeMatches (after event world).state scope = false) :
    Expired scope (after event world).state := by
  have hepoch := (scopeMatches_iff.mp hmatches).2.2.1
  have hchanged : publishedScope (after event world).state ≠ publishedScope world.state := by
    rw [scopeMatches_iff_published.mp hmatches]
    intro h
    rw [scopeMatches_iff_published.mpr h] at hended
    cases hended
  obtain hclosed | hlt := (after_leaseStep event world).strict hchanged
  · exact .inl hclosed
  · exact .inr (hepoch ▸ hlt)

end ArtForgeStudio.Session
