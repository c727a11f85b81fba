import ArtForgeStudio.Session.Manager
import ArtForgeStudio.Library.Runs

/-! # What a critical section can do to a session

`Change` lists the outcomes of all critical sections once. The invariants of sessions are
read off it, never off the sections themselves.
-/

namespace ArtForgeStudio.Session

open ArtForgeStudio.Api

/-- The events of a session: the critical sections of any number of threads in any order,
with arbitrary answers, and foreign writers of the stored record. -/
inductive Event where
  | install (tokens : TokenSet) (owner : String) (saveFault : StoreFault)
  | beginOwnerRefresh (owner : String) (loadFault : StoreFault)
  | beginScopeRefresh (scope : SessionScope) (rejected : Option String) (loadFault : StoreFault)
  | beginPersist (scope : SessionScope)
  | finish (index : Nat) (answer : Except ApiError TokenSet) (replaceFault : StoreFault)
  | clear (clearFault : StoreFault)
  | clearScope (scope : SessionScope) (clearFault : StoreFault)
  | clearEpoch (authEpoch : Nat) (clearFault : StoreFault)
  | accessTokenForScope (scope : SessionScope)
  | clearAccessToken
  | wake (index : Nat)
  | foreign (stored : Option PersistedRefreshSession)

/-- The prologue of `persist_refreshed_tokens`, whose epilogue is the one of `refresh_scope`. -/
def beginPersist (scope : SessionScope) (world : World) : World :=
  if !scopeMatches world.state scope then world else
  match authorizedFor world.state scope with
  | none => { world with state := invalidateSessionLease world.state }
  | some expected => { world with flights := .scope scope expected :: world.flights }

/-- A token result for a scope that an event returns to its caller. -/
abbrev Returned := Option (SessionScope × Except ApiError String)

def RefreshStart.returned (scope : SessionScope) : RefreshStart → Returned
  | .done result => some (scope, result)
  | _ => none

/-- The epilogue of a flight. -/
def finishFlight (answer : Except ApiError TokenSet) (replaceFault : StoreFault) (world : World) :
    Flight → Returned × World
  | .owner user authEpoch expected =>
    (none, (finishOwnerRefresh user authEpoch expected answer replaceFault world).2)
  | .scope captured expected =>
    let result := finishScopeRefresh captured expected answer replaceFault world
    (some (captured, result.1), result.2)

def step (event : Event) (world : World) : Returned × World :=
  match event with
  | .install tokens owner fault => (none, (installTokensForUser tokens owner fault world).2)
  | .beginOwnerRefresh owner fault => (none, (beginOwnerRefresh owner fault world).2)
  | .beginScopeRefresh scope rejected fault =>
    let result := beginScopeRefresh scope rejected fault world
    (result.1.returned scope, result.2)
  | .beginPersist scope => (none, beginPersist scope world)
  | .finish index answer fault =>
    match world.flights[index]? with
    | none => (none, world)
    | some flight =>
      finishFlight answer fault { world with flights := world.flights.eraseIdx index } flight
  | .clear fault => (none, (clearLocked fault world).2)
  | .clearScope scope fault => (none, (clearScope scope fault world).2)
  | .clearEpoch epoch fault => (none, (clearEpoch epoch fault world).2)
  | .accessTokenForScope scope =>
    let result := accessTokenForScope scope world
    (result.1.returned scope, result.2)
  | .clearAccessToken => (none, { world with state := { world.state with accessToken := none } })
  | .wake index =>
    match world.waiters[index]? with
    | none => (none, world)
    | some waiter =>
      if waiter.waits world.state then (none, world)
      else (some (waiter.scope, waiter.result world.state),
        { world with waiters := world.waiters.eraseIdx index })
  | .foreign stored => (none, { world with stored := stored })

/-- The world after an event. -/
abbrev after (event : Event) (world : World) : World := (step event world).2

abbrev runEvents (events : List Event) (world : World) : World := Runs.run after events world

/-- An install or an owner refresh is refused in this state, and nothing else reaches the
store from it. -/
structure Blocked (state : SessionState) : Prop where
  authorized : state.authorizedPersistedSession = none
  observed : state.persistedOwnerUserId.isSome = true
  published : state.scopePublished = false
  refreshing : state.refreshing = false

/-- What a critical section was given to write. -/
inductive Cause where
  | none
  | persist
  | ownerRefresh (owner : String)
  | install (tokens : TokenSet) (owner : String)
  | epilogue (flight : Flight) (answer : Except ApiError TokenSet)

/-- A failure is recorded by the refresh under way, or when none is. -/
def Cause.MayFail (state : SessionState) : Cause → Prop
  | .none => state.refreshing = false
  | .epilogue flight _ => flight.current state = true
  | _ => False

/-- Every way in which a critical section leaves the world. -/
inductive Change (cause : Cause) (world : World) : World → Prop
  | unchanged (hstale : ∀ flight answer, cause = .epilogue flight answer →
      flight.current world.state = false) : Change cause world world
  | waits (waiter : Waiter) (hcause : cause = .none) :
      Change cause world { world with waiters := waiter :: world.waiters }
  | closed : Change cause world { world with state := closeExhaustedSession world.state }
  | invalidated : Change cause world { world with state := invalidateSessionLease world.state }
  | failed (error : ApiError) (token : Option String)
      (htoken : token = world.state.accessToken ∨ token = none)
      (hmay : cause.MayFail world.state) :
      Change cause world
        { world with state := recordRefreshFailure error { world.state with accessToken := token } }
  | conflict (token : Option String) (htoken : token = world.state.accessToken ∨ token = none)
      (hactive : ¬Blocked world.state) :
      Change cause world
        (({ world with state := { world.state with accessToken := token } } : World).conflict
          world.stored)
  | installed (tokens : TokenSet) (owner : String) (nextRefresh : Nat)
      (hcause : cause = .install tokens owner)
      (hopen : world.state.epochExhausted = false) (hactive : ¬Blocked world.state) :
      Change cause world { world with
        state := publishTokens owner (world.state.authEpoch + 1) nextRefresh tokens.accessToken
          { world.state with
            persistedOwnerUserId := some owner
            authorizedPersistedSession := some ⟨owner, tokens.refreshToken⟩ }
        stored := some ⟨owner, tokens.refreshToken⟩
        obtained := (⟨owner, world.state.authEpoch + 1⟩, tokens.accessToken) :: world.obtained
        captured := ⟨owner, tokens.refreshToken⟩ :: world.captured }
  | ownerRefreshed (tokens : TokenSet) (owner : String) (authEpoch nextRefresh : Nat)
      (expected : PersistedRefreshSession) (hcause : cause = .epilogue (.owner owner authEpoch expected) (.ok tokens))
      (hcurrent : (Flight.owner owner authEpoch expected).current world.state = true)
      (hopen : world.state.epochExhausted = false) (hstored : world.stored = some expected) :
      Change cause world { world with
        state := publishTokens owner (world.state.authEpoch + 1) nextRefresh tokens.accessToken
          { world.state with
            persistedOwnerUserId := some owner
            authorizedPersistedSession := some ⟨owner, tokens.refreshToken⟩ }
        stored := some ⟨owner, tokens.refreshToken⟩
        obtained := (⟨owner, world.state.authEpoch + 1⟩, tokens.accessToken) :: world.obtained
        captured := ⟨owner, tokens.refreshToken⟩ :: world.captured }
  | scopeRefreshed (tokens : TokenSet) (scope : SessionScope) (nextRefresh : Nat)
      (expected : PersistedRefreshSession) (hcause : cause = .epilogue (.scope scope expected) (.ok tokens))
      (hmatches : scopeMatches world.state scope = true) (hstored : world.stored = some expected) :
      Change cause world { world with
        state := { world.state with
          persistedOwnerUserId := some scope.ownerUserId
          authorizedPersistedSession := some ⟨scope.ownerUserId, tokens.refreshToken⟩
          refreshing := false
          refreshEpoch := nextRefresh
          accessToken := some tokens.accessToken
          lastRefreshResult := some (.ok tokens.accessToken) }
        stored := some ⟨scope.ownerUserId, tokens.refreshToken⟩
        obtained := (scope, tokens.accessToken) :: world.obtained
        captured := ⟨scope.ownerUserId, tokens.refreshToken⟩ :: world.captured }
  | cleared (expected : PersistedRefreshSession)
      (hauthorized : world.state.authorizedPersistedSession = some expected)
      (hstored : world.stored = some expected) :
      Change cause world { world with
        stored := none
        state := invalidateSessionLease { world.state with
          persistedOwnerUserId := none, authorizedPersistedSession := none } }
  | mismatched (owner : String) (hcause : cause = .ownerRefresh owner) (hactive : ¬Blocked world.state)
      (hpublished : world.state.scopePublished = false)
      (hrefreshing : world.state.refreshing = false) :
      Change cause world { world with
        state := { world.state with
          persistedOwnerUserId := world.stored.map (·.ownerUserId)
          ownerUserId := world.stored.map (·.ownerUserId) }
        observed := (world.stored.map
          (Observation.ownerMismatch · world.state.authorizedPersistedSession)).toList ++
            world.observed }
  | ownerBegan (record : PersistedRefreshSession)
      (hcause : cause = .ownerRefresh record.ownerUserId)
      (hactive : ¬Blocked world.state) (hpublished : world.state.scopePublished = false)
      (hstored : world.stored = some record) :
      Change cause world { world with
        state := { world.state with
          persistedOwnerUserId := some record.ownerUserId
          authorizedPersistedSession := some record
          ownerUserId := some record.ownerUserId
          refreshing := true
          lastRefreshResult := none }
        flights := .owner record.ownerUserId world.state.authEpoch record :: world.flights
        captured := record :: world.captured }
  | scopeBegan (scope : SessionScope) (expected : PersistedRefreshSession) (hcause : cause = .none)
      (hmatches : scopeMatches world.state scope = true) (hidle : world.state.refreshing = false)
      (hauthorized : world.state.authorizedPersistedSession = some expected) :
      Change cause world { world with
        state := { world.state with
          accessToken := none
          refreshing := true
          lastRefreshResult := none }
        flights := .scope scope expected :: world.flights }
  | persistBegan (scope : SessionScope) (expected : PersistedRefreshSession)
      (hcause : cause = .persist) (hmatches : scopeMatches world.state scope = true)
      (hauthorized : world.state.authorizedPersistedSession = some expected) :
      Change cause world { world with flights := .scope scope expected :: world.flights }
  | tokenCleared (hcause : cause = .none) :
      Change cause world { world with state := { world.state with accessToken := none } }

section Outcomes

variable {state : SessionState}

theorem checkedAdd1_some {n m : Nat} (h : checkedAdd1 n = some m) : m = n + 1 := by
  unfold checkedAdd1 at h
  split at h
  · exact (Option.some.inj h).symm
  · cases h

theorem nextEpochs_cases (advanceAuth : Bool) (state : SessionState) :
    nextEpochs advanceAuth state = (none, closeExhaustedSession state) ∨
    ∃ refresh, state.epochExhausted = false ∧ nextEpochs advanceAuth state =
      (some (if advanceAuth then state.authEpoch + 1 else state.authEpoch, refresh), state) := by
  unfold nextEpochs
  dsimp only
  split
  · rename_i auth refresh hopen hauth hrefresh
    refine .inr ⟨refresh, hopen, ?_⟩
    cases advanceAuth
    · rw [← Option.some.inj hauth]
      rfl
    · rw [← checkedAdd1_some hauth]
      rfl
  · exact .inl rfl

theorem not_blocked_of_guard (h : ¬(state.authorizedPersistedSession.isNone &&
    state.persistedOwnerUserId.isSome) = true) : ¬Blocked state :=
  fun hblocked => h (by simp [hblocked.authorized, hblocked.observed])

theorem not_blocked_of_authorized {record : PersistedRefreshSession}
    (h : state.authorizedPersistedSession = some record) : ¬Blocked state :=
  fun hblocked => by simp [hblocked.authorized] at h

theorem scopeMatches_iff {scope : SessionScope} :
    scopeMatches state scope = true ↔ state.epochExhausted = false ∧
      state.scopePublished = true ∧ state.authEpoch = scope.authEpoch ∧
      state.ownerUserId = some scope.ownerUserId := by
  simp [scopeMatches, and_assoc]

theorem not_blocked_of_matches {scope : SessionScope} (h : scopeMatches state scope = true) :
    ¬Blocked state := by
  intro hblocked
  have hpublished := (scopeMatches_iff.mp h).2.1
  rw [hblocked.published] at hpublished
  cases hpublished

theorem not_blocked_of_refreshing (h : state.refreshing = true) : ¬Blocked state := by
  intro hblocked
  rw [hblocked.refreshing] at h
  cases h

end Outcomes

section Sections

variable {world : World}

theorem installTokensForUser_change (tokens : TokenSet) (owner : String) (fault : StoreFault) :
    Change (.install tokens owner) world (installTokensForUser tokens owner fault world).2 := by
  unfold installTokensForUser
  dsimp only
  split
  · exact .unchanged (by simp)
  · split
    · exact .unchanged (by simp)
    · rename_i hguard
      obtain h | ⟨refresh, hopen, h⟩ := nextEpochs_cases true world.state
      · rw [h]
        exact .closed
      · rw [h]
        cases fault with
        | some error => exact .unchanged (by simp)
        | none => exact .installed tokens owner refresh rfl hopen (not_blocked_of_guard hguard)

theorem clearLocked_change (fault : StoreFault) :
    Change .none world (clearLocked fault world).2 := by
  unfold clearLocked
  dsimp only
  split
  · exact .unchanged (by simp)
  · cases hauthorized : world.state.authorizedPersistedSession with
    | none => exact .invalidated
    | some expected =>
      cases fault with
      | some error => exact .invalidated
      | none =>
        dsimp only
        unfold writeIfCurrent
        by_cases hstored : world.stored = some expected
        · rw [if_pos hstored]
          exact .cleared expected hauthorized hstored
        · rw [if_neg hstored]
          exact .conflict _ (.inl rfl) (not_blocked_of_authorized hauthorized)

theorem clearScope_change (scope : SessionScope) (fault : StoreFault) :
    Change .none world (clearScope scope fault world).2 := by
  unfold clearScope
  split
  · exact .unchanged (by simp)
  · split
    · exact .unchanged (by simp)
    · exact clearLocked_change fault

theorem clearEpoch_change (authEpoch : Nat) (fault : StoreFault) :
    Change .none world (clearEpoch authEpoch fault world).2 := by
  unfold clearEpoch
  split
  · exact .unchanged (by simp)
  · split
    · exact .unchanged (by simp)
    · exact clearLocked_change fault

theorem beginOwnerRefresh_change (owner : String) (fault : StoreFault) :
    Change (.ownerRefresh owner) world (beginOwnerRefresh owner fault world).2 := by
  unfold beginOwnerRefresh
  dsimp only
  split
  · exact .unchanged (by simp)
  split
  · exact .unchanged (by simp)
  split
  · exact .unchanged (by simp)
  rename_i hguard
  obtain h | ⟨refresh, hopen, h⟩ := nextEpochs_cases true world.state
  · rw [h]
    exact .closed
  · rw [h]
    dsimp only
    split
    · exact .unchanged (by simp)
    · rename_i hidle
      have hactive := not_blocked_of_guard hguard
      have hpublished : world.state.scopePublished = false := by
        cases hp : world.state.scopePublished with
        | false => rfl
        | true => simp [hp] at hidle
      have hrefreshing : world.state.refreshing = false := by
        cases hr : world.state.refreshing with
        | false => rfl
        | true => simp [hr] at hidle
      cases fault with
      | some error => exact .unchanged (by simp)
      | none =>
        have hmismatch : Change (.ownerRefresh owner) world _ :=
        .mismatched owner rfl hactive hpublished hrefreshing
        cases hstored : world.stored with
        | none =>
          rw [hstored] at hmismatch
          exact hmismatch
        | some record =>
          dsimp only
          by_cases howner : record.ownerUserId = owner
          · rw [if_neg (not_not.mpr howner)]
            subst howner
            have hbegan : Change (.ownerRefresh _) world _ :=
              .ownerBegan record rfl hactive hpublished hstored
            rw [hstored] at hbegan
            exact hbegan
          · rw [if_pos howner]
            rw [hstored] at hmismatch
            exact hmismatch

theorem beginScopeRefresh_change (scope : SessionScope) (rejected : Option String)
    (fault : StoreFault) : Change .none world (beginScopeRefresh scope rejected fault world).2 := by
  unfold beginScopeRefresh
  dsimp only
  split
  · exact .unchanged (by simp)
  rename_i hmatches
  have hmatches : scopeMatches world.state scope = true := by simpa using hmatches
  split
  · exact .unchanged (by simp)
  split
  · exact .waits _ rfl
  rename_i hidle
  have hidle : world.state.refreshing = false := by simpa using hidle
  obtain h | ⟨refresh, hopen, h⟩ := nextEpochs_cases false world.state
  · rw [h]
    exact .closed
  · rw [h]
    dsimp only
    cases hauthorized : authorizedFor world.state scope with
    | none => exact .invalidated
    | some expected =>
      dsimp only
      have hauth : world.state.authorizedPersistedSession = some expected :=
        (Option.filter_eq_some_iff.mp hauthorized).1
      cases fault with
      | some error => exact .failed error none (.inr rfl) hidle
      | none =>
        dsimp only
        split
        · exact .conflict none (.inr rfl) (not_blocked_of_authorized hauth)
        · exact .scopeBegan scope expected rfl hmatches hidle hauth

theorem beginPersist_change (scope : SessionScope) :
    Change .persist world (beginPersist scope world) := by
  unfold beginPersist
  split
  · exact .unchanged (by simp)
  · rename_i hmatches
    have hmatches : scopeMatches world.state scope = true := by simpa using hmatches
    cases hauthorized : authorizedFor world.state scope with
    | none => exact .invalidated
    | some expected =>
      exact .persistBegan scope expected rfl hmatches (Option.filter_eq_some_iff.mp hauthorized).1

theorem accessTokenForScope_change (scope : SessionScope) :
    Change .none world (accessTokenForScope scope world).2 := by
  unfold accessTokenForScope
  dsimp only
  split
  · exact .unchanged (by simp)
  · split
    · exact .unchanged (by simp)
    · split
      · exact .unchanged (by simp)
      · exact .waits _ rfl

/-- A failure is recorded with a new refresh counter, or the session closes. -/
theorem recordRefreshFailure_eq (error : ApiError) (state : SessionState) :
    recordRefreshFailure error state = closeExhaustedSession { state with refreshing := false } ∨
    ∃ refresh, recordRefreshFailure error state = { state with
      refreshing := false
      refreshEpoch := refresh
      lastRefreshResult := some (.error error) } := by
  unfold recordRefreshFailure
  obtain h | ⟨refresh, hopen, h⟩ := nextEpochs_cases false { state with refreshing := false }
  · rw [h]
    exact .inl rfl
  · rw [h]
    exact .inr ⟨refresh, rfl⟩

theorem finishOwnerRefresh_change (owner : String) (authEpoch : Nat)
    (expected : PersistedRefreshSession) (answer : Except ApiError TokenSet) (fault : StoreFault) :
    Change (.epilogue (.owner owner authEpoch expected) answer) world
      (finishOwnerRefresh owner authEpoch expected answer fault world).2 := by
  unfold finishOwnerRefresh
  dsimp only
  by_cases hcurrent : (Flight.owner owner authEpoch expected).current world.state = true
  · rw [if_neg (by simp [hcurrent])]
    have hrefreshing : world.state.refreshing = true := by
      simp only [Flight.current, Bool.and_eq_true] at hcurrent
      exact hcurrent.2
    have hactive := not_blocked_of_refreshing hrefreshing
    cases answer with
    | error error =>
      have hfailed : Change (.epilogue (.owner owner authEpoch expected) (.error error)) world _ :=
        .failed error world.state.accessToken (.inl rfl) hcurrent
      unfold recordRefreshFailure at hfailed
      dsimp only
      obtain h | ⟨refresh, hopen, h⟩ := nextEpochs_cases false { world.state with refreshing := false }
      · rw [h]
        rw [h] at hfailed
        exact hfailed
      · rw [h]
        rw [h] at hfailed
        exact hfailed
    | ok tokens =>
      dsimp only
      obtain h | ⟨refresh, hopen, h⟩ := nextEpochs_cases true world.state
      · rw [h]
        exact .closed
      · rw [h]
        cases fault with
        | some error => exact .failed error _ (.inl rfl) hcurrent
        | none =>
          dsimp only
          unfold writeIfCurrent
          by_cases hstored : world.stored = some expected
          · rw [if_pos hstored]
            exact .ownerRefreshed tokens owner authEpoch refresh expected rfl hcurrent hopen hstored
          · rw [if_neg hstored]
            exact .conflict _ (.inl rfl) hactive
  · rw [if_pos (by simpa using hcurrent)]
    refine .unchanged fun f a hcause => ?_
    cases hcause
    simpa using hcurrent

theorem finishRefresh_eq {scope : SessionScope} (error : ApiError)
    (hmatches : scopeMatches world.state scope = true) :
    (finishRefresh scope error world).2 = { world with
      state := recordRefreshFailure error { world.state with accessToken := none } } := by
  unfold finishRefresh recordRefreshFailure nextEpochs
  dsimp only
  rw [if_neg (by simp [hmatches])]
  cases world.state.epochExhausted <;> cases checkedAdd1 world.state.refreshEpoch <;> rfl

theorem finishScopeRefresh_change (scope : SessionScope) (expected : PersistedRefreshSession)
    (answer : Except ApiError TokenSet) (fault : StoreFault) :
    Change (.epilogue (.scope scope expected) answer) world
      (finishScopeRefresh scope expected answer fault world).2 := by
  unfold finishScopeRefresh
  by_cases hmatches : scopeMatches world.state scope = true
  · have hactive := not_blocked_of_matches hmatches
    cases answer with
    | error error =>
      dsimp only
      rw [finishRefresh_eq error hmatches]
      exact .failed error none (.inr rfl) hmatches
    | ok tokens =>
      dsimp only
      unfold persistRefreshedTokensIfCurrent
      dsimp only
      rw [if_neg (by simp [hmatches])]
      obtain h | ⟨refresh, hopen, h⟩ := nextEpochs_cases false world.state
      · rw [h]
        exact .closed
      · rw [h]
        cases fault with
        | some error => exact .failed error _ (.inl rfl) hmatches
        | none =>
          dsimp only
          unfold writeIfCurrent
          by_cases hstored : world.stored = some expected
          · rw [if_pos hstored]
            exact .scopeRefreshed tokens scope refresh expected rfl hmatches hstored
          · rw [if_neg hstored]
            exact .conflict _ (.inl rfl) hactive
  · have hstale : Change (.epilogue (.scope scope expected) answer) world world := by
      refine .unchanged fun f a hcause => ?_
      cases hcause
      simpa [Flight.current] using hmatches
    cases answer with
    | error error =>
      dsimp only
      unfold finishRefresh
      dsimp only
      rw [if_pos (by simpa using hmatches)]
      exact hstale
    | ok tokens =>
      dsimp only
      unfold persistRefreshedTokensIfCurrent
      dsimp only
      rw [if_pos (by simpa using hmatches)]
      exact hstale

/-- A flight that is not current any more is answered without any effect. -/
theorem finishFlight_stale {flight : Flight} (answer : Except ApiError TokenSet)
    (fault : StoreFault) (hstale : flight.current world.state = false) :
    (finishFlight answer fault world flight).2 = world := by
  cases flight with
  | owner user authEpoch expected =>
    dsimp only [finishFlight]
    unfold finishOwnerRefresh
    dsimp only
    rw [if_pos (by simp [hstale])]
  | scope captured expected =>
    have hmatches : scopeMatches world.state captured = false := hstale
    cases answer with
    | error error => simp [finishFlight, finishScopeRefresh, finishRefresh, hmatches]
    | ok tokens =>
      simp [finishFlight, finishScopeRefresh, persistRefreshedTokensIfCurrent, hmatches]

theorem finishFlight_change (flight : Flight) (answer : Except ApiError TokenSet)
    (fault : StoreFault) :
    Change (.epilogue flight answer) world (finishFlight answer fault world flight).2 := by
  cases flight with
  | owner user authEpoch expected => exact finishOwnerRefresh_change user authEpoch expected _ _
  | scope captured expected => exact finishScopeRefresh_change captured expected _ _

end Sections

def Event.cause : Event → Cause
  | .install tokens owner _ => .install tokens owner
  | .beginOwnerRefresh owner _ => .ownerRefresh owner
  | .beginPersist _ => .persist
  | _ => .none

/-- What an event does: a foreign write, the end of a wait, or a critical section. A finished
flight is no longer under way when its epilogue runs. -/
inductive Moved (event : Event) (world : World) : World → Prop
  | foreign (stored : Option PersistedRefreshSession) (hevent : event = .foreign stored) :
      Moved event world { world with stored := stored }
  | woken (waiters : List Waiter) : Moved event world { world with waiters := waiters }
  | direct {next : World} (h : Change event.cause world next) : Moved event world next
  | epilogue (index : Nat) (flight : Flight) (answer : Except ApiError TokenSet)
      (fault : StoreFault) (hevent : event = .finish index answer fault)
      (hflight : world.flights[index]? = some flight) {next : World}
      (h : Change (.epilogue flight answer)
        { world with flights := world.flights.eraseIdx index } next) : Moved event world next

theorem after_moved (event : Event) (world : World) : Moved event world (after event world) := by
  cases event with
  | install tokens owner fault =>
    exact .direct (installTokensForUser_change tokens owner fault)
  | beginOwnerRefresh owner fault => exact .direct (beginOwnerRefresh_change owner fault)
  | beginScopeRefresh scope rejected fault =>
    exact .direct (beginScopeRefresh_change scope rejected fault)
  | beginPersist scope => exact .direct (beginPersist_change scope)
  | finish index answer fault =>
    unfold after step
    dsimp only
    cases hflight : world.flights[index]? with
    | none => exact .woken world.waiters
    | some flight =>
      exact .epilogue index flight answer fault rfl hflight (finishFlight_change flight answer fault)
  | clear fault => exact .direct (clearLocked_change fault)
  | clearScope scope fault => exact .direct (clearScope_change scope fault)
  | clearEpoch epoch fault => exact .direct (clearEpoch_change epoch fault)
  | accessTokenForScope scope => exact .direct (accessTokenForScope_change scope)
  | clearAccessToken => exact .direct (.tokenCleared rfl)
  | wake index =>
    unfold after step
    dsimp only
    cases world.waiters[index]? with
    | none => exact .woken world.waiters
    | some waiter =>
      dsimp only
      split
      · exact .woken world.waiters
      · exact .woken (world.waiters.eraseIdx index)
  | foreign stored => exact .foreign stored rfl

end ArtForgeStudio.Session
