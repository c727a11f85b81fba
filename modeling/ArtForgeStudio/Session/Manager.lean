import ArtForgeStudio.Api.Requests

/-! # The session manager

One mutex guards the session state. A refresh takes it twice: a prologue captures the record
to refresh with, the network call runs without the lock, and an epilogue uses the answer if
the session is still the captured one. The functions below are the critical sections; what
the store and the network answer is an argument.
-/

namespace ArtForgeStudio.Session

open ArtForgeStudio.Api

structure PersistedRefreshSession where
  ownerUserId : String
  refreshToken : String
  deriving DecidableEq

structure TokenSet where
  accessToken : String
  refreshToken : String
  deriving DecidableEq

structure SessionState where
  startupReadFailure : Option ApiError := none
  accessToken : Option String := none
  ownerUserId : Option String := none
  persistedOwnerUserId : Option String := none
  /-- Only records captured by startup, install, or an owner-confirmed refresh grant
  mutation authority. -/
  authorizedPersistedSession : Option PersistedRefreshSession := none
  scopePublished : Bool := false
  epochExhausted : Bool := false
  authEpoch : Nat := 0
  refreshing : Bool := false
  refreshEpoch : Nat := 0
  lastRefreshResult : Option (Except ApiError String) := none

/-- `u64::checked_add(1)` -/
def checkedAdd1 (n : Nat) : Option Nat := if n + 1 < 0x10000000000000000 then some (n + 1) else none

def closeExhaustedSession (state : SessionState) : SessionState :=
  { state with
    epochExhausted := true
    accessToken := none
    ownerUserId := none
    scopePublished := false
    refreshing := false
    lastRefreshResult := some (.error .authenticationRequired) }

def nextEpochs (advanceAuth : Bool) (state : SessionState) : Option (Nat × Nat) × SessionState :=
  let auth := if advanceAuth then checkedAdd1 state.authEpoch else some state.authEpoch
  match state.epochExhausted, auth, checkedAdd1 state.refreshEpoch with
  | false, some auth, some refresh => (some (auth, refresh), state)
  | _, _, _ => (none, closeExhaustedSession state)

def invalidateSessionLease (state : SessionState) : SessionState :=
  match state.epochExhausted, checkedAdd1 state.authEpoch, checkedAdd1 state.refreshEpoch with
  | false, some auth, some refresh =>
    { state with
      authEpoch := auth
      accessToken := none
      ownerUserId := none
      scopePublished := false
      refreshing := false
      refreshEpoch := refresh
      lastRefreshResult := none }
  | _, _, _ => closeExhaustedSession state

def scopeMatches (state : SessionState) (scope : SessionScope) : Bool :=
  !state.epochExhausted && state.scopePublished && state.authEpoch == scope.authEpoch &&
    state.ownerUserId == some scope.ownerUserId

def clearedLeaseMatchesEpoch (state : SessionState) (clearedAuthEpoch : Nat) : Bool :=
  !state.epochExhausted && some state.authEpoch == checkedAdd1 clearedAuthEpoch &&
    state.accessToken.isNone && state.ownerUserId.isNone && !state.scopePublished

def recordRefreshFailure (error : ApiError) (state : SessionState) : SessionState :=
  match nextEpochs false { state with refreshing := false } with
  | (none, closed) => closed
  | (some (_, refresh), state) =>
    { state with refreshEpoch := refresh, lastRefreshResult := some (.error error) }

def recordStoreConflict (current : Option PersistedRefreshSession) (state : SessionState) :
    SessionState :=
  let state := { state with
    persistedOwnerUserId := current.map (·.ownerUserId)
    authorizedPersistedSession := none }
  if state.scopePublished then invalidateSessionLease state else
  recordRefreshFailure .authenticationRequired
    { state with ownerUserId := state.persistedOwnerUserId }

/-- A published lease with its first or a refreshed token. -/
def publishTokens (owner : String) (auth refresh : Nat) (accessToken : String)
    (state : SessionState) : SessionState :=
  { state with
    authEpoch := auth
    accessToken := some accessToken
    ownerUserId := some owner
    scopePublished := true
    refreshing := false
    refreshEpoch := refresh
    lastRefreshResult := some (.ok accessToken) }

/-- A call of the store either fails without effect or does its work. -/
abbrev StoreFault := Option ApiError

inductive StoreMutation where
  | applied
  | conflict (current : Option PersistedRefreshSession)

/-- `replace_if_current` and `clear_if_current`: write `next` over the expected record. -/
def writeIfCurrent (expected : PersistedRefreshSession) (next stored : Option PersistedRefreshSession) :
    StoreMutation × Option PersistedRefreshSession :=
  if stored = some expected then (.applied, next) else (.conflict stored, stored)

/-- A refresh between its prologue and its epilogue, with what the prologue captured. -/
inductive Flight where
  | owner (ownerUserId : String) (authEpoch : Nat) (expected : PersistedRefreshSession)
  | scope (scope : SessionScope) (expected : PersistedRefreshSession)
  deriving DecidableEq

/-- A thread that waits for the end of a refresh, for the token of its scope. -/
structure Waiter where
  scope : SessionScope
  observedRefreshEpoch : Nat
  /-- `access_token_for_scope` looks at the token first, `refresh_scope` does not. -/
  wantsToken : Bool

/-- What an operation saw in the store beside the record it is authorized for. -/
inductive Observation where
  | conflict (record : PersistedRefreshSession)
  | ownerMismatch (record : PersistedRefreshSession) (authorized : Option PersistedRefreshSession)
  deriving DecidableEq

/-- The session with its store, the refreshes and waits under way, and three histories that
no operation reads: the tokens obtained with the scope they were obtained under, the records
the manager captured or wrote, and the foreign records it saw. -/
structure World where
  state : SessionState
  stored : Option PersistedRefreshSession
  flights : List Flight := []
  waiters : List Waiter := []
  obtained : List (SessionScope × String) := []
  captured : List PersistedRefreshSession := []
  observed : List Observation := []

def World.new (stored : Option PersistedRefreshSession) (loadFault : StoreFault) : World :=
  let record := if loadFault.isNone then stored else none
  { state := {
      startupReadFailure := loadFault
      authorizedPersistedSession := record
      persistedOwnerUserId := record.map (·.ownerUserId)
      ownerUserId := record.map (·.ownerUserId) }
    stored := stored
    captured := record.toList }

/-- The epilogue's check of `refresh_persisted_owner` and of `refresh_scope`. -/
def Flight.current (state : SessionState) : Flight → Bool
  | .owner user authEpoch _ => state.authEpoch == authEpoch && state.ownerUserId == some user &&
      !state.scopePublished && state.refreshing
  | .scope captured _ => scopeMatches state captured

def installTokensForUser (tokens : TokenSet) (owner : String) (saveFault : StoreFault)
    (world : World) : Except ApiError SessionScope × World :=
  let state := world.state
  match state.startupReadFailure with
  | some error => (.error error, world)
  | none =>
    if state.authorizedPersistedSession.isNone && state.persistedOwnerUserId.isSome then
      (.error .authenticationRequired, world)
    else match nextEpochs true state with
    | (none, closed) => (.error .authenticationRequired, { world with state := closed })
    | (some (nextAuth, nextRefresh), state) =>
      match saveFault with
      | some error => (.error error, { world with state := state })
      | none =>
        let record := ⟨owner, tokens.refreshToken⟩
        let scope := ⟨owner, nextAuth⟩
        (.ok scope, { world with
          state := publishTokens owner nextAuth nextRefresh tokens.accessToken { state with
            persistedOwnerUserId := some owner
            authorizedPersistedSession := some record }
          stored := some record
          obtained := (scope, tokens.accessToken) :: world.obtained
          captured := record :: world.captured })

/-- The store answered with a conflict: the foreign record is only observed. -/
def World.conflict (current : Option PersistedRefreshSession) (world : World) : World :=
  { world with
    state := recordStoreConflict current world.state
    observed := (current.map Observation.conflict).toList ++ world.observed }

def clearLocked (clearFault : StoreFault) (world : World) : Except ApiError Unit × World :=
  let state := world.state
  match state.startupReadFailure with
  | some error => (.error error, world)
  | none =>
    match state.authorizedPersistedSession with
    | none =>
      -- A previously observed replacement is not an authorized empty slot.
      (if state.persistedOwnerUserId.isSome then .error .authenticationRequired else .ok (),
        { world with state := invalidateSessionLease state })
    | some expected =>
      match clearFault with
      | some error => (.error error, { world with state := invalidateSessionLease state })
      | none =>
        match writeIfCurrent expected none world.stored with
        | (.applied, stored) => (.ok (), { world with
            stored := stored
            state := invalidateSessionLease { state with
              persistedOwnerUserId := none, authorizedPersistedSession := none } })
        | (.conflict current, _) => (.error .authenticationRequired, world.conflict current)

def clearScope (scope : SessionScope) (clearFault : StoreFault) (world : World) :
    Except ApiError Unit × World :=
  if clearedLeaseMatchesEpoch world.state scope.authEpoch then (.ok (), world)
  else if !scopeMatches world.state scope then (.error .authenticationRequired, world)
  else clearLocked clearFault world

def clearEpoch (authEpoch : Nat) (clearFault : StoreFault) (world : World) :
    Except ApiError Unit × World :=
  if clearedLeaseMatchesEpoch world.state authEpoch then (.ok (), world)
  else if world.state.authEpoch ≠ authEpoch then (.error .authenticationRequired, world)
  else clearLocked clearFault world

/-- The prologue: only an unpublished session may adopt the stored record of its owner. -/
def beginOwnerRefresh (owner : String) (loadFault : StoreFault) (world : World) :
    Except ApiError Unit × World :=
  let state := world.state
  if !canonicalUuid owner then (.error .authenticationRequired, world) else
  match state.startupReadFailure with
  | some error => (.error error, world)
  | none =>
    if state.authorizedPersistedSession.isNone && state.persistedOwnerUserId.isSome then
      (.error .authenticationRequired, world)
    else match nextEpochs true state with
    | (none, closed) => (.error .authenticationRequired, { world with state := closed })
    | (some _, state) =>
      if state.scopePublished || state.accessToken.isSome || state.refreshing then
        (.error .authenticationRequired, world)
      else match loadFault with
      | some error => (.error error, world)
      | none =>
        let persisted := world.stored.map (·.ownerUserId)
        let mismatch : World := { world with
          state := { state with persistedOwnerUserId := persisted, ownerUserId := persisted }
          observed := (world.stored.map
            (Observation.ownerMismatch · state.authorizedPersistedSession)).toList ++
              world.observed }
        match world.stored with
        | none => (.error .authenticationRequired, mismatch)
        | some record =>
          if record.ownerUserId ≠ owner then (.error .authenticationRequired, mismatch)
          else (.ok (), { world with
            state := { state with
              persistedOwnerUserId := persisted
              authorizedPersistedSession := some record
              ownerUserId := some owner
              refreshing := true
              lastRefreshResult := none }
            flights := .owner owner state.authEpoch record :: world.flights
            captured := record :: world.captured })

/-- The epilogue of `refresh_persisted_owner`. -/
def finishOwnerRefresh (owner : String) (authEpoch : Nat) (expected : PersistedRefreshSession)
    (answer : Except ApiError TokenSet) (replaceFault : StoreFault) (world : World) :
    Except ApiError SessionScope × World :=
  let state := world.state
  if !(Flight.owner owner authEpoch expected).current state then
    (.error .authenticationRequired, world)
  else match answer with
  | .error error =>
    match nextEpochs false { state with refreshing := false } with
    | (none, closed) => (.error .authenticationRequired, { world with state := closed })
    | (some (_, refresh), state) => (.error error, { world with
        state := { state with refreshEpoch := refresh, lastRefreshResult := some (.error error) } })
  | .ok tokens =>
    match nextEpochs true state with
    | (none, closed) => (.error .authenticationRequired, { world with state := closed })
    | (some (nextAuth, nextRefresh), state) =>
      let replacement := ⟨owner, tokens.refreshToken⟩
      match replaceFault with
      | some error => (.error error, { world with state := recordRefreshFailure error state })
      | none =>
        match writeIfCurrent expected (some replacement) world.stored with
        | (.conflict current, _) => (.error .authenticationRequired, world.conflict current)
        | (.applied, stored) =>
          let scope := ⟨owner, nextAuth⟩
          (.ok scope, { world with
            state := publishTokens owner nextAuth nextRefresh tokens.accessToken { state with
              persistedOwnerUserId := some owner
              authorizedPersistedSession := some replacement }
            stored := stored
            obtained := (scope, tokens.accessToken) :: world.obtained
            captured := replacement :: world.captured })

inductive RefreshStart where
  | done (result : Except ApiError String)
  | waiting
  | started
  deriving DecidableEq

/-- The record that `refresh_scope` may refresh with; without it the lease is invalid. -/
def authorizedFor (state : SessionState) (scope : SessionScope) : Option PersistedRefreshSession :=
  state.authorizedPersistedSession.filter (·.ownerUserId = scope.ownerUserId)

/-- A token newer than the rejected one is the answer already. -/
def newerToken (state : SessionState) (rejected : Option String) : Option String :=
  rejected.bind fun rejected => state.accessToken.filter (· ≠ rejected)

/-- The prologue of `refresh_scope`; `refresh` and `refresh_epoch` read their scope before it. -/
def beginScopeRefresh (scope : SessionScope) (rejected : Option String) (loadFault : StoreFault)
    (world : World) : RefreshStart × World :=
  let state := world.state
  if !scopeMatches state scope then (.done (.error .authenticationRequired), world) else
  match newerToken state rejected with
  | some current => (.done (.ok current), world)
  | none =>
    if state.refreshing then
      (.waiting, { world with waiters := ⟨scope, state.refreshEpoch, false⟩ :: world.waiters })
    else match nextEpochs false state with
    | (none, closed) => (.done (.error .authenticationRequired), { world with state := closed })
    | (some _, state) =>
      match authorizedFor state scope with
      | none => (.done (.error .authenticationRequired),
          { world with state := invalidateSessionLease state })
      | some expected =>
        let state := { state with accessToken := none }
        match loadFault with
        | some error => (.done (.error error),
            { world with state := recordRefreshFailure error state })
        | none =>
          if world.stored ≠ some expected then
            (.done (.error .authenticationRequired),
              ({ world with state := state } : World).conflict world.stored)
          else (.started, { world with
            state := { state with refreshing := true, lastRefreshResult := none }
            flights := .scope scope expected :: world.flights })

def persistRefreshedTokensIfCurrent (scope : SessionScope) (expected : PersistedRefreshSession)
    (tokens : TokenSet) (replaceFault : StoreFault) (world : World) :
    Except ApiError String × World :=
  let state := world.state
  if !scopeMatches state scope then (.error .authenticationRequired, world) else
  match nextEpochs false state with
  | (none, closed) => (.error .authenticationRequired, { world with state := closed })
  | (some (_, nextRefresh), state) =>
    let replacement := ⟨scope.ownerUserId, tokens.refreshToken⟩
    match replaceFault with
    | some error => (.error error, { world with state := recordRefreshFailure error state })
    | none =>
      match writeIfCurrent expected (some replacement) world.stored with
      | (.conflict current, _) => (.error .authenticationRequired, world.conflict current)
      | (.applied, stored) => (.ok tokens.accessToken, { world with
          state := { state with
            persistedOwnerUserId := some scope.ownerUserId
            authorizedPersistedSession := some replacement
            refreshing := false
            refreshEpoch := nextRefresh
            accessToken := some tokens.accessToken
            lastRefreshResult := some (.ok tokens.accessToken) }
          stored := stored
          obtained := (scope, tokens.accessToken) :: world.obtained
          captured := replacement :: world.captured })

/-- `finish_refresh` with the error of the network call. -/
def finishRefresh (scope : SessionScope) (error : ApiError) (world : World) :
    Except ApiError String × World :=
  let state := world.state
  if !scopeMatches state scope then (.error .authenticationRequired, world) else
  match nextEpochs false { state with refreshing := false } with
  | (none, closed) => (.error .authenticationRequired, { world with state := closed })
  | (some (_, refresh), state) => (.error error, { world with
      state := { state with
        refreshEpoch := refresh
        accessToken := none
        lastRefreshResult := some (.error error) } })

/-- The epilogue of `refresh_scope`. -/
def finishScopeRefresh (scope : SessionScope) (expected : PersistedRefreshSession)
    (answer : Except ApiError TokenSet) (replaceFault : StoreFault) (world : World) :
    Except ApiError String × World :=
  match answer with
  | .ok tokens => persistRefreshedTokensIfCurrent scope expected tokens replaceFault world
  | .error error => finishRefresh scope error world

def lastResult (state : SessionState) : Except ApiError String :=
  state.lastRefreshResult.getD (.error .authenticationRequired)

def accessTokenForScope (scope : SessionScope) (world : World) : RefreshStart × World :=
  let state := world.state
  if !scopeMatches state scope then (.done (.error .authenticationRequired), world) else
  match state.accessToken with
  | some token => (.done (.ok token), world)
  | none =>
    if !state.refreshing then (.done (.error .authenticationRequired), world)
    else (.waiting, { world with waiters := ⟨scope, state.refreshEpoch, true⟩ :: world.waiters })

/-- The condition under which a woken thread waits again. -/
def Waiter.waits (waiter : Waiter) (state : SessionState) : Bool :=
  state.refreshing && state.refreshEpoch == waiter.observedRefreshEpoch &&
    scopeMatches state waiter.scope

/-- What a woken thread returns when it no longer waits. -/
def Waiter.result (waiter : Waiter) (state : SessionState) : Except ApiError String :=
  if !scopeMatches state waiter.scope then .error .authenticationRequired else
  match waiter.wantsToken, state.accessToken with
  | true, some token => .ok token
  | _, _ => lastResult state

end ArtForgeStudio.Session
