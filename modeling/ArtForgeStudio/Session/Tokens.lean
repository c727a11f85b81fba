import ArtForgeStudio.Session.Leases
import Mathlib.Data.List.Perm.Basic

/-! # Tokens stay with their account

Every token the session holds was obtained for the published scope; every refresh that may
still write belongs to the lease it began under.
-/

namespace ArtForgeStudio.Session

open ArtForgeStudio.Api ArtForgeStudio.Runs

/-- Every token that a matching scope can read was obtained under that scope. -/
def TokensObtained (world : World) : Prop :=
  ∀ scope token, scopeMatches world.state scope = true →
    world.state.accessToken = some token ∨ world.state.lastRefreshResult = some (.ok token) →
    (scope, token) ∈ world.obtained

section Held

variable {world next : World} {cause : Cause} {event : Event}

theorem scopeMatches_unpublished {state : SessionState} (h : state.scopePublished = false)
    (scope : SessionScope) : scopeMatches state scope = false := by
  simp [scopeMatches, h]

theorem tokensObtained_of_unpublished (h : next.state.scopePublished = false) :
    TokensObtained next := by
  intro scope token hmatches
  rw [scopeMatches_unpublished h] at hmatches
  cases hmatches

/-- The only scope that matches a state with a published owner and counter. -/
theorem scopeMatches_eq {state : SessionState} {scope : SessionScope} {owner : String} {epoch : Nat}
    (howner : state.ownerUserId = some owner) (hepoch : state.authEpoch = epoch)
    (h : scopeMatches state scope = true) : scope = ⟨owner, epoch⟩ := by
  obtain ⟨-, -, h1, h2⟩ := scopeMatches_iff.mp h
  rw [howner] at h2
  rw [hepoch] at h1
  cases scope
  cases Option.some.inj h2
  cases h1
  rfl

theorem Change.tokensObtained (h : Change cause world next) (hworld : TokensObtained world) :
    TokensObtained next := by
  cases h with
  | unchanged | waits | persistBegan => exact hworld
  | closed => exact tokensObtained_of_unpublished rfl
  | invalidated => exact tokensObtained_of_unpublished (unpublished_invalidate _).1
  | cleared => exact tokensObtained_of_unpublished (unpublished_invalidate _).1
  | conflict => exact tokensObtained_of_unpublished (unpublished_conflict _ _).1
  | mismatched owner hcause hactive hpublished => exact tokensObtained_of_unpublished hpublished
  | ownerBegan record hcause hactive hpublished => exact tokensObtained_of_unpublished hpublished
  | failed error token htoken =>
    obtain h | ⟨refresh, h⟩ :=
      recordRefreshFailure_eq error { world.state with accessToken := token }
    · rw [h]
      exact tokensObtained_of_unpublished rfl
    · rw [h]
      intro scope t hmatches hheld
      obtain hheld | hheld := hheld
      · obtain htoken | htoken := htoken
        · exact hworld scope t hmatches (.inl (htoken ▸ hheld))
        · rw [htoken] at hheld
          cases hheld
      · cases hheld
  | installed tokens owner | ownerRefreshed tokens owner =>
    intro scope t hmatches hheld
    cases scopeMatches_eq rfl rfl hmatches
    obtain hheld | hheld := hheld <;> cases hheld <;> exact List.mem_cons_self
  | scopeRefreshed tokens scope' refresh expected hcause hscope =>
    intro scope t hmatches hheld
    obtain ⟨-, -, hepoch, howner⟩ := scopeMatches_iff.mp hscope
    cases scopeMatches_eq howner hepoch hmatches
    obtain hheld | hheld := hheld <;> cases hheld <;> exact List.mem_cons_self
  | scopeBegan scope' =>
    intro scope t hmatches hheld
    obtain hheld | hheld := hheld <;> cases hheld
  | tokenCleared =>
    intro scope t hmatches hheld
    obtain hheld | hheld := hheld
    · cases hheld
    · exact hworld scope t hmatches (.inr hheld)

theorem Moved.tokensObtained (h : Moved event world next) (hworld : TokensObtained world) :
    TokensObtained next := by
  cases h with
  | foreign | woken => exact hworld
  | direct h => exact h.tokensObtained hworld
  | epilogue _ _ _ _ _ _ h => exact h.tokensObtained hworld

theorem tokensObtained_run (events : List Event) (hworld : TokensObtained world) :
    TokensObtained (runEvents events world) := by
  induction events generalizing world with
  | nil => exact hworld
  | cons event events ih => exact ih ((after_moved event world).tokensObtained hworld)

end Held

section Returned

variable {world : World} {scope : SessionScope} {token : String}

theorem beginScopeRefresh_returned {rejected : Option String} {fault : StoreFault}
    (hworld : TokensObtained world)
    (h : (beginScopeRefresh scope rejected fault world).1 = .done (.ok token)) :
    (scope, token) ∈ (beginScopeRefresh scope rejected fault world).2.obtained := by
  unfold beginScopeRefresh at h ⊢
  dsimp only at h ⊢
  split at h
  · cases h
  rename_i hmatches
  have hmatches : scopeMatches world.state scope = true := by simpa using hmatches
  rw [if_neg (by simp [hmatches])]
  cases hnewer : newerToken world.state rejected with
  | some current =>
    rw [hnewer] at h
    cases h
    unfold newerToken at hnewer
    obtain ⟨old, -, hold⟩ := Option.bind_eq_some_iff.mp hnewer
    exact hworld scope token hmatches (.inl (Option.filter_eq_some_iff.mp hold).1)
  | none =>
    -- every other way to end at once ends with an error
    rw [hnewer] at h
    dsimp only at h
    split at h
    · cases h
    obtain hepochs | ⟨refresh, hopen, hepochs⟩ := nextEpochs_cases false world.state
    · rw [hepochs] at h
      cases h
    · rw [hepochs] at h
      dsimp only at h
      split at h
      · cases h
      · cases fault with
        | some error => cases h
        | none =>
          dsimp only at h
          split at h <;> cases h

theorem accessTokenForScope_returned (hworld : TokensObtained world)
    (h : (accessTokenForScope scope world).1 = .done (.ok token)) :
    (scope, token) ∈ (accessTokenForScope scope world).2.obtained := by
  unfold accessTokenForScope at h ⊢
  dsimp only at h ⊢
  split at h
  · cases h
  rename_i hmatches
  have hmatches : scopeMatches world.state scope = true := by simpa using hmatches
  rw [if_neg (by simp [hmatches])]
  cases htoken : world.state.accessToken with
  | some held =>
    rw [htoken] at h
    cases h
    exact hworld scope token hmatches (.inl htoken)
  | none =>
    rw [htoken] at h
    dsimp only at h
    split at h <;> cases h

theorem finishScopeRefresh_returned {expected : PersistedRefreshSession}
    {answer : Except ApiError TokenSet} {fault : StoreFault}
    (h : (finishScopeRefresh scope expected answer fault world).1 = .ok token) :
    (scope, token) ∈ (finishScopeRefresh scope expected answer fault world).2.obtained := by
  cases answer with
  | error error =>
    simp only [finishScopeRefresh, finishRefresh] at h
    split at h
    · cases h
    · split at h <;> cases h
  | ok tokens =>
    simp only [finishScopeRefresh, persistRefreshedTokensIfCurrent] at h ⊢
    split at h
    · cases h
    rename_i hmatches
    rw [if_neg hmatches]
    obtain hepochs | ⟨refresh, hopen, hepochs⟩ := nextEpochs_cases false world.state
    · rw [hepochs] at h
      cases h
    · rw [hepochs] at h ⊢
      cases fault with
      | some error => cases h
      | none =>
        dsimp only at h ⊢
        unfold writeIfCurrent at h ⊢
        by_cases hstored : world.stored = some expected
        · rw [if_pos hstored] at h ⊢
          cases h
          exact List.mem_cons_self
        · rw [if_neg hstored] at h
          cases h

theorem Waiter.result_returned {waiter : Waiter} (hworld : TokensObtained world)
    (h : waiter.result world.state = .ok token) : (waiter.scope, token) ∈ world.obtained := by
  unfold Waiter.result at h
  split at h
  · cases h
  rename_i hmatches
  have hmatches : scopeMatches world.state waiter.scope = true := by simpa using hmatches
  have hlast : lastResult world.state = .ok token → (waiter.scope, token) ∈ world.obtained := by
    intro hlast
    refine hworld _ _ hmatches (.inr ?_)
    unfold lastResult at hlast
    cases hresult : world.state.lastRefreshResult with
    | none =>
      rw [hresult] at hlast
      cases hlast
    | some result =>
      rw [hresult] at hlast
      rw [show result = .ok token from hlast]
  split at h
  · rename_i hheld
    cases h
    exact hworld _ _ hmatches (.inl hheld)
  · exact hlast h

/-- A token that an event returns for a scope was obtained under that scope. -/
theorem step_returned {event : Event} (hworld : TokensObtained world)
    (h : (step event world).1 = some (scope, .ok token)) :
    (scope, token) ∈ (after event world).obtained := by
  have hstart {start : RefreshStart} {captured : SessionScope}
      (h : start.returned captured = some (scope, .ok token)) :
      captured = scope ∧ start = .done (.ok token) := by
    cases start with
    | done result =>
      cases h
      exact ⟨rfl, rfl⟩
    | waiting | started => cases h
  cases event with
  | install | beginOwnerRefresh | beginPersist | clear | clearScope | clearEpoch | clearAccessToken
  | foreign => cases h
  | beginScopeRefresh captured rejected fault =>
    obtain ⟨rfl, hdone⟩ := hstart h
    exact beginScopeRefresh_returned hworld hdone
  | accessTokenForScope captured =>
    obtain ⟨rfl, hdone⟩ := hstart h
    exact accessTokenForScope_returned hworld hdone
  | finish index answer fault =>
    unfold after
    unfold step at h ⊢
    dsimp only at h ⊢
    cases hflight : world.flights[index]? with
    | none =>
      rw [hflight] at h
      cases h
    | some flight =>
      rw [hflight] at h
      cases flight with
      | owner user epoch expected => cases h
      | scope captured expected =>
        obtain ⟨rfl, hresult⟩ := Prod.mk.inj (Option.some.inj h)
        exact finishScopeRefresh_returned hresult
  | wake index =>
    unfold after
    unfold step at h ⊢
    dsimp only at h ⊢
    cases hwaiter : world.waiters[index]? with
    | none =>
      rw [hwaiter] at h
      cases h
    | some waiter =>
      rw [hwaiter] at h
      dsimp only at h ⊢
      by_cases hwaits : waiter.waits world.state = true
      · rw [if_pos hwaits] at h
        cases h
      · rw [if_neg hwaits] at h ⊢
        obtain ⟨rfl, hresult⟩ := Prod.mk.inj (Option.some.inj h)
        exact Waiter.result_returned hworld hresult

end Returned

def Flight.ownerUserId : Flight → String
  | .owner user _ _ => user
  | .scope captured _ => captured.ownerUserId

/-- The event is an install or the answer of a refresh that brings this token for the owner of
this scope, and publishes it under this scope. -/
def Supplies (event : Event) (world : World) (scope : SessionScope) (token : String) : Prop :=
  scopeMatches (after event world).state scope = true ∧
  match event with
  | .install tokens owner _ => owner = scope.ownerUserId ∧ tokens.accessToken = token
  | .finish index (.ok tokens) _ =>
    (world.flights[index]?).map Flight.ownerUserId = some scope.ownerUserId ∧
      tokens.accessToken = token
  | _ => False

section Source

variable {event : Event} {world next : World} {scope : SessionScope} {token : String}

/-- The entry that a critical section adds to the tokens obtained. -/
theorem Change.obtained {cause : Cause} (h : Change cause world next) :
    next.obtained = world.obtained ∨
    ∃ scope tokens, next.obtained = (scope, tokens.accessToken) :: world.obtained ∧
      scopeMatches next.state scope = true ∧
      (cause = .install tokens scope.ownerUserId ∨ ∃ flight,
        cause = .epilogue flight (.ok tokens) ∧ flight.ownerUserId = scope.ownerUserId) := by
  cases h with
  | unchanged | waits | closed | invalidated | failed | conflict | cleared | mismatched | ownerBegan
  | scopeBegan | persistBegan | tokenCleared => exact .inl rfl
  | installed tokens owner refresh hcause hopen =>
    refine .inr ⟨⟨owner, world.state.authEpoch + 1⟩, tokens, rfl, ?_, .inl hcause⟩
    rw [scopeMatches_iff]
    exact ⟨hopen, rfl, rfl, rfl⟩
  | ownerRefreshed tokens owner epoch refresh expected hcause hcurrent hopen =>
    refine .inr ⟨⟨owner, world.state.authEpoch + 1⟩, tokens, rfl, ?_, .inr ⟨_, hcause, rfl⟩⟩
    rw [scopeMatches_iff]
    exact ⟨hopen, rfl, rfl, rfl⟩
  | scopeRefreshed tokens scope refresh expected hcause hmatches =>
    exact .inr ⟨scope, tokens, rfl, hmatches, .inr ⟨_, hcause, rfl⟩⟩

theorem Moved.supplies (h : Moved event world next) (hnext : next = after event world)
    (hnew : (scope, token) ∈ next.obtained) :
    (scope, token) ∈ world.obtained ∨ Supplies event world scope token := by
  cases h with
  | foreign | woken => exact .inl hnew
  | direct h =>
    obtain hsame | ⟨source, tokens, hobtained, hmatches, hcause⟩ := h.obtained
    · exact .inl (hsame ▸ hnew)
    · rw [hobtained] at hnew
      obtain hnew | hnew := List.mem_cons.mp hnew
      · obtain ⟨rfl, rfl⟩ := Prod.mk.inj hnew
        refine .inr ⟨hnext ▸ hmatches, ?_⟩
        obtain hcause | ⟨flight, hcause, -⟩ := hcause
        · cases event <;> cases hcause
          exact ⟨rfl, rfl⟩
        · cases event <;> cases hcause
      · exact .inl hnew
  | epilogue index flight answer fault hevent hflight h =>
    obtain hsame | ⟨source, tokens, hobtained, hmatches, hcause⟩ := h.obtained
    · exact .inl (hsame ▸ hnew)
    · rw [hobtained] at hnew
      obtain hnew | hnew := List.mem_cons.mp hnew
      · obtain ⟨rfl, rfl⟩ := Prod.mk.inj hnew
        refine .inr ⟨hnext ▸ hmatches, ?_⟩
        obtain hcause | ⟨source', hcause, howner⟩ := hcause
        · cases hcause
        · cases hcause
          subst hevent
          exact ⟨by rw [hflight, Option.map_some, howner], rfl⟩
      · exact .inl hnew

/-- Every token obtained in a run was supplied by an event of the run. -/
theorem obtained_supplied (events : List Event)
    (h : (scope, token) ∈ (runEvents events world).obtained) :
    (scope, token) ∈ world.obtained ∨ ∃ earlier source later,
      events = earlier ++ source :: later ∧ Supplies source (runEvents earlier world) scope token := by
  induction events generalizing world with
  | nil => exact .inl h
  | cons event events ih =>
    obtain hobtained | ⟨earlier, source, later, rfl, hsource⟩ := ih h
    · obtain hold | hsupplies := (after_moved event world).supplies rfl hobtained
      · exact .inl hold
      · exact .inr ⟨[], event, events, rfl, hsupplies⟩
    · exact .inr ⟨event :: earlier, source, later, rfl, hsource⟩

end Source

section UnderWay

variable {world next : World} {cause : Cause} {event : Event}

/-- A session is marked as refreshing only while a refresh is under way whose answer ends it. -/
def RefreshUnderWay (world : World) : Prop :=
  world.state.refreshing = true → ∃ flight ∈ world.flights, flight.current world.state = true

theorem refreshUnderWay_of_idle (h : next.state.refreshing = false) : RefreshUnderWay next := by
  intro hrefreshing
  rw [h] at hrefreshing
  cases hrefreshing

/-- The epilogue of a current flight ends the refresh. -/
theorem Change.ends {flight : Flight} {answer : Except ApiError TokenSet}
    (h : Change (.epilogue flight answer) world next) (hcurrent : flight.current world.state = true) :
    next.state.refreshing = false := by
  cases h with
  | unchanged hstale =>
    rw [hstale flight answer rfl] at hcurrent
    cases hcurrent
  | waits _ hcause | installed _ _ _ hcause | mismatched _ hcause | ownerBegan _ hcause
  | scopeBegan _ _ hcause | persistBegan _ _ hcause | tokenCleared hcause => cases hcause
  | closed | ownerRefreshed | scopeRefreshed => rfl
  | invalidated | cleared => exact (unpublished_invalidate _).2
  | failed => exact not_refreshing_failure _ _
  | conflict => exact (unpublished_conflict _ _).2

theorem Change.refreshUnderWay (h : Change cause world next)
    (hworld : RefreshUnderWay world) : RefreshUnderWay next := by
  cases h with
  | unchanged | waits | tokenCleared => exact hworld
  | closed | installed | ownerRefreshed | scopeRefreshed => exact refreshUnderWay_of_idle rfl
  | invalidated | cleared => exact refreshUnderWay_of_idle (unpublished_invalidate _).2
  | failed => exact refreshUnderWay_of_idle (not_refreshing_failure _ _)
  | conflict => exact refreshUnderWay_of_idle (unpublished_conflict _ _).2
  | mismatched owner hcause hactive hpublished hidle => exact refreshUnderWay_of_idle hidle
  | ownerBegan record hcause hactive hpublished =>
    exact fun _ => ⟨_, List.mem_cons_self, by simp [Flight.current, hpublished]⟩
  | scopeBegan scope expected hcause hmatches =>
    exact fun _ => ⟨_, List.mem_cons_self, hmatches⟩
  | persistBegan scope expected hcause hmatches =>
    exact fun _ => ⟨_, List.mem_cons_self, hmatches⟩

theorem Moved.refreshUnderWay (h : Moved event world next) (hworld : RefreshUnderWay world) :
    RefreshUnderWay next := by
  cases h with
  | foreign | woken => exact hworld
  | direct h => exact h.refreshUnderWay hworld
  | epilogue index flight answer fault hevent hflight h =>
    by_cases hcurrent : flight.current world.state = true
    · exact refreshUnderWay_of_idle (h.ends hcurrent)
    · -- the flight that keeps the session refreshing is another one
      refine h.refreshUnderWay fun hrefreshing => ?_
      obtain ⟨other, hother, hothercurrent⟩ := hworld hrefreshing
      refine ⟨other, ?_, hothercurrent⟩
      obtain ⟨position, hposition⟩ := List.mem_iff_getElem?.mp hother
      refine List.mem_eraseIdx_iff_getElem?.mpr ⟨position, ?_, hposition⟩
      rintro rfl
      rw [hflight] at hposition
      cases hposition
      exact hcurrent hothercurrent

theorem refreshUnderWay_run (events : List Event) (hworld : RefreshUnderWay world) :
    RefreshUnderWay (runEvents events world) := by
  induction events generalizing world with
  | nil => exact hworld
  | cons event events ih => exact ih ((after_moved event world).refreshUnderWay hworld)

end UnderWay

def Flight.isScope : Flight → Bool
  | .owner .. => false
  | .scope .. => true

def Flight.authEpoch : Flight → Nat
  | .owner _ epoch _ => epoch
  | .scope captured _ => captured.authEpoch

/-- The refreshes of `refresh_scope` whose answers the session would still use. -/
def scopeRefreshes (world : World) : List Flight := world.flights.filter
  fun flight => flight.isScope && flight.current world.state

structure SingleFlight (world : World) : Prop where
  single : (scopeRefreshes world).length ≤ if world.state.refreshing then 1 else 0
  epochs : ∀ flight ∈ world.flights, flight.authEpoch ≤ world.state.authEpoch

section Single

variable {world next : World} {cause : Cause} {event : Event}

/-- Only the lease and the flights matter. -/
theorem scopeRefreshes_congr (hflights : next.flights = world.flights)
    (hmatches : ∀ scope, scopeMatches next.state scope = scopeMatches world.state scope) :
    scopeRefreshes next = scopeRefreshes world := by
  unfold scopeRefreshes
  rw [hflights]
  refine List.filter_congr fun flight _ => ?_
  cases flight with
  | owner user epoch expected => rfl
  | scope captured expected => exact hmatches captured

theorem scopeRefreshes_nil_congr (h : scopeRefreshes world = [])
    (hflights : next.flights = world.flights)
    (hmatches : ∀ scope, scopeMatches next.state scope = scopeMatches world.state scope) :
    scopeRefreshes next = [] :=
  (scopeRefreshes_congr hflights hmatches).trans h

theorem SingleFlight.push {scope : SessionScope} {expected : PersistedRefreshSession}
    (h : scopeRefreshes world = []) (hflights : next.flights = .scope scope expected :: world.flights)
    (hmatches : scopeMatches next.state scope = true)
    (hsame : ∀ scope, scopeMatches next.state scope = scopeMatches world.state scope)
    (hrefreshing : next.state.refreshing = true)
    (hepochs : ∀ flight ∈ next.flights, flight.authEpoch ≤ next.state.authEpoch) :
    SingleFlight next where
  single := by
    have hrest : scopeRefreshes { world with state := next.state } = [] :=
      scopeRefreshes_nil_congr h rfl hsame
    unfold scopeRefreshes at hrest ⊢
    dsimp only at hrest
    rw [hflights, List.filter_cons_of_pos (by exact hmatches), hrest, hrefreshing]
    exact Nat.le_refl _
  epochs := hepochs

theorem SingleFlight.congr (h : SingleFlight world) (hflights : next.flights = world.flights)
    (hmatches : ∀ scope, scopeMatches next.state scope = scopeMatches world.state scope)
    (hrefreshing : next.state.refreshing = world.state.refreshing)
    (hepoch : next.state.authEpoch = world.state.authEpoch) : SingleFlight next where
  single := by
    rw [scopeRefreshes_congr hflights hmatches, hrefreshing]
    exact h.single
  epochs := by
    rw [hflights, hepoch]
    exact h.epochs

theorem scopeRefreshes_eq_nil : scopeRefreshes world = [] ↔
    ∀ captured expected, .scope captured expected ∈ world.flights →
      scopeMatches world.state captured = false := by
  unfold scopeRefreshes
  rw [List.filter_eq_nil_iff]
  constructor
  · intro h captured expected hmem
    simpa [Flight.isScope, Flight.current] using h _ hmem
  · intro h flight hmem
    cases flight with
    | owner user epoch expected => simp [Flight.isScope]
    | scope captured expected => simp [Flight.isScope, Flight.current, h captured expected hmem]

theorem SingleFlight.of_nil (h : scopeRefreshes next = [])
    (hepochs : ∀ flight ∈ next.flights, flight.authEpoch ≤ next.state.authEpoch) :
    SingleFlight next where
  single := by
    rw [h]
    exact Nat.zero_le _
  epochs := hepochs

theorem SingleFlight.idle (h : SingleFlight world) (hidle : world.state.refreshing = false) :
    scopeRefreshes world = [] := by
  have hsingle := h.single
  rw [hidle] at hsingle
  exact List.length_eq_zero_iff.mp (Nat.le_zero.mp hsingle)

theorem scopeRefreshes_unpublished (h : next.state.scopePublished = false) :
    scopeRefreshes next = [] :=
  scopeRefreshes_eq_nil.mpr fun captured _ _ => scopeMatches_unpublished h captured

/-- No earlier refresh belongs to a lease with a new counter. -/
theorem scopeRefreshes_next_epoch
    (hepochs : ∀ flight ∈ next.flights, flight.authEpoch < next.state.authEpoch) :
    scopeRefreshes next = [] := by
  rw [scopeRefreshes_eq_nil]
  intro captured expected hmem
  rw [← Bool.not_eq_true, scopeMatches_iff]
  rintro ⟨-, -, hepoch, -⟩
  have hlt : captured.authEpoch < next.state.authEpoch := hepochs _ hmem
  omega

theorem scopeRefreshes_failure {error : ApiError} {token : Option String}
    (h : scopeRefreshes world = []) :
    scopeRefreshes { world with
      state := recordRefreshFailure error { world.state with accessToken := token } } = [] := by
  rw [scopeRefreshes_eq_nil] at h ⊢
  intro captured expected hmem
  obtain heq | ⟨refresh, heq⟩ :=
    recordRefreshFailure_eq error { world.state with accessToken := token }
  · rw [heq]
    exact scopeMatches_unpublished rfl captured
  · rw [heq]
    exact h captured expected hmem

theorem Change.epochs (h : Change cause world next)
    (hworld : ∀ flight ∈ world.flights, flight.authEpoch ≤ world.state.authEpoch) :
    ∀ flight ∈ next.flights, flight.authEpoch ≤ next.state.authEpoch := by
  have hmono := h.leaseStep.monotone
  have hold : ∀ flight ∈ world.flights, flight.authEpoch ≤ next.state.authEpoch :=
    fun flight hmem => Nat.le_trans (hworld flight hmem) hmono
  cases h with
  | unchanged | waits | closed | invalidated | failed | conflict | installed | ownerRefreshed
  | scopeRefreshed | cleared | mismatched | tokenCleared => exact hold
  | ownerBegan => exact List.forall_mem_cons.mpr ⟨Nat.le_refl _, hold⟩
  | scopeBegan scope expected hcause hmatches =>
    exact List.forall_mem_cons.mpr ⟨Nat.le_of_eq (scopeMatches_iff.mp hmatches).2.2.1.symm, hold⟩
  | persistBegan scope expected hcause hmatches =>
    exact List.forall_mem_cons.mpr ⟨Nat.le_of_eq (scopeMatches_iff.mp hmatches).2.2.1.symm, hold⟩

theorem Change.singleFlight (h : Change cause world next) (hworld : SingleFlight world)
    (hcause : cause ≠ .persist)
    (hown : ∀ flight answer, cause = .epilogue flight answer →
      flight.current world.state = true → scopeRefreshes world = []) : SingleFlight next := by
  have hepochs := h.epochs hworld.epochs
  cases h with
  | unchanged => exact hworld
  | waits | tokenCleared => exact hworld.congr rfl (fun _ => rfl) rfl rfl
  | closed => exact .of_nil (scopeRefreshes_unpublished rfl) hepochs
  | invalidated | cleared =>
    exact .of_nil (scopeRefreshes_unpublished (unpublished_invalidate _).1) hepochs
  | conflict => exact .of_nil (scopeRefreshes_unpublished (unpublished_conflict _ _).1) hepochs
  | mismatched _ _ _ hpublished => exact .of_nil (scopeRefreshes_unpublished hpublished) hepochs
  | ownerBegan _ _ _ hpublished => exact .of_nil (scopeRefreshes_unpublished hpublished) hepochs
  | installed | ownerRefreshed =>
    exact .of_nil (scopeRefreshes_next_epoch fun flight hmem =>
      Nat.lt_succ_of_le (hworld.epochs flight hmem)) hepochs
  | failed error token htoken hmay =>
    refine .of_nil (scopeRefreshes_failure ?_) hepochs
    cases cause with
    | none => exact hworld.idle hmay
    | persist | ownerRefresh | install => cases hmay
    | epilogue flight answer => exact hown flight answer rfl hmay
  | scopeRefreshed tokens scope refresh expected hepilogue hmatches =>
    exact .of_nil (scopeRefreshes_nil_congr (hown _ _ hepilogue hmatches) rfl fun _ => rfl) hepochs
  | scopeBegan scope expected hcause hmatches hidle =>
    exact .push (hworld.idle hidle) rfl hmatches (fun _ => rfl) rfl hepochs
  | persistBegan _ _ hpersist => exact absurd hpersist hcause

/-- The refreshes beside the current one. -/
theorem SingleFlight.erase (hworld : SingleFlight world) {index : Nat} {flight : Flight}
    (hflight : world.flights[index]? = some flight) :
    SingleFlight { world with flights := world.flights.eraseIdx index } ∧
    (flight.current world.state = true →
      scopeRefreshes { world with flights := world.flights.eraseIdx index } = []) := by
  have hsub : (world.flights.eraseIdx index).Sublist world.flights := List.eraseIdx_sublist ..
  have hfilter := hsub.filter fun flight => flight.isScope && flight.current world.state
  refine ⟨⟨Nat.le_trans hfilter.length_le hworld.single,
    fun other hmem => hworld.epochs other (hsub.mem hmem)⟩, fun hcurrent => ?_⟩
  cases flight with
  | owner user epoch expected =>
    -- an owner refresh is current only while nothing is published
    simp only [Flight.current, Bool.and_eq_true, Bool.not_eq_true'] at hcurrent
    exact scopeRefreshes_unpublished hcurrent.1.2
  | scope captured expected =>
    obtain ⟨hlt, hget⟩ := List.getElem?_eq_some_iff.mp hflight
    have hperm := ((List.getElem_cons_eraseIdx_perm hlt).filter
      fun flight => flight.isScope && flight.current world.state).length_eq
    rw [hget, List.filter_cons_of_pos (by exact hcurrent), List.length_cons] at hperm
    have hone : (scopeRefreshes world).length ≤ 1 :=
      Nat.le_trans hworld.single (by split <;> omega)
    refine List.length_eq_zero_iff.mp ?_
    unfold scopeRefreshes at hone ⊢
    dsimp only at hone ⊢
    omega

theorem Moved.singleFlight (h : Moved event world next) (hworld : SingleFlight world)
    (hevent : event.cause ≠ .persist) : SingleFlight next := by
  cases h with
  | foreign => exact hworld.congr rfl (fun _ => rfl) rfl rfl
  | woken => exact hworld.congr rfl (fun _ => rfl) rfl rfl
  | direct h =>
    refine h.singleFlight hworld hevent fun flight answer hcause => ?_
    cases event <;> cases hcause
  | epilogue index flight answer fault hfinish hflight h =>
    obtain ⟨herased, hown⟩ := hworld.erase hflight
    refine h.singleFlight herased (by simp) fun other answer' hcause hcurrent => ?_
    cases hcause
    exact hown hcurrent

theorem singleFlight_run (events : List Event) (hworld : SingleFlight world)
    (hevents : ∀ event ∈ events, event.cause ≠ .persist) :
    SingleFlight (runEvents events world) := by
  induction events generalizing world with
  | nil => exact hworld
  | cons event events ih =>
    exact ih ((after_moved event world).singleFlight hworld (hevents event List.mem_cons_self))
      fun later hlater => hevents later (List.mem_cons_of_mem _ hlater)

end Single

theorem after_finish {index : Nat} {answer : Except ApiError TokenSet} {fault : StoreFault}
    {world : World} {flight : Flight} (hflight : world.flights[index]? = some flight) :
    after (.finish index answer fault) world =
      (finishFlight answer fault { world with flights := world.flights.eraseIdx index } flight).2 := by
  simp only [after, step, hflight]

/-- In every run scopes never revive, tokens stay with the scope they were obtained for, late
answers have no effect, and a refresh under way is the only one of its lease. -/
theorem session_scopes_safe (stored : Option PersistedRefreshSession) (loadFault : StoreFault)
    (events : List Event) (event : Event) :
    let start := World.new stored loadFault
    let world := runEvents events start
    let next := after event world
    LeaseStep world.state next.state ∧
    (∀ scope, Publishes world scope event → scope.authEpoch = world.state.authEpoch + 1 ∧
      scopeMatches next.state scope = true) ∧
    (∀ scope later, scopeMatches world.state scope = true → scopeMatches next.state scope = false →
      scopeMatches (runEvents later next).state scope = false) ∧
    (∀ scope later, world.state.epochExhausted = true →
      scopeMatches (runEvents later world).state scope = false) ∧
    (∀ scope token, (step event world).1 = some (scope, .ok token) → ∃ earlier source later,
      events ++ [event] = earlier ++ source :: later ∧
      Supplies source (runEvents earlier start) scope token) ∧
    (∀ index answer fault flight, event = .finish index answer fault →
      world.flights[index]? = some flight →
      if flight.current world.state then next.state.refreshing = false
      else next.state = world.state ∧ next.stored = world.stored) ∧
    (world.state.refreshing = true →
      ∃ flight ∈ world.flights, flight.current world.state = true) ∧
    ((∀ event ∈ events, event.cause ≠ .persist) →
      (scopeRefreshes world).length ≤ if world.state.refreshing then 1 else 0) := by
  intro start world next
  have hidle : start.state.refreshing = false := rfl
  have hunpublished : start.state.scopePublished = false := rfl
  refine ⟨after_leaseStep event world, fun scope => Publishes.after, ?_, ?_, ?_, ?_, ?_, ?_⟩
  · intro scope later hmatches hended
    exact ((expired_of_ended hmatches hended).run later).not_matches
  · intro scope later hclosed
    exact (Expired.run (.inl hclosed) later).not_matches
  · intro scope token hreturned
    have hworld : TokensObtained world :=
      tokensObtained_run events (tokensObtained_of_unpublished hunpublished)
    have hobtained : (scope, token) ∈ (runEvents (events ++ [event]) start).obtained := by
      rw [runEvents, run_append]
      exact step_returned hworld hreturned
    obtain hstart | hsupplied := obtained_supplied _ hobtained
    · cases hstart
    · exact hsupplied
  · rintro index answer fault flight rfl hflight
    split
    · rename_i hcurrent
      change (after _ world).state.refreshing = false
      rw [after_finish hflight]
      exact (finishFlight_change flight answer fault).ends hcurrent
    · rename_i hstale
      change (after _ world).state = world.state ∧ (after _ world).stored = world.stored
      rw [after_finish hflight, finishFlight_stale answer fault (by simpa using hstale)]
      exact ⟨rfl, rfl⟩
  · exact refreshUnderWay_run events (refreshUnderWay_of_idle hidle)
  · intro hevents
    exact (singleFlight_run events (.of_nil (scopeRefreshes_unpublished hunpublished)
      (List.forall_mem_nil _)) hevents).single

end ArtForgeStudio.Session
