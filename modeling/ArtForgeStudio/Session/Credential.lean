import ArtForgeStudio.Session.Leases

/-! # Authority over the stored credential

The session writes over a stored record only if it captured that record itself. A foreign
record that it has seen blocks every later write.
-/

namespace ArtForgeStudio.Session

open ArtForgeStudio.Api ArtForgeStudio.Runs

def Flight.expected : Flight → PersistedRefreshSession
  | .owner _ _ record => record
  | .scope _ record => record

/-- What the session would write over is a record it captured. -/
structure Authorized (world : World) : Prop where
  state : ∀ record, world.state.authorizedPersistedSession = some record →
    record ∈ world.captured
  flights : ∀ flight ∈ world.flights, flight.expected ∈ world.captured

section Capture

variable {world next : World} {cause : Cause} {event : Event}

theorem authorized_failure (error : ApiError) (state : SessionState) :
    (recordRefreshFailure error state).authorizedPersistedSession =
      state.authorizedPersistedSession := by
  obtain h | ⟨refresh, h⟩ := recordRefreshFailure_eq error state
  · rw [h]
    rfl
  · rw [h]

theorem authorized_invalidate (state : SessionState) :
    (invalidateSessionLease state).authorizedPersistedSession =
      state.authorizedPersistedSession := by
  obtain h | ⟨hopen, refresh, h⟩ := invalidateSessionLease_eq state
  · rw [h]
    rfl
  · rw [h]

theorem authorized_conflict (current : Option PersistedRefreshSession) (state : SessionState) :
    (recordStoreConflict current state).authorizedPersistedSession = none := by
  unfold recordStoreConflict
  dsimp only
  split
  · exact authorized_invalidate _
  · exact authorized_failure _ _

theorem Authorized.congr (h : Authorized world)
    (hstate : next.state.authorizedPersistedSession = world.state.authorizedPersistedSession)
    (hflights : next.flights = world.flights) (hcaptured : next.captured = world.captured) :
    Authorized next where
  state record hrecord := by
    rw [hcaptured]
    exact h.state record (hstate ▸ hrecord)
  flights := by
    rw [hflights, hcaptured]
    exact h.flights

theorem Authorized.none (h : Authorized world)
    (hstate : next.state.authorizedPersistedSession = none)
    (hflights : next.flights = world.flights) (hcaptured : next.captured = world.captured) :
    Authorized next where
  state record hrecord := by
    rw [hstate] at hrecord
    cases hrecord
  flights := by
    rw [hflights, hcaptured]
    exact h.flights

/-- A write captures the record it leaves. -/
theorem Authorized.wrote (h : Authorized world) {record : PersistedRefreshSession}
    (hstate : next.state.authorizedPersistedSession = some record)
    (hflights : next.flights = world.flights) (hcaptured : next.captured = record :: world.captured) :
    Authorized next where
  state other hother := by
    rw [hstate] at hother
    cases hother
    rw [hcaptured]
    exact List.mem_cons_self
  flights flight hmem := by
    rw [hflights] at hmem
    rw [hcaptured]
    exact List.mem_cons_of_mem _ (h.flights flight hmem)

theorem Change.authorized (h : Change cause world next) (hworld : Authorized world) :
    Authorized next := by
  cases h with
  | unchanged => exact hworld
  | waits | closed | mismatched | tokenCleared => exact hworld.congr rfl rfl rfl
  | invalidated => exact hworld.congr (authorized_invalidate _) rfl rfl
  | failed => exact hworld.congr (authorized_failure _ _) rfl rfl
  | conflict => exact hworld.none (authorized_conflict _ _) rfl rfl
  | installed | ownerRefreshed | scopeRefreshed => exact hworld.wrote rfl rfl rfl
  | cleared => exact hworld.none (authorized_invalidate _) rfl rfl
  | ownerBegan record =>
    refine ⟨fun other hother => ?_, List.forall_mem_cons.mpr ⟨List.mem_cons_self, ?_⟩⟩
    · cases hother
      exact List.mem_cons_self
    · exact fun flight hmem => List.mem_cons_of_mem _ (hworld.flights flight hmem)
  | scopeBegan scope expected hcause hmatches hidle hauthorized =>
    exact ⟨hworld.state, List.forall_mem_cons.mpr
      ⟨hworld.state expected hauthorized, hworld.flights⟩⟩
  | persistBegan scope expected hcause hmatches hauthorized =>
    exact ⟨hworld.state, List.forall_mem_cons.mpr
      ⟨hworld.state expected hauthorized, hworld.flights⟩⟩

theorem Authorized.erase (h : Authorized world) (index : Nat) :
    Authorized { world with flights := world.flights.eraseIdx index } where
  state := h.state
  flights flight hmem := h.flights flight (List.mem_of_mem_eraseIdx hmem)

theorem Moved.authorized (h : Moved event world next) (hworld : Authorized world) :
    Authorized next := by
  cases h with
  | foreign | woken => exact hworld.congr rfl rfl rfl
  | direct h => exact h.authorized hworld
  | epilogue index flight answer fault hevent hflight h => exact h.authorized (hworld.erase index)

theorem authorized_new (stored : Option PersistedRefreshSession) (loadFault : StoreFault) :
    Authorized (World.new stored loadFault) where
  state record hrecord := by
    have hcaptured : (World.new stored loadFault).captured =
      (World.new stored loadFault).state.authorizedPersistedSession.toList := rfl
    rw [hcaptured, hrecord]
    exact List.mem_singleton_self record
  flights := List.forall_mem_nil _

theorem authorized_run (events : List Event) (hworld : Authorized world) :
    Authorized (runEvents events world) := by
  induction events generalizing world with
  | nil => exact hworld
  | cons event events ih => exact ih ((after_moved event world).authorized hworld)

/-- Apart from an install, a critical section changes the store only over a captured record. -/
theorem Change.stored (h : Change cause world next) (hworld : Authorized world)
    (hflight : ∀ flight answer, cause = .epilogue flight answer → flight.expected ∈ world.captured)
    (hinstall : ∀ tokens owner, cause ≠ .install tokens owner) :
    next.stored = world.stored ∨ ∃ record ∈ world.captured, world.stored = some record := by
  cases h with
  | unchanged | waits | closed | invalidated | failed | conflict | mismatched | ownerBegan
  | scopeBegan | persistBegan | tokenCleared => exact .inl rfl
  | installed tokens owner refresh hcause => exact absurd hcause (hinstall tokens owner)
  | ownerRefreshed tokens owner epoch refresh expected hcause hcurrent hopen hstored =>
    exact .inr ⟨expected, hflight _ _ hcause, hstored⟩
  | scopeRefreshed tokens scope refresh expected hcause hmatches hstored =>
    exact .inr ⟨expected, hflight _ _ hcause, hstored⟩
  | cleared expected hauthorized hstored =>
    exact .inr ⟨expected, hworld.state expected hauthorized, hstored⟩

end Capture

/-- The event captures this record: an install or a refresh that wrote it, or a refresh
confirmed for its owner. -/
def Captures (event : Event) (world : World) (record : PersistedRefreshSession) : Prop :=
  (after event world).stored = some record ∧
  match event with
  | .install tokens owner _ => record = ⟨owner, tokens.refreshToken⟩
  | .beginOwnerRefresh owner _ => world.stored = some record ∧ record.ownerUserId = owner
  | .finish _ (.ok tokens) _ => record.refreshToken = tokens.refreshToken
  | _ => False

section Source

variable {event : Event} {world next : World} {record : PersistedRefreshSession}

theorem Change.captured {cause : Cause} (h : Change cause world next) :
    next.captured = world.captured ∨
    ∃ record, next.captured = record :: world.captured ∧ next.stored = some record ∧
      ((∃ tokens owner, cause = .install tokens owner ∧ record = ⟨owner, tokens.refreshToken⟩) ∨
        cause = .ownerRefresh record.ownerUserId ∧ world.stored = some record ∨
        ∃ flight tokens, cause = .epilogue flight (.ok tokens) ∧
          record.refreshToken = tokens.refreshToken) := by
  cases h with
  | unchanged | waits | closed | invalidated | failed | conflict | cleared | mismatched
  | scopeBegan | persistBegan | tokenCleared => exact .inl rfl
  | installed tokens owner refresh hcause =>
    exact .inr ⟨_, rfl, rfl, .inl ⟨tokens, owner, hcause, rfl⟩⟩
  | ownerRefreshed tokens owner epoch refresh expected hcause =>
    exact .inr ⟨_, rfl, rfl, .inr (.inr ⟨_, tokens, hcause, rfl⟩)⟩
  | scopeRefreshed tokens scope refresh expected hcause =>
    exact .inr ⟨_, rfl, rfl, .inr (.inr ⟨_, tokens, hcause, rfl⟩)⟩
  | ownerBegan record hcause hactive hpublished hstored =>
    exact .inr ⟨record, rfl, hstored, .inr (.inl ⟨hcause, hstored⟩)⟩

theorem Moved.captures (h : Moved event world next) (hnext : next = after event world)
    (hnew : record ∈ next.captured) : record ∈ world.captured ∨ Captures event world record := by
  cases h with
  | foreign | woken => exact .inl hnew
  | direct h =>
    obtain hsame | ⟨source, hcaptured, hstored, hcause⟩ := h.captured
    · exact .inl (hsame ▸ hnew)
    · rw [hcaptured] at hnew
      obtain rfl | hnew := List.mem_cons.mp hnew
      · refine .inr ⟨hnext ▸ hstored, ?_⟩
        obtain ⟨tokens, owner, hcause, hrecord⟩ | ⟨hcause, hcurrent⟩ | ⟨flight, tokens, hcause, -⟩ :=
          hcause
        · cases event <;> cases hcause
          exact hrecord
        · cases event <;> cases hcause
          exact ⟨hcurrent, rfl⟩
        · cases event <;> cases hcause
      · exact .inl hnew
  | epilogue index flight answer fault hevent hflight h =>
    obtain hsame | ⟨source, hcaptured, hstored, hcause⟩ := h.captured
    · exact .inl (hsame ▸ hnew)
    · rw [hcaptured] at hnew
      obtain rfl | hnew := List.mem_cons.mp hnew
      · refine .inr ⟨hnext ▸ hstored, ?_⟩
        obtain ⟨tokens, owner, hcause, -⟩ | ⟨hcause, -⟩ | ⟨source, tokens, hcause, hrecord⟩ := hcause
        · cases hcause
        · cases hcause
        · cases hcause
          subst hevent
          exact hrecord
      · exact .inl hnew

/-- Every record captured in a run was there at its start or captured by one of its events. -/
theorem captured_source (events : List Event) (h : record ∈ (runEvents events world).captured) :
    record ∈ world.captured ∨ ∃ earlier source later, events = earlier ++ source :: later ∧
      Captures source (runEvents earlier world) record := by
  induction events generalizing world with
  | nil => exact .inl h
  | cons event events ih =>
    obtain hcaptured | ⟨earlier, source, later, rfl, hsource⟩ := ih h
    · obtain hold | hcaptures := (after_moved event world).captures rfl hcaptured
      · exact .inl hold
      · exact .inr ⟨[], event, events, rfl, hcaptures⟩
    · exact .inr ⟨event :: earlier, source, later, rfl, hsource⟩

end Source

/-- The session has seen a record of somebody else in the store: as a conflict, or as the
record of another owner while it was authorized for none. -/
def SawForeign (world : World) : Prop :=
  ∃ record, .conflict record ∈ world.observed ∨ .ownerMismatch record none ∈ world.observed

section Foreign

variable {world next : World} {cause : Cause} {event : Event}

theorem Blocked.of_eq {state next : SessionState} (h : Blocked state)
    (hauthorized : next.authorizedPersistedSession = state.authorizedPersistedSession)
    (hobserved : next.persistedOwnerUserId = state.persistedOwnerUserId)
    (hpublished : next.scopePublished = false) (hrefreshing : next.refreshing = false) :
    Blocked next where
  authorized := hauthorized.trans h.authorized
  observed := hobserved ▸ h.observed
  published := hpublished
  refreshing := hrefreshing

theorem observed_invalidate (state : SessionState) :
    (invalidateSessionLease state).persistedOwnerUserId = state.persistedOwnerUserId := by
  obtain h | ⟨hopen, refresh, h⟩ := invalidateSessionLease_eq state
  · rw [h]
    rfl
  · rw [h]

theorem observed_failure (error : ApiError) (state : SessionState) :
    (recordRefreshFailure error state).persistedOwnerUserId = state.persistedOwnerUserId := by
  obtain h | ⟨refresh, h⟩ := recordRefreshFailure_eq error state
  · rw [h]
    rfl
  · rw [h]

theorem blocked_conflict (record : PersistedRefreshSession) (state : SessionState) :
    Blocked (recordStoreConflict (some record) state) where
  authorized := authorized_conflict _ _
  observed := by
    unfold recordStoreConflict
    dsimp only
    split
    · rw [observed_invalidate]
      rfl
    · rw [observed_failure]
      rfl
  published := (unpublished_conflict _ _).1
  refreshing := (unpublished_conflict _ _).2

/-- From a blocked session nothing reaches the store, and it stays blocked. -/
theorem Change.blocked (h : Change cause world next) (hworld : Blocked world.state) :
    Blocked next.state ∧ next.stored = world.stored := by
  cases h with
  | unchanged | waits => exact ⟨hworld, rfl⟩
  | closed => exact ⟨hworld.of_eq rfl rfl rfl rfl, rfl⟩
  | tokenCleared => exact ⟨hworld.of_eq rfl rfl hworld.published hworld.refreshing, rfl⟩
  | invalidated =>
    have hclosed := unpublished_invalidate world.state
    exact ⟨hworld.of_eq (authorized_invalidate _) (observed_invalidate _) hclosed.1 hclosed.2, rfl⟩
  | failed error token =>
    exact ⟨hworld.of_eq (authorized_failure _ _) (observed_failure _ _)
      (unpublished_failure _ hworld.published) (not_refreshing_failure _ _), rfl⟩
  | conflict _ _ hactive | installed _ _ _ _ _ hactive | mismatched _ _ hactive
  | ownerBegan _ _ hactive => exact absurd hworld hactive
  | ownerRefreshed tokens owner epoch refresh expected hcause hcurrent =>
    simp only [Flight.current, Bool.and_eq_true] at hcurrent
    exact absurd hworld (not_blocked_of_refreshing hcurrent.2)
  | scopeRefreshed tokens scope refresh expected hcause hmatches =>
    exact absurd hworld (not_blocked_of_matches hmatches)
  | cleared expected hauthorized => exact absurd hworld (not_blocked_of_authorized hauthorized)
  | scopeBegan scope expected hcause hmatches | persistBegan scope expected hcause hmatches =>
    exact absurd hworld (not_blocked_of_matches hmatches)

theorem Change.blocked_of_saw (h : Change cause world next)
    (hworld : SawForeign world → Blocked world.state) (hsaw : SawForeign next) :
    Blocked next.state := by
  by_cases hold : SawForeign world
  · exact (h.blocked (hworld hold)).1
  · obtain ⟨record, hrecord⟩ := hsaw
    cases h with
    | unchanged | waits | closed | invalidated | failed | installed | ownerRefreshed
    | scopeRefreshed | cleared | ownerBegan | scopeBegan | persistBegan | tokenCleared =>
      exact absurd ⟨record, hrecord⟩ hold
    | conflict token htoken hactive =>
      cases hstored : world.stored with
      | some current => exact blocked_conflict current _
      | none =>
        simp only [World.conflict, hstored, Option.map_none, Option.toList_none,
          List.nil_append] at hrecord
        exact absurd ⟨record, hrecord⟩ hold
    | mismatched owner hcause hactive hpublished hrefreshing =>
      obtain hconflict | hmismatch := hrecord
      · have hbefore : Observation.conflict record ∈ world.observed := by
          simpa [List.mem_append] using hconflict
        exact absurd ⟨record, .inl hbefore⟩ hold
      · obtain hnew | hbefore := List.mem_append.mp hmismatch
        · obtain ⟨current, hstored, heq⟩ := Option.map_eq_some_iff.mp (Option.mem_toList.mp hnew)
          exact ⟨(Observation.ownerMismatch.inj heq).2, by simp [hstored], hpublished, hrefreshing⟩
        · exact absurd ⟨record, .inr hbefore⟩ hold

theorem Moved.blocked_of_saw (h : Moved event world next)
    (hworld : SawForeign world → Blocked world.state) : SawForeign next → Blocked next.state := by
  cases h with
  | foreign | woken => exact hworld
  | direct h => exact h.blocked_of_saw hworld
  | epilogue index flight answer fault hevent hflight h => exact h.blocked_of_saw hworld

theorem blocked_of_saw_run (events : List Event) (hworld : SawForeign world → Blocked world.state) :
    SawForeign (runEvents events world) → Blocked (runEvents events world).state := by
  induction events generalizing world with
  | nil => exact hworld
  | cons event events ih => exact ih ((after_moved event world).blocked_of_saw hworld)

end Foreign

def Event.isForeign : Event → Bool
  | .foreign _ => true
  | _ => false

def Event.isInstall : Event → Bool
  | .install .. => true
  | _ => false

section Stored

variable {world next : World} {event : Event}

theorem Moved.stored_captured (h : Moved event world next) (hworld : Authorized world)
    (hforeign : event.isForeign = false) (hinstall : event.isInstall = false) :
    next.stored = world.stored ∨ ∃ record ∈ world.captured, world.stored = some record := by
  cases h with
  | foreign stored hevent =>
    rw [hevent] at hforeign
    cases hforeign
  | woken => exact .inl rfl
  | direct h =>
    refine h.stored hworld (fun flight answer hcause => ?_) fun tokens owner hcause => ?_
    · cases event <;> cases hcause
    · cases event <;> cases hcause
      cases hinstall
  | epilogue index flight answer fault hevent hflight h =>
    refine h.stored (hworld.erase index) (fun other answer' hcause => ?_) (by simp)
    cases hcause
    exact hworld.flights flight (List.mem_of_getElem? hflight)

theorem Moved.stored_blocked (h : Moved event world next) (hworld : Blocked world.state)
    (hforeign : event.isForeign = false) : next.stored = world.stored := by
  cases h with
  | foreign stored hevent =>
    rw [hevent] at hforeign
    cases hforeign
  | woken => rfl
  | direct h => exact (h.blocked hworld).2
  | epilogue index flight answer fault hevent hflight h => exact (h.blocked hworld).2

end Stored

/-- An install or a clear whose call of the store fails. -/
def Event.storeCallFails : Event → Bool
  | .install _ _ fault | .clear fault | .clearScope _ fault | .clearEpoch _ fault => fault.isSome
  | _ => false

section Failing

variable {world : World} {error : ApiError}

theorem clearLocked_failing : (clearLocked (some error) world).2.stored = world.stored ∧
    (clearLocked (some error) world).2.state.authorizedPersistedSession =
      world.state.authorizedPersistedSession := by
  unfold clearLocked
  dsimp only
  split
  · exact ⟨rfl, rfl⟩
  · split
    · exact ⟨rfl, authorized_invalidate _⟩
    · exact ⟨rfl, authorized_invalidate _⟩

/-- A failing call of the store leaves the record and the authority over it. -/
theorem after_failing {event : Event} (h : event.storeCallFails = true) :
    (after event world).stored = world.stored ∧
    (after event world).state.authorizedPersistedSession =
      world.state.authorizedPersistedSession := by
  cases event with
  | beginOwnerRefresh | beginScopeRefresh | beginPersist | finish | accessTokenForScope
  | clearAccessToken | wake | foreign => cases h
  | install tokens owner fault =>
    obtain ⟨error, rfl⟩ := Option.isSome_iff_exists.mp h
    unfold after step installTokensForUser
    dsimp only
    split
    · exact ⟨rfl, rfl⟩
    · split
      · exact ⟨rfl, rfl⟩
      · obtain hepochs | ⟨refresh, hopen, hepochs⟩ := nextEpochs_cases true world.state
        · rw [hepochs]
          exact ⟨rfl, rfl⟩
        · rw [hepochs]
          exact ⟨rfl, rfl⟩
  | clear fault =>
    obtain ⟨error, rfl⟩ := Option.isSome_iff_exists.mp h
    exact clearLocked_failing
  | clearScope scope fault =>
    obtain ⟨error, rfl⟩ := Option.isSome_iff_exists.mp h
    unfold after step clearScope
    dsimp only
    split
    · exact ⟨rfl, rfl⟩
    · split
      · exact ⟨rfl, rfl⟩
      · exact clearLocked_failing
  | clearEpoch epoch fault =>
    obtain ⟨error, rfl⟩ := Option.isSome_iff_exists.mp h
    unfold after step clearEpoch
    dsimp only
    split
    · exact ⟨rfl, rfl⟩
    · split
      · exact ⟨rfl, rfl⟩
      · exact clearLocked_failing

end Failing

/-- In every run the manager changes a stored record only if it captured that record at
startup, by an install, in a refresh confirmed for its owner or by writing it in a refresh; a
foreign record seen in a conflict, or by a session authorized for none, is never written
over; and an install or a clear whose call of the store fails changes nothing. -/
theorem credential_authority (stored : Option PersistedRefreshSession) (loadFault : StoreFault)
    (events : List Event) (event : Event) :
    let start := World.new stored loadFault
    let world := runEvents events start
    let next := after event world
    (event.isForeign = false → event.isInstall = false → next.stored ≠ world.stored →
      ∃ record, world.stored = some record ∧
        (loadFault = none ∧ stored = some record ∨
          ∃ earlier source later, events = earlier ++ source :: later ∧
            Captures source (runEvents earlier start) record)) ∧
    (SawForeign world → event.isForeign = false → next.stored = world.stored) ∧
    (event.storeCallFails = true → next.stored = world.stored ∧
      next.state.authorizedPersistedSession = world.state.authorizedPersistedSession) := by
  intro start world next
  have hworld : Authorized world := authorized_run events (authorized_new stored loadFault)
  refine ⟨fun hforeign hinstall hchanged => ?_, fun hsaw hforeign => ?_, after_failing⟩
  · obtain hsame | ⟨record, hcaptured, hrecord⟩ :=
      (after_moved event world).stored_captured hworld hforeign hinstall
    · exact absurd hsame hchanged
    · refine ⟨record, hrecord, (captured_source events hcaptured).imp_left fun hstart => ?_⟩
      cases loadFault with
      | none => exact ⟨rfl, Option.mem_toList.mp hstart⟩
      | some error => cases hstart
  · have hstart : SawForeign start → Blocked start.state := by
      rintro ⟨record, h | h⟩ <;> cases h
    exact (after_moved event world).stored_blocked (blocked_of_saw_run events hstart hsaw) hforeign

/-- A refresh replaces the record that an earlier refresh wrote, which no startup, install or
owner-confirmed refresh captured. And an owner refresh that finds a foreign record keeps its
authority over the old one, so that the next install writes over the record it has just seen. -/
theorem observed_record_overwritten :
    let user := "11111111-1111-4111-8111-111111111111"
    let other := "22222222-2222-4222-8222-222222222222"
    let refreshed := runEvents
      [.install ⟨"t1", "r1"⟩ user none, .beginScopeRefresh ⟨user, 1⟩ none none,
        .finish 0 (.ok ⟨"t2", "r2"⟩) none, .beginScopeRefresh ⟨user, 1⟩ none none]
      (World.new none none)
    let seen := runEvents [.foreign (some ⟨other, "f"⟩), .beginOwnerRefresh user none]
      (World.new (some ⟨user, "r"⟩) none)
    refreshed.stored = some ⟨user, "r2"⟩ ∧
    (after (.finish 0 (.ok ⟨"t3", "r3"⟩) none) refreshed).stored = some ⟨user, "r3"⟩ ∧
    seen.stored = some ⟨other, "f"⟩ ∧
    .ownerMismatch ⟨other, "f"⟩ (some ⟨user, "r"⟩) ∈ seen.observed ∧
    (after (.install ⟨"t", "s"⟩ user none) seen).stored = some ⟨user, "s"⟩ := by
  decide +kernel

end ArtForgeStudio.Session
