import ArtForgeStudio.Session.Tokens

/-! # One authenticated call

`authenticated_json_with_scope` takes the session lock several times and sends between the
critical sections. A call is modelled by the place where its thread stands; between any two of
its steps other threads install, refresh and clear.
-/

namespace ArtForgeStudio.Session

open ArtForgeStudio.Api ArtForgeStudio.Runs

/-- What `send_once` puts on the wire. -/
structure HttpRequest where
  method : String
  path : String
  body : Option Json
  idempotencyKey : Option String
  accessToken : String
  accountGroupId : Option String

/-- The arguments of `authenticated_json_with_scope`. -/
structure ScopedRequest where
  method : String
  path : String
  body : Option Json
  idempotencyKey : Option String
  scope : SessionScope
  accountGroupId : Option String

def ScopedRequest.http (request : ScopedRequest) (accessToken : String) : HttpRequest where
  method := request.method
  path := request.path
  body := request.body
  idempotencyKey := request.idempotencyKey
  accessToken := accessToken
  accountGroupId := request.accountGroupId

/-- `RequiredUpgrade::as_error` -/
def upgradeError : ApiError :=
  .http 426 "client_upgrade_required" "当前客户端版本过旧，必须更新后继续使用"

/-- Why `send_once` does not send. -/
inductive Refusal where
  | badPath (message : String)
  | upgradeRequired

def Refusal.error : Refusal → ApiError
  | .badPath message => .configuration message
  | .upgradeRequired => upgradeError

/-- How a sent request ends. -/
inductive Transfer where
  | lost (message : String) (timeout : Bool)
  | malformed (message : String)
  | rejected (status : Nat) (code message : String)
  | answered (data : Json)
  /-- The upgrade latch tripped while the answer was on its way. -/
  | answeredTooLate

/-- The result of `execute`: an upgrade rejection is replaced by the client's own error. -/
def Transfer.result : Transfer → Except ApiError Json
  | .lost message timeout => .error (.network message timeout)
  | .malformed message => .error (.protocol message)
  | .rejected status code message =>
    .error (if (ApiError.http status code message).isClientUpdateRequired then upgradeError
      else .http status code message)
  | .answered data => .ok data
  | .answeredTooLate => .error upgradeError

/-- A request on the wire, with its end once it has one. -/
structure Sent extends HttpRequest where
  transfer : Option Transfer := none

/-- The answer is a rejection of the access token. -/
def Sent.TokenRejected (sent : Sent) : Prop :=
  ∃ status code message, sent.transfer = some (.rejected status code message) ∧
    (ApiError.http status code message).isAccessTokenRejected = true

/-- Where the thread of a call stands. `rejected` is the token of the first send once the
server rejected it. -/
inductive Call where
  | start
  | waitingForToken (waiter : Waiter)
  | checkCurrent
  | refresh (rejected : Option String)
  | waitingForRefresh (rejected : Option String) (waiter : Waiter)
  | refreshing (rejected : Option String) (expected : PersistedRefreshSession)
  | send (rejected : Option String) (accessToken : String)
  | awaiting (rejected : Option String) (accessToken : String)
  | clear (next : Call)
  | done (result : Except ApiError Json)

/-- A call with the session it shares and the requests it sent, the latest first. -/
structure CallWorld where
  session : World
  call : Call := .start
  sends : List Sent := []

/-- What the store, the network and the server answer to one step. -/
structure Answers where
  loadFault : StoreFault
  replaceFault : StoreFault
  clearFault : StoreFault
  refresh : Except ApiError TokenSet
  refusal : Option Refusal
  transfer : Transfer

namespace Call

/-- `clear_scope_on_terminal_error` -/
def onTerminalError (error : ApiError) (next : Call) : Call :=
  if error.isTerminalSessionError then .clear next else next

/-- `clear_scope_on_exhausted_auth_error` -/
def onExhaustedAuthError (error : ApiError) (next : Call) : Call :=
  if error.isAccessTokenRejected || error.isTerminalSessionError then .clear next else next

/-- The match of `access_or_refresh_scope` on `access_token_for_scope`. -/
def tokenRead : Except ApiError String → Call
  | .ok accessToken => .send none accessToken
  | .error .authenticationRequired => .checkCurrent
  | .error error => onTerminalError error (.done (.error error))

/-- After a refresh the call sends, for the first or for the second time. -/
def refreshed (rejected : Option String) : Except ApiError String → Call
  | .ok accessToken => .send rejected accessToken
  | .error error => onTerminalError error (.done (.error error))

/-- The result of a send. -/
def sent (rejected : Option String) (accessToken : String) : Except ApiError Json → Call
  | .ok data => .done (.ok data)
  | .error error =>
    match rejected with
    | none => onTerminalError error <|
        if error.isAccessTokenRejected then .refresh (some accessToken) else .done (.error error)
    | some _ => onExhaustedAuthError error (.done (.error error))

end Call

namespace CallWorld

/-- The thread keeps its own wait; the list holds those of the other threads. -/
def wait (phase : Waiter → Call) (next : World) (world : CallWorld) : CallWorld :=
  match next.waiters with
  | [] => world
  | waiter :: others =>
    { world with session := { next with waiters := others }, call := phase waiter }

/-- The thread keeps its own refresh; the list holds those of the other threads. -/
def beginRefresh (rejected : Option String) (next : World) (world : CallWorld) : CallWorld :=
  match next.flights with
  | .scope _ expected :: others =>
    { world with session := { next with flights := others }, call := .refreshing rejected expected }
  | _ => world

/-- The next step of the call's own thread. -/
def own (request : ScopedRequest) (answers : Answers) (world : CallWorld) : CallWorld :=
  let session := world.session
  match world.call with
  | .start =>
    match accessTokenForScope request.scope session with
    | (.done result, next) => { world with session := next, call := .tokenRead result }
    | (.waiting, next) => world.wait .waitingForToken next
    | (.started, _) => world
  | .waitingForToken waiter =>
    if waiter.waits session.state then world
    else { world with call := .tokenRead (waiter.result session.state) }
  | .checkCurrent =>
    { world with call :=
      if scopeMatches session.state request.scope then .refresh none
      else .onTerminalError .authenticationRequired (.done (.error .authenticationRequired)) }
  | .refresh rejected =>
    match beginScopeRefresh request.scope rejected answers.loadFault session with
    | (.done result, next) => { world with session := next, call := .refreshed rejected result }
    | (.waiting, next) => world.wait (.waitingForRefresh rejected) next
    | (.started, next) => world.beginRefresh rejected next
  | .waitingForRefresh rejected waiter =>
    if waiter.waits session.state then world
    else { world with call := .refreshed rejected (waiter.result session.state) }
  | .refreshing rejected expected =>
    let (result, next) :=
      finishScopeRefresh request.scope expected answers.refresh answers.replaceFault session
    { world with session := next, call := .refreshed rejected result }
  | .send rejected accessToken =>
    match answers.refusal with
    | some refusal =>
      { world with call := .sent rejected accessToken (.error refusal.error) }
    | none =>
      { world with
        call := .awaiting rejected accessToken
        sends := { request.http accessToken with } :: world.sends }
  | .awaiting rejected accessToken =>
    { world with
      call := .sent rejected accessToken answers.transfer.result
      sends := world.sends.modifyHead ({ · with transfer := some answers.transfer }) }
  | .clear next =>
    { world with session := (clearScope request.scope answers.clearFault session).2, call := next }
  | .done _ => world

end CallWorld

/-- The call's own thread moves, or another thread or writer does. -/
inductive CallEvent where
  | own (answers : Answers)
  | other (event : Event)

def callStep (request : ScopedRequest) (event : CallEvent) (world : CallWorld) : CallWorld :=
  match event with
  | .own answers => world.own request answers
  | .other event => { world with session := after event world.session }

abbrev runCall (request : ScopedRequest) (events : List CallEvent) (world : CallWorld) : CallWorld :=
  run (callStep request) events world

section Session

variable {world next : World} {scope : SessionScope}

theorem Change.obtained_mono {cause : Cause} (h : Change cause world next) :
    world.obtained ⊆ next.obtained := by
  obtain hsame | ⟨source, tokens, hobtained, -, -⟩ := h.obtained
  · rw [hsame]
    exact List.Subset.refl _
  · rw [hobtained]
    exact List.subset_cons_self _ _

theorem Moved.obtained_mono {event : Event} (h : Moved event world next) :
    world.obtained ⊆ next.obtained := by
  cases h with
  | foreign | woken => exact List.Subset.refl _
  | direct h => exact h.obtained_mono
  | epilogue _ _ _ _ _ _ h => exact h.obtained_mono

theorem clearScope_foreign (fault : StoreFault) (h : scopeMatches world.state scope = false) :
    (clearScope scope fault world).2 = world := by
  simp only [clearScope, h, Bool.not_false, if_true]
  split <;> rfl

end Session

section Kept

variable {request : ScopedRequest} {obtained later : List (SessionScope × String)}
  {sends : List Sent} {call : Call} {world : CallWorld}

/-- The sends at a point where the token `rejected`, if any, was rejected. -/
def AfterRejection (rejected : Option String) (sends : List Sent) : Prop :=
  match rejected with
  | none => sends = []
  | some _ => ∃ first, sends = [first] ∧ first.TokenRejected

/-- At most two sends, the second after a rejected first one. -/
def RetriedOnce (sends : List Sent) : Prop :=
  sends.length ≤ 2 ∧ ∀ second first, sends = [second, first] → first.TokenRejected

/-- What holds of the sends at each place of the call. -/
def Call.Fits (request : ScopedRequest) (obtained : List (SessionScope × String))
    (sends : List Sent) : Call → Prop
  | .start | .checkCurrent => sends = []
  | .waitingForToken waiter => waiter.scope = request.scope ∧ sends = []
  | .refresh rejected | .refreshing rejected _ => AfterRejection rejected sends
  | .waitingForRefresh rejected waiter =>
    waiter.scope = request.scope ∧ AfterRejection rejected sends
  | .send rejected token => (request.scope, token) ∈ obtained ∧ AfterRejection rejected sends
  | .awaiting rejected _ => ∃ sent earlier, sends = sent :: earlier ∧ AfterRejection rejected earlier
  | .clear next => next.Fits request obtained sends
  | .done _ => RetriedOnce sends

/-- The request goes out under a token of its scope, and as it was given. -/
def Sent.Keeps (request : ScopedRequest) (obtained : List (SessionScope × String)) (sent : Sent) :
    Prop :=
  (request.scope, sent.accessToken) ∈ obtained ∧ sent.method = request.method ∧
    sent.path = request.path ∧ sent.body = request.body ∧
    sent.idempotencyKey = request.idempotencyKey ∧ sent.accountGroupId = request.accountGroupId

structure CallWorld.Kept (request : ScopedRequest) (world : CallWorld) : Prop where
  tokens : TokensObtained world.session
  sends : ∀ sent ∈ world.sends, sent.Keeps request world.session.obtained
  fits : world.call.Fits request world.session.obtained world.sends

theorem retriedOnce_nil : RetriedOnce [] := ⟨Nat.zero_le _, fun _ _ h => by cases h⟩

theorem retriedOnce_single (sent : Sent) : RetriedOnce [sent] :=
  ⟨by simp, fun _ _ h => by simp at h⟩

theorem AfterRejection.retriedOnce {rejected : Option String} (h : AfterRejection rejected sends) :
    RetriedOnce sends := by
  cases rejected with
  | none => exact h ▸ retriedOnce_nil
  | some token =>
    obtain ⟨first, rfl, -⟩ := h
    exact retriedOnce_single first

theorem AfterRejection.cons {rejected : Option String} {earlier : List Sent} (sent : Sent)
    (h : AfterRejection rejected earlier) : RetriedOnce (sent :: earlier) := by
  cases rejected with
  | none => exact h ▸ retriedOnce_single sent
  | some token =>
    obtain ⟨first, rfl, hrejected⟩ := h
    refine ⟨by simp, fun second other heq => ?_⟩
    simp only [List.cons.injEq, and_true] at heq
    exact heq.2 ▸ hrejected

theorem Call.Fits.retriedOnce (h : call.Fits request obtained sends) : RetriedOnce sends := by
  induction call with
  | start | checkCurrent => exact h ▸ retriedOnce_nil
  | waitingForToken waiter => exact h.2 ▸ retriedOnce_nil
  | refresh rejected | refreshing rejected expected => exact AfterRejection.retriedOnce h
  | waitingForRefresh rejected waiter | send rejected token => exact h.2.retriedOnce
  | awaiting rejected token =>
    obtain ⟨sent, earlier, rfl, hearlier⟩ := h
    exact hearlier.cons sent
  | clear next ih => exact ih h
  | done result => exact h

theorem Call.Fits.mono (h : call.Fits request obtained sends) (hsub : obtained ⊆ later) :
    call.Fits request later sends := by
  induction call with
  | send rejected token => exact ⟨hsub h.1, h.2⟩
  | clear next ih => exact ih h
  | start | checkCurrent | waitingForToken | refresh | refreshing | waitingForRefresh | awaiting
  | done => exact h

/-- Changing the session keeps what a call keeps, if only tokens of their scope are added. -/
theorem CallWorld.Kept.session (h : world.Kept request) {next : World} (htokens : TokensObtained next)
    (hsub : world.session.obtained ⊆ next.obtained)
    (hfits : call.Fits request next.obtained world.sends) :
    CallWorld.Kept request { world with session := next, call := call } where
  tokens := htokens
  sends sent hsent := ⟨hsub (h.sends sent hsent).1, (h.sends sent hsent).2⟩
  fits := hfits

theorem fits_onTerminalError {error : ApiError} (h : call.Fits request obtained sends) :
    (Call.onTerminalError error call).Fits request obtained sends := by
  unfold Call.onTerminalError
  split <;> exact h

theorem fits_onExhaustedAuthError {error : ApiError} (h : call.Fits request obtained sends) :
    (Call.onExhaustedAuthError error call).Fits request obtained sends := by
  unfold Call.onExhaustedAuthError
  split <;> exact h

theorem fits_tokenRead {result : Except ApiError String}
    (hresult : ∀ token, result = .ok token → (request.scope, token) ∈ obtained) :
    (Call.tokenRead result).Fits request obtained [] := by
  unfold Call.tokenRead
  split
  · exact ⟨hresult _ rfl, rfl⟩
  · rfl
  · exact fits_onTerminalError retriedOnce_nil

theorem fits_refreshed {rejected : Option String} {result : Except ApiError String}
    (hresult : ∀ token, result = .ok token → (request.scope, token) ∈ obtained)
    (hsends : AfterRejection rejected sends) :
    (Call.refreshed rejected result).Fits request obtained sends := by
  cases result with
  | ok token => exact ⟨hresult _ rfl, hsends⟩
  | error error => exact fits_onTerminalError hsends.retriedOnce

/-- Only a rejection by the server reads as a rejected access token. -/
theorem Transfer.rejected_of_token {transfer : Transfer} {error : ApiError}
    (hresult : transfer.result = .error error) (herror : error.isAccessTokenRejected = true) :
    ∃ status code message, transfer = .rejected status code message ∧
      (ApiError.http status code message).isAccessTokenRejected = true := by
  cases transfer with
  | lost | malformed | answeredTooLate =>
    cases hresult
    simp [ApiError.isAccessTokenRejected, ApiError.code, upgradeError] at herror
  | answered data => cases hresult
  | rejected status code message =>
    cases hresult
    refine ⟨status, code, message, rfl, ?_⟩
    split at herror
    · simp [ApiError.isAccessTokenRejected, ApiError.code, upgradeError] at herror
    · exact herror

theorem Refusal.not_token (refusal : Refusal) : refusal.error.isAccessTokenRejected = false := by
  cases refusal <;> simp [Refusal.error, ApiError.isAccessTokenRejected, ApiError.code, upgradeError]

theorem fits_refused {rejected : Option String} {token : String} (refusal : Refusal)
    (hsends : AfterRejection rejected sends) :
    (Call.sent rejected token (.error refusal.error)).Fits request obtained sends := by
  cases rejected with
  | none =>
    refine fits_onTerminalError ?_
    rw [if_neg (by simp [refusal.not_token])]
    exact hsends.retriedOnce
  | some _ => exact fits_onExhaustedAuthError hsends.retriedOnce

theorem fits_sent {rejected : Option String} {token : String} {transfer : Transfer} {sent : Sent}
    (hsent : sent.transfer = some transfer) (hsends : AfterRejection rejected sends) :
    (Call.sent rejected token transfer.result).Fits request obtained (sent :: sends) := by
  cases hresult : transfer.result with
  | ok data => exact hsends.cons sent
  | error error =>
    cases rejected with
    | some _ => exact fits_onExhaustedAuthError (hsends.cons sent)
    | none =>
      refine fits_onTerminalError ?_
      split
      · rename_i hrejected
        -- the first send was answered with a rejected token, so the call may refresh
        obtain ⟨status, code, message, rfl, hcode⟩ := Transfer.rejected_of_token hresult hrejected
        exact ⟨sent, by rw [show sends = [] from hsends], status, code, message, hsent, hcode⟩
      · exact hsends.cons sent

/-- A thread that starts to wait adds only itself to the session. -/
theorem CallWorld.Kept.wait (h : world.Kept request) {phase : Waiter → Call} {next : World}
    (htokens : TokensObtained next) (hsub : world.session.obtained ⊆ next.obtained)
    (hfits : ∀ waiter others, next.waiters = waiter :: others →
      (phase waiter).Fits request next.obtained world.sends) :
    (world.wait phase next).Kept request := by
  unfold CallWorld.wait
  split
  · exact h
  · rename_i waiter others hwaiters
    exact h.session htokens hsub (hfits waiter others hwaiters)

theorem CallWorld.Kept.beginRefresh (h : world.Kept request) {rejected : Option String}
    {next : World} (htokens : TokensObtained next)
    (hsub : world.session.obtained ⊆ next.obtained) (hsends : AfterRejection rejected world.sends) :
    (world.beginRefresh rejected next).Kept request := by
  unfold CallWorld.beginRefresh
  split
  · exact h.session htokens hsub hsends
  · exact h

theorem accessTokenForScope_waiter {session next : World} {scope : SessionScope}
    (h : accessTokenForScope scope session = (.waiting, next)) :
    next.waiters = ⟨scope, session.state.refreshEpoch, true⟩ :: session.waiters := by
  unfold accessTokenForScope at h
  dsimp only at h
  split at h
  · cases h
  split at h
  · cases h
  split at h
  · cases h
  · cases h
    rfl

theorem beginScopeRefresh_waiter {session next : World} {scope : SessionScope}
    {rejected : Option String} {fault : StoreFault}
    (h : beginScopeRefresh scope rejected fault session = (.waiting, next)) :
    next.waiters = ⟨scope, session.state.refreshEpoch, false⟩ :: session.waiters := by
  unfold beginScopeRefresh at h
  dsimp only at h
  split at h
  · cases h
  split at h
  · cases h
  split at h
  · cases h
    rfl
  obtain hepochs | ⟨refresh, hopen, hepochs⟩ := nextEpochs_cases false session.state
  · rw [hepochs] at h
    cases h
  · rw [hepochs] at h
    dsimp only at h
    split at h
    · cases h
    · cases fault with
      | some error => cases h
      | none =>
        dsimp only at h
        split at h <;> cases h

theorem CallWorld.Kept.start {session : World} (answers : Answers)
    (h : CallWorld.Kept request ⟨session, .start, sends⟩) :
    (CallWorld.own request answers ⟨session, .start, sends⟩).Kept request := by
  obtain rfl : sends = [] := h.fits
  have hchange : Change .none session _ := accessTokenForScope_change request.scope
  simp only [CallWorld.own]
  split
  · rename_i result next hread
    rw [hread] at hchange
    refine h.session (hchange.tokensObtained h.tokens) hchange.obtained_mono ?_
    refine fits_tokenRead fun token hresult => ?_
    have hdone : (accessTokenForScope request.scope session).1 = .done (.ok token) := by
      rw [hread, hresult]
    have hreturned := accessTokenForScope_returned h.tokens hdone
    rwa [hread] at hreturned
  · rename_i next hread
    rw [hread] at hchange
    refine h.wait (hchange.tokensObtained h.tokens) hchange.obtained_mono ?_
    intro waiter others hwaiters
    rw [accessTokenForScope_waiter hread] at hwaiters
    cases hwaiters
    exact ⟨rfl, rfl⟩
  · exact h

theorem CallWorld.Kept.refresh {session : World} {rejected : Option String} (answers : Answers)
    (h : CallWorld.Kept request ⟨session, .refresh rejected, sends⟩) :
    (CallWorld.own request answers ⟨session, .refresh rejected, sends⟩).Kept request := by
  have hsends : AfterRejection rejected sends := h.fits
  have hchange : Change .none session _ :=
    beginScopeRefresh_change request.scope rejected answers.loadFault
  simp only [CallWorld.own]
  split
  · rename_i result next hbegin
    rw [hbegin] at hchange
    refine h.session (hchange.tokensObtained h.tokens) hchange.obtained_mono ?_
    refine fits_refreshed (fun token hresult => ?_) hsends
    have hdone : (beginScopeRefresh request.scope rejected answers.loadFault session).1 =
        .done (.ok token) := by
      rw [hbegin, hresult]
    have hreturned := beginScopeRefresh_returned h.tokens hdone
    rwa [hbegin] at hreturned
  · rename_i next hbegin
    rw [hbegin] at hchange
    refine h.wait (hchange.tokensObtained h.tokens) hchange.obtained_mono ?_
    intro waiter others hwaiters
    rw [beginScopeRefresh_waiter hbegin] at hwaiters
    cases hwaiters
    exact ⟨rfl, hsends⟩
  · rename_i next hbegin
    rw [hbegin] at hchange
    exact h.beginRefresh (hchange.tokensObtained h.tokens) hchange.obtained_mono hsends

theorem CallWorld.Kept.waiting {session : World} {waiter : Waiter} (answers : Answers)
    (h : CallWorld.Kept request ⟨session, .waitingForToken waiter, sends⟩) :
    (CallWorld.own request answers ⟨session, .waitingForToken waiter, sends⟩).Kept request := by
  obtain ⟨hscope, rfl⟩ : waiter.scope = request.scope ∧ sends = [] := h.fits
  simp only [CallWorld.own]
  split
  · exact h
  · refine h.session h.tokens (List.Subset.refl _) (fits_tokenRead fun token hresult => ?_)
    exact hscope ▸ Waiter.result_returned h.tokens hresult

theorem CallWorld.Kept.waitingForRefresh {session : World} {rejected : Option String}
    {waiter : Waiter} (answers : Answers)
    (h : CallWorld.Kept request ⟨session, .waitingForRefresh rejected waiter, sends⟩) :
    (CallWorld.own request answers ⟨session, .waitingForRefresh rejected waiter, sends⟩).Kept
      request := by
  obtain ⟨hscope, hsends⟩ : waiter.scope = request.scope ∧ AfterRejection rejected sends := h.fits
  simp only [CallWorld.own]
  split
  · exact h
  · refine h.session h.tokens (List.Subset.refl _) (fits_refreshed (fun token hresult => ?_) hsends)
    exact hscope ▸ Waiter.result_returned h.tokens hresult

/-- The arguments of the call are sent as they are. -/
theorem CallWorld.Kept.send {session : World} {rejected : Option String} {token : String}
    (answers : Answers) (h : CallWorld.Kept request ⟨session, .send rejected token, sends⟩) :
    (CallWorld.own request answers ⟨session, .send rejected token, sends⟩).Kept request := by
  obtain ⟨htoken, hsends⟩ :
    (request.scope, token) ∈ session.obtained ∧ AfterRejection rejected sends := h.fits
  simp only [CallWorld.own]
  split
  · exact h.session h.tokens (List.Subset.refl _) (fits_refused _ hsends)
  · have hsent : Sent.Keeps request session.obtained { request.http token with } :=
      ⟨htoken, rfl, rfl, rfl, rfl, rfl⟩
    exact ⟨h.tokens, List.forall_mem_cons.mpr ⟨hsent, h.sends⟩, _, sends, rfl, hsends⟩

theorem own_kept (answers : Answers) (h : world.Kept request) :
    (world.own request answers).Kept request := by
  obtain ⟨session, call, sends⟩ := world
  have hfits := h.fits
  cases call with
  | start => exact h.start answers
  | waitingForToken waiter => exact h.waiting answers
  | checkCurrent =>
    obtain rfl : sends = [] := hfits
    refine h.session h.tokens (List.Subset.refl _) ?_
    split
    · exact rfl
    · exact fits_onTerminalError retriedOnce_nil
  | refresh rejected => exact h.refresh answers
  | waitingForRefresh rejected waiter => exact h.waitingForRefresh answers
  | refreshing rejected expected =>
    have hchange : Change _ session _ :=
      finishScopeRefresh_change request.scope expected answers.refresh answers.replaceFault
    refine h.session (hchange.tokensObtained h.tokens) hchange.obtained_mono ?_
    exact fits_refreshed (fun token hresult => finishScopeRefresh_returned hresult) hfits
  | send rejected token => exact h.send answers
  | awaiting rejected token =>
    obtain ⟨sent, earlier, rfl, hsends⟩ :
      ∃ sent earlier, sends = sent :: earlier ∧ AfterRejection rejected earlier := hfits
    obtain ⟨hsent, hearlier⟩ := List.forall_mem_cons.mp h.sends
    refine ⟨h.tokens, List.forall_mem_cons.mpr ⟨hsent, hearlier⟩, ?_⟩
    exact fits_sent rfl hsends
  | clear next =>
    have hchange : Change .none session _ := clearScope_change request.scope answers.clearFault
    exact h.session (hchange.tokensObtained h.tokens) hchange.obtained_mono
      (Call.Fits.mono hfits hchange.obtained_mono)
  | done result => exact h

theorem callStep_kept (event : CallEvent) (h : world.Kept request) :
    (callStep request event world).Kept request := by
  cases event with
  | own answers => exact own_kept answers h
  | other event =>
    have hmoved := after_moved event world.session
    exact h.session (hmoved.tokensObtained h.tokens) hmoved.obtained_mono
      (h.fits.mono hmoved.obtained_mono)

theorem runCall_kept (events : List CallEvent) (h : world.Kept request) :
    (runCall request events world).Kept request := by
  induction events generalizing world with
  | nil => exact h
  | cons event events ih => exact ih (callStep_kept event h)

end Kept

/-- A step of the call moves no session but the one of its scope. -/
theorem own_session (request : ScopedRequest) (answers : Answers) (world : CallWorld)
    (hforeign : scopeMatches world.session.state request.scope = false) :
    (world.own request answers).session.state = world.session.state ∧
      (world.own request answers).session.stored = world.session.stored := by
  obtain ⟨session, call, sends⟩ := world
  cases call with
  | start =>
    simp [CallWorld.own, accessTokenForScope, hforeign]
  | refresh rejected =>
    simp [CallWorld.own, beginScopeRefresh, hforeign]
  | refreshing rejected expected =>
    have hstale := finishFlight_stale answers.refresh answers.replaceFault
      (show (Flight.scope request.scope expected).current session.state = false from hforeign)
    exact ⟨congrArg World.state hstale, congrArg World.stored hstale⟩
  | clear next =>
    have hsame := clearScope_foreign answers.clearFault hforeign
    exact ⟨congrArg World.state hsame, congrArg World.stored hsame⟩
  | waitingForToken waiter | waitingForRefresh rejected waiter | send rejected token =>
    simp only [CallWorld.own]
    split <;> exact ⟨rfl, rfl⟩
  | checkCurrent | awaiting | done => exact ⟨rfl, rfl⟩

/-- However other threads install, refresh and clear between its steps, a call sends only the
request it was given under tokens of its scope, sends again only after its token was rejected,
and moves no session but the one of its scope. -/
theorem scoped_call_keeps_credential (stored : Option PersistedRefreshSession)
    (loadFault : StoreFault) (before : List Event) (request : ScopedRequest)
    (events : List CallEvent) :
    let start : CallWorld := { session := runEvents before (World.new stored loadFault) }
    let world := runCall request events start
    (∀ sent ∈ world.sends, (request.scope, sent.accessToken) ∈ world.session.obtained ∧
      sent.method = request.method ∧ sent.path = request.path ∧ sent.body = request.body ∧
      sent.idempotencyKey = request.idempotencyKey ∧
      sent.accountGroupId = request.accountGroupId) ∧
    world.sends.length ≤ 2 ∧
    (∀ second first, world.sends = [second, first] → first.TokenRejected) ∧
    ∀ answers, scopeMatches world.session.state request.scope = false →
      (world.own request answers).session.state = world.session.state ∧
      (world.own request answers).session.stored = world.session.stored := by
  intro start world
  have hsession : TokensObtained start.session :=
    tokensObtained_run before (tokensObtained_of_unpublished rfl)
  have hkept : world.Kept request := runCall_kept events ⟨hsession, List.forall_mem_nil _, rfl⟩
  obtain ⟨hlength, hretry⟩ := hkept.fits.retriedOnce
  exact ⟨hkept.sends, hlength, hretry, fun answers => own_session request answers world⟩

end ArtForgeStudio.Session
