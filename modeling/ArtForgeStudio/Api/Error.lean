import ArtForgeStudio.Api.Wire

/-! # Client errors and what they say about a request

The predicates decide which failed creations keep their recovery record. They read the
status and the code of an answer, never its message.
-/

namespace ArtForgeStudio.Api

inductive ApiError where
  | billingRejected (source : ApiError) (accountGroupId : String)
  | network (message : String) (timeout : Bool)
  | http (status : Nat) (code : String) (message : String)
  | protocol (message : String)
  | authenticationRequired
  | credential (message : String)
  | configuration (message : String)
  | localState (message : String)
  deriving DecidableEq

namespace ApiError

def code : ApiError → Option String
  | .billingRejected source _ => source.code
  | .http _ code _ => some code
  | .authenticationRequired => some "authentication_required"
  | _ => none

def isAccessTokenRejected (error : ApiError) : Bool :=
  error.code = some "access_token_invalid" || error.code = some "authentication_required"

def terminalSessionCodes : List String :=
  ["session_invalid", "session_device_mismatch", "refresh_token_invalid",
    "refresh_token_reused", "account_disabled", "account_unavailable"]

def isTerminalSessionError (error : ApiError) : Bool :=
  error.code.any (terminalSessionCodes.contains ·)

def isClientUpdateRequired : ApiError → Bool
  | .http 426 "client_upgrade_required" _ => true
  | _ => false

def isBillingRejection (error : ApiError) : Bool :=
  error.code = some "insufficient_credits" || error.code = some "membership_limit_exceeded"

def withBillingPayer (error : ApiError) (accountGroupId : String) : ApiError :=
  match error with
  | .billingRejected source payer => .billingRejected source payer
  | _ => if error.isBillingRejection then .billingRejected error accountGroupId else error

def shouldPreserveGenerationRecovery (error : ApiError) : Bool :=
  -- An upgrade rejection says nothing about an earlier attempt with the same key.
  if error.isClientUpdateRequired then true else
  match error with
  | .network _ _ | .protocol _ => true
  | .http status code _ =>
    -- The lock on an identical request is ambiguous, not a new intent.
    500 ≤ status || status == 408 || status == 425 || status == 429 ||
      (status == 409 && code == "request_in_progress")
  | _ => false

def shouldPreserveRedemptionRetry : ApiError → Bool
  | .network _ _ | .protocol _ | .localState _ => true
  | .http status code _ =>
    500 ≤ status || status == 408 || status == 425 || status == 429 || code == "request_in_progress"
  | _ => false

end ApiError

/-- `transition_error` -/
def transitionError (message : String) : ApiError := .localState ("账号切换未完成：" ++ message)

/-- `require_saved_group`: an answer counts only for the payer the record was saved with. -/
def requireSavedGroup (expected actual : String) : Except ApiError Unit :=
  if expected ≠ "" ∧ expected = actual then .ok ()
  else .error (.protocol "服务端资源的计费账号与本地恢复记录不一致")

theorem requireSavedGroup_ok {expected actual : String}
    (h : requireSavedGroup expected actual = .ok ()) : expected = actual := by
  unfold requireSavedGroup at h
  split at h
  · rename_i hcond; exact hcond.2
  · cases h

/-- Attributing a billing rejection to its payer changes neither its code nor whether it
preserves the recovery record. -/
@[simp] theorem ApiError.withBillingPayer_code (e : ApiError) (g : String) :
    (e.withBillingPayer g).code = e.code := by
  cases e <;> simp only [ApiError.withBillingPayer]
  all_goals first | rfl | (split <;> simp [ApiError.code])

end ArtForgeStudio.Api
