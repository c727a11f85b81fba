import ArtForgeStudio.Api.Requests
import ArtForgeStudio.Library.Outcome

/-! # Recovery records and the authority over them

A record names its owner, its payer, its idempotency key and the login epoch it was written
in. Reading accepts a record of the owner in any epoch; writing asks for the current one.
-/

namespace ArtForgeStudio.Recovery

open ArtForgeStudio.Api ArtForgeStudio.Outcome

def recoverySchemaVersion : Nat := 2

inductive RecoveryError where
  | namespaceRequired
  | invalidDocument
  | scopeMismatch
  | identityChanged
  | conflictExhausted
  deriving DecidableEq

/-- The errors of a recovery operation: its own, an `ensure!` with its text, a request's own
validation, and the managed storage below. -/
inductive Failure where
  | recovery (error : RecoveryError)
  | ensure (message : String)
  | request (error : ApiError)
  | storage
  deriving DecidableEq

structure RecoveryRecordIdentity where
  ownerUserId : String
  billingAccountGroupId : String
  clientRequestId : String
  authEpoch : Nat
  deriving DecidableEq

/-- The lease of a user namespace: the login epoch and the relocation of retained paths into
the namespace directory of this lease. -/
structure NamespaceLease where
  authEpoch : Nat
  remapPath : String → String

structure NamespaceStorageAuthority where
  userPublicId : String
  lease : NamespaceLease

namespace RecoveryRecordIdentity

def validate (identity : RecoveryRecordIdentity) : Except Failure Unit :=
  rejectIf (!canonicalUuid identity.ownerUserId || !canonicalUuid identity.billingAccountGroupId ||
    trimIsEmpty identity.clientRequestId) (.recovery .invalidDocument)

def requireAuthority (identity : RecoveryRecordIdentity) (authority : NamespaceStorageAuthority)
    (currentEpoch : Bool) : Except Failure Unit := do
  identity.validate
  rejectIf (identity.ownerUserId ≠ authority.userPublicId ∨
    (currentEpoch ∧ identity.authEpoch ≠ authority.lease.authEpoch)) (.recovery .scopeMismatch)

def requireScope (identity : RecoveryRecordIdentity) (authority : NamespaceStorageAuthority)
    (scope : BillingScope) : Except Failure Unit := do
  identity.requireAuthority authority true
  rejectIf (identity.ownerUserId ≠ scope.session.ownerUserId ∨
    identity.authEpoch ≠ scope.session.authEpoch ∨
    identity.billingAccountGroupId ≠ scope.accountGroupId) (.recovery .scopeMismatch)

theorem requireScope_ok {identity : RecoveryRecordIdentity}
    {authority : NamespaceStorageAuthority} {scope : BillingScope} :
    identity.requireScope authority scope = .ok () ↔
      identity.requireAuthority authority true = .ok () ∧
        identity.ownerUserId = scope.session.ownerUserId ∧
        identity.authEpoch = scope.session.authEpoch ∧
        identity.billingAccountGroupId = scope.accountGroupId := by
  simp only [requireScope, bind_eq_ok, exists_unit, rejectIf_eq_ok]
  push Not
  rfl

end RecoveryRecordIdentity

/-- A record that a recovery document holds as a row. Its epoch is the one part of its
identity that is ever written. -/
class RecoveryRow (R : Type) where
  identity : R → RecoveryRecordIdentity
  schemaVersion : R → Nat
  setAuthEpoch : Nat → R → R
  identity_setAuthEpoch : ∀ epoch row,
    identity (setAuthEpoch epoch row) = { identity row with authEpoch := epoch }

def clientRequestId {R : Type} [RecoveryRow R] (row : R) : String :=
  (RecoveryRow.identity row).clientRequestId

structure PendingDeliveryRecord where
  itemIndex : Nat
  fileId : String
  sha256 : String
  sizeBytes : Nat
  localPath : String := ""
  acknowledged : Bool := false
  failedAssetId : String := ""
  abandoned : Bool := false
  deriving DecidableEq

def PendingDeliveryRecord.settled (delivery : PendingDeliveryRecord) : Bool :=
  delivery.acknowledged || delivery.abandoned

structure PendingGenerationRecord where
  sourceAssetId : String := ""
  videoPreviewPath : String := ""
  videoRequest : Option CreateVideoGenerationTask := none
  schemaVersion : Nat := recoverySchemaVersion
  cancelRequested : Bool := false
  createdAtEpochMs : Int := 0
  clientRequestId : String
  ownerUserId : String
  billingAccountGroupId : String
  authEpoch : Nat
  localTaskId : String
  serverTaskId : String := ""
  rawPrompt : String
  generationPrompt : String
  taskType : String
  category : String
  mode : String
  ratio : String
  quality : String
  modelCode : String
  conversationId : String
  count : Int
  targetWidth : Nat := 0
  targetHeight : Nat := 0
  createConversation : Bool
  referencePaths : List String := []
  referenceSha256 : List String := []
  referenceSizeBytes : List Nat := []
  lineageReferencePaths : List String := []
  uploadedFileIds : List String := []
  deliveries : List PendingDeliveryRecord := []
  terminal : Bool := false
  expectedSuccessCount : Nat := 0
  canvasSourceNodeId : String := ""
  canvasWorkflowId : String := ""
  canvasUiExtraction : Bool := false
  deriving DecidableEq

structure PendingOrderRecord where
  schemaVersion : Nat := recoverySchemaVersion
  kind : String
  clientRequestId : String
  ownerUserId : String
  billingAccountGroupId : String
  authEpoch : Nat
  orderId : String := ""
  productCode : String
  upgradeQuoteId : String := ""
  presentationDismissed : Bool := false
  createdAt : String
  deriving DecidableEq

structure PendingPromptTaskRecord where
  schemaVersion : Nat := recoverySchemaVersion
  createdAtEpochMs : Int := 0
  clientRequestId : String
  ownerUserId : String
  billingAccountGroupId : String
  authEpoch : Nat
  serverTaskId : String := ""
  taskType : String
  modelCode : String
  prompt : String
  targetLanguage : Option String := none
  optimize : Bool := false
  targetKind : String
  targetId : String := ""
  targetCategory : String := ""
  targetInput : String := ""
  appendResult : Bool := false
  activityKind : String := ""
  referencePaths : List String := []
  referenceSha256 : List String := []
  referenceSizeBytes : List Nat := []
  uploadedFileIds : List String := []
  resultPrompt : String := ""
  terminalError : String := ""
  appliedToTarget : Bool := false
  resultCommitted : Bool := false
  cancelRequested : Bool := false
  submissionStarted : Bool := true
  deriving DecidableEq

inductive PendingPromptOptimizationOperation where
  | create (request : CreatePromptOptimization)
  | retry (sourceJobId : String)
  deriving DecidableEq

structure PendingPromptOptimizationRecord where
  schemaVersion : Nat := recoverySchemaVersion
  clientRequestId : String
  ownerUserId : String
  authEpoch : Nat
  billingAccountGroupId : String
  serverJobId : String
  presentationDismissed : Bool := false
  operation : PendingPromptOptimizationOperation
  deriving DecidableEq

instance : RecoveryRow PendingGenerationRecord where
  identity r := ⟨r.ownerUserId, r.billingAccountGroupId, r.clientRequestId, r.authEpoch⟩
  schemaVersion r := r.schemaVersion
  setAuthEpoch epoch r := { r with authEpoch := epoch }
  identity_setAuthEpoch _ _ := rfl

instance : RecoveryRow PendingOrderRecord where
  identity r := ⟨r.ownerUserId, r.billingAccountGroupId, r.clientRequestId, r.authEpoch⟩
  schemaVersion r := r.schemaVersion
  setAuthEpoch epoch r := { r with authEpoch := epoch }
  identity_setAuthEpoch _ _ := rfl

instance : RecoveryRow PendingPromptTaskRecord where
  identity r := ⟨r.ownerUserId, r.billingAccountGroupId, r.clientRequestId, r.authEpoch⟩
  schemaVersion r := r.schemaVersion
  setAuthEpoch epoch r := { r with authEpoch := epoch }
  identity_setAuthEpoch _ _ := rfl

instance : RecoveryRow PendingPromptOptimizationRecord where
  identity r := ⟨r.ownerUserId, r.billingAccountGroupId, r.clientRequestId, r.authEpoch⟩
  schemaVersion r := r.schemaVersion
  setAuthEpoch epoch r := { r with authEpoch := epoch }
  identity_setAuthEpoch _ _ := rfl

/-- `generation_record_complete`: the task ended, its inputs are released, and at least the
expected number of deliveries are settled with none left open. -/
def generationRecordComplete (record : PendingGenerationRecord) : Bool :=
  record.terminal && record.referencePaths.isEmpty && record.referenceSha256.isEmpty &&
    record.referenceSizeBytes.isEmpty && record.deliveries.all (·.settled) &&
    record.expectedSuccessCount ≤ (record.deliveries.filter (·.settled)).length

end ArtForgeStudio.Recovery
