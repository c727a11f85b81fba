import ArtForgeStudio.Recovery.Table

/-! # The public operations on recovery documents

Each operation is named as in the source. The four kinds of rows share the operations of
their tables; the patches, deliveries and settlements are edits of one exact row.
-/

namespace ArtForgeStudio.Recovery

open ArtForgeStudio.Api ArtForgeStudio.Outcome ArtForgeStudio.KeyedRows

def generationTable : RowTable RecoveryFile PendingGenerationRecord where
  kind := .generation
  get file := file.generations
  put rows file := { file with generations := rows }
  get_put _ _ := rfl
  put_get _ := rfl
  rows_put _ := ⟨[], [], fun rows => by simp [RecoveryEnvelope.rows]⟩

def promptTable : RowTable PromptTaskRecoveryFile PendingPromptTaskRecord where
  kind := .prompt
  get file := file.promptTasks
  put rows file := { file with promptTasks := rows }
  get_put _ _ := rfl
  put_get _ := rfl
  rows_put file := ⟨[], file.deepOptimizations.map fun row => (.deep, RowView.of row),
    fun rows => by simp [RecoveryEnvelope.rows]⟩

def deepTable : RowTable PromptTaskRecoveryFile PendingPromptOptimizationRecord where
  kind := .deep
  get file := file.deepOptimizations
  put rows file := { file with deepOptimizations := rows }
  get_put _ _ := rfl
  put_get _ := rfl
  rows_put file := ⟨file.promptTasks.map fun row => (.prompt, RowView.of row), [],
    fun rows => by simp [RecoveryEnvelope.rows]⟩

def orderTable : RowTable OrderRecoveryFile PendingOrderRecord where
  kind := .order
  get file := file.orders
  put rows file := { file with orders := rows }
  get_put _ _ := rfl
  put_get _ := rfl
  rows_put _ := ⟨[], [], fun rows => by simp [RecoveryEnvelope.rows]⟩

/-- The stored documents of one user; `none` is an absent file. -/
abbrev GenerationFile := Option RecoveryFile
abbrev PromptFile := Option PromptTaskRecoveryFile
abbrev OrderFile := Option OrderRecoveryFile

variable (answers : StorageAnswers) (authority : NamespaceStorageAuthority)
  (scope : BillingScope) (expected : RecoveryRecordIdentity)

def upsertPendingGeneration (record : PendingGenerationRecord) (stored : GenerationFile) :=
  generationTable.upsert answers authority scope record stored

def removePendingGeneration (stored : GenerationFile) :=
  generationTable.remove answers authority expected stored

/-- The row after a change that may complete it. -/
def dropWhenComplete (record : PendingGenerationRecord) : Option PendingGenerationRecord :=
  if generationRecordComplete record then none else some record

def retireEdit (record : PendingGenerationRecord) :
    Except Failure (Bool × Option PendingGenerationRecord) :=
  if generationRecordComplete record then .ok (true, none) else .ok (false, some record)

/-- A completed record may belong to this owner's previous login: any epoch is accepted. -/
def retireCompletedGeneration (stored : GenerationFile) : Except Failure Bool × GenerationFile :=
  requiring (expected.requireAuthority authority false) stored <|
    generationTable.editExact answers authority (.remove .generation expected) expected
      retireEdit stored

def rebindPendingGenerationEpoch (newAuthEpoch : Nat) (stored : GenerationFile) :=
  generationTable.rebind answers authority expected newAuthEpoch stored

inductive GenerationRecoveryPatch where
  | requestCancellation
  | beginSubmission
  | uploadedFileIds (ids : List String)
  | uploadedAndReleaseInputs (ids : List String)
  | accepted (serverTaskId : String) (uploadedFileIds : List String) (clearReferenceInputs : Bool)
  | releaseReferenceInputs
  | clearDeliveryLocalPaths (ids : List String)
  | terminal (expectedSuccessCount : Nat)
  deriving DecidableEq

def releaseReferenceInputs (record : PendingGenerationRecord) : PendingGenerationRecord :=
  { record with referencePaths := [], referenceSha256 := [], referenceSizeBytes := [] }

namespace GenerationRecoveryPatch

def isTerminal : GenerationRecoveryPatch → Bool
  | terminal _ => true
  | _ => false

/-- The fields a patch writes. -/
def apply (patch : GenerationRecoveryPatch) (record : PendingGenerationRecord) :
    Except Failure PendingGenerationRecord :=
  match patch with
  | requestCancellation => .ok { record with cancelRequested := true }
  | beginSubmission => do
    ensure (!record.cancelRequested) (.ensure "cancelled generation cannot be submitted")
    pure record
  | uploadedFileIds ids => .ok { record with uploadedFileIds := ids }
  | uploadedAndReleaseInputs ids =>
    .ok (Recovery.releaseReferenceInputs { record with uploadedFileIds := ids })
  | accepted taskId ids clearReferenceInputs =>
    let updated := { record with serverTaskId := taskId, uploadedFileIds := ids }
    .ok (if clearReferenceInputs then Recovery.releaseReferenceInputs updated else updated)
  | releaseReferenceInputs => .ok (Recovery.releaseReferenceInputs record)
  | clearDeliveryLocalPaths ids =>
    let clear := fun (item : PendingDeliveryRecord) =>
      if ids.contains item.fileId then { item with localPath := "" } else item
    .ok { record with deliveries := record.deliveries.map clear }
  | terminal expectedSuccessCount =>
    .ok { record with terminal := true, expectedSuccessCount := expectedSuccessCount }

def edit (patch : GenerationRecoveryPatch) (record : PendingGenerationRecord) :
    Except Failure (Bool × Option PendingGenerationRecord) := do
  let updated ← patch.apply record
  pure (true, if patch.isTerminal then dropWhenComplete updated else some updated)

end GenerationRecoveryPatch

def applyGenerationPatch (patch : GenerationRecoveryPatch) (stored : GenerationFile) :
    Except Failure Bool × GenerationFile :=
  requiring (expected.requireAuthority authority true) stored <|
    generationTable.editExact answers authority
      (if patch.isTerminal then .remove .generation expected else .preserve) expected
      patch.edit stored

structure DeliveryConfirmation where
  clientRequestId : String
  itemIndex : Nat
  taskId : String
  fileId : String
  sha256 : String
  sizeBytes : Nat
  failedAssetId : Option String
  deriving DecidableEq

/-- The only delivery that satisfies the predicate; two of them are an invalid document. -/
def deliveryIndex (record : PendingGenerationRecord) (predicate : PendingDeliveryRecord → Bool) :
    Except Failure (Option Nat) :=
  match record.deliveries.zipIdx.filter (predicate ·.1) with
  | [] => .ok none
  | [found] => .ok (some found.2)
  | _ => .error (.recovery .invalidDocument)

def modifyDelivery (record : PendingGenerationRecord) (index : Nat)
    (change : PendingDeliveryRecord → PendingDeliveryRecord) : PendingGenerationRecord :=
  { record with deliveries := record.deliveries.modify index change }

def saveDeliveryEdit (delivery : DeliveryConfirmation) (value : String) (failed : Bool)
    (record : PendingGenerationRecord) :
    Except Failure (Bool × Option PendingGenerationRecord) := do
  match ← deliveryIndex record (·.fileId = delivery.fileId) with
  | some index =>
    pure (true, some (modifyDelivery record index fun item =>
      if failed then { item with failedAssetId := value } else { item with localPath := value }))
  | none =>
    pure (true, some { record with deliveries := record.deliveries ++ [{
      itemIndex := delivery.itemIndex
      fileId := delivery.fileId
      sha256 := delivery.sha256
      sizeBytes := delivery.sizeBytes
      localPath := if failed then "" else value
      failedAssetId := if failed then value else ""
      acknowledged := false
      abandoned := false }] })

def saveDelivery (delivery : DeliveryConfirmation) (value : String) (failed : Bool)
    (stored : GenerationFile) : Except Failure Bool × GenerationFile :=
  requiring (expected.requireAuthority authority true) stored <|
    generationTable.editExact answers authority .preserve expected
      (saveDeliveryEdit delivery value failed) stored

def pendingDeliverySaved (delivery : DeliveryConfirmation) (localPath : String)
    (stored : GenerationFile) :=
  saveDelivery answers authority expected delivery localPath false stored

def pendingDeliveryFailed (delivery : DeliveryConfirmation) (failedAssetId : String)
    (stored : GenerationFile) :=
  saveDelivery answers authority expected delivery failedAssetId true stored

/-- The delivery that an acknowledgement or an abandonment names. -/
def namesDelivery (value : String) (abandon : Bool) (item : PendingDeliveryRecord) : Bool :=
  if abandon then item.failedAssetId = value else item.fileId = value

def settleMark (abandon : Bool) (item : PendingDeliveryRecord) : PendingDeliveryRecord :=
  if abandon then { item with abandoned := true } else { item with acknowledged := true }

/-- The field update of `settle_delivery`: `none` when there is no such delivery. -/
def settleUpdate (value : String) (abandon : Bool) (record : PendingGenerationRecord) :
    Except Failure (Option PendingGenerationRecord) := do
  if trimIsEmpty value then pure none else
  match ← deliveryIndex record (namesDelivery value abandon) with
  | none => pure none
  | some index =>
    -- A duplicated file identity cannot authorize an ambiguous settlement.
    let fileId := record.deliveries[index]?.map (·.fileId)
    let _ ← deliveryIndex record (some ·.fileId = fileId)
    pure (some (modifyDelivery record index (settleMark abandon)))

def settledEdit (updated : Except Failure (Option PendingGenerationRecord))
    (record : PendingGenerationRecord) : Except Failure (Bool × Option PendingGenerationRecord) := do
  match ← updated with
  | none => pure (false, some record)
  | some updated => pure (true, dropWhenComplete updated)

def settleDelivery (value : String) (abandon : Bool) (stored : GenerationFile) :
    Except Failure Bool × GenerationFile :=
  requiring (expected.requireAuthority authority true) stored <|
    generationTable.editExact answers authority (.remove .generation expected) expected
      (fun record => settledEdit (settleUpdate value abandon record) record) stored

def pendingDeliveryAcknowledged (fileId : String) (stored : GenerationFile) :=
  settleDelivery answers authority expected fileId false stored

def abandonPendingDelivery (failedAssetId : String) (stored : GenerationFile) :=
  settleDelivery answers authority expected failedAssetId true stored

structure AcknowledgedCutoutDelivery where
  authority : NamespaceStorageAuthority
  record : PendingGenerationRecord
  confirmation : DeliveryConfirmation
  remotePath : String

/-- The closure `stable`: the record without what deliveries and the end of the task write,
with its paths relocated. -/
def stableRecord (authority : NamespaceStorageAuthority) (record : PendingGenerationRecord) :
    PendingGenerationRecord :=
  { record with
    deliveries := []
    terminal := false
    expectedSuccessCount := 0
    referencePaths := record.referencePaths.map authority.lease.remapPath
    lineageReferencePaths := record.lineageReferencePaths.map authority.lease.remapPath }

/-- The delivery is the one the server confirmed and nothing has settled it. -/
def cutoutConfirmed (receipt : AcknowledgedCutoutDelivery) (delivery : PendingDeliveryRecord) :
    Bool :=
  let confirmation := receipt.confirmation
  delivery.fileId = confirmation.fileId && delivery.itemIndex = confirmation.itemIndex &&
    delivery.sha256 = confirmation.sha256 && delivery.sizeBytes = confirmation.sizeBytes &&
    delivery.localPath = receipt.remotePath && !delivery.abandoned && !delivery.acknowledged &&
    delivery.failedAssetId = "" && confirmation.failedAssetId.isNone

def cutoutUpdate (receipt : AcknowledgedCutoutDelivery) (record : PendingGenerationRecord) :
    Except Failure (Option PendingGenerationRecord) := do
  let confirmation := receipt.confirmation
  ensure (stableRecord receipt.authority record = stableRecord receipt.authority receipt.record ∧
      record.terminal ∧ record.expectedSuccessCount = 1 ∧ record.deliveries.length = 1)
    (.ensure "cutout acknowledgement retained body or terminal state changed")
  match ← deliveryIndex record (fun item => item.fileId = confirmation.fileId ||
      item.itemIndex = confirmation.itemIndex) with
  | none => pure none
  | some index =>
    ensure (record.deliveries[index]?.any (cutoutConfirmed receipt))
      (.ensure "cutout acknowledgement original remote confirmation changed")
    pure (some (releaseReferenceInputs (modifyDelivery record index (settleMark false))))

def settleAcknowledgedCutoutDelivery (receipt : AcknowledgedCutoutDelivery)
    (stored : GenerationFile) : Except Failure Bool × GenerationFile :=
  let original := receipt.record
  let expected := RecoveryRow.identity original
  let confirmation := receipt.confirmation
  requiring (expected.requireAuthority receipt.authority true) stored <|
  requiring (ensure (original.taskType = "image_cutout" ∧ original.count = 1 ∧
      original.referencePaths.length = 1 ∧ original.referenceSha256.length = 1 ∧
      original.referenceSizeBytes.length = 1 ∧
      confirmation.clientRequestId = original.clientRequestId ∧
      confirmation.taskId = original.serverTaskId ∧ confirmation.itemIndex = 0)
    (.ensure "cutout acknowledgement provenance is incomplete")) stored <|
    generationTable.editExact answers receipt.authority (.remove .generation expected) expected
      (fun record => settledEdit (cutoutUpdate receipt record) record) stored

def upsertPendingPromptTask (record : PendingPromptTaskRecord) (stored : PromptFile) :=
  promptTable.upsert answers authority scope record stored

def removePendingPromptTask (stored : PromptFile) :=
  promptTable.remove answers authority expected stored

def rebindPendingPromptTaskEpoch (newAuthEpoch : Nat) (stored : PromptFile) :=
  promptTable.rebind answers authority expected newAuthEpoch stored

inductive PromptTaskRecoveryPatch where
  | requestCancellation
  | beginSubmission
  | uploadedFileIds (ids : List String)
  | serverTaskId (id : String)
  | terminalError (error : String)
  | resultPrompt (prompt : String)
  | resultCommitted
  | appliedToTarget
  | releaseCustomPromptResult
  deriving DecidableEq

def PromptTaskRecoveryPatch.apply (patch : PromptTaskRecoveryPatch)
    (record : PendingPromptTaskRecord) : Except Failure PendingPromptTaskRecord :=
  match patch with
  | requestCancellation => .ok { record with cancelRequested := true }
  | beginSubmission => do
    ensure (!record.cancelRequested) (.ensure "cancelled prompt cannot be submitted")
    pure { record with submissionStarted := true }
  | uploadedFileIds ids => .ok { record with uploadedFileIds := ids }
  | serverTaskId id => .ok { record with serverTaskId := id }
  | terminalError error => .ok { record with terminalError := error }
  | resultPrompt prompt => .ok { record with resultPrompt := prompt }
  | resultCommitted => .ok { record with resultCommitted := true }
  | appliedToTarget => .ok { record with appliedToTarget := true }
  | releaseCustomPromptResult =>
    .ok { record with appliedToTarget := false, resultCommitted := true }

def applyPromptTaskPatch (patch : PromptTaskRecoveryPatch) (stored : PromptFile) :
    Except Failure Bool × PromptFile :=
  requiring (expected.requireAuthority authority true) stored <|
    promptTable.editExact answers authority .preserve expected
      (fun record => (patch.apply record).map (true, some ·)) stored

/-- The check in front of the upsert: a retained optimization keeps its operation and its
job, and its dismissal is not taken back. -/
def deepUpsertCheck (rows : List PendingPromptOptimizationRecord)
    (record : PendingPromptOptimizationRecord) : Except Failure Unit :=
  match rows.find? (·.clientRequestId = record.clientRequestId) with
  | none => .ok ()
  | some saved =>
    rejectIf (saved.operation ≠ record.operation ∨ saved.serverJobId ≠ record.serverJobId ∨
      (saved.presentationDismissed ∧ !record.presentationDismissed)) (.recovery .identityChanged)

def upsertPendingPromptOptimization (record : PendingPromptOptimizationRecord)
    (stored : PromptFile) : Except Failure Unit × PromptFile :=
  let identity := RecoveryRow.identity record
  requiring (identity.requireScope authority scope) stored <|
    mutate answers authority (.upsert .deep identity)
      (fun _ => deepTable.onRows fun rows => do
        deepUpsertCheck rows record
        let rows ← upsertRow rows record
        pure ((), rows)) stored

def removePendingPromptOptimization (stored : PromptFile) :=
  deepTable.remove answers authority expected stored

def rebindPendingPromptOptimizationEpoch (newAuthEpoch : Nat) (stored : PromptFile) :=
  deepTable.rebind answers authority expected newAuthEpoch stored

def dismissDeepEdit (serverJobId : String) (row : PendingPromptOptimizationRecord) :
    Except Failure (Bool × Option PendingPromptOptimizationRecord) :=
  if row.serverJobId ≠ serverJobId then .ok (false, some row)
  else .ok (true, some { row with presentationDismissed := true })

/-- Presentation-only closure of an exact retained job: it is read once before the mutation. -/
def markPendingPromptOptimizationPresentationDismissed (readable : Bool)
    (expectedServerJobId : String) (stored : PromptFile) : Except Failure Bool × PromptFile :=
  requiring (expected.requireAuthority authority false) stored <|
  requiring (ensure (canonicalUuid expectedServerJobId)
    (.ensure "dismissal requires an exact canonical job")) stored <|
  match load readable authority stored with
  | .error failure => (.error failure, stored)
  | .ok retained =>
    match exactIndex retained.deepOptimizations expected with
    | none => (.ok false, stored)
    | some (row, _) =>
      if row.serverJobId ≠ expectedServerJobId then (.ok false, stored)
      else if row.presentationDismissed then (.ok true, stored)
      else deepTable.editExact answers authority .preserve expected
        (dismissDeepEdit expectedServerJobId) stored

def updatePendingPromptOptimizationJobId (value : String) (stored : PromptFile) :
    Except Failure Bool × PromptFile :=
  requiring (expected.requireAuthority authority true) stored <|
  requiring (rejectIf (trimIsEmpty value || !canonicalUuid value) (.recovery .invalidDocument))
    stored <|
    deepTable.editExact answers authority .preserve expected
      (fun row => .ok (true, some { row with serverJobId := value })) stored

def upsertPendingOrder (record : PendingOrderRecord) (stored : OrderFile) :=
  orderTable.upsert answers authority scope record stored

def removePendingOrder (stored : OrderFile) :=
  orderTable.remove answers authority expected stored

def rebindPendingOrderEpoch (newAuthEpoch : Nat) (stored : OrderFile) :=
  orderTable.rebind answers authority expected newAuthEpoch stored

def dismissPendingOrder (stored : OrderFile) : Except Failure Bool × OrderFile :=
  requiring (expected.requireAuthority authority false) stored <|
    orderTable.editExact answers authority .preserve expected
      (fun row => .ok (true, some { row with presentationDismissed := true })) stored

/-- The two updates of an order write one non-empty value each. -/
def updatePendingOrder (write : String → PendingOrderRecord → PendingOrderRecord) (value : String)
    (stored : OrderFile) : Except Failure Bool × OrderFile :=
  requiring (expected.requireAuthority authority true) stored <|
  requiring (rejectIf (trimIsEmpty value) (.recovery .invalidDocument)) stored <|
    orderTable.editExact answers authority .preserve expected
      (fun row => .ok (true, some (write value row))) stored

def updatePendingOrderId (value : String) (stored : OrderFile) :=
  updatePendingOrder answers authority expected (fun id row => { row with orderId := id })
    value stored

def updatePendingOrderQuoteId (value : String) (stored : OrderFile) :=
  updatePendingOrder answers authority expected (fun id row => { row with upgradeQuoteId := id })
    value stored

end ArtForgeStudio.Recovery
