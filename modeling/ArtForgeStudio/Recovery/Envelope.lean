import ArtForgeStudio.Recovery.Record
import ArtForgeStudio.Library.KeyedRows

/-! # The three recovery documents

Every document is validated when it is read and again before it is written. A mutation also
compares the identities of the rows before and after it with what its permission allows, and
the bodies of the retained video requests with each other.
-/

namespace ArtForgeStudio.Recovery

open ArtForgeStudio.Api ArtForgeStudio.Outcome ArtForgeStudio.KeyedRows

inductive RowKind where
  | generation
  | prompt
  | deep
  | order
  deriving DecidableEq

/-- The derived order of the kinds -/
def RowKind.rank : RowKind → Nat
  | .generation => 0
  | .prompt => 1
  | .deep => 2
  | .order => 3

abbrev Identities := List (RowKind × RecoveryRecordIdentity)

/-- What an envelope shows of a row. -/
structure RowView where
  identity : RecoveryRecordIdentity
  schemaVersion : Nat

def RowView.of {R : Type} [RecoveryRow R] (row : R) : RowView :=
  ⟨RecoveryRow.identity row, RecoveryRow.schemaVersion row⟩

def RowView.validate (row : RowView) (authority : NamespaceStorageAuthority) :
    Except Failure Unit := do
  row.identity.validate
  rejectIf (row.schemaVersion ≠ recoverySchemaVersion ∨
    row.identity.ownerUserId ≠ authority.userPublicId) (.recovery .invalidDocument)

/-- The part of a row that a retained video request must keep. Its wire value determines it. -/
structure RetainedBody where
  taskType : String
  videoRequest : Option CreateVideoGenerationTask
  sourceAssetId : String
  deriving DecidableEq

/-- A map that was collected from pairs: the last pair of a key is the one it holds. -/
def bodyOf (bodies : List (String × RetainedBody)) (key : String) : Option RetainedBody :=
  (bodies.reverse.find? (·.1 = key)).map (·.2)

class RecoveryEnvelope (D : Type) where
  empty : D
  schemaVersion : D → Nat
  rows : D → List (RowKind × RowView)
  retainedRequestBodies : D → List (String × RetainedBody) := fun _ => []
  validateExtra : D → Except Failure Unit := fun _ => .ok ()

section Validation

variable {D : Type} [RecoveryEnvelope D]

/-- The loop of `validate` over the rows, with the keys seen so far. -/
def validateRows (authority : NamespaceStorageAuthority) :
    List (RowKind × RowView) → List String → Except Failure Identities
  | [], _ => .ok []
  | (kind, row) :: rest, keys => do
    row.validate authority
    rejectIf (row.identity.clientRequestId ∈ keys) (.recovery .invalidDocument)
    let identities ← validateRows authority rest (row.identity.clientRequestId :: keys)
    pure ((kind, row.identity) :: identities)

def validate (authority : NamespaceStorageAuthority) (document : D) :
    Except Failure Identities := do
  rejectIf (RecoveryEnvelope.schemaVersion document ≠ recoverySchemaVersion)
    (.recovery .invalidDocument)
  let identities ← validateRows authority (RecoveryEnvelope.rows document) []
  RecoveryEnvelope.validateExtra document
  pure identities

def identitiesOf (rows : List (RowKind × RowView)) : Identities :=
  rows.map fun row => (row.1, row.2.identity)

/-- A document of `user` that validation accepts: one schema, one owner, and one row for a
key over all kinds of rows. -/
structure ValidFor (user : String) (document : D) : Prop where
  schema : RecoveryEnvelope.schemaVersion document = recoverySchemaVersion
  identity : ∀ row ∈ RecoveryEnvelope.rows document, row.2.identity.validate = .ok ()
  rowSchema : ∀ row ∈ RecoveryEnvelope.rows document,
    row.2.schemaVersion = recoverySchemaVersion
  owner : ∀ row ∈ RecoveryEnvelope.rows document, row.2.identity.ownerUserId = user
  unique : UniqueKeys (·.2.clientRequestId) (identitiesOf (RecoveryEnvelope.rows document))
  extra : RecoveryEnvelope.validateExtra document = .ok ()

theorem validateRows_ok {authority : NamespaceStorageAuthority}
    {rows : List (RowKind × RowView)} {keys : List String} {identities : Identities} :
    validateRows authority rows keys = .ok identities ↔
      (∀ row ∈ rows, row.2.validate authority = .ok ()) ∧
        (∀ row ∈ rows, row.2.identity.clientRequestId ∉ keys) ∧
        UniqueKeys (·.2.clientRequestId) (identitiesOf rows) ∧ identities = identitiesOf rows := by
  induction rows generalizing keys identities with
  | nil => simp [validateRows, identitiesOf, UniqueKeys, eq_comm]
  | cons row rest ih =>
    simp only [validateRows, bind_eq_ok, exists_unit, rejectIf_eq_ok, pure_eq_ok, ih,
      identitiesOf, UniqueKeys, List.map_cons, List.nodup_cons, List.map_map, List.mem_map,
      List.mem_cons, forall_eq_or_imp, not_or, Function.comp_apply, not_exists, not_and]
    constructor
    · rintro ⟨hrow, hkey, _, ⟨hrest, hkeys, hunique, rfl⟩, rfl⟩
      exact ⟨⟨hrow, hrest⟩, ⟨hkey, fun r hr => (hkeys r hr).2⟩,
        ⟨fun r hr => (hkeys r hr).1, hunique⟩, rfl⟩
    · rintro ⟨⟨hrow, hrest⟩, ⟨hkey, hkeys⟩, ⟨hfresh, hunique⟩, rfl⟩
      exact ⟨hrow, hkey, _, ⟨hrest, fun r hr => ⟨hfresh r hr, hkeys r hr⟩, hunique, rfl⟩, rfl⟩

theorem RowView.validate_ok {row : RowView} {authority : NamespaceStorageAuthority} :
    row.validate authority = .ok () ↔ row.identity.validate = .ok () ∧
      row.schemaVersion = recoverySchemaVersion ∧
      row.identity.ownerUserId = authority.userPublicId := by
  simp only [RowView.validate, bind_eq_ok, exists_unit, rejectIf_eq_ok, not_or, not_not]

/-- Validation accepts exactly the valid documents and returns the identities of their rows. -/
theorem validate_ok {authority : NamespaceStorageAuthority} {document : D}
    {identities : Identities} :
    validate authority document = .ok identities ↔
      ValidFor authority.userPublicId document ∧
        identities = identitiesOf (RecoveryEnvelope.rows document) := by
  simp only [validate, bind_eq_ok, exists_unit, rejectIf_eq_ok, not_not, pure_eq_ok,
    validateRows_ok, RowView.validate_ok]
  constructor
  · rintro ⟨hschema, _, ⟨hrows, -, hunique, rfl⟩, hextra, rfl⟩
    exact ⟨⟨hschema, fun r hr => (hrows r hr).1, fun r hr => (hrows r hr).2.1,
      fun r hr => (hrows r hr).2.2, hunique, hextra⟩, rfl⟩
  · rintro ⟨hvalid, rfl⟩
    exact ⟨hvalid.schema, _, ⟨fun r hr => ⟨hvalid.identity r hr, hvalid.rowSchema r hr,
      hvalid.owner r hr⟩, by simp, hvalid.unique, rfl⟩, hvalid.extra, rfl⟩

end Validation

structure RecoveryFile where
  schemaVersion : Nat
  generations : List PendingGenerationRecord
  deriving DecidableEq

structure OrderRecoveryFile where
  schemaVersion : Nat
  orders : List PendingOrderRecord
  deriving DecidableEq

structure PromptTaskRecoveryFile where
  schemaVersion : Nat
  promptTasks : List PendingPromptTaskRecord
  deepOptimizations : List PendingPromptOptimizationRecord
  deriving DecidableEq

/-- The loop body of `RecoveryFile::validate_extra` -/
def validateVideoRequest (row : PendingGenerationRecord) : Except Failure Unit :=
  match row.videoRequest with
  | none => .ok ()
  | some request => do
    request.validate.mapError .request
    ensure (request.clientRequestId = row.clientRequestId ∧ request.taskType = row.taskType ∧
      row.taskType = "image_to_video") (.ensure "retained video request identity mismatch")

/-- The rows that are or carry a video request. -/
def isVideo (row : PendingGenerationRecord) : Bool :=
  row.taskType = "image_to_video" || row.videoRequest.isSome

def retainedBody (row : PendingGenerationRecord) : RetainedBody :=
  ⟨row.taskType, row.videoRequest, row.sourceAssetId⟩

instance : RecoveryEnvelope RecoveryFile where
  empty := ⟨recoverySchemaVersion, []⟩
  schemaVersion file := file.schemaVersion
  rows file := file.generations.map fun row => (.generation, RowView.of row)
  retainedRequestBodies file :=
    (file.generations.filter isVideo).map fun row => (row.clientRequestId, retainedBody row)
  validateExtra file := file.generations.forM validateVideoRequest

instance : RecoveryEnvelope OrderRecoveryFile where
  empty := ⟨recoverySchemaVersion, []⟩
  schemaVersion file := file.schemaVersion
  rows file := file.orders.map fun row => (.order, RowView.of row)

/-- The loop body of `PromptTaskRecoveryFile::validate_extra` -/
def validateDeepOptimization (row : PendingPromptOptimizationRecord) : Except Failure Unit := do
  rejectIf (row.presentationDismissed ∧ row.serverJobId = "") (.recovery .invalidDocument)
  rejectIf (row.serverJobId ≠ "" ∧ !canonicalUuid row.serverJobId) (.recovery .invalidDocument)
  match row.operation with
  | .create request =>
    rejectIf (request.clientRequestId ≠ row.clientRequestId) (.recovery .invalidDocument)
  | .retry sourceJobId => rejectIf (!canonicalUuid sourceJobId) (.recovery .invalidDocument)

instance : RecoveryEnvelope PromptTaskRecoveryFile where
  empty := ⟨recoverySchemaVersion, [], []⟩
  schemaVersion file := file.schemaVersion
  rows file := (file.promptTasks.map fun row => (.prompt, RowView.of row)) ++
    file.deepOptimizations.map fun row => (.deep, RowView.of row)
  validateExtra file := file.deepOptimizations.forM validateDeepOptimization

inductive MutationPermission where
  | preserve
  | upsert (kind : RowKind) (identity : RecoveryRecordIdentity)
  | remove (kind : RowKind) (identity : RecoveryRecordIdentity)
  | rebind (kind : RowKind) (identity : RecoveryRecordIdentity) (epoch : Nat)

/-- `partition_point`: on a list whose prefix satisfies `p` and whose rest does not, the
length of that prefix. -/
def partitionPoint {α : Type} (p : α → Bool) (items : List α) : Nat := (items.takeWhile p).length

/-- The identities that the permission expects after a mutation that changed them. -/
def expectedIdentities (before : Identities) : MutationPermission → Except Failure Identities
  | .preserve => .ok before
  | .upsert kind identity => do
    rejectIf (before.any fun saved => saved.2.clientRequestId = identity.clientRequestId)
      (.recovery .identityChanged)
    pure (before.insertIdx (partitionPoint (fun saved => saved.1.rank ≤ kind.rank) before)
      (kind, identity))
  | .remove kind identity => .ok (before.filter (· ≠ (kind, identity)))
  | .rebind kind identity epoch =>
    match before.findIdx? (· = (kind, identity)) with
    | some i => .ok (before.set i (kind, { identity with authEpoch := epoch }))
    | none => .ok before

def validateIdentityDelta (before after : Identities) (permission : MutationPermission) :
    Except Failure Unit :=
  if before = after then .ok () else do
    let expected ← expectedIdentities before permission
    rejectIf (expected ≠ after) (.recovery .identityChanged)

end ArtForgeStudio.Recovery
