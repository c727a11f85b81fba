import ArtForgeStudio.FileIndex.Queries
import Mathlib.Algebra.Ring.Int.Defs

/-! # The operations of the file index

An operation looks up what it is about, opens the files, and in one transaction looks again before
it writes. Between the two looks other operations may run, so the first look is of any earlier
tables.
-/

namespace ArtForgeStudio.FileIndex

open ArtForgeStudio.Outcome ArtForgeStudio.Directories ArtForgeStudio.Api

/-- A file that is held open. -/
structure NamespaceManagedFile where
  key : ManagedFileKey
  capability : Nat
  deriving DecidableEq

/-- The user and what the namespace says of the files. -/
structure NamespaceStorageAuthority where
  userPublicId : String
  openOptionalRegular : ManagedFileKey → Except String (Option NamespaceManagedFile)
  inspect : NamespaceManagedFile → Except String ManagedFileMetadata

/-- What one call meets: its authority, the tables at its two first looks, the clock, and the
identifiers that the database gives to new rows. -/
structure Call where
  authority : NamespaceStorageAuthority
  discovered : Index
  rediscovered : Index
  timestamp : Int
  fileRowid : List Int → Int
  previewRowid : List Int → Int

def Call.user (call : Call) : String := call.authority.userPublicId

structure NamespacedManagedFileRegistration where
  file : NamespaceManagedFile
  kind : String
  retentionPolicy : String

structure NamespacedFileReferenceRegistration where
  file : NamespacedManagedFileRegistration
  ownerType : String
  ownerId : String

structure OrphanCandidate where
  key : ManagedFileKey
  physicalIdentity : StableFileIdentity
  byteSize : Nat
  modifiedAt : Int
  indexedFileId : Option Int

/-- A step of a transaction. -/
abbrev Transaction (A : Type) := Index → Except FileIndexError (A × Index)

def NamespaceStorageAuthority.inspected (authority : NamespaceStorageAuthority)
    (check : NamespaceManagedFile × Option StableFileIdentity) :
    Except FileIndexError ManagedFileMetadata := do
  let info ← (authority.inspect check.1).mapError FileIndexError.capability
  ensure (check.2.all (· = info.identity)) (.capability "persisted file identity mismatch")
  pure info

/-- `with_current_regular_files` -/
def NamespaceStorageAuthority.withCurrentRegularFiles {A : Type}
    (authority : NamespaceStorageAuthority)
    (files : List (NamespaceManagedFile × Option StableFileIdentity))
    (operation : List ManagedFileMetadata → Except FileIndexError A) : Except FileIndexError A := do
  ensure (files ≠ []) (.capability "empty managed file validation set")
  let metadata ← files.mapM authority.inspected
  operation metadata

/-- The two lookups of a file must agree with each other and with the file. -/
def conflicting (key : ManagedFileKey) (metadata : ManagedFileMetadata)
    (existing identity : Option ManagedFileRecord) (identityKey : Option ManagedFileKey) : Bool :=
  existing.any (·.physicalIdentity ≠ metadata.identity) || identityKey.any (· ≠ key) ||
    existing.map (·.id) ≠ identity.map (·.id)

/-- The row that a registration inserts. -/
def newFile (user : String) (registration : NamespacedManagedFileRegistration)
    (identity : StableFileIdentity) (bytes timestamp rowid : Int) : ManagedFileRow where
  id := rowid
  userPublicId := user
  managedArea := registration.file.key.area.storageName
  physicalIdentity := identity.toStorageBytes
  path := registration.file.key.relativeName.text
  kind := registration.kind
  byteSize := bytes
  managed := true
  retentionPolicy := registration.retentionPolicy
  createdAt := timestamp
  lastAccessedAt := timestamp
  pendingDelete := false

/-- What a registration sets of a row. -/
def registered (registration : NamespacedManagedFileRegistration) (bytes timestamp : Int)
    (row : ManagedFileRow) : ManagedFileRow :=
  { row with
    kind := registration.kind
    byteSize := bytes
    managed := true
    retentionPolicy := registration.retentionPolicy
    lastAccessedAt := max row.lastAccessedAt timestamp
    pendingDelete := false }

/-- A record that is expected to be there. -/
def expected {A : Type} (error : FileIndexError) (found : Option A) : Except FileIndexError A :=
  match found with
  | some record => .ok record
  | none => .error error

/-- The row that is there is updated, or a new one is inserted. -/
def storeRegistration (call : Call) (registration : NamespacedManagedFileRegistration)
    (identity : StableFileIdentity) (bytes : Int) (existing : Option ManagedFileRecord)
    (index : Index) : Except FileIndexError Index :=
  match existing with
  | some record => index.updateFile call.user record.id (registered registration bytes call.timestamp)
  | none =>
    index.insertFile (newFile call.user registration identity bytes call.timestamp
      (call.fileRowid (index.files.map (·.id))))

def registerGuarded (call : Call) (registration : NamespacedManagedFileRegistration)
    (metadata : ManagedFileMetadata) : Transaction ManagedFileRecord := fun index => do
  let key := registration.file.key
  let bytes ← toSqlI64 "byte_size" metadata.byteSize
  let _ ← systemTimeNs metadata.modifiedAt
  let existing ← index.queryKey call.user key
  let identity ← index.queryIdentity call.user metadata.identity
  let identityKey ← decoded recordKey identity
  rejectIf (conflicting key metadata existing identity identityKey = true) identityConflict
  let index ← storeRegistration call registration metadata.identity bytes existing index
  let record ← index.queryKey call.user key >>= expected (.damaged "registered row unavailable")
  pure (record, index)

/-- The file of a record, or that it is missing. -/
def openRecord (call : Call) (record : ManagedFileRecord) :
    Except FileIndexError NamespaceManagedFile := do
  let key ← recordKey record
  (call.authority.openOptionalRegular key).mapError FileIndexError.capability >>=
    expected .missingManagedFile

/-- The record is still that of its row. -/
def recheck (call : Call) (index : Index) (record : ManagedFileRecord) :
    Except FileIndexError Unit := do
  let current ← index.queryFile call.user record.id
  ensure (current = some record) .concurrentChange

def withRecords {A : Type} (call : Call) (records : List ManagedFileRecord)
    (operation : List ManagedFileMetadata → Transaction A) : Transaction A := fun index => do
  let files ← records.mapM (openRecord call)
  let checks := files.zip (records.map fun record => some record.physicalIdentity)
  call.authority.withCurrentRegularFiles checks fun metadata => do
    records.forM (recheck call index)
    operation metadata index

def fileOperation {A : Type} (call : Call) (id : Int) (absent : A)
    (operation : ManagedFileRecord → Transaction A) : Transaction A := fun index => do
  match ← call.discovered.queryFile call.user id with
  | none => pure (absent, index)
  | some record => withRecords call [record] (fun _ => operation record) index

def withPreviews {A : Type} (call : Call) (records : List PreviewCacheRecord)
    (requery : Index → Except FileIndexError (List PreviewCacheRecord))
    (operation : Transaction A) : Transaction A := fun index => do
  let files ← (records.flatMap fun preview => [preview.sourceFileId, preview.previewFileId]).mapM
    fun id => call.rediscovered.queryFile call.user id >>= expected .concurrentChange
  withRecords call files (fun _ index => do
    let current ← requery index
    ensure (current = records) .concurrentChange
    operation index) index

def registerFile (call : Call) (registration : NamespacedManagedFileRegistration) :
    Transaction ManagedFileRecord := fun index =>
  call.authority.withCurrentRegularFiles [(registration.file, none)] fun metadata => do
    let metadata ← expected (.capability "index out of bounds") metadata.head?
    registerGuarded call registration metadata index

def findFileByPath (call : Call) (area : ManagedUserArea) (relativeName : String) :
    Transaction (Option ManagedFileRecord) := fun index => do
  let key ← (ManagedFileKey.new area relativeName).mapError FileIndexError.invalidValue
  match ← call.discovered.queryKey call.user key with
  | none => pure (none, index)
  | some record => withRecords call [record] (fun _ index => pure (some record, index)) index

def findFileById (call : Call) (fileId : Int) : Transaction (Option ManagedFileRecord) :=
  fileOperation call fileId none fun record index => pure (some record, index)

def markPendingDelete (call : Call) (fileId : Int) (pending : Bool) : Transaction Bool :=
  fileOperation call fileId false fun _ index => do
    let changed := index.files.any (·.owned call.user fileId)
    let index ← index.updateFile call.user fileId fun row => { row with pendingDelete := pending }
    pure (changed, index)

def deleteFile (call : Call) (fileId : Int) : Transaction Bool :=
  fileOperation call fileId false fun _ index =>
    pure (index.files.any (·.owned call.user fileId), index.deleteFile call.user fileId)

def attachReference (call : Call) (fileId : Int) (ownerType ownerId : String) :
    Transaction Bool := fun index => do
  let ownerType ← requiredText "owner_type" ownerType
  let ownerId ← requiredText "owner_id" ownerId
  let record ← call.discovered.queryFile call.user fileId >>=
    expected (.invalidValue "reference target is not owned")
  withRecords call [record] (fun _ index =>
    index.insertReference ⟨call.user, fileId, ownerType, ownerId, call.timestamp⟩) index

def detachReference (call : Call) (fileId : Int) (ownerType ownerId : String) :
    Transaction Bool := fun index => do
  let ownerType ← requiredText "owner_type" ownerType
  let ownerId ← requiredText "owner_id" ownerId
  fileOperation call fileId false (fun _ index =>
    pure (index.deleteReferences fun row => row.key = (call.user, fileId, ownerType, ownerId)))
    index

def referenceCount (call : Call) (fileId : Int) : Transaction Nat :=
  fileOperation call fileId 0 fun _ index => pure (index.referenceCountOwned call.user fileId, index)

def clearAllReferences (call : Call) : Transaction Unit := fun index =>
  pure ((), (index.deleteReferences fun row => row.userPublicId = call.user).2)

/-- One registration of a replacement, with its file and its reference. -/
def replaceReference (call : Call) (index : Index)
    (item : NamespacedFileReferenceRegistration × ManagedFileMetadata × String × String) :
    Except FileIndexError Index := do
  let (registration, metadata, ownerType, ownerId) := item
  let (record, registered) ← registerGuarded call registration.file metadata index
  let (_, referenced) ←
    registered.insertReference ⟨call.user, record.id, ownerType, ownerId, call.timestamp⟩
  pure referenced

def replaceAllReferences (call : Call) (registrations : List NamespacedFileReferenceRegistration) :
    Transaction Unit := fun index => do
  if registrations = [] then clearAllReferences call index else
  let owners ← registrations.mapM fun registration => do
    let ownerType ← requiredText "owner_type" registration.ownerType
    let ownerId ← requiredText "owner_id" registration.ownerId
    pure (ownerType, ownerId)
  call.authority.withCurrentRegularFiles (registrations.map fun registration =>
      (registration.file.file, none)) fun metadata => do
    let index := (index.deleteReferences fun row => row.userPublicId = call.user).2
    let index ← (registrations.zip (metadata.zip owners)).foldlM (replaceReference call) index
    pure ((), index)

/-- `GROUP BY kind ORDER BY kind` -/
def statsByKind (call : Call) : Transaction (List FileKindStats) := fun index => do
  let rows := index.files.filter fun row => row.userPublicId = call.user
  let kinds := (rows.map (·.kind)).dedup.mergeSort fun a b => a ≤ b
  let stats ← kinds.mapM fun kind => do
    let group := rows.filter fun row => row.kind = kind
    let byteSize ← nonnegativeU64 "bytes" (group.map (·.byteSize)).sum
    pure
      { kind := kind
        fileCount := group.length
        byteSize := byteSize
        managedCount := group.countP (·.managed)
        pendingDeleteCount := group.countP (·.pendingDelete) }
  pure (stats, index)

/-- The row that a registration of a preview inserts. -/
def newPreview (call : Call) (registration : PreviewRegistration) (status : String) (bytes : Int)
    (rowid : Int) : PreviewCacheRow where
  userPublicId := call.user
  id := rowid
  sourceFileId := registration.key.sourceFileId
  previewFileId := registration.previewFileId
  purpose := trim registration.key.purpose
  longestEdge := registration.key.longestEdge
  sourceSize := bytes
  sourceMtimeNs := registration.sourceMtimeNs
  cacheVersion := registration.key.cacheVersion
  status := status
  lastAccessedAt := registration.lastAccessedAt
  createdAt := call.timestamp
  updatedAt := call.timestamp

def accessed (accessedAt : Int) (row : ManagedFileRow) : ManagedFileRow :=
  { row with lastAccessedAt := max row.lastAccessedAt accessedAt }

/-- The source is still the file that the preview was made of. -/
def checkSource (registration : PreviewRegistration) (source : ManagedFileMetadata) :
    Except FileIndexError Unit := do
  let changed := FileIndexError.invalidValue "preview source metadata changed"
  ensure (source.byteSize = registration.sourceSize) changed
  let mtime ← systemTimeNs source.modifiedAt
  ensure (mtime = registration.sourceMtimeNs) changed

def upsertPreview (call : Call) (registration : PreviewRegistration) :
    Transaction PreviewCacheRecord := fun index => do
  let key := registration.key
  validatePreviewKey key
  rejectIf (key.sourceFileId = registration.previewFileId)
    (.invalidValue "source and preview must differ")
  let status ← requiredText "status" registration.status
  let bytes ← toSqlI64 "source_size" registration.sourceSize
  let files ← [key.sourceFileId, registration.previewFileId].mapM fun id =>
    call.discovered.queryFile call.user id >>=
      expected (.invalidValue "preview target is not owned")
  let previous ← call.discovered.queryPreview call.user key
  let former ← previous.toList.mapM fun previous =>
    call.discovered.queryFile call.user previous.previewFileId >>= expected .concurrentChange
  withRecords call (files ++ former) (fun metadata index => do
    let current ← index.queryPreview call.user key
    ensure (current = previous) .concurrentChange
    let source ← expected (.capability "index out of bounds") metadata.head?
    checkSource registration source
    let index ← index.upsertPreview (newPreview call registration status bytes
      (call.previewRowid (index.previews.map (·.id))))
    let index ← index.updateFile call.user registration.previewFileId
      (accessed registration.lastAccessedAt)
    let record ← index.queryPreview call.user key >>= expected (.damaged "upserted preview missing")
    pure (record, index)) index

/-- What the operations on one preview look up again. -/
def requeryPreview (call : Call) (key : PreviewKey) (index : Index) :
    Except FileIndexError (List PreviewCacheRecord) :=
  (index.queryPreview call.user key).map Option.toList

def findPreview (call : Call) (key : PreviewKey) : Transaction (Option PreviewCacheRecord) :=
  fun index => do
  validatePreviewKey key
  match ← call.discovered.queryPreview call.user key with
  | none => pure (none, index)
  | some record =>
    withPreviews call [record] (requeryPreview call key) (fun index => pure (some record, index))
      index

def touchPreview (call : Call) (key : PreviewKey) (accessedAt : Int) : Transaction Bool :=
  fun index => do
  validatePreviewKey key
  match ← call.discovered.queryPreview call.user key with
  | none => pure (false, index)
  | some record =>
    withPreviews call [record] (requeryPreview call key) (fun index => do
      let index := index.touchPreview call.user record.id accessedAt
      let index ← index.updateFile call.user record.previewFileId (accessed accessedAt)
      pure (true, index)) index

def deletePreview (call : Call) (key : PreviewKey) : Transaction (Option PreviewCacheRecord) :=
  fun index => do
  validatePreviewKey key
  match ← call.discovered.queryPreview call.user key with
  | none => pure (none, index)
  | some record =>
    withPreviews call [record] (requeryPreview call key) (fun index =>
      pure (some record, index.deletePreviews fun row =>
        row.userPublicId = call.user && row.id = record.id)) index

def deletePreviewsForSource (call : Call) (sourceFileId : Int) :
    Transaction (List PreviewCacheRecord) := fun index => do
  let records ← call.discovered.queryPreviews call.user (some sourceFileId) none
  if records = [] then pure (records, index) else
  withPreviews call records (·.queryPreviews call.user (some sourceFileId) none) (fun index =>
    pure (records, index.deletePreviews fun row =>
      row.userPublicId = call.user && row.sourceFileId = sourceFileId)) index

def leastRecentlyUsedPreviews (call : Call) (limit : Nat) :
    Transaction (List PreviewCacheRecord) := fun index => do
  if limit = 0 then pure ([], index) else
  rejectIf (0x8000000000000000 ≤ limit) (.invalidValue "LRU limit exceeds INTEGER")
  let records ← call.discovered.queryPreviews call.user none (some limit)
  if records = [] then pure (records, index) else
  withPreviews call records (·.queryPreviews call.user none (some limit))
    (fun index => pure (records, index)) index

def orphanCandidate (call : Call) (file : NamespaceManagedFile) (cutoff : Int) :
    Transaction (Option OrphanCandidate) := fun index => do
  let key := file.key
  ensure (key.area = .canvasUploads ∨ key.area = .referencesLibrary)
    (.invalidValue "area is not an orphan candidate domain")
  call.authority.withCurrentRegularFiles [(file, none)] fun metadata => do
    let metadata ← expected (.capability "index out of bounds") metadata.head?
    let row ← index.queryKey call.user key
    let identity ← index.queryIdentity call.user metadata.identity
    let identityKey ← decoded recordKey identity
    rejectIf (conflicting key metadata row identity identityKey = true) identityConflict
    let _ ← toSqlI64 "byte_size" metadata.byteSize
    let _ ← systemTimeNs metadata.modifiedAt
    let referenced := row.any fun record => 0 < index.referenceCountOwned call.user record.id
    if metadata.modifiedAt > cutoff || referenced then pure (none, index)
    else pure (some ⟨key, metadata.identity, metadata.byteSize, metadata.modifiedAt,
      row.map (·.id)⟩, index)

/-- The operations in the name of a namespace. -/
inductive Request where
  | registerFile (registration : NamespacedManagedFileRegistration)
  | findFileByPath (area : ManagedUserArea) (relativeName : String)
  | findFileById (fileId : Int)
  | markPendingDelete (fileId : Int) (pending : Bool)
  | deleteFile (fileId : Int)
  | attachReference (fileId : Int) (ownerType ownerId : String)
  | detachReference (fileId : Int) (ownerType ownerId : String)
  | referenceCount (fileId : Int)
  | clearAllReferences
  | replaceAllReferences (registrations : List NamespacedFileReferenceRegistration)
  | statsByKind
  | upsertPreview (registration : PreviewRegistration)
  | findPreview (key : PreviewKey)
  | touchPreview (key : PreviewKey) (accessedAt : Int)
  | deletePreview (key : PreviewKey)
  | deletePreviewsForSource (sourceFileId : Int)
  | leastRecentlyUsedPreviews (limit : Nat)
  | orphanCandidate (file : NamespaceManagedFile) (cutoff : Int)

/-- The tables that an operation would commit. -/
def perform (call : Call) (request : Request) (index : Index) : Except FileIndexError Index :=
  match request with
  | .registerFile registration => (registerFile call registration index).map (·.2)
  | .findFileByPath area relativeName => (findFileByPath call area relativeName index).map (·.2)
  | .findFileById fileId => (findFileById call fileId index).map (·.2)
  | .markPendingDelete fileId pending => (markPendingDelete call fileId pending index).map (·.2)
  | .deleteFile fileId => (deleteFile call fileId index).map (·.2)
  | .attachReference fileId ownerType ownerId =>
    (attachReference call fileId ownerType ownerId index).map (·.2)
  | .detachReference fileId ownerType ownerId =>
    (detachReference call fileId ownerType ownerId index).map (·.2)
  | .referenceCount fileId => (referenceCount call fileId index).map (·.2)
  | .clearAllReferences => (clearAllReferences call index).map (·.2)
  | .replaceAllReferences registrations => (replaceAllReferences call registrations index).map (·.2)
  | .statsByKind => (statsByKind call index).map (·.2)
  | .upsertPreview registration => (upsertPreview call registration index).map (·.2)
  | .findPreview key => (findPreview call key index).map (·.2)
  | .touchPreview key accessedAt => (touchPreview call key accessedAt index).map (·.2)
  | .deletePreview key => (deletePreview call key index).map (·.2)
  | .deletePreviewsForSource sourceFileId =>
    (deletePreviewsForSource call sourceFileId index).map (·.2)
  | .leastRecentlyUsedPreviews limit => (leastRecentlyUsedPreviews call limit index).map (·.2)
  | .orphanCandidate file cutoff => (orphanCandidate call file cutoff index).map (·.2)

/-- The tables after an operation: a transaction that is not committed is rolled back. -/
def after (step : Call × Request) (index : Index) : Index :=
  match perform step.1 step.2 index with
  | .ok next => next
  | .error _ => index

end ArtForgeStudio.FileIndex
