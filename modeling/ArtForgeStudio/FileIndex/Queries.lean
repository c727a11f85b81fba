import ArtForgeStudio.FileIndex.Schema
import ArtForgeStudio.Directories.ManagedKeys
import ArtForgeStudio.Api.Wire

/-! # Reading the file index

Rows are decoded into records. A stored value that does not decode is damage.
-/

namespace ArtForgeStudio.FileIndex

open ArtForgeStudio.Api ArtForgeStudio.Outcome ArtForgeStudio.Directories

structure ManagedFileMetadata where
  identity : StableFileIdentity
  byteSize : Nat
  /-- In nanoseconds since the epoch. -/
  modifiedAt : Int
  linkCount : Nat
  deriving DecidableEq

structure ManagedFileRecord where
  userPublicId : String
  managedArea : ManagedUserArea
  physicalIdentity : StableFileIdentity
  id : Int
  path : String
  kind : String
  byteSize : Nat
  managed : Bool
  retentionPolicy : String
  createdAt : Int
  lastAccessedAt : Int
  pendingDelete : Bool
  deriving DecidableEq

structure PreviewKey where
  sourceFileId : Int
  purpose : String
  longestEdge : Nat
  cacheVersion : Nat
  deriving DecidableEq

structure PreviewRegistration where
  key : PreviewKey
  previewFileId : Int
  sourceSize : Nat
  sourceMtimeNs : Int
  status : String
  lastAccessedAt : Int

structure PreviewCacheRecord where
  userPublicId : String
  sourceArea : ManagedUserArea
  previewArea : ManagedUserArea
  sourceIdentity : StableFileIdentity
  previewIdentity : StableFileIdentity
  id : Int
  sourceFileId : Int
  previewFileId : Int
  sourcePath : String
  previewPath : String
  previewByteSize : Nat
  purpose : String
  longestEdge : Nat
  sourceSize : Nat
  sourceMtimeNs : Int
  cacheVersion : Nat
  status : String
  lastAccessedAt : Int
  createdAt : Int
  updatedAt : Int
  deriving DecidableEq

structure FileKindStats where
  kind : String
  fileCount : Nat
  byteSize : Nat
  managedCount : Nat
  pendingDeleteCount : Nat
  deriving DecidableEq

def requiredText (name value : String) : Except FileIndexError String :=
  if trim value = "" then .error (.invalidValue (name ++ " must not be empty")) else .ok (trim value)

def toSqlI64 (name : String) (value : Nat) : Except FileIndexError Int :=
  if value < 0x8000000000000000 then .ok value else .error (.invalidValue (name ++ " exceeds SQLite INTEGER range"))

def nonnegativeU64 (name : String) (value : Int) : Except FileIndexError Nat :=
  if 0 ≤ value then .ok value.toNat
  else .error (.damaged (name ++ " contains an unexpected negative value"))

def systemTimeNs (time : Int) : Except FileIndexError Int :=
  if -0x8000000000000000 ≤ time ∧ time < 0x8000000000000000 then .ok time
  else .error (.invalidValue "mtime exceeds SQLite INTEGER")

def validatePreviewKey (key : PreviewKey) : Except FileIndexError Unit := do
  let _ ← requiredText "purpose" key.purpose
  rejectIf (key.longestEdge = 0) (.invalidValue "longest_edge must be greater than zero")
  rejectIf (key.cacheVersion = 0) (.invalidValue "cache_version must be greater than zero")

def decodeKey (area path : String) : Except FileIndexError ManagedFileKey :=
  (ManagedUserArea.fromStorageName area >>= fun area => ManagedFileKey.new area path).mapError
    FileIndexError.damaged

def DecodeFailure.text : DecodeFailure → String
  | outOfRange => "index out of range"
  | error message => message

def decodeIdentity (bytes : List UInt8) : Except FileIndexError StableFileIdentity :=
  (StableFileIdentity.fromStorageBytes bytes).mapError fun failure => .damaged failure.text

def decodeUser (user : String) : Except FileIndexError String :=
  if canonicalUuid user then .ok user else .error (.damaged "noncanonical stored user")

def mapFile (row : ManagedFileRow) : Except FileIndexError ManagedFileRecord := do
  let key ← decodeKey row.managedArea row.path
  let byteSize ← nonnegativeU64 "byte_size" row.byteSize
  let userPublicId ← decodeUser row.userPublicId
  let physicalIdentity ← decodeIdentity row.physicalIdentity
  pure
    { userPublicId := userPublicId
      managedArea := key.area
      physicalIdentity := physicalIdentity
      id := row.id
      path := key.relativeName.text
      kind := row.kind
      byteSize := byteSize
      managed := row.managed
      retentionPolicy := row.retentionPolicy
      createdAt := row.createdAt
      lastAccessedAt := row.lastAccessedAt
      pendingDelete := row.pendingDelete }

/-- `u32::try_from(value)`, above zero. -/
def positiveU32 (value : Int) : Except FileIndexError Nat :=
  if 0 < value ∧ value < 0x100000000 then .ok value.toNat
  else .error (.damaged "invalid positive preview value")

/-- A preview with the files that it joins. -/
structure JoinedPreview where
  preview : PreviewCacheRow
  sourceFile : ManagedFileRow
  previewFile : ManagedFileRow

def mapPreview (row : JoinedPreview) : Except FileIndexError PreviewCacheRecord := do
  let source ← decodeKey row.sourceFile.managedArea row.sourceFile.path
  let preview ← decodeKey row.previewFile.managedArea row.previewFile.path
  let previewByteSize ← nonnegativeU64 "preview bytes" row.previewFile.byteSize
  let longestEdge ← positiveU32 row.preview.longestEdge
  let sourceSize ← nonnegativeU64 "source bytes" row.preview.sourceSize
  let cacheVersion ← positiveU32 row.preview.cacheVersion
  let userPublicId ← decodeUser row.preview.userPublicId
  let sourceIdentity ← decodeIdentity row.sourceFile.physicalIdentity
  let previewIdentity ← decodeIdentity row.previewFile.physicalIdentity
  pure
    { userPublicId := userPublicId
      sourceArea := source.area
      previewArea := preview.area
      sourceIdentity := sourceIdentity
      previewIdentity := previewIdentity
      id := row.preview.id
      sourceFileId := row.preview.sourceFileId
      previewFileId := row.preview.previewFileId
      sourcePath := source.relativeName.text
      previewPath := preview.relativeName.text
      previewByteSize := previewByteSize
      purpose := row.preview.purpose
      longestEdge := longestEdge
      sourceSize := sourceSize
      sourceMtimeNs := row.preview.sourceMtimeNs
      cacheVersion := cacheVersion
      status := row.preview.status
      lastAccessedAt := row.preview.lastAccessedAt
      createdAt := row.preview.createdAt
      updatedAt := row.preview.updatedAt }

/-- `row.map(decode).transpose()` -/
def decoded {A B : Type} (decode : A → Except FileIndexError B) :
    Option A → Except FileIndexError (Option B)
  | none => .ok none
  | some row => (decode row).map some

namespace Index

variable (index : Index)

def queryFile (user : String) (id : Int) : Except FileIndexError (Option ManagedFileRecord) :=
  decoded mapFile (index.files.find? (·.owned user id))

def queryKey (user : String) (key : ManagedFileKey) :
    Except FileIndexError (Option ManagedFileRecord) :=
  decoded mapFile (index.files.find? fun row =>
    row.nameKey = (user, key.area.storageName, key.relativeName.text))

def queryIdentity (user : String) (identity : StableFileIdentity) :
    Except FileIndexError (Option ManagedFileRecord) :=
  decoded mapFile (index.files.find? fun row => row.identityKey = (user, identity.toStorageBytes))

/-- The joins of `PREVIEW_SELECT`. -/
def joined : List JoinedPreview :=
  index.previews.filterMap fun row => do
    let source ← index.files.find? (·.owned row.userPublicId row.sourceFileId)
    let preview ← index.files.find? (·.owned row.userPublicId row.previewFileId)
    some ⟨row, source, preview⟩

/-- `ORDER BY pc.last_accessed_at,pc.id` -/
def accessedBefore (a b : JoinedPreview) : Bool :=
  a.preview.lastAccessedAt < b.preview.lastAccessedAt ||
    (a.preview.lastAccessedAt = b.preview.lastAccessedAt && a.preview.id ≤ b.preview.id)

def queryPreviews (user : String) (source : Option Int) (limit : Option Nat) :
    Except FileIndexError (List PreviewCacheRecord) :=
  let rows := index.joined.filter fun row =>
    row.preview.userPublicId = user && source.all (row.preview.sourceFileId = ·)
  let sorted := match limit with
    | some limit => (rows.mergeSort accessedBefore).take limit
    | none => rows.mergeSort fun a b => a.preview.id ≤ b.preview.id
  sorted.mapM mapPreview

def queryPreview (user : String) (key : PreviewKey) :
    Except FileIndexError (Option PreviewCacheRecord) :=
  decoded mapPreview (index.joined.find? fun row => row.preview.key =
    (user, key.sourceFileId, trim key.purpose, (key.longestEdge : Int), (key.cacheVersion : Int)))

/-- `SELECT COUNT(*) FROM file_references` -/
def referenceCountOwned (user : String) (id : Int) : Nat :=
  index.references.countP fun row => row.userPublicId = user && row.fileId = id

end Index

def recordKey (record : ManagedFileRecord) : Except FileIndexError ManagedFileKey :=
  decodeKey record.managedArea.storageName record.path

def identityConflict : FileIndexError :=
  .capability "logical and physical file identity conflict"

section Laws

variable {index : Index} {user : String} {id : Int} {record : ManagedFileRecord}

theorem decoded_eq_some {A B : Type} {decode : A → Except FileIndexError B} {row : Option A}
    {value : B} (h : decoded decode row = .ok (some value)) :
    ∃ found, row = some found ∧ decode found = .ok value := by
  unfold decoded at h
  split at h
  · cases h
  · rename_i found
    cases hdecode : decode found with
    | error error =>
      rw [hdecode] at h
      cases h
    | ok other =>
      rw [hdecode] at h
      cases h
      exact ⟨found, rfl, hdecode⟩

theorem mapError_eq_ok {E F A : Type} {f : E → F} {x : Except E A} {a : A} :
    x.mapError f = .ok a ↔ x = .ok a := by
  cases x <;> simp [Except.mapError]

theorem decodeKey_ok {area path : String} {key : ManagedFileKey} (h : decodeKey area path = .ok key) :
    key.area.storageName = area ∧ key.relativeName.text = path := by
  obtain ⟨named, harea, hkey⟩ := bind_eq_ok.mp (mapError_eq_ok.mp h)
  obtain ⟨rfl, rfl⟩ := ManagedFileKey.new_eq_ok.mp hkey
  exact ⟨(fromStorageName_ok harea).symm, rfl⟩

theorem mapFile_ok {row : ManagedFileRow} (h : mapFile row = .ok record) :
    record.id = row.id ∧ record.userPublicId = row.userPublicId ∧
      record.managedArea.storageName = row.managedArea ∧ record.path = row.path ∧
      record.physicalIdentity.toStorageBytes = row.physicalIdentity := by
  simp only [mapFile, bind_eq_ok, pure_eq_ok] at h
  obtain ⟨key, hkey, byteSize, -, owner, howner, identity, hidentity, rfl⟩ := h
  obtain ⟨harea, hpath⟩ := decodeKey_ok hkey
  refine ⟨rfl, ?_, harea, hpath, toStorageBytes_of_fromStorageBytes (mapError_eq_ok.mp hidentity)⟩
  unfold decodeUser at howner
  split at howner
  · exact (Except.ok.inj howner).symm
  · cases howner

theorem queryKey_ok {key : ManagedFileKey} (h : index.queryKey user key = .ok (some record)) :
    ∃ row ∈ index.files, row.nameKey = (user, key.area.storageName, key.relativeName.text) ∧
      mapFile row = .ok record := by
  obtain ⟨row, hfind, hmap⟩ := decoded_eq_some h
  have hkey : row.nameKey = (user, key.area.storageName, key.relativeName.text) := by
    simpa using List.find?_some hfind
  exact ⟨row, List.mem_of_find?_eq_some hfind, hkey, hmap⟩

end Laws

end ArtForgeStudio.FileIndex
