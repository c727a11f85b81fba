import ArtForgeStudio.FileIndex.Identity
import ArtForgeStudio.Library.OwnedRows

/-! # The tables of the file index

Three tables: the managed files, the references to them and the previews made of them. A statement
fails on a violated constraint; a deleted file takes its references and previews with it.
-/

namespace ArtForgeStudio.FileIndex

open ArtForgeStudio.Outcome ArtForgeStudio.KeyedRows ArtForgeStudio.OwnedRows

inductive FileIndexError where
  | sqlite (message : String)
  | damaged (message : String)
  | invalidValue (message : String)
  | missingManagedFile
  | concurrentChange
  | capability (message : String)
  deriving DecidableEq

structure ManagedFileRow where
  id : Int
  userPublicId : String
  managedArea : String
  physicalIdentity : List UInt8
  path : String
  kind : String
  byteSize : Int
  managed : Bool
  retentionPolicy : String
  createdAt : Int
  lastAccessedAt : Int
  pendingDelete : Bool
  deriving DecidableEq

structure FileReferenceRow where
  userPublicId : String
  fileId : Int
  ownerType : String
  ownerId : String
  createdAt : Int
  deriving DecidableEq

structure PreviewCacheRow where
  userPublicId : String
  id : Int
  sourceFileId : Int
  previewFileId : Int
  purpose : String
  longestEdge : Int
  sourceSize : Int
  sourceMtimeNs : Int
  cacheVersion : Int
  status : String
  lastAccessedAt : Int
  createdAt : Int
  updatedAt : Int
  deriving DecidableEq

structure Index where
  files : List ManagedFileRow := []
  references : List FileReferenceRow := []
  previews : List PreviewCacheRow := []
  deriving DecidableEq

/-- The `CHECK` constraints of a file. -/
def ManagedFileRow.check (row : ManagedFileRow) : Bool :=
  row.userPublicId.length = 36 && row.managedArea ≠ "" && checkPhysicalIdentity row.physicalIdentity &&
    row.kind ≠ "" && 0 ≤ row.byteSize && row.retentionPolicy ≠ ""

def FileReferenceRow.check (row : FileReferenceRow) : Bool :=
  row.userPublicId.length = 36 && row.ownerType ≠ "" && row.ownerId ≠ ""

def PreviewCacheRow.check (row : PreviewCacheRow) : Bool :=
  row.userPublicId.length = 36 && row.purpose ≠ "" && 0 < row.longestEdge && 0 ≤ row.sourceSize &&
    0 < row.cacheVersion && row.status ≠ ""

/-- `UNIQUE(user_public_id, managed_area, path)` -/
def ManagedFileRow.nameKey (row : ManagedFileRow) : String × String × String :=
  (row.userPublicId, row.managedArea, row.path)

/-- `UNIQUE(user_public_id, physical_identity)` -/
def ManagedFileRow.identityKey (row : ManagedFileRow) : String × List UInt8 :=
  (row.userPublicId, row.physicalIdentity)

/-- `PRIMARY KEY (user_public_id, file_id, owner_type, owner_id)` -/
def FileReferenceRow.key (row : FileReferenceRow) : String × Int × String × String :=
  (row.userPublicId, row.fileId, row.ownerType, row.ownerId)

/-- `UNIQUE (user_public_id, source_file_id, purpose, longest_edge, cache_version)` -/
def PreviewCacheRow.key (row : PreviewCacheRow) : String × Int × String × Int × Int :=
  (row.userPublicId, row.sourceFileId, row.purpose, row.longestEdge, row.cacheVersion)

def UniqueFiles (rows : List ManagedFileRow) : Prop :=
  UniqueKeys ManagedFileRow.id rows ∧ UniqueKeys ManagedFileRow.nameKey rows ∧
    UniqueKeys ManagedFileRow.identityKey rows

def UniquePreviews (rows : List PreviewCacheRow) : Prop :=
  UniqueKeys PreviewCacheRow.id rows ∧ UniqueKeys PreviewCacheRow.previewFileId rows ∧
    UniqueKeys PreviewCacheRow.key rows

instance (rows : List ManagedFileRow) : Decidable (UniqueFiles rows) :=
  inferInstanceAs (Decidable (List.Nodup _ ∧ List.Nodup _ ∧ List.Nodup _))

instance (rows : List PreviewCacheRow) : Decidable (UniquePreviews rows) :=
  inferInstanceAs (Decidable (List.Nodup _ ∧ List.Nodup _ ∧ List.Nodup _))

/-- `WHERE user_public_id=?1 AND id=?2` -/
def ManagedFileRow.owned (user : String) (id : Int) (row : ManagedFileRow) : Bool :=
  row.userPublicId = user && row.id = id

namespace Index

variable (index : Index)

/-- The condition of the triggers: the file belongs to another user. -/
def mismatch (user : String) (id : Int) : Bool :=
  index.files.any fun row => row.id = id && row.userPublicId ≠ user

/-- What the foreign keys of a child row require. -/
def hasFile (id : Int) : Bool := index.files.any fun row => row.id = id

/-- `INSERT INTO managed_files` -/
def insertFile (row : ManagedFileRow) : Except FileIndexError Index := do
  ensure (row.check = true) (.sqlite "CHECK constraint failed: managed_files")
  ensure (UniqueFiles (index.files ++ [row])) (.sqlite "UNIQUE constraint failed: managed_files")
  pure { index with files := index.files ++ [row] }

/-- `UPDATE managed_files SET .. WHERE user_public_id=?1 AND id=?2` -/
def updateFile (user : String) (id : Int) (set : ManagedFileRow → ManagedFileRow) :
    Except FileIndexError Index := do
  let files := index.files.map fun row => if row.owned user id then set row else row
  ensure ((index.files.filter (·.owned user id)).all fun row => (set row).check)
    (.sqlite "CHECK constraint failed: managed_files")
  ensure (UniqueFiles files) (.sqlite "UNIQUE constraint failed: managed_files")
  pure { index with files := files }

/-- `DELETE FROM managed_files WHERE user_public_id=?1 AND id=?2`, with the cascades. -/
def deleteFile (user : String) (id : Int) : Index :=
  if index.files.any (·.owned user id) then
    { files := index.files.filter fun row => !row.owned user id
      references := index.references.filter fun row => row.fileId ≠ id
      previews := index.previews.filter fun row => row.sourceFileId ≠ id && row.previewFileId ≠ id }
  else index

/-- `INSERT INTO file_references .. ON CONFLICT .. DO NOTHING`, and whether a row was inserted. -/
def insertReference (row : FileReferenceRow) : Except FileIndexError (Bool × Index) := do
  rejectIf (index.mismatch row.userPublicId row.fileId) (.sqlite "file reference namespace mismatch")
  ensure (row.check = true) (.sqlite "CHECK constraint failed: file_references")
  if index.references.any fun other => other.key = row.key then
    pure (false, index)
  else
    ensure (index.hasFile row.fileId = true) (.sqlite "FOREIGN KEY constraint failed")
    pure (true, { index with references := index.references ++ [row] })

/-- `DELETE FROM file_references WHERE ..`, and whether a row was deleted. -/
def deleteReferences (wanted : FileReferenceRow → Bool) : Bool × Index :=
  (index.references.any wanted,
    { index with references := index.references.filter fun row => !wanted row })

/-- What `ON CONFLICT .. DO UPDATE` sets of a preview. -/
def overwrite (row old : PreviewCacheRow) : PreviewCacheRow :=
  { old with
    previewFileId := row.previewFileId
    sourceSize := row.sourceSize
    sourceMtimeNs := row.sourceMtimeNs
    status := row.status
    lastAccessedAt := row.lastAccessedAt
    updatedAt := row.updatedAt }

/-- The row with the key is overwritten where it stands, or the new row is added. -/
def upserted (row : PreviewCacheRow) (previews : List PreviewCacheRow) : List PreviewCacheRow :=
  if previews.any fun old => old.key = row.key then
    previews.map fun old => if old.key = row.key then overwrite row old else old
  else previews ++ [row]

/-- `INSERT INTO preview_cache .. ON CONFLICT .. DO UPDATE` -/
def upsertPreview (row : PreviewCacheRow) : Except FileIndexError Index := do
  rejectIf (index.mismatch row.userPublicId row.sourceFileId ||
    index.mismatch row.userPublicId row.previewFileId) (.sqlite "preview namespace mismatch")
  ensure (row.check = true) (.sqlite "CHECK constraint failed: preview_cache")
  ensure (UniquePreviews (upserted row index.previews)) (.sqlite "UNIQUE constraint failed: preview_cache")
  ensure (index.hasFile row.sourceFileId ∧ index.hasFile row.previewFileId)
    (.sqlite "FOREIGN KEY constraint failed")
  pure { index with previews := upserted row index.previews }

/-- `UPDATE preview_cache SET last_accessed_at=MAX(last_accessed_at,?3)
WHERE user_public_id=?1 AND id=?2` -/
def touchPreview (user : String) (id : Int) (accessedAt : Int) : Index :=
  { index with
    previews := index.previews.map fun row =>
      if row.userPublicId = user ∧ row.id = id then
        { row with lastAccessedAt := max row.lastAccessedAt accessedAt }
      else row }

/-- `DELETE FROM preview_cache WHERE ..` -/
def deletePreviews (wanted : PreviewCacheRow → Bool) : Index :=
  { index with previews := index.previews.filter fun row => !wanted row }

/-- The rows of one user. -/
def ofUser (user : String) : Index where
  files := ofOwner ManagedFileRow.userPublicId user index.files
  references := ofOwner FileReferenceRow.userPublicId user index.references
  previews := ofOwner PreviewCacheRow.userPublicId user index.previews

/-- The user has the file. -/
def Owns (user : String) (id : Int) : Prop :=
  ∃ row ∈ index.files, row.id = id ∧ row.userPublicId = user

/-- What the schema says of the tables: keys are unique, and references and previews name files
of their own user. -/
structure Consistent : Prop where
  files : UniqueFiles index.files
  references : UniqueKeys FileReferenceRow.key index.references
  previews : UniquePreviews index.previews
  referenced : ∀ row ∈ index.references, index.Owns row.userPublicId row.fileId
  sources : ∀ row ∈ index.previews, index.Owns row.userPublicId row.sourceFileId
  previewed : ∀ row ∈ index.previews, index.Owns row.userPublicId row.previewFileId

/-- A change in the name of one user: the tables stay consistent, and the rows of all other users
stay. -/
structure Acts (user : String) (before after : Index) : Prop where
  consistent : after.Consistent
  others : ∀ other, other ≠ user → after.ofUser other = before.ofUser other

section Laws

variable {index next last : Index} {user other : String} {id : Int}

theorem Acts.refl (h : index.Consistent) : Acts user index index := ⟨h, fun _ _ => rfl⟩

theorem Acts.trans (h : Acts user index next) (hrest : Acts user next last) :
    Acts user index last :=
  ⟨hrest.consistent, fun other hother => (hrest.others other hother).trans (h.others other hother)⟩

theorem Owns.hasFile (h : index.Owns user id) : index.hasFile id = true := by
  obtain ⟨row, hmem, hid, -⟩ := h
  exact List.any_eq_true.mpr ⟨row, hmem, decide_eq_true hid⟩

/-- A file that is there and passes the trigger is the user's. -/
theorem owns_of_hasFile (hfile : index.hasFile id = true) (hmatch : index.mismatch user id = false) :
    index.Owns user id := by
  obtain ⟨row, hmem, hid⟩ := List.any_eq_true.mp hfile
  have hnot := List.any_eq_false.mp hmatch row hmem
  simp only [Bool.and_eq_true, decide_eq_true_eq, not_and, not_not] at hid hnot
  exact ⟨row, hmem, hid, hnot hid⟩

/-- A file has one owner. -/
theorem Consistent.owner_unique (h : index.Consistent) (hone : index.Owns user id)
    (hother : index.Owns other id) : user = other := by
  obtain ⟨one, hmem, hid, rfl⟩ := hone
  obtain ⟨another, hmem', hid', rfl⟩ := hother
  rw [eq_of_key h.files.1 hmem hmem' (hid.trans hid'.symm)]

theorem owned_iff {row : ManagedFileRow} : row.owned user id = true ↔
    row.userPublicId = user ∧ row.id = id := by
  simp [ManagedFileRow.owned]

theorem ofUser_eq_iff : next.ofUser other = index.ofUser other ↔
    ofOwner ManagedFileRow.userPublicId other next.files =
        ofOwner ManagedFileRow.userPublicId other index.files ∧
      ofOwner FileReferenceRow.userPublicId other next.references =
        ofOwner FileReferenceRow.userPublicId other index.references ∧
      ofOwner PreviewCacheRow.userPublicId other next.previews =
        ofOwner PreviewCacheRow.userPublicId other index.previews := by
  simp [ofUser]

theorem insertFile_ok {row : ManagedFileRow} (h : index.insertFile row = .ok next) :
    row.check = true ∧ UniqueFiles (index.files ++ [row]) ∧
      next = { index with files := index.files ++ [row] } := by
  simp only [insertFile, bind_eq_ok, exists_unit, ensure_eq_ok, pure_eq_ok] at h
  exact ⟨h.1, h.2.1, h.2.2.symm⟩

theorem insertFile_acts {row : ManagedFileRow} (hindex : index.Consistent)
    (h : index.insertFile row = .ok next) : Acts row.userPublicId index next := by
  obtain ⟨-, hunique, rfl⟩ := insertFile_ok h
  have howns : ∀ user id, index.Owns user id →
      Owns { index with files := index.files ++ [row] } user id := by
    rintro user id ⟨owner, hmem, howner⟩
    exact ⟨owner, List.mem_append_left _ hmem, howner⟩
  refine ⟨⟨hunique, hindex.references, hindex.previews, fun child hmem => ?_, fun child hmem => ?_,
    fun child hmem => ?_⟩, fun other hother => ?_⟩
  · exact howns _ _ (hindex.referenced child hmem)
  · exact howns _ _ (hindex.sources child hmem)
  · exact howns _ _ (hindex.previewed child hmem)
  · exact ofUser_eq_iff.mpr ⟨ofOwner_concat (Ne.symm hother), rfl, rfl⟩

/-- What an update of a file sets: anything but the row's identifier and owner. -/
structure KeepsOwner (set : ManagedFileRow → ManagedFileRow) : Prop where
  id : ∀ row, (set row).id = row.id
  user : ∀ row, (set row).userPublicId = row.userPublicId

theorem updateFile_ok {set : ManagedFileRow → ManagedFileRow}
    (h : index.updateFile user id set = .ok next) :
    UniqueFiles (index.files.map fun row => if row.owned user id then set row else row) ∧
      next = { index with
        files := index.files.map fun row => if row.owned user id then set row else row } := by
  simp only [updateFile, bind_eq_ok, exists_unit, ensure_eq_ok, pure_eq_ok] at h
  exact ⟨h.2.1, h.2.2.symm⟩

theorem updateFile_acts {set : ManagedFileRow → ManagedFileRow} (hset : KeepsOwner set)
    (hindex : index.Consistent) (h : index.updateFile user id set = .ok next) :
    Acts user index next := by
  obtain ⟨hunique, rfl⟩ := updateFile_ok h
  have hid : ∀ row : ManagedFileRow, (if row.owned user id then set row else row).id = row.id := by
    intro row
    split
    · exact hset.id row
    · rfl
  have huser : ∀ row : ManagedFileRow,
      (if row.owned user id then set row else row).userPublicId = row.userPublicId := by
    intro row
    split
    · exact hset.user row
    · rfl
  have howns : ∀ owner child, index.Owns owner child → Owns { index with
      files := index.files.map fun row => if row.owned user id then set row else row }
      owner child := by
    rintro owner child ⟨row, hmem, hchild, howner⟩
    exact ⟨_, List.mem_map_of_mem hmem, (hid row).trans hchild, (huser row).trans howner⟩
  refine ⟨⟨hunique, hindex.references, hindex.previews, fun child hmem => ?_, fun child hmem => ?_,
    fun child hmem => ?_⟩, fun other hother => ?_⟩
  · exact howns _ _ (hindex.referenced child hmem)
  · exact howns _ _ (hindex.sources child hmem)
  · exact howns _ _ (hindex.previewed child hmem)
  · refine ofUser_eq_iff.mpr ⟨ofOwner_map huser fun row _ hrow => ?_, rfl, rfl⟩
    rw [if_neg]
    intro howned
    exact hother (hrow.symm.trans (owned_iff.mp howned).1)

theorem deleteFile_acts (hindex : index.Consistent) : Acts user index (index.deleteFile user id) := by
  unfold deleteFile
  split
  · rename_i hany
    obtain ⟨gone, hgone, howned⟩ := List.any_eq_true.mp hany
    obtain ⟨hgoneUser, hgoneId⟩ := owned_iff.mp howned
    have hmine : index.Owns user id := ⟨gone, hgone, hgoneId, hgoneUser⟩
    -- A file that another child names is another file, and it stays.
    have hstays : ∀ owner child, index.Owns owner child → child ≠ id →
        ∃ row ∈ index.files.filter fun row => !row.owned user id,
          row.id = child ∧ row.userPublicId = owner := by
      rintro owner child ⟨row, hmem, hchild, howner⟩ hne
      refine ⟨row, List.mem_filter.mpr ⟨hmem, ?_⟩, hchild, howner⟩
      simp [ManagedFileRow.owned, hchild, hne]
    refine ⟨⟨⟨uniqueKeys_filter hindex.files.1, uniqueKeys_filter hindex.files.2.1,
      uniqueKeys_filter hindex.files.2.2⟩, uniqueKeys_filter hindex.references,
      ⟨uniqueKeys_filter hindex.previews.1, uniqueKeys_filter hindex.previews.2.1,
        uniqueKeys_filter hindex.previews.2.2⟩, ?_, ?_, ?_⟩, fun other hother => ?_⟩
    · intro child hchild
      obtain ⟨hmem, hne⟩ := List.mem_filter.mp hchild
      exact hstays _ _ (hindex.referenced child hmem) (of_decide_eq_true hne)
    · intro child hchild
      obtain ⟨hmem, hne⟩ := List.mem_filter.mp hchild
      exact hstays _ _ (hindex.sources child hmem) (by simp_all)
    · intro child hchild
      obtain ⟨hmem, hne⟩ := List.mem_filter.mp hchild
      exact hstays _ _ (hindex.previewed child hmem) (by simp_all)
    · have hne : ∀ child, index.Owns other child → child ≠ id := by
        rintro child hchild rfl
        exact hother (hindex.owner_unique hchild hmine)
      refine ofUser_eq_iff.mpr ⟨ofOwner_filter ?_, ofOwner_filter ?_, ofOwner_filter ?_⟩
      · intro row _ hrow
        have huser : row.userPublicId ≠ user := hrow ▸ hother
        simp [ManagedFileRow.owned, huser]
      · intro row hmem hrow
        exact decide_eq_true (hne _ (hrow ▸ hindex.referenced row hmem))
      · intro row hmem hrow
        have hsource := hne _ (hrow ▸ hindex.sources row hmem)
        have hpreview := hne _ (hrow ▸ hindex.previewed row hmem)
        simp [hsource, hpreview]
  · exact Acts.refl hindex

theorem insertReference_acts {row : FileReferenceRow} {inserted : Bool} (hindex : index.Consistent)
    (h : index.insertReference row = .ok (inserted, next)) : Acts row.userPublicId index next := by
  simp only [insertReference, bind_eq_ok, exists_unit, ensure_eq_ok, rejectIf_eq_ok] at h
  obtain ⟨hmatch, -, h⟩ := h
  split at h
  · cases h
    exact Acts.refl hindex
  · rename_i hnew
    simp only [bind_eq_ok, exists_unit, ensure_eq_ok, pure_eq_ok] at h
    obtain ⟨hfile, h⟩ := h
    cases h
    have hfresh : ∀ old ∈ index.references, old.key ≠ row.key := by
      intro old hmem hkey
      exact hnew (List.any_eq_true.mpr ⟨old, hmem, decide_eq_true hkey⟩)
    refine ⟨{ hindex with references := ?_, referenced := ?_ }, fun other hother => ?_⟩
    · rw [UniqueKeys, List.map_append, List.map_singleton]
      refine List.nodup_append.mpr ⟨hindex.references, List.nodup_singleton _, ?_⟩
      intro key hkey other hother
      obtain ⟨old, hmem, rfl⟩ := List.mem_map.mp hkey
      rw [List.mem_singleton.mp hother]
      exact hfresh old hmem
    · intro child hchild
      rcases List.mem_append.mp hchild with hold | hchild
      · exact hindex.referenced child hold
      · rw [List.mem_singleton.mp hchild]
        exact owns_of_hasFile hfile (Bool.not_eq_true _ ▸ hmatch)
    · exact ofUser_eq_iff.mpr ⟨rfl, ofOwner_concat (Ne.symm hother), rfl⟩

theorem deleteReferences_acts {wanted : FileReferenceRow → Bool}
    (hwanted : ∀ row, wanted row = true → row.userPublicId = user) (hindex : index.Consistent) :
    Acts user index (index.deleteReferences wanted).2 := by
  refine ⟨{ hindex with
    references := uniqueKeys_filter hindex.references
    referenced := fun row hrow => hindex.referenced row (List.mem_of_mem_filter hrow) },
    fun other hother => ofUser_eq_iff.mpr ⟨rfl, ofOwner_filter fun row _ hrow => ?_, rfl⟩⟩
  have hnot : wanted row = false :=
    Bool.not_eq_true _ ▸ fun hgone => hother (hrow.symm.trans (hwanted row hgone))
  simp [hnot]

theorem deletePreviews_acts {wanted : PreviewCacheRow → Bool}
    (hwanted : ∀ row, wanted row = true → row.userPublicId = user) (hindex : index.Consistent) :
    Acts user index (index.deletePreviews wanted) := by
  refine ⟨{ hindex with
    previews := ⟨uniqueKeys_filter hindex.previews.1, uniqueKeys_filter hindex.previews.2.1,
      uniqueKeys_filter hindex.previews.2.2⟩
    sources := fun row hrow => hindex.sources row (List.mem_of_mem_filter hrow)
    previewed := fun row hrow => hindex.previewed row (List.mem_of_mem_filter hrow) },
    fun other hother => ofUser_eq_iff.mpr ⟨rfl, rfl, ofOwner_filter fun row _ hrow => ?_⟩⟩
  have hnot : wanted row = false :=
    Bool.not_eq_true _ ▸ fun hgone => hother (hrow.symm.trans (hwanted row hgone))
  simp [hnot]

theorem touchPreview_acts {accessedAt : Int} (hindex : index.Consistent) :
    Acts user index (index.touchPreview user id accessedAt) := by
  have hsame : ∀ {A : Type} (column : PreviewCacheRow → A),
      (∀ row at', column { row with lastAccessedAt := at' } = column row) →
      ∀ row : PreviewCacheRow, column (if row.userPublicId = user ∧ row.id = id then
        { row with lastAccessedAt := max row.lastAccessedAt accessedAt } else row) = column row := by
    intro A column hcolumn row
    split
    · exact hcolumn _ _
    · rfl
  have huser := hsame PreviewCacheRow.userPublicId fun _ _ => rfl
  refine ⟨{ hindex with
    previews := ⟨(uniqueKeys_map (hsame PreviewCacheRow.id fun _ _ => rfl)).mpr hindex.previews.1,
      (uniqueKeys_map (hsame PreviewCacheRow.previewFileId fun _ _ => rfl)).mpr hindex.previews.2.1,
      (uniqueKeys_map (hsame PreviewCacheRow.key fun _ _ => rfl)).mpr hindex.previews.2.2⟩
    sources := ?_
    previewed := ?_ }, fun other hother => ?_⟩
  · intro row hrow
    obtain ⟨old, hmem, rfl⟩ := List.mem_map.mp hrow
    rw [huser, hsame PreviewCacheRow.sourceFileId fun _ _ => rfl]
    exact hindex.sources old hmem
  · intro row hrow
    obtain ⟨old, hmem, rfl⟩ := List.mem_map.mp hrow
    rw [huser, hsame PreviewCacheRow.previewFileId fun _ _ => rfl]
    exact hindex.previewed old hmem
  · refine ofUser_eq_iff.mpr ⟨rfl, rfl, ofOwner_map huser fun row _ hrow => ?_⟩
    rw [if_neg]
    rintro ⟨hmine, -⟩
    exact hother (hrow.symm.trans hmine)

theorem mem_upserted {row new : PreviewCacheRow} {previews : List PreviewCacheRow}
    (h : new ∈ upserted row previews) :
    new ∈ previews ∨ new = row ∨ ∃ old ∈ previews, old.key = row.key ∧ new = overwrite row old := by
  unfold upserted at h
  split at h
  · obtain ⟨old, hmem, rfl⟩ := List.mem_map.mp h
    split
    · rename_i hkey
      exact .inr (.inr ⟨old, hmem, hkey, rfl⟩)
    · exact .inl hmem
  · rcases List.mem_append.mp h with hold | hnew
    · exact .inl hold
    · exact .inr (.inl (List.mem_singleton.mp hnew))

theorem ofOwner_upserted {row : PreviewCacheRow} {previews : List PreviewCacheRow}
    (hrow : row.userPublicId ≠ other) :
    ofOwner PreviewCacheRow.userPublicId other (upserted row previews) =
      ofOwner PreviewCacheRow.userPublicId other previews := by
  unfold upserted
  split
  · refine ofOwner_map (fun old => ?_) fun old _ hold => ?_
    · split <;> rfl
    · rw [if_neg]
      intro hkey
      exact hrow ((congrArg Prod.fst hkey).symm.trans hold)
  · exact ofOwner_concat hrow

theorem upsertPreview_ok {row : PreviewCacheRow} (h : index.upsertPreview row = .ok next) :
    index.Owns row.userPublicId row.sourceFileId ∧ index.Owns row.userPublicId row.previewFileId ∧
      UniquePreviews (upserted row index.previews) ∧
      next = { index with previews := upserted row index.previews } := by
  simp only [upsertPreview, bind_eq_ok, exists_unit, ensure_eq_ok, rejectIf_eq_ok, pure_eq_ok,
    Bool.or_eq_true, not_or, Bool.not_eq_true] at h
  obtain ⟨⟨hsource, hpreview⟩, -, hunique, ⟨hsourceFile, hpreviewFile⟩, rfl⟩ := h
  exact ⟨owns_of_hasFile hsourceFile hsource, owns_of_hasFile hpreviewFile hpreview, hunique, rfl⟩

theorem upsertPreview_acts {row : PreviewCacheRow} (hindex : index.Consistent)
    (h : index.upsertPreview row = .ok next) : Acts row.userPublicId index next := by
  obtain ⟨hsource, hpreview, hunique, rfl⟩ := upsertPreview_ok h
  refine ⟨{ hindex with previews := hunique, sources := ?_, previewed := ?_ },
    fun other hother => ofUser_eq_iff.mpr ⟨rfl, rfl, ofOwner_upserted (Ne.symm hother)⟩⟩
  · intro child hchild
    obtain hold | rfl | ⟨old, hmem, -, rfl⟩ := mem_upserted hchild
    · exact hindex.sources child hold
    · exact hsource
    · exact hindex.sources old hmem
  · intro child hchild
    obtain hold | rfl | ⟨old, hmem, hkey, rfl⟩ := mem_upserted hchild
    · exact hindex.previewed child hold
    · exact hpreview
    · have huser : old.userPublicId = row.userPublicId := congrArg Prod.fst hkey
      exact huser ▸ hpreview

end Laws

end Index

end ArtForgeStudio.FileIndex
