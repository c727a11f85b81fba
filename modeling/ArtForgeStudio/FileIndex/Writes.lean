import ArtForgeStudio.FileIndex.Operations

/-! # What an operation writes

Every operation is one of four: it adds and updates, it deletes a file, it deletes previews, or it
registers a preview. The rest of the development reads no operation again.
-/

namespace ArtForgeStudio.FileIndex

open ArtForgeStudio.Outcome ArtForgeStudio.Directories

/-- Statements for one user that delete no file and no preview, and set no access back. -/
inductive Writes (user : String) : Index → Index → Prop
  | same (index) : Writes user index index
  | insertFile {index next row} (huser : row.userPublicId = user)
      (h : index.insertFile row = .ok next) : Writes user index next
  | updateFile {index next id set} (hset : Index.KeepsOwner set)
      (hlater : ∀ row, row.lastAccessedAt ≤ (set row).lastAccessedAt)
      (h : index.updateFile user id set = .ok next) : Writes user index next
  | insertReference {index next inserted row} (huser : row.userPublicId = user)
      (h : index.insertReference row = .ok (inserted, next)) : Writes user index next
  | deleteReferences {wanted} (index : Index)
      (hwanted : ∀ row, wanted row = true → row.userPublicId = user) :
      Writes user index (index.deleteReferences wanted).2
  | touchPreview (index : Index) (id accessedAt) :
      Writes user index (index.touchPreview user id accessedAt)
  | trans {index middle next} (h : Writes user index middle) (hrest : Writes user middle next) :
      Writes user index next

section Steps

variable {call : Call} {index next : Index} {request : Request}

theorem map_eq_ok {E A B : Type} {f : A → B} {x : Except E A} {b : B} :
    x.map f = .ok b ↔ ∃ a, x = .ok a ∧ f a = b := by
  cases x <;> simp [Except.map]

theorem withCurrentRegularFiles_ok {A : Type} {authority : NamespaceStorageAuthority}
    {files : List (NamespaceManagedFile × Option StableFileIdentity)}
    {operation : List ManagedFileMetadata → Except FileIndexError A} {value : A}
    (h : authority.withCurrentRegularFiles files operation = .ok value) :
    ∃ metadata, operation metadata = .ok value := by
  simp only [NamespaceStorageAuthority.withCurrentRegularFiles, bind_eq_ok, exists_unit] at h
  obtain ⟨-, metadata, -, h⟩ := h
  exact ⟨metadata, h⟩

variable {A : Type} {value : A}

theorem withRecords_ok {records : List ManagedFileRecord}
    {operation : List ManagedFileMetadata → Transaction A}
    (h : withRecords call records operation index = .ok (value, next)) :
    ∃ metadata, operation metadata index = .ok (value, next) := by
  simp only [withRecords, bind_eq_ok] at h
  obtain ⟨files, -, h⟩ := h
  obtain ⟨metadata, h⟩ := withCurrentRegularFiles_ok h
  simp only [bind_eq_ok, exists_unit] at h
  exact ⟨metadata, h.2⟩

/-- An operation on a file does nothing, or what it does with the file's record. -/
theorem fileOperation_ok {id : Int} {absent : A} {operation : ManagedFileRecord → Transaction A}
    (h : fileOperation call id absent operation index = .ok (value, next)) :
    next = index ∨ ∃ record, operation record index = .ok (value, next) := by
  simp only [fileOperation, bind_eq_ok] at h
  obtain ⟨found, -, h⟩ := h
  cases found with
  | none =>
    cases h
    exact .inl rfl
  | some record =>
    obtain ⟨-, h⟩ := withRecords_ok h
    exact .inr ⟨record, h⟩

theorem withPreviews_ok {records : List PreviewCacheRecord}
    {requery : Index → Except FileIndexError (List PreviewCacheRecord)} {operation : Transaction A}
    (h : withPreviews call records requery operation index = .ok (value, next)) :
    requery index = .ok records ∧ operation index = .ok (value, next) := by
  simp only [withPreviews, bind_eq_ok] at h
  obtain ⟨files, -, h⟩ := h
  obtain ⟨-, hoperation⟩ := withRecords_ok h
  simp only [bind_eq_ok, exists_unit, ensure_eq_ok] at hoperation
  obtain ⟨current, hcurrent, hsame, hoperation⟩ := hoperation
  exact ⟨hsame ▸ hcurrent, hoperation⟩

theorem keepsOwner_registered (registration : NamespacedManagedFileRegistration)
    (bytes timestamp : Int) : Index.KeepsOwner (registered registration bytes timestamp) :=
  ⟨fun _ => rfl, fun _ => rfl⟩

theorem keepsOwner_accessed (accessedAt : Int) : Index.KeepsOwner (accessed accessedAt) :=
  ⟨fun _ => rfl, fun _ => rfl⟩

theorem registerGuarded_writes {registration : NamespacedManagedFileRegistration}
    {metadata : ManagedFileMetadata} {record : ManagedFileRecord}
    (h : registerGuarded call registration metadata index = .ok (record, next)) :
    Writes call.user index next := by
  simp only [registerGuarded, bind_eq_ok, exists_unit, pure_eq_ok] at h
  obtain ⟨bytes, -, -, -, existing, -, identity, -, -, -, -, middle, hwrite, found, -, hlast⟩ := h
  cases hlast
  cases existing with
  | none => exact .insertFile rfl hwrite
  | some old => exact .updateFile (keepsOwner_registered _ _ _) (fun _ => le_max_left _ _) hwrite

/-- Every registration of a replacement writes for the user. -/
theorem replaceReference_writes
    {items : List (NamespacedFileReferenceRegistration × ManagedFileMetadata × String × String)}
    (h : items.foldlM (replaceReference call) index = .ok next) : Writes call.user index next := by
  induction items generalizing index with
  | nil =>
    cases h
    exact .same _
  | cons item items ih =>
    rw [List.foldlM_cons] at h
    obtain ⟨middle, hitem, hrest⟩ := bind_eq_ok.mp h
    simp only [replaceReference, bind_eq_ok, pure_eq_ok] at hitem
    obtain ⟨⟨record, registered⟩, hregister, ⟨inserted, referenced⟩, hreference, rfl⟩ := hitem
    exact ((registerGuarded_writes hregister).trans (.insertReference rfl hreference)).trans
      (ih hrest)

theorem replaceAllReferences_writes {registrations : List NamespacedFileReferenceRegistration}
    (h : replaceAllReferences call registrations index = .ok ((), next)) :
    Writes call.user index next := by
  have hcleared : Writes call.user index
      (index.deleteReferences fun row => row.userPublicId = call.user).2 :=
    .deleteReferences index fun row hrow => of_decide_eq_true hrow
  unfold replaceAllReferences at h
  split at h
  · cases h
    exact hcleared
  · simp only [bind_eq_ok] at h
    obtain ⟨owners, -, h⟩ := h
    obtain ⟨metadata, h⟩ := withCurrentRegularFiles_ok h
    simp only [bind_eq_ok, pure_eq_ok] at h
    obtain ⟨replaced, hfold, hlast⟩ := h
    cases hlast
    exact hcleared.trans (replaceReference_writes hfold)

theorem upsertPreview_ok {registration : PreviewRegistration} {record : PreviewCacheRecord}
    (h : upsertPreview call registration index = .ok (record, next)) :
    ∃ status bytes rowid middle,
      index.upsertPreview (newPreview call registration status bytes rowid) = .ok middle ∧
      middle.updateFile call.user registration.previewFileId
        (accessed registration.lastAccessedAt) = .ok next := by
  simp only [upsertPreview, bind_eq_ok, exists_unit] at h
  obtain ⟨-, -, status, -, bytes, -, files, -, previous, -, former, -, h⟩ := h
  obtain ⟨metadata, h⟩ := withRecords_ok h
  simp only [bind_eq_ok, exists_unit, pure_eq_ok] at h
  obtain ⟨current, -, -, source, -, -, middle, hmiddle, last, hupdate, found, -, hlast⟩ := h
  cases hlast
  exact ⟨status, bytes, _, middle, hmiddle, hupdate⟩

theorem findFileByPath_reads {area : ManagedUserArea} {relativeName : String}
    {record : Option ManagedFileRecord}
    (h : findFileByPath call area relativeName index = .ok (record, next)) : next = index := by
  simp only [findFileByPath, bind_eq_ok] at h
  obtain ⟨key, -, found, -, h⟩ := h
  cases found with
  | none =>
    cases h
    rfl
  | some found =>
    obtain ⟨-, h⟩ := withRecords_ok h
    cases h
    rfl

theorem findFileById_reads {fileId : Int} {record : Option ManagedFileRecord}
    (h : findFileById call fileId index = .ok (record, next)) : next = index := by
  obtain heq | ⟨found, h⟩ := fileOperation_ok h
  · exact heq
  · cases h
    rfl

theorem referenceCount_reads {fileId : Int} {count : Nat}
    (h : referenceCount call fileId index = .ok (count, next)) : next = index := by
  obtain heq | ⟨found, h⟩ := fileOperation_ok h
  · exact heq
  · cases h
    rfl

theorem statsByKind_reads {stats : List FileKindStats}
    (h : statsByKind call index = .ok (stats, next)) : next = index := by
  simp only [statsByKind, bind_eq_ok, pure_eq_ok] at h
  obtain ⟨stats, -, hlast⟩ := h
  cases hlast
  rfl

theorem findPreview_reads {key : PreviewKey} {record : Option PreviewCacheRecord}
    (h : findPreview call key index = .ok (record, next)) : next = index := by
  simp only [findPreview, bind_eq_ok, exists_unit] at h
  obtain ⟨-, found, -, h⟩ := h
  cases found with
  | none =>
    cases h
    rfl
  | some found =>
    cases (withPreviews_ok h).2
    rfl

theorem leastRecentlyUsedPreviews_reads {limit : Nat} {records : List PreviewCacheRecord}
    (h : leastRecentlyUsedPreviews call limit index = .ok (records, next)) : next = index := by
  unfold leastRecentlyUsedPreviews at h
  split at h
  · cases h
    rfl
  · simp only [bind_eq_ok, exists_unit] at h
    obtain ⟨-, found, -, h⟩ := h
    split at h
    · cases h
      rfl
    · cases (withPreviews_ok h).2
      rfl

theorem orphanCandidate_reads {file : NamespaceManagedFile} {cutoff : Int}
    {candidate : Option OrphanCandidate}
    (h : orphanCandidate call file cutoff index = .ok (candidate, next)) : next = index := by
  simp only [orphanCandidate, bind_eq_ok, exists_unit] at h
  obtain ⟨-, h⟩ := h
  obtain ⟨metadata, h⟩ := withCurrentRegularFiles_ok h
  simp only [bind_eq_ok, exists_unit] at h
  obtain ⟨first, -, row, -, identity, -, identityKey, -, -, -, -, -, -, h⟩ := h
  split at h
  · cases h
    rfl
  · cases h
    rfl

theorem markPendingDelete_writes {fileId : Int} {pending changed : Bool}
    (h : markPendingDelete call fileId pending index = .ok (changed, next)) :
    Writes call.user index next := by
  obtain rfl | ⟨found, h⟩ := fileOperation_ok h
  · exact .same _
  · simp only [bind_eq_ok, pure_eq_ok] at h
    obtain ⟨updated, hupdate, hlast⟩ := h
    cases hlast
    refine .updateFile ?_ ?_ hupdate
    · exact ⟨fun _ => rfl, fun _ => rfl⟩
    · exact fun _ => le_refl _

theorem attachReference_writes {fileId : Int} {ownerType ownerId : String} {inserted : Bool}
    (h : attachReference call fileId ownerType ownerId index = .ok (inserted, next)) :
    Writes call.user index next := by
  simp only [attachReference, bind_eq_ok] at h
  obtain ⟨type, -, owner, -, found, -, h⟩ := h
  obtain ⟨-, h⟩ := withRecords_ok h
  exact .insertReference rfl h

theorem detachReference_writes {fileId : Int} {ownerType ownerId : String} {deleted : Bool}
    (h : detachReference call fileId ownerType ownerId index = .ok (deleted, next)) :
    Writes call.user index next := by
  simp only [detachReference, bind_eq_ok] at h
  obtain ⟨type, -, owner, -, h⟩ := h
  obtain rfl | ⟨found, h⟩ := fileOperation_ok h
  · exact .same _
  · cases h
    refine .deleteReferences _ fun row hrow => ?_
    exact congrArg Prod.fst (of_decide_eq_true hrow)

theorem touchPreview_writes {key : PreviewKey} {accessedAt : Int} {touched : Bool}
    (h : touchPreview call key accessedAt index = .ok (touched, next)) :
    Writes call.user index next := by
  simp only [touchPreview, bind_eq_ok, exists_unit] at h
  obtain ⟨-, found, -, h⟩ := h
  cases found with
  | none =>
    cases h
    exact .same _
  | some found =>
    have h := (withPreviews_ok h).2
    simp only [bind_eq_ok, pure_eq_ok] at h
    obtain ⟨updated, hupdate, hlast⟩ := h
    cases hlast
    exact (Writes.touchPreview index found.id accessedAt).trans
      (.updateFile (keepsOwner_accessed _) (fun _ => le_max_left _ _) hupdate)

theorem deleteFile_ok {fileId : Int} {deleted : Bool}
    (h : deleteFile call fileId index = .ok (deleted, next)) :
    next = index ∨ next = index.deleteFile call.user fileId := by
  obtain heq | ⟨found, h⟩ := fileOperation_ok h
  · exact .inl heq
  · cases h
    exact .inr rfl

theorem deletePreview_ok {key : PreviewKey} {record : Option PreviewCacheRecord}
    (h : deletePreview call key index = .ok (record, next)) :
    next = index ∨ ∃ wanted, (∀ row : PreviewCacheRow, wanted row = true →
      row.userPublicId = call.user) ∧ next = index.deletePreviews wanted := by
  simp only [deletePreview, bind_eq_ok, exists_unit] at h
  obtain ⟨-, found, -, h⟩ := h
  cases found with
  | none =>
    cases h
    exact .inl rfl
  | some found =>
    cases (withPreviews_ok h).2
    refine .inr ⟨_, fun row hrow => ?_, rfl⟩
    exact of_decide_eq_true (Bool.and_eq_true_iff.mp hrow).1

theorem deletePreviewsForSource_ok {sourceFileId : Int} {records : List PreviewCacheRecord}
    (h : deletePreviewsForSource call sourceFileId index = .ok (records, next)) :
    next = index ∨ ∃ wanted, (∀ row : PreviewCacheRow, wanted row = true →
      row.userPublicId = call.user) ∧ next = index.deletePreviews wanted := by
  simp only [deletePreviewsForSource, bind_eq_ok] at h
  obtain ⟨found, -, h⟩ := h
  split at h
  · cases h
    exact .inl rfl
  · cases (withPreviews_ok h).2
    refine .inr ⟨_, fun row hrow => ?_, rfl⟩
    exact of_decide_eq_true (Bool.and_eq_true_iff.mp hrow).1

/-- What an operation that succeeds has written. -/
theorem perform_cases (hperform : perform call request index = .ok next) :
    Writes call.user index next ∨
    (∃ id, next = index.deleteFile call.user id) ∨
    (∃ wanted, (∀ row : PreviewCacheRow, wanted row = true → row.userPublicId = call.user) ∧
      next = index.deletePreviews wanted) ∨
    ∃ registration status bytes rowid middle, request = .upsertPreview registration ∧
      index.upsertPreview (newPreview call registration status bytes rowid) = .ok middle ∧
      middle.updateFile call.user registration.previewFileId
        (accessed registration.lastAccessedAt) = .ok next := by
  have hsame : next = index → Writes call.user index next := by
    rintro rfl
    exact .same next
  cases request with
  | registerFile registration =>
    obtain ⟨⟨record, last⟩, h, rfl⟩ := map_eq_ok.mp hperform
    obtain ⟨metadata, h⟩ := withCurrentRegularFiles_ok h
    obtain ⟨first, -, h⟩ := bind_eq_ok.mp h
    exact .inl (registerGuarded_writes h)
  | findFileByPath area relativeName =>
    obtain ⟨_, h, rfl⟩ := map_eq_ok.mp hperform
    exact .inl (hsame (findFileByPath_reads h))
  | findFileById fileId =>
    obtain ⟨_, h, rfl⟩ := map_eq_ok.mp hperform
    exact .inl (hsame (findFileById_reads h))
  | markPendingDelete fileId pending =>
    obtain ⟨_, h, rfl⟩ := map_eq_ok.mp hperform
    exact .inl (markPendingDelete_writes h)
  | deleteFile fileId =>
    obtain ⟨_, h, rfl⟩ := map_eq_ok.mp hperform
    exact (deleteFile_ok h).imp hsame fun hdeleted => .inl ⟨fileId, hdeleted⟩
  | attachReference fileId ownerType ownerId =>
    obtain ⟨_, h, rfl⟩ := map_eq_ok.mp hperform
    exact .inl (attachReference_writes h)
  | detachReference fileId ownerType ownerId =>
    obtain ⟨_, h, rfl⟩ := map_eq_ok.mp hperform
    exact .inl (detachReference_writes h)
  | referenceCount fileId =>
    obtain ⟨_, h, rfl⟩ := map_eq_ok.mp hperform
    exact .inl (hsame (referenceCount_reads h))
  | clearAllReferences =>
    cases hperform
    exact .inl (.deleteReferences _ fun row hrow => of_decide_eq_true hrow)
  | replaceAllReferences registrations =>
    obtain ⟨_, h, rfl⟩ := map_eq_ok.mp hperform
    exact .inl (replaceAllReferences_writes h)
  | statsByKind =>
    obtain ⟨_, h, rfl⟩ := map_eq_ok.mp hperform
    exact .inl (hsame (statsByKind_reads h))
  | upsertPreview registration =>
    obtain ⟨_, h, rfl⟩ := map_eq_ok.mp hperform
    obtain ⟨status, bytes, rowid, middle, hmiddle, hrest⟩ := upsertPreview_ok h
    exact .inr (.inr (.inr ⟨registration, status, bytes, rowid, middle, rfl, hmiddle, hrest⟩))
  | findPreview key =>
    obtain ⟨_, h, rfl⟩ := map_eq_ok.mp hperform
    exact .inl (hsame (findPreview_reads h))
  | touchPreview key accessedAt =>
    obtain ⟨_, h, rfl⟩ := map_eq_ok.mp hperform
    exact .inl (touchPreview_writes h)
  | deletePreview key =>
    obtain ⟨_, h, rfl⟩ := map_eq_ok.mp hperform
    exact (deletePreview_ok h).imp hsame fun hdeleted => .inr (.inl hdeleted)
  | deletePreviewsForSource sourceFileId =>
    obtain ⟨_, h, rfl⟩ := map_eq_ok.mp hperform
    exact (deletePreviewsForSource_ok h).imp hsame fun hdeleted => .inr (.inl hdeleted)
  | leastRecentlyUsedPreviews limit =>
    obtain ⟨_, h, rfl⟩ := map_eq_ok.mp hperform
    exact .inl (hsame (leastRecentlyUsedPreviews_reads h))
  | orphanCandidate file cutoff =>
    obtain ⟨_, h, rfl⟩ := map_eq_ok.mp hperform
    exact .inl (hsame (orphanCandidate_reads h))

end Steps

end ArtForgeStudio.FileIndex
