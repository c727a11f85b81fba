import ArtForgeStudio.FileIndex.Isolation

/-! # When a row was accessed last

Accesses arrive in any order. All statements but one keep the later of two accesses; a preview that
is registered again takes the access of its registration.
-/

namespace ArtForgeStudio.FileIndex

open ArtForgeStudio.Outcome ArtForgeStudio.KeyedRows ArtForgeStudio.OwnedRows

section Columns

variable {R : Type} {id last : R → Int} {rows before middle after : List R} {change : R → R}

/-- No row that is in both tables was accessed last earlier than before. -/
def NeverBack (id last : R → Int) (before after : List R) : Prop :=
  ∀ row ∈ before, ∀ row' ∈ after, id row' = id row → last row ≤ last row'

/-- Every row is still there, and its last access is no earlier. -/
def Persist (id last : R → Int) (before after : List R) : Prop :=
  ∀ row ∈ before, ∃ row' ∈ after, id row' = id row ∧ last row ≤ last row'

theorem Persist.of_subset (h : before ⊆ after) : Persist id last before after :=
  fun row hmem => ⟨row, h hmem, rfl, le_refl _⟩

theorem Persist.trans (h : Persist id last before middle) (hrest : Persist id last middle after) :
    Persist id last before after := by
  intro row hmem
  obtain ⟨next, hnext, hid, hlast⟩ := h row hmem
  obtain ⟨final, hfinal, hid', hlast'⟩ := hrest next hnext
  exact ⟨final, hfinal, hid'.trans hid, hlast.trans hlast'⟩

theorem Persist.map (hid : ∀ row, id (change row) = id row)
    (hlast : ∀ row ∈ rows, last row ≤ last (change row)) :
    Persist id last rows (rows.map change) :=
  fun row hmem => ⟨change row, List.mem_map_of_mem hmem, hid row, hlast row hmem⟩

theorem Persist.neverBack (h : Persist id last before after) (hunique : UniqueKeys id after) :
    NeverBack id last before after := by
  intro row hmem row' hmem' hid
  obtain ⟨image, himage, hsame, hlast⟩ := h row hmem
  rw [eq_of_key hunique hmem' himage (hid.trans hsame.symm)]
  exact hlast

theorem neverBack_of_subset (h : after ⊆ before) (hunique : UniqueKeys id before) :
    NeverBack id last before after := by
  intro row hmem row' hmem' hid
  rw [eq_of_key hunique (h hmem') hmem hid]

end Columns

/-- The last accesses of files and previews never go back. -/
structure Index.Later (before after : Index) : Prop where
  files : NeverBack ManagedFileRow.id ManagedFileRow.lastAccessedAt before.files after.files
  previews : NeverBack PreviewCacheRow.id PreviewCacheRow.lastAccessedAt before.previews after.previews

/-- The request registers a preview again, with an access before the last one. -/
def Call.setsBack (call : Call) : Request → Index → Prop
  | .upsertPreview registration, index => ∃ row ∈ index.previews,
      row.key = (newPreview call registration "" 0 0).key ∧
        registration.lastAccessedAt < row.lastAccessedAt
  | _, _ => False

section Steps

variable {user : String} {index next : Index} {call : Call} {request : Request}

theorem insertReference_tables {row : FileReferenceRow} {inserted : Bool}
    (h : index.insertReference row = .ok (inserted, next)) :
    next.files = index.files ∧ next.previews = index.previews := by
  simp only [Index.insertReference, bind_eq_ok, exists_unit] at h
  obtain ⟨-, -, h⟩ := h
  split at h
  · cases h
    exact ⟨rfl, rfl⟩
  · simp only [bind_eq_ok, exists_unit, pure_eq_ok] at h
    cases h.2
    exact ⟨rfl, rfl⟩

theorem persist_updateFile {id : Int} {set : ManagedFileRow → ManagedFileRow}
    (hset : Index.KeepsOwner set) (hlater : ∀ row, row.lastAccessedAt ≤ (set row).lastAccessedAt)
    (h : index.updateFile user id set = .ok next) :
    Persist ManagedFileRow.id ManagedFileRow.lastAccessedAt index.files next.files ∧
      next.previews = index.previews := by
  obtain ⟨-, rfl⟩ := Index.updateFile_ok h
  refine ⟨Persist.map (fun row => ?_) fun row _ => ?_, rfl⟩
  · split
    · exact hset.id row
    · rfl
  · split
    · exact hlater row
    · exact le_refl _

/-- Additions and updates lose no row and set no access back. -/
theorem Writes.persist (h : Writes user index next) :
    Persist ManagedFileRow.id ManagedFileRow.lastAccessedAt index.files next.files ∧
      Persist PreviewCacheRow.id PreviewCacheRow.lastAccessedAt index.previews next.previews := by
  induction h with
  | same index => exact ⟨.of_subset (List.Subset.refl _), .of_subset (List.Subset.refl _)⟩
  | insertFile _ h =>
    obtain ⟨-, -, rfl⟩ := Index.insertFile_ok h
    exact ⟨.of_subset (List.subset_append_left _ _), .of_subset (List.Subset.refl _)⟩
  | updateFile hset hlater h =>
    obtain ⟨hfiles, hpreviews⟩ := persist_updateFile hset hlater h
    exact ⟨hfiles, .of_subset (hpreviews ▸ List.Subset.refl _)⟩
  | insertReference _ h =>
    obtain ⟨hfiles, hpreviews⟩ := insertReference_tables h
    exact ⟨.of_subset (hfiles ▸ List.Subset.refl _), .of_subset (hpreviews ▸ List.Subset.refl _)⟩
  | deleteReferences index _ =>
    exact ⟨.of_subset (List.Subset.refl _), .of_subset (List.Subset.refl _)⟩
  | touchPreview index id accessedAt =>
    refine ⟨.of_subset (List.Subset.refl _), Persist.map (fun row => ?_) fun row _ => ?_⟩
    · split <;> rfl
    · split
      · exact le_max_left _ _
      · exact le_refl _
  | trans _ _ ih ihrest => exact ⟨ih.1.trans ihrest.1, ih.2.trans ihrest.2⟩

/-- The preview that is registered again keeps its row. -/
theorem persist_upserted {row : PreviewCacheRow} {previews : List PreviewCacheRow}
    (hlater : ∀ old ∈ previews, old.key = row.key → old.lastAccessedAt ≤ row.lastAccessedAt) :
    Persist PreviewCacheRow.id PreviewCacheRow.lastAccessedAt previews
      (Index.upserted row previews) := by
  unfold Index.upserted
  split
  · refine Persist.map (fun old => ?_) fun old hmem => ?_
    · split <;> rfl
    · split
      · rename_i hkey
        exact hlater old hmem hkey
      · exact le_refl _
  · exact .of_subset (List.subset_append_left _ _)

theorem key_newPreview (call : Call) (registration : PreviewRegistration) (status : String)
    (bytes rowid : Int) : (newPreview call registration status bytes rowid).key =
      (newPreview call registration "" 0 0).key := rfl

theorem perform_later (hindex : index.Consistent) (hforward : ¬call.setsBack request index)
    (h : perform call request index = .ok next) : index.Later next := by
  have hnext := (perform_acts hindex h).consistent
  obtain hwrites | ⟨id, rfl⟩ | ⟨wanted, -, rfl⟩ |
    ⟨registration, status, bytes, rowid, middle, rfl, hupsert, hupdate⟩ := perform_cases h
  · obtain ⟨hfiles, hpreviews⟩ := hwrites.persist
    exact ⟨hfiles.neverBack hnext.files.1, hpreviews.neverBack hnext.previews.1⟩
  · refine ⟨neverBack_of_subset ?_ hindex.files.1, neverBack_of_subset ?_ hindex.previews.1⟩
    · unfold Index.deleteFile
      split
      · exact List.filter_subset_self _
      · exact List.Subset.refl _
    · unfold Index.deleteFile
      split
      · exact List.filter_subset_self _
      · exact List.Subset.refl _
  · exact ⟨(Persist.of_subset (List.Subset.refl _)).neverBack hindex.files.1,
      neverBack_of_subset (List.filter_subset_self _) hindex.previews.1⟩
  · obtain ⟨-, -, -, rfl⟩ := Index.upsertPreview_ok hupsert
    obtain ⟨hfiles, hpreviews⟩ :=
      persist_updateFile (keepsOwner_accessed _) (fun _ => le_max_left _ _) hupdate
    refine ⟨hfiles.neverBack hnext.files.1, Persist.neverBack ?_ hnext.previews.1⟩
    rw [hpreviews]
    refine persist_upserted fun old hmem hkey => ?_
    rw [key_newPreview] at hkey
    exact le_of_not_gt fun hback => hforward ⟨old, hmem, hkey, hback⟩

theorem mem_overwritten {row old : PreviewCacheRow} {previews : List PreviewCacheRow}
    (hmem : old ∈ previews) (hkey : old.key = row.key) :
    Index.overwrite row old ∈ Index.upserted row previews := by
  unfold Index.upserted
  rw [if_pos (List.any_eq_true.mpr ⟨old, hmem, decide_eq_true hkey⟩)]
  exact List.mem_map.mpr ⟨old, hmem, if_pos hkey⟩

/-- A registration that sets an access back does so if it succeeds. -/
theorem not_later_of_setsBack (hback : call.setsBack request index)
    (h : perform call request index = .ok next) : ¬index.Later next := by
  intro hlater
  cases request with
  | upsertPreview registration =>
    obtain ⟨⟨record, last⟩, hperform, rfl⟩ := map_eq_ok.mp h
    obtain ⟨status, bytes, rowid, middle, hupsert, hupdate⟩ := upsertPreview_ok hperform
    obtain ⟨-, -, -, rfl⟩ := Index.upsertPreview_ok hupsert
    obtain ⟨-, hpreviews⟩ :=
      persist_updateFile (keepsOwner_accessed _) (fun _ => le_max_left _ _) hupdate
    obtain ⟨old, hmem, hkey, hless⟩ := hback
    rw [← key_newPreview call registration status bytes rowid] at hkey
    have himage : Index.overwrite (newPreview call registration status bytes rowid) old ∈
        last.previews := by
      rw [hpreviews]
      exact mem_overwritten hmem hkey
    have hle : old.lastAccessedAt ≤ registration.lastAccessedAt :=
      hlater.previews old hmem _ himage rfl
    omega
  | _ => exact hback

/-- An operation sets an access back exactly when it registers a preview again with an access
before its last one. -/
theorem after_later_iff (hindex : index.Consistent) : index.Later (after (call, request) index) ↔
    (∃ error, perform call request index = .error error) ∨ ¬call.setsBack request index := by
  have hsame : index.Later index :=
    ⟨(Persist.of_subset (List.Subset.refl _)).neverBack hindex.files.1,
      (Persist.of_subset (List.Subset.refl _)).neverBack hindex.previews.1⟩
  cases hperform : perform call request index with
  | error error =>
    rw [after_of_error hperform]
    exact iff_of_true hsame (.inl ⟨error, rfl⟩)
  | ok next =>
    have hafter : after (call, request) index = next := by
      unfold after
      rw [hperform]
    rw [hafter]
    constructor
    · exact fun hlater => .inr fun hback => not_later_of_setsBack hback hperform hlater
    · rintro (⟨error, herror⟩ | hforward)
      · cases herror
      · exact perform_later hindex hforward hperform

end Steps

section Order

variable {index next : Index} {call : Call} {steps : List (Call × Request)}

/-- The steps of a run set no access back. -/
def Forward (steps : List (Call × Request)) (index : Index) : Prop :=
  Runs.AtEachStep after (fun step index =>
    (∃ error, perform step.1 step.2 index = .error error) ∨ ¬step.1.setsBack step.2 index) steps index

/-- A row that is there throughout a run was accessed last no earlier at its end. -/
theorem run_forward {R : Type} {id last : R → Int} (table : Index → List R)
    (hstep : ∀ {before after : Index}, before.Later after →
      NeverBack id last (table before) (table after))
    (hindex : index.Consistent) (hforward : Forward steps index) {row row' : R}
    (hrow : row ∈ table index) (hrow' : row' ∈ table (Runs.run after steps index))
    (hid : id row' = id row) (hunique : ∀ {index : Index}, index.Consistent → UniqueKeys id (table index))
    (hthere : Runs.Throughout after (fun index => ∃ other ∈ table index, id other = id row) steps
      index) : last row ≤ last row' := by
  induction steps generalizing index row with
  | nil =>
    rw [eq_of_key (hunique hindex) hrow' hrow hid]
  | cons step steps ih =>
    have hlater := (after_later_iff hindex).mpr hforward.1
    have hacts : Index.Acts step.1.user index (after step index) := after_acts hindex
    obtain ⟨other, hother, hsame⟩ := hthere.2.head
    have hfirst := hstep hlater row hrow other hother hsame
    have hrest := ih hacts.consistent hforward.2 hother hrow' (hid.trans hsame.symm)
      (by rw [hsame]; exact hthere.2)
    exact hfirst.trans hrest

/-- How far back an access of a record lies, then its identifier. -/
def recordBefore (a b : PreviewCacheRecord) : Prop :=
  a.lastAccessedAt < b.lastAccessedAt ∨ a.lastAccessedAt = b.lastAccessedAt ∧ a.id ≤ b.id

theorem mapPreview_ok {row : JoinedPreview} {record : PreviewCacheRecord}
    (h : mapPreview row = .ok record) :
    record.id = row.preview.id ∧ record.lastAccessedAt = row.preview.lastAccessedAt := by
  simp only [mapPreview, bind_eq_ok, pure_eq_ok] at h
  obtain ⟨_, -, _, -, _, -, _, -, _, -, _, -, _, -, _, -, _, -, rfl⟩ := h
  exact ⟨rfl, rfl⟩

theorem accessedBefore_iff {a b : JoinedPreview} : Index.accessedBefore a b = true ↔
    a.preview.lastAccessedAt < b.preview.lastAccessedAt ∨
      a.preview.lastAccessedAt = b.preview.lastAccessedAt ∧ a.preview.id ≤ b.preview.id := by
  simp [Index.accessedBefore]

theorem pairwise_sorted (rows : List JoinedPreview) :
    (rows.mergeSort Index.accessedBefore).Pairwise fun a b => Index.accessedBefore a b = true := by
  refine List.pairwise_mergeSort (fun a b c hab hbc => ?_) (fun a b => ?_) rows
  · rw [accessedBefore_iff] at hab hbc ⊢
    omega
  · rw [Bool.or_eq_true, accessedBefore_iff, accessedBefore_iff]
    omega

theorem pairwise_of_forall₂ {A B : Type} {R : A → B → Prop} {P : A → A → Prop} {Q : B → B → Prop}
    (hmap : ∀ a b c d, R a b → R c d → P a c → Q b d) {xs : List A} {ys : List B}
    (h : List.Forall₂ R xs ys) (hxs : xs.Pairwise P) : ys.Pairwise Q := by
  induction h with
  | nil => exact List.Pairwise.nil
  | cons hhead htail ih =>
    obtain ⟨hfirst, hrest⟩ := List.pairwise_cons.mp hxs
    refine List.pairwise_cons.mpr ⟨fun y hy => ?_, ih hrest⟩
    obtain ⟨x, hx, hxy⟩ := exists_of_mem_right htail hy
    exact hmap _ _ _ _ hhead hxy (hfirst x hx)

/-- The previews that were not used for longest come first, each with its row. -/
theorem queryPreviews_ok {user : String} {limit : Nat} {records : List PreviewCacheRecord}
    (h : index.queryPreviews user none (some limit) = .ok records) :
    records.Pairwise recordBefore ∧ ∀ record ∈ records, ∃ row ∈ index.previews,
      row.id = record.id ∧ row.lastAccessedAt = record.lastAccessedAt := by
  have hrows := mapM_eq_ok.mp h
  constructor
  · refine pairwise_of_forall₂ (fun a b c d hab hcd hac => ?_) hrows
      ((pairwise_sorted _).sublist (List.take_sublist _ _))
    obtain ⟨hid, hlast⟩ := mapPreview_ok hab
    obtain ⟨hid', hlast'⟩ := mapPreview_ok hcd
    rw [recordBefore, hid, hid', hlast, hlast']
    exact accessedBefore_iff.mp hac
  · intro record hrecord
    obtain ⟨row, hrow, hmap⟩ := exists_of_mem_right hrows hrecord
    obtain ⟨hid, hlast⟩ := mapPreview_ok hmap
    have hjoined := List.mem_of_mem_filter (List.mem_mergeSort.mp (List.mem_of_mem_take hrow))
    obtain ⟨preview, hpreview, hjoin⟩ := List.mem_filterMap.mp hjoined
    simp only [Option.bind_eq_bind, Option.bind_eq_some_iff, Option.some.injEq] at hjoin
    obtain ⟨source, -, file, -, rfl⟩ := hjoin
    exact ⟨preview, hpreview, hid.symm, hlast.symm⟩

/-- What the list of least recently used previews says of the tables it was read from. -/
theorem leastRecentlyUsedPreviews_ok {limit : Nat} {records : List PreviewCacheRecord}
    (h : leastRecentlyUsedPreviews call limit index = .ok (records, next)) :
    records.Pairwise recordBefore ∧ ∀ record ∈ records, ∃ row ∈ index.previews,
      row.id = record.id ∧ row.lastAccessedAt = record.lastAccessedAt := by
  unfold leastRecentlyUsedPreviews at h
  split at h
  · cases h
    exact ⟨.nil, fun _ hmem => absurd hmem List.not_mem_nil⟩
  · simp only [bind_eq_ok, exists_unit] at h
    obtain ⟨-, found, -, h⟩ := h
    split at h
    · rename_i hempty
      cases h
      rw [hempty]
      exact ⟨.nil, fun _ hmem => absurd hmem List.not_mem_nil⟩
    · obtain ⟨hfound, hlast⟩ := withPreviews_ok h
      cases hlast
      exact queryPreviews_ok hfound

end Order

/-- A step sets an access back exactly when it registers a preview again with an access before its
last one. In a run without such steps no preview and no file that stays has its last access set
back, and no preview gets before another one in the order of disuse that was not accessed since. -/
theorem accesses_never_go_back {index : Index} (hindex : index.Consistent)
    {steps : List (Call × Request)} (hforward : Forward steps index) :
    (∀ call request, index.Later (after (call, request) index) ↔
      (∃ error, perform call request index = .error error) ∨ ¬call.setsBack request index) ∧
    (∀ row ∈ index.previews, ∀ row' ∈ (Runs.run after steps index).previews, row'.id = row.id →
      Runs.Throughout after (fun index => ∃ other ∈ index.previews, other.id = row.id) steps index →
      row.lastAccessedAt ≤ row'.lastAccessedAt) ∧
    (∀ row ∈ index.files, ∀ row' ∈ (Runs.run after steps index).files, row'.id = row.id →
      Runs.Throughout after (fun index => ∃ other ∈ index.files, other.id = row.id) steps index →
      row.lastAccessedAt ≤ row'.lastAccessedAt) ∧
    ∀ used ∈ index.previews, ∀ other ∈ index.previews,
      Runs.Throughout after (fun index => ∃ row ∈ index.previews, row.id = used.id) steps index →
      (∀ other' ∈ (Runs.run after steps index).previews, other'.id = other.id →
        other'.lastAccessedAt = other.lastAccessedAt) →
      (other.lastAccessedAt < used.lastAccessedAt ∨
        other.lastAccessedAt = used.lastAccessedAt ∧ other.id < used.id) →
      ∀ call limit records next,
        leastRecentlyUsedPreviews call limit (Runs.run after steps index) = .ok (records, next) →
        ∀ first second, first.id = used.id → second.id = other.id →
          ¬List.Sublist [first, second] records := by
  have hpreviews : ∀ row ∈ index.previews, ∀ row' ∈ (Runs.run after steps index).previews,
      row'.id = row.id →
      Runs.Throughout after (fun index => ∃ other ∈ index.previews, other.id = row.id) steps index →
      row.lastAccessedAt ≤ row'.lastAccessedAt := fun row hrow row' hrow' hid hthere =>
    run_forward Index.previews (fun hlater => hlater.previews) hindex hforward hrow hrow' hid
      (fun hconsistent => hconsistent.previews.1) hthere
  refine ⟨fun _ _ => after_later_iff hindex, hpreviews, ?_, ?_⟩
  · intro row hrow row' hrow' hid hthere
    exact run_forward Index.files (fun hlater => hlater.files) hindex hforward hrow hrow' hid
      (fun hconsistent => hconsistent.files.1) hthere
  · intro used hused other hother hthere hunused horder call limit records next hlisted first second
      hfirst hsecond hbefore
    obtain ⟨hsorted, hrows⟩ := leastRecentlyUsedPreviews_ok hlisted
    obtain ⟨used', hused', husedId, husedLast⟩ := hrows first (hbefore.subset (by simp))
    obtain ⟨other', hother', hotherId, hotherLast⟩ := hrows second (hbefore.subset (by simp))
    have hlater := hpreviews used hused used' hused' (husedId.trans hfirst) hthere
    have hsame := hunused other' hother' (hotherId.trans hsecond)
    have hpair : recordBefore first second := by simpa using hsorted.sublist hbefore
    unfold recordBefore at hpair
    omega

/-- A preview that was accessed at 100. -/
def watched : Index where
  files :=
    [{ id := 1, userPublicId := "11111111-1111-4111-8111-111111111111", managedArea := "output"
       physicalIdentity := (StableFileIdentity.unix 1 1).toStorageBytes, path := "a.png"
       kind := "image", byteSize := 5, managed := true, retentionPolicy := "user"
       createdAt := 0, lastAccessedAt := 0, pendingDelete := false },
     { id := 2, userPublicId := "11111111-1111-4111-8111-111111111111", managedArea := "previews"
       physicalIdentity := (StableFileIdentity.unix 1 2).toStorageBytes, path := "a.png"
       kind := "image", byteSize := 3, managed := true, retentionPolicy := "cache"
       createdAt := 0, lastAccessedAt := 100, pendingDelete := false }]
  previews :=
    [{ id := 1, userPublicId := "11111111-1111-4111-8111-111111111111", sourceFileId := 1
       previewFileId := 2, purpose := "gallery", longestEdge := 64, sourceSize := 5
       sourceMtimeNs := 9, cacheVersion := 1, status := "ready", lastAccessedAt := 100
       createdAt := 0, updatedAt := 0 }]

theorem watched_consistent : watched.Consistent where
  files := by decide
  references := List.nodup_nil
  previews := ⟨List.nodup_singleton _, List.nodup_singleton _, List.nodup_singleton _⟩
  referenced := fun _ hrow => absurd hrow List.not_mem_nil
  sources := by
    intro row hrow
    obtain rfl := List.mem_singleton.mp hrow
    exact ⟨_, List.mem_cons_self, rfl, rfl⟩
  previewed := by
    intro row hrow
    obtain rfl := List.mem_singleton.mp hrow
    exact ⟨_, List.mem_cons_of_mem _ List.mem_cons_self, rfl, rfl⟩

/-- A call that finds both files as they are indexed. -/
def watcher : Call where
  authority :=
    { userPublicId := "11111111-1111-4111-8111-111111111111"
      openOptionalRegular := fun key => .ok (some ⟨key, 0⟩)
      inspect := fun file =>
        if file.key.area = .output then .ok ⟨.unix 1 1, 5, 9, 1⟩ else .ok ⟨.unix 1 2, 3, 9, 1⟩ }
  discovered := watched
  rediscovered := watched
  timestamp := 200
  fileRowid := fun _ => 3
  previewRowid := fun _ => 2

/-- A registration whose access was measured at 7. -/
def lateRegistration : PreviewRegistration where
  key := ⟨1, "gallery", 64, 1⟩
  previewFileId := 2
  sourceSize := 5
  sourceMtimeNs := 9
  status := "ready"
  lastAccessedAt := 7

theorem accesses_never_go_back_touched :
    Forward [(watcher, .touchPreview lateRegistration.key 7)] watched ∧
    ∀ row ∈ watched.previews, ∀ row' ∈ (Runs.run after
        [(watcher, .touchPreview lateRegistration.key 7)] watched).previews, row'.id = row.id →
      Runs.Throughout after (fun index => ∃ other ∈ index.previews, other.id = row.id)
        [(watcher, .touchPreview lateRegistration.key 7)] watched →
      row.lastAccessedAt ≤ row'.lastAccessedAt := by
  have hforward : Forward [(watcher, .touchPreview lateRegistration.key 7)] watched :=
    ⟨.inr id, trivial⟩
  exact ⟨hforward, (accesses_never_go_back watched_consistent hforward).2.1⟩

/-- A late registration of a preview sets its last access back from 100 to 7. -/
theorem late_registration_goes_back :
    watched.Consistent ∧
    watched.previews.map (fun row => (row.id, row.lastAccessedAt)) = [(1, 100)] ∧
    (after (watcher, .upsertPreview lateRegistration) watched).previews.map
      (fun row => (row.id, row.lastAccessedAt)) = [(1, 7)] :=
  ⟨watched_consistent, rfl, by decide +kernel⟩

end ArtForgeStudio.FileIndex
