import ArtForgeStudio.FileIndex.Replay

/-! # Crashes and orders of a replay

What a replay touches, and when every order of the pending entries replays to the same tables.
-/

namespace ArtForgeStudio.FileIndex

open ArtForgeStudio.Outcome ArtForgeStudio.KeyedRows ArtForgeStudio.OwnedRows
  ArtForgeStudio.Directories

/-- The user and the area of a row. -/
def ManagedFileRow.place (row : ManagedFileRow) : String × String := (row.userPublicId, row.managedArea)

/-- A change of files of one user in some areas. -/
structure Touches (user : String) (areas : String → Prop) (before after : Index) : Prop where
  unique : UniqueFiles after.files
  elsewhere : ∀ owner area, ¬(owner = user ∧ areas area) →
    ofOwner ManagedFileRow.place (owner, area) after.files =
      ofOwner ManagedFileRow.place (owner, area) before.files
  acts : before.Consistent → Index.Acts user before after

section Touching

variable {user : String} {areas others : String → Prop} {index next last : Index}

theorem Touches.refl (h : UniqueFiles index.files) : Touches user areas index index :=
  ⟨h, fun _ _ _ => rfl, Index.Acts.refl⟩

theorem Touches.trans (h : Touches user areas index next) (hrest : Touches user areas next last) :
    Touches user areas index last where
  unique := hrest.unique
  elsewhere owner area hne := (hrest.elsewhere owner area hne).trans (h.elsewhere owner area hne)
  acts hindex := (h.acts hindex).trans (hrest.acts (h.acts hindex).consistent)

theorem Touches.mono (h : Touches user areas index next) (hareas : ∀ area, areas area → others area) :
    Touches user others index next where
  unique := h.unique
  elsewhere owner area hne := h.elsewhere owner area fun hin => hne ⟨hin.1, hareas area hin.2⟩
  acts := h.acts

variable {area : ManagedUserArea} {entry : MigratedIndexIdentity}

theorem expected_eq_ok {A : Type} {error : FileIndexError} {found : Option A} {value : A} :
    expected error found = .ok value ↔ found = some value := by
  cases found <;> simp [expected]

theorem cleared_acts {record : ManagedFileRecord} {after : StableFileIdentity} :
    (if record.physicalIdentity ≠ after then index.deletePreviews fun row =>
      row.userPublicId = user && row.sourceFileId = record.id else index).files = index.files ∧
    (index.Consistent → Index.Acts user index (if record.physicalIdentity ≠ after then
      index.deletePreviews fun row => row.userPublicId = user && row.sourceFileId = record.id
      else index)) := by
  split
  · refine ⟨rfl, Index.deletePreviews_acts fun row hrow => ?_⟩
    exact of_decide_eq_true (Bool.and_eq_true _ _ ▸ hrow).1
  · exact ⟨rfl, Index.Acts.refl⟩

/-- An entry touches the row with its name. -/
theorem rebindEntry_touches (hindex : UniqueFiles index.files)
    (h : rebindEntry user area index entry = .ok next) :
    Touches user (· = area.storageName) index next := by
  simp only [rebindEntry, bind_eq_ok, mapError_eq_ok] at h
  obtain ⟨key, hkey, record, hquery, h⟩ := h
  obtain ⟨hkeyArea, -⟩ := ManagedFileKey.new_eq_ok.mp hkey
  -- The rows with the record's identifier are in the area.
  have howned : ∀ found, record = some found → ∀ row ∈ index.files, row.owned user found.id = true →
      row.place = (user, area.storageName) := by
    rintro found rfl row hrow howned
    obtain ⟨named, hnamed, hname, hmap⟩ := queryKey_ok hquery
    have hsame : row = named := by
      refine eq_of_key hindex.1 hrow hnamed ?_
      exact (Index.owned_iff.mp howned).2.trans (mapFile_ok hmap).1
    have harea : named.managedArea = key.area.storageName := congrArg (·.2.1) hname
    rw [hsame, ManagedFileRow.place, harea, hkeyArea]
    exact congrArg (·, _) (congrArg Prod.fst hname)
  cases hafter : entry.after with
  | none =>
    rw [hafter] at h
    cases record with
    | none =>
      obtain rfl := Except.ok.inj h
      exact Touches.refl hindex
    | some found =>
      simp only [removeMissing, bind_eq_ok, exists_unit, pure_eq_ok] at h
      obtain ⟨-, rfl⟩ := h
      refine ⟨?_, fun owner other hne => ?_, fun hconsistent => Index.deleteFile_acts hconsistent⟩
      · unfold Index.deleteFile
        split
        · exact ⟨uniqueKeys_filter hindex.1, uniqueKeys_filter hindex.2.1, uniqueKeys_filter hindex.2.2⟩
        · exact hindex
      · unfold Index.deleteFile
        split
        · refine ofOwner_filter fun row hrow hplace => ?_
          rw [Bool.not_eq_true', Bool.eq_false_iff]
          exact fun hown => hne (Prod.ext_iff.mp (hplace.symm.trans (howned found rfl row hrow hown)))
        · rfl
  | some after =>
    rw [hafter] at h
    simp only [rebindCopied, bind_eq_ok, exists_unit, expected_eq_ok] at h
    obtain ⟨found, rfl, -, bytes, -, hupdate⟩ := h
    have hcleared := @cleared_acts user index found after
    obtain ⟨hunique, hnext⟩ := Index.updateFile_ok hupdate
    rw [hcleared.1] at hunique hnext
    refine ⟨?_, fun owner other hne => ?_, fun hconsistent => ?_⟩
    · rw [hnext]
      exact hunique
    · rw [hnext]
      refine ofOwner_map (fun row => ?_) fun row hrow hplace => ?_
      · split <;> rfl
      · rw [if_neg]
        exact fun hown => hne (Prod.ext_iff.mp (hplace.symm.trans (howned found rfl row hrow hown)))
    · have hkeeps : Index.KeepsOwner (rebound after bytes) := ⟨fun _ => rfl, fun _ => rfl⟩
      have hacts := hcleared.2 hconsistent
      exact hacts.trans (Index.updateFile_acts hkeeps hacts.consistent hupdate)

theorem foldlM_touches {entries : List MigratedIndexIdentity} (hindex : UniqueFiles index.files)
    (h : entries.foldlM (rebindEntry user area) index = .ok next) :
    Touches user (· = area.storageName) index next := by
  induction entries generalizing index with
  | nil =>
    obtain rfl := pure_eq_ok.mp h
    exact Touches.refl hindex
  | cons entry entries ih =>
    obtain ⟨middle, hentry, hrest⟩ := bind_eq_ok.mp h
    have hfirst := rebindEntry_touches hindex hentry
    exact hfirst.trans (ih hfirst.unique hrest)

variable {target : RebindTarget} {mapping : RebindMapping} {mappings : List RebindMapping}

theorem rebindMapping_touches (hindex : UniqueFiles index.files)
    (h : rebindMapping target mapping index = .ok next) :
    Touches target.userPublicId (· = mapping.area) index next := by
  simp only [rebindMapping, bind_eq_ok, exists_unit, mapError_eq_ok] at h
  obtain ⟨area, harea, -, hrun⟩ := h
  rw [fromStorageName_ok harea]
  exact foldlM_touches hindex hrun

/-- However a replay ends, it touched files of the user in the areas with something pending. -/
theorem replay_touches (hindex : UniqueFiles index.files) :
    Touches target.userPublicId
      (fun area => ∃ mapping ∈ mappings, mapping.pendingRebind ≠ [] ∧ mapping.area = area) index
      (replayDirectoryRebind target mappings index).1 := by
  induction mappings generalizing index with
  | nil => exact Touches.refl hindex
  | cons mapping mappings ih =>
    have hlater : ∀ area, (∃ later ∈ mappings, later.pendingRebind ≠ [] ∧ later.area = area) →
        ∃ later ∈ mapping :: mappings, later.pendingRebind ≠ [] ∧ later.area = area := by
      rintro area ⟨later, hmem, hpending⟩
      exact ⟨later, List.mem_cons_of_mem _ hmem, hpending⟩
    rw [replayDirectoryRebind]
    split
    · exact (ih hindex).mono hlater
    · rename_i hpending
      split
      · rename_i next hnext
        have hfirst := rebindMapping_touches hindex hnext
        refine (hfirst.mono fun area harea => ?_).trans ((ih hfirst.unique).mono hlater)
        exact ⟨mapping, List.mem_cons_self, hpending, harea.symm⟩
      · exact Touches.refl hindex

/-- With nothing pending there is nothing to replay. -/
theorem replay_nothing (h : ∀ mapping ∈ mappings, mapping.pendingRebind = []) :
    replayDirectoryRebind target mappings index = (index, .ok ()) := by
  induction mappings with
  | nil => rfl
  | cons mapping mappings ih =>
    rw [replayDirectoryRebind, if_pos (h mapping List.mem_cons_self)]
    exact ih fun later hlater => h later (List.mem_cons_of_mem _ hlater)

/-- An error leaves the tables to which the mappings before the failing one were replayed. -/
theorem replay_error {error : FileIndexError}
    (h : replayDirectoryRebind target mappings index = (next, .error error)) :
    ∃ done failing rest, mappings = done ++ failing :: rest ∧
      replayDirectoryRebind target done index = (next, .ok ()) ∧
      rebindMapping target failing next = .error error := by
  induction mappings generalizing index with
  | nil => cases h
  | cons mapping mappings ih =>
    rw [replayDirectoryRebind] at h
    split at h
    · rename_i hpending
      obtain ⟨done, failing, rest, rfl, hdone, hfailing⟩ := ih h
      refine ⟨mapping :: done, failing, rest, rfl, ?_, hfailing⟩
      rw [replayDirectoryRebind, if_pos hpending, hdone]
    · rename_i hpending
      split at h
      · rename_i middle hmiddle
        obtain ⟨done, failing, rest, rfl, hdone, hfailing⟩ := ih h
        refine ⟨mapping :: done, failing, rest, rfl, ?_, hfailing⟩
        rw [replayDirectoryRebind, if_neg hpending, hmiddle]
        exact hdone
      · rename_i failure hfailure
        obtain ⟨rfl, hsame⟩ := Prod.ext_iff.mp h
        obtain rfl := Except.error.inj hsame
        exact ⟨[], mapping, mappings, rfl, rfl, hfailure⟩

end Touching

def RebindMapping.items (mapping : RebindMapping) : List Item :=
  match ManagedUserArea.fromStorageName mapping.area with
  | .ok area => mapping.pendingRebind.map fun entry => (area, entry)
  | .error _ => []

def allItems (mappings : List RebindMapping) : List Item := mappings.flatMap RebindMapping.items

/-- The pending lists were prepared from the tables, each for an area of its own, and no two copies
are one file. -/
structure PreparedRebind (user : String) (index : Index) (mappings : List RebindMapping) : Prop where
  prepared : ∀ mapping ∈ mappings, mapping.pendingRebind ≠ [] →
    ∃ source target area sourceDirectory manifest, mapping.area = area.storageName ∧
      prepareDirectoryRebind source target area user sourceDirectory manifest index =
        .ok mapping.pendingRebind
  areas : ((mappings.filter fun mapping => mapping.pendingRebind ≠ []).map (·.area)).Nodup
  copies : ((allItems mappings).filterMap (·.2.after)).Nodup

/-- The copies still are what they were. -/
def Verified (target : RebindTarget) (mappings : List RebindMapping) : Prop :=
  ∀ item ∈ allItems mappings, verifyCopy target item.1 item.2 = .ok ()

def Reordered (mappings others : List RebindMapping) : Prop :=
  List.Forall₂ (fun mapping other => other.area = mapping.area ∧
    other.pendingRebind.Perm mapping.pendingRebind) mappings others

/-- No copy has an identity that the tables hold for another file when it is stored. -/
structure NothingStale (user : String) (index : Index) (mappings : List RebindMapping) : Prop where
  sizes : ∀ item ∈ allItems mappings, item.2.after.isSome → item.2.bytes < 0x8000000000000000
  outside : ∀ item ∈ allItems mappings, ∀ after, item.2.after = some after → ∀ row ∈ index.files,
    row.userPublicId = user → (∀ other ∈ allItems mappings, row.nameKey ≠ other.nameKey user) →
    row.physicalIdentity ≠ after.toStorageBytes
  inside : ∀ mapping ∈ mappings, ∀ item ∈ mapping.items, ∀ other ∈ mapping.items, item ≠ other →
    item.2.after ≠ some other.2.before
  later : mappings.Pairwise fun mapping later => ∀ item ∈ mapping.items, ∀ other ∈ later.items,
    item.2.after ≠ some other.2.before

section Prepared

variable {user : String} {index next final : Index} {target : RebindTarget} {mapping other : RebindMapping}
  {mappings others : List RebindMapping} {area : ManagedUserArea}

theorem fromStorageName_storageName (area : ManagedUserArea) :
    ManagedUserArea.fromStorageName area.storageName = .ok area := by
  cases area <;> rfl

theorem items_of_area (harea : mapping.area = area.storageName) :
    mapping.items = mapping.pendingRebind.map fun entry => (area, entry) := by
  rw [RebindMapping.items, harea, fromStorageName_storageName]

theorem items_mk {pending : List MigratedIndexIdentity} :
    RebindMapping.items ⟨area.storageName, pending⟩ = pending.map fun entry => (area, entry) :=
  items_of_area rfl

theorem items_nil (hpending : mapping.pendingRebind = []) : mapping.items = [] := by
  unfold RebindMapping.items
  split
  · rw [hpending, List.map_nil]
  · rfl

theorem mem_items {item : Item} (h : item ∈ mapping.items) :
    item.1.storageName = mapping.area ∧ item.2 ∈ mapping.pendingRebind := by
  unfold RebindMapping.items at h
  split at h
  · rename_i area harea
    obtain ⟨entry, hentry, rfl⟩ := List.mem_map.mp h
    exact ⟨(fromStorageName_ok harea).symm, hentry⟩
  · exact absurd h List.not_mem_nil

/-- An entry keeps the name and the identity of its record. -/
theorem prepareEntry_ok {source copy : ManagedFileKey → Except String VerifiedFile}
    {planned : List Path} {record : ManagedFileRecord} {entry : MigratedIndexIdentity}
    (h : prepareEntry source copy area planned record = .ok entry) :
    entry.path = record.path ∧ entry.before = record.physicalIdentity := by
  simp only [prepareEntry, bind_eq_ok] at h
  obtain ⟨key, hkey, h⟩ := h
  obtain ⟨-, hpath⟩ := ManagedFileKey.new_eq_ok.mp hkey
  split at h
  · obtain rfl := pure_eq_ok.mp h
    exact ⟨hpath, rfl⟩
  · simp only [bind_eq_ok, exists_unit, pure_eq_ok] at h
    obtain ⟨-, -, -, -, -, -, -, -, -, -, -, -, -, -, -, -, -, -, -, -, rfl⟩ := h
    exact ⟨hpath, rfl⟩

/-- Every row of the area has its entry. -/
theorem prepareDirectoryRebind_ok {source copy : ManagedFileKey → Except String VerifiedFile}
    {sourceDirectory : String} {manifest : List MigrationManifestEntry}
    {pending : List MigratedIndexIdentity}
    (h : prepareDirectoryRebind source copy area user sourceDirectory manifest index = .ok pending) :
    List.Forall₂ (fun row entry => row.nameKey = Item.nameKey user (area, entry) ∧
      row.physicalIdentity = entry.before.toStorageBytes ∧ ∃ record, mapFile row = .ok record)
      (index.ofArea user area) pending := by
  simp only [prepareDirectoryRebind, bind_eq_ok, mapM_eq_ok, mapError_eq_ok] at h
  obtain ⟨records, hrecords, hentries⟩ := h
  have hrows : ∀ row ∈ index.ofArea user area, row.userPublicId = user ∧
      row.managedArea = area.storageName := by
    intro row hrow
    simpa using (List.mem_filter.mp hrow).2
  generalize index.ofArea user area = rows at hrecords hrows
  induction hrecords generalizing pending with
  | nil => exact (List.forall₂_nil_left_iff.mp hentries) ▸ List.Forall₂.nil
  | @cons row record rows records hrecord _ ih =>
    obtain ⟨entry, rest, hentry, hrest, rfl⟩ := List.forall₂_cons_left_iff.mp hentries
    obtain ⟨huser, harea⟩ := hrows row List.mem_cons_self
    obtain ⟨-, -, -, hpath, hidentity⟩ := mapFile_ok hrecord
    obtain ⟨hentryPath, hbefore⟩ := prepareEntry_ok hentry
    refine .cons ⟨?_, ?_, record, hrecord⟩ (ih hrest fun row hrow => hrows row (List.mem_cons_of_mem _ hrow))
    · exact Prod.ext huser (Prod.ext harea (hpath.symm.trans hentryPath.symm))
    · rw [hbefore, hidentity]

theorem ready_items (hindex : index.Constrained) (hprepared : PreparedRebind user index mappings)
    (hmapping : mapping ∈ mappings) : Ready user mapping.items index := by
  by_cases hpending : mapping.pendingRebind = []
  · rw [items_nil hpending]
    exact ⟨hindex, fun _ hitem => absurd hitem List.not_mem_nil, List.nodup_nil⟩
  · obtain ⟨source, copy, area, sourceDirectory, manifest, harea, hlist⟩ :=
      hprepared.prepared mapping hmapping hpending
    have hrows := prepareDirectoryRebind_ok hlist
    rw [items_of_area harea]
    refine ⟨hindex, fun item hitem => ?_, ?_⟩
    · obtain ⟨entry, hentry, rfl⟩ := List.mem_map.mp hitem
      obtain ⟨row, hrow, hname, hidentity, hrecord⟩ := exists_of_mem_right hrows hentry
      exact ⟨row, List.mem_of_mem_filter hrow, hname, hidentity, hrecord⟩
    · have hnames : (index.ofArea user area).map ManagedFileRow.nameKey =
          mapping.pendingRebind.map fun entry => Item.nameKey user (area, entry) := by
        rw [← List.forall₂_eq_eq_eq, List.forall₂_map_left_iff, List.forall₂_map_right_iff]
        exact hrows.imp fun _ _ h => h.1
      rw [List.map_map, Function.comp_def, ← hnames]
      exact uniqueKeys_filter hindex.unique.2.1

theorem ready_allItems (hindex : index.Constrained) (hprepared : PreparedRebind user index mappings) :
    Ready user (allItems mappings) index := by
  refine ⟨hindex, fun item hitem => ?_, ?_⟩
  · obtain ⟨mapping, hmapping, hitem⟩ := List.mem_flatMap.mp hitem
    exact (ready_items hindex hprepared hmapping).prepared item hitem
  · rw [allItems, List.map_flatMap, List.nodup_flatMap]
    refine ⟨fun mapping hmapping => (ready_items hindex hprepared hmapping).names, ?_⟩
    have hareas := hprepared.areas
    rw [List.Nodup, List.pairwise_map, List.pairwise_filter] at hareas
    refine hareas.imp fun {mapping other} hne => ?_
    rintro key hkey hother
    obtain ⟨item, hitem, rfl⟩ := List.mem_map.mp hkey
    obtain ⟨another, hanother, hsame⟩ := List.mem_map.mp hother
    obtain ⟨harea, hentry⟩ := mem_items hitem
    obtain ⟨hotherArea, hotherEntry⟩ := mem_items hanother
    have hpending := List.ne_nil_of_mem hentry
    have hotherPending := List.ne_nil_of_mem hotherEntry
    refine hne (decide_eq_true hpending) (decide_eq_true hotherPending) ?_
    rw [← harea, ← hotherArea]
    exact (congrArg (·.2.1) hsame).symm

theorem replayItems_append {items rest : List Item} :
    replayItems user (items ++ rest) index = .ok final ↔
      ∃ next, replayItems user items index = .ok next ∧ replayItems user rest next = .ok final := by
  simp only [replayItems, List.foldlM_append, bind_eq_ok]

/-- With the copies as they were, a mapping is replayed as its items. -/
theorem rebindMapping_items (harea : mapping.area = area.storageName)
    (hverified : ∀ item ∈ mapping.items, verifyCopy target item.1 item.2 = .ok ()) :
    rebindMapping target mapping index = replayItems target.userPublicId mapping.items index := by
  rw [items_of_area harea] at hverified ⊢
  have hcopies : mapping.pendingRebind.forM (verifyCopy target area) = .ok () := by
    refine forM_eq_ok.mpr fun entry hentry => ?_
    exact hverified (area, entry) (List.mem_map_of_mem hentry)
  rw [rebindMapping, harea, fromStorageName_storageName, replayItems, List.foldlM_map]
  change (mapping.pendingRebind.forM (verifyCopy target area) >>= _) = _
  rw [hcopies]
  rfl

def NamedAreas (mappings : List RebindMapping) : Prop :=
  ∀ mapping ∈ mappings, mapping.pendingRebind ≠ [] →
    ∃ area : ManagedUserArea, mapping.area = area.storageName

/-- A whole replay is the run of all items. -/
theorem replay_eq_ok (hareas : NamedAreas mappings) (hverified : Verified target mappings) :
    replayDirectoryRebind target mappings index = (final, .ok ()) ↔
      replayItems target.userPublicId (allItems mappings) index = .ok final := by
  induction mappings generalizing index with
  | nil =>
    rw [replayDirectoryRebind, allItems, List.flatMap_nil, replayItems, List.foldlM_nil, pure_eq_ok,
      Prod.mk.injEq, and_iff_left rfl]
  | cons mapping mappings ih =>
    have hrest : ∀ next, replayDirectoryRebind target mappings next = (final, .ok ()) ↔
        replayItems target.userPublicId (allItems mappings) next = .ok final :=
      fun _ => ih (fun later hlater => hareas later (List.mem_cons_of_mem _ hlater))
        fun item hitem => hverified item (List.mem_append_right _ hitem)
    rw [allItems, List.flatMap_cons, replayItems_append, replayDirectoryRebind]
    by_cases hpending : mapping.pendingRebind = []
    · rw [if_pos hpending, items_nil hpending, hrest]
      simp [replayItems, allItems, pure_eq_ok]
    · obtain ⟨area, harea⟩ := hareas mapping List.mem_cons_self hpending
      rw [if_neg hpending, rebindMapping_items harea fun item hitem =>
        hverified item (List.mem_append_left _ hitem)]
      cases hmapping : replayItems target.userPublicId mapping.items index with
      | error error => simp
      | ok next => simpa [allItems] using hrest next

end Prepared

section Orders

variable {user : String} {index final : Index} {target : RebindTarget} {mapping other : RebindMapping}
  {mappings others : List RebindMapping}

theorem Reordered.refl (mappings : List RebindMapping) : Reordered mappings mappings :=
  List.forall₂_same.mpr fun _ _ => ⟨rfl, List.Perm.refl _⟩

theorem perm_items (harea : other.area = mapping.area)
    (hperm : other.pendingRebind.Perm mapping.pendingRebind) : other.items.Perm mapping.items := by
  rw [RebindMapping.items, RebindMapping.items, harea]
  split
  · exact hperm.map _
  · exact List.Perm.refl _

theorem perm_allItems (h : Reordered mappings others) :
    (allItems others).Perm (allItems mappings) := by
  induction h with
  | nil => exact List.Perm.refl _
  | cons hhead _ ih => exact (perm_items hhead.1 hhead.2).append ih

theorem reordered_of_mem (hmapping : mapping ∈ mappings) (harea : other.area = mapping.area)
    (hperm : other.pendingRebind.Perm mapping.pendingRebind) :
    ∃ others, Reordered mappings others ∧ other ∈ others := by
  obtain ⟨done, rest, rfl⟩ := List.append_of_mem hmapping
  refine ⟨done ++ other :: rest, ?_, by simp⟩
  exact List.rel_append (Reordered.refl done) (.cons ⟨harea, hperm⟩ (Reordered.refl rest))

/-- A relation of all members of two lists of items, in any orders of them. -/
theorem pairwise_reordered {R : Item → Item → Prop} (h : Reordered mappings others)
    (hlists : mappings.Pairwise fun mapping later => ∀ item ∈ mapping.items, ∀ other ∈ later.items,
      R item other) :
    others.Pairwise fun mapping later => ∀ item ∈ mapping.items, ∀ other ∈ later.items,
      R item other := by
  induction h with
  | nil => exact List.Pairwise.nil
  | @cons mapping other mappings others hhead hrest ih =>
    obtain ⟨hfirst, hlater⟩ := List.pairwise_cons.mp hlists
    refine List.pairwise_cons.mpr ⟨fun last hlast item hitem another hanother => ?_, ih hlater⟩
    obtain ⟨old, hold, harea, hperm⟩ := exists_of_mem_right hrest hlast
    exact hfirst old hold item ((perm_items hhead.1 hhead.2).mem_iff.mp hitem) another
      ((perm_items harea hperm).mem_iff.mp hanother)

/-- Every order is clear exactly when nothing is stale. -/
theorem clearance_iff (hready : Ready user (allItems mappings) index)
    (hcopies : ((allItems mappings).filterMap (·.2.after)).Nodup) :
    (∀ others, Reordered mappings others → Clearance user (allItems others) index) ↔
      NothingStale user index mappings := by
  constructor
  · intro h
    obtain ⟨hsizes, houtside, hstale, -⟩ := h mappings (Reordered.refl mappings)
    refine ⟨hsizes, houtside, fun mapping hmapping item hitem other hother hne => ?_,
      (List.pairwise_flatMap.mp hstale).2⟩
    -- The order that starts with the one item and has the other behind it.
    obtain ⟨harea, hentry⟩ := mem_items hitem
    obtain ⟨hotherArea, hotherEntry⟩ := mem_items hother
    have hareas : other.1 = item.1 := storageName_injective (hotherArea.trans harea.symm)
    have hfront : ∃ others, Reordered mappings others ∧
        ⟨mapping.area, item.2 :: mapping.pendingRebind.erase item.2⟩ ∈ others :=
      reordered_of_mem hmapping rfl (List.perm_cons_erase hentry).symm
    obtain ⟨others, hothers, hmem⟩ := hfront
    have hpairs := (List.pairwise_flatMap.mp (h others hothers).stale).1 _ hmem
    rw [← harea, items_mk, List.map_cons, List.pairwise_cons] at hpairs
    refine hpairs.1 other (List.mem_map.mpr ⟨other.2, ?_, by rw [← hareas]⟩)
    refine (List.mem_erase_of_ne fun hsame => ?_).mpr hotherEntry
    exact hne (Prod.ext hareas.symm hsame.symm)
  · intro h others hothers
    have hperm := perm_allItems hothers
    refine ⟨fun item hitem => h.sizes item (hperm.mem_iff.mp hitem), ?_, ?_, ?_⟩
    · intro item hitem after hafter row hrow huser hunnamed
      refine h.outside item (hperm.mem_iff.mp hitem) after hafter row hrow huser fun other hother => ?_
      exact hunnamed other (hperm.mem_iff.mpr hother)
    · refine List.pairwise_flatMap.mpr ⟨fun mapping hmapping => ?_, pairwise_reordered hothers h.later⟩
      obtain ⟨old, hold, harea, hlist⟩ := exists_of_mem_right hothers hmapping
      have hitems := perm_items harea hlist
      have hnodup : mapping.items.Nodup :=
        hitems.nodup_iff.mpr ((List.nodup_flatMap.mp (hready.names.of_map _)).1 old hold)
      refine hnodup.pairwise_of_forall_ne fun item hitem other hother hne => ?_
      exact h.inside old hold item (hitems.mem_iff.mp hitem) other (hitems.mem_iff.mp hother) hne
    · have hnodup := (hperm.filterMap (·.2.after)).nodup_iff.mpr hcopies
      rw [List.Nodup, List.pairwise_filterMap] at hnodup
      exact hnodup.imp fun hne after hafter hsame => hne after hafter after hsame rfl

theorem Ready.perm {items rest : List Item} (h : Ready user items index) (hperm : rest.Perm items) :
    Ready user rest index where
  constrained := h.constrained
  prepared item hitem := h.prepared item (hperm.mem_iff.mp hitem)
  names := (hperm.map _).nodup_iff.mpr h.names

theorem Ready.left {items rest : List Item} (h : Ready user (items ++ rest) index) :
    Ready user items index where
  constrained := h.constrained
  prepared item hitem := h.prepared item (List.mem_append_left _ hitem)
  names := h.names.sublist ((List.sublist_append_left items rest).map _)

theorem PreparedRebind.namedAreas (h : PreparedRebind user index mappings) : NamedAreas mappings := by
  intro mapping hmapping hpending
  obtain ⟨-, -, area, -, -, harea, -⟩ := h.prepared mapping hmapping hpending
  exact ⟨area, harea⟩

theorem namedAreas_reordered (h : Reordered mappings others) (hareas : NamedAreas mappings) :
    NamedAreas others := by
  intro other hother hpending
  obtain ⟨mapping, hmapping, harea, hperm⟩ := exists_of_mem_right h hother
  rw [harea]
  exact hareas mapping hmapping fun hnil => hpending (hnil ▸ hperm).eq_nil

/-- Every order of the pending entries replays to the same tables: from the prepared tables, from
what a crash between two mappings left of them, and from the tables it ends in. -/
def ReplaysToOne (target : RebindTarget) (mappings : List RebindMapping) (index : Index) : Prop :=
  ∃ final, ∀ others, Reordered mappings others →
    replayDirectoryRebind target others index = (final, .ok ()) ∧
    (∀ done rest, others = done ++ rest →
      replayDirectoryRebind target others (replayDirectoryRebind target done index).1 =
        (final, .ok ())) ∧
    replayDirectoryRebind target others final = (final, .ok ())

/-- The run of a clear order, crashed and taken up again. -/
theorem replay_again (hready : Ready target.userPublicId (allItems mappings) index)
    (hareas : NamedAreas mappings) (hverified : Verified target mappings)
    (hrun : replayDirectoryRebind target mappings index = (final, .ok ()))
    {done rest : List RebindMapping} (hsplit : mappings = done ++ rest) :
    replayDirectoryRebind target mappings (replayDirectoryRebind target done index).1 =
      (final, .ok ()) := by
  subst hsplit
  have hitems : allItems (done ++ rest) = allItems done ++ allItems rest := List.flatMap_append
  have hall := (replay_eq_ok hareas hverified).mp hrun
  rw [hitems] at hall hready
  obtain ⟨middle, hdone, hrest⟩ := replayItems_append.mp hall
  have hfirst : replayDirectoryRebind target done index = (middle, .ok ()) := by
    refine (replay_eq_ok (fun mapping hmapping => hareas mapping (List.mem_append_left _ hmapping))
      fun item hitem => hverified item ?_).mpr hdone
    exact hitems ▸ List.mem_append_left _ hitem
  obtain ⟨hconstrained, hsettled⟩ := settled_of_replayItems hready.left hdone
  rw [hfirst, replay_eq_ok hareas hverified, hitems]
  exact replayItems_append.mpr ⟨middle, replayItems_settled hconstrained hsettled, hrest⟩

theorem replaysToOne_iff (hindex : index.Constrained)
    (hprepared : PreparedRebind target.userPublicId index mappings)
    (hverified : Verified target mappings) :
    ReplaysToOne target mappings index ↔ NothingStale target.userPublicId index mappings := by
  have hready := ready_allItems hindex hprepared
  have hothers : ∀ others, Reordered mappings others →
      Ready target.userPublicId (allItems others) index ∧ NamedAreas others ∧ Verified target others := by
    intro others h
    refine ⟨hready.perm (perm_allItems h), namedAreas_reordered h hprepared.namedAreas, ?_⟩
    exact fun item hitem => hverified item ((perm_allItems h).mem_iff.mp hitem)
  rw [← clearance_iff hready hprepared.copies]
  constructor
  · rintro ⟨final, h⟩ others hothersOrder
    obtain ⟨hotherReady, hareas, hcopies⟩ := hothers others hothersOrder
    have hrun := (replay_eq_ok hareas hcopies).mp (h others hothersOrder).1
    exact ((replayItems_iff hotherReady).mp hrun).1
  · intro h
    refine ⟨(allItems mappings).foldl (Item.effect target.userPublicId) index, fun others horder => ?_⟩
    obtain ⟨hotherReady, hareas, hcopies⟩ := hothers others horder
    have hrun : replayDirectoryRebind target others index =
        ((allItems mappings).foldl (Item.effect target.userPublicId) index, .ok ()) := by
      refine (replay_eq_ok hareas hcopies).mpr ((replayItems_iff hotherReady).mpr ⟨h others horder, ?_⟩)
      exact foldl_effect_perm hready.names (perm_allItems horder).symm
    have hagain := fun done rest => @replay_again _ _ _ _ hotherReady hareas hcopies hrun done rest
    refine ⟨hrun, hagain, ?_⟩
    have hlast := hagain others [] (List.append_nil others).symm
    rwa [hrun] at hlast

end Orders

/-- For tables that satisfy their constraints, pending lists prepared from them and copies that are
still the verified ones, the replay comes to the same end in every order of the entries and after
every crash, and a second replay changes nothing, exactly when no copy has an identity that is still
stored for another file. However it ends, only files of the user in the moved areas are touched, and
an error leaves the tables of the failing mapping as they were. -/
theorem directory_rebind_replays {target : RebindTarget} {mappings : List RebindMapping}
    {index : Index} (hindex : index.Constrained)
    (hprepared : PreparedRebind target.userPublicId index mappings)
    (hverified : Verified target mappings) :
    (ReplaysToOne target mappings index ↔ NothingStale target.userPublicId index mappings) ∧
    ∀ others, Reordered mappings others →
      Touches target.userPublicId
        (fun area => ∃ mapping ∈ mappings, mapping.pendingRebind ≠ [] ∧ mapping.area = area) index
        (replayDirectoryRebind target others index).1 ∧
      (∀ next error, replayDirectoryRebind target others index = (next, .error error) →
        ∃ done failing rest, others = done ++ failing :: rest ∧
          replayDirectoryRebind target done index = (next, .ok ()) ∧
          rebindMapping target failing next = .error error) ∧
      ∀ saved completed, completeDirectoryRebind saved others = .ok completed →
        ∀ tables, replayDirectoryRebind target completed tables = (tables, .ok ()) := by
  refine ⟨replaysToOne_iff hindex hprepared hverified, fun others horder => ⟨?_, fun next error => ?_, ?_⟩⟩
  · refine (replay_touches hindex.unique).mono fun area => ?_
    rintro ⟨other, hother, hpending, rfl⟩
    obtain ⟨mapping, hmapping, harea, hperm⟩ := exists_of_mem_right horder hother
    exact ⟨mapping, hmapping, fun hnil => hpending (hnil ▸ hperm).eq_nil, harea.symm⟩
  · exact replay_error
  · intro saved completed hcompleted tables
    simp only [completeDirectoryRebind, bind_eq_ok, exists_unit, pure_eq_ok] at hcompleted
    obtain ⟨-, rfl⟩ := hcompleted
    refine replay_nothing fun mapping hmapping => ?_
    obtain ⟨old, -, rfl⟩ := List.mem_map.mp hmapping
    rfl

def twoFiles : Index where
  files :=
    [⟨1, "11111111-1111-4111-8111-111111111111", "output", [1, 0, 0, 0, 0, 0, 0, 0, 1, 0, 0, 0, 0, 0,
        0, 0, 1], "a.png", "image", 5, true, "keep", 1, 1, false⟩,
      ⟨2, "11111111-1111-4111-8111-111111111111", "output", [1, 0, 0, 0, 0, 0, 0, 0, 1, 0, 0, 0, 0, 0,
        0, 0, 2], "b.png", "image", 5, true, "keep", 1, 1, false⟩]

def heldFile (identity : StableFileIdentity) : VerifiedFile :=
  ⟨.ok ⟨identity, 5, 9, 1⟩, .ok (5, []), .ok ⟨identity, 5, 9, 1⟩⟩

/-- The first file was copied as a file with the identity; the second one was deleted before. -/
def copiedAs (identity : StableFileIdentity) : RebindMapping :=
  ⟨"output", [⟨"a.png", .unix 1 1, some identity, 5⟩, ⟨"b.png", .unix 1 2, none, 5⟩]⟩

def copiedTarget (identity : StableFileIdentity) : RebindTarget where
  userPublicId := "11111111-1111-4111-8111-111111111111"
  openExistingRegular := fun key => .ok ⟨key, 0⟩
  inspectRegular := fun _ => .ok ⟨identity, 5, 9, 1⟩

theorem twoFiles_constrained : twoFiles.Constrained := ⟨by decide, by decide⟩

theorem copiedAs_prepared {identity : StableFileIdentity}
    (h : prepareDirectoryRebind (fun _ => .ok (heldFile (.unix 1 1))) (fun _ => .ok (heldFile identity))
      .output "11111111-1111-4111-8111-111111111111" "/old" [⟨["a.png"], false⟩] twoFiles =
        .ok (copiedAs identity).pendingRebind) :
    PreparedRebind "11111111-1111-4111-8111-111111111111" twoFiles [copiedAs identity] where
  prepared := by
    intro mapping hmapping _
    obtain rfl := List.mem_singleton.mp hmapping
    exact ⟨_, _, _, _, _, rfl, h⟩
  areas := List.nodup_singleton _
  copies := List.nodup_singleton _

/-- The copy of the first file has a new identity. -/
theorem directory_rebind_replays_copied :
    ReplaysToOne (copiedTarget (.unix 2 1)) [copiedAs (.unix 2 1)] twoFiles ↔
      NothingStale "11111111-1111-4111-8111-111111111111" twoFiles [copiedAs (.unix 2 1)] :=
  (directory_rebind_replays twoFiles_constrained (copiedAs_prepared (by decide +kernel))
    (by unfold Verified; decide +kernel)).1

/-- The copy of the first file has the identity that the deleted second one had: the replay fails
on the row of the second one, in the order in which the entries are stored. -/
theorem reused_identity_is_refused :
    twoFiles.Constrained ∧
    PreparedRebind "11111111-1111-4111-8111-111111111111" twoFiles [copiedAs (.unix 1 2)] ∧
    Verified (copiedTarget (.unix 1 2)) [copiedAs (.unix 1 2)] ∧
    replayDirectoryRebind (copiedTarget (.unix 1 2)) [copiedAs (.unix 1 2)] twoFiles =
      (twoFiles, .error (.sqlite "UNIQUE constraint failed: managed_files")) :=
  ⟨twoFiles_constrained, copiedAs_prepared (by decide +kernel), by unfold Verified; decide +kernel,
    by decide +kernel⟩

end ArtForgeStudio.FileIndex
