import ArtForgeStudio.FileIndex.Operations

/-! # Rebinding the index after a directory has moved

Before a migration commits, every indexed row of an area is paired with the identity of its verified
copy. After the commit the pairs are replayed, mapping by mapping, each in a transaction.
-/

namespace ArtForgeStudio.FileIndex

open ArtForgeStudio.Outcome ArtForgeStudio.KeyedRows ArtForgeStudio.OwnedRows
  ArtForgeStudio.Directories

/-- An indexed file and its copy; a file that was missing has none. -/
structure MigratedIndexIdentity where
  path : String
  before : StableFileIdentity
  after : Option StableFileIdentity
  bytes : Nat
  deriving DecidableEq

structure MigrationManifestEntry where
  relative : Path
  directory : Bool

/-- What a held file says, before and after its content is read. -/
structure VerifiedFile where
  inspected : Except String ManagedFileMetadata
  read : Except String (Nat × List UInt8)
  inspectedAgain : Except String ManagedFileMetadata

section Prepare

variable (source target : ManagedFileKey → Except String VerifiedFile) (area : ManagedUserArea)
  (planned : List Path)

/-- The copy of one record, compared byte by byte with the file. -/
def prepareEntry (record : ManagedFileRecord) : Except String MigratedIndexIdentity := do
  let key ← ManagedFileKey.new area record.path
  if components record.path ∉ planned then
    pure ⟨key.relativeName.text, record.physicalIdentity, none, record.byteSize⟩
  else
    let oldFile ← source key
    let old ← oldFile.inspected
    let newFile ← target key
    let new ← newFile.inspected
    ensure (old.byteSize = new.byteSize) "源文件与迁移副本大小不同"
    let (oldBytes, oldHash) ← oldFile.read
    let (newBytes, newHash) ← newFile.read
    let changed := "迁移文件内容校验失败：" ++ key.relativeName.text ++ "，原文件已保留"
    ensure (oldBytes = old.byteSize ∧ newBytes = old.byteSize ∧ oldHash = newHash) changed
    let oldAgain ← oldFile.inspectedAgain
    ensure (oldAgain = old) changed
    let newAgain ← newFile.inspectedAgain
    ensure (newAgain = new) changed
    pure ⟨key.relativeName.text, record.physicalIdentity, some new.identity, new.byteSize⟩

def Index.ofArea (index : Index) (user : String) (area : ManagedUserArea) : List ManagedFileRow :=
  index.files.filter fun row => row.userPublicId = user && row.managedArea = area.storageName

def prepareDirectoryRebind (user sourceDirectory : String) (manifest : List MigrationManifestEntry)
    (index : Index) : Except FileIndexError (List MigratedIndexIdentity) := do
  let records ← (index.ofArea user area).mapM mapFile
  let planned := (manifest.filter fun entry => !entry.directory).map (·.relative)
  records.mapM fun record => (prepareEntry source target area planned record).mapError fun message =>
    .capability ("核对文件 " ++ sourceDirectory ++ "/" ++ record.path ++ " 失败：" ++ message)

end Prepare

/-- What the replay reads of an `AccountDirectoryMapping`. -/
structure RebindMapping where
  area : String
  pendingRebind : List MigratedIndexIdentity
  deriving DecidableEq

structure RebindTarget where
  userPublicId : String
  openExistingRegular : ManagedFileKey → Except String NamespaceManagedFile
  inspectRegular : NamespaceManagedFile → Except String ManagedFileMetadata

/-- The copy is still the one that was verified. -/
def verifyCopy (target : RebindTarget) (area : ManagedUserArea) (entry : MigratedIndexIdentity) :
    Except FileIndexError Unit :=
  match entry.after with
  | none => .ok ()
  | some after => do
    let key ← (ManagedFileKey.new area entry.path).mapError FileIndexError.capability
    let file ← (target.openExistingRegular key).mapError FileIndexError.capability
    let metadata ← (target.inspectRegular file).mapError FileIndexError.capability
    ensure (metadata.identity = after ∧ metadata.byteSize = entry.bytes)
      (.capability ("迁移副本在更新索引前发生变化：" ++ entry.path))

/-- The row of a file that the migration did not find. -/
def removeMissing (user : String) (entry : MigratedIndexIdentity)
    (record : Option ManagedFileRecord) (index : Index) : Except FileIndexError Index :=
  match record with
  | none => .ok index
  | some record => do
    ensure (record.physicalIdentity = entry.before)
      (.capability ("缺失文件索引在迁移后发生变化：" ++ entry.path))
    pure (index.deleteFile user record.id)

def rebound (after : StableFileIdentity) (bytes : Int) (row : ManagedFileRow) : ManagedFileRow :=
  { row with physicalIdentity := after.toStorageBytes, byteSize := bytes }

/-- The row of a file that was copied. -/
def rebindCopied (user : String) (entry : MigratedIndexIdentity) (after : StableFileIdentity)
    (record : Option ManagedFileRecord) (index : Index) : Except FileIndexError Index := do
  let record ← expected (.capability ("迁移文件索引已丢失：" ++ entry.path)) record
  ensure (record.physicalIdentity = entry.before ∨ record.physicalIdentity = after)
    (.capability ("迁移文件索引发生变化：" ++ entry.path))
  let cleared := if record.physicalIdentity ≠ after then
      index.deletePreviews fun row => row.userPublicId = user && row.sourceFileId = record.id
    else index
  let bytes ← toSqlI64 "migration bytes" entry.bytes
  cleared.updateFile user record.id (rebound after bytes)

def rebindEntry (user : String) (area : ManagedUserArea) (index : Index)
    (entry : MigratedIndexIdentity) : Except FileIndexError Index := do
  let key ← (ManagedFileKey.new area entry.path).mapError FileIndexError.capability
  let record ← index.queryKey user key
  match entry.after with
  | none => removeMissing user entry record index
  | some after => rebindCopied user entry after record index

/-- The transaction of one mapping. -/
def rebindMapping (target : RebindTarget) (mapping : RebindMapping) (index : Index) :
    Except FileIndexError Index := do
  let area ← (ManagedUserArea.fromStorageName mapping.area).mapError FileIndexError.capability
  mapping.pendingRebind.forM (verifyCopy target area)
  mapping.pendingRebind.foldlM (rebindEntry target.userPublicId area) index

/-- The tables after the replay, and whether it came to its end. -/
def replayDirectoryRebind (target : RebindTarget) :
    List RebindMapping → Index → Index × Except FileIndexError Unit
  | [], index => (index, .ok ())
  | mapping :: mappings, index =>
    if mapping.pendingRebind = [] then replayDirectoryRebind target mappings index
    else match rebindMapping target mapping index with
      | .ok next => replayDirectoryRebind target mappings next
      | .error error => (index, .error error)

/-- The mappings that a replay of the saved ones leaves, with nothing pending. -/
def completeDirectoryRebind (saved mappings : List RebindMapping) :
    Except String (List RebindMapping) := do
  ensure (saved = mappings) "mapping changed during index rebind"
  pure (mappings.map fun mapping => { mapping with pendingRebind := [] })

/-- An entry with the area of its mapping. -/
abbrev Item := ManagedUserArea × MigratedIndexIdentity

def Item.nameKey (user : String) (item : Item) : String × String × String :=
  (user, item.1.storageName, item.2.path)

/-- What becomes of a row by itself. -/
def Item.fate (user : String) (item : Item) (row : ManagedFileRow) : Option ManagedFileRow :=
  if row.nameKey = item.nameKey user then
    item.2.after.map fun after => rebound after item.2.bytes row
  else some row

def Item.row (user : String) (item : Item) (index : Index) : Option ManagedFileRow :=
  index.files.find? fun row => row.nameKey = item.nameKey user

def Item.removes (user : String) (item : Item) (index : Index) (id : Int) : Bool :=
  item.2.after.isNone && (item.row user index).any fun row => row.id = id

def Item.replaces (user : String) (item : Item) (index : Index) (id : Int) : Bool :=
  item.2.after.any fun after =>
    (item.row user index).any fun row => row.id = id && row.physicalIdentity ≠ after.toStorageBytes

/-- What an item does to the tables, when nothing is in its way. -/
def Item.effect (user : String) (index : Index) (item : Item) : Index where
  files := index.files.filterMap (item.fate user)
  references := index.references.filter fun row => !item.removes user index row.fileId
  previews := index.previews.filter fun row =>
    !item.removes user index row.sourceFileId && !item.removes user index row.previewFileId &&
      !(row.userPublicId = user && item.replaces user index row.sourceFileId)

structure Index.Constrained (index : Index) : Prop where
  unique : UniqueFiles index.files
  checked : ∀ row ∈ index.files, row.check = true

/-- The item's row is as it was when the item was prepared. -/
def Item.Prepared (user : String) (item : Item) (index : Index) : Prop :=
  ∃ row ∈ index.files, row.nameKey = item.nameKey user ∧
    row.physicalIdentity = item.2.before.toStorageBytes ∧ ∃ record, mapFile row = .ok record

/-- No other row of the user has the identity of the copy, and its size is a database integer. -/
def Item.Free (user : String) (item : Item) (index : Index) : Prop :=
  ∀ after, item.2.after = some after → item.2.bytes < 0x8000000000000000 ∧
    ∀ row ∈ index.files, row.userPublicId = user → row.nameKey ≠ item.nameKey user →
      row.physicalIdentity ≠ after.toStorageBytes

section Steps

variable {user : String} {item other : Item} {index next : Index} {row : ManagedFileRow}
  {after : StableFileIdentity} {bytes : Int}

@[simp] theorem nameKey_rebound : (rebound after bytes row).nameKey = row.nameKey := rfl

@[simp] theorem id_rebound : (rebound after bytes row).id = row.id := rfl

@[simp] theorem user_rebound : (rebound after bytes row).userPublicId = row.userPublicId := rfl

theorem nameKey_of_fate {image : ManagedFileRow} (h : item.fate user row = some image) :
    image.nameKey = row.nameKey ∧ image.id = row.id ∧ image.userPublicId = row.userPublicId := by
  unfold Item.fate at h
  split at h
  · obtain ⟨after, -, rfl⟩ := Option.map_eq_some_iff.mp h
    exact ⟨rfl, rfl, rfl⟩
  · cases h
    exact ⟨rfl, rfl, rfl⟩

theorem fate_of_ne (h : row.nameKey ≠ item.nameKey user) : item.fate user row = some row := if_neg h

theorem row_eq_some (hunique : UniqueFiles index.files) : item.row user index = some row ↔
    row ∈ index.files ∧ row.nameKey = item.nameKey user := by
  constructor
  · intro h
    exact ⟨List.mem_of_find?_eq_some h, by simpa using List.find?_some h⟩
  · rintro ⟨hmem, hname⟩
    obtain ⟨found, hfound⟩ : ∃ found, item.row user index = some found := by
      refine Option.ne_none_iff_exists'.mp fun hnone => ?_
      have hnot := List.find?_eq_none.mp hnone row hmem
      simp [hname] at hnot
    have hfoundName : found.nameKey = item.nameKey user := by simpa using List.find?_some hfound
    rw [hfound, eq_of_key hunique.2.1 (List.mem_of_find?_eq_some hfound) hmem
      (hfoundName.trans hname.symm)]

theorem owned_iff_name (hunique : UniqueFiles index.files) (hrow : row ∈ index.files)
    (hname : row.nameKey = item.nameKey user) {another : ManagedFileRow}
    (hanother : another ∈ index.files) :
    another.owned user row.id = true ↔ another.nameKey = item.nameKey user := by
  have huser : row.userPublicId = user := congrArg Prod.fst hname
  rw [Index.owned_iff]
  constructor
  · rintro ⟨-, hid⟩
    rw [eq_of_key hunique.1 hanother hrow hid, hname]
  · intro hsame
    rw [eq_of_key hunique.2.1 hanother hrow (hsame.trans hname.symm)]
    exact ⟨huser, rfl⟩

theorem filterMap_fate_of_none (hafter : item.2.after = none) :
    index.files.filterMap (item.fate user) =
      index.files.filter fun row => row.nameKey ≠ item.nameKey user := by
  rw [← List.filterMap_eq_filter]
  refine List.filterMap_congr fun row _ => ?_
  by_cases h : row.nameKey = item.nameKey user
  · simp [Item.fate, Option.guard, h, hafter]
  · simp [Item.fate, Option.guard, h]

theorem filterMap_fate_of_some (hafter : item.2.after = some after) :
    index.files.filterMap (item.fate user) = index.files.map fun row =>
      if row.nameKey = item.nameKey user then rebound after item.2.bytes row else row := by
  rw [← List.filterMap_eq_map]
  refine List.filterMap_congr fun row _ => ?_
  by_cases h : row.nameKey = item.nameKey user
  · simp [Item.fate, h, hafter]
  · simp [Item.fate, h]

theorem checkPhysicalIdentity_toStorageBytes (identity : StableFileIdentity) :
    checkPhysicalIdentity identity.toStorageBytes = true := by
  obtain ⟨other, -, -, hcheck⟩ | hrefused := fromStorageBytes_cases identity.toStorageBytes
  · exact hcheck
  · cases hrefused.symm.trans (fromStorageBytes_toStorageBytes identity)

theorem check_rebound (h : row.check = true) (hbytes : 0 ≤ bytes) :
    (rebound after bytes row).check = true := by
  simp only [ManagedFileRow.check, Bool.and_eq_true, decide_eq_true_eq] at h ⊢
  obtain ⟨⟨⟨⟨⟨huser, harea⟩, -⟩, hkind⟩, -⟩, hpolicy⟩ := h
  exact ⟨⟨⟨⟨⟨huser, harea⟩, checkPhysicalIdentity_toStorageBytes after⟩, hkind⟩, hbytes⟩, hpolicy⟩

/-- A copy's identity may be stored exactly when no other row of the user has it. -/
theorem uniqueFiles_rebound (hunique : UniqueFiles index.files) (hrow : row ∈ index.files)
    (hname : row.nameKey = item.nameKey user) :
    UniqueFiles (index.files.map fun row =>
      if row.nameKey = item.nameKey user then rebound after bytes row else row) ↔
    ∀ other ∈ index.files, other.userPublicId = user → other.nameKey ≠ item.nameKey user →
      other.physicalIdentity ≠ after.toStorageBytes := by
  have huser : row.userPublicId = user := congrArg Prod.fst hname
  have hnames : ∀ row : ManagedFileRow, (if row.nameKey = item.nameKey user then
      rebound after bytes row else row).nameKey = row.nameKey := by
    intro row
    split <;> rfl
  have hids : ∀ row : ManagedFileRow, (if row.nameKey = item.nameKey user then
      rebound after bytes row else row).id = row.id := by
    intro row
    split <;> rfl
  rw [UniqueFiles, uniqueKeys_map hids, uniqueKeys_map hnames, and_iff_right hunique.1,
    and_iff_right hunique.2.1]
  constructor
  · intro hidentities another hanother hanotherUser hanotherName hsame
    have himage := List.mem_map_of_mem hrow (f := fun row =>
      if row.nameKey = item.nameKey user then rebound after bytes row else row)
    have hanotherImage := List.mem_map_of_mem hanother (f := fun row =>
      if row.nameKey = item.nameKey user then rebound after bytes row else row)
    rw [if_pos hname] at himage
    rw [if_neg hanotherName] at hanotherImage
    have heq : rebound after bytes row = another := by
      refine eq_of_key hidentities himage hanotherImage ?_
      exact Prod.ext (huser.trans hanotherUser.symm) hsame.symm
    exact hanotherName (heq ▸ hname)
  · intro hfree
    rw [UniqueKeys, List.map_map]
    refine List.Nodup.map_on (fun one hone another hanother hsame => ?_) (hunique.1.of_map _)
    simp only [Function.comp_apply] at hsame
    by_cases hfirst : one.nameKey = item.nameKey user
    · by_cases hsecond : another.nameKey = item.nameKey user
      · exact eq_of_key hunique.2.1 hone hanother (hfirst.trans hsecond.symm)
      · rw [if_pos hfirst, if_neg hsecond] at hsame
        have hanotherUser : another.userPublicId = user :=
          (congrArg Prod.fst hsame).symm.trans (congrArg Prod.fst hfirst)
        exact absurd (congrArg Prod.snd hsame).symm (hfree another hanother hanotherUser hsecond)
    · by_cases hsecond : another.nameKey = item.nameKey user
      · rw [if_neg hfirst, if_pos hsecond] at hsame
        have honeUser : one.userPublicId = user :=
          (congrArg Prod.fst hsame).trans (congrArg Prod.fst hsecond)
        exact absurd (congrArg Prod.snd hsame) (hfree one hone honeUser hfirst)
      · rw [if_neg hfirst, if_neg hsecond] at hsame
        exact eq_of_key hunique.2.2 hone hanother hsame

theorem toSqlI64_eq_ok {name : String} {value : Nat} :
    toSqlI64 name value = .ok bytes ↔ value < 0x8000000000000000 ∧ (value : Int) = bytes := by
  unfold toSqlI64
  split <;> simp_all

/-- A row's name is decoded as the key it was made of. -/
theorem decodeKey_storageName {area : ManagedUserArea} {path : String} {key : ManagedFileKey}
    (h : decodeKey area.storageName path = .ok key) : ManagedFileKey.new area path = .ok key := by
  obtain ⟨named, harea, hkey⟩ := bind_eq_ok.mp (mapError_eq_ok.mp h)
  rwa [storageName_injective (fromStorageName_ok harea)]

theorem decodeKey_of_mapFile {record : ManagedFileRecord} (h : mapFile row = .ok record) :
    ∃ key, decodeKey row.managedArea row.path = .ok key := by
  simp only [mapFile, bind_eq_ok] at h
  obtain ⟨key, hkey, -⟩ := h
  exact ⟨key, hkey⟩

theorem queryKey_item (hunique : UniqueFiles index.files) (hprepared : item.Prepared user index) :
    ∃ row record key, item.row user index = some row ∧
      record.id = row.id ∧ record.physicalIdentity = item.2.before ∧
      row.physicalIdentity = item.2.before.toStorageBytes ∧
      ManagedFileKey.new item.1 item.2.path = .ok key ∧
      index.queryKey user key = .ok (some record) := by
  obtain ⟨row, hrow, hname, hidentity, record, hrecord⟩ := hprepared
  have hfound : item.row user index = some row := (row_eq_some hunique).mpr ⟨hrow, hname⟩
  obtain ⟨hid, -, -, -, hstored⟩ := mapFile_ok hrecord
  obtain ⟨key, hkey⟩ := decodeKey_of_mapFile hrecord
  have harea : row.managedArea = item.1.storageName := congrArg (·.2.1) hname
  have hpath : row.path = item.2.path := congrArg (·.2.2) hname
  rw [harea, hpath] at hkey
  have hnew := decodeKey_storageName hkey
  obtain ⟨hkeyArea, hkeyPath⟩ := ManagedFileKey.new_eq_ok.mp hnew
  refine ⟨row, record, key, hfound, hid, ?_, hidentity, hnew, ?_⟩
  · exact toStorageBytes_injective (hstored.trans hidentity)
  · rw [Index.queryKey, hkeyArea, hkeyPath]
    exact congrArg (decoded mapFile) hfound |>.trans (by rw [decoded, hrecord]; rfl)

section Effects

variable (hindex : index.Constrained) (hfound : item.row user index = some row)

include hindex hfound

theorem owned_row : row ∈ index.files ∧ row.nameKey = item.nameKey user ∧
    ∀ another ∈ index.files, another.owned user row.id = decide (another.nameKey = item.nameKey user) := by
  obtain ⟨hrow, hname⟩ := (row_eq_some hindex.unique).mp hfound
  refine ⟨hrow, hname, fun another hanother => ?_⟩
  rw [Bool.eq_iff_iff, decide_eq_true_eq]
  exact owned_iff_name hindex.unique hrow hname hanother

theorem deleteFile_row (hafter : item.2.after = none) :
    index.deleteFile user row.id = item.effect user index := by
  obtain ⟨hrow, hname, howned⟩ := owned_row hindex hfound
  have hany : index.files.any (·.owned user row.id) := by
    refine List.any_eq_true.mpr ⟨row, hrow, ?_⟩
    simp [howned row hrow, hname]
  rw [Index.deleteFile, if_pos hany, Item.effect, filterMap_fate_of_none hafter]
  congr 1
  · refine List.filter_congr fun another hanother => ?_
    simp [howned another hanother]
  · refine List.filter_congr fun reference _ => ?_
    simp [Item.removes, hafter, hfound, eq_comm]
  · refine List.filter_congr fun preview _ => ?_
    simp [Item.removes, Item.replaces, hafter, hfound, eq_comm]

theorem updateFile_row (after : StableFileIdentity) (hbytes : 0 ≤ bytes)
    (previews : List PreviewCacheRow) :
    Index.updateFile { index with previews := previews } user row.id (rebound after bytes) = .ok next ↔
      (∀ other ∈ index.files, other.userPublicId = user → other.nameKey ≠ item.nameKey user →
        other.physicalIdentity ≠ after.toStorageBytes) ∧
      next = { index with
        files := index.files.map fun row =>
          if row.nameKey = item.nameKey user then rebound after bytes row else row
        previews := previews } := by
  obtain ⟨hrow, hname, howned⟩ := owned_row hindex hfound
  have hfiles : (index.files.map fun other => if other.owned user row.id then
      rebound after bytes other else other) = index.files.map fun other =>
      if other.nameKey = item.nameKey user then rebound after bytes other else other := by
    refine List.map_congr_left fun other hother => ?_
    simp [howned other hother]
  have hchecks : (index.files.filter (·.owned user row.id)).all fun other =>
      (rebound after bytes other).check := by
    refine List.all_eq_true.mpr fun other hother => ?_
    exact check_rebound (hindex.checked other (List.mem_of_mem_filter hother)) hbytes
  simp only [Index.updateFile, bind_eq_ok, exists_unit, ensure_eq_ok, pure_eq_ok]
  rw [hfiles, and_iff_right hchecks, uniqueFiles_rebound hindex.unique hrow hname]
  exact and_congr_right fun _ => eq_comm

omit hindex in
theorem previews_of_some (hafter : item.2.after = some after)
    (hidentity : row.physicalIdentity = item.2.before.toStorageBytes) :
    (if item.2.before ≠ after then
      index.deletePreviews fun preview => preview.userPublicId = user && preview.sourceFileId = row.id
      else index) = { index with previews := (item.effect user index).previews } := by
  have hchanged : row.physicalIdentity ≠ after.toStorageBytes ↔ item.2.before ≠ after := by
    rw [hidentity]
    exact not_congr toStorageBytes_injective.eq_iff
  split
  · rename_i hne
    simp [Index.deletePreviews, Item.effect, Item.removes, Item.replaces, hafter, hfound,
      hchanged.mpr hne, eq_comm]
  · rename_i hsame
    have hrow := not_ne_iff.mp (mt hchanged.mp hsame)
    simp [Item.effect, Item.removes, Item.replaces, hafter, hfound, hrow]

end Effects

/-- A prepared entry is replayed exactly when its identity is free, and then does what it is for. -/
theorem rebindEntry_iff (hindex : index.Constrained) (hprepared : item.Prepared user index) :
    rebindEntry user item.1 index item.2 = .ok next ↔
      item.Free user index ∧ next = item.effect user index := by
  obtain ⟨row, record, key, hfound, hid, hbefore, hidentity, hkey, hquery⟩ :=
    queryKey_item hindex.unique hprepared
  have hentry : rebindEntry user item.1 index item.2 = match item.2.after with
      | none => removeMissing user item.2 (some record) index
      | some after => rebindCopied user item.2 after (some record) index := by
    rw [rebindEntry, hkey]
    change (index.queryKey user key >>= _) = _
    rw [hquery]
    rfl
  rw [hentry]
  cases hafter : item.2.after with
  | none =>
    have hfree : item.Free user index := by
      intro after hsome
      cases hafter.symm.trans hsome
    simp only [removeMissing, bind_eq_ok, exists_unit, ensure_eq_ok, pure_eq_ok, hid]
    rw [and_iff_right hbefore, and_iff_right hfree, deleteFile_row hindex hfound hafter]
    exact eq_comm
  | some after =>
    have hreferences : (item.effect user index).references = index.references := by
      simp [Item.effect, Item.removes, hafter]
    have hfiles : index.files.filterMap (item.fate user) = _ := filterMap_fate_of_some hafter
    have hfree : item.Free user index ↔ item.2.bytes < 0x8000000000000000 ∧
        ∀ other ∈ index.files, other.userPublicId = user → other.nameKey ≠ item.nameKey user →
          other.physicalIdentity ≠ after.toStorageBytes := by
      simp [Item.Free, hafter]
    simp only [rebindCopied, expected, bind_eq_ok, exists_unit, ensure_eq_ok, toSqlI64_eq_ok, hid,
      hbefore, Except.ok.injEq, exists_eq_left', true_or, true_and]
    rw [previews_of_some hfound hafter hidentity, hfree, and_assoc]
    have heffect : item.effect user index = { index with
        files := index.files.map fun row =>
          if row.nameKey = item.nameKey user then rebound after item.2.bytes row else row
        previews := (item.effect user index).previews } := by
      rw [← hfiles, ← hreferences]
      rfl
    have hupdate := @updateFile_row user item index next row _ hindex hfound after
      (Int.natCast_nonneg item.2.bytes) (item.effect user index).previews
    rw [← heffect] at hupdate
    constructor
    · rintro ⟨bytes, ⟨hbytes, rfl⟩, hdone⟩
      exact ⟨hbytes, hupdate.mp hdone⟩
    · rintro ⟨hbytes, hdone⟩
      exact ⟨_, ⟨hbytes, rfl⟩, hupdate.mpr hdone⟩

end Steps

end ArtForgeStudio.FileIndex
