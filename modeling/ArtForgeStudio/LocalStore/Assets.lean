import ArtForgeStudio.LocalStore.Database

/-! # Saving a collection of assets

An asset is a row, and a row for every path that it refers to. Both are changed in place, and
the paths behind the last one are removed.
-/

namespace ArtForgeStudio.LocalStore

open ArtForgeStudio.Codecs ArtForgeStudio.Outcome ArtForgeStudio.Tables

abbrev AssetKey := String × String × String

def assetRow (position : Nat) (asset : StoredAssetData) : AssetRow where
  position := position
  conversationId := asset.conversationId
  title := asset.title
  category := asset.category
  kind := asset.kind
  time := asset.time
  prompt := asset.prompt
  ratio := asset.ratio
  quality := asset.quality
  model := asset.model
  origin := asset.origin
  width := asset.width
  height := asset.height
  sourcePath := asset.sourcePath
  cutoutDone := asset.cutoutDone
  removeBlackDone := asset.removeBlackDone
  upscaleDone := asset.upscaleDone

/-- `DELETE FROM assets`, with `ON DELETE CASCADE` of the references. -/
def deleteAssets (gone : AssetKey → Bool) (db : Database) : Database :=
  { db with
    assets := db.assets.delete gone
    assetReferences := db.assetReferences.delete fun key =>
      gone key.1 && (db.assets.get? key.1).isSome }

/-- The row of one path; its asset must be there. -/
def writeReference (key : AssetKey) (position : Nat) (path : String) (db : Database) :
    Except String Database := do
  checkUser key.1
  ensure ((db.assets.get? key).isSome) "FOREIGN KEY constraint failed"
  pure { db with assetReferences := db.assetReferences.upsert replaced (key, position) path }

def writeAsset (user collection : String) (position : Nat) (asset : StoredAssetData)
    (db : Database) : Except String Database := do
  let key := (user, collection, asset.id)
  checkUser user
  let db := { db with assets := db.assets.upsert AssetRow.conflict key (assetRow position asset) }
  let db := { db with assetReferences := db.assetReferences.delete fun reference =>
    reference.1 = key && asset.referencePaths.length ≤ reference.2 }
  asset.referencePaths.zipIdx.foldlM (fun db item => writeReference key item.2 item.1 db) db

def writeAssetCollection (user collection : String) (assets : List StoredAssetData)
    (db : Database) : Except String Database :=
  assets.zipIdx.foldlM (fun db item => writeAsset user collection item.2 item.1 db)
    (deleteAssets (fun key => key.1 = user && key.2.1 = collection &&
      !(assets.map (·.id)).contains key.2.2) db)

def readAssetReferences (key : AssetKey) (db : Database) : List String :=
  (db.assetReferences.select (fun reference => reference.1 = key) fun row => row.1.2).map (·.2)

def assetOf (id : String) (row : AssetRow) (referencePaths : List String) : StoredAssetData where
  id := id
  conversationId := row.conversationId
  title := row.title
  category := row.category
  kind := row.kind
  time := row.time
  prompt := row.prompt
  ratio := row.ratio
  quality := row.quality
  model := row.model
  origin := row.origin
  width := row.width
  height := row.height
  sourcePath := row.sourcePath
  referencePaths := referencePaths
  cutoutDone := row.cutoutDone
  removeBlackDone := row.removeBlackDone
  upscaleDone := row.upscaleDone

def readAssets (user collection : String) (db : Database) : List StoredAssetData :=
  (db.assets.select (fun key => key.1 = user && key.2.1 = collection) fun row =>
    toLex (row.2.position, row.1.2.2)).map fun row =>
      assetOf row.1.2.2 row.2 (readAssetReferences row.1 db)

/-- The row of an asset and its paths. -/
structure StoredAsset where
  row : Option AssetRow
  paths : Nat → Option String

def assetAt (db : Database) (key : AssetKey) : StoredAsset :=
  ⟨db.assets.get? key, fun position => db.assetReferences.get? (key, position)⟩

section Assets

variable {user collection : String} {db : Database} {key other : AssetKey}

/-- The tables after the paths of an asset were written. -/
def putReferences (key : AssetKey) (paths : List String)
    (references : Table (AssetKey × Nat) String) : Table (AssetKey × Nat) String :=
  paths.zipIdx.foldl (fun references item => references.upsert replaced (key, item.2) item.1)
    (references.delete fun reference => reference.1 = key && paths.length ≤ reference.2)

def putAsset (user collection : String) (position : Nat) (asset : StoredAssetData)
    (db : Database) : Database :=
  { db with
    assets := db.assets.upsert AssetRow.conflict (user, collection, asset.id)
      (assetRow position asset)
    assetReferences := putReferences (user, collection, asset.id) asset.referencePaths
      db.assetReferences }

theorem writeReferences_ok (huser : key.1.length = 36) (items : List (String × Nat))
    (hkey : (db.assets.get? key).isSome) :
    items.foldlM (fun db item => writeReference key item.2 item.1 db) db =
      .ok { db with assetReferences := items.foldl (fun references item =>
        references.upsert replaced (key, item.2) item.1) db.assetReferences } := by
  induction items generalizing db with
  | nil => rfl
  | cons item items ih =>
    have hstep : writeReference key item.2 item.1 db = .ok { db with
        assetReferences := db.assetReferences.upsert replaced (key, item.2) item.1 } := by
      simp [writeReference, checkUser_ok huser, hkey, ensure, bind, Except.bind, pure, Except.pure]
    rw [List.foldlM_cons, hstep]
    exact @ih { db with
      assetReferences := db.assetReferences.upsert replaced (key, item.2) item.1 } hkey

theorem writeAsset_ok (huser : user.length = 36) (position : Nat) (asset : StoredAssetData) :
    writeAsset user collection position asset db = .ok (putAsset user collection position asset db) := by
  unfold writeAsset
  rw [checkUser_ok huser]
  refine writeReferences_ok huser _ ?_
  show (Table.get? (db.assets.upsert _ _ _) _).isSome
  rw [Table.get?_upsert_eq AssetRow.conflict_eq]
  simp

theorem positions_unique (key : AssetKey) (paths : List String) :
    (paths.zipIdx.map fun item => (key, item.2)).Nodup := by
  have hpair : Function.Injective fun position : Nat => (key, position) :=
    fun _ _ h => (Prod.mk.inj h).2
  have hrange := (List.nodup_range' (s := 0) (n := paths.length)).map hpair
  rw [← List.zipIdx_map_snd 0 paths, List.map_map] at hrange
  exact hrange

theorem get?_putReferences (paths : List String) (references : Table (AssetKey × Nat) String)
    (reference : AssetKey × Nat) : (putReferences key paths references).get? reference =
      if reference.1 = key then paths[reference.2]? else references.get? reference := by
  refine (foldl_view Table.get? (fun item : String × Nat => (key, item.2))
    (fun item => some item.1) (fun _ _ _ => Table.get?_upsert_eq replaced_eq)
    (positions_unique key paths) _ reference).trans ?_
  obtain ⟨other, position⟩ := reference
  by_cases hother : other = key
  · subst hother
    rw [if_pos rfl]
    cases hpath : paths[position]? with
    | some path =>
      have hfind : paths.zipIdx.find? (fun item => (other, item.2) = (other, position)) =
          some (path, position) :=
        (KeyedRows.find_eq_some_iff (positions_unique other paths)).mpr
          ⟨List.mk_mem_zipIdx_iff_getElem?.mpr hpath, rfl⟩
      rw [hfind]
      rfl
    | none =>
      have hfind : paths.zipIdx.find? (fun item => (other, item.2) = (other, position)) = none := by
        refine List.find?_eq_none.mpr fun item hmem => ?_
        have hitem := List.mem_zipIdx_iff_getElem?.mp hmem
        simp only [Prod.mk.injEq, true_and, decide_eq_true_eq]
        rintro rfl
        rw [hpath] at hitem
        cases hitem
      rw [hfind, Option.map_none, Option.getD_none, Table.get?_delete]
      simp [List.getElem?_eq_none_iff.mp hpath]
  · have hnone : paths.zipIdx.find? (fun item => (key, item.2) = (other, position)) = none :=
      List.find?_eq_none.mpr fun item _ => by simp [Ne.symm hother]
    rw [hnone, if_neg hother, Option.map_none, Option.getD_none, Table.get?_delete]
    simp [hother]

/-- Writing an asset sets its row and its paths, and no other asset. -/
theorem assetAt_putAsset (position : Nat) (asset : StoredAssetData) (other : AssetKey) :
    assetAt (putAsset user collection position asset db) other =
      if other = (user, collection, asset.id) then
        ⟨some (assetRow position asset), fun position => asset.referencePaths[position]?⟩
      else assetAt db other := by
  have hassets : (db.assets.upsert AssetRow.conflict (user, collection, asset.id)
      (assetRow position asset)).get? other = if other = (user, collection, asset.id) then
        some (assetRow position asset) else db.assets.get? other :=
    Table.get?_upsert_eq AssetRow.conflict_eq
  simp only [assetAt, putAsset, get?_putReferences, hassets]
  split <;> rfl

def putAssets (user collection : String) (assets : List StoredAssetData) (db : Database) : Database :=
  assets.zipIdx.foldl (fun db item => putAsset user collection item.2 item.1 db)
    (deleteAssets (fun key => key.1 = user && key.2.1 = collection &&
      !(assets.map (·.id)).contains key.2.2) db)

theorem writeAssetCollection_ok (huser : user.length = 36) (assets : List StoredAssetData) :
    writeAssetCollection user collection assets db = .ok (putAssets user collection assets db) := by
  unfold writeAssetCollection putAssets
  generalize deleteAssets _ db = start
  generalize assets.zipIdx = items
  induction items generalizing start with
  | nil => rfl
  | cons item items ih =>
    rw [List.foldlM_cons, writeAsset_ok huser]
    exact ih _

variable {assets : List StoredAssetData}

theorem assetKeys_unique (hids : (assets.map (·.id)).Nodup) :
    (assets.zipIdx.map fun item => (user, collection, item.1.id)).Nodup := by
  have hkey : Function.Injective fun id : String => (user, collection, id) :=
    fun _ _ h => (Prod.mk.inj (Prod.mk.inj h).2).2
  have hnodup := hids.map hkey
  rw [← map_zipIdx, List.map_map] at hnodup
  exact hnodup

theorem assetAt_putAssets (hids : (assets.map (·.id)).Nodup) (other : AssetKey) :
    assetAt (putAssets user collection assets db) other =
      ((KeyedRows.find (fun item : StoredAssetData × Nat => (user, collection, item.1.id))
        assets.zipIdx other).map fun item => ⟨some (assetRow item.2 item.1), fun position =>
          item.1.referencePaths[position]?⟩).getD
        (assetAt (deleteAssets (fun key => key.1 = user && key.2.1 = collection &&
          !(assets.map (·.id)).contains key.2.2) db) other) :=
  foldl_view assetAt (fun item : StoredAssetData × Nat => (user, collection, item.1.id)) _
    (fun _ item key => assetAt_putAsset item.2 item.1 key) (assetKeys_unique hids) _ other

theorem assetAt_listed (hids : (assets.map (·.id)).Nodup) {item : StoredAssetData × Nat}
    (hitem : item ∈ assets.zipIdx) :
    assetAt (putAssets user collection assets db) (user, collection, item.1.id) =
      ⟨some (assetRow item.2 item.1), fun position => item.1.referencePaths[position]?⟩ := by
  rw [assetAt_putAssets hids,
    (KeyedRows.find_eq_some_iff (assetKeys_unique hids)).mpr ⟨hitem, rfl⟩]
  rfl

/-- Of the collection only the listed assets are left. -/
theorem get?_putAssets (hids : (assets.map (·.id)).Nodup) (id : String) (row : AssetRow) :
    (putAssets user collection assets db).assets.get? (user, collection, id) = some row ↔
      ∃ item ∈ assets.zipIdx, item.1.id = id ∧ assetRow item.2 item.1 = row := by
  constructor
  · intro hget
    have hrow := congrArg StoredAsset.row
      (@assetAt_putAssets user collection db assets hids (user, collection, id))
    cases hfind : KeyedRows.find
        (fun item : StoredAssetData × Nat => (user, collection, item.1.id)) assets.zipIdx
        (user, collection, id) with
    | some item =>
      obtain ⟨hmem, hkey⟩ := (KeyedRows.find_eq_some_iff (assetKeys_unique hids)).mp hfind
      rw [hfind] at hrow
      refine ⟨item, hmem, (Prod.mk.inj (Prod.mk.inj hkey).2).2, ?_⟩
      exact Option.some.inj (hrow.symm.trans hget)
    | none =>
      -- An asset that is not listed was deleted before the others were written.
      have hgone : (assets.map (·.id)).contains id = false := by
        rw [← map_zipIdx]
        simpa using KeyedRows.find_eq_none_iff.mp hfind
      rw [hfind] at hrow
      have hrow : (putAssets user collection assets db).assets.get? (user, collection, id) =
          none := by
        refine hrow.trans ?_
        show (db.assets.delete _).get? _ = none
        rw [Table.get?_delete, hgone]
        simp
      rw [hrow] at hget
      cases hget
  · rintro ⟨item, hitem, rfl, rfl⟩
    exact congrArg StoredAsset.row (assetAt_listed hids hitem)

/-- Other users and other collections are left as they are. -/
theorem assetAt_other (hids : (assets.map (·.id)).Nodup) {other : AssetKey}
    (hother : other.1 ≠ user ∨ other.2.1 ≠ collection) :
    assetAt (putAssets user collection assets db) other = assetAt db other := by
  have hnone : KeyedRows.find (fun item : StoredAssetData × Nat => (user, collection, item.1.id))
      assets.zipIdx other = none := by
    refine KeyedRows.find_eq_none_iff.mpr fun item _ => ?_
    rintro rfl
    simp at hother
  have hkept : (decide (other.1 = user) && decide (other.2.1 = collection)) = false := by
    rcases hother with h | h <;> simp [h]
  rw [assetAt_putAssets hids, hnone]
  simp only [assetAt, deleteAssets, Table.get?_delete, hkept, Bool.false_and, Option.map_none,
    Option.getD_none]
  rfl

theorem readAssetReferences_eq {paths : List String}
    (h : ∀ position, db.assetReferences.get? (key, position) = paths[position]?) :
    readAssetReferences key db = paths := by
  have hselect : db.assetReferences.select (fun reference => reference.1 = key)
      (fun row => row.1.2) = paths.zipIdx.map fun item => ((key, item.2), item.1) := by
    refine Table.select_eq (List.pairwise_map.mpr zipIdx_sorted) fun row => ?_
    obtain ⟨⟨owner, position⟩, path⟩ := row
    simp only [List.mem_map, Prod.mk.injEq, decide_eq_true_eq]
    constructor
    · rintro ⟨item, hmem, ⟨rfl, rfl⟩, rfl⟩
      exact ⟨rfl, (h item.2).trans (List.mem_zipIdx_iff_getElem?.mp hmem)⟩
    · rintro ⟨rfl, hget⟩
      exact ⟨(path, position), List.mk_mem_zipIdx_iff_getElem?.mpr ((h position).symm.trans hget),
        ⟨rfl, rfl⟩, rfl⟩
  rw [readAssetReferences, hselect, List.map_map]
  exact List.zipIdx_map_fst 0 paths

/-- A collection is read as it was written, whatever was written elsewhere since. -/
theorem readAssets_eq (hids : (assets.map (·.id)).Nodup) {later : Database}
    (hlater : ∀ id, assetAt later (user, collection, id) =
      assetAt (putAssets user collection assets db) (user, collection, id)) :
    readAssets user collection later = assets := by
  have hselect : later.assets.select (fun key => key.1 = user && key.2.1 = collection)
      (fun row => toLex (row.2.position, row.1.2.2)) =
        assets.zipIdx.map fun item => ((user, collection, item.1.id), assetRow item.2 item.1) := by
    refine Table.select_eq ?_ fun row => ?_
    · refine List.pairwise_map.mpr (zipIdx_sorted.imp fun hlt => ?_)
      exact Prod.Lex.toLex_lt_toLex.mpr (.inl hlt)
    · obtain ⟨⟨owner, kind, id⟩, row⟩ := row
      have hrow : later.assets.get? (user, collection, id) =
          (putAssets user collection assets db).assets.get? (user, collection, id) :=
        congrArg StoredAsset.row (hlater id)
      simp only [List.mem_map, Prod.mk.injEq, Bool.and_eq_true, decide_eq_true_eq]
      constructor
      · rintro ⟨item, hmem, ⟨rfl, rfl, rfl⟩, rfl⟩
        exact ⟨⟨rfl, rfl⟩, hrow.trans ((get?_putAssets hids _ _).mpr ⟨item, hmem, rfl, rfl⟩)⟩
      · rintro ⟨⟨rfl, rfl⟩, hget⟩
        obtain ⟨item, hmem, hid, hitem⟩ := (get?_putAssets hids _ _).mp (hrow.symm.trans hget)
        exact ⟨item, hmem, ⟨rfl, rfl, hid⟩, hitem⟩
  rw [readAssets, hselect, List.map_map]
  refine (List.map_congr_left fun item hitem => ?_).trans (List.zipIdx_map_fst 0 assets)
  have hlisted := (hlater item.1.id).trans (assetAt_listed hids hitem)
  have hpaths := readAssetReferences_eq fun position => congrFun (congrArg StoredAsset.paths hlisted)
    position
  show assetOf item.1.id (assetRow item.2 item.1) (readAssetReferences _ _) = item.1
  rw [hpaths]
  rfl

end Assets

end ArtForgeStudio.LocalStore
