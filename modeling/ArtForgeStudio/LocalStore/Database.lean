import ArtForgeStudio.LocalStore.Data
import ArtForgeStudio.Library.KeyedRows
import ArtForgeStudio.Library.Tables
import Mathlib.Data.Prod.Lex
import Mathlib.Data.String.Basic

/-! # The database of the client state

The tables that a private store is saved in, with the statements that save and load it. A row
belongs to the user that its key starts with.
-/

namespace ArtForgeStudio.LocalStore

open ArtForgeStudio.Codecs ArtForgeStudio.Outcome ArtForgeStudio.Tables

structure AssetRow where
  position : Nat
  conversationId : String
  title : String
  category : String
  kind : String
  time : String
  prompt : String
  ratio : String
  quality : String
  model : String
  origin : String
  width : Int
  height : Int
  sourcePath : String
  cutoutDone : Bool
  removeBlackDone : Bool
  upscaleDone : Bool
  deriving DecidableEq

/-- `ON CONFLICT .. DO UPDATE SET .. WHERE ..` of `assets` -/
def AssetRow.conflict (old excluded : AssetRow) : AssetRow :=
  if old.position ≠ excluded.position ∨ old.conversationId ≠ excluded.conversationId ∨
      old.title ≠ excluded.title ∨ old.category ≠ excluded.category ∨ old.kind ≠ excluded.kind ∨
      old.time ≠ excluded.time ∨ old.prompt ≠ excluded.prompt ∨ old.ratio ≠ excluded.ratio ∨
      old.quality ≠ excluded.quality ∨ old.model ≠ excluded.model ∨
      old.origin ≠ excluded.origin ∨ old.width ≠ excluded.width ∨ old.height ≠ excluded.height ∨
      old.sourcePath ≠ excluded.sourcePath ∨ old.cutoutDone ≠ excluded.cutoutDone ∨
      old.removeBlackDone ≠ excluded.removeBlackDone ∨ old.upscaleDone ≠ excluded.upscaleDone then
    { old with
      position := excluded.position, conversationId := excluded.conversationId
      title := excluded.title, category := excluded.category, kind := excluded.kind
      time := excluded.time, prompt := excluded.prompt, ratio := excluded.ratio
      quality := excluded.quality, model := excluded.model, origin := excluded.origin
      width := excluded.width, height := excluded.height, sourcePath := excluded.sourcePath
      cutoutDone := excluded.cutoutDone, removeBlackDone := excluded.removeBlackDone
      upscaleDone := excluded.upscaleDone }
  else old

theorem AssetRow.conflict_eq (old excluded : AssetRow) : old.conflict excluded = excluded := by
  unfold conflict
  split
  · rfl
  · cases old
    cases excluded
    simp_all

structure NotificationRow where
  position : Nat
  title : String
  model : String
  time : String
  reason : String
  success : Bool
  read : Bool
  announcement : Bool
  deriving DecidableEq

def NotificationRow.conflict (old excluded : NotificationRow) : NotificationRow :=
  if old.position ≠ excluded.position ∨ old.title ≠ excluded.title ∨ old.model ≠ excluded.model ∨
      old.time ≠ excluded.time ∨ old.reason ≠ excluded.reason ∨ old.success ≠ excluded.success ∨
      old.read ≠ excluded.read ∨ old.announcement ≠ excluded.announcement then
    { old with
      position := excluded.position, title := excluded.title, model := excluded.model
      time := excluded.time, reason := excluded.reason, success := excluded.success
      read := excluded.read, announcement := excluded.announcement }
  else old

theorem NotificationRow.conflict_eq (old excluded : NotificationRow) :
    old.conflict excluded = excluded := by
  unfold conflict
  split
  · rfl
  · cases old
    cases excluded
    simp_all

structure CanvasNodeRow where
  position : Nat
  kind : String
  content : String
  x : Rat
  y : Rat
  width : Rat
  height : Rat
  parentGroupId : String
  zIndex : Int
  imagePath : String
  fontSize : Rat
  deriving DecidableEq

def CanvasNodeRow.conflict (old excluded : CanvasNodeRow) : CanvasNodeRow :=
  if old.position ≠ excluded.position ∨ old.kind ≠ excluded.kind ∨
      old.content ≠ excluded.content ∨ old.x ≠ excluded.x ∨ old.y ≠ excluded.y ∨
      old.width ≠ excluded.width ∨ old.height ≠ excluded.height ∨
      old.parentGroupId ≠ excluded.parentGroupId ∨ old.zIndex ≠ excluded.zIndex ∨
      old.imagePath ≠ excluded.imagePath ∨ old.fontSize ≠ excluded.fontSize then
    { old with
      position := excluded.position, kind := excluded.kind, content := excluded.content
      x := excluded.x, y := excluded.y, width := excluded.width, height := excluded.height
      parentGroupId := excluded.parentGroupId, zIndex := excluded.zIndex
      imagePath := excluded.imagePath, fontSize := excluded.fontSize }
  else old

theorem CanvasNodeRow.conflict_eq (old excluded : CanvasNodeRow) :
    old.conflict excluded = excluded := by
  unfold conflict
  split
  · rfl
  · cases old
    cases excluded
    simp_all

structure CanvasLinkRow where
  position : Nat
  sourceId : String
  targetId : String
  flowReversed : Bool
  deriving DecidableEq

def CanvasLinkRow.conflict (old excluded : CanvasLinkRow) : CanvasLinkRow :=
  if old.position ≠ excluded.position ∨ old.sourceId ≠ excluded.sourceId ∨
      old.targetId ≠ excluded.targetId ∨ old.flowReversed ≠ excluded.flowReversed then
    { old with
      position := excluded.position, sourceId := excluded.sourceId
      targetId := excluded.targetId, flowReversed := excluded.flowReversed }
  else old

theorem CanvasLinkRow.conflict_eq (old excluded : CanvasLinkRow) :
    old.conflict excluded = excluded := by
  unfold conflict
  split
  · rfl
  · cases old
    cases excluded
    simp_all

structure CustomPromptRow where
  position : Nat
  createdAt : String
  profileJson : Json
  deriving DecidableEq

def CustomPromptRow.conflict (old excluded : CustomPromptRow) : CustomPromptRow :=
  if old.position ≠ excluded.position ∨ old.createdAt ≠ excluded.createdAt ∨
      old.profileJson ≠ excluded.profileJson then
    { old with
      position := excluded.position, createdAt := excluded.createdAt
      profileJson := excluded.profileJson }
  else old

theorem CustomPromptRow.conflict_eq (old excluded : CustomPromptRow) :
    old.conflict excluded = excluded := by
  unfold conflict
  split
  · rfl
  · cases old
    cases excluded
    simp_all

structure Database where
  userMeta : Table (String × String) String := .empty
  /-- By user, collection and identifier. -/
  assets : Table (String × String × String) AssetRow := .empty
  assetReferences : Table ((String × String × String) × Nat) String := .empty
  notifications : Table (String × String) NotificationRow := .empty
  canvasNodes : Table (String × String) CanvasNodeRow := .empty
  canvasLinks : Table (String × String) CanvasLinkRow := .empty
  customPrompts : Table (String × String) CustomPromptRow := .empty
  userSettings : Table (String × String) Json := .empty

/-- `CHECK(length(user_public_id)=36)`, on every row that is inserted. -/
def checkUser (user : String) : Except String Unit :=
  ensure (user.length = 36) "CHECK constraint failed: length(user_public_id)=36"

/-- `ON CONFLICT .. DO UPDATE SET value=excluded.value WHERE value != excluded.value` -/
def replaced {V : Type} [DecidableEq V] (old excluded : V) : V :=
  if old ≠ excluded then excluded else old

theorem replaced_eq {V : Type} [DecidableEq V] (old excluded : V) : replaced old excluded = excluded := by
  unfold replaced
  split <;> simp_all

section Settings

variable {α : Type} (user key : String) (codec : Codec α)

def writeSettingJson (value : Json) (db : Database) : Except String Database := do
  checkUser user
  pure { db with userSettings := db.userSettings.upsert replaced (user, key) value }

def readSettingJsonOrDefault (default : α) (db : Database) : Except String α :=
  match db.userSettings.get? (user, key) with
  | some json => (codec.decode json).elim (.error "invalid JSON") .ok
  | none => .ok default

def writeMeta (value : String) (db : Database) : Except String Database := do
  checkUser user
  pure { db with userMeta := db.userMeta.upsert (fun _ excluded => excluded) (user, key) value }

def readMeta (db : Database) : Option String := db.userMeta.get? (user, key)

end Settings

section Rows

variable {R V : Type} (user : String) (id : R → String)

/-- `delete_missing_ids`, and the statement for every item with its position. -/
def writeRows (row : Nat → R → V) (conflict : V → V → V) (items : List R)
    (table : Table (String × String) V) : Except String (Table (String × String) V) :=
  items.zipIdx.foldlM (fun table item => do
      checkUser user
      pure (table.upsert conflict (user, id item.1) (row item.2 item.1)))
    (table.delete fun key => key.1 = user && !(items.map id).contains key.2)

/-- `SELECT .. WHERE user_public_id = ?1 ORDER BY position, id` -/
def readRows (position : V → Nat) (table : Table (String × String) V) :
    List ((String × String) × V) :=
  table.select (fun key => key.1 = user) fun row => toLex (position row.2, row.1.2)

/-- The table after such a write. -/
def replaceRows (row : Nat → R → V) (conflict : V → V → V) (items : List R)
    (table : Table (String × String) V) : Table (String × String) V :=
  items.zipIdx.foldl (fun table item => table.upsert conflict (user, id item.1) (row item.2 item.1))
    (table.delete fun key => key.1 = user && !(items.map id).contains key.2)

variable {user id} {row : Nat → R → V} {conflict : V → V → V} {items : List R}
  {table : Table (String × String) V} {position : V → Nat}

theorem checkUser_ok (huser : user.length = 36) : checkUser user = .ok () := by
  simp [checkUser, huser]

theorem foldlM_checked {σ ι : Type} (huser : user.length = 36) (step : σ → ι → σ) (items : List ι)
    (state : σ) : items.foldlM (fun state item => do checkUser user; pure (step state item)) state =
      .ok (items.foldl step state) := by
  rw [checkUser_ok huser]
  induction items generalizing state with
  | nil => rfl
  | cons item items ih => exact ih (step state item)

theorem writeRows_ok (huser : user.length = 36) :
    writeRows user id row conflict items table = .ok (replaceRows user id row conflict items table) :=
  foldlM_checked huser _ _ _

theorem map_zipIdx : items.zipIdx.map (fun item => id item.1) = items.map id := by
  show items.zipIdx.map (id ∘ Prod.fst) = _
  rw [← List.map_map, List.zipIdx_map_fst]

theorem zipIdx_keys (hids : (items.map id).Nodup) :
    KeyedRows.UniqueKeys (fun item : R × Nat => id item.1) items.zipIdx := by
  rwa [KeyedRows.UniqueKeys, map_zipIdx]

theorem get?_replaceRows (hconflict : ∀ old new, conflict old new = new)
    (hids : (items.map id).Nodup) (key : String × String) :
    (replaceRows user id row conflict items table).get? key =
      if key.1 = user then
        (KeyedRows.find (fun item : R × Nat => id item.1) items.zipIdx key.2).map fun item =>
          row item.2 item.1
      else table.get? key := by
  have hkeys : (items.zipIdx.map fun item => (user, id item.1)).Nodup := by
    have hpair : Function.Injective fun id : String => (user, id) := fun _ _ h => (Prod.mk.inj h).2
    have hnodup := hids.map hpair
    rw [← map_zipIdx, List.map_map] at hnodup
    exact hnodup
  refine (foldl_view Table.get? (fun item : R × Nat => (user, id item.1))
    (fun item => some (row item.2 item.1)) (fun _ _ _ => Table.get?_upsert_eq hconflict) hkeys _
    key).trans ?_
  obtain ⟨owner, name⟩ := key
  by_cases howner : owner = user
  · subst howner
    simp only [Prod.mk.injEq, true_and, if_true, KeyedRows.find]
    cases hfind : items.zipIdx.find? fun item => id item.1 = name with
    | some item => rfl
    | none =>
      have hgone : (items.map id).contains name = false := by
        rw [← map_zipIdx]
        simpa using hfind
      rw [Option.map_none, Option.getD_none, Table.get?_delete, hgone]
      simp
  · have hnone : items.zipIdx.find? (fun item => (user, id item.1) = (owner, name)) = none :=
      List.find?_eq_none.mpr fun item _ => by simp [Ne.symm howner]
    rw [hnone, if_neg howner, Option.map_none, Option.getD_none, Table.get?_delete]
    simp [howner]

theorem zipIdx_sorted : items.zipIdx.Pairwise fun a b => a.2 < b.2 := by
  have hrange : (List.range' 0 items.length).Pairwise (· < ·) := List.pairwise_lt_range'
  rw [← List.zipIdx_map_snd 0 items] at hrange
  exact List.pairwise_map.mp hrange

/-- What is read after such a write, however the table was. -/
theorem readRows_replaceRows (hconflict : ∀ old new, conflict old new = new)
    (hposition : ∀ n item, position (row n item) = n) (hids : (items.map id).Nodup) :
    readRows user position (replaceRows user id row conflict items table) =
      items.zipIdx.map fun item => ((user, id item.1), row item.2 item.1) := by
  refine Table.select_eq ?_ fun stored => ?_
  · refine List.pairwise_map.mpr (zipIdx_sorted.imp fun {a b} hlt => ?_)
    rw [Prod.Lex.toLex_lt_toLex, hposition, hposition]
    exact .inl hlt
  · obtain ⟨⟨owner, name⟩, value⟩ := stored
    simp only [List.mem_map, Prod.mk.injEq, decide_eq_true_eq]
    rw [get?_replaceRows hconflict hids]
    constructor
    · rintro ⟨item, hmem, ⟨rfl, rfl⟩, rfl⟩
      refine ⟨rfl, ?_⟩
      rw [if_pos rfl, (KeyedRows.find_eq_some_iff (zipIdx_keys hids)).mpr ⟨hmem, rfl⟩]
      rfl
    · rintro ⟨rfl, hget⟩
      rw [if_pos rfl, Option.map_eq_some_iff] at hget
      obtain ⟨item, hfind, rfl⟩ := hget
      obtain ⟨hmem, hname⟩ := (KeyedRows.find_eq_some_iff (zipIdx_keys hids)).mp hfind
      exact ⟨item, hmem, ⟨rfl, hname⟩, rfl⟩

end Rows

end ArtForgeStudio.LocalStore
