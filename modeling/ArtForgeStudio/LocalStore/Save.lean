import ArtForgeStudio.Api.Wire
import ArtForgeStudio.LocalStore.Assets

/-! # Saving a private store

A snapshot of the store is saved as what differs from the rows before, in one transaction. The
delivered videos are never lost: a snapshot without one of them, or with another record for it,
is refused.
-/

namespace ArtForgeStudio.LocalStore

open ArtForgeStudio.Codecs ArtForgeStudio.Outcome ArtForgeStudio.Tables

def notificationRow (position : Nat) (item : NotificationData) : NotificationRow where
  position := position
  title := item.title
  model := item.model
  time := item.time
  reason := item.reason
  success := item.success
  read := item.read
  announcement := item.announcement

def writeNotifications (user : String) (notifications : List NotificationData) (db : Database) :
    Except String Database := do
  let rows ← writeRows user NotificationData.id notificationRow NotificationRow.conflict
    notifications db.notifications
  pure { db with notifications := rows }

def canvasNodeRow (position : Nat) (item : CanvasNoteData) : CanvasNodeRow where
  position := position
  kind := item.kind
  content := item.content
  x := item.x
  y := item.y
  width := item.width
  height := item.height
  parentGroupId := item.parentGroupId
  zIndex := item.zIndex
  imagePath := item.imagePath
  fontSize := item.fontSize

def writeCanvasNodes (user : String) (nodes : List CanvasNoteData) (db : Database) :
    Except String Database := do
  let rows ← writeRows user CanvasNoteData.id canvasNodeRow CanvasNodeRow.conflict nodes
    db.canvasNodes
  pure { db with canvasNodes := rows }

def canvasLinkRow (position : Nat) (item : CanvasLinkData) : CanvasLinkRow where
  position := position
  sourceId := item.sourceId
  targetId := item.targetId
  flowReversed := item.flowReversed

def writeCanvasLinks (user : String) (links : List CanvasLinkData) (db : Database) :
    Except String Database := do
  let rows ← writeRows user CanvasLinkData.id canvasLinkRow CanvasLinkRow.conflict links
    db.canvasLinks
  pure { db with canvasLinks := rows }

def customPromptRow (data : LocalStoreData) (position : Nat) (prompt : String) :
    CustomPromptRow where
  position := position
  createdAt := (data.customPromptTimes[prompt]?).getD ""
  profileJson := customPromptProfileCodec.encode ((data.customPromptProfiles[prompt]?).getD {})

def writeCustomPrompts (user : String) (data : LocalStoreData) (db : Database) :
    Except String Database := do
  let rows ← writeRows user id (customPromptRow data) CustomPromptRow.conflict data.customPrompts
    db.customPrompts
  pure { db with customPrompts := rows }

def SavedVideoOutput.key (output : SavedVideoOutput) : String :=
  output.serverTaskId ++ ":" ++ output.fileId

/-- `is_ascii_hexdigit` -/
def isHexDigit (c : Char) : Bool := Api.isLowerHex c || ('A' ≤ c && c ≤ 'F')

def SavedVideoOutput.validate (output : SavedVideoOutput) : Except String Unit := do
  ensure (!Api.trimIsEmpty output.clientRequestId && output.sourcePath ≠ "" && output.sizeBytes > 0)
    "saved video metadata incomplete"
  [output.serverTaskId, output.fileId, output.billingAccountGroupId].forM fun id =>
    ensure (Api.canonicalUuid id) "saved video identity invalid"
  ensure (output.sha256.toList.length = 64 && output.sha256.toList.all isHexDigit)
    "saved video digest invalid"

def videoOutputsCodec : Codec (BTreeMap SavedVideoOutput) := .map savedVideoOutputCodec

instance : Codec.Faithful videoOutputsCodec :=
  inferInstanceAs (Codec.Faithful (.map savedVideoOutputCodec))

def checkVideoOutputs (previous outputs : BTreeMap SavedVideoOutput) : Except String Unit := do
  outputs.toList.forM fun entry => do
    entry.2.validate
    ensure (entry.1 = entry.2.key) "saved video key mismatch"
  previous.toList.forM fun entry =>
    ensure (outputs[entry.1]? = some entry.2)
      "retained video cannot be replaced or erased by a Store snapshot"

/-- The settings after the delivered videos, in the order in which they are written. -/
def LocalStoreData.settings (data : LocalStoreData) : List (String × Json) := [
  ("pending_credit_redemptions_by_owner",
    (Codec.map pendingCreditRedemptionCodec).encode data.pendingCreditRedemptionsByOwner),
  ("references", referenceGroupsCodec.encode data.references),
  ("image_model", Codec.string.encode data.imageModel),
  ("reasoning_model", Codec.string.encode data.reasoningModel),
  ("video_model", Codec.string.encode data.videoModel),
  ("prompt_drafts", promptDraftsCodec.encode data.promptDrafts),
  ("dismissed_prompt_history", Codec.set.encode data.dismissedPromptHistory),
  ("saved_prompt_history",
    (Codec.list promptHistoryEntryCodec).encode data.savedPromptHistory),
  ("selected_custom_prompts", (Codec.map .set).encode data.selectedCustomPrompts),
  ("active_canvas_workspace_id", Codec.string.encode data.activeCanvasWorkspaceId),
  ("canvas_workspaces", (Codec.map canvasWorkspaceCodec).encode data.canvasWorkspaces),
  ("deep_prompt_job_id", Codec.string.encode data.deepPromptJobId),
  ("deep_prompt_jobs_by_owner", (Codec.map .string).encode data.deepPromptJobsByOwner),
  ("deep_prompt_pending_requests_by_owner",
    (Codec.map createPromptOptimizationCodec).encode data.deepPromptPendingRequestsByOwner),
  ("deep_prompt_bindings", (Codec.map deepPromptBindingCodec).encode data.deepPromptBindings),
  ("contact_popup_dismissed", Codec.bool.encode data.contactPopupDismissed)]

/-- A transaction that is dropped before its commit is rolled back. `fault` is a fault of the
storage, which ends whatever statement meets it. -/
def transaction (fault : Option String) (statements : Database → Except String Database)
    (db : Database) : Except String Unit × Database :=
  match fault, statements db with
  | none, .ok db => (.ok (), db)
  | none, .error error => (.error error, db)
  | some error, _ => (.error error, db)

/-- The writes of a snapshot, in their order. -/
def writeSnapshot (user : String) (data : LocalStoreData) (db : Database) :
    Except String Database := do
  let db ← writeSettingJson user "video_outputs" (videoOutputsCodec.encode data.videoOutputs) db
  let db ← writeAssetCollection user "generation" data.generations db
  let db ← writeAssetCollection user "asset" data.assets db
  let db ← writeNotifications user data.notifications db
  let db ← writeCanvasNodes user data.canvasNotes db
  let db ← writeCanvasLinks user data.canvasLinks db
  let db ← writeCustomPrompts user data db
  let db ← data.settings.foldlM (fun db setting => writeSettingJson user setting.1 setting.2 db) db
  writeMeta user "local_store_initialized" "1" db

/-- The statements of `write_local_store`. -/
def localStoreStatements (user : String) (data : LocalStoreData) (db : Database) :
    Except String Database := do
  let previous ← readSettingJsonOrDefault user "video_outputs" videoOutputsCodec ∅ db
  checkVideoOutputs previous data.videoOutputs
  writeSnapshot user data db

def writeLocalStore (fault : Option String) (user : String) (data : LocalStoreData)
    (db : Database) : Except String Unit × Database :=
  transaction fault (localStoreStatements user data) db

section Saved

variable {user : String} {data : LocalStoreData} {db saved : Database} {fault : Option String}

/-- The settings of a snapshot, with the delivered videos. -/
def LocalStoreData.allSettings (data : LocalStoreData) : List (String × Json) :=
  ("video_outputs", videoOutputsCodec.encode data.videoOutputs) :: data.settings

def putSettings (user : String) (settings : List (String × Json))
    (table : Table (String × String) Json) : Table (String × String) Json :=
  settings.foldl (fun table setting => table.upsert replaced (user, setting.1) setting.2) table

/-- The database after a snapshot was saved. -/
def putLocalStore (user : String) (data : LocalStoreData) (db : Database) : Database :=
  { putAssets user "asset" data.assets (putAssets user "generation" data.generations db) with
    userSettings := putSettings user data.allSettings db.userSettings
    notifications := replaceRows user NotificationData.id notificationRow NotificationRow.conflict
      data.notifications db.notifications
    canvasNodes := replaceRows user CanvasNoteData.id canvasNodeRow CanvasNodeRow.conflict
      data.canvasNotes db.canvasNodes
    canvasLinks := replaceRows user CanvasLinkData.id canvasLinkRow CanvasLinkRow.conflict
      data.canvasLinks db.canvasLinks
    customPrompts := replaceRows user id (customPromptRow data) CustomPromptRow.conflict
      data.customPrompts db.customPrompts
    userMeta := db.userMeta.upsert (fun _ excluded => excluded) (user, "local_store_initialized") "1" }

/-- What a snapshot is refused for. -/
structure Savable (user : String) (data : LocalStoreData) (db : Database) : Prop where
  user_length : user.length = 36
  retained : ∃ previous, readSettingJsonOrDefault user "video_outputs" videoOutputsCodec ∅ db =
    .ok previous ∧ checkVideoOutputs previous data.videoOutputs = .ok ()

theorem writeSettingJson_ok (huser : user.length = 36) (key : String) (value : Json) :
    writeSettingJson user key value db = .ok
      { db with userSettings := db.userSettings.upsert replaced (user, key) value } := by
  rw [writeSettingJson, checkUser_ok huser]
  rfl

theorem writeMeta_ok (huser : user.length = 36) (key value : String) :
    writeMeta user key value db = .ok
      { db with userMeta := db.userMeta.upsert (fun _ excluded => excluded) (user, key) value } := by
  rw [writeMeta, checkUser_ok huser]
  rfl

theorem putSettings_ok (huser : user.length = 36) (settings : List (String × Json)) :
    settings.foldlM (fun db setting => writeSettingJson user setting.1 setting.2 db) db =
      .ok { db with userSettings := putSettings user settings db.userSettings } := by
  induction settings generalizing db with
  | nil => rfl
  | cons setting settings ih =>
    rw [List.foldlM_cons, writeSettingJson_ok huser]
    exact ih

/-- The assets of one database, with the other tables of another. -/
def Database.withAssets (tables db : Database) : Database :=
  { tables with assets := db.assets, assetReferences := db.assetReferences }

/-- Writing assets touches no other table, and looks at none. -/
theorem putAssets_withAssets (collection : String) (assets : List StoredAssetData)
    (tables db : Database) : putAssets user collection assets (tables.withAssets db) =
      tables.withAssets (putAssets user collection assets db) := by
  have hitems : ∀ (items : List (StoredAssetData × Nat)) (start : Database),
      items.foldl (fun db item => putAsset user collection item.2 item.1 db)
        (tables.withAssets start) = tables.withAssets
        (items.foldl (fun db item => putAsset user collection item.2 item.1 db) start) := by
    intro items
    induction items with
    | nil => exact fun start => rfl
    | cons item items ih => exact fun start => ih (putAsset user collection item.2 item.1 start)
  unfold putAssets
  rw [← hitems]
  rfl

theorem writeNotifications_ok (huser : user.length = 36) (items : List NotificationData) :
    writeNotifications user items db = .ok
      { db with
        notifications := replaceRows user NotificationData.id notificationRow
          NotificationRow.conflict items db.notifications } := by
  rw [writeNotifications, writeRows_ok huser]
  rfl

theorem writeCanvasNodes_ok (huser : user.length = 36) (items : List CanvasNoteData) :
    writeCanvasNodes user items db = .ok
      { db with
        canvasNodes := replaceRows user CanvasNoteData.id canvasNodeRow CanvasNodeRow.conflict
          items db.canvasNodes } := by
  rw [writeCanvasNodes, writeRows_ok huser]
  rfl

theorem writeCanvasLinks_ok (huser : user.length = 36) (items : List CanvasLinkData) :
    writeCanvasLinks user items db = .ok
      { db with
        canvasLinks := replaceRows user CanvasLinkData.id canvasLinkRow CanvasLinkRow.conflict
          items db.canvasLinks } := by
  rw [writeCanvasLinks, writeRows_ok huser]
  rfl

theorem writeCustomPrompts_ok (huser : user.length = 36) (data : LocalStoreData) :
    writeCustomPrompts user data db = .ok
      { db with
        customPrompts := replaceRows user id (customPromptRow data) CustomPromptRow.conflict
          data.customPrompts db.customPrompts } := by
  rw [writeCustomPrompts, writeRows_ok huser]
  rfl

/-- Past the checks, nothing but the storage can fail. -/
theorem writeSnapshot_ok (huser : user.length = 36) (data : LocalStoreData) (db : Database) :
    writeSnapshot user data db = .ok (putLocalStore user data db) := by
  let start : Database :=
    { db with
      userSettings := db.userSettings.upsert replaced (user, "video_outputs")
        (videoOutputsCodec.encode data.videoOutputs) }
  have hgenerations : putAssets user "generation" data.generations start =
      start.withAssets (putAssets user "generation" data.generations db) :=
    putAssets_withAssets "generation" data.generations start db
  have hassets := @putAssets_withAssets user "asset" data.assets start
    (putAssets user "generation" data.generations db)
  simp only [writeSnapshot, bind_eq_ok]
  exact ⟨start, writeSettingJson_ok huser _ _,
    _, (writeAssetCollection_ok huser _).trans (congrArg _ hgenerations),
    _, (writeAssetCollection_ok huser _).trans (congrArg _ hassets),
    _, writeNotifications_ok huser _, _, writeCanvasNodes_ok huser _,
    _, writeCanvasLinks_ok huser _, _, writeCustomPrompts_ok huser _,
    _, putSettings_ok huser _, writeMeta_ok huser _ _⟩

theorem localStoreStatements_iff :
    localStoreStatements user data db = .ok saved ↔
      Savable user data db ∧ saved = putLocalStore user data db := by
  rw [localStoreStatements, bind_eq_ok]
  simp only [bind_eq_ok, exists_unit]
  constructor
  · rintro ⟨previous, hread, hcheck, hwrites⟩
    have huser : user.length = 36 := by
      rw [writeSnapshot, writeSettingJson, bind_eq_ok] at hwrites
      obtain ⟨_, hsetting, -⟩ := hwrites
      obtain ⟨_, hchecked, -⟩ := bind_eq_ok.mp hsetting
      exact ensure_eq_ok.mp hchecked
    rw [writeSnapshot_ok huser] at hwrites
    exact ⟨⟨huser, previous, hread, hcheck⟩, (Except.ok.inj hwrites).symm⟩
  · rintro ⟨⟨huser, previous, hread, hcheck⟩, rfl⟩
    exact ⟨previous, hread, hcheck, writeSnapshot_ok huser data db⟩

end Saved

end ArtForgeStudio.LocalStore
