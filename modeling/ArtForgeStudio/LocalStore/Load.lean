import ArtForgeStudio.LocalStore.Save

/-! # Loading a private store

What is read back is the snapshot that was saved, whatever was stored before: the selection on
the canvas is not kept, and of the custom prompts only the saved ones keep their time and
profile.
-/

namespace ArtForgeStudio.LocalStore

open ArtForgeStudio.Codecs ArtForgeStudio.Outcome ArtForgeStudio.Tables

def readNotifications (user : String) (db : Database) : List NotificationData :=
  (readRows user NotificationRow.position db.notifications).map fun row =>
    { id := row.1.2, title := row.2.title, model := row.2.model, time := row.2.time
      reason := row.2.reason, success := row.2.success, read := row.2.read
      announcement := row.2.announcement }

def readCanvasNodes (user : String) (db : Database) : List CanvasNoteData :=
  (readRows user CanvasNodeRow.position db.canvasNodes).map fun row =>
    { id := row.1.2, kind := row.2.kind, content := row.2.content, x := row.2.x, y := row.2.y
      width := row.2.width, height := row.2.height, parentGroupId := row.2.parentGroupId
      zIndex := row.2.zIndex, imagePath := row.2.imagePath, fontSize := row.2.fontSize
      selected := false }

def readCanvasLinks (user : String) (db : Database) : List CanvasLinkData :=
  (readRows user CanvasLinkRow.position db.canvasLinks).map fun row =>
    { id := row.1.2, sourceId := row.2.sourceId, targetId := row.2.targetId
      flowReversed := row.2.flowReversed }

def readCustomPrompt (row : (String × String) × CustomPromptRow) :
    Except String (String × String × CustomPromptProfile) :=
  match customPromptProfileCodec.decode row.2.profileJson with
  | some profile => .ok (row.1.2, row.2.createdAt, profile)
  | none => .error "invalid JSON"

def readCustomPrompts (user : String) (db : Database) :
    Except String (List (String × String × CustomPromptProfile)) :=
  (readRows user CustomPromptRow.position db.customPrompts).mapM readCustomPrompt

/-- A map that is filled by one insertion after another. -/
def insertAll {V : Type} (entries : List (String × V)) : BTreeMap V :=
  entries.foldl (fun values entry => values.insert entry.1 entry.2) ∅

/-- `read_local_store_transaction` -/
def readLocalStore (user : String) (db : Database) : Except String LocalStoreData := do
  let customPromptRows ← readCustomPrompts user db
  let videoOutputs ← readSettingJsonOrDefault user "video_outputs" videoOutputsCodec ∅ db
  let references ← readSettingJsonOrDefault user "references" referenceGroupsCodec {} db
  let pendingCreditRedemptionsByOwner ← readSettingJsonOrDefault user
    "pending_credit_redemptions_by_owner" (.map pendingCreditRedemptionCodec) ∅ db
  let imageModel ← readSettingJsonOrDefault user "image_model" .string "" db
  let reasoningModel ← readSettingJsonOrDefault user "reasoning_model" .string "" db
  let videoModel ← readSettingJsonOrDefault user "video_model" .string "" db
  let promptDrafts ← readSettingJsonOrDefault user "prompt_drafts" promptDraftsCodec {} db
  let dismissedPromptHistory ← readSettingJsonOrDefault user "dismissed_prompt_history" .set ∅ db
  let savedPromptHistory ← readSettingJsonOrDefault user "saved_prompt_history"
    (.list promptHistoryEntryCodec) [] db
  let selectedCustomPrompts ← readSettingJsonOrDefault user "selected_custom_prompts"
    (.map .set) ∅ db
  let activeCanvasWorkspaceId ← readSettingJsonOrDefault user "active_canvas_workspace_id"
    .string "" db
  let canvasWorkspaces ← readSettingJsonOrDefault user "canvas_workspaces"
    (.map canvasWorkspaceCodec) ∅ db
  let deepPromptJobId ← readSettingJsonOrDefault user "deep_prompt_job_id" .string "" db
  let deepPromptJobsByOwner ← readSettingJsonOrDefault user "deep_prompt_jobs_by_owner"
    (.map .string) ∅ db
  let deepPromptPendingRequestsByOwner ← readSettingJsonOrDefault user
    "deep_prompt_pending_requests_by_owner" (.map createPromptOptimizationCodec) ∅ db
  let deepPromptBindings ← readSettingJsonOrDefault user "deep_prompt_bindings"
    (.map deepPromptBindingCodec) ∅ db
  let contactPopupDismissed ← readSettingJsonOrDefault user "contact_popup_dismissed" .bool
    false db
  pure {
    videoOutputs, references, pendingCreditRedemptionsByOwner
    generations := readAssets user "generation" db
    assets := readAssets user "asset" db
    notifications := readNotifications user db
    imageModel, reasoningModel, videoModel, promptDrafts, dismissedPromptHistory
    savedPromptHistory
    customPrompts := customPromptRows.map (·.1)
    selectedCustomPrompts
    customPromptTimes := insertAll (customPromptRows.map fun row => (row.1, row.2.1))
    customPromptProfiles := insertAll (customPromptRows.map fun row => (row.1, row.2.2))
    canvasNotes := readCanvasNodes user db
    canvasLinks := readCanvasLinks user db
    activeCanvasWorkspaceId, canvasWorkspaces, deepPromptJobId, deepPromptJobsByOwner
    deepPromptPendingRequestsByOwner, deepPromptBindings, contactPopupDismissed }

def CanvasNoteData.deselected (note : CanvasNoteData) : CanvasNoteData :=
  { note with selected := false }

/-- What is left of a snapshot when it was saved and loaded. -/
def LocalStoreData.restored (data : LocalStoreData) : LocalStoreData :=
  { data with
    canvasNotes := data.canvasNotes.map CanvasNoteData.deselected
    canvasWorkspaces := data.canvasWorkspaces.map fun _ workspace =>
      { workspace with notes := workspace.notes.map CanvasNoteData.deselected }
    customPromptTimes := insertAll (data.customPrompts.map fun prompt =>
      (prompt, (data.customPromptTimes[prompt]?).getD ""))
    customPromptProfiles := insertAll (data.customPrompts.map fun prompt =>
      (prompt, (data.customPromptProfiles[prompt]?).getD {})) }

/-- The identifiers of each list are distinct. -/
structure LocalStoreData.Distinct (data : LocalStoreData) : Prop where
  generations : (data.generations.map (·.id)).Nodup
  assets : (data.assets.map (·.id)).Nodup
  notifications : (data.notifications.map (·.id)).Nodup
  canvasNotes : (data.canvasNotes.map (·.id)).Nodup
  canvasLinks : (data.canvasLinks.map (·.id)).Nodup
  customPrompts : data.customPrompts.Nodup

/-- The rows of every other user are as they were. -/
structure Database.OthersKept (user : String) (before after : Database) : Prop where
  userMeta : ∀ key, key.1 ≠ user → after.userMeta.get? key = before.userMeta.get? key
  assets : ∀ key, key.1 ≠ user → after.assets.get? key = before.assets.get? key
  assetReferences : ∀ key, key.1.1 ≠ user →
    after.assetReferences.get? key = before.assetReferences.get? key
  notifications : ∀ key, key.1 ≠ user →
    after.notifications.get? key = before.notifications.get? key
  canvasNodes : ∀ key, key.1 ≠ user → after.canvasNodes.get? key = before.canvasNodes.get? key
  canvasLinks : ∀ key, key.1 ≠ user → after.canvasLinks.get? key = before.canvasLinks.get? key
  customPrompts : ∀ key, key.1 ≠ user →
    after.customPrompts.get? key = before.customPrompts.get? key
  userSettings : ∀ key, key.1 ≠ user →
    after.userSettings.get? key = before.userSettings.get? key

section Loading

variable {user : String} {data : LocalStoreData} {db : Database}

theorem insert_view {V : Type} (values : BTreeMap V) (entry : String × V) (key : String) :
    (values.insert entry.1 entry.2)[key]? =
      if key = entry.1 then some entry.2 else values[key]? := by
  rw [Std.ExtTreeMap.getElem?_insert]
  by_cases h : key = entry.1
  · simp [h]
  · rw [if_neg h, if_neg]
    rw [Std.LawfulEqCmp.compare_eq_iff_eq]
    exact Ne.symm h

/-- A map that is filled so holds the last value of each key; with distinct keys, the only one. -/
theorem getElem?_insertAll {V : Type} {entries : List (String × V)}
    (hkeys : (entries.map Prod.fst).Nodup) (key : String) :
    (insertAll entries)[key]? = entries.lookup key := by
  refine (foldl_view (fun (values : BTreeMap V) key => values[key]?) Prod.fst
    (fun entry : String × V => some entry.2) insert_view hkeys ∅ key).trans ?_
  rw [lookup_eq_find?]
  cases entries.find? fun entry => entry.1 = key <;> simp

theorem lookup_prompts {V : Type} (value : String → V) (prompts : List String) (prompt : String) :
    (prompts.map fun prompt => (prompt, value prompt)).lookup prompt =
      if prompt ∈ prompts then some (value prompt) else none := by
  induction prompts with
  | nil => rfl
  | cons head prompts ih =>
    rw [List.map_cons, lookup_cons_eq, ih]
    by_cases h : prompt = head <;> simp [h]

/-- Of a map by prompt, the saved prompts are left, each with a value. -/
theorem getElem?_insertAll_prompts {V : Type} (value : String → V) {prompts : List String}
    (hprompts : prompts.Nodup) (prompt : String) :
    (insertAll (prompts.map fun prompt => (prompt, value prompt)))[prompt]? =
      if prompt ∈ prompts then some (value prompt) else none := by
  rw [getElem?_insertAll (by simpa [Function.comp_def] using hprompts), lookup_prompts]

theorem readNotifications_put (hids : (data.notifications.map (·.id)).Nodup) :
    readNotifications user (putLocalStore user data db) = data.notifications := by
  have hread : readRows user NotificationRow.position (putLocalStore user data db).notifications =
      data.notifications.zipIdx.map fun item =>
        ((user, item.1.id), notificationRow item.2 item.1) :=
    readRows_replaceRows NotificationRow.conflict_eq (fun _ _ => rfl) hids
  rw [readNotifications, hread, List.map_map]
  exact List.zipIdx_map_fst 0 data.notifications

theorem readCanvasNodes_put (hids : (data.canvasNotes.map (·.id)).Nodup) :
    readCanvasNodes user (putLocalStore user data db) =
      data.canvasNotes.map CanvasNoteData.deselected := by
  have hread : readRows user CanvasNodeRow.position (putLocalStore user data db).canvasNodes =
      data.canvasNotes.zipIdx.map fun item => ((user, item.1.id), canvasNodeRow item.2 item.1) :=
    readRows_replaceRows CanvasNodeRow.conflict_eq (fun _ _ => rfl) hids
  have hitems := List.zipIdx_map_fst 0 data.canvasNotes
  rw [readCanvasNodes, hread, List.map_map]
  conv_rhs => rw [← hitems, List.map_map]
  rfl

theorem readCanvasLinks_put (hids : (data.canvasLinks.map (·.id)).Nodup) :
    readCanvasLinks user (putLocalStore user data db) = data.canvasLinks := by
  have hread : readRows user CanvasLinkRow.position (putLocalStore user data db).canvasLinks =
      data.canvasLinks.zipIdx.map fun item => ((user, item.1.id), canvasLinkRow item.2 item.1) :=
    readRows_replaceRows CanvasLinkRow.conflict_eq (fun _ _ => rfl) hids
  rw [readCanvasLinks, hread, List.map_map]
  exact List.zipIdx_map_fst 0 data.canvasLinks

/-- The row of a prompt as it is read. -/
def LocalStoreData.promptRow (data : LocalStoreData) (prompt : String) :
    String × String × CustomPromptProfile :=
  (prompt, (data.customPromptTimes[prompt]?).getD "",
    (data.customPromptProfiles[prompt]?).getD {})

theorem readCustomPrompts_put (hprompts : data.customPrompts.Nodup) :
    readCustomPrompts user (putLocalStore user data db) =
      .ok (data.customPrompts.map data.promptRow) := by
  have hread : readRows user CustomPromptRow.position (putLocalStore user data db).customPrompts =
      data.customPrompts.zipIdx.map fun item =>
        ((user, item.1), customPromptRow data item.2 item.1) :=
    readRows_replaceRows CustomPromptRow.conflict_eq (fun _ _ => rfl) (by simpa using hprompts)
  have hrow : ∀ item : String × Nat,
      readCustomPrompt ((user, item.1), customPromptRow data item.2 item.1) =
        .ok (data.promptRow item.1) := fun item => by
    simp [readCustomPrompt, customPromptRow, LocalStoreData.promptRow]
  have hitems := List.zipIdx_map_fst 0 data.customPrompts
  rw [readCustomPrompts, hread]
  conv_rhs => rw [← hitems, List.map_map]
  induction data.customPrompts.zipIdx with
  | nil => rfl
  | cons item items ih =>
    rw [List.map_cons, List.mapM_cons, hrow, ih]
    rfl

theorem get?_putSettings {settings : List (String × Json)} (hkeys : (settings.map Prod.fst).Nodup)
    (table : Table (String × String) Json) (owner key : String) :
    (putSettings user settings table).get? (owner, key) =
      if owner = user then (settings.lookup key).or (table.get? (owner, key))
      else table.get? (owner, key) := by
  have hnodup : (settings.map fun setting => (user, setting.1)).Nodup := by
    have hpair : Function.Injective fun key : String => (user, key) :=
      fun _ _ h => (Prod.mk.inj h).2
    have hmap := hkeys.map hpair
    rwa [List.map_map] at hmap
  refine (foldl_view Table.get? (fun setting : String × Json => (user, setting.1))
    (fun setting => some setting.2) (fun _ _ _ => Table.get?_upsert_eq replaced_eq) hnodup table
    (owner, key)).trans ?_
  by_cases howner : owner = user
  · subst howner
    rw [if_pos rfl, lookup_eq_find?]
    simp only [Prod.mk.injEq, true_and]
    cases settings.find? fun setting => setting.1 = key <;> rfl
  · have hnone : settings.find? (fun setting => (user, setting.1) = (owner, key)) = none :=
      List.find?_eq_none.mpr fun setting _ => by simp [Ne.symm howner]
    rw [hnone, if_neg howner]
    rfl

/-- Every setting is written once. -/
theorem allSettings_keys (data : LocalStoreData) : (data.allSettings.map Prod.fst).Nodup := by
  have hkeys : data.allSettings.map Prod.fst = ["video_outputs",
      "pending_credit_redemptions_by_owner", "references", "image_model", "reasoning_model",
      "video_model", "prompt_drafts", "dismissed_prompt_history", "saved_prompt_history",
      "selected_custom_prompts", "active_canvas_workspace_id", "canvas_workspaces",
      "deep_prompt_job_id", "deep_prompt_jobs_by_owner", "deep_prompt_pending_requests_by_owner",
      "deep_prompt_bindings", "contact_popup_dismissed"] := rfl
  rw [hkeys]
  decide

/-- The settings that are stored for a user are those of a snapshot. -/
def Database.SettingsOf (user : String) (data : LocalStoreData) (db : Database) : Prop :=
  ∀ setting ∈ data.allSettings, db.userSettings.get? (user, setting.1) = some setting.2

theorem putLocalStore_settings : (putLocalStore user data db).SettingsOf user data := by
  intro setting hmem
  refine (get?_putSettings (allSettings_keys data) db.userSettings user setting.1).trans ?_
  rw [if_pos rfl, (lookup_eq_some (allSettings_keys data)).mpr hmem]
  rfl

/-- A setting of the snapshot is read as what its codec keeps. -/
theorem readSetting_of (hsettings : db.SettingsOf user data) {α : Type} {codec : Codec α}
    {key : String} {default : α} (value : α)
    (h : (key, codec.encode value) ∈ data.allSettings) :
    readSettingJsonOrDefault user key codec default db = .ok (codec.restored value) := by
  have hget : db.userSettings.get? (user, key) = some (codec.encode value) := hsettings _ h
  rw [readSettingJsonOrDefault, hget]
  simp

/-- The settings are read as those of the snapshot, the tables as they are. -/
theorem readLocalStore_of (hsettings : db.SettingsOf user data)
    {rows : List (String × String × CustomPromptProfile)}
    (hrows : readCustomPrompts user db = .ok rows) :
    readLocalStore user db = .ok
      { data.restored with
        generations := readAssets user "generation" db
        assets := readAssets user "asset" db
        notifications := readNotifications user db
        customPrompts := rows.map (·.1)
        customPromptTimes := insertAll (rows.map fun row => (row.1, row.2.1))
        customPromptProfiles := insertAll (rows.map fun row => (row.1, row.2.2))
        canvasNotes := readCanvasNodes user db
        canvasLinks := readCanvasLinks user db } := by
  simp only [readLocalStore, bind_eq_ok]
  refine ⟨_, hrows, _, readSetting_of hsettings data.videoOutputs (by simp [LocalStoreData.allSettings]),
    _, readSetting_of hsettings data.references ?_,
    _, readSetting_of hsettings data.pendingCreditRedemptionsByOwner ?_,
    _, readSetting_of hsettings data.imageModel ?_,
    _, readSetting_of hsettings data.reasoningModel ?_,
    _, readSetting_of hsettings data.videoModel ?_,
    _, readSetting_of hsettings data.promptDrafts ?_,
    _, readSetting_of hsettings data.dismissedPromptHistory ?_,
    _, readSetting_of hsettings data.savedPromptHistory ?_,
    _, readSetting_of hsettings data.selectedCustomPrompts ?_,
    _, readSetting_of hsettings data.activeCanvasWorkspaceId ?_,
    _, readSetting_of hsettings data.canvasWorkspaces ?_,
    _, readSetting_of hsettings data.deepPromptJobId ?_,
    _, readSetting_of hsettings data.deepPromptJobsByOwner ?_,
    _, readSetting_of hsettings data.deepPromptPendingRequestsByOwner ?_,
    _, readSetting_of hsettings data.deepPromptBindings ?_,
    _, readSetting_of hsettings data.contactPopupDismissed ?_, ?_⟩
  case refine_17 =>
    simp only [pure, Except.pure, LocalStoreData.restored, Codec.restored_apply]
    rfl
  all_goals simp [LocalStoreData.allSettings, LocalStoreData.settings]

theorem readAssets_put (hids : data.Distinct) :
    readAssets user "generation" (putLocalStore user data db) = data.generations ∧
      readAssets user "asset" (putLocalStore user data db) = data.assets := by
  refine ⟨@readAssets_eq user "generation" db _ hids.generations _ fun id => ?_,
    readAssets_eq hids.assets fun id => rfl⟩
  exact assetAt_other hids.assets (.inr (by simp))

/-- What was saved is read back, whatever was stored before. -/
theorem readLocalStore_put (hids : data.Distinct) :
    readLocalStore user (putLocalStore user data db) = .ok data.restored := by
  obtain ⟨hgenerations, hassets⟩ := @readAssets_put user data db hids
  rw [readLocalStore_of putLocalStore_settings (readCustomPrompts_put hids.customPrompts),
    hgenerations, hassets, readNotifications_put hids.notifications,
    readCanvasNodes_put hids.canvasNotes, readCanvasLinks_put hids.canvasLinks]
  simp only [LocalStoreData.restored, LocalStoreData.promptRow, List.map_map, Function.comp_def,
    List.map_id']

theorem replaceRows_others {R V : Type} {id : R → String} {row : Nat → R → V}
    {conflict : V → V → V} {items : List R} {table : Table (String × String) V}
    (hconflict : ∀ old new, conflict old new = new) (hids : (items.map id).Nodup)
    {key : String × String} (hkey : key.1 ≠ user) :
    (replaceRows user id row conflict items table).get? key = table.get? key :=
  (get?_replaceRows hconflict hids key).trans (if_neg hkey)

theorem putLocalStore_others (hids : data.Distinct) :
    db.OthersKept user (putLocalStore user data db) := by
  have hassets : ∀ key : AssetKey, key.1 ≠ user →
      assetAt (putLocalStore user data db) key = assetAt db key := fun key hkey =>
    (assetAt_other hids.assets (.inl hkey)).trans (assetAt_other hids.generations (.inl hkey))
  refine ⟨fun key hkey => ?_, fun key hkey => congrArg StoredAsset.row (hassets key hkey),
    fun key hkey => congrFun (congrArg StoredAsset.paths (hassets key.1 hkey)) key.2,
    fun _ hkey => replaceRows_others NotificationRow.conflict_eq hids.notifications hkey,
    fun _ hkey => replaceRows_others CanvasNodeRow.conflict_eq hids.canvasNotes hkey,
    fun _ hkey => replaceRows_others CanvasLinkRow.conflict_eq hids.canvasLinks hkey,
    fun _ hkey => replaceRows_others CustomPromptRow.conflict_eq
      (by simpa using hids.customPrompts) hkey,
    fun key hkey => (get?_putSettings (allSettings_keys data) _ key.1 key.2).trans (if_neg hkey)⟩
  have hother : key ≠ (user, "local_store_initialized") := fun heq => hkey (congrArg Prod.fst heq)
  exact Table.get?_upsert.trans (if_neg hother)

end Loading

/-- A save that succeeds leaves its snapshot, whatever was stored before, and the rows of every
other user; a save that fails leaves the database as it was. -/
theorem incremental_save_is_full_save (fault : Option String) (user : String)
    (data : LocalStoreData) (db : Database) (hids : data.Distinct) :
    match writeLocalStore fault user data db with
    | (.ok (), saved) =>
      readLocalStore user saved = .ok data.restored ∧ db.OthersKept user saved
    | (.error _, left) => left = db := by
  unfold writeLocalStore transaction
  cases fault with
  | some error => rfl
  | none =>
    cases hstatements : localStoreStatements user data db with
    | error error => rfl
    | ok saved =>
      obtain ⟨-, rfl⟩ := localStoreStatements_iff.mp hstatements
      exact ⟨readLocalStore_put hids, putLocalStore_others hids⟩

/-- A second snapshot of a user, without an asset of the first. -/
theorem incremental_save_is_full_save_second :
    let user := "aaaaaaaa-aaaa-4aaa-8aaa-aaaaaaaaaaaa"
    let asset (id path : String) : StoredAssetData :=
      { id := id, conversationId := "", title := "", category := "", kind := "", time := ""
        prompt := "", ratio := "", quality := "", model := "", sourcePath := path }
    let first : LocalStoreData :=
      { assets := [asset "1" "a.png", asset "2" "b.png"], customPrompts := ["p", "q"] }
    let second : LocalStoreData := { assets := [asset "2" "c.png"], customPrompts := ["q"] }
    let before := (writeLocalStore none user first {}).2
    match writeLocalStore none user second before with
    | (.ok (), saved) =>
      readLocalStore user saved = .ok second.restored ∧ before.OthersKept user saved
    | (.error _, left) => left = before := by
  intro user asset first second before
  exact incremental_save_is_full_save none user second before
    ⟨by decide, by decide, by decide, by decide, by decide, by decide⟩

end ArtForgeStudio.LocalStore
