import ArtForgeStudio.Directories.Spelling
import ArtForgeStudio.LocalStore.Load

/-! # Loading a store whose directories were moved

The paths in a store are relocated when it is loaded. A store that is loaded and saved again is
one that keeps its identifiers, its selection and its prompts; only a delivered video may not
change, and so a store with a relocated video cannot be saved.
-/

namespace ArtForgeStudio.LocalStore

open ArtForgeStudio.Codecs ArtForgeStudio.Outcome ArtForgeStudio.Tables ArtForgeStudio.Directories

section Relocation

variable (remap : String → String)

def StoredAssetData.relocated (asset : StoredAssetData) : StoredAssetData :=
  { asset with
    sourcePath := remap asset.sourcePath
    referencePaths := asset.referencePaths.map remap }

def CanvasNoteData.relocated (note : CanvasNoteData) : CanvasNoteData :=
  { note with imagePath := remap note.imagePath }

def CanvasWorkspaceData.relocated (workspace : CanvasWorkspaceData) : CanvasWorkspaceData :=
  { workspace with
    notes := workspace.notes.map (CanvasNoteData.relocated remap)
    references := workspace.references.map fun reference =>
      { reference with sourcePath := remap reference.sourcePath } }

/-- `remap_profile` -/
def CustomPromptProfile.relocated (profile : CustomPromptProfile) : CustomPromptProfile :=
  { profile with
    referencePath := remap profile.referencePath
    referencePaths := profile.referencePaths.map remap }

def SavedVideoOutput.relocated (output : SavedVideoOutput) : SavedVideoOutput :=
  { output with
    sourcePath := remap output.sourcePath
    previewSourcePath := remap output.previewSourcePath }

def remapLocalStore (data : LocalStoreData) : LocalStoreData :=
  { data with
    assets := data.assets.map (StoredAssetData.relocated remap)
    generations := data.generations.map (StoredAssetData.relocated remap)
    canvasNotes := data.canvasNotes.map (CanvasNoteData.relocated remap)
    canvasWorkspaces := data.canvasWorkspaces.map fun _ => CanvasWorkspaceData.relocated remap
    customPromptProfiles := data.customPromptProfiles.map fun _ =>
      CustomPromptProfile.relocated remap
    videoOutputs := data.videoOutputs.map fun _ => SavedVideoOutput.relocated remap }

end Relocation

/-- `load_client_state_for_namespace` -/
def loadClientState (space : UserNamespace) (db : Database) :
    Except String (Option LocalStoreData) :=
  if readMeta space.userPublicId "local_store_initialized" db = some "1" then do
    let data ← readLocalStore space.userPublicId db
    pure (some (remapLocalStore space.remapText data))
  else .ok none

/-- The contents that saves of any users reach. -/
inductive Reachable : Database → Prop
  | fresh : Reachable {}
  | saved {db saved : Database} (h : Reachable db) (user : String) (data : LocalStoreData)
      (hsave : writeLocalStore none user data db = (.ok (), saved)) : Reachable saved

/-- Nothing is in the data that saving it would leave out. -/
structure LocalStoreData.Kept (data : LocalStoreData) : Prop where
  canvasNotes : ∀ note ∈ data.canvasNotes, note.selected = false
  canvasWorkspaces : ∀ (id : String) (workspace : CanvasWorkspaceData),
    data.canvasWorkspaces[id]? = some workspace → ∀ note ∈ workspace.notes, note.selected = false
  customPromptTimes : ∀ prompt : String,
    (data.customPromptTimes[prompt]?).isSome = data.customPrompts.contains prompt
  customPromptProfiles : ∀ prompt : String,
    (data.customPromptProfiles[prompt]?).isSome = data.customPrompts.contains prompt

section Kept

variable {data : LocalStoreData} {user : String} {db : Database} {remap : String → String}

theorem map_deselected {notes : List CanvasNoteData} (h : ∀ note ∈ notes, note.selected = false) :
    notes.map CanvasNoteData.deselected = notes := by
  refine (List.map_congr_left fun note hmem => ?_).trans (List.map_id notes)
  have hselected := h note hmem
  cases note
  simp_all [CanvasNoteData.deselected]

/-- A map whose keys are the saved prompts is filled from its own values. -/
theorem insertAll_of_keys {V : Type} {values : BTreeMap V} (default : V)
    (hprompts : data.customPrompts.Nodup)
    (hkeys : ∀ prompt : String, (values[prompt]?).isSome = data.customPrompts.contains prompt) :
    insertAll (data.customPrompts.map fun prompt => (prompt, (values[prompt]?).getD default)) =
      values := by
  refine Std.ExtTreeMap.ext_getElem? fun {prompt} => ?_
  rw [getElem?_insertAll_prompts _ hprompts prompt]
  have hprompt := hkeys prompt
  split
  · cases hvalue : values[prompt]? <;> simp_all
  · cases hvalue : values[prompt]? <;> simp_all

theorem LocalStoreData.Kept.restored_eq (h : data.Kept) (hprompts : data.customPrompts.Nodup) :
    data.restored = data := by
  have hworkspaces : (data.canvasWorkspaces.map fun _ workspace =>
      { workspace with notes := workspace.notes.map CanvasNoteData.deselected }) =
        data.canvasWorkspaces := by
    refine Std.ExtTreeMap.ext_getElem? fun {id} => ?_
    rw [Std.ExtTreeMap.getElem?_map]
    cases hworkspace : data.canvasWorkspaces[id]? with
    | none => rfl
    | some workspace =>
      have hnotes := map_deselected (h.canvasWorkspaces id workspace hworkspace)
      simp [hnotes]
  rw [LocalStoreData.restored, map_deselected h.canvasNotes, hworkspaces,
    insertAll_of_keys "" hprompts h.customPromptTimes,
    insertAll_of_keys {} hprompts h.customPromptProfiles]

/-- Relocation touches nothing but paths. -/
theorem LocalStoreData.Kept.relocated (h : data.Kept) : (remapLocalStore remap data).Kept where
  canvasNotes note hmem := by
    obtain ⟨old, hold, rfl⟩ := List.mem_map.mp hmem
    exact h.canvasNotes old hold
  canvasWorkspaces id workspace hworkspace := by
    obtain ⟨old, hold, rfl⟩ : ∃ old, data.canvasWorkspaces[id]? = some old ∧
        CanvasWorkspaceData.relocated remap old = workspace := by
      simpa [remapLocalStore] using hworkspace
    intro note hmem
    obtain ⟨before, hbefore, rfl⟩ := List.mem_map.mp hmem
    exact h.canvasWorkspaces id old hold before hbefore
  customPromptTimes := h.customPromptTimes
  customPromptProfiles prompt := by
    refine Eq.trans ?_ (h.customPromptProfiles prompt)
    simp [remapLocalStore]

theorem LocalStoreData.Distinct.relocated (h : data.Distinct) :
    (remapLocalStore remap data).Distinct where
  generations := by simpa [remapLocalStore, Function.comp_def, StoredAssetData.relocated] using h.generations
  assets := by simpa [remapLocalStore, Function.comp_def, StoredAssetData.relocated] using h.assets
  notifications := h.notifications
  canvasNotes := by simpa [remapLocalStore, Function.comp_def, CanvasNoteData.relocated] using h.canvasNotes
  canvasLinks := h.canvasLinks
  customPrompts := h.customPrompts

/-- What is done to every value of a map is done twice as it is done once. -/
theorem map_idempotent {V : Type} {change : V → V}
    (hchange : ∀ value, change (change value) = change value) (values : BTreeMap V) :
    (values.map fun _ => change).map (fun _ => change) = values.map fun _ => change := by
  refine Std.ExtTreeMap.ext_getElem? fun {key} => ?_
  cases hvalue : values[key]? <;> simp [hvalue, hchange]

/-- Relocating twice is relocating once. -/
theorem remapLocalStore_idempotent (hremap : ∀ value, remap (remap value) = remap value)
    (data : LocalStoreData) :
    remapLocalStore remap (remapLocalStore remap data) = remapLocalStore remap data := by
  have hasset : ∀ asset : StoredAssetData,
      (asset.relocated remap).relocated remap = asset.relocated remap := by
    simp [StoredAssetData.relocated, hremap]
  have hnote : ∀ note : CanvasNoteData,
      (note.relocated remap).relocated remap = note.relocated remap := by
    simp [CanvasNoteData.relocated, hremap]
  have hworkspace : ∀ workspace : CanvasWorkspaceData,
      (workspace.relocated remap).relocated remap = workspace.relocated remap := by
    simp [CanvasWorkspaceData.relocated, hnote, hremap]
  have hprofile : ∀ profile : CustomPromptProfile,
      (profile.relocated remap).relocated remap = profile.relocated remap := by
    simp [CustomPromptProfile.relocated, hremap]
  have houtput : ∀ output : SavedVideoOutput,
      (output.relocated remap).relocated remap = output.relocated remap := by
    simp [SavedVideoOutput.relocated, hremap]
  simp only [remapLocalStore, List.map_map, Function.comp_def, hasset, hnote,
    map_idempotent hworkspace, map_idempotent hprofile, map_idempotent houtput]

end Kept

/-- The entries of a set of delivered videos are valid, under their own keys. -/
def ValidOutputs (outputs : BTreeMap SavedVideoOutput) : Prop :=
  ∀ (key : String) (output : SavedVideoOutput), outputs[key]? = some output →
    output.validate = .ok () ∧ key = output.key

/-- The rows of a user: none, or settings that were saved together. -/
def UserSaved (user : String) (db : Database) : Prop :=
  (db.userMeta.get? (user, "local_store_initialized") = none ∧
    db.userSettings.get? (user, "video_outputs") = none) ∨
  db.userMeta.get? (user, "local_store_initialized") = some "1" ∧
    ∃ data, ValidOutputs data.videoOutputs ∧ db.SettingsOf user data

/-- Every stored profile can be read. -/
def ProfilesReadable (db : Database) : Prop :=
  ∀ key row, db.customPrompts.get? key = some row →
    ∃ profile, customPromptProfileCodec.decode row.profileJson = some profile

section Reachable

variable {user : String} {data : LocalStoreData} {db saved : Database}

theorem checkVideoOutputs_iff {previous outputs : BTreeMap SavedVideoOutput} :
    checkVideoOutputs previous outputs = .ok () ↔ ValidOutputs outputs ∧
      ∀ (key : String) (output : SavedVideoOutput), previous[key]? = some output →
        outputs[key]? = some output := by
  simp only [checkVideoOutputs, bind_eq_ok, exists_unit, forM_eq_ok, ensure_eq_ok, Prod.forall,
    Std.ExtTreeMap.mem_toList_iff_getElem?_eq_some]
  rfl

theorem writeLocalStore_iff : writeLocalStore none user data db = (.ok (), saved) ↔
    Savable user data db ∧ saved = putLocalStore user data db := by
  rw [← localStoreStatements_iff]
  unfold writeLocalStore transaction
  cases localStoreStatements user data db <;> simp

/-- Rows that are written one after the other: every row is an old one or one of the items'. -/
theorem replaceRows_forall {R V : Type} {id : R → String} {row : Nat → R → V}
    {conflict : V → V → V} {items : List R} {table : Table (String × String) V}
    (hconflict : ∀ old new, conflict old new = new) {good : V → Prop}
    (hold : ∀ key value, table.get? key = some value → good value)
    (hnew : ∀ n item, good (row n item)) (key : String × String) (value : V)
    (hget : (replaceRows user id row conflict items table).get? key = some value) : good value := by
  unfold replaceRows at hget
  generalize hstart : table.delete _ = start at hget
  have hgood : ∀ key value, start.get? key = some value → good value := by
    intro key value hvalue
    rw [← hstart, Table.get?_delete] at hvalue
    split at hvalue
    · cases hvalue
    · exact hold key value hvalue
  clear hstart
  generalize items.zipIdx = entries at hget
  induction entries generalizing start with
  | nil => exact hgood key value hget
  | cons item items ih =>
    refine ih _ (fun key value hvalue => ?_) hget
    rw [Table.get?_upsert_eq hconflict] at hvalue
    split at hvalue
    · cases hvalue
      exact hnew item.2 item.1
    · exact hgood key value hvalue

theorem Reachable.profiles (h : Reachable db) : ProfilesReadable db := by
  induction h with
  | fresh => exact fun key row hget => by cases hget
  | saved h user data hsave ih =>
    obtain ⟨-, rfl⟩ := writeLocalStore_iff.mp hsave
    refine replaceRows_forall CustomPromptRow.conflict_eq ih fun n prompt => ?_
    exact ⟨_, customPromptProfileCodec.decode_encode _⟩

theorem Reachable.userSaved (h : Reachable db) (user : String) : UserSaved user db := by
  induction h with
  | fresh => exact .inl ⟨rfl, rfl⟩
  | saved h owner data hsave ih =>
    obtain ⟨⟨-, previous, -, hcheck⟩, rfl⟩ := writeLocalStore_iff.mp hsave
    by_cases howner : user = owner
    · subst howner
      refine .inr ⟨?_, data, (checkVideoOutputs_iff.mp hcheck).1, putLocalStore_settings⟩
      exact (Table.get?_upsert_eq fun _ _ => rfl).trans (if_pos rfl)
    · have hmeta : ∀ db : Database, (putLocalStore owner data db).userMeta.get?
          (user, "local_store_initialized") = db.userMeta.get? (user, "local_store_initialized") :=
        fun db => Table.get?_upsert.trans (if_neg (by simp [howner]))
      have hsettings : ∀ (db : Database) (key : String), (putLocalStore owner data db).userSettings.get?
          (user, key) = db.userSettings.get? (user, key) := fun db key =>
        (get?_putSettings (allSettings_keys data) _ user key).trans (if_neg howner)
      unfold UserSaved Database.SettingsOf at ih ⊢
      simp only [hmeta, hsettings]
      exact ih

theorem readRows_nodup {V : Type} {position : V → Nat} {table : Table (String × String) V} :
    ((readRows user position table).map fun row => row.1.2).Nodup := by
  refine Table.select_names Prod.snd fun a b ha hb hname => Prod.ext ?_ hname
  rw [of_decide_eq_true ha, of_decide_eq_true hb]

theorem readAssets_nodup (collection : String) :
    ((readAssets user collection db).map (·.id)).Nodup := by
  rw [readAssets, List.map_map]
  refine Table.select_names (fun key : AssetKey => key.2.2) fun a b ha hb hname => ?_
  simp only [Bool.and_eq_true, decide_eq_true_eq] at ha hb
  exact Prod.ext (ha.1.trans hb.1.symm) (Prod.ext (ha.2.trans hb.2.symm) hname)

theorem mapM_readCustomPrompt {rows : List ((String × String) × CustomPromptRow)}
    (hrows : ∀ row ∈ rows, ∃ profile,
      customPromptProfileCodec.decode row.2.profileJson = some profile) :
    ∃ prompts, rows.mapM readCustomPrompt = .ok prompts ∧
      prompts.map (·.1) = rows.map fun row => row.1.2 := by
  induction rows with
  | nil => exact ⟨[], rfl, rfl⟩
  | cons row rows ih =>
    obtain ⟨profile, hprofile⟩ := hrows row List.mem_cons_self
    obtain ⟨prompts, hprompts, hnames⟩ := ih fun other hmem => hrows other (List.mem_cons_of_mem _ hmem)
    have hrow : readCustomPrompt row = .ok (row.1.2, row.2.createdAt, profile) := by
      rw [readCustomPrompt, hprofile]
    refine ⟨(row.1.2, row.2.createdAt, profile) :: prompts, ?_, ?_⟩
    · rw [List.mapM_cons, hrow, hprompts]
      rfl
    · rw [List.map_cons, List.map_cons, hnames]

theorem readCustomPrompts_ok (hprofiles : ProfilesReadable db) :
    ∃ rows, readCustomPrompts user db = .ok rows ∧ (rows.map (·.1)).Nodup := by
  obtain ⟨rows, hrows, hnames⟩ := @mapM_readCustomPrompt
    (readRows user CustomPromptRow.position db.customPrompts) fun row hmem =>
      hprofiles row.1 row.2 (Table.mem_select.mp hmem).2
  refine ⟨rows, hrows, ?_⟩
  rw [hnames]
  exact readRows_nodup

theorem lookup_isSome {V : Type} (entries : List (String × V)) (key : String) :
    (entries.lookup key).isSome = (entries.map Prod.fst).contains key := by
  induction entries with
  | nil => rfl
  | cons entry entries ih =>
    rw [lookup_cons_eq, List.map_cons, List.contains_cons]
    by_cases h : key = entry.1 <;> simp [h, ih]

/-- The keys of a map that is filled from distinct prompts are the prompts. -/
theorem isSome_insertAll {R V : Type} {name : R → String} {rows : List R}
    (hnames : (rows.map name).Nodup) (value : R → V) (prompt : String) :
    ((insertAll (rows.map fun row => (name row, value row)))[prompt]?).isSome =
      (rows.map name).contains prompt := by
  have hkeys : (rows.map fun row => (name row, value row)).map Prod.fst = rows.map name := by
    simp [Function.comp_def]
  rw [getElem?_insertAll (by rw [hkeys]; exact hnames), lookup_isSome, hkeys]

/-- The store of a user who saved one can be loaded. -/
theorem readLocalStore_ok (hsettings : db.SettingsOf user data) (hprofiles : ProfilesReadable db) :
    ∃ loaded, readLocalStore user db = .ok loaded ∧ loaded.Kept ∧ loaded.Distinct ∧
      loaded.videoOutputs = data.videoOutputs := by
  obtain ⟨rows, hrows, hprompts⟩ := @readCustomPrompts_ok user db hprofiles
  refine ⟨_, readLocalStore_of hsettings hrows, ⟨?_, ?_, ?_, ?_⟩,
    ⟨readAssets_nodup "generation", readAssets_nodup "asset", ?_, ?_, ?_, hprompts⟩, rfl⟩
  · intro note hnote
    obtain ⟨row, -, rfl⟩ := List.mem_map.mp hnote
    rfl
  · intro id workspace hworkspace
    obtain ⟨old, -, rfl⟩ : ∃ old, data.canvasWorkspaces[id]? = some old ∧
        { old with notes := old.notes.map CanvasNoteData.deselected } = workspace := by
      simpa [LocalStoreData.restored] using hworkspace
    intro note hnote
    obtain ⟨before, -, rfl⟩ := List.mem_map.mp hnote
    rfl
  · exact isSome_insertAll hprompts fun row => row.2.1
  · exact isSome_insertAll hprompts fun row => row.2.2
  · dsimp only
    rw [readNotifications, List.map_map]
    exact readRows_nodup
  · dsimp only
    rw [readCanvasNodes, List.map_map]
    exact readRows_nodup
  · dsimp only
    rw [readCanvasLinks, List.map_map]
    exact readRows_nodup

end Reachable

/-- What is loaded, if anything is, can be saved as it is and is then loaded again. -/
def SavedAgain (space : UserNamespace) (db : Database) : Prop :=
  ∃ loaded, loadClientState space db = .ok loaded ∧ ∀ data ∈ loaded, ∃ saved,
    writeLocalStore none space.userPublicId data db = (.ok (), saved) ∧
      loadClientState space saved = .ok (some data)

/-- The delivered videos that a user has stored. -/
def storedVideos (user : String) (db : Database) : BTreeMap SavedVideoOutput :=
  match readSettingJsonOrDefault user "video_outputs" videoOutputsCodec ∅ db with
  | .ok outputs => outputs
  | .error _ => ∅

section Again

variable {parsesAsUuid : String → Bool} {space : UserNamespace} {data : LocalStoreData}
  {db : Database}

theorem userPublicId_length (hspace : space.Accepted parsesAsUuid) :
    space.userPublicId.length = 36 := by
  have huser := hspace.spelled.1
  simp only [Api.canonicalUuid, Bool.and_eq_true, beq_iff_eq] at huser
  exact huser.1

theorem loadClientState_of (hmeta : db.userMeta.get?
      (space.userPublicId, "local_store_initialized") = some "1")
    (hread : readLocalStore space.userPublicId db = .ok data) :
    loadClientState space db = .ok (some (remapLocalStore space.remapText data)) := by
  rw [loadClientState, readMeta, if_pos hmeta, hread]
  rfl

/-- A loaded store is loaded as it is once it was saved. -/
theorem loadClientState_put (hspace : space.Accepted parsesAsUuid) (hkept : data.Kept)
    (hids : data.Distinct) :
    loadClientState space (putLocalStore space.userPublicId (remapLocalStore space.remapText data) db) =
      .ok (some (remapLocalStore space.remapText data)) := by
  have hread := @readLocalStore_put space.userPublicId (remapLocalStore space.remapText data) db
    hids.relocated
  rw [hkept.relocated.restored_eq hids.relocated.customPrompts] at hread
  refine (loadClientState_of ?_ hread).trans ?_
  · exact (Table.get?_upsert_eq fun _ _ => rfl).trans (if_pos rfl)
  · rw [remapLocalStore_idempotent (remapText_idempotent hspace)]

/-- Only the delivered videos decide: none of them may be relocated. -/
theorem savedAgain_of_settings (hspace : space.Accepted parsesAsUuid)
    (hmeta : db.userMeta.get? (space.userPublicId, "local_store_initialized") = some "1")
    (hsettings : db.SettingsOf space.userPublicId data) (hvalid : ValidOutputs data.videoOutputs)
    (hprofiles : ProfilesReadable db) :
    SavedAgain space db ↔ ∀ (key : String) (output : SavedVideoOutput),
      data.videoOutputs[key]? = some output → output.relocated space.remapText = output := by
  obtain ⟨loaded, hread, hkept, hids, hvideos⟩ := readLocalStore_ok hsettings hprofiles
  have hload := loadClientState_of hmeta hread
  have hprevious : readSettingJsonOrDefault space.userPublicId "video_outputs" videoOutputsCodec ∅
      db = .ok data.videoOutputs := by
    rw [readSetting_of hsettings data.videoOutputs (by simp [LocalStoreData.allSettings])]
    simp
  have hrelocated : ∀ key : String,
      (remapLocalStore space.remapText loaded).videoOutputs[key]? =
        (data.videoOutputs[key]?).map (SavedVideoOutput.relocated space.remapText) := by
    intro key
    rw [← hvideos]
    simp [remapLocalStore]
  constructor
  · rintro ⟨found, hfound, hsaved⟩ key output houtput
    rw [hload] at hfound
    cases hfound
    obtain ⟨saved, hsave, -⟩ := hsaved _ rfl
    obtain ⟨⟨-, previous, hold, hcheck⟩, -⟩ := writeLocalStore_iff.mp hsave
    rw [hprevious] at hold
    cases hold
    have hkept := (checkVideoOutputs_iff.mp hcheck).2 key output houtput
    rw [hrelocated, houtput] at hkept
    exact Option.some.inj hkept
  · intro hstays
    have hsame : (remapLocalStore space.remapText loaded).videoOutputs = data.videoOutputs := by
      refine Std.ExtTreeMap.ext_getElem? fun {key} => ?_
      rw [hrelocated]
      cases houtput : data.videoOutputs[key]? with
      | none => rfl
      | some output => rw [Option.map_some, hstays key output houtput]
    refine ⟨_, hload, fun data hdata => ?_⟩
    cases hdata
    refine ⟨_, writeLocalStore_iff.mpr ⟨⟨userPublicId_length hspace, _, hprevious, ?_⟩, rfl⟩,
      loadClientState_put hspace hkept hids⟩
    rw [hsame]
    exact checkVideoOutputs_iff.mpr ⟨hvalid, fun _ _ houtput => houtput⟩

theorem storedVideos_of {user : String} (hsettings : db.SettingsOf user data) :
    storedVideos user db = data.videoOutputs := by
  rw [storedVideos, readSetting_of hsettings data.videoOutputs
    (by simp [LocalStoreData.allSettings])]
  simp

theorem relocated_eq_self_iff (hspace : space.Accepted parsesAsUuid) {output : SavedVideoOutput} :
    output.relocated space.remapText = output ↔
      space.displaced output.sourcePath = false ∧
        space.displaced output.previewSourcePath = false := by
  rw [← remapText_eq_self_iff hspace, ← remapText_eq_self_iff hspace]
  cases output
  simp [SavedVideoOutput.relocated, and_comm]

/-- A store that was loaded can be saved again exactly if no delivered video lies, or has its
preview, in a directory that was moved away. -/
theorem loaded_store_saves_iff (parsesAsUuid : String → Bool) (space : UserNamespace)
    (db : Database) (hspace : space.Accepted parsesAsUuid) (hdb : Reachable db) :
    SavedAgain space db ↔ ∀ (key : String) (output : SavedVideoOutput),
      (storedVideos space.userPublicId db)[key]? = some output →
        space.displaced output.sourcePath = false ∧
          space.displaced output.previewSourcePath = false := by
  rcases hdb.userSaved space.userPublicId with ⟨hmeta, hvideos⟩ | ⟨hmeta, data, hvalid, hsettings⟩
  · have hnone : storedVideos space.userPublicId db = ∅ := by
      rw [storedVideos, readSettingJsonOrDefault, hvideos]
    have hload : loadClientState space db = .ok none := by
      rw [loadClientState, readMeta, hmeta]
      rfl
    refine ⟨fun _ key output houtput => ?_, fun _ => ⟨none, hload, fun data hdata => by cases hdata⟩⟩
    rw [hnone] at houtput
    simp at houtput
  · rw [storedVideos_of hsettings, savedAgain_of_settings hspace hmeta hsettings hvalid hdb.profiles]
    simp only [relocated_eq_self_iff hspace]

end Again

/-- A delivered video that was made from the image under the path. -/
def deliveredVideo (previewSourcePath : String) : SavedVideoOutput where
  clientRequestId := "request"
  serverTaskId := "11111111-1111-4111-8111-111111111111"
  fileId := "22222222-2222-4222-8222-222222222222"
  billingAccountGroupId := "33333333-3333-4333-8333-333333333333"
  sha256 := "0000000000000000000000000000000000000000000000000000000000000000"
  sizeBytes := 1
  sourcePath :=
    "/data/accounts/00000000-0000-4000-8000-000000000001/videos/22222222-2222-4222-8222-222222222222.mp4"
  previewSourcePath := previewSourcePath
  title := ""
  createdAt := ""

def deliveredStore (previewSourcePath : String) : LocalStoreData :=
  { videoOutputs := (∅ : BTreeMap SavedVideoOutput).insert (deliveredVideo previewSourcePath).key
      (deliveredVideo previewSourcePath) }

theorem deliveredStore_getElem? {previewSourcePath key : String} {output : SavedVideoOutput} :
    (deliveredStore previewSourcePath).videoOutputs[key]? = some output ↔
      key = (deliveredVideo previewSourcePath).key ∧ deliveredVideo previewSourcePath = output := by
  refine (Eq.congr_left (insert_view ∅ ((deliveredVideo previewSourcePath).key,
    deliveredVideo previewSourcePath) key)).trans ?_
  split <;> simp_all

theorem deliveredStore_valid (previewSourcePath : String) :
    ValidOutputs (deliveredStore previewSourcePath).videoOutputs := by
  intro key output houtput
  obtain ⟨rfl, rfl⟩ := deliveredStore_getElem?.mp houtput
  refine ⟨?_, rfl⟩
  have hrequest : Api.trimIsEmpty "request" = false := by decide
  have hdigest : ("0000000000000000000000000000000000000000000000000000000000000000".toList.length
      = 64 && "0000000000000000000000000000000000000000000000000000000000000000".toList.all
        isHexDigit) = true := by decide
  have hids : ∀ id ∈ ["11111111-1111-4111-8111-111111111111",
      "22222222-2222-4222-8222-222222222222", "33333333-3333-4333-8333-333333333333"],
      Api.canonicalUuid id = true := by decide
  simp only [SavedVideoOutput.validate, bind_eq_ok, exists_unit, forM_eq_ok, ensure_eq_ok]
  exact ⟨by simp [deliveredVideo, hrequest], hids, hdigest⟩

theorem deliveredStore_reachable {user : String} (huser : user.length = 36)
    (previewSourcePath : String) :
    Reachable (putLocalStore user (deliveredStore previewSourcePath) {}) :=
  .saved .fresh user (deliveredStore previewSourcePath) (writeLocalStore_iff.mpr
    ⟨⟨huser, ∅, rfl, checkVideoOutputs_iff.mpr ⟨deliveredStore_valid _, by simp⟩⟩, rfl⟩)

theorem movedOutput_accepted : movedOutput.Accepted Api.canonicalUuid :=
  ⟨["data"], movedOutput.userPublicId, movedOutput.mappings, by decide, rfl⟩

theorem deliveredVideo_placed (previewSourcePath : String) :
    movedOutput.displaced (deliveredVideo previewSourcePath).sourcePath = false := by
  change movedOutput.displaced (deliveredVideo "").sourcePath = false
  decide +kernel

/-- The image that a video was made from lies in the new directory of the output. -/
theorem loaded_store_saves_iff_videos :
    SavedAgain movedOutput (putLocalStore movedOutput.userPublicId
      (deliveredStore "/disk/out/image.png") {}) := by
  have hpreview : movedOutput.displaced "/disk/out/image.png" = false := by decide +kernel
  refine (loaded_store_saves_iff Api.canonicalUuid movedOutput _ movedOutput_accepted
    (deliveredStore_reachable (by decide) _)).mpr fun key output houtput => ?_
  rw [storedVideos_of putLocalStore_settings] at houtput
  obtain ⟨-, rfl⟩ := deliveredStore_getElem?.mp houtput
  exact ⟨deliveredVideo_placed _, hpreview⟩

/-- A video in its directory that was made from an image in the former directory of the output:
the store that is loaded is refused. -/
theorem relocated_video_is_refused : ∃ (space : UserNamespace) (db : Database),
    space.Accepted Api.canonicalUuid ∧ Reachable db ∧ ¬SavedAgain space db := by
  let path := "/data/accounts/00000000-0000-4000-8000-000000000001/out/image.png"
  have hreachable : Reachable (putLocalStore movedOutput.userPublicId (deliveredStore path) {}) :=
    deliveredStore_reachable (by decide) path
  have hdisplaced : movedOutput.displaced path = true := by decide +kernel
  refine ⟨movedOutput, _, movedOutput_accepted, hreachable, fun hsaved => ?_⟩
  have hstays := (savedAgain_of_settings movedOutput_accepted
    ((Table.get?_upsert_eq fun _ _ => rfl).trans (if_pos rfl)) putLocalStore_settings
    (deliveredStore_valid path) hreachable.profiles).mp hsaved (deliveredVideo path).key
    (deliveredVideo path) (deliveredStore_getElem?.mpr ⟨rfl, rfl⟩)
  have hplaced := ((relocated_eq_self_iff movedOutput_accepted).mp hstays).2
  rw [show (deliveredVideo path).previewSourcePath = path from rfl, hdisplaced] at hplaced
  cases hplaced

end ArtForgeStudio.LocalStore
