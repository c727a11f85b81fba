import ArtForgeStudio.Canvas.Workspaces
import ArtForgeStudio.LocalStore.Load
import ArtForgeStudio.Library.Runs

/-! # Canvas workspaces across switches and restarts

The active workspace stands in the store's own fields and, since it was last put away, in the map;
its prompt is in the interface only. A ledger keeps what was last written to every workspace,
and the session is compared with it after every step.
-/

namespace ArtForgeStudio.Canvas

open ArtForgeStudio.Api ArtForgeStudio.Codecs ArtForgeStudio.LocalStore ArtForgeStudio.Runs

/-- What is saved: `rest` stands for all that is not of the canvas. -/
def localStoreData (rest : LocalStoreData) (store : Store) (canvasWorkflowPrompt : String) :
    LocalStoreData :=
  let activeCanvasWorkspaceId := normalizeCanvasWorkspaceId store.activeCanvasWorkspaceId
  { rest with
    canvasNotes := store.canvasNotes
    canvasLinks := store.canvasLinks
    activeCanvasWorkspaceId := activeCanvasWorkspaceId
    canvasWorkspaces := (normalizeCanvasWorkspacePrompts store.canvasWorkspaces).insert
      activeCanvasWorkspaceId
      { notes := store.canvasNotes, links := store.canvasLinks
        prompt := normalizeCanvasWorkflowPrompt canvasWorkflowPrompt
        references := store.canvasReferences } }

def assetFromStoredPreserved (asset : StoredAssetData) : AssetData :=
  { id := asset.id, sourcePath := asset.sourcePath, category := asset.category
    origin := asset.origin, conversationId := asset.conversationId, model := asset.model }

def preparePrivateStore (data : LocalStoreData) : Store :=
  let activeCanvasWorkspaceId := normalizeCanvasWorkspaceId data.activeCanvasWorkspaceId
  let canvasWorkspaces := normalizeCanvasWorkspacePrompts data.canvasWorkspaces
  let canvasNotes := fitGroupsToChildren (normalizeCanvasGroups data.canvasNotes)
  let active := (canvasWorkspaces[activeCanvasWorkspaceId]?).getD {}
  { activeCanvasWorkspaceId := activeCanvasWorkspaceId
    canvasNotes := canvasNotes
    canvasLinks := data.canvasLinks
    canvasReferences := active.references
    canvasWorkspaces := canvasWorkspaces.insert activeCanvasWorkspaceId
      { notes := canvasNotes, links := data.canvasLinks, prompt := active.prompt
        references := active.references }
    assets := data.assets.map assetFromStoredPreserved
    generations := data.generations.map assetFromStoredPreserved }

/-- The store, the prompt in the interface and the data that was saved last. -/
structure CanvasSession where
  store : Store := {}
  canvasWorkflowPrompt : String := ""
  saved : LocalStoreData := {}

/-- A restart signs the user out, which empties the interface, and activates the saved data. The
activation publishes no prompt. -/
def CanvasSession.restart (session : CanvasSession) : CanvasSession :=
  { session with store := preparePrivateStore session.saved.restored, canvasWorkflowPrompt := "" }

inductive Action where
  | edit (workspace : CanvasWorkspaceData)
  | editAssets (assets generations : List AssetData)
  | switch (targetWorkspaceId : String)
  | deliver (prepared : PreparedNamespaceDelivery) (loadingNodeId linkId : String)
  | save (rest : LocalStoreData)
  | restart

def CanvasSession.step : Action → CanvasSession → CanvasSession
  | .edit workspace, session =>
    { session with
      store := { session.store with
        canvasNotes := workspace.notes
        canvasLinks := workspace.links
        canvasReferences := workspace.references }
      canvasWorkflowPrompt := workspace.prompt }
  | .editAssets assets generations, session =>
    { session with store := { session.store with assets := assets, generations := generations } }
  | .switch targetWorkspaceId, session =>
    let switched := switchCanvasWorkspace session.store session.canvasWorkflowPrompt targetWorkspaceId
    { session with store := switched.2, canvasWorkflowPrompt := switched.1 }
  | .deliver prepared loadingNodeId linkId, session =>
    match stageCanvasNamespaceDelivery session.store prepared loadingNodeId linkId with
    | .ok (_, store) => { session with store := store }
    | .error _ => session
  | .save rest, session =>
    { session with saved := localStoreData rest session.store session.canvasWorkflowPrompt }
  | .restart, session => session.restart

def Store.content (store : Store) (canvasWorkflowPrompt workspaceId : String) :
    CanvasWorkspaceData :=
  if workspaceId = normalizeCanvasWorkspaceId store.activeCanvasWorkspaceId then
    { notes := store.canvasNotes, links := store.canvasLinks, prompt := canvasWorkflowPrompt
      references := store.canvasReferences }
  else (store.canvasWorkspaces[workspaceId]?).getD {}

def CanvasSession.content (session : CanvasSession) (workspaceId : String) : CanvasWorkspaceData :=
  session.store.content session.canvasWorkflowPrompt workspaceId

def savedContent (data : LocalStoreData) (workspaceId : String) : CanvasWorkspaceData :=
  let workspace := (data.canvasWorkspaces[workspaceId]?).getD {}
  if workspaceId = normalizeCanvasWorkspaceId data.activeCanvasWorkspaceId then
    { workspace with notes := data.canvasNotes, links := data.canvasLinks }
  else workspace

/-- The active workspace and what was last written to each. -/
structure Contents where
  active : String := defaultCanvasWorkspaceId
  content : String → CanvasWorkspaceData := fun _ => {}

def Contents.write (contents : Contents) (workspaceId : String) (workspace : CanvasWorkspaceData) :
    Contents :=
  { contents with content := Function.update contents.content workspaceId workspace }

theorem Contents.content_write (contents : Contents) (workspaceId other : String)
    (workspace : CanvasWorkspaceData) : (contents.write workspaceId workspace).content other =
      if other = workspaceId then workspace else contents.content other :=
  Function.update_apply ..

/-- A session with what was last written, and what was last written when it was saved. -/
structure Ledger where
  session : CanvasSession
  current : Contents
  saved : Contents

/-- The containment of the notes is normalized, and the groups take in their children. -/
def refit (workspace : CanvasWorkspaceData) : CanvasWorkspaceData :=
  { workspace with notes := fitGroupsToChildren (normalizeCanvasGroups workspace.notes) }

/-- What a step writes: an edit the active workspace, a delivery the one of its source if it
changes anything there, and a restart all of them. A switch and a save write nothing. -/
def Ledger.step (action : Action) (ledger : Ledger) : Ledger :=
  let session := ledger.session.step action
  match action with
  | .edit workspace =>
    { ledger with
      session := session
      current := ledger.current.write ledger.current.active workspace }
  | .editAssets _ _ => { ledger with session := session }
  | .switch targetWorkspaceId =>
    { ledger with
      session := session
      current := { ledger.current with active := normalizeCanvasWorkspaceId targetWorkspaceId } }
  | .deliver prepared _ _ =>
    match deliveryTarget ledger.session.store prepared.canvasSourceNodeId with
    | .ok target =>
      let canvas := session.store.canvas target
      if canvas = ledger.session.store.canvas target then { ledger with session := session }
      else
        { ledger with
          session := session
          current := ledger.current.write target
            { ledger.current.content target with notes := canvas.1, links := canvas.2 } }
    | .error _ => { ledger with session := session }
  | .save _ => { ledger with session := session, saved := ledger.current }
  | .restart =>
    { ledger with
      session := session
      current := ledger.saved.write ledger.saved.active
        (refit (ledger.saved.content ledger.saved.active)) }

section Selection

variable {notes : List CanvasNoteData}

@[simp] theorem clearSelection_clearSelection (notes : List CanvasNoteData) :
    clearSelection (clearSelection notes) = clearSelection notes := by
  simp [clearSelection]

theorem filter_clearSelection (p : CanvasNoteData → Bool)
    (hp : ∀ note : CanvasNoteData, p { note with selected := false } = p note) :
    (clearSelection notes).filter p = clearSelection (notes.filter p) := by
  rw [clearSelection, clearSelection, List.filter_map]
  congr 1
  apply List.filter_congr
  intro note _
  exact hp note

theorem updateFirst_clearSelection (p : CanvasNoteData → Bool)
    (change : CanvasNoteData → CanvasNoteData)
    (hp : ∀ note : CanvasNoteData, p { note with selected := false } = p note)
    (hchange : ∀ note : CanvasNoteData,
      change { note with selected := false } = { change note with selected := false }) :
    updateFirst p change (clearSelection notes) = clearSelection (updateFirst p change notes) := by
  induction notes with
  | nil => rfl
  | cons note notes ih =>
    simp only [clearSelection, List.map_cons, updateFirst] at ih ⊢
    by_cases h : p note = true
    · simp [hp, h, hchange]
    · simp [hp, h, ih]

theorem selectionBounds_clearSelection (ids : Finset String) :
    selectionBounds (clearSelection notes) ids = selectionBounds notes ids := by
  rw [selectionBounds, selectionBounds, filter_clearSelection _ fun _ => rfl]
  cases notes.filter (·.id ∈ ids) with
  | nil => rfl
  | cons first selected => simp [clearSelection, List.foldl_map]

theorem parentOf_clearSelection : parentOf (clearSelection notes) = parentOf notes := by
  funext id
  simp [parentOf, clearSelection, Function.comp_def]

theorem groupDepth_clearSelection (groupId : String) :
    groupDepth (clearSelection notes) groupId = groupDepth notes groupId := by
  have hlength : (clearSelection notes).length = notes.length := List.length_map _
  rw [groupDepth, groupDepth, parentOf_clearSelection, hlength]

theorem map_filter_clearSelection {B : Type} (notes : List CanvasNoteData)
    (p : CanvasNoteData → Bool) (field : CanvasNoteData → B)
    (hp : ∀ note : CanvasNoteData, p { note with selected := false } = p note)
    (hfield : ∀ note : CanvasNoteData, field { note with selected := false } = field note) :
    ((clearSelection notes).filter p).map field = (notes.filter p).map field := by
  rw [filter_clearSelection p hp, clearSelection, List.map_map]
  apply List.map_congr_left
  intro note _
  exact hfield note

theorem fitGroup_clearSelection (groupId : String) :
    fitGroup (clearSelection notes) groupId = clearSelection (fitGroup notes groupId) := by
  have hids := map_filter_clearSelection notes (·.parentGroupId = groupId) (·.id)
    (fun _ => rfl) (fun _ => rfl)
  rw [fitGroup, fitGroup, hids, selectionBounds_clearSelection]
  split
  · rfl
  · apply updateFirst_clearSelection
    · intro note
      rfl
    · intro note
      rfl

theorem fitGroupsToChildren_clearSelection :
    fitGroupsToChildren (clearSelection notes) = clearSelection (fitGroupsToChildren notes) := by
  have hgroups := map_filter_clearSelection notes (·.kind = "group")
    (fun note => (note.id, groupDepth notes note.id)) (fun _ => rfl) (fun _ => rfl)
  rw [fitGroupsToChildren, fitGroupsToChildren]
  simp only [groupDepth_clearSelection, hgroups]
  generalize List.mergeSort _ _ = groups
  clear hgroups
  induction groups generalizing notes with
  | nil => rfl
  | cons group groups ih => rw [List.foldl_cons, List.foldl_cons, fitGroup_clearSelection, ih]

theorem map_clearSelection (change : CanvasNoteData → CanvasNoteData)
    (hchange : ∀ note : CanvasNoteData,
      change { note with selected := false } = { change note with selected := false }) :
    (clearSelection notes).map change = clearSelection (notes.map change) := by
  rw [clearSelection, clearSelection, List.map_map, List.map_map]
  apply List.map_congr_left
  intro note _
  exact hchange note

theorem normalizeCanvasGroups_clearSelection :
    normalizeCanvasGroups (clearSelection notes) = clearSelection (normalizeCanvasGroups notes) := by
  have hids := map_filter_clearSelection notes (·.kind = "group") (·.id)
    (fun _ => rfl) (fun _ => rfl)
  rw [normalizeCanvasGroups, normalizeCanvasGroups, hids, map_clearSelection,
    parentOf_clearSelection, map_clearSelection]
  · simp only [clearSelection, List.length_map]
  · intro note
    dsimp only
    split <;> rfl
  · intro note
    dsimp only
    split <;> rfl

end Selection

theorem splitOnP_free {A : Type} {p : A → Bool} {items part : List A}
    (hpart : part ∈ items.splitOnP p) : ∀ item ∈ part, p item = false := by
  induction items generalizing part with
  | nil => simp_all
  | cons first items ih =>
    rw [List.splitOnP_cons_eq_if_modifyHead] at hpart
    by_cases hfirst : p first = true
    · rw [if_pos hfirst, List.mem_cons] at hpart
      rcases hpart with rfl | hpart
      · simp
      · exact ih hpart
    · rw [if_neg hfirst] at hpart
      cases hrest : items.splitOnP p with
      | nil => simp [hrest] at hpart
      | cons head rest =>
        rw [hrest, List.modifyHead_cons, List.mem_cons] at hpart
        rcases hpart with rfl | hpart
        · intro item hitem
          rcases List.mem_cons.1 hitem with rfl | hitem
          · simpa using hfirst
          · exact ih (hrest ▸ List.mem_cons_self) item hitem
        · exact ih (hrest ▸ List.mem_cons_of_mem _ hpart)

theorem intercalate_free {p : Char → Bool} {separator : String} {lines : List String}
    (hseparator : ∀ c ∈ separator.toList, p c = false)
    (hlines : ∀ line ∈ lines, ∀ c ∈ line.toList, p c = false) :
    ∀ c ∈ (separator.intercalate lines).toList, p c = false := by
  induction lines with
  | nil => simp
  | cons line lines ih =>
    have hline := hlines line List.mem_cons_self
    have hrest := ih fun line hline => hlines line (List.mem_cons_of_mem _ hline)
    by_cases hlast : lines = []
    · subst hlast
      simpa using hline
    · rw [String.intercalate_cons_of_ne_nil hlast]
      intro c hc
      simp only [String.toList_append, List.mem_append] at hc
      rcases hc with (hc | hc) | hc
      · exact hline c hc
      · exact hseparator c hc
      · exact hrest c hc

@[simp] theorem normalizeCanvasWorkflowPrompt_idem (prompt : String) :
    normalizeCanvasWorkflowPrompt (normalizeCanvasWorkflowPrompt prompt) =
      normalizeCanvasWorkflowPrompt prompt := by
  have hfree : ∀ c ∈ (normalizeCanvasWorkflowPrompt prompt).toList, isLineBreak c = false := by
    unfold normalizeCanvasWorkflowPrompt
    split
    · next hnone =>
      intro c hc
      simp only [Bool.not_eq_true', List.any_eq_false] at hnone
      simpa using hnone c hc
    · have hspace : ∀ c ∈ " ".toList, isLineBreak c = false := by
        intro c hc
        obtain rfl : c = ' ' := by simpa using hc
        rfl
      apply intercalate_free hspace
      intro line hline c hc
      obtain ⟨part, hpart, rfl⟩ := List.mem_map.1 (List.mem_filter.1 hline).1
      apply splitOnP_free hpart
      rw [trim_toList, String.toList_ofList] at hc
      exact (List.dropWhile_sublist _).subset ((List.rdropWhile_prefix _ _).subset hc)
  have hnone : (normalizeCanvasWorkflowPrompt prompt).toList.any isLineBreak = false := by
    simpa using hfree
  rw [normalizeCanvasWorkflowPrompt, hnone]
  rfl

theorem normalizeCanvasWorkflowPrompt_empty : normalizeCanvasWorkflowPrompt "" = "" := rfl

/-- The same but for the selection and the line breaks in the prompt. -/
def Same (workspace other : CanvasWorkspaceData) : Prop :=
  CanvasWorkspaceData.opened workspace = CanvasWorkspaceData.opened other

section Contents

variable {store : Store} {prompt target id : String} {data : LocalStoreData}
  {workspace other third : CanvasWorkspaceData}

theorem same_iff : Same workspace other ↔
    clearSelection workspace.notes = clearSelection other.notes ∧ workspace.links = other.links ∧
    normalizeCanvasWorkflowPrompt workspace.prompt = normalizeCanvasWorkflowPrompt other.prompt ∧
    workspace.references = other.references := by
  simp [Same, CanvasWorkspaceData.opened]

theorem Same.refl (workspace : CanvasWorkspaceData) : Same workspace workspace := rfl

theorem Same.trans (h : Same workspace other) (h' : Same other third) : Same workspace third :=
  Eq.trans h h'

theorem same_opened (workspace : CanvasWorkspaceData) :
    Same (CanvasWorkspaceData.opened workspace) workspace := by
  simp [same_iff, CanvasWorkspaceData.opened]

/-- What refitting leaves of a workspace does not depend on the selection. -/
theorem Same.refit (h : Same workspace other) : Same (refit workspace) (refit other) := by
  have hrefit : ∀ notes : List CanvasNoteData,
      clearSelection (fitGroupsToChildren (normalizeCanvasGroups notes)) =
        fitGroupsToChildren (normalizeCanvasGroups (clearSelection notes)) := by
    intro notes
    rw [normalizeCanvasGroups_clearSelection, fitGroupsToChildren_clearSelection]
  rw [same_iff] at h ⊢
  simp only [Canvas.refit, hrefit, h, and_self]

theorem getElem?_normalizeCanvasWorkspacePrompts (workspaces : BTreeMap CanvasWorkspaceData) :
    (normalizeCanvasWorkspacePrompts workspaces)[id]? = workspaces[id]?.map fun workspace =>
      { workspace with prompt := normalizeCanvasWorkflowPrompt workspace.prompt } := by
  rw [normalizeCanvasWorkspacePrompts, Std.ExtTreeMap.getElem?_map]

theorem same_savedWorkspaces :
    Same (((store.savedWorkspaces prompt)[id]?).getD {}) (store.content prompt id) := by
  rw [Store.savedWorkspaces, Store.content, Std.ExtTreeMap.getElem?_insert]
  by_cases hactive : id = normalizeCanvasWorkspaceId store.activeCanvasWorkspaceId
  · simp [hactive, same_iff]
  · simp [hactive, Ne.symm hactive, Same.refl]

/-- A switch changes no workspace. -/
theorem same_content_switch :
    Same ((switchCanvasWorkspace store prompt target).2.content
      (switchCanvasWorkspace store prompt target).1 id) (store.content prompt id) := by
  apply Same.trans _ same_savedWorkspaces
  rw [switchCanvasWorkspace, Store.content]
  dsimp only
  rw [normalizeCanvasWorkspaceId_idem]
  by_cases htarget : id = normalizeCanvasWorkspaceId target
  · rw [if_pos htarget, htarget]
    exact same_opened _
  · rw [if_neg htarget, Std.ExtTreeMap.getElem?_insert]
    simp [Ne.symm htarget, Same.refl]

theorem content_canvas (prompt : String) :
    store.canvas id = ((store.content prompt id).notes, (store.content prompt id).links) := by
  unfold Store.canvas Store.content
  split <;> rfl

theorem CanvasSession.canvas_eq (session : CanvasSession) (id : String) :
    session.store.canvas id = ((session.content id).notes, (session.content id).links) :=
  content_canvas session.canvasWorkflowPrompt

theorem content_withAssets (assets generations : List AssetData) :
    ({ store with assets := assets, generations := generations } : Store).content prompt id =
      store.content prompt id := by
  rw [Store.content, Store.content]

theorem content_setCanvas {notes : List CanvasNoteData} {links : List CanvasLinkData} :
    (store.setCanvas target notes links).content prompt id =
      if id = target then { store.content prompt id with notes := notes, links := links }
      else store.content prompt id := by
  unfold Store.setCanvas Store.content
  by_cases htarget : target = normalizeCanvasWorkspaceId store.activeCanvasWorkspaceId
  · rw [if_pos htarget]
    by_cases hid : id = target
    · simp [hid, htarget]
    · have hother : id ≠ normalizeCanvasWorkspaceId store.activeCanvasWorkspaceId := htarget ▸ hid
      simp [hid, hother]
  · rw [if_neg htarget]
    by_cases hid : id = target
    · simp [hid, htarget]
    · simp [hid, Std.ExtTreeMap.getElem?_insert, Ne.symm hid]

/-- Where a delivery puts its result, and all that it leaves. -/
structure Delivered (session next : CanvasSession) (target : String) : Prop where
  saved : next.saved = session.saved
  active : next.store.activeCanvasWorkspaceId = session.store.activeCanvasWorkspaceId
  content : ∀ id, next.content id =
    if id = target then
      { session.content id with
        notes := (next.store.canvas target).1, links := (next.store.canvas target).2 }
    else session.content id

theorem delivered_setCanvas (session : CanvasSession) (target : String)
    (notes : List CanvasNoteData) (links : List CanvasLinkData) (assets : List AssetData) :
    Delivered session { session with store :=
      { session.store.setCanvas target notes links with assets := assets } } target := by
  have hcontent : ∀ id, ({ session with store :=
        { session.store.setCanvas target notes links with assets := assets } }
        : CanvasSession).content id =
      if id = target then { session.content id with notes := notes, links := links }
      else session.content id := by
    intro id
    rw [CanvasSession.content, content_withAssets]
    exact content_setCanvas
  constructor
  · rfl
  · dsimp only
    unfold Store.setCanvas
    split <;> rfl
  · intro id
    rw [content_canvas session.canvasWorkflowPrompt, content_withAssets, content_setCanvas,
      if_pos rfl, hcontent id]

theorem Delivered.unchanged {session next : CanvasSession} (h : Delivered session next target)
    (hkept : next.store.canvas target = session.store.canvas target) :
    next.content id = session.content id := by
  rw [h.content id, hkept, session.canvas_eq]
  split
  · next hid => rw [hid]
  · rfl

/-- A delivery leaves the session as it is, or puts its result in the workspace of its source. -/
theorem step_deliver_cases (session : CanvasSession) (prepared : PreparedNamespaceDelivery)
    (loadingNodeId linkId : String) :
    session.step (.deliver prepared loadingNodeId linkId) = session ∨
      ∃ target, deliveryTarget session.store prepared.canvasSourceNodeId = .ok target ∧
        Delivered session (session.step (.deliver prepared loadingNodeId linkId)) target := by
  unfold CanvasSession.step
  dsimp only
  cases hstaged : stageCanvasNamespaceDelivery session.store prepared loadingNodeId linkId with
  | error message => exact .inl rfl
  | ok staged =>
    obtain ⟨id, next⟩ := staged
    rcases stageCanvasNamespaceDelivery_cases hstaged with rfl | hset
    · exact .inl rfl
    · obtain ⟨target, notes, links, assets, htarget, rfl, -⟩ := hset
      exact .inr ⟨target, htarget, delivered_setCanvas session target notes links assets⟩

/-- A save keeps every workspace. -/
theorem same_savedContent (rest : LocalStoreData) :
    Same (savedContent (localStoreData rest store prompt) id) (store.content prompt id) := by
  unfold savedContent localStoreData Store.content
  dsimp only
  rw [normalizeCanvasWorkspaceId_idem, Std.ExtTreeMap.getElem?_insert,
    getElem?_normalizeCanvasWorkspacePrompts]
  by_cases hactive : id = normalizeCanvasWorkspaceId store.activeCanvasWorkspaceId
  · simp [hactive, same_iff]
  · simp only [hactive, if_false]
    cases store.canvasWorkspaces[id]? <;> simp [Ne.symm hactive, same_iff]

theorem same_savedContent_restored :
    Same (savedContent data.restored id) (savedContent data id) := by
  unfold savedContent LocalStoreData.restored
  dsimp only
  rw [Std.ExtTreeMap.getElem?_map, same_iff]
  split <;> cases data.canvasWorkspaces[id]? <;> simp [clearSelection, CanvasNoteData.deselected]

/-- The prepared store holds what was saved, the notes of the active workspace refitted; its
prompt is the one in the interface. -/
theorem same_content_prepare (data : LocalStoreData) (prompt id : String) :
    Same ((preparePrivateStore data).content prompt id)
      (if id = normalizeCanvasWorkspaceId data.activeCanvasWorkspaceId then
        { refit (savedContent data id) with prompt := prompt }
      else savedContent data id) := by
  unfold preparePrivateStore Store.content savedContent
  dsimp only
  rw [normalizeCanvasWorkspaceId_idem]
  by_cases hactive : id = normalizeCanvasWorkspaceId data.activeCanvasWorkspaceId
  · rw [if_pos hactive, if_pos hactive, if_pos hactive, ← hactive,
      getElem?_normalizeCanvasWorkspacePrompts]
    cases data.canvasWorkspaces[id]? <;> simp [refit, Same.refl]
  · have hother : ¬ compare (normalizeCanvasWorkspaceId data.activeCanvasWorkspaceId) id = .eq := by
      simpa using Ne.symm hactive
    rw [if_neg hactive, if_neg hactive, if_neg hactive, Std.ExtTreeMap.getElem?_insert,
      if_neg hother, getElem?_normalizeCanvasWorkspacePrompts]
    cases data.canvasWorkspaces[id]? <;> simp [same_iff]

end Contents

/-- Every workspace, and every saved one, holds what was last written to it. -/
structure Lossless (ledger : Ledger) : Prop where
  active : normalizeCanvasWorkspaceId ledger.session.store.activeCanvasWorkspaceId =
    ledger.current.active
  content : ∀ id, Same (ledger.session.content id) (ledger.current.content id)
  savedActive : normalizeCanvasWorkspaceId ledger.session.saved.activeCanvasWorkspaceId =
    ledger.saved.active
  saved : ∀ id, Same (savedContent ledger.session.saved id) (ledger.saved.content id)

/-- Signed out, with data that was saved before. -/
def Ledger.start (saved : LocalStoreData) : Ledger where
  session := { saved := saved }
  current := {}
  saved := { active := normalizeCanvasWorkspaceId saved.activeCanvasWorkspaceId
             content := savedContent saved }

/-- The prompt that was saved for the active workspace is empty. -/
def CanvasSession.NoPromptToRestore (session : CanvasSession) : Prop :=
  normalizeCanvasWorkflowPrompt (savedContent session.saved
    (normalizeCanvasWorkspaceId session.saved.activeCanvasWorkspaceId)).prompt = ""

section Runs

variable {ledger : Ledger}

theorem normalizeCanvasWorkspaceId_empty :
    normalizeCanvasWorkspaceId "" = defaultCanvasWorkspaceId := by decide

theorem Lossless.start (saved : LocalStoreData) : Lossless (Ledger.start saved) where
  active := normalizeCanvasWorkspaceId_empty
  content id := by
    have hempty : (({} : Store).canvasWorkspaces[id]?).getD {} = {} := by simp
    rw [Ledger.start, CanvasSession.content, Store.content, hempty, ite_self]
    exact Same.refl _
  savedActive := by rw [Ledger.start]
  saved id := by
    dsimp only [Ledger.start]
    exact Same.refl _

/-- A step that saves nothing. -/
theorem Lossless.current (h : Lossless ledger) {session : CanvasSession} {current : Contents}
    (hsaved : session.saved = ledger.session.saved)
    (hactive : normalizeCanvasWorkspaceId session.store.activeCanvasWorkspaceId = current.active)
    (hcontent : ∀ id, Same (session.content id) (current.content id)) :
    Lossless { ledger with session := session, current := current } where
  active := hactive
  content := hcontent
  savedActive := hsaved ▸ h.savedActive
  saved := hsaved ▸ h.saved

theorem Lossless.edit (h : Lossless ledger) (workspace : CanvasWorkspaceData) :
    Lossless (ledger.step (.edit workspace)) := by
  apply h.current
  · simp only [CanvasSession.step]
  · exact h.active
  · intro id
    rw [Contents.content_write, ← h.active]
    by_cases hid : id = normalizeCanvasWorkspaceId ledger.session.store.activeCanvasWorkspaceId
    · simp [CanvasSession.content, CanvasSession.step, Store.content, ← hid, Same.refl]
    · have hcontent := h.content id
      simp only [CanvasSession.content, Store.content, if_neg hid] at hcontent
      simpa [CanvasSession.content, CanvasSession.step, Store.content, hid] using hcontent

theorem Lossless.switch (h : Lossless ledger) (target : String) :
    Lossless (ledger.step (.switch target)) := by
  apply h.current
  · simp only [CanvasSession.step]
  · simp only [CanvasSession.step, switchCanvasWorkspace, normalizeCanvasWorkspaceId_idem]
  · intro id
    exact same_content_switch.trans (h.content id)

theorem Lossless.save (h : Lossless ledger) (rest : LocalStoreData) :
    Lossless (ledger.step (.save rest)) where
  active := h.active
  content := h.content
  savedActive := by
    simp only [Ledger.step, CanvasSession.step, localStoreData, normalizeCanvasWorkspaceId_idem]
    exact h.active
  saved id := (same_savedContent rest).trans (h.content id)

theorem Lossless.deliver (h : Lossless ledger) (prepared : PreparedNamespaceDelivery)
    (loadingNodeId linkId : String) :
    Lossless (ledger.step (.deliver prepared loadingNodeId linkId)) := by
  have hcases := step_deliver_cases ledger.session prepared loadingNodeId linkId
  unfold Ledger.step
  dsimp only
  generalize ledger.session.step (.deliver prepared loadingNodeId linkId) = next at hcases
  rcases hcases with rfl | ⟨target, htarget, hdelivered⟩
  · split
    · rw [if_pos rfl]
      exact h
    · exact h
  · have hactive : normalizeCanvasWorkspaceId next.store.activeCanvasWorkspaceId =
        ledger.current.active := by
      rw [hdelivered.active]
      exact h.active
    rw [htarget]
    dsimp only
    split
    · next hkept =>
      apply h.current hdelivered.saved hactive
      intro id
      rw [hdelivered.unchanged hkept]
      exact h.content id
    · apply h.current hdelivered.saved
      · exact hactive
      intro id
      rw [hdelivered.content id, Contents.content_write]
      by_cases hid : id = target
      · obtain ⟨-, -, hprompt, hreferences⟩ := same_iff.1 (h.content id)
        rw [if_pos hid, if_pos hid, same_iff, ← hid]
        simp only [hprompt, hreferences, and_self]
      · rw [if_neg hid, if_neg hid]
        exact h.content id

/-- After a restart the prompt of the active workspace is empty, whatever was saved. -/
theorem prompt_after_restart {id : String} (hid : id = normalizeCanvasWorkspaceId
      ledger.session.saved.activeCanvasWorkspaceId) :
    normalizeCanvasWorkflowPrompt ((ledger.step .restart).session.content id).prompt = "" := by
  have hactive : id = normalizeCanvasWorkspaceId
      ledger.session.saved.restored.activeCanvasWorkspaceId := hid
  have hsame := (same_iff.1 (same_content_prepare ledger.session.saved.restored "" id)).2.2.1
  rw [if_pos hactive] at hsame
  exact hsame

/-- The active workspace comes back refitted and without its prompt, the others as they were. -/
theorem Lossless.restart_iff (h : Lossless ledger) :
    Lossless (ledger.step .restart) ↔ ledger.session.NoPromptToRestore := by
  have hsaved := h.saved ledger.saved.active
  rw [CanvasSession.NoPromptToRestore, h.savedActive, (same_iff.1 hsaved).2.2.1]
  constructor
  · intro hnext
    have hprompt := (same_iff.1 (hnext.content ledger.saved.active)).2.2.1
    have hcurrent : (ledger.step .restart).current.content ledger.saved.active =
        refit (ledger.saved.content ledger.saved.active) := by
      simp only [Ledger.step, Contents.content_write, if_true]
    rw [prompt_after_restart h.savedActive.symm, hcurrent] at hprompt
    exact hprompt.symm
  · intro hblank
    apply h.current
    · simp only [CanvasSession.step, CanvasSession.restart]
    · simp only [CanvasSession.step, CanvasSession.restart, preparePrivateStore,
        normalizeCanvasWorkspaceId_idem]
      exact h.savedActive
    · intro id
      apply (same_content_prepare _ _ _).trans
      have hrestored := (same_savedContent_restored).trans (h.saved id)
      have hactive : normalizeCanvasWorkspaceId
          ledger.session.saved.restored.activeCanvasWorkspaceId = ledger.saved.active := h.savedActive
      rw [hactive, Contents.content_write]
      by_cases hid : id = ledger.saved.active
      · obtain ⟨hnotes, hlinks, -, hreferences⟩ := same_iff.1 hrestored.refit
        rw [← normalizeCanvasWorkflowPrompt_empty, ← hid] at hblank
        rw [if_pos hid, if_pos hid, ← hid, same_iff]
        simp only [CanvasSession.step, CanvasSession.restart]
        exact ⟨hnotes, hlinks, hblank.symm, hreferences⟩
      · simpa [hid] using hrestored

theorem Lossless.editAssets (h : Lossless ledger) (assets generations : List AssetData) :
    Lossless (ledger.step (.editAssets assets generations)) := by
  apply h.current
  · simp only [CanvasSession.step]
  · simp only [CanvasSession.step]
    exact h.active
  · intro id
    rw [CanvasSession.content, CanvasSession.step, content_withAssets]
    exact h.content id

/-- The condition under which a step loses nothing. -/
def Ledger.Safe (action : Action) (ledger : Ledger) : Prop :=
  action = .restart → ledger.session.NoPromptToRestore

theorem Lossless.step_iff (h : Lossless ledger) {action : Action} :
    Lossless (ledger.step action) ↔ ledger.Safe action := by
  cases action with
  | edit workspace => simp [Ledger.Safe, h.edit workspace]
  | editAssets assets generations => simp [Ledger.Safe, h.editAssets assets generations]
  | switch target => simp [Ledger.Safe, h.switch target]
  | deliver prepared loadingNodeId linkId =>
    simp [Ledger.Safe, h.deliver prepared loadingNodeId linkId]
  | save rest => simp [Ledger.Safe, h.save rest]
  | restart => simp [Ledger.Safe, h.restart_iff]

end Runs

/-- Every workspace holds what was last written to it, in every state that a run passes, exactly
if no restart of the run finds a saved prompt for the active workspace. -/
theorem canvas_lossless_iff (saved : LocalStoreData) (actions : List Action) :
    Throughout Ledger.step Lossless actions (Ledger.start saved) ↔
      AtEachStep Ledger.step Ledger.Safe actions (Ledger.start saved) := by
  have hstart := Lossless.start saved
  generalize Ledger.start saved = ledger at hstart
  induction actions generalizing ledger with
  | nil => exact iff_of_true hstart trivial
  | cons action rest ih =>
    rw [Throughout, AtEachStep]
    constructor
    · rintro ⟨-, hrest⟩
      have hnext := hrest.head
      exact ⟨hstart.step_iff.1 hnext, (ih _ hnext).1 hrest⟩
    · rintro ⟨hsafe, hrest⟩
      have hnext := hstart.step_iff.2 hsafe
      exact ⟨hstart, (ih _ hnext).2 hrest⟩

/-- A prompt is saved and the program restarted: the next save writes an empty prompt. -/
theorem saved_prompt_is_lost :
    let actions := [Action.edit { prompt := "a castle" }, .save {}, .restart, .save {}]
    let ledger := run Ledger.step actions (Ledger.start {})
    (ledger.current.content defaultCanvasWorkspaceId).prompt = "a castle" ∧
      (savedContent ledger.session.saved defaultCanvasWorkspaceId).prompt = "" ∧
      ¬ Throughout Ledger.step Lossless actions (Ledger.start {}) := by
  intro actions ledger
  have hcurrent : (ledger.current.content defaultCanvasWorkspaceId).prompt = "a castle" := by
    decide +kernel
  have hsaved : (savedContent ledger.session.saved defaultCanvasWorkspaceId).prompt = "" := by
    decide +kernel
  refine ⟨hcurrent, hsaved, ?_⟩
  intro hrun
  have hend : Lossless ledger := hrun.2.2.2.2
  have hwritten : (ledger.saved.content defaultCanvasWorkspaceId).prompt = "a castle" := by
    decide +kernel
  have hprompt := (same_iff.1 (hend.saved defaultCanvasWorkspaceId)).2.2.1
  rw [hsaved, hwritten] at hprompt
  exact absurd hprompt (by decide +kernel)

end ArtForgeStudio.Canvas
