import ArtForgeStudio.Canvas.Restarts
import ArtForgeStudio.Prompts.CustomPrompts
import ArtForgeStudio.Recovery.Record

/-! # The result of a prompt task in the store

A result is put into the field of the store that its task was started from: the draft of a category,
the draft of a video, or a text on the canvas. What was there before is kept, and put back when the
result does not get saved. A draft that a result is put into goes into the history of its category
with the result.
-/

namespace ArtForgeStudio.Prompts.Results

open ArtForgeStudio.Api ArtForgeStudio.Codecs ArtForgeStudio.LocalStore ArtForgeStudio.Recovery
open ArtForgeStudio.Canvas (CanvasController CanvasSnapshot updateFirst)

/-- The canvas, and all else that is saved. -/
structure Store where
  canvas : Canvas.Store := {}
  data : LocalStoreData := {}

structure RecoveredPrompt where
  resultOpen : Bool := false
  clientRequestId : String := ""
  taskType : String := ""
  targetKind : String := ""
  targetId : String := ""
  result : String := ""
  error : String := ""
  deriving DecidableEq

/-- What the interface shows. -/
structure AppState where
  page : String := ""
  assetType : String := ""
  prompt : String := ""
  promptOptimizationResultRevision : Int := 0
  videoGenerating : Bool := false
  videoSourceId : String := ""
  videoPrompt : String := ""
  videoPromptStatus : String := ""
  customPromptEditorOpen : Bool := false
  customPromptEditorSessionId : String := ""
  customPromptInput : String := ""
  customPromptReferenceItems : List ReferenceData := []
  canvasNotes : List CanvasNoteData := []
  canvasCanUndo : Bool := false
  canvasCanRedo : Bool := false
  canvasWorkflowPrompt : String := ""
  generationStatus : String := ""
  recoveredPrompt : RecoveredPrompt := {}

def promptDraftForCategory (drafts : PromptDrafts) (category : String) : String :=
  match category with
  | "scene" => drafts.scene
  | "ui" => drafts.ui
  | "effect" => drafts.effect
  | _ => drafts.character

def setPromptDraftForCategory (drafts : PromptDrafts) (category prompt : String) : PromptDrafts :=
  match category with
  | "scene" => { drafts with scene := prompt }
  | "ui" => { drafts with ui := prompt }
  | "effect" => { drafts with effect := prompt }
  | _ => { drafts with character := prompt }

/-- The latest draft of each account. -/
def storeVideoPromptDraft (drafts : PromptDrafts) (owner sourceId prompt : String) : PromptDrafts :=
  { drafts with videoByOwner := drafts.videoByOwner.insert owner ⟨sourceId, prompt⟩ }

def referencesForCategory (references : ReferenceGroups) (category : String) : List ReferenceData :=
  match category with
  | "scene" => references.scene
  | "ui" => references.ui
  | "effect" => references.effect
  | _ => references.character

def archivePromptVersion (category prompt english : String) (history : List PromptHistoryEntry) :
    List PromptHistoryEntry :=
  let prompt := trim prompt
  let isEntry (entry : PromptHistoryEntry) : Bool := entry.category = category && entry.prompt = prompt
  if prompt = "" then history
  else if history.any isEntry then
    updateFirst isEntry (fun entry =>
      if entry.englishPrompt = "" ∧ trim english ≠ "" then { entry with englishPrompt := trim english }
      else entry) history
  else { prompt := prompt, englishPrompt := trim english, category := category } :: history

/-- The text, trimmed, is in the history of the category. -/
def Retained (history : List PromptHistoryEntry) (category text : String) : Prop :=
  ∃ entry ∈ history, entry.category = category ∧ entry.prompt = trim text

instance (history : List PromptHistoryEntry) (category text : String) :
    Decidable (Retained history category text) :=
  inferInstanceAs (Decidable (∃ entry ∈ history, entry.category = category ∧ entry.prompt = trim text))

@[simp] theorem promptDraft_set (drafts : PromptDrafts) (category prompt : String) :
    promptDraftForCategory (setPromptDraftForCategory drafts category prompt) category = prompt := by
  unfold promptDraftForCategory setPromptDraftForCategory
  split <;> simp_all

@[simp] theorem setPromptDraft_draft (drafts : PromptDrafts) (category : String) :
    setPromptDraftForCategory drafts category (promptDraftForCategory drafts category) = drafts := by
  unfold promptDraftForCategory setPromptDraftForCategory
  split <;> simp_all

@[simp] theorem setPromptDraft_set (drafts : PromptDrafts) (category prompt other : String) :
    setPromptDraftForCategory (setPromptDraftForCategory drafts category other) category prompt =
      setPromptDraftForCategory drafts category prompt := by
  unfold setPromptDraftForCategory
  split <;> simp_all

section Archive

variable {history : List PromptHistoryEntry} {category prompt : String}

/-- A version without its English is at most put in front. -/
theorem archive_eq (category prompt : String) (history : List PromptHistoryEntry) :
    archivePromptVersion category prompt "" history = history ∨
      archivePromptVersion category prompt "" history =
        { prompt := trim prompt, englishPrompt := "", category := category } :: history := by
  have hblank : trim "" = "" := by decide
  have hsame (p : PromptHistoryEntry → Bool) : updateFirst p (fun entry => entry) history = history := by
    induction history with
    | nil => rfl
    | cons entry history ih => simp [updateFirst, ih]
  by_cases hprompt : trim prompt = ""
  · exact .inl (by simp [archivePromptVersion, hprompt])
  · by_cases hknown : history.any fun entry => entry.category = category && entry.prompt = trim prompt
    · left
      rw [archivePromptVersion, if_neg hprompt, if_pos hknown]
      simp [hblank, hsame]
    · right
      rw [archivePromptVersion, if_neg hprompt, if_neg hknown, hblank]

theorem suffix_archive (category prompt : String) (history : List PromptHistoryEntry) :
    history <:+ archivePromptVersion category prompt "" history := by
  rcases archive_eq category prompt history with h | h
  · rw [h]
  · rw [h]
    exact List.suffix_cons _ _

theorem Retained.mono {other : List PromptHistoryEntry} (h : Retained history category prompt)
    (hsuffix : history <:+ other) : Retained other category prompt := by
  obtain ⟨entry, hentry, hfields⟩ := h
  exact ⟨entry, hsuffix.subset hentry, hfields⟩

theorem retained_archive (hprompt : trim prompt ≠ "") :
    Retained (archivePromptVersion category prompt "" history) category prompt := by
  by_cases hknown : history.any fun entry => entry.category = category && entry.prompt = trim prompt
  · obtain ⟨entry, hentry, hfields⟩ := List.any_eq_true.mp hknown
    have hretained : Retained history category prompt := ⟨entry, hentry, by simpa using hfields⟩
    exact hretained.mono (suffix_archive category prompt history)
  · rw [archivePromptVersion, if_neg hprompt, if_neg hknown]
    exact ⟨_, List.mem_cons_self, rfl, rfl⟩

end Archive

variable (target : PendingPromptTaskRecord)

/-- The note on the canvas that the task was started from. -/
def isTargetNode (note : CanvasNoteData) : Bool := note.id = target.targetId && note.kind = "text"

/-- An optimization replaces what the composer holds, whatever it is. -/
def composerOptimizationReplacesPrompt : Bool :=
  target.targetKind = "composer" && target.activityKind = "optimize" &&
    trimIsEmpty target.terminalError && !trimIsEmpty target.resultPrompt

def promptTargetMatchesSnapshot (composerCategory composerInput customSessionId customInput : String)
    (canvasInput : Option String) (currentReferencePaths : List String) : Bool :=
  let isResult (input : String) : Bool := !trimIsEmpty target.resultPrompt && target.resultPrompt = input
  let editorMatches : Bool := match target.targetKind with
    | "composer" => target.targetCategory = composerCategory &&
      (composerOptimizationReplacesPrompt target || target.targetInput = composerInput ||
        isResult composerInput)
    | "custom_prompt" => target.targetId ≠ "" && target.targetId = customSessionId &&
      target.targetInput = customInput
    | "canvas_node" => canvasInput.any fun input => input = target.targetInput || isResult input
    | _ => false
  editorMatches &&
    (target.taskType ≠ "image_style_analysis" || target.referencePaths = currentReferencePaths)

def maxReferenceImages : Nat := 8

def AppState.currentWorkspaceCategory (app : AppState) : String := resolveCategory app.assetType

/-- What the composer of a category holds: of the current one it is in the interface. -/
def composerInput (app : AppState) (store : Store) (category : String) : String :=
  if category = app.currentWorkspaceCategory then app.prompt
  else promptDraftForCategory store.data.promptDrafts category

def currentReferencePaths (app : AppState) (store : Store) : List String :=
  if target.taskType ≠ "image_style_analysis" then []
  else match target.targetKind with
    | "composer" => ((referencesForCategory store.data.references target.targetCategory).take
      maxReferenceImages).map (·.sourcePath)
    | "custom_prompt" => (app.customPromptReferenceItems.take 8).map (·.sourcePath)
    | _ => []

def promptTargetMatches (app : AppState) (store : Store) : Bool :=
  if target.targetKind = "video_prompt" then
    app.page = "video-generation" && !app.videoGenerating && target.targetId ≠ "" &&
      target.targetId = app.videoSourceId &&
      (target.targetInput = app.videoPrompt ||
        (target.resultPrompt ≠ "" && target.resultPrompt = app.videoPrompt))
  else
    let canvasInput := if target.targetKind = "canvas_node" then
      (store.canvas.canvasNotes.find? (isTargetNode target)).map (·.content) else none
    let hidden := target.targetKind = "composer" ∧ target.targetCategory ≠ app.currentWorkspaceCategory
    let category := if hidden then target.targetCategory else app.currentWorkspaceCategory
    promptTargetMatchesSnapshot target category (composerInput app store category)
      app.customPromptEditorSessionId app.customPromptInput canvasInput
      (currentReferencePaths target app store)

/-- Where a result does not replace whatever the composer holds, it replaces the input of its target
or itself. -/
theorem composerInput_of_matches {target : PendingPromptTaskRecord} {app : AppState} {store : Store}
    (hkind : target.targetKind = "composer") (hmatches : promptTargetMatches target app store)
    (hreplaces : composerOptimizationReplacesPrompt target = false) :
    composerInput app store target.targetCategory = target.targetInput ∨
      composerInput app store target.targetCategory = target.resultPrompt := by
  simp only [promptTargetMatches, promptTargetMatchesSnapshot, hkind, hreplaces] at hmatches
  by_cases hhidden : target.targetCategory = app.currentWorkspaceCategory
  · rw [hhidden]
    grind
  · grind

inductive PromptStoreBefore where
  | composer (value : String)
  | video (value : Option VideoPromptDraft)
  | canvas (value : String) (snapshot : CanvasSnapshot)

def Store.setDrafts (store : Store) (drafts : PromptDrafts) : Store :=
  { store with data := { store.data with promptDrafts := drafts } }

def Store.setNotes (store : Store) (notes : List CanvasNoteData) : Store :=
  { store with canvas := { store.canvas with canvasNotes := notes } }

def canvasSnapshot (store : Store) : CanvasSnapshot :=
  ⟨store.canvas.canvasNotes, store.canvas.canvasLinks⟩

def stagedPromptIsCurrent (drafts : PromptDrafts) (notes : List CanvasNoteData) : Bool :=
  match target.targetKind with
  | "composer" => promptDraftForCategory drafts target.targetCategory = target.resultPrompt
  | "video_prompt" => (drafts.videoByOwner[target.ownerUserId]?).any fun draft =>
    draft.sourceId = target.targetId && draft.prompt = target.resultPrompt
  | "canvas_node" => notes.any fun note => isTargetNode target note && note.content = target.resultPrompt
  | _ => false

/-- What was there, and the store with the result. -/
def stagePromptResult (store : Store) : Option (PromptStoreBefore × Store) :=
  let drafts := store.data.promptDrafts
  match target.targetKind with
  | "composer" => some (.composer (promptDraftForCategory drafts target.targetCategory),
      store.setDrafts (setPromptDraftForCategory drafts target.targetCategory target.resultPrompt))
  | "video_prompt" => some (.video drafts.videoByOwner[target.ownerUserId]?,
      store.setDrafts (storeVideoPromptDraft drafts target.ownerUserId target.targetId
        target.resultPrompt))
  | "canvas_node" => (store.canvas.canvasNotes.find? (isTargetNode target)).map fun node =>
      (.canvas node.content (canvasSnapshot store),
        store.setNotes (updateFirst (isTargetNode target)
          (fun note => { note with content := target.resultPrompt }) store.canvas.canvasNotes))
  | _ => none

def archiveResult (record : PendingPromptTaskRecord) (store : Store) : Store :=
  if target.targetKind = "composer" then
    { store with
      data := { store.data with
        savedPromptHistory :=
          archivePromptVersion target.targetCategory target.resultPrompt "" <|
          archivePromptVersion target.targetCategory target.targetInput "" <|
          archivePromptVersion target.targetCategory record.targetInput ""
            store.data.savedPromptHistory } }
  else store

def rollbackPromptStage (before : PromptStoreBefore) (store : Store) : Store :=
  let drafts := store.data.promptDrafts
  if stagedPromptIsCurrent target drafts store.canvas.canvasNotes then
    match before with
    | .composer value => store.setDrafts (setPromptDraftForCategory drafts target.targetCategory value)
    | .video (some value) => store.setDrafts
      { drafts with videoByOwner := drafts.videoByOwner.insert target.ownerUserId value }
    | .video none => store.setDrafts
      { drafts with videoByOwner := drafts.videoByOwner.erase target.ownerUserId }
    | .canvas value _ => store.setNotes (updateFirst (·.id = target.targetId)
      (fun note => { note with content := value }) store.canvas.canvasNotes)
  else store

inductive TargetValue where
  | text (value : String)
  | draft (value : Option VideoPromptDraft)
  deriving DecidableEq

/-- What stands where the result goes; nothing when there is no such note on the canvas. -/
def targetField (store : Store) : Option TargetValue :=
  match target.targetKind with
  | "composer" =>
    some (.text (promptDraftForCategory store.data.promptDrafts target.targetCategory))
  | "video_prompt" => some (.draft store.data.promptDrafts.videoByOwner[target.ownerUserId]?)
  | "canvas_node" =>
    (store.canvas.canvasNotes.find? (isTargetNode target)).map fun node => .text node.content
  | _ => none

/-- The result as it is put there. -/
def stagedValue : TargetValue :=
  if target.targetKind = "video_prompt" then .draft (some ⟨target.targetId, target.resultPrompt⟩)
  else .text target.resultPrompt

def PromptStoreBefore.value : PromptStoreBefore → TargetValue
  | .composer value => .text value
  | .video value => .draft value
  | .canvas value _ => .text value

/-- The store with nothing where the result goes. -/
def clearTarget (store : Store) : Store :=
  match target.targetKind with
  | "composer" =>
    store.setDrafts (setPromptDraftForCategory store.data.promptDrafts target.targetCategory "")
  | "video_prompt" => store.setDrafts { store.data.promptDrafts with
      videoByOwner := store.data.promptDrafts.videoByOwner.erase target.ownerUserId }
  | "canvas_node" => store.setNotes (store.canvas.canvasNotes.map fun note =>
      if isTargetNode target note then { note with content := "" } else note)
  | _ => store

/-- Where the result is for a note, no two notes have the identifier of its target. -/
def OneTarget (store : Store) : Prop :=
  target.targetKind = "canvas_node" →
    (store.canvas.canvasNotes.map (·.id)).count target.targetId ≤ 1

/-- The notes without the content of the one that the result goes into. -/
def clearNotes (notes : List CanvasNoteData) : List CanvasNoteData :=
  if target.targetKind = "canvas_node" then
    notes.map fun note => if isTargetNode target note then { note with content := "" } else note
  else notes

/-- A store after the result was taken back from it: where the result still stood, there is what
was there before, and all else is as it was. -/
structure TakenBack (former : Option TargetValue) (store after : Store) : Prop where
  restored : targetField target store = some (stagedValue target) → targetField target after = former
  kept : targetField target store ≠ some (stagedValue target) → after = store
  rest : clearTarget target after = clearTarget target store

section Notes

variable {p : CanvasNoteData → Bool} {change : CanvasNoteData → CanvasNoteData}
  {notes : List CanvasNoteData}

theorem find?_updateFirst (hchange : ∀ note, p note → p (change note)) :
    (updateFirst p change notes).find? p = (notes.find? p).map change := by
  induction notes with
  | nil => rfl
  | cons note notes ih =>
    by_cases hnote : p note
    · simp [updateFirst, hnote, hchange note hnote]
    · simp [updateFirst, hnote, ih]

theorem map_updateFirst {B : Type} {f : CanvasNoteData → B}
    (hchange : ∀ note, p note → f (change note) = f note) :
    (updateFirst p change notes).map f = notes.map f := by
  induction notes with
  | nil => rfl
  | cons note notes ih =>
    by_cases hnote : p note
    · simp [updateFirst, hnote, hchange note hnote]
    · simp [updateFirst, hnote, ih]

theorem find?_setContent (content : String) (notes : List CanvasNoteData) :
    (updateFirst (isTargetNode target) (fun note => { note with content := content }) notes).find?
        (isTargetNode target) =
      (notes.find? (isTargetNode target)).map fun note => { note with content := content } := by
  apply find?_updateFirst
  intro note hnote
  exact hnote

theorem clear_setContent (content : String) (notes : List CanvasNoteData) :
    (updateFirst (isTargetNode target) (fun note => { note with content := content }) notes).map
        (fun note => if isTargetNode target note then { note with content := "" } else note) =
      notes.map fun note => if isTargetNode target note then { note with content := "" } else note := by
  apply map_updateFirst
  intro note hnote
  have hstill : isTargetNode target { note with content := content } = true := hnote
  simp [hnote, hstill]

theorem updateFirst_congr {q : CanvasNoteData → Bool} (hsame : ∀ note ∈ notes, p note = q note) :
    updateFirst p change notes = updateFirst q change notes := by
  induction notes with
  | nil => rfl
  | cons note notes ih =>
    have hrest := ih fun other hother => hsame other (List.mem_cons_of_mem _ hother)
    simp [updateFirst, hsame note List.mem_cons_self, hrest]

theorem eq_of_count_le_one {id : String} (hcount : (notes.map (·.id)).count id ≤ 1)
    {note other : CanvasNoteData} (hnote : note ∈ notes) (hother : other ∈ notes)
    (hid : note.id = id) (hid' : other.id = id) : note = other := by
  have hnamed : (notes.filter (·.id = id)).length ≤ 1 := by
    rwa [List.count, List.countP_map, List.countP_eq_length_filter] at hcount
  have hmem : note ∈ notes.filter (·.id = id) := List.mem_filter.mpr ⟨hnote, by simpa using hid⟩
  have hmem' : other ∈ notes.filter (·.id = id) := List.mem_filter.mpr ⟨hother, by simpa using hid'⟩
  cases hfilter : notes.filter (·.id = id) with
  | nil => simp [hfilter] at hmem
  | cons first rest =>
    obtain rfl : rest = [] := by
      rw [hfilter, List.length_cons] at hnamed
      exact List.length_eq_zero_iff.mp (by omega)
    rw [hfilter, List.mem_singleton] at hmem hmem'
    exact hmem.trans hmem'.symm

/-- A note that is the target is the only one with its identifier. -/
theorem sameId_isTarget (hcount : (notes.map (·.id)).count target.targetId ≤ 1)
    {node : CanvasNoteData} (hnode : notes.find? (isTargetNode target) = some node) :
    ∀ note ∈ notes, decide (note.id = target.targetId) = isTargetNode target note := by
  intro note hnote
  have hmem := List.mem_of_find?_eq_some hnode
  have htarget : node.id = target.targetId ∧ node.kind = "text" := by
    simpa [isTargetNode] using List.find?_some hnode
  by_cases hid : note.id = target.targetId
  · have hsame : note = node := eq_of_count_le_one hcount hnote hmem hid htarget.1
    simp [isTargetNode, hsame, htarget]
  · simp [isTargetNode, hid]

theorem staged_of_find? {content : String}
    (hfind : (notes.find? (isTargetNode target)).map (·.content) = some content) :
    notes.any fun note => isTargetNode target note && note.content = content := by
  obtain ⟨node, hnode, hcontent⟩ := Option.map_eq_some_iff.mp hfind
  refine List.any_eq_true.mpr ⟨node, List.mem_of_find?_eq_some hnode, ?_⟩
  simp [List.find?_some hnode, hcontent]

/-- The content that some target has is that of the first one. -/
theorem find?_of_staged (hcount : (notes.map (·.id)).count target.targetId ≤ 1) {content : String}
    (hany : notes.any fun note => isTargetNode target note && note.content = content) :
    (notes.find? (isTargetNode target)).map (·.content) = some content := by
  obtain ⟨note, hnote, hcurrent⟩ := List.any_eq_true.mp hany
  have hfound : isTargetNode target note ∧ note.content = content := by simpa using hcurrent
  obtain ⟨node, hnode⟩ := Option.isSome_iff_exists.mp
    (List.find?_isSome.mpr ⟨note, hnote, hfound.1⟩)
  have htarget := List.find?_some hnode
  simp only [isTargetNode, Bool.and_eq_true, decide_eq_true_eq] at hfound htarget
  have hsame := eq_of_count_le_one hcount hnote (List.mem_of_find?_eq_some hnode) hfound.1.1
    htarget.1
  simp [hnode, ← hsame, hfound.2]

end Notes

section Staging

variable {target} {before : PromptStoreBefore} {store first staged : Store}

theorem erase_insert_same {V : Type} (values : BTreeMap V) (key : String) (value : V) :
    (values.insert key value).erase key = values.erase key := by
  refine Std.ExtTreeMap.ext_getElem? fun {other} => ?_
  simp only [Std.ExtTreeMap.getElem?_erase, Std.ExtTreeMap.getElem?_insert]
  split <;> rfl

theorem erase_erase_same {V : Type} (values : BTreeMap V) (key : String) :
    (values.erase key).erase key = values.erase key := by
  refine Std.ExtTreeMap.ext_getElem? fun {other} => ?_
  simp only [Std.ExtTreeMap.getElem?_erase]
  split <;> rfl

/-- Staging puts the result into its field, keeps what was there, and changes nothing else. -/
theorem stagePromptResult_spec (h : stagePromptResult target store = some (before, staged)) :
    targetField target store = some before.value ∧
      targetField target staged = some (stagedValue target) ∧
      clearTarget target staged = clearTarget target store := by
  unfold stagePromptResult at h
  split at h
  case h_1 hkind =>
    obtain ⟨rfl, rfl⟩ := Prod.mk.inj (Option.some.inj h)
    simp [targetField, stagedValue, clearTarget, hkind, PromptStoreBefore.value, Store.setDrafts]
  case h_2 hkind =>
    obtain ⟨rfl, rfl⟩ := Prod.mk.inj (Option.some.inj h)
    simp [targetField, stagedValue, clearTarget, hkind, PromptStoreBefore.value, Store.setDrafts,
      storeVideoPromptDraft, erase_insert_same]
  case h_3 hkind =>
    obtain ⟨node, hnode, hresult⟩ := Option.map_eq_some_iff.mp h
    obtain ⟨rfl, rfl⟩ := Prod.mk.inj hresult
    refine ⟨?_, ?_, ?_⟩
    · simp [targetField, hkind, hnode, PromptStoreBefore.value]
    · simp [targetField, stagedValue, hkind, Store.setNotes, find?_setContent, hnode]
    · simp [clearTarget, hkind, Store.setNotes, clear_setContent]
  case h_4 => cases h

/-- A result that stands in its field is current. -/
theorem stagedPromptIsCurrent_of_field (h : targetField target store = some (stagedValue target)) :
    stagedPromptIsCurrent target store.data.promptDrafts store.canvas.canvasNotes := by
  unfold targetField stagedValue at h
  unfold stagedPromptIsCurrent
  split at h
  case h_1 hkind => simpa [hkind] using h
  case h_2 hkind =>
    have hdraft : store.data.promptDrafts.videoByOwner[target.ownerUserId]? =
        some ⟨target.targetId, target.resultPrompt⟩ := by simpa [hkind] using h
    simp [hdraft]
  case h_3 hkind =>
    apply staged_of_find?
    simpa [hkind, Function.comp_def] using h
  case h_4 => cases h

/-- A result that is current stands in its field, where no other note is named like its target. -/
theorem stagedPromptIsCurrent_iff (hone : OneTarget target store) :
    stagedPromptIsCurrent target store.data.promptDrafts store.canvas.canvasNotes ↔
      targetField target store = some (stagedValue target) := by
  refine ⟨fun hcurrent => ?_, stagedPromptIsCurrent_of_field⟩
  unfold stagedPromptIsCurrent at hcurrent
  unfold targetField stagedValue
  split at hcurrent
  case h_1 hkind => simpa [hkind] using hcurrent
  case h_2 hkind =>
    obtain ⟨⟨sourceId, prompt⟩, hdraft, hfields⟩ := (Option.any_eq_true _ _).mp hcurrent
    simp only [Bool.and_eq_true, decide_eq_true_eq] at hfields
    simp [hkind, hdraft, hfields]
  case h_3 hkind =>
    have hcontent := find?_of_staged target (hone hkind) hcurrent
    obtain ⟨node, hnode, hresult⟩ := Option.map_eq_some_iff.mp hcontent
    simp [hkind, hnode, hresult]
  case h_4 => cases hcurrent

/-- What is put back stands in the field again, and nothing else is changed. -/
theorem rollbackPromptStage_current (h : stagePromptResult target first = some (before, staged))
    (hone : OneTarget target store)
    (hcurrent : stagedPromptIsCurrent target store.data.promptDrafts store.canvas.canvasNotes) :
    targetField target (rollbackPromptStage target before store) = some before.value ∧
      clearTarget target (rollbackPromptStage target before store) = clearTarget target store := by
  unfold stagePromptResult at h
  split at h
  case h_1 hkind =>
    obtain ⟨rfl, -⟩ := Prod.mk.inj (Option.some.inj h)
    simp [rollbackPromptStage, hcurrent, targetField, clearTarget, hkind, Store.setDrafts,
      PromptStoreBefore.value]
  case h_2 hkind =>
    obtain ⟨rfl, -⟩ := Prod.mk.inj (Option.some.inj h)
    cases hold : first.data.promptDrafts.videoByOwner[target.ownerUserId]? with
    | none =>
      simp [rollbackPromptStage, hcurrent, targetField, clearTarget, hkind, Store.setDrafts,
        PromptStoreBefore.value, erase_erase_same]
    | some draft =>
      simp [rollbackPromptStage, hcurrent, targetField, clearTarget, hkind, Store.setDrafts,
        PromptStoreBefore.value, erase_insert_same]
  case h_3 hkind =>
    obtain ⟨node, _, hresult⟩ := Option.map_eq_some_iff.mp h
    obtain ⟨rfl, -⟩ := Prod.mk.inj hresult
    have hstands := (stagedPromptIsCurrent_iff hone).mp hcurrent
    simp only [targetField, hkind, Option.map_eq_some_iff] at hstands
    obtain ⟨now, hnow, -⟩ := hstands
    -- The search by identifier alone finds the target: no other note has its identifier.
    have hupdate : updateFirst (fun note => decide (note.id = target.targetId))
        (fun note => { note with content := node.content }) store.canvas.canvasNotes =
        updateFirst (isTargetNode target) (fun note => { note with content := node.content })
          store.canvas.canvasNotes :=
      updateFirst_congr (sameId_isTarget target (hone hkind) hnow)
    constructor
    · simp [rollbackPromptStage, hcurrent, targetField, hkind, Store.setNotes, hupdate,
        find?_setContent, hnow, PromptStoreBefore.value]
    · simp [rollbackPromptStage, hcurrent, clearTarget, hkind, Store.setNotes, hupdate,
        clear_setContent]
  case h_4 => cases h

/-- The result is taken back where it still stands, and nowhere else. -/
theorem rollbackPromptStage_spec (h : stagePromptResult target first = some (before, staged))
    (hone : OneTarget target store) :
    TakenBack target (targetField target first) store (rollbackPromptStage target before store) := by
  have hiff := stagedPromptIsCurrent_iff hone
  by_cases hcurrent : stagedPromptIsCurrent target store.data.promptDrafts store.canvas.canvasNotes
  · obtain ⟨hfield, hrest⟩ := rollbackPromptStage_current h hone hcurrent
    exact ⟨fun _ => hfield.trans (stagePromptResult_spec h).1.symm,
      fun hother => absurd (hiff.mp hcurrent) hother, hrest⟩
  · have hsame : rollbackPromptStage target before store = store := if_neg hcurrent
    rw [hsame]
    exact ⟨fun hstands => absurd (hiff.mpr hstands) hcurrent, fun _ => rfl, rfl⟩

end Staging

def Store.setHistory (store : Store) (history : List PromptHistoryEntry) : Store :=
  { store with data := { store.data with savedPromptHistory := history } }

/-- The store without what a result is put into, and without the history. -/
def restOf (store : Store) : Store := clearTarget target (store.setHistory [])

/-- Nothing is left of a result but entries at the front of the history. -/
structure Unstaged (store after : Store) : Prop where
  field : targetField target after = targetField target store
  rest : restOf target after = restOf target store
  history : store.data.savedPromptHistory <:+ after.data.savedPromptHistory

section Rest

variable {target} {record : PendingPromptTaskRecord} {before : PromptStoreBefore}
  {store after staged : Store}

theorem restOf_eq (store : Store) : restOf target store = (clearTarget target store).setHistory [] := by
  unfold restOf clearTarget
  split <;> rfl

@[simp] theorem clearTarget_history (store : Store) :
    (clearTarget target store).data.savedPromptHistory = store.data.savedPromptHistory := by
  unfold clearTarget
  split <;> simp only [Store.setDrafts, Store.setNotes]

theorem restOf_congr (h : clearTarget target after = clearTarget target store) :
    restOf target after = restOf target store := by
  rw [restOf_eq, restOf_eq, h]

theorem history_congr (h : clearTarget target after = clearTarget target store) :
    after.data.savedPromptHistory = store.data.savedPromptHistory := by
  have hhistory := congrArg (fun store => store.data.savedPromptHistory) h
  simpa using hhistory

theorem archiveResult_eq (target record : PendingPromptTaskRecord) (store : Store) :
    ∃ history, archiveResult target record store = store.setHistory history ∧
      store.data.savedPromptHistory <:+ history := by
  unfold archiveResult
  split
  · refine ⟨_, rfl, ?_⟩
    refine (suffix_archive target.targetCategory record.targetInput _).trans ?_
    refine (suffix_archive target.targetCategory target.targetInput _).trans ?_
    exact suffix_archive target.targetCategory target.resultPrompt _
  · exact ⟨_, rfl, List.suffix_refl _⟩

theorem targetField_setHistory (history : List PromptHistoryEntry) :
    targetField target (store.setHistory history) = targetField target store := rfl

theorem restOf_setHistory (history : List PromptHistoryEntry) :
    restOf target (store.setHistory history) = restOf target store := rfl

/-- Staging keeps the identifiers of the notes. -/
theorem oneTarget_staged (h : stagePromptResult target store = some (before, staged))
    (hone : OneTarget target store) : OneTarget target staged := by
  intro hkind
  simp only [stagePromptResult, hkind] at h
  obtain ⟨node, -, hresult⟩ := Option.map_eq_some_iff.mp h
  obtain ⟨-, rfl⟩ := Prod.mk.inj hresult
  have hids : (updateFirst (isTargetNode target)
      (fun note => { note with content := target.resultPrompt }) store.canvas.canvasNotes).map
      (·.id) = store.canvas.canvasNotes.map (·.id) := by
    apply map_updateFirst
    intro note _
    rfl
  exact hids ▸ hone hkind

/-- When a result is taken back from the store that it was staged in, nothing else is left of it. -/
theorem rollback_unstaged (h : stagePromptResult target store = some (before, staged))
    (hone : OneTarget target store) :
    Unstaged target store
      (rollbackPromptStage target before (archiveResult target record staged)) := by
  obtain ⟨history, harchive, hsuffix⟩ := archiveResult_eq target record staged
  obtain ⟨_, hstands, hclear⟩ := stagePromptResult_spec h
  have hids := oneTarget_staged h hone
  have hone' : OneTarget target (archiveResult target record staged) := by
    rw [harchive]
    exact hids
  have hback := rollbackPromptStage_spec h hone'
  refine ⟨?_, ?_, ?_⟩
  · apply hback.restored
    rw [harchive, targetField_setHistory, hstands]
  · rw [restOf_congr hback.rest, harchive, restOf_setHistory, restOf_congr hclear]
  · rw [history_congr hback.rest, harchive, ← history_congr hclear]
    exact hsuffix

/-- What was submitted, what the target held and the result are in the history of a composer. -/
theorem retained_archiveResult (hkind : target.targetKind = "composer") (text : String)
    (htext : text = record.targetInput ∨ text = target.targetInput ∨ text = target.resultPrompt)
    (hblank : trim text ≠ "") :
    Retained (archiveResult target record store).data.savedPromptHistory target.targetCategory
      text := by
  let submitted := archivePromptVersion target.targetCategory record.targetInput ""
    store.data.savedPromptHistory
  let held := archivePromptVersion target.targetCategory target.targetInput "" submitted
  have hresult : held <:+ archivePromptVersion target.targetCategory target.resultPrompt "" held :=
    suffix_archive _ _ _
  simp only [archiveResult, hkind, if_true]
  rcases htext with rfl | rfl | rfl
  · have hretained : Retained submitted target.targetCategory record.targetInput :=
      retained_archive hblank
    exact (hretained.mono (suffix_archive _ _ _)).mono hresult
  · have hretained : Retained held target.targetCategory target.targetInput :=
      retained_archive hblank
    exact hretained.mono hresult
  · exact retained_archive hblank

end Rest

end ArtForgeStudio.Prompts.Results
