import ArtForgeStudio.Prompts.Results
import ArtForgeStudio.Recovery.Operations

/-! # Applying the results of prompt tasks

The result of a task is kept in its recovery record until it is in a saved store. It is put into the
store, the store is given to the writer, and when the writer has answered, the result is shown and
the record is closed. In between the user goes on editing, and may leave the account.
-/

namespace ArtForgeStudio.Prompts.Results

open ArtForgeStudio.Api ArtForgeStudio.LocalStore ArtForgeStudio.Recovery ArtForgeStudio.Runs
open ArtForgeStudio.Canvas (CanvasController CanvasSnapshot updateFirst localStoreData)

/-- What the user edits. -/
structure Editor where
  app : AppState := {}
  store : Store := {}
  canvasHistory : CanvasController := {}

/-- How far the application of the record has come. -/
inductive Stage where
  | idle
  | staged (record target : PendingPromptTaskRecord) (before : PromptStoreBefore)
      (data : LocalStoreData)
  | published (record target : PendingPromptTaskRecord)

/-- The editor, the record, and what was acknowledged and recorded so far. `current` says that the
account is still signed in. -/
structure World where
  current : Bool := true
  editor : Editor := {}
  row : Option PendingPromptTaskRecord := none
  stage : Stage := .idle
  acknowledged : List (PendingPromptTaskRecord × LocalStoreData) := []
  patches : List PromptTaskRecoveryPatch := []

def World.setStore (w : World) (store : Store) : World :=
  { w with editor := { w.editor with store := store } }

def World.setApp (w : World) (app : AppState) : World :=
  { w with editor := { w.editor with app := app } }

def World.reportPromptRecoveryError (w : World) : World :=
  if w.current then
    w.setApp { w.editor.app with generationStatus := "提示词恢复记录已保留，暂时无法完成操作" }
  else w

/-- The target of a result that the user claims. -/
def claimedTarget (app : AppState) (record : PendingPromptTaskRecord) :
    Option PendingPromptTaskRecord :=
  if record.targetKind = "video_prompt" then
    if app.page ≠ "video-generation" ∨ app.videoSourceId ≠ record.targetId ∨ app.videoGenerating then
      none
    else some { record with targetInput := app.videoPrompt }
  else if record.targetKind = "custom_prompt" ∧ app.customPromptEditorOpen then
    some { record with
      targetId := app.customPromptEditorSessionId
      targetInput := app.customPromptInput
      taskType := "prompt_optimize" }
  else
    some { record with
      targetKind := "composer"
      targetCategory := app.currentWorkspaceCategory
      targetInput := app.prompt
      taskType := "prompt_optimize" }

/-- A result that is applied by itself goes to the target of its record. -/
def resultTarget (claimed : Bool) (app : AppState) (record : PendingPromptTaskRecord) :
    Option PendingPromptTaskRecord :=
  if record.resultCommitted ∨ !trimIsEmpty record.terminalError ∨ trimIsEmpty record.resultPrompt then
    none
  else if claimed then claimedTarget app record
  else if record.appliedToTarget then none
  else some record

/-- What the writer and the system answer while a result is staged. -/
structure StageAnswers where
  prepared : Bool := true
  enqueued : Bool := true
  spawned : Bool := true

/-- The store holds the result, and is given to the writer. -/
def enqueuePromptResult (record target : PendingPromptTaskRecord) (before : PromptStoreBefore)
    (store : Store) (answers : StageAnswers) (w : World) : World :=
  if !answers.enqueued then
    (w.setStore (rollbackPromptStage target before store)).reportPromptRecoveryError
  -- The writer still has the save: nothing is taken back.
  else if !answers.spawned then (w.setStore store).reportPromptRecoveryError
  else
    { w.setStore store with
      stage := .staged record target before
        (localStoreData store.data store.canvas w.editor.app.canvasWorkflowPrompt) }

def beginPromptResultApplication (record target : PendingPromptTaskRecord) (answers : StageAnswers)
    (w : World) : World :=
  if !promptTargetMatches target w.editor.app w.editor.store then w
  else if target.targetKind = "custom_prompt" then w
  else if !answers.prepared then w.reportPromptRecoveryError
  else if !w.current then w
  else match stagePromptResult target w.editor.store with
    | none => w
    | some (before, staged) =>
      enqueuePromptResult record target before (archiveResult target record staged) answers w

def publishPromptResult (target : PendingPromptTaskRecord) (before : PromptStoreBefore)
    (editor : Editor) : Editor :=
  let app := editor.app
  let shown := target.targetKind ≠ "composer" ∨ app.currentWorkspaceCategory = target.targetCategory
  let status := if shown then "结果已保存，正在确认原始恢复记录" else app.generationStatus
  match target.targetKind with
  | "composer" =>
    if app.currentWorkspaceCategory = target.targetCategory then
      { editor with
        app := { app with
          prompt := target.resultPrompt
          promptOptimizationResultRevision := if target.activityKind = "optimize" then
            min (app.promptOptimizationResultRevision + 1) 2147483647
            else app.promptOptimizationResultRevision
          generationStatus := status } }
    else { editor with app := { app with generationStatus := status } }
  | "video_prompt" =>
    { editor with app := { app with videoPrompt := target.resultPrompt, generationStatus := status } }
  | "canvas_node" =>
    let history := match before with
      | .canvas _ snapshot => editor.canvasHistory.record snapshot
      | _ => editor.canvasHistory
    { editor with
      canvasHistory := history
      app := { app with
        canvasCanUndo := match before with
          | .canvas _ _ => !history.undoStack.isEmpty
          | _ => app.canvasCanUndo
        canvasCanRedo := match before with
          | .canvas _ _ => !history.redoStack.isEmpty
          | _ => app.canvasCanRedo
        canvasNotes := updateFirst (·.id = target.targetId)
          (fun note => { note with content := target.resultPrompt }) app.canvasNotes
        generationStatus := status } }
  | _ => { editor with app := { app with generationStatus := status } }

/-- The target still takes the result, and the store still holds it. -/
def World.stillStaged (w : World) (target : PendingPromptTaskRecord) : Bool :=
  promptTargetMatches target w.editor.app w.editor.store &&
    stagedPromptIsCurrent target w.editor.store.data.promptDrafts w.editor.store.canvas.canvasNotes

def finishPromptSave (acknowledged : Bool) (w : World) : World :=
  match w.stage with
  | .staged record target before data =>
    let answered := { w with
      stage := .idle
      acknowledged := if acknowledged then (target, data) :: w.acknowledged else w.acknowledged }
    if !w.current then answered
    else if !acknowledged then
      (answered.setStore
        (rollbackPromptStage target before w.editor.store)).reportPromptRecoveryError
    -- A newer edit won: the record is kept.
    else if !w.stillStaged target then answered
    else { answered with
      editor := publishPromptResult target before w.editor
      stage := .published record target }
  | _ => w

def promptTaskSuccessMessage (record : PendingPromptTaskRecord) : String :=
  if record.taskType = "image_style_analysis" then "图片风格分析完成"
  else if record.taskType = "prompt_translate" then "提示词翻译完成"
  else "提示词优化完成"

def showPromptCommitted (record target : PendingPromptTaskRecord) (w : World) : World :=
  let app := w.editor.app
  let displayed := { target with targetInput := target.resultPrompt }
  let current := stagedPromptIsCurrent target w.editor.store.data.promptDrafts
    w.editor.store.canvas.canvasNotes
  if w.current && promptTargetMatches displayed app w.editor.store && current then
    w.setApp { app with
      generationStatus := if target.targetKind ≠ "composer" ∨
          app.currentWorkspaceCategory = target.targetCategory then promptTaskSuccessMessage record
        else app.generationStatus
      videoPromptStatus := if target.targetKind = "video_prompt" then "视频提示词已优化"
        else app.videoPromptStatus
      recoveredPrompt := if app.recoveredPrompt.clientRequestId = record.clientRequestId then {}
        else app.recoveredPrompt }
  else w

/-- What the recovery file answers while a record is closed. -/
structure CommitAnswers where
  found : Bool := true
  patched : Bool := true
  removed : Bool := true

def commitPromptResultAfterAck (answers : CommitAnswers) (w : World) : World :=
  match w.stage, w.row with
  | .published record target, some row =>
    let w := { w with stage := .idle }
    if !answers.found ∨ row.resultPrompt ≠ record.resultPrompt ∨ !answers.patched then
      w.reportPromptRecoveryError
    else
      let w := { w with
        row := some { row with resultCommitted := true }
        patches := .resultCommitted :: w.patches }
      if !row.uploadedFileIds.isEmpty then showPromptCommitted row target w
      else if !answers.removed then w.reportPromptRecoveryError
      else showPromptCommitted row target { w with row := none }
  | .published _ _, none => ({ w with stage := .idle }).reportPromptRecoveryError
  | _, _ => w

inductive Action where
  | edit (change : Editor → Editor)
  | leave
  | start (claimed : Bool) (answers : StageAnswers)
  | answer (acknowledged : Bool)
  | commit (answers : CommitAnswers)

/-- The record and the target of the application that would start. -/
def World.next? (w : World) (claimed : Bool) :
    Option (PendingPromptTaskRecord × PendingPromptTaskRecord) :=
  match w.stage, w.row with
  | .idle, some record => (resultTarget claimed w.editor.app record).map fun target => (record, target)
  | _, _ => none

/-- One application of the record at a time. -/
def step : Action → World → World
  | .edit change, w => { w with editor := change w.editor }
  | .leave, w => { w with current := false }
  | .start claimed answers, w =>
    match w.next? claimed with
    | some (record, target) => beginPromptResultApplication record target answers w
    | none => w
  | .answer acknowledged, w => finishPromptSave acknowledged w
  | .commit answers, w => commitPromptResultAfterAck answers w

section Steps

variable {w : World} {record target : PendingPromptTaskRecord} {before : PromptStoreBefore}
  {data : LocalStoreData} {claimed : Bool} {answers : StageAnswers}

/-- A report changes the status only. -/
theorem report_eq (w : World) :
    ∃ status, w.reportPromptRecoveryError =
      w.setApp { w.editor.app with generationStatus := status } := by
  unfold World.reportPromptRecoveryError
  split
  · exact ⟨_, rfl⟩
  · exact ⟨w.editor.app.generationStatus, rfl⟩

@[simp] theorem report_store (w : World) :
    w.reportPromptRecoveryError.editor.store = w.editor.store := by
  obtain ⟨status, hreport⟩ := report_eq w
  rw [hreport]
  rfl

@[simp] theorem report_stage (w : World) : w.reportPromptRecoveryError.stage = w.stage := by
  obtain ⟨status, hreport⟩ := report_eq w
  rw [hreport]
  rfl

theorem next?_eq_some (h : w.next? claimed = some (record, target)) :
    w.stage = .idle ∧ w.row = some record ∧
      resultTarget claimed w.editor.app record = some target := by
  unfold World.next? at h
  split at h
  case h_1 stored hstage hrow =>
    obtain ⟨found, hfound, hpair⟩ := Option.map_eq_some_iff.mp h
    obtain ⟨rfl, rfl⟩ := Prod.mk.inj hpair
    exact ⟨hstage, hrow, hfound⟩
  case h_2 => cases h

/-- An application ends at once, or its result is staged and given to the writer. -/
theorem begin_cases (record target : PendingPromptTaskRecord) (answers : StageAnswers) (w : World) :
    beginPromptResultApplication record target answers w = w ∨
      beginPromptResultApplication record target answers w = w.reportPromptRecoveryError ∨
      ∃ before staged, promptTargetMatches target w.editor.app w.editor.store ∧ w.current ∧
        stagePromptResult target w.editor.store = some (before, staged) ∧
        beginPromptResultApplication record target answers w =
          enqueuePromptResult record target before (archiveResult target record staged) answers w := by
  unfold beginPromptResultApplication
  split
  · exact .inl rfl
  · rename_i hmatches
    split
    · exact .inl rfl
    · split
      · exact .inr (.inl rfl)
      · split
        · exact .inl rfl
        · rename_i hcurrent
          cases hstage : stagePromptResult target w.editor.store with
          | none => exact .inl rfl
          | some result =>
            obtain ⟨before, staged⟩ := result
            exact .inr (.inr ⟨before, staged, by simpa using hmatches, by simpa using hcurrent,
              rfl, rfl⟩)

/-- What is staged was put into the store, and is in the save. -/
theorem begin_staged (hidle : w.stage = .idle) {record' target' : PendingPromptTaskRecord}
    (h : (beginPromptResultApplication record target answers w).stage =
      .staged record' target' before data) :
    record' = record ∧ target' = target ∧ w.current ∧ ∃ staged,
      promptTargetMatches target w.editor.app w.editor.store ∧
      stagePromptResult target w.editor.store = some (before, staged) ∧
      beginPromptResultApplication record target answers w =
        { w.setStore (archiveResult target record staged) with
          stage := .staged record target before data } ∧
      data = localStoreData (archiveResult target record staged).data
        (archiveResult target record staged).canvas w.editor.app.canvasWorkflowPrompt := by
  rcases begin_cases record target answers w with
    hbegin | hbegin | ⟨kept, staged, hmatches, hcurrent, hstage, hbegin⟩
  · rw [hbegin, hidle] at h
    cases h
  · rw [hbegin, report_stage, hidle] at h
    cases h
  · rw [hbegin, enqueuePromptResult] at h
    split at h
    · rw [report_stage] at h
      exact absurd (hidle.symm.trans h) (by simp)
    · split at h
      · rw [report_stage] at h
        exact absurd (hidle.symm.trans h) (by simp)
      · rename_i henqueued hspawned
        obtain ⟨rfl, rfl, rfl, rfl⟩ := Stage.staged.inj h
        refine ⟨rfl, rfl, hcurrent, staged, hmatches, hstage, ?_, rfl⟩
        rw [hbegin, enqueuePromptResult, if_neg henqueued, if_neg hspawned]

end Steps

/-- The editor without the content of the target note where that is shown, and in every snapshot. -/
def withoutTarget (target : PendingPromptTaskRecord) (editor : Editor) : Editor :=
  let cleared (snapshot : CanvasSnapshot) : CanvasSnapshot :=
    ⟨clearNotes target snapshot.notes, snapshot.links⟩
  { app := { editor.app with canvasNotes := clearNotes target editor.app.canvasNotes }
    store := restOf target editor.store
    canvasHistory := { editor.canvasHistory with
      undoStack := editor.canvasHistory.undoStack.map cleared
      redoStack := editor.canvasHistory.redoStack.map cleared } }

/-- Editors that differ in what stands in the target and in the history of prompts at most. -/
def Alike (target : PendingPromptTaskRecord) (editor other : Editor) : Prop :=
  withoutTarget target editor = withoutTarget target other

/-- A change that what stands in the target, and the history of prompts, has no part in. -/
def Blind (target : PendingPromptTaskRecord) (change : Editor → Editor) : Prop :=
  ∀ editor other, Alike target editor other → Alike target (change editor) (change other)

def edited (changes : List (Editor → Editor)) (editor : Editor) : Editor :=
  changes.foldl (fun editor change => change editor) editor

theorem run_edits (changes : List (Editor → Editor)) (w : World) :
    run step (changes.map .edit) w = { w with editor := edited changes w.editor } := by
  induction changes generalizing w with
  | nil => rfl
  | cons change changes ih =>
    rw [List.map_cons, run_cons, ih]
    rfl

theorem alike_edited {target : PendingPromptTaskRecord} {changes : List (Editor → Editor)}
    (hblind : ∀ change ∈ changes, Blind target change) {editor other : Editor}
    (halike : Alike target editor other) :
    Alike target (edited changes editor) (edited changes other) := by
  induction changes generalizing editor other with
  | nil => exact halike
  | cons change changes ih =>
    have hnext := hblind change List.mem_cons_self editor other halike
    exact ih (fun c hc => hblind c (List.mem_cons_of_mem _ hc)) hnext

section TakingBack

variable {w : World} {record target : PendingPromptTaskRecord} {before : PromptStoreBefore}
  {data : LocalStoreData} {claimed : Bool} {answers : StageAnswers}
  {changes : List (Editor → Editor)}

theorem Unstaged.refl (target : PendingPromptTaskRecord) (store : Store) :
    Unstaged target store store := ⟨rfl, rfl, List.suffix_refl _⟩

/-- When the writer refuses the save, nothing is left of the result but entries of the history. -/
theorem refused_unstaged (hrefused : answers.enqueued = false)
    (hnext : w.next? claimed = some (record, target)) (hone : OneTarget target w.editor.store) :
    Unstaged target w.editor.store (step (.start claimed answers) w).editor.store := by
  simp only [step, hnext]
  rcases begin_cases record target answers w with h | h | ⟨before, staged, -, -, hstage, h⟩
  · rw [h]
    exact Unstaged.refl _ _
  · rw [h, report_store]
    exact Unstaged.refl _ _
  · rw [h, enqueuePromptResult, hrefused]
    simp only [Bool.not_false, if_true, report_store]
    exact rollback_unstaged hstage hone

/-- What a started application staged: its target and the former value, in a store with the result. -/
theorem start_staged (hnext : w.next? claimed = some (record, target))
    {record' target' : PendingPromptTaskRecord}
    (h : (step (.start claimed answers) w).stage = .staged record' target' before data) :
    record' = record ∧ target' = target ∧ w.current ∧ ∃ staged,
      stagePromptResult target w.editor.store = some (before, staged) ∧
      step (.start claimed answers) w =
        { w.setStore (archiveResult target record staged) with
          stage := .staged record target before data } := by
  have hstep : step (.start claimed answers) w =
      beginPromptResultApplication record target answers w := by
    simp only [step, hnext]
  rw [hstep] at h ⊢
  obtain ⟨hrecord, htarget, hcurrent, staged, -, hstage, hbegin, -⟩ :=
    begin_staged (next?_eq_some hnext).1 h
  exact ⟨hrecord, htarget, hcurrent, staged, hstage, hbegin⟩

/-- When the save is not acknowledged, the result is taken back from what the edits left, and the
rest of the store is as the edits alone would have left it. -/
theorem unacknowledged_takenBack (hnext : w.next? claimed = some (record, target))
    {record' target' : PendingPromptTaskRecord}
    (h : (step (.start claimed answers) w).stage = .staged record' target' before data)
    (hone : OneTarget target
      (run step (changes.map .edit) (step (.start claimed answers) w)).editor.store) :
    TakenBack target (targetField target w.editor.store)
        (run step (changes.map .edit) (step (.start claimed answers) w)).editor.store
        (step (.answer false)
          (run step (changes.map .edit) (step (.start claimed answers) w))).editor.store ∧
      ((∀ change ∈ changes, Blind target change) →
        restOf target (step (.answer false)
            (run step (changes.map .edit) (step (.start claimed answers) w))).editor.store =
          restOf target (edited changes w.editor).store) := by
  obtain ⟨-, -, hcurrent, staged, hstage, hstart⟩ := start_staged hnext h
  rw [run_edits, hstart] at hone ⊢
  have hback := rollbackPromptStage_spec hstage hone
  have hanswer : ∀ editor : Editor, (step (.answer false)
      { w.setStore (archiveResult target record staged) with
        stage := .staged record target before data
        editor := editor }).editor.store = rollbackPromptStage target before editor.store := by
    intro editor
    simp [step, finishPromptSave, World.setStore, hcurrent]
  rw [hanswer]
  refine ⟨hback, fun hblind => ?_⟩
  have hstaged : Alike target (w.setStore (archiveResult target record staged)).editor w.editor := by
    obtain ⟨history, harchive, -⟩ := archiveResult_eq target record staged
    have hrest : restOf target (archiveResult target record staged) =
        restOf target w.editor.store := by
      rw [harchive, restOf_setHistory]
      exact restOf_congr (stagePromptResult_spec hstage).2.2
    rw [Alike, withoutTarget, withoutTarget, World.setStore, hrest]
  rw [restOf_congr hback.rest]
  exact congrArg Editor.store (alike_edited hblind hstaged)

end TakingBack

/-- Where the result of a record may go: to its own target, or to one that was claimed. -/
def TargetOf (record target : PendingPromptTaskRecord) : Prop :=
  target = record ∨ ∃ app, claimedTarget app record = some target

/-- The save has the result where it goes. -/
def HoldsResult (target : PendingPromptTaskRecord) (data : LocalStoreData) : Prop :=
  stagedPromptIsCurrent target data.promptDrafts data.canvasNotes

/-- A save with the result was acknowledged. -/
def Confirmed (record : PendingPromptTaskRecord) (w : World) : Prop :=
  ∃ target data, (target, data) ∈ w.acknowledged ∧ TargetOf record target ∧ HoldsResult target data

/-- What holds while results of the record are applied. -/
structure Consistent (record : PendingPromptTaskRecord) (w : World) : Prop where
  row : ∀ row, w.row = some row → row = record ∨ row.resultCommitted
  staged : ∀ kept target before data, w.stage = .staged kept target before data →
    TargetOf record target ∧ HoldsResult target data
  published : ∀ kept target, w.stage = .published kept target → Confirmed record w
  committed : .resultCommitted ∈ w.patches → Confirmed record w

theorem targetOf_resultTarget {record target : PendingPromptTaskRecord} {claimed : Bool}
    {app : AppState} (h : resultTarget claimed app record = some target) :
    record.resultCommitted = false ∧ TargetOf record target := by
  unfold resultTarget at h
  split at h
  · cases h
  · rename_i hready
    have hcommitted : record.resultCommitted = false := by
      cases hflag : record.resultCommitted with
      | false => rfl
      | true => exact absurd (.inl hflag) hready
    split at h
    · exact ⟨hcommitted, .inr ⟨app, h⟩⟩
    · split at h
      · cases h
      · exact ⟨hcommitted, .inl (Option.some.inj h).symm⟩

section Closing

variable {w w' : World} {record target : PendingPromptTaskRecord} {before : PromptStoreBefore}
  {data : LocalStoreData}

theorem Confirmed.mono (h : Confirmed record w) (hkept : w.acknowledged ⊆ w'.acknowledged) :
    Confirmed record w' := by
  obtain ⟨target, data, hmem, hrest⟩ := h
  exact ⟨target, data, hkept hmem, hrest⟩

/-- What the user edits, and what is shown, has no part in it. -/
theorem Consistent.editor (h : Consistent record w) (current : Bool) (editor : Editor) :
    Consistent record { w with current := current, editor := editor } :=
  ⟨h.row, h.staged, h.published, h.committed⟩

theorem Consistent.report (h : Consistent record w) :
    Consistent record w.reportPromptRecoveryError := by
  obtain ⟨status, hreport⟩ := report_eq w
  rw [hreport]
  exact h.editor w.current _

/-- With the stage idle again. -/
theorem Consistent.idle (h : Consistent record w)
    (acknowledged : List (PendingPromptTaskRecord × LocalStoreData))
    (hkept : w.acknowledged ⊆ acknowledged) :
    Consistent record { w with stage := .idle, acknowledged := acknowledged } := by
  refine ⟨h.row, ?_, ?_, ?_⟩
  · intro kept target before data hstage
    cases hstage
  · intro kept target hstage
    cases hstage
  · intro hcommitted
    exact (h.committed hcommitted).mono hkept

theorem Consistent.enqueue (h : Consistent record w) (htarget : TargetOf record target)
    {store : Store} (answers : StageAnswers)
    (hholds : stagedPromptIsCurrent target store.data.promptDrafts store.canvas.canvasNotes) :
    Consistent record (enqueuePromptResult record target before store answers w) := by
  unfold enqueuePromptResult
  split
  · exact (h.editor w.current _).report
  · split
    · exact (h.editor w.current _).report
    · refine ⟨h.row, ?_, ?_, h.committed⟩
      · intro kept target' before' data hstage
        obtain ⟨rfl, rfl, rfl, rfl⟩ := Stage.staged.inj hstage
        exact ⟨htarget, hholds⟩
      · intro kept target' hstage
        cases hstage

theorem archiveResult_isCurrent {store staged : Store}
    (h : stagePromptResult target store = some (before, staged)) :
    stagedPromptIsCurrent target (archiveResult target record staged).data.promptDrafts
      (archiveResult target record staged).canvas.canvasNotes := by
  apply stagedPromptIsCurrent_of_field
  obtain ⟨history, harchive, -⟩ := archiveResult_eq target record staged
  rw [harchive, targetField_setHistory]
  exact (stagePromptResult_spec h).2.1

theorem Consistent.start (h : Consistent record w) (claimed : Bool) (answers : StageAnswers) :
    Consistent record (step (.start claimed answers) w) := by
  cases hnext : w.next? claimed with
  | none => simpa [step, hnext] using h
  | some pair =>
    obtain ⟨kept, target⟩ := pair
    obtain ⟨-, hrow, hresult⟩ := next?_eq_some hnext
    obtain ⟨hopen, htarget⟩ := targetOf_resultTarget hresult
    have hsame : kept = record := by
      rcases h.row kept hrow with hsame | hclosed
      · exact hsame
      · exact absurd (hopen.symm.trans hclosed) (by simp)
    subst hsame
    simp only [step, hnext]
    rcases begin_cases kept target answers w with
      hbegin | hbegin | ⟨before, staged, -, -, hstage, hbegin⟩
    · rw [hbegin]
      exact h
    · rw [hbegin]
      exact h.report
    · rw [hbegin]
      exact h.enqueue htarget answers (archiveResult_isCurrent hstage)

theorem Consistent.answer (h : Consistent record w) (acknowledged : Bool) :
    Consistent record (step (.answer acknowledged) w) := by
  simp only [step]
  unfold finishPromptSave
  split
  case h_2 => exact h
  case h_1 kept target before data hstage =>
    cases acknowledged with
    | false =>
      have hidle := h.idle w.acknowledged (List.Subset.refl _)
      simp only [Bool.false_eq_true, if_false, Bool.not_false, if_true]
      split
      · exact hidle
      · exact (hidle.editor w.current _).report
    | true =>
      have hanswered := h.idle ((target, data) :: w.acknowledged) (List.subset_cons_self _ _)
      simp only [if_true, Bool.not_true, Bool.false_eq_true, if_false]
      split
      · exact hanswered
      · split
        · exact hanswered
        · refine ⟨h.row, ?_, ?_, hanswered.committed⟩
          · intro kept' target' before' data' hpublished
            cases hpublished
          · intro kept' target' _
            obtain ⟨htarget, hholds⟩ := h.staged kept target before data hstage
            exact ⟨target, data, List.mem_cons_self, htarget, hholds⟩

theorem Consistent.shown (h : Consistent record w) (row target : PendingPromptTaskRecord) :
    Consistent record (showPromptCommitted row target w) := by
  unfold showPromptCommitted
  dsimp only
  split
  · exact h.editor w.current _
  · exact h

theorem Consistent.commit (h : Consistent record w) (answers : CommitAnswers) :
    Consistent record (step (.commit answers) w) := by
  have hidle := h.idle w.acknowledged (List.Subset.refl _)
  simp only [step]
  unfold commitPromptResultAfterAck
  split
  case h_1 kept target row hstage hrow =>
    have hconfirmed := h.published kept target hstage
    have hclosed (closed : Option PendingPromptTaskRecord)
        (hrows : ∀ row, closed = some row → row.resultCommitted) :
        Consistent record { w with
          stage := .idle, row := closed, patches := .resultCommitted :: w.patches } :=
      ⟨fun row hrow => .inr (hrows row hrow), hidle.staged, hidle.published, fun _ => hconfirmed⟩
    dsimp only
    split
    · exact hidle.report
    · have hpatched := hclosed (some { row with resultCommitted := true }) fun row hrow => by
        obtain rfl := Option.some.inj hrow
        rfl
      split
      · exact hpatched.shown row target
      · split
        · exact hpatched.report
        · exact (hclosed none fun row hrow => by cases hrow).shown row target
  case h_2 => exact hidle.report
  case h_3 => exact h

theorem Consistent.step (h : Consistent record w) (action : Action) :
    Consistent record (step action w) := by
  cases action with
  | edit change => exact h.editor w.current _
  | leave => exact h.editor false _
  | start claimed answers => exact h.start claimed answers
  | answer acknowledged => exact h.answer acknowledged
  | commit answers => exact h.commit answers

theorem consistent_run (h : Consistent record w) (actions : List Action) :
    Consistent record (run step actions w) :=
  run_invariant (P := fun _ _ => True) (Consistent record)
    (fun action _ hstate _ => hstate.step action) h
    ((atEachStep_of_forall (C := fun _ => True) fun _ _ => trivial))

end Closing

/-- The target of an application that starts or is answered. -/
def World.applying? (w : World) : Action → Option PendingPromptTaskRecord
  | .start claimed _ => (w.next? claimed).map (·.2)
  | .answer _ => match w.stage with
    | .staged _ target _ _ => some target
    | _ => none
  | _ => none

def World.composerText (w : World) (category : String) : String :=
  composerInput w.editor.app w.editor.store category

section ComposerText

variable {w : World} {record target : PendingPromptTaskRecord} {before : PromptStoreBefore}
  {data : LocalStoreData}

theorem composerText_report (w : World) (category : String) :
    w.reportPromptRecoveryError.composerText category = w.composerText category := by
  obtain ⟨status, hreport⟩ := report_eq w
  rw [hreport]
  rfl

/-- What is taken back from a composer is the result. -/
theorem composerText_rollback (hkind : target.targetKind = "composer")
    (hchanged : composerInput w.editor.app (rollbackPromptStage target before w.editor.store)
      target.targetCategory ≠ w.composerText target.targetCategory) :
    w.composerText target.targetCategory = target.resultPrompt := by
  by_cases hcurrent : stagedPromptIsCurrent target w.editor.store.data.promptDrafts
      w.editor.store.canvas.canvasNotes
  · by_cases hshown : target.targetCategory = w.editor.app.currentWorkspaceCategory
    · refine absurd ?_ hchanged
      simp [World.composerText, composerInput, hshown]
    · have hdraft : promptDraftForCategory w.editor.store.data.promptDrafts target.targetCategory =
          target.resultPrompt := by
        simpa [stagedPromptIsCurrent, hkind] using hcurrent
      simpa [World.composerText, composerInput, hshown] using hdraft
  · refine absurd ?_ hchanged
    have hsame : rollbackPromptStage target before w.editor.store = w.editor.store := if_neg hcurrent
    rw [hsame]
    rfl

/-- A text of a composer that an application replaces is the input of its target or the result,
unless the result replaces whatever the composer holds. -/
theorem replaced_composerText {action : Action} (happlying : w.applying? action = some target)
    (hkind : target.targetKind = "composer")
    (hreplaces : composerOptimizationReplacesPrompt target = false)
    (hchanged : (step action w).composerText target.targetCategory ≠
      w.composerText target.targetCategory) :
    w.composerText target.targetCategory = target.targetInput ∨
      w.composerText target.targetCategory = target.resultPrompt := by
  cases action with
  | edit change => cases happlying
  | leave => cases happlying
  | commit answers => cases happlying
  | start claimed answers =>
    obtain ⟨⟨record, found⟩, hnext, hfound⟩ := Option.map_eq_some_iff.mp happlying
    obtain rfl : found = target := hfound
    simp only [step, hnext] at hchanged
    rcases begin_cases record found answers w with hbegin | hbegin | ⟨_, _, hmatches, -⟩
    · rw [hbegin] at hchanged
      exact absurd rfl hchanged
    · rw [hbegin, composerText_report] at hchanged
      exact absurd rfl hchanged
    · exact composerInput_of_matches hkind hmatches hreplaces
  | answer acknowledged =>
    simp only [World.applying?] at happlying
    split at happlying
    case h_2 => cases happlying
    case h_1 record found before data hstage =>
      obtain rfl := Option.some.inj happlying
      simp only [step, finishPromptSave, hstage] at hchanged
      cases acknowledged with
      | false =>
        simp only [Bool.false_eq_true, if_false, Bool.not_false, if_true] at hchanged
        split at hchanged
        · exact absurd rfl hchanged
        · rw [composerText_report] at hchanged
          exact .inr (composerText_rollback hkind hchanged)
      | true =>
        simp only [if_true, Bool.not_true, Bool.false_eq_true, if_false] at hchanged
        split at hchanged
        · exact absurd rfl hchanged
        · split at hchanged
          · exact absurd rfl hchanged
          · rename_i hstill
            have hmatches : promptTargetMatches found w.editor.app w.editor.store := by
              simp only [World.stillStaged] at hstill
              grind
            exact composerInput_of_matches hkind hmatches hreplaces

/-- What was submitted, what the target held and the result are kept when a result is staged for a
composer. -/
theorem start_retains {claimed : Bool} {answers : StageAnswers} {kept : PendingPromptTaskRecord}
    (hnext : w.next? claimed = some (record, target)) (hkind : target.targetKind = "composer")
    (h : (step (.start claimed answers) w).stage = .staged record kept before data) (text : String)
    (htext : text = record.targetInput ∨ text = target.targetInput ∨ text = target.resultPrompt)
    (hblank : trim text ≠ "") :
    Retained (step (.start claimed answers) w).editor.store.data.savedPromptHistory
      target.targetCategory text := by
  obtain ⟨-, -, -, staged, -, hstart⟩ := start_staged hnext h
  rw [hstart]
  exact retained_archiveResult hkind text htext hblank

/-- What is shown is what the store still holds. -/
theorem published_stillStaged (hstage : w.stage = .staged record target before data)
    {kept shown : PendingPromptTaskRecord}
    (h : (step (.answer true) w).stage = .published kept shown) :
    stagedPromptIsCurrent target w.editor.store.data.promptDrafts
      w.editor.store.canvas.canvasNotes := by
  by_cases hstill : w.stillStaged target
  · simp only [World.stillStaged, Bool.and_eq_true] at hstill
    exact hstill.2
  · simp only [step, finishPromptSave, hstage, hstill] at h
    split at h <;> cases h

end ComposerText

/-- A result that is not saved is taken back: what stood in its target stands there again, unless
the user has put something else there, and of the rest of the store only the history of prompts is
longer. A record is closed only after a save with the result in its target was acknowledged. And a
text of a composer is replaced only where it is the input of the target or the result, or the result
is of an optimization; what is then shown is what the store holds. -/
theorem prompt_results_are_taken_back_or_kept (record target : PendingPromptTaskRecord) :
    (∀ (w : World) (claimed : Bool) (answers : StageAnswers),
      w.next? claimed = some (record, target) → OneTarget target w.editor.store →
      answers.enqueued = false →
        Unstaged target w.editor.store (step (.start claimed answers) w).editor.store) ∧
    (∀ (w : World) (claimed : Bool) (answers : StageAnswers) (before : PromptStoreBefore)
      (data : LocalStoreData) (changes : List (Editor → Editor)),
      let started := step (.start claimed answers) w
      let now := run step (changes.map .edit) started
      w.next? claimed = some (record, target) → started.stage = .staged record target before data →
      OneTarget target now.editor.store →
        TakenBack target (targetField target w.editor.store) now.editor.store
          (step (.answer false) now).editor.store ∧
        ((∀ change ∈ changes, Blind target change) →
          restOf target (step (.answer false) now).editor.store =
            restOf target (edited changes w.editor).store)) ∧
    (∀ (w : World) (actions : List Action),
      w.row = some record → w.stage = .idle → w.patches = [] →
      .resultCommitted ∈ (run step actions w).patches → Confirmed record (run step actions w)) ∧
    (target.targetKind = "composer" →
      (∀ (w : World) (action : Action), w.applying? action = some target →
        composerOptimizationReplacesPrompt target = false →
        (step action w).composerText target.targetCategory ≠
          w.composerText target.targetCategory →
          w.composerText target.targetCategory = target.targetInput ∨
            w.composerText target.targetCategory = target.resultPrompt) ∧
      (∀ (w : World) (claimed : Bool) (answers : StageAnswers) (before : PromptStoreBefore)
        (data : LocalStoreData) (text : String), w.next? claimed = some (record, target) →
        (step (.start claimed answers) w).stage = .staged record target before data →
        text = record.targetInput ∨ text = target.targetInput ∨ text = target.resultPrompt →
        trim text ≠ "" →
          Retained (step (.start claimed answers) w).editor.store.data.savedPromptHistory
            target.targetCategory text) ∧
      (∀ (w : World) (before : PromptStoreBefore) (data : LocalStoreData),
        w.stage = .staged record target before data →
        (step (.answer true) w).stage = .published record target →
          promptDraftForCategory w.editor.store.data.promptDrafts target.targetCategory =
            target.resultPrompt)) := by
  refine ⟨?_, ?_, ?_, ?_⟩
  · intro w claimed answers hnext hone hrefused
    exact refused_unstaged hrefused hnext hone
  · intro w claimed answers before data changes started now hnext hstage hone
    exact unacknowledged_takenBack hnext hstage hone
  · intro w actions hrow hidle hpatches hcommitted
    have hstart : Consistent record w := by
      refine ⟨?_, ?_, ?_, ?_⟩
      · intro row hfound
        exact .inl (Option.some.inj (hfound.symm.trans hrow))
      · intro kept target before data hstage
        cases hidle.symm.trans hstage
      · intro kept target hstage
        cases hidle.symm.trans hstage
      · intro hmem
        rw [hpatches] at hmem
        cases hmem
    exact (consistent_run hstart actions).committed hcommitted
  · intro hkind
    refine ⟨?_, ?_, ?_⟩
    · intro w action happlying hreplaces hchanged
      exact replaced_composerText happlying hkind hreplaces hchanged
    · intro w claimed answers before data text hnext hstage htext hblank
      exact start_retains hnext hkind hstage text htext hblank
    · intro w before data hstage hpublished
      simpa [stagedPromptIsCurrent, hkind] using published_stillStaged hstage hpublished

def optimizedRecord : PendingPromptTaskRecord where
  clientRequestId := "r"
  ownerUserId := "u"
  billingAccountGroupId := "g"
  authEpoch := 1
  taskType := "prompt_optimize"
  modelCode := "m"
  prompt := "a"
  targetKind := "composer"
  targetCategory := "character"
  targetInput := "a"
  activityKind := "optimize"
  resultPrompt := "b"

/-- The user has typed something else since the text was submitted. -/
def editedWorld : World where
  editor := {
    app := { prompt := "c" }
    store := { data := { promptDrafts := { character := "c" } } } }
  row := some optimizedRecord

def noteRecord : PendingPromptTaskRecord :=
  { optimizedRecord with targetKind := "canvas_node", targetId := "n", targetCategory := "" }

/-- An image has the identifier of the text, and comes first. -/
def doubledWorld : World where
  editor := {
    store := { canvas := {
      canvasNotes := [{ id := "n", kind := "image", content := "", x := 0, y := 0 },
        { id := "n", content := "a", x := 0, y := 0 }] } } }
  row := some noteRecord

/-- The text that was typed is nowhere; the history keeps what a refused save would have kept; a
result whose answer is not waited for stays; and a text is put back into the wrong note. -/
theorem edited_text_is_lost :
    (editedWorld.composerText "character" = "c" ∧
      (run step [.start false {}, .answer true] editedWorld).composerText "character" = "b" ∧
      ¬Retained (run step [.start false {}, .answer true]
        editedWorld).editor.store.data.savedPromptHistory "character" "c") ∧
    (step (.start false { enqueued := false }) editedWorld).editor.store.data.savedPromptHistory ≠
      editedWorld.editor.store.data.savedPromptHistory ∧
    (step (.start false { spawned := false })
      editedWorld).editor.store.data.promptDrafts.character = "b" ∧
    (step (.start false { enqueued := false })
        doubledWorld).editor.store.canvas.canvasNotes.map (·.content) ≠
      doubledWorld.editor.store.canvas.canvasNotes.map (·.content) := by
  decide +kernel

end ArtForgeStudio.Prompts.Results
