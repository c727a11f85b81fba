import ArtForgeStudio.PromptTasks.Workers
import ArtForgeStudio.Recovery.RowEdits

/-! # What belongs to one key

A worker acts on its key alone: its row, the requests sent for it, and what the server said to them.
In a good state a row without a task asks for what was sent and says that it was sent, and a row
that is gone was ended by the server or committed.
-/

namespace ArtForgeStudio.PromptTasks

open ArtForgeStudio.Api ArtForgeStudio.Recovery ArtForgeStudio.KeyedRows ArtForgeStudio.Concurrency
  ArtForgeStudio.Outcome

/-- What happens beside the workers in a run: the keys whose result the window commits, and those
that the user cancels. -/
structure Beside where
  committed : List String
  cancelled : List String

/-- A row without its paths and without what the window and the user write. -/
def core (beside : Beside) (row : PendingPromptTaskRecord) : PendingPromptTaskRecord :=
  { row with
    referencePaths := row.referencePaths.map fun _ => ""
    appliedToTarget := false
    resultCommitted := row.resultCommitted && !beside.committed.contains row.clientRequestId
    cancelRequested := row.cancelRequested && !beside.cancelled.contains row.clientRequestId }

theorem promptRequest_core (beside : Beside) (row : PendingPromptTaskRecord) :
    promptRequest (core beside row) = promptRequest row := by
  simp [promptRequest, savedPromptRequest, core, promptTaskCreateRequest]

/-- The server named the task in an answer to a create request. -/
def Named (reports : List Report) (id : String) : Prop :=
  ∃ report ∈ reports, report.creation = true ∧ report.detail.id = id

/-- The server reported a task that it had named to be at its end. -/
def Ended (reports : List Report) : Prop :=
  ∃ report ∈ reports, report.detail.terminal = true ∧ Named reports report.detail.id

section Histories

variable {reports : List Report} {report : Report} {id : String}

theorem Named.cons (h : Named reports id) : Named (report :: reports) id := by
  obtain ⟨old, hmem, hold⟩ := h
  exact ⟨old, List.mem_cons_of_mem _ hmem, hold⟩

theorem Ended.cons (h : Ended reports) : Ended (report :: reports) := by
  obtain ⟨old, hmem, hterminal, hnamed⟩ := h
  exact ⟨old, List.mem_cons_of_mem _ hmem, hterminal, hnamed.cons⟩

end Histories

/-- A row that the histories of its key account for. -/
structure Accounted (key : String) (sent : List PromptRequest)
    (reports : List Report) (row : PendingPromptTaskRecord) : Prop where
  keyed : row.clientRequestId = key
  request : row.serverTaskId = "" → ∀ request ∈ sent, promptRequest row = some request
  marked : row.serverTaskId = "" → sent ≠ [] → row.submissionStarted = true
  named : row.serverTaskId ≠ "" → Named reports row.serverTaskId
  unended : row.serverTaskId = "" → row.resultPrompt = "" ∧ row.terminalError = ""
  result : trimIsEmpty row.resultPrompt = true → row.resultPrompt = ""
  cancelled : row.cancelRequested = false
  committed : row.resultCommitted = false

structure KeyState where
  row : Option PendingPromptTaskRecord
  stored : Bool
  sent : List PromptRequest
  reports : List Report

def World.part (beside : Beside) (key : String) (world : World) : KeyState where
  row := (world.row key).map (core beside)
  stored := world.stored.contains key
  sent := world.sent.filter (·.key = key)
  reports := world.reports.filter (·.key = key)

namespace KeyState

structure Good (beside : Beside) (key : String) (v : KeyState) : Prop where
  row : ∀ row, v.row = some row → Accounted key v.sent v.reports row
  stored : ∀ row, v.row = some row → v.stored = true
  sent : ∀ request ∈ v.sent, v.stored = true
  unique : ∀ request ∈ v.sent, ∀ other ∈ v.sent, request = other
  released : v.row = none → v.sent ≠ [] → Ended v.reports ∨ key ∈ beside.committed

/-- How the state of a key changes: a key that was stored stays stored, a row that is gone does not
come back, and a result goes with its row alone. -/
structure Moves (beside : Beside) (key : String) (before after : KeyState) : Prop where
  stored : before.stored = true → after.stored = true
  row : before.stored = true → ∀ later, after.row = some later →
    ∃ row, before.row = some row ∧ (row.resultPrompt ≠ "" → later.resultPrompt = row.resultPrompt)
  dropped : before.stored = true → ∀ row, before.row = some row → row.resultPrompt ≠ "" →
    after.row = none → key ∈ beside.committed ∨ key ∈ beside.cancelled

variable {beside : Beside} {key : String} {u v w : KeyState} {row later : PendingPromptTaskRecord}
  {request : PromptRequest} {report : Report}

theorem Moves.of_row (hstored : w.stored = v.stored) (hrow : w.row = v.row) :
    Moves beside key v w := by
  refine ⟨fun h => hstored ▸ h, fun _ later hlater => ⟨later, hrow ▸ hlater, fun _ => rfl⟩, ?_⟩
  intro _ row hthere _ hnone
  rw [hrow, hthere] at hnone
  cases hnone

theorem Moves.trans (h : Moves beside key u v) (h' : Moves beside key v w) :
    Moves beside key u w where
  stored := h'.stored ∘ h.stored
  row hstored later hlater := by
    obtain ⟨middle, hmiddle, hsame⟩ := h'.row (h.stored hstored) later hlater
    obtain ⟨row, hrow, hsame'⟩ := h.row hstored middle hmiddle
    refine ⟨row, hrow, fun hne => ?_⟩
    have hmid := hsame' hne
    rw [hsame (hmid ▸ hne), hmid]
  dropped hstored row hrow hne hnone := by
    cases hmiddle : v.row with
    | none => exact h.dropped hstored row hrow hne hmiddle
    | some middle =>
      obtain ⟨first, hfirst, hsame⟩ := h.row hstored middle hmiddle
      cases hrow.symm.trans hfirst
      exact h'.dropped (h.stored hstored) middle hmiddle (hsame hne ▸ hne) hnone

def edit (beside : Beside) (row : Option PendingPromptTaskRecord) (v : KeyState) : KeyState :=
  { v with row := row.map (core beside), stored := row.isSome || v.stored }

def send (request : PromptRequest) (v : KeyState) : KeyState := { v with sent := request :: v.sent }

def gain (report : Report) (v : KeyState) : KeyState := { v with reports := report :: v.reports }

theorem Good.send (h : Good beside key v) (hrow : v.row = some row) (hunnamed : row.serverTaskId = "")
    (hmarked : row.submissionStarted = true) (hrequest : promptRequest row = some request) :
    Good beside key (v.send request) := by
  have haccounted := h.row row hrow
  have hall : ∀ other ∈ (v.send request).sent, other = request := by
    intro other hmem
    rcases List.mem_cons.mp hmem with rfl | hold
    · rfl
    · exact Option.some.inj ((haccounted.request hunnamed other hold).symm.trans hrequest)
  refine ⟨?_, h.stored, fun _ _ => h.stored row hrow, ?_, ?_⟩
  · intro row' hrow'
    cases hrow.symm.trans hrow'
    refine { haccounted with request := ?_, marked := fun _ _ => hmarked }
    intro _ other hmem
    rw [hall other hmem, hrequest]
  · intro one hone other hother
    rw [hall one hone, hall other hother]
  · intro hnone
    cases hrow.symm.trans hnone

theorem Good.gain (h : Good beside key v) : Good beside key (v.gain report) :=
  { h with
    row := fun row hrow =>
      { h.row row hrow with named := fun hne => ((h.row row hrow).named hne).cons }
    released := fun hnone hsent => (h.released hnone hsent).imp_left .cons }

/-- A row in the place of another, or a first row. -/
theorem Good.edit (h : Good beside key v)
    (haccounted : Accounted key v.sent v.reports (core beside later)) :
    Good beside key (v.edit beside (some later)) where
  row := by
    rintro _ ⟨⟩
    exact haccounted
  stored _ _ := rfl
  sent _ _ := rfl
  unique := h.unique
  released := by simp [KeyState.edit]

theorem Moves.edit (hrow : v.row = some row)
    (hresult : row.resultPrompt ≠ "" → later.resultPrompt = row.resultPrompt) :
    Moves beside key v (v.edit beside (some later)) := by
  refine ⟨fun _ => rfl, ?_, ?_⟩
  · rintro - _ ⟨⟩
    exact ⟨row, hrow, hresult⟩
  · simp [KeyState.edit]

theorem Good.remove (h : Good beside key v)
    (hreleased : v.sent ≠ [] → Ended v.reports ∨ key ∈ beside.committed) :
    Good beside key (v.edit beside none) where
  row := by simp [KeyState.edit]
  stored := by simp [KeyState.edit]
  sent := h.sent
  unique := h.unique
  released _ := hreleased

theorem Moves.remove (h : key ∈ beside.committed ∨ key ∈ beside.cancelled) :
    Moves beside key v (v.edit beside none) :=
  ⟨id, by simp [KeyState.edit], fun _ _ _ _ _ => h⟩

/-- The row of a new request, under a key that was never stored. -/
structure New (key : String) (record : PendingPromptTaskRecord) : Prop where
  keyed : record.clientRequestId = key
  unnamed : record.serverTaskId = ""
  result : record.resultPrompt = ""
  error : record.terminalError = ""
  cancelled : record.cancelRequested = false
  committed : record.resultCommitted = false

theorem Good.insert (h : Good beside key v) (hnew : v.stored = false) (hrecord : New key later) :
    Good beside key (v.edit beside (some later)) ∧
      Moves beside key v (v.edit beside (some later)) := by
  have hsent : v.sent = [] := by
    by_contra hne
    obtain ⟨request, hmem⟩ := List.exists_mem_of_ne_nil _ hne
    rw [h.sent request hmem] at hnew
    cases hnew
  refine ⟨h.edit ?_, fun _ => rfl, ?_, ?_⟩
  · refine ⟨hrecord.keyed, ?_, ?_, fun hne => absurd hrecord.unnamed hne,
      fun _ => ⟨hrecord.result, hrecord.error⟩, fun _ => hrecord.result, ?_, ?_⟩
    · intro _ request hmem
      rw [hsent] at hmem
      cases hmem
    · exact fun _ hne => absurd hsent hne
    · simp [core, hrecord.cancelled]
    · simp [core, hrecord.committed]
  · intro hstored
    rw [hnew] at hstored
    cases hstored
  · simp [KeyState.edit]

end KeyState

open KeyState

/-- The parts of the world under the keys. -/
def keys (beside : Beside) : Parts World Answers String KeyState where
  admits _ := True
  part := World.part beside
  good := Good beside
  moves := Moves beside
  moves_refl _ _ := .of_row rfl rfl
  moves_trans _ _ _ _ := .trans

section Parts

variable {beside : Beside} {world : World} {key other : String} {answers : StorageAnswers}
  {authority : NamespaceStorageAuthority} {op : PromptOperation} {request : PromptRequest}
  {detail : PromptTaskDetail} {creation : Bool}

/-- An operation leaves the rows under the other keys. -/
theorem run_others (hother : other ≠ op.identity.clientRequestId) :
    promptTable.lookup (op.run answers authority world.file).2 other =
      promptTable.lookup world.file other := by
  cases op with
  | upsert scope record =>
    rcases PromptOperation.run_upsert answers authority world.file scope record
      with ⟨failure, hfail⟩ | ⟨next, hpublished, hrow, -⟩
    · rw [hfail]
    · rw [hpublished]
      exact hrow.lookup_other hother
  | remove | rebind | patch =>
    exact (PromptOperation.run_edited (by simp)).others other hother

theorem part_operated_other (hother : other ≠ op.identity.clientRequestId) :
    (world.operated answers authority op).part beside other = world.part beside other := by
  have hrow : (world.operated answers authority op).row other = world.row other := run_others hother
  have hstored : (world.operated answers authority op).stored.contains other =
      world.stored.contains other := by
    unfold World.operated
    dsimp only
    split
    · simp [hother]
    · rfl
  simp only [World.part, hrow, hstored]
  rfl

/-- The part of the key that an operation names. -/
theorem part_operated (hkey : op.identity.clientRequestId = key) :
    (world.operated answers authority op).part beside key = (world.part beside key).edit beside
      (promptTable.lookup (op.run answers authority world.file).2 key) := by
  subst hkey
  unfold World.operated World.part KeyState.edit World.row
  dsimp only
  split
  · rename_i hsome
    simp [hsome]
  · rename_i hnone
    simp [hnone]

theorem part_send_other (hother : other ≠ request.key) :
    (world.send request).part beside other = world.part beside other := by
  simp [World.part, World.row, World.send, hother.symm]

theorem part_send : (world.send request).part beside request.key =
    (world.part beside request.key).send request := by
  simp [World.part, World.row, World.send, KeyState.send]

theorem part_answers_other (hother : other ≠ key) :
    (world.answers key creation (.ok detail)).part beside other = world.part beside other := by
  simp [World.part, World.row, World.answers, hother.symm]

theorem part_answers : (world.answers key creation (.ok detail)).part beside key =
    (world.part beside key).gain ⟨key, creation, detail⟩ := by
  simp [World.part, World.row, World.answers, KeyState.gain]

/-- The row that is there is stored. -/
theorem edit_lookup (hgood : Good beside key (world.part beside key)) :
    (world.part beside key).edit beside (promptTable.lookup world.file key) =
      world.part beside key := by
  unfold KeyState.edit
  cases hrow : promptTable.lookup world.file key with
  | none => simp [World.part, World.row, hrow]
  | some row =>
    have hstored := hgood.stored (core beside row) (by simp [World.part, World.row, hrow])
    simp [World.part, World.row, hrow] at hstored ⊢
    exact hstored

/-- The other tasks leave the rows. -/
theorem part_besides (op : DeepOperation) :
    (world.besides answers authority op).part beside key = world.part beside key := by
  have hrest := (op.tableResult answers authority world.file).rest
  have htasks := congrArg PromptTaskRecoveryFile.promptTasks hrest
  have hrows : promptTable.rowsOf (world.besides answers authority op).file =
      promptTable.rowsOf world.file := htasks
  unfold World.part World.row RowTable.lookup
  rw [hrows]
  rfl

end Parts

end ArtForgeStudio.PromptTasks
