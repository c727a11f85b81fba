import ArtForgeStudio.PromptTasks.Rows

/-! # The actions keep the keys good

What a worker has in hand is its row, up to what the window and the user write. A request is sent
only as the row says, and a task is written only where the server named it.
-/

namespace ArtForgeStudio.PromptTasks

open ArtForgeStudio.Api ArtForgeStudio.Recovery ArtForgeStudio.KeyedRows ArtForgeStudio.Concurrency
  ArtForgeStudio.Outcome KeyState Parts

/-- The record is the row of the key. -/
def Held (beside : Beside) (record : PendingPromptTaskRecord) (v : KeyState) : Prop :=
  v.row = some (core beside record)

section Cores

variable {beside : Beside} {own : String} {record row : PendingPromptTaskRecord} {v : KeyState}

theorem Held.accounted (h : Held beside record v) (hgood : Good beside own v) :
    Accounted own v.sent v.reports (core beside record) := hgood.row _ h

theorem Held.keyed (h : Held beside record v) (hgood : Good beside own v) :
    record.clientRequestId = own := (h.accounted hgood).keyed

/-- A record is committed or cancelled only where the window or the user did that. -/
theorem Held.committed (h : Held beside record v) (hgood : Good beside own v)
    (hcommitted : record.resultCommitted = true) : own ∈ beside.committed := by
  have hcore := (h.accounted hgood).committed
  have hkey := h.keyed hgood
  simpa [core, hcommitted, hkey] using hcore

theorem Held.cancelled (h : Held beside record v) (hgood : Good beside own v)
    (hcancelled : record.cancelRequested = true) : own ∈ beside.cancelled := by
  have hcore := (h.accounted hgood).cancelled
  have hkey := h.keyed hgood
  simpa [core, hcancelled, hkey] using hcore

theorem core_written (change : PromptTaskRecoveryPatch) :
    core beside (change.written row) = core beside (change.written (core beside row)) := by
  cases change <;> simp [core, PromptTaskRecoveryPatch.written]

theorem core_setAuthEpoch (epoch : Nat) :
    core beside (RecoveryRow.setAuthEpoch epoch row) =
      RecoveryRow.setAuthEpoch epoch (core beside row) := rfl

theorem core_remap (authority : NamespaceStorageAuthority) :
    core beside (remapPromptTask authority row) = core beside row := by
  simp [core, remapPromptTask, Function.comp_def]

end Cores

section Actions

variable {beside : Beside} {own : String} {P Q R : KeyState → Prop} {worker : PromptWorker}
  {authority : NamespaceStorageAuthority} {op : PromptOperation} {missing : String}
  {record : PendingPromptTaskRecord} {detail : PromptTaskDetail} {request : PromptRequest}
  {failed : ApiError → KeyState → Prop} {patch : PromptTaskRecoveryPatch} {id : String}

/-- What only looks leaves the assertion. -/
theorem looks_tries {α : Type} (view : Answers → World → Except ApiError α)
    (h : ∀ error v, P v → failed error v) :
    (keys beside).Tries own P (.mk (.read view)) (fun _ => P) failed := by
  refine .read fun answers world _ hat => ?_
  cases view answers world with
  | error error => exact h error _ hat
  | ok result => exact hat

/-- A check of what is in hand. -/
theorem check_tries {α : Type} (check : Except ApiError α) (h : ∀ error v, P v → failed error v) :
    (keys beside).Tries own P (.mk (pure check)) (fun result v => P v ∧ check = .ok result)
      failed := by
  refine .done fun v _ hat => ?_
  cases check with
  | error error => exact h error v hat
  | ok result => exact ⟨hat, rfl⟩

theorem operated_touches (hkey : op.identity.clientRequestId = own) {world : World}
    {answers : StorageAnswers} (h : Good beside own (world.part beside own) →
      Good beside own ((world.operated answers authority op).part beside own) ∧
        Moves beside own (world.part beside own)
          ((world.operated answers authority op).part beside own)) :
    (keys beside).Touches own world (world.operated answers authority op) :=
  ⟨fun _ hother => part_operated_other (hkey ▸ hother), h⟩

/-- An operation on a retained row: what it makes of the row is as good. -/
theorem requireUpdate_tries (hkey : op.identity.clientRequestId = own)
    (hop : ∀ scope record, op ≠ .upsert scope record)
    (h : ∀ v row, Good beside own v → P v → v.row = some (core beside row) →
      Good beside own (v.edit beside (op.edited row)) ∧
        Moves beside own v (v.edit beside (op.edited row)) ∧ Q (v.edit beside (op.edited row))) :
    (keys beside).Tries own P (requireUpdate authority op missing) (fun _ => Q) fun _ _ => True := by
  subst hkey
  let after (result : Except Failure Bool) (v : KeyState) : Prop := result = .ok true → Q v
  have hoperate : (keys beside).Judges op.identity.clientRequestId P (operate authority op)
      after := by
    refine .act fun answers world _ hgood hat => ?_
    have hpart : World.part beside op.identity.clientRequestId
        (world.operated answers.storage authority op) =
          (world.part beside op.identity.clientRequestId).edit beside (promptTable.lookup
            (op.run answers.storage authority world.file).2 op.identity.clientRequestId) :=
      part_operated rfl
    have hedited : RowEdited promptTable op.identity op.edited world.file
        (op.run answers.storage authority world.file) := PromptOperation.run_edited hop
    rcases hedited.row with ⟨hresult, hsame⟩ | ⟨-, row, hrow, hidentity, hafter⟩
    · rw [hsame, edit_lookup hgood] at hpart
      refine ⟨operated_touches rfl fun hgood => ?_, fun htrue => absurd htrue hresult⟩
      rw [hpart]
      exact ⟨hgood, .of_row rfl rfl⟩
    · rw [hafter] at hpart
      have hcore : (world.part beside op.identity.clientRequestId).row = some (core beside row) :=
        congrArg (Option.map (core beside)) hrow
      obtain ⟨hgood', hmoves, hq⟩ := h _ row hgood hat hcore
      refine ⟨operated_touches rfl fun _ => ?_, fun _ => ?_⟩
      · rw [hpart]
        exact ⟨hgood', hmoves⟩
      · change Q (World.part _ _ _)
        rw [hpart]
        exact hq
  refine Judges.bind hoperate fun result => ?_
  match result with
  | .ok true => exact .done fun _ _ hat => hat rfl
  | .ok false => exact .done fun _ _ _ => trivial
  | .error failure => exact .done fun _ _ _ => trivial

/-- A patch of the row in hand. What else is known is about the histories. -/
theorem patch_tries (hkey : record.clientRequestId = own)
    (hR : ∀ v row, R v → R (v.edit beside row))
    (h : ∀ v, Good beside own v → R v → Accounted own v.sent v.reports (core beside record) →
      Accounted own v.sent v.reports (core beside (patch.written record)))
    (hresult : record.resultPrompt ≠ "" → (patch.written record).resultPrompt = record.resultPrompt) :
    (keys beside).Tries own (fun v => Held beside record v ∧ R v)
      (requirePromptPatch worker record patch)
      (fun _ v => Held beside (patch.written record) v ∧ R v) fun _ _ => True := by
  refine requireUpdate_tries hkey (by simp) fun v row hgood hat hrow => ?_
  have hsame : core beside row = core beside record := Option.some.inj (hrow.symm.trans hat.1)
  have hwritten : core beside (patch.written row) = core beside (patch.written record) := by
    rw [core_written, hsame, ← core_written]
  have hedit : v.edit beside
      (PromptOperation.edited row (.patch (RecoveryRow.identity record) patch)) =
        v.edit beside (some (patch.written record)) := by
    simp only [PromptOperation.edited, KeyState.edit, Option.map_some, hwritten, Option.isSome_some]
  rw [hedit]
  exact ⟨hgood.edit (h v hgood hat.2 (hat.1.accounted hgood)), .edit hat.1 hresult, rfl, hR _ _ hat.2⟩

/-- A patch of the row in hand that asks for no more than the row. -/
theorem write_tries (hkey : record.clientRequestId = own)
    (h : ∀ v : KeyState, Accounted own v.sent v.reports (core beside record) →
      Accounted own v.sent v.reports (core beside (patch.written record)))
    (hresult : record.resultPrompt ≠ "" → (patch.written record).resultPrompt = record.resultPrompt) :
    (keys beside).Tries own (Held beside record) (requirePromptPatch worker record patch)
      (fun _ => Held beside (patch.written record)) fun _ _ => True :=
  (patch_tries (R := fun _ => True) hkey (fun _ _ => id) (fun v _ _ => h v) hresult).mono
    (fun _ _ hat => ⟨hat, trivial⟩) (fun _ _ _ => And.left) fun _ _ _ => id

theorem rebindPrompt_tries (hkey : record.clientRequestId = own)
    (hR : ∀ v row, R v → R (v.edit beside row)) :
    (keys beside).Tries own (fun v => Held beside record v ∧ R v)
      (rebindPrompt worker record missing)
      (fun later v => (Held beside later v ∧ R v) ∧
        ∃ epoch, later = RecoveryRow.setAuthEpoch epoch record) fun _ _ => True := by
  refine .ite (fun _ => ?_) fun _ => .pure fun _ _ hat => ⟨hat, record.authEpoch, rfl⟩
  refine .bind (Q := fun _ v =>
      Held beside (RecoveryRow.setAuthEpoch worker.session.authEpoch record) v ∧ R v)
    (requireUpdate_tries hkey (by simp) fun v row hgood hat hrow => ?_) fun _ =>
      .pure fun _ _ hat => ⟨hat, _, rfl⟩
  have hsame : core beside row = core beside record := Option.some.inj (hrow.symm.trans hat.1)
  have haccounted := hat.1.accounted hgood
  refine ⟨hgood.edit ?_, .edit hrow fun _ => rfl, ?_, hR _ _ hat.2⟩
  · rw [core_setAuthEpoch, hsame]
    exact { haccounted with }
  · unfold Held
    exact congrArg some (congrArg (RecoveryRow.setAuthEpoch _) hsame)

/-- The task that the server named is written into a row that has none. -/
theorem nameTask_tries (hkey : record.clientRequestId = own)
    (hR : ∀ v row, R v → R (v.edit beside row)) (hid : id ≠ "")
    (hsame : record.serverTaskId = "" ∨ record.serverTaskId = id)
    (hnamed : record.serverTaskId = "" → ∀ v, R v → Named v.reports id) :
    (keys beside).Tries own (fun v => Held beside record v ∧ R v) (nameTask worker record id)
      (fun later v => (Held beside later v ∧ R v) ∧ later = { record with serverTaskId := id })
      fun _ _ => True := by
  refine .ite (fun hunnamed => ?_) fun htask => .pure fun v _ hat => ⟨hat, ?_⟩
  · refine .bind (patch_tries hkey hR (fun v _ hr haccounted => ?_) fun _ => rfl) fun _ =>
      .pure fun _ _ hat => ⟨hat, rfl⟩
    exact { haccounted with
      request := fun hempty => absurd hempty hid
      marked := fun hempty => absurd hempty hid
      named := fun _ => hnamed hunnamed v hr
      unended := fun hempty => absurd hempty hid }
  · rw [← hsame.resolve_left htask]

/-- An answer about the task of the record: to its request, unless it has a task already. -/
structure Answered (beside : Beside) (record : PendingPromptTaskRecord) (detail : PromptTaskDetail)
    (v : KeyState) : Prop where
  held : Held beside record v
  reported : ∃ report ∈ v.reports, report.detail = detail ∧
    (record.serverTaskId = "" → report.creation = true)

/-- The record may be sent as it stands. -/
structure Sendable (record : PendingPromptTaskRecord) (request : PromptRequest) : Prop where
  unnamed : record.serverTaskId = ""
  marked : record.submissionStarted = true
  request : promptRequest record = some request

theorem post_tries (hkey : request.key = own) (h : Sendable record request) :
    (keys beside).Tries own (Held beside record) (post request) (fun _ => Held beside record)
      fun _ => Held beside record := by
  subst hkey
  refine .act fun answers world _ _ hat => ?_
  cases answers.post with
  | error error => exact ⟨.refl, hat⟩
  | ok u =>
    refine ⟨⟨fun _ hother => part_send_other hother, fun hgood => ?_⟩, ?_⟩
    · change Good beside request.key (World.part _ _ _) ∧ Moves _ _ _ (World.part _ _ _)
      rw [part_send]
      refine ⟨hgood.send hat h.unnamed h.marked ?_, .of_row rfl rfl⟩
      rw [promptRequest_core, h.request]
    · change Held beside record (World.part _ _ _)
      rw [part_send]
      exact hat

/-- An answer is noted under the key that it is about. -/
theorem answers_tries {view : Answers → Except ApiError PromptTaskDetail} {creation : Bool}
    (h : record.serverTaskId = "" → creation = true) :
    (keys beside).Tries own (Held beside record)
      (.mk (.atomic fun answers world => (view answers, world.answers own creation (view answers))))
      (Answered beside record) fun _ => Held beside record := by
  refine .act fun answers world _ _ hat => ?_
  dsimp only
  cases view answers with
  | error error => exact ⟨.refl, hat⟩
  | ok detail =>
    refine ⟨⟨fun _ hother => part_answers_other hother, fun hgood => ?_⟩, ?_⟩
    · change Good beside own (World.part _ _ _) ∧ Moves _ _ _ (World.part _ _ _)
      rw [part_answers]
      exact ⟨hgood.gain, .of_row rfl rfl⟩
    · change Answered beside record detail (World.part _ _ _)
      rw [part_answers]
      exact ⟨hat, _, List.mem_cons_self, rfl, h⟩

theorem sendOnce_tries (hkey : request.key = own) (h : Sendable record request) :
    (keys beside).Tries own (Held beside record) (sendOnce request) (Answered beside record)
      fun _ => Held beside record := by
  refine .bind (post_tries hkey h) fun _ => ?_
  rw [hkey]
  exact answers_tries fun _ => rfl

theorem authenticatedJsonWithScope_tries (hkey : request.key = own) (h : Sendable record request) :
    (keys beside).Tries own (Held beside record) (authenticatedJsonWithScope request)
      (Answered beside record) fun _ => Held beside record := by
  have haccess : (keys beside).Tries own (Held beside record) accessOrRefresh
      (fun _ => Held beside record) fun _ => Held beside record := looks_tries _ fun _ _ => id
  refine .bind haccess fun _ => .catch (sendOnce_tries hkey h) fun error => ?_
  refine .ite (fun _ => ?_) fun _ => .throw fun _ _ => id
  exact .bind haccess fun _ => sendOnce_tries hkey h

theorem billingJson_tries (hkey : request.key = own) (h : Sendable record request) :
    (keys beside).Tries own (Held beside record) (billingJson request) (Answered beside record)
      fun _ => Held beside record :=
  .catch (authenticatedJsonWithScope_tries hkey h) fun _ => .throw fun _ _ => id

/-- A check of an answer. -/
theorem answer_tries {α : Type} (check : Except ApiError α) :
    (keys beside).Tries own (Answered beside record detail) (.mk (pure check))
      (fun _ => Answered beside record detail) fun _ => Held beside record :=
  (check_tries check fun _ _ => Answered.held).mono (fun _ _ => id) (fun _ _ _ => And.left)
    fun _ _ _ => id

/-- A row whose references are uploaded asks for its task. -/
theorem promptRequest_complete (h : record.uploadedFileIds.length = record.referencePaths.length) :
    promptRequest record = some ⟨record.clientRequestId, record.billingAccountGroupId,
      "/v1/generation/tasks", (promptTaskCreateRequest record).toValue⟩ := by
  simp [promptRequest, savedPromptRequest, h, ensure]
  rfl

theorem complete_of_promptRequest (h : promptRequest record = some request) :
    record.uploadedFileIds.length = record.referencePaths.length := by
  unfold promptRequest at h
  split at h
  · next path body hsaved =>
    obtain ⟨_, hensure, -⟩ := bind_eq_ok.mp hsaved
    simpa using hensure
  · cases h

theorem createTaskBilling_tries {scope : BillingScope} (hkey : record.clientRequestId = own)
    (hpayer : scope.accountGroupId = record.billingAccountGroupId)
    (hunnamed : record.serverTaskId = "") (hmarked : record.submissionStarted = true)
    (hcomplete : record.uploadedFileIds.length = record.referencePaths.length) :
    (keys beside).Tries own (Held beside record) (createTaskBilling record scope)
      (Answered beside record) fun _ => Held beside record := by
  refine .bind (billingJson_tries hkey ⟨hunnamed, hmarked, ?_⟩) fun detail => ?_
  · rw [promptRequest_complete hcomplete, hpayer]
  refine .bind (answer_tries _) fun _ => .bind (answer_tries _) fun _ => .pure fun _ _ => id

theorem savedReplay_tries (hmarked : record.serverTaskId = "" → record.submissionStarted = true) :
    (keys beside).Tries own (Held beside record) (savedReplay worker own)
      (fun request v => Held beside record v ∧ request.key = own ∧
        Sendable record ⟨request.key, request.payer, request.path, request.body⟩)
      fun _ _ => True := by
  refine .read fun answers world hgood hat => ?_
  cases hload : SavedReplayRequest.prompt answers.readable worker.authority worker.session own
      world.file with
  | error failure => trivial
  | ok request =>
    obtain ⟨row, hlookup, hkey, hpayer, hsaved⟩ := prompt_ok hload
    obtain ⟨⟨⟩, hensure, -⟩ := bind_eq_ok.mp hsaved
    have hunnamed : row.serverTaskId = "" := (ensure_eq_ok.mp hensure).1
    have hcore : core beside row = core beside record :=
      Option.some.inj ((congrArg (Option.map (core beside)) hlookup).symm.trans hat)
    have hempty : record.serverTaskId = "" :=
      (congrArg PendingPromptTaskRecord.serverTaskId hcore).symm.trans hunnamed
    refine ⟨hat, hkey, hempty, hmarked hempty, ?_⟩
    have hsame : { remapPromptTask worker.authority row with serverTaskId := "" } =
        remapPromptTask worker.authority row := by
      simp only [remapPromptTask, ← hunnamed]
    have hrow : row.clientRequestId = own := key_of_find hlookup
    rw [← promptRequest_core beside, ← hcore, ← core_remap worker.authority, promptRequest_core]
    unfold promptRequest
    rw [hsame, hsaved, hkey, hpayer, ← hrow]
    rfl

theorem replaySaved_tries {saved : SavedReplayRequest PendingPromptTaskRecord}
    (hkey : saved.key = own)
    (h : Sendable record ⟨saved.key, saved.payer, saved.path, saved.body⟩) :
    (keys beside).Tries own (Held beside record) (replaySaved worker saved) (Answered beside record)
      fun _ => Held beside record := by
  have hlooks : ∀ view : Answers → World → Except ApiError Unit,
      (keys beside).Tries own (Held beside record) (.mk (.read view)) (fun _ => Held beside record)
        fun _ => Held beside record := fun view => looks_tries view fun _ _ => id
  exact .bind (hlooks _) fun _ => .bind (hlooks _) fun _ => billingJson_tries hkey h

theorem taskScoped_tries (hkey : record.clientRequestId = own) (hnamed : record.serverTaskId ≠ "") :
    (keys beside).Tries own (Held beside record) (taskScoped record) (Answered beside record)
      fun _ => Held beside record := by
  subst hkey
  refine .bind (answers_tries fun hempty => absurd hempty hnamed) fun detail => ?_
  exact .bind (answer_tries _) fun _ => .pure fun _ _ => id

theorem replayOrQuery_tries (hkey : record.clientRequestId = own)
    (hmarked : record.serverTaskId = "" → record.submissionStarted = true) :
    (keys beside).Tries own (Held beside record) (replayOrQuery worker record)
      (Answered beside record) fun _ _ => True := by
  refine .ite (fun _ => ?_) fun hnamed => ?_
  · rw [hkey]
    refine .bind (savedReplay_tries hmarked) fun saved => .given (fun _ _ hat => hat.2) ?_
    rintro ⟨hsaved, hsendable⟩
    refine .weaken ?_ fun _ _ hat => hat.1
    exact (replaySaved_tries hsaved hsendable).fails fun _ _ _ _ => trivial
  · exact (taskScoped_tries hkey hnamed).fails fun _ _ _ _ => trivial

theorem checkDetail_ok {message : String} (h : checkDetail record detail message = .ok ()) :
    detail.id ≠ "" ∧ (record.serverTaskId = "" ∨ record.serverTaskId = detail.id) := by
  simp only [checkDetail, bind_eq_ok, exists_unit, rejectIf_eq_ok] at h
  obtain ⟨-, hcheck⟩ := h
  refine ⟨fun hempty => hcheck (.inl ?_), or_iff_not_imp_left.mpr fun hne => ?_⟩
  · rw [hempty]
    rfl
  · exact by_contra fun hother => hcheck (.inr ⟨hne, Ne.symm hother⟩)

end Actions

end ArtForgeStudio.PromptTasks
