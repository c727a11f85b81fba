import ArtForgeStudio.PromptTasks.Rules

/-! # The workers keep the keys good

A worker that starts from the row of its key sends what the row says, and removes the row only
after the server reported the end of its task or the result was committed. A record of an earlier
login must be marked as sent before it is replayed.
-/

namespace ArtForgeStudio.PromptTasks

open ArtForgeStudio.Api ArtForgeStudio.Recovery ArtForgeStudio.KeyedRows ArtForgeStudio.Concurrency
  ArtForgeStudio.Outcome KeyState Parts

section Tasks

variable {beside : Beside} {own : String} {P : KeyState → Prop} {worker : PromptWorker}
  {record : PendingPromptTaskRecord} {detail : PromptTaskDetail} {billing : Option BillingScope}
  {rounds : Nat}

theorem quiet_tries {α : Type} (view : Answers → World → Except ApiError α) :
    (keys beside).Tries own P (.mk (.read view)) (fun _ => P) fun _ _ => True :=
  looks_tries view fun _ _ _ => trivial

theorem checked_tries {α : Type} (check : Except ApiError α) :
    (keys beside).Tries own P (.mk (pure check)) (fun result v => P v ∧ check = .ok result)
      fun _ _ => True :=
  check_tries check fun _ _ _ => trivial

/-- A check whose result does not matter later. -/
theorem passed_tries (check : Except ApiError Unit) :
    (keys beside).Tries own P (.mk (pure check)) (fun _ => P) fun _ _ => True :=
  (checked_tries check).mono (fun _ _ => id) (fun _ _ _ => And.left) fun _ _ _ => id

theorem waitOrStop_tries : (keys beside).Tries own P worker.waitOrStop (fun _ => P) fun _ _ => True :=
  .bind (quiet_tries _) fun _ => .ite (fun _ => .pure fun _ _ => id) fun _ => quiet_tries _

theorem cleanupPromptReferences_tries (fileIds : List String) :
    (keys beside).Tries own P (cleanupPromptReferences worker fileIds) (fun _ => P)
      fun _ _ => True := by
  induction fileIds with
  | nil => exact .bind (quiet_tries _) fun _ => .pure fun _ _ => id
  | cons fileId rest ih =>
    refine .bind (quiet_tries _) fun _ => .bind (quiet_tries _) fun _ => ?_
    exact .ite (fun _ => ih) fun _ => .pure fun _ _ => id

theorem verifyPromptReferences_tries (missing : Nat) (index : Nat) :
    (keys beside).Tries own P (verifyPromptReferences worker record index missing) (fun _ => P)
      fun _ _ => True := by
  induction missing generalizing index with
  | zero => exact .pure fun _ _ => id
  | succ missing ih =>
    refine .bind ?_ fun _ => ih (index + 1)
    refine .bind (quiet_tries _) fun _ => .bind (passed_tries _) fun _ => ?_
    exact .bind (quiet_tries _) fun _ => passed_tries _

theorem uploadReference_tries :
    (keys beside).Tries own P (uploadReference worker rounds) (fun _ => P) fun _ _ => True := by
  induction rounds with
  | zero => exact .throw fun _ _ _ => trivial
  | succ rounds ih =>
    refine .bind (quiet_tries _) fun _ => .bind (Q := fun _ => P) ?_ fun result => ?_
    · refine .lift ?_
      refine Judges.read fun answers world _ hat => hat
    cases result with
    | ok fileId => exact .pure fun _ _ => id
    | error error =>
      refine .ite (fun _ => ?_) fun _ => .throw fun _ _ _ => trivial
      exact .bind waitOrStop_tries fun _ => ih

/-- The references that are missing are uploaded before anything is sent. -/
theorem uploadReferences_tries (missing : Nat) (hkey : record.clientRequestId = own)
    (hmissing : record.uploadedFileIds.length + missing = record.referencePaths.length) :
    (keys beside).Tries own (Held beside record) (uploadReferences worker rounds missing record)
      (fun later v => Held beside later v ∧ ∃ ids, later = { record with uploadedFileIds := ids } ∧
        ids.length = record.referencePaths.length) fun _ _ => True := by
  induction missing generalizing record with
  | zero => exact .pure fun _ _ hat => ⟨hat, _, rfl, hmissing⟩
  | succ missing ih =>
    refine .bind (quiet_tries _) fun _ => .bind uploadReference_tries fun fileId => ?_
    refine .bind (quiet_tries _) fun _ => ?_
    refine .bind (Q := fun _ => Held beside
      { record with uploadedFileIds := record.uploadedFileIds ++ [fileId] }) ?_ fun _ => ?_
    · refine write_tries hkey (fun _ haccounted => ?_) fun _ => rfl
      refine { haccounted with request := fun hempty request hmem => ?_ }
      have hcomplete := complete_of_promptRequest (haccounted.request hempty request hmem)
      simp only [core, List.length_map] at hcomplete
      omega
    have hlater : (record.uploadedFileIds ++ [fileId]).length + missing =
        record.referencePaths.length := by
      rw [List.length_append, List.length_singleton]
      omega
    have hrest := @ih { record with uploadedFileIds := record.uploadedFileIds ++ [fileId] } hkey
      hlater
    refine .bind (quiet_tries _) fun _ => hrest.mono (fun _ _ => id) ?_ fun _ _ _ => id
    rintro _ v - ⟨hheld, ids, rfl, hids⟩
    exact ⟨hheld, ids, rfl, hids⟩

theorem releaseReferences_tries (hkey : record.clientRequestId = own)
    (hnamed : record.serverTaskId ≠ "") :
    (keys beside).Tries own (Held beside record) (releaseReferences worker record)
      (fun later v => Held beside later v ∧ ∃ ids, later = { record with uploadedFileIds := ids })
      fun _ _ => True := by
  refine .ite (fun _ => .pure fun _ _ hat => ⟨hat, _, rfl⟩) fun _ => ?_
  refine .bind (cleanupPromptReferences_tries _) fun cleaned => ?_
  refine .ite (fun _ => ?_) fun _ => .pure fun _ _ hat => ⟨hat, _, rfl⟩
  refine .bind (quiet_tries _) fun _ => ?_
  refine .bind (Q := fun _ => Held beside { record with uploadedFileIds := [] }) ?_ fun _ =>
    .pure fun _ _ hat => ⟨hat, _, rfl⟩
  refine write_tries hkey (fun _ haccounted => ?_) fun _ => rfl
  exact { haccounted with request := fun hempty => absurd hempty hnamed }

/-- A row goes when its result is committed, or when the user cancelled it and the server reported
the end of what was sent. -/
theorem remove_tries {missing : String} (hkey : record.clientRequestId = own)
    (hdropped : own ∈ beside.committed ∨ own ∈ beside.cancelled)
    (h : ∀ v, P v → v.sent ≠ [] → Ended v.reports ∨ own ∈ beside.committed) :
    (keys beside).Tries own P
      (requireUpdate worker.authority (.remove (RecoveryRow.identity record)) missing)
      (fun _ _ => True) fun _ _ => True :=
  requireUpdate_tries hkey (by simp) fun v _ hgood hat _ =>
    ⟨hgood.remove (h v hat), .remove hdropped, trivial⟩

theorem removeSettled_tries (hkey : record.clientRequestId = own) (hown : own ∈ beside.committed) :
    (keys beside).Tries own P (removeSettled worker record) (fun _ _ => True) fun _ _ => True := by
  refine .ite (fun _ => ?_) fun _ => .pure fun _ _ _ => trivial
  exact .bind (quiet_tries _) fun _ => remove_tries hkey (.inl hown) fun _ _ _ => .inr hown

theorem finishPromptTerminal_tries (hkey : record.clientRequestId = own)
    (hnamed : record.serverTaskId ≠ "") :
    (keys beside).Tries own (Held beside record) (finishPromptTerminal worker record)
      (fun _ _ => True) fun _ _ => True := by
  refine .bind (quiet_tries _) fun _ => .bind (releaseReferences_tries hkey hnamed) fun later => ?_
  refine .given (fun _ _ hat => hat.2) ?_
  rintro ⟨ids, rfl⟩
  refine .ite (fun hcommitted => ?_) fun _ => .pure fun _ _ _ => trivial
  refine .given (fun _ hgood hat => hat.1.committed hgood hcommitted) fun hown => ?_
  exact .bind (removeSettled_tries hkey hown) fun _ => .pure fun _ _ _ => trivial

/-- The task of a row that has one, and its end where the server reported that. -/
theorem ended_of_answer {v : KeyState} (hgood : Good beside own v) (hheld : Held beside record v)
    (hnamed : record.serverTaskId ≠ "")
    (hreport : ∃ report ∈ v.reports, report.detail = detail)
    (hid : detail.id = record.serverTaskId) (hterminal : detail.terminal = true) :
    Ended v.reports := by
  obtain ⟨report, hmem, rfl⟩ := hreport
  refine ⟨report, hmem, hterminal, ?_⟩
  rw [hid]
  exact (hheld.accounted hgood).named hnamed

theorem confirmOnce_tries {cancellation : Except ApiError Unit}
    (hkey : record.clientRequestId = own) (hnamed : record.serverTaskId ≠ "") :
    (keys beside).Tries own (Held beside record) (confirmOnce record cancellation)
      (fun ended v => Held beside record v ∧ (ended = true → Ended v.reports)) fun _ _ => True := by
  refine .bind (quiet_tries _) fun _ => .bind (passed_tries _) fun _ => ?_
  refine .bind (Tries.lift (taskScoped_tries hkey hnamed)) fun result => ?_
  cases result with
  | error error => exact .bind (passed_tries _) fun _ => .pure fun _ _ hat => ⟨hat, nofun⟩
  | ok detail =>
    refine .bind (quiet_tries _) fun _ => .bind (passed_tries _) fun _ => ?_
    refine .bind (checked_tries _) fun _ => .given (fun _ _ hat => hat.2) fun hcheck => ?_
    have hid : detail.id = record.serverTaskId := not_not.mp (rejectIf_eq_ok.mp hcheck)
    refine .ite (fun hterminal => .pure fun v hgood hat => ?_) fun _ =>
      .bind (passed_tries _) fun _ => .pure fun _ _ hat => ⟨hat.1.held, nofun⟩
    obtain ⟨report, hmem, hdetail, -⟩ := hat.1.reported
    exact ⟨hat.1.held, fun _ =>
      ended_of_answer hgood hat.1.held hnamed ⟨report, hmem, hdetail⟩ hid hterminal⟩

theorem cancelAgain_tries {cancellation : Except ApiError Unit} :
    (keys beside).Tries own P (cancelAgain worker cancellation) (fun _ => P) fun _ _ => True := by
  refine .bind (quiet_tries _) fun _ => .ite (fun _ => ?_) fun _ =>
    .bind (quiet_tries _) fun _ => .throw fun _ _ _ => trivial
  cases cancellation with
  | ok u => exact .pure fun _ _ => id
  | error error =>
    refine .ite (fun _ => .lift ?_) fun _ => .pure fun _ _ => id
    exact Judges.read fun _ _ _ hat => hat

theorem confirmAttempts_tries (left : Nat) {cancellation : Except ApiError Unit}
    (hkey : record.clientRequestId = own) (hnamed : record.serverTaskId ≠ "") :
    (keys beside).Tries own (Held beside record) (confirmAttempts worker record left cancellation)
      (fun _ v => Ended v.reports) fun _ _ => True := by
  induction left generalizing cancellation with
  | zero => exact .throw fun _ _ _ => trivial
  | succ left ih =>
    refine .bind (confirmOnce_tries hkey hnamed) fun ended => ?_
    refine .ite (fun hended => .pure fun _ _ hat => hat.2 hended) fun _ => ?_
    refine .ite (fun _ => .throw fun _ _ _ => trivial) fun _ => ?_
    exact .bind (.weaken cancelAgain_tries fun _ _ hat => hat.1) fun _ => ih

theorem confirmPromptCancellation_tries (hkey : record.clientRequestId = own)
    (hnamed : record.serverTaskId ≠ "") :
    (keys beside).Tries own (Held beside record) (confirmPromptCancellation worker record)
      (fun _ v => Ended v.reports) fun _ _ => True := by
  refine .bind (Q := fun _ => Held beside record) (.lift ?_) fun cancellation =>
    confirmAttempts_tries 6 hkey hnamed
  exact Judges.read fun _ _ _ hat => hat

/-- Reports are not changed with a row. -/
theorem reported_edit (v : KeyState) (row : Option PendingPromptTaskRecord)
    (h : ∃ report ∈ v.reports, report.detail = detail ∧
      (record.serverTaskId = "" → report.creation = true)) :
    ∃ report ∈ (v.edit beside row).reports, report.detail = detail ∧
      (record.serverTaskId = "" → report.creation = true) := h

/-- The task of an answer is written into a row that waits for it. -/
theorem nameAnswered_tries (hkey : record.clientRequestId = own) (hid : detail.id ≠ "")
    (hsame : record.serverTaskId = "" ∨ record.serverTaskId = detail.id) :
    (keys beside).Tries own (Answered beside record detail) (nameTask worker record detail.id)
      (fun later v => (Held beside later v ∧ ∃ report ∈ v.reports, report.detail = detail) ∧
        later = { record with serverTaskId := detail.id }) fun _ _ => True := by
  refine (nameTask_tries hkey reported_edit hid hsame fun hempty v hreported => ?_).mono
    (fun _ _ hat => ⟨hat.held, hat.reported⟩) ?_ fun _ _ _ => id
  · obtain ⟨report, hmem, rfl, hcreation⟩ := hreported
    exact ⟨report, hmem, hcreation hempty, rfl⟩
  · rintro later v - ⟨⟨hheld, report, hmem, hdetail, -⟩, hlater⟩
    exact ⟨⟨hheld, report, hmem, hdetail⟩, hlater⟩

theorem endTask_tries (hkey : record.clientRequestId = own)
    (hmarked : record.serverTaskId = "" → record.submissionStarted = true) :
    (keys beside).Tries own (Held beside record) (endTask worker record)
      (fun _ v => Ended v.reports) fun _ _ => True := by
  refine .bind (quiet_tries _) fun _ => .bind (replayOrQuery_tries hkey hmarked) fun detail => ?_
  refine .bind (quiet_tries _) fun _ => .bind (checked_tries _) fun _ => ?_
  refine .given (fun _ _ hat => checkDetail_ok hat.2) ?_
  rintro ⟨hid, hsame⟩
  refine .bind (.weaken (nameAnswered_tries hkey hid hsame) fun _ _ hat => hat.1) fun later => ?_
  refine .given (fun _ _ hat => hat.2) ?_
  rintro rfl
  refine .ite (fun hterminal => .pure fun v hgood hat => ?_) fun _ => ?_
  · exact ended_of_answer hgood hat.1.1 hid hat.1.2 rfl hterminal
  · exact .weaken (confirmPromptCancellation_tries hkey hid) fun _ _ hat => hat.1.1

/-- What was sent for a row is ended, and a row that was not marked was never sent. -/
theorem endSent_tries (hkey : record.clientRequestId = own) :
    (keys beside).Tries own (Held beside record) (endSent worker record)
      (fun _ v => v.sent ≠ [] → Ended v.reports) fun _ _ => True := by
  refine .ite (fun hflagged => ?_) fun hnot => .pure fun v hgood hat hsent => ?_
  · exact (endTask_tries hkey fun hempty => hflagged.resolve_left (not_not.mpr hempty)).mono
      (fun _ _ => id) (fun _ _ _ hat _ => hat) fun _ _ _ => id
  · obtain ⟨hunnamed, hunmarked⟩ := not_or.mp hnot
    exact absurd ((hat.accounted hgood).marked (not_not.mp hunnamed) hsent) hunmarked

/-- What the user cancelled is no part of the row in hand. -/
theorem requestCancellation_tries (hkey : record.clientRequestId = own)
    (hcancelled : own ∈ beside.cancelled) :
    (keys beside).Tries own (Held beside record) (requirePromptPatch worker record .requestCancellation)
      (fun _ => Held beside record) fun _ _ => True := by
  have hcore : core beside (PromptTaskRecoveryPatch.written record .requestCancellation) =
      core beside record := by
    simp [core, PromptTaskRecoveryPatch.written, hkey, hcancelled]
  refine (write_tries hkey (fun v haccounted => ?_) fun _ => rfl).mono (fun _ _ => id)
    (fun _ v _ hat => hat.trans (congrArg some hcore)) fun _ _ _ => id
  rw [hcore]
  exact haccounted

theorem cancelPromptRecord_tries (hkey : record.clientRequestId = own)
    (hcancelled : own ∈ beside.cancelled) :
    (keys beside).Tries own (Held beside record) (cancelPromptRecord worker record)
      (fun _ _ => True) fun _ _ => True := by
  refine .bind (quiet_tries _) fun _ => .bind (passed_tries _) fun _ => ?_
  refine .bind (.weaken (rebindPrompt_tries (R := fun _ => True) hkey fun _ _ => id)
    fun _ _ hat => ⟨hat, trivial⟩) fun later => .given (fun _ _ hat => hat.2) ?_
  rintro ⟨epoch, rfl⟩
  let moved := RecoveryRow.setAuthEpoch epoch record
  have hmoved : moved.clientRequestId = own := hkey
  refine .bind (.weaken (requestCancellation_tries hmoved hcancelled) fun _ _ hat => hat.1.1)
    fun _ => .bind (endSent_tries hmoved) fun _ => ?_
  refine .bind (cleanupPromptReferences_tries _) fun cleaned => .bind (passed_tries _) fun _ => ?_
  exact .bind (quiet_tries _) fun _ => remove_tries hmoved (.inr hcancelled) fun _ hat hsent =>
    .inl (hat hsent)

end Tasks

end ArtForgeStudio.PromptTasks
