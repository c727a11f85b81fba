import ArtForgeStudio.PromptTasks.Tasks

/-! # A task is submitted as its row says

A record of an earlier login is let in again only where nothing was sent for it or the server knows
its task. Its references are complete before the first request, and every request repeats it.
-/

namespace ArtForgeStudio.PromptTasks

open ArtForgeStudio.Api ArtForgeStudio.Recovery ArtForgeStudio.KeyedRows ArtForgeStudio.Concurrency
  ArtForgeStudio.Outcome KeyState Parts

section Submission

variable {beside : Beside} {own : String} {P : KeyState → Prop} {worker : PromptWorker}
  {record : PendingPromptTaskRecord} {detail : PromptTaskDetail} {billing : Option BillingScope}
  {rounds : Nat} {accepted : Option String}

/-- A loaded row is the row of its key. -/
theorem held_of_loaded {readable : Bool} {authority : NamespaceStorageAuthority} {world : World}
    {rows : List PendingPromptTaskRecord}
    (h : loadPendingPromptTasks readable authority world.file = .ok rows) (hmem : record ∈ rows)
    (hkey : record.clientRequestId = own) : Held beside record (world.part beside own) := by
  obtain ⟨hvalid, rfl⟩ := loadPendingPromptTasks_ok h
  obtain ⟨row, hrow, rfl⟩ := List.mem_map.mp hmem
  have hlookup : world.row own = some row :=
    (find_eq_some_iff (promptTable.uniqueKeys_get hvalid)).mpr ⟨hrow, hkey⟩
  unfold Held
  rw [core_remap]
  exact congrArg (Option.map (core beside)) hlookup

theorem mem_of_checkUnchanged {rows : List PendingPromptTaskRecord}
    (h : checkUnchanged record rows = .ok ()) : record ∈ rows := by
  unfold checkUnchanged at h
  split at h
  · cases h
  · next current hfound =>
    obtain rfl : current = record := not_not.mp (rejectIf_eq_ok.mp h)
    exact List.mem_of_find?_eq_some hfound

theorem requireUnchanged_tries (hkey : record.clientRequestId = own) :
    (keys beside).Tries own P (requireUnchanged worker record) (fun _ => Held beside record)
      fun _ _ => True := by
  refine .read fun answers world _ _ => ?_
  cases hload : loadPendingPromptTasks answers.readable worker.authority world.file with
  | error failure => trivial
  | ok rows =>
    change Ends _ _ (checkUnchanged record rows) _
    cases hcheck : checkUnchanged record rows with
    | error error => trivial
    | ok u => exact held_of_loaded hload (mem_of_checkUnchanged hcheck) hkey

/-- What a record without a task takes from the server. -/
def Accepted (record : PendingPromptTaskRecord) (accepted : Option String) (v : KeyState) : Prop :=
  ∀ id, accepted = some id → record.serverTaskId = "" ∧ id ≠ "" ∧ Named v.reports id

theorem acceptedTask_tries (hkey : record.clientRequestId = own)
    (hmarked : replaysRecord record = true → record.submissionStarted = true) :
    (keys beside).Tries own (Held beside record) (acceptedTask worker record)
      (fun accepted v => Held beside record v ∧ Accepted record accepted v) fun _ _ => True := by
  refine .bind (checked_tries _) fun _ => .given (fun _ _ hat => hat.2) fun hcheck => ?_
  have hreplays : record.serverTaskId = "" → replaysRecord record = true := by
    intro hempty
    have hnot := rejectIf_eq_ok.mp hcheck
    simpa [hempty] using hnot
  refine .bind (.weaken (replayOrQuery_tries hkey (hmarked ∘ hreplays)) fun _ _ hat => hat.1)
    fun detail => .bind (quiet_tries _) fun _ => .bind (checked_tries _) fun _ => ?_
  refine .given (fun _ _ hat => checkDetail_ok hat.2) fun hdetail => .pure fun v _ hat => ?_
  refine ⟨hat.1.held, fun id hid => ?_⟩
  by_cases hempty : record.serverTaskId = ""
  · rw [if_pos hempty] at hid
    cases hid
    obtain ⟨report, hmem, rfl, hcreation⟩ := hat.1.reported
    exact ⟨hempty, hdetail.1, report, hmem, hcreation hempty, rfl⟩
  · rw [if_neg hempty] at hid
    cases hid

theorem verifiedTask_tries (hkey : record.clientRequestId = own)
    (hmarked : replaysRecord record = true → record.submissionStarted = true) :
    (keys beside).Tries own (Held beside record) (verifiedTask worker record)
      (fun accepted v => Held beside record v ∧ Accepted record accepted v) fun _ _ => True := by
  refine .ite (fun _ => ?_) fun _ => acceptedTask_tries hkey hmarked
  exact .bind (verifyPromptReferences_tries _ _) fun _ => .pure fun _ _ hat => ⟨hat, nofun⟩

/-- A record of an earlier login need not be the row: it is compared with it. -/
theorem revalidatePromptEpoch_tries (hkey : record.clientRequestId = own)
    (hmarked : record.authEpoch ≠ worker.session.authEpoch → replaysRecord record = true →
      record.submissionStarted = true) :
    (keys beside).Tries own
      (fun v => record.authEpoch = worker.session.authEpoch → Held beside record v)
      (revalidatePromptEpoch worker record)
      (fun later v => Held beside later v ∧
        ∃ epoch id, later = { record with authEpoch := epoch, serverTaskId := id })
      fun _ _ => True := by
  refine .ite (fun hsame => .pure fun _ _ hat => ⟨hat hsame, _, _, rfl⟩) fun hother => ?_
  refine .bind (quiet_tries _) fun _ => .bind (requireUnchanged_tries hkey) fun _ => ?_
  refine .bind (verifiedTask_tries hkey (hmarked hother)) fun accepted =>
    .bind (quiet_tries _) fun _ => ?_
  refine .bind (rebindPrompt_tries (R := Accepted record accepted) hkey fun _ _ => id) fun later => ?_
  refine .given (fun _ _ hat => hat.2) ?_
  rintro ⟨epoch, rfl⟩
  cases accepted with
  | none => exact .pure fun _ _ hat => ⟨hat.1.1, epoch, record.serverTaskId, rfl⟩
  | some task =>
    refine .given (fun _ _ hat => (hat.1.2 task rfl).imp_right And.left) ?_
    rintro ⟨hunnamed, htask⟩
    have hmoved : (RecoveryRow.setAuthEpoch epoch record).clientRequestId = own := hkey
    refine (nameTask_tries (R := fun v => Named v.reports task) hmoved (fun _ _ => id) htask
      (.inl hunnamed) fun _ _ => id).mono (fun _ _ hat => ?_) ?_ fun _ _ _ => id
    · exact ⟨hat.1.1, (hat.1.2 task rfl).2.2⟩
    · rintro later v - ⟨⟨hheld, -⟩, rfl⟩
      exact ⟨hheld, epoch, task, rfl⟩

/-- What is known after the server was asked: the answer is about the record, if there is one. -/
def Asked (beside : Beside) (record : PendingPromptTaskRecord)
    (result : Except ApiError PromptTaskDetail) : KeyState → Prop :=
  Ends (Answered beside record) (fun _ => Held beside record) result

theorem asked_tries {asking : Fallible PromptTaskDetail}
    (h : (keys beside).Tries own P asking (Answered beside record) fun _ => Held beside record) :
    (keys beside).Tries own P (attempt asking) (Asked beside record) fun _ _ => True :=
  .lift h

/-- A submission is marked in the row before anything is sent. -/
theorem submit_tries (hkey : record.clientRequestId = own) (hunnamed : record.serverTaskId = "")
    (hcomplete : record.uploadedFileIds.length = record.referencePaths.length)
    (hpayer : ∀ scope, billing = some scope → scope.accountGroupId = record.billingAccountGroupId) :
    (keys beside).Tries own (Held beside record) (submit worker billing record)
      (Asked beside { record with submissionStarted := true }) fun _ _ => True := by
  subst hkey
  let marked := { record with submissionStarted := true }
  have hmarked : marked.clientRequestId = record.clientRequestId := rfl
  refine .bind (Q := fun _ => Held beside marked) ?_ fun _ => .bind (quiet_tries _) fun _ => ?_
  · exact write_tries rfl (fun _ haccounted => { haccounted with marked := fun _ _ => rfl })
      fun _ => rfl
  cases billing with
  | some scope =>
    exact asked_tries (createTaskBilling_tries hmarked (hpayer scope rfl) hunnamed rfl hcomplete)
  | none =>
    refine .bind (savedReplay_tries fun _ => rfl) fun saved => .given (fun _ _ hat => hat.2) ?_
    rintro ⟨hsaved, hsendable⟩
    exact asked_tries (.weaken (replaySaved_tries hsaved hsendable) fun _ _ hat => hat.1)

theorem askServer_tries (hkey : record.clientRequestId = own)
    (hcomplete : record.uploadedFileIds.length = record.referencePaths.length)
    (hpayer : ∀ scope, billing = some scope → scope.accountGroupId = record.billingAccountGroupId) :
    (keys beside).Tries own (Held beside record) (askServer worker billing record)
      (fun asked v => Asked beside asked.1 asked.2 v ∧
        ∃ started, asked.1 = { record with submissionStarted := started }) fun _ _ => True := by
  refine .ite (fun hunnamed => ?_) fun hnamed => ?_
  · exact .bind (submit_tries hkey hunnamed hcomplete hpayer) fun result =>
      .pure fun _ _ hat => ⟨hat, true, rfl⟩
  · exact .bind (asked_tries (taskScoped_tries hkey hnamed)) fun result =>
      .pure fun _ _ hat => ⟨hat, record.submissionStarted, rfl⟩

/-- The result of a finished task is the first of its row. -/
theorem recordTerminal_tries (hkey : record.clientRequestId = own) (hnamed : record.serverTaskId ≠ "")
    (hresult : record.resultPrompt = "") :
    (keys beside).Tries own (Held beside record) (recordTerminal worker record detail)
      (fun later v => Held beside later v ∧ ∃ result error,
        later = { record with resultPrompt := result, terminalError := error }) fun _ _ => True := by
  have hfail : ∀ message, (keys beside).Tries own (Held beside record) (fail worker record message)
      (fun later v => Held beside later v ∧ ∃ result error,
        later = { record with resultPrompt := result, terminalError := error }) fun _ _ => True := by
    intro message
    refine .bind (Q := fun _ => Held beside { record with terminalError := message }) ?_ fun _ =>
      .pure fun _ _ hat => ⟨hat, record.resultPrompt, message, rfl⟩
    refine write_tries hkey (fun _ haccounted => ?_) fun _ => rfl
    exact { haccounted with unended := fun hempty => absurd hempty hnamed }
  refine .ite (fun _ => ?_) fun _ => hfail _
  cases hfiltered : detail.resultPrompt.filter (!trimIsEmpty ·) with
  | none => exact hfail _
  | some result =>
    have hfull : trimIsEmpty result = false := by
      simpa using (Option.filter_eq_some_iff.mp hfiltered).2
    refine .bind (Q := fun _ => Held beside { record with resultPrompt := result }) ?_ fun _ =>
      .pure fun _ _ hat => ⟨hat, result, record.terminalError, rfl⟩
    refine write_tries hkey (fun _ haccounted => ?_) fun hne => absurd hresult hne
    exact { haccounted with
      unended := fun hempty => absurd hempty hnamed
      result := fun hempty => (Bool.false_ne_true (hfull.symm.trans hempty)).elim }

/-- The record of a task that is followed: its references are there and its result is not. -/
structure Following (own : String) (billing : Option BillingScope)
    (record : PendingPromptTaskRecord) : Prop where
  keyed : record.clientRequestId = own
  complete : record.uploadedFileIds.length = record.referencePaths.length
  payer : ∀ scope, billing = some scope → scope.accountGroupId = record.billingAccountGroupId
  unfinished : record.resultPrompt = ""

theorem acceptTask_tries (hkey : record.clientRequestId = own) (hid : detail.id ≠ "")
    (hsame : record.serverTaskId = "" ∨ record.serverTaskId = detail.id) :
    (keys beside).Tries own (Answered beside record detail) (acceptTask worker record detail.id)
      (fun later v => Held beside later v ∧
        ∃ epoch, later = { record with authEpoch := epoch, serverTaskId := detail.id })
      fun _ _ => True := by
  refine .bind (.weaken (rebindPrompt_tries hkey reported_edit) fun _ _ hat =>
    ⟨hat.held, hat.reported⟩) fun moved => .given (fun _ _ hat => hat.2) ?_
  rintro ⟨epoch, rfl⟩
  have hmoved : (RecoveryRow.setAuthEpoch epoch record).clientRequestId = own := hkey
  refine (nameAnswered_tries hmoved hid hsame).mono (fun _ _ hat => ⟨hat.1.1, hat.1.2⟩) ?_
    fun _ _ _ => id
  rintro later v - ⟨⟨hheld, -⟩, rfl⟩
  exact ⟨hheld, epoch, rfl⟩

theorem followTask_tries (hfollowing : Following own billing record) :
    (keys beside).Tries own (Held beside record) (followTask worker rounds billing record)
      (fun _ _ => True) fun _ _ => True := by
  induction rounds generalizing billing record with
  | zero => exact .throw fun _ _ _ => trivial
  | succ rounds ih =>
    have hlater : ∀ scope, (if record.serverTaskId = "" then none else billing) = some scope →
        scope.accountGroupId = record.billingAccountGroupId := by
      intro scope hscope
      split at hscope
      · cases hscope
      · exact hfollowing.payer scope hscope
    refine .bind (quiet_tries _) fun _ => .bind (askServer_tries hfollowing.keyed hfollowing.complete
      hfollowing.payer) fun asked => .given (fun _ _ hat => hat.2) ?_
    obtain ⟨marked, result⟩ := asked
    rintro ⟨started, rfl⟩
    cases result with
    | error error =>
      refine .weaken (.ite (fun _ => ?_) fun _ => .throw fun _ _ _ => trivial) fun _ _ hat => hat.1
      exact .bind waitOrStop_tries fun _ =>
        ih ⟨hfollowing.keyed, hfollowing.complete, hlater, hfollowing.unfinished⟩
    | ok detail =>
      refine .bind (quiet_tries _) fun _ => .bind (checked_tries _) fun _ => ?_
      refine .given (fun _ _ hat => checkDetail_ok hat.2) ?_
      rintro ⟨hid, hsame⟩
      refine .bind (.weaken (acceptTask_tries hfollowing.keyed hid hsame) fun _ _ hat => hat.1.1)
        fun named => .given (fun _ _ hat => hat.2) ?_
      rintro ⟨epoch, rfl⟩
      refine .weaken ?_ fun _ _ hat => hat.1
      refine .bind (quiet_tries _) fun _ => .ite (fun _ => ?_) fun _ => ?_
      · refine .bind (recordTerminal_tries hfollowing.keyed hid hfollowing.unfinished) fun ended => ?_
        refine .given (fun _ _ hat => hat.2) ?_
        rintro ⟨prompt, error, rfl⟩
        exact .weaken (finishPromptTerminal_tries hfollowing.keyed hid) fun _ _ hat => hat.1
      · exact .bind waitOrStop_tries fun _ =>
          ih ⟨hfollowing.keyed, hfollowing.complete, hlater, hfollowing.unfinished⟩

/-- The record may be run: a record of this login and a cancelled one are the row of the key, and a
record of an earlier login is marked before it is replayed. -/
structure Runnable (beside : Beside) (own : String) (worker : PromptWorker)
    (billing : Option BillingScope) (record : PendingPromptTaskRecord) (v : KeyState) : Prop where
  keyed : record.clientRequestId = own
  payer : ∀ scope, billing = some scope → scope.accountGroupId = record.billingAccountGroupId
  held : record.authEpoch = worker.session.authEpoch ∨ record.cancelRequested = true →
    Held beside record v
  marked : record.cancelRequested = false → record.authEpoch ≠ worker.session.authEpoch →
    replaysRecord record = true → record.submissionStarted = true

/-- A row without a task is not at its end. -/
theorem named_of_completed {v : KeyState} (hgood : Good beside own v) (hheld : Held beside record v)
    (hcompleted : promptTaskCompletedUnclaimed record = true) : record.serverTaskId ≠ "" := by
  intro hempty
  obtain ⟨hresult, herror⟩ := (hheld.accounted hgood).unended hempty
  simp only [core] at hresult herror
  simp [promptTaskCompletedUnclaimed, hresult, herror, trimIsEmpty] at hcompleted

theorem uploaded_of_valid (h : ¬(!validPendingPromptTask record) = true) :
    record.uploadedFileIds.length ≤ record.referencePaths.length := by
  have hvalid : validPendingPromptTask record = true := by simpa using h
  simp only [validPendingPromptTask, Bool.and_eq_true, decide_eq_true_eq] at hvalid
  exact hvalid.1.1.2

theorem runPromptRecord_tries :
    (keys beside).Tries own (Runnable beside own worker billing record)
      (runPromptRecord worker rounds billing record) (fun _ _ => True) fun _ _ => True := by
  refine .bind (quiet_tries _) fun _ => .bind (checked_tries _) fun _ => ?_
  refine .given (fun _ _ hat => hat.2) fun hcheck => .weaken ?_ fun _ _ hat => hat.1
  obtain ⟨-, hvalid⟩ := not_or.mp (rejectIf_eq_ok.mp hcheck)
  refine .given (fun _ _ hat => hat.keyed) fun hkey => .ite (fun hcancelled => ?_) fun hlive => ?_
  · refine .given (fun _ hgood hat => (hat.held (.inr hcancelled)).cancelled hgood hcancelled)
      fun hown => ?_
    refine .weaken ?_ fun _ _ hat => hat.held (.inr hcancelled)
    exact .bind (cancelPromptRecord_tries hkey hown) fun _ => .throw fun _ _ _ => trivial
  have hlive' : record.cancelRequested = false := by simpa using hlive
  refine .given (fun _ _ hat => And.intro hat.payer (hat.marked hlive')) ?_
  rintro ⟨hpayer, hmarked⟩
  refine .bind (.weaken (revalidatePromptEpoch_tries hkey hmarked) fun _ _ hat hsame =>
    hat.held (.inl hsame)) fun later => .given (fun _ _ hat => hat.2) ?_
  rintro ⟨epoch, task, rfl⟩
  refine .weaken (.bind (quiet_tries _) fun _ => .ite (fun hcompleted => ?_) fun hopen => ?_)
    fun _ _ hat => hat.1
  · refine .given (fun _ hgood hat => named_of_completed hgood hat hcompleted) fun hnamed => ?_
    exact finishPromptTerminal_tries hkey hnamed
  have hblank : trimIsEmpty record.resultPrompt = true := by
    simp [promptTaskCompletedUnclaimed, hlive'] at hopen
    exact hopen.1
  refine .given (fun _ hgood hat => (hat.accounted hgood).result hblank) fun hresult => ?_
  have hmissing := Nat.add_sub_cancel' (uploaded_of_valid hvalid)
  refine .bind (uploadReferences_tries _ hkey hmissing) fun uploaded => ?_
  refine .given (fun _ _ hat => hat.2) ?_
  rintro ⟨ids, rfl, hcomplete⟩
  exact .weaken (followTask_tries ⟨hkey, hcomplete, hpayer, hresult⟩) fun _ _ hat => hat.1

theorem fingerprints_tries (paths : List String) :
    (keys beside).Tries own P (fingerprints worker paths) (fun _ => P) fun _ _ => True := by
  induction paths with
  | nil => exact .pure fun _ _ => id
  | cons path rest ih =>
    refine .bind (quiet_tries _) fun _ => .bind (quiet_tries _) fun _ => ?_
    exact .bind ih fun _ => .pure fun _ _ => id

/-- The row of a new request is stored under a key that was never stored. -/
theorem upsert_tries {scope : BillingScope} {missing : String} (hrecord : New own record) :
    (keys beside).Tries own (fun v => v.stored = false)
      (requireUpdate worker.authority (.upsert scope record) missing)
      (fun _ => Held beside record) fun _ _ => True := by
  have hkey : (PromptOperation.upsert scope record).identity.clientRequestId = own := hrecord.keyed
  let after (result : Except Failure Bool) (v : KeyState) : Prop :=
    result = .ok true → Held beside record v
  have hoperate : (keys beside).Judges own (fun v => v.stored = false)
      (operate worker.authority (.upsert scope record)) after := by
    refine .act fun answers world _ hgood hnew => ?_
    have hpart : World.part beside own (world.operated answers.storage worker.authority
        (.upsert scope record)) = (world.part beside own).edit beside (promptTable.lookup
          ((PromptOperation.upsert scope record).run answers.storage worker.authority world.file).2
          own) := part_operated hkey
    rcases PromptOperation.run_upsert answers.storage worker.authority world.file scope record
      with ⟨failure, hfail⟩ | ⟨next, hpublished, -, hlookup⟩
    · rw [hfail, edit_lookup hgood] at hpart
      refine ⟨operated_touches hkey fun hgood => ?_, fun htrue => ?_⟩
      · rw [hpart]
        exact ⟨hgood, .of_row rfl rfl⟩
      · have hresult := congrArg Prod.fst hfail
        exact absurd (hresult.symm.trans htrue) (by simp)
    · rw [hrecord.keyed] at hlookup
      rw [hpublished, hlookup] at hpart
      refine ⟨operated_touches hkey fun hgood => ?_, fun _ => ?_⟩
      · rw [hpart]
        exact hgood.insert hnew hrecord
      · change Held beside record (World.part _ _ _)
        rw [hpart]
        rfl
  refine Judges.bind hoperate fun result => ?_
  match result with
  | .ok true => exact .done fun _ _ hat => hat rfl
  | .ok false => exact .done fun _ _ _ => trivial
  | .error failure => exact .done fun _ _ _ => trivial

/-- The work of a new record. -/
theorem runNewPrompt_tries {scope : BillingScope} (hrecord : New own record)
    (hpayer : scope.accountGroupId = record.billingAccountGroupId)
    (hepoch : record.authEpoch = worker.session.authEpoch) :
    (keys beside).Tries own (fun v => v.stored = false) (runNewPrompt worker rounds scope record)
      (fun _ _ => True) fun _ _ => True := by
  refine .bind (fingerprints_tries _) fun sources => .bind (quiet_tries _) fun _ => ?_
  refine .bind (upsert_tries { hrecord with }) fun _ =>
    .weaken runPromptRecord_tries fun v _ hat => ?_
  refine ⟨hrecord.keyed, ?_, fun _ => hat, fun _ hother => absurd hepoch hother⟩
  rintro _ ⟨⟩
  exact hpayer

theorem runCancellation_tries {expected : PendingPromptTaskRecord}
    (hkey : expected.clientRequestId = own) (hcancelled : own ∈ beside.cancelled) :
    (keys beside).Tries own P (runCancellation worker expected) (fun _ _ => True)
      fun _ _ => True := by
  let holds (found : Option PendingPromptTaskRecord) (v : KeyState) : Prop :=
    ∀ record, found = some record → Held beside record v ∧ record.clientRequestId = own
  refine .bind (Q := holds) (.read fun answers world _ _ => ?_) fun found => ?_
  · cases hload : loadPendingPromptTasks answers.readable worker.authority world.file with
    | error failure => trivial
    | ok rows =>
      intro record hfound
      have hmem := List.mem_of_find?_eq_some hfound
      have hmatches := List.find?_some hfound
      simp only [Bool.and_eq_true, decide_eq_true_eq] at hmatches
      have hown : record.clientRequestId = own := hmatches.1.1.trans hkey
      exact ⟨held_of_loaded hload hmem hown, hown⟩
  · cases found with
    | none => exact .pure fun _ _ _ => trivial
    | some record =>
      refine .given (fun _ _ hat => (hat record rfl).2) fun hown => ?_
      exact .weaken (cancelPromptRecord_tries hown hcancelled) fun _ _ hat => (hat record rfl).1

end Submission

end ArtForgeStudio.PromptTasks
