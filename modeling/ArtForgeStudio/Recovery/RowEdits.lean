import ArtForgeStudio.Recovery.Safety

/-! # Operations that edit one exact row

Most operations answer `true` exactly when they edited the row that they name. What they do
to the rows under the keys is said once for all tables.
-/

namespace ArtForgeStudio.Recovery

open ArtForgeStudio.Api ArtForgeStudio.Outcome ArtForgeStudio.KeyedRows

section Edits

variable {D R : Type} [RecoveryEnvelope D] [RecoveryRow R]

/-- The operation edited the row with the expected identity and answered `true`, or it left
the row of its key. -/
structure RowEdited (table : RowTable D R) (expected : RecoveryRecordIdentity)
    (edit : R → Option R) (stored : Option D) (result : Except Failure Bool × Option D) : Prop where
  others : ∀ other, other ≠ expected.clientRequestId →
    table.lookup result.2 other = table.lookup stored other
  row : result.1 ≠ .ok true ∧
      table.lookup result.2 expected.clientRequestId = table.lookup stored expected.clientRequestId ∨
    result.1 = .ok true ∧ ∃ row, table.lookup stored expected.clientRequestId = some row ∧
      RecoveryRow.identity row = expected ∧
      table.lookup result.2 expected.clientRequestId = edit row

variable {table : RowTable D R} {answers : StorageAnswers} {authority : NamespaceStorageAuthority}
  {expected : RecoveryRecordIdentity} {edit : R → Option R} {stored : Option D}
  {result : Except Failure Bool × Option D}

theorem RowEdited.failed (failure : Failure) :
    RowEdited table expected edit stored (.error failure, stored) :=
  ⟨fun _ _ => rfl, .inl ⟨by simp, rfl⟩⟩

theorem RowEdited.requiring {check : Except Failure Unit}
    (h : check = .ok () → RowEdited table expected edit stored result) :
    RowEdited table expected edit stored (requiring check stored result) := by
  rcases RowTable.requiring_cases check stored result with ⟨failure, hfail⟩ | ⟨hcheck, heq⟩
  · rw [hfail]
    exact .failed failure
  · rw [heq]
    exact h hcheck

theorem editExact_edited (permission : MutationPermission)
    (hkeep : ∀ row edited, edit row = some edited → clientRequestId edited = clientRequestId row) :
    RowEdited table expected edit stored
      (table.editExact answers authority permission expected (fun row => .ok (true, edit row))
        stored) := by
  rcases table.editExact_cases answers authority permission expected
    (fun row => .ok (true, edit row)) stored (by
      intro row answer edited h
      exact hkeep row edited (Prod.mk.inj (Except.ok.inj h)).2)
    with ⟨failure, hfail⟩ | ⟨answer, next, hpublished, hrow, hexact⟩
  · rw [hfail]
    exact .failed failure
  rw [hpublished]
  refine ⟨fun other hother => hrow.lookup_other hother, ?_⟩
  rcases hexact with ⟨rfl, hrows, -⟩ | ⟨row, edited, hlookup, hidentity, hedit, hafter⟩
  · exact .inl ⟨by simp, congrArg (find clientRequestId · expected.clientRequestId) hrows⟩
  · obtain ⟨rfl, rfl⟩ := Prod.mk.inj (Except.ok.inj hedit)
    exact .inr ⟨rfl, row, hlookup, hidentity, hafter⟩

theorem remove_edited :
    RowEdited table expected (fun _ => none) stored
      (table.remove answers authority expected stored) :=
  .requiring fun _ => editExact_edited (.remove table.kind expected) (by simp)

theorem rebind_edited {epoch : Nat} :
    RowEdited table expected (fun row => some (RecoveryRow.setAuthEpoch epoch row)) stored
      (table.rebind answers authority expected epoch stored) := by
  refine .requiring fun _ => .requiring fun _ => editExact_edited _ ?_
  rintro row _ ⟨⟩
  simp [clientRequestId, RecoveryRow.identity_setAuthEpoch]

end Edits

/-- The row as an operation on a retained order leaves it. -/
def OrderOperation.edited (row : PendingOrderRecord) : OrderOperation → Option PendingOrderRecord
  | upsert _ record => some record
  | remove _ => none
  | rebind _ epoch => some (RecoveryRow.setAuthEpoch epoch row)
  | dismiss _ => some { row with presentationDismissed := true }
  | orderId _ value => some { row with orderId := value }
  | quoteId _ value => some { row with upgradeQuoteId := value }

theorem OrderOperation.run_edited {answers : StorageAnswers} {authority : NamespaceStorageAuthority}
    {stored : OrderFile} {op : OrderOperation} (hop : ∀ scope record, op ≠ .upsert scope record) :
    RowEdited orderTable op.identity op.edited stored (op.run answers authority stored) := by
  cases op with
  | upsert scope record => exact absurd rfl (hop scope record)
  | remove expected => exact remove_edited
  | rebind expected epoch => exact rebind_edited
  | dismiss expected =>
    refine .requiring fun _ => editExact_edited _ ?_
    rintro row _ ⟨⟩
    rfl
  | orderId expected value | quoteId expected value =>
    refine .requiring fun _ => .requiring fun _ => editExact_edited _ ?_
    rintro row _ ⟨⟩
    rfl

theorem OrderOperation.run_upsert (answers : StorageAnswers) (authority : NamespaceStorageAuthority)
    (stored : OrderFile) (scope : BillingScope) (record : PendingOrderRecord) :
    (∃ failure, (upsert scope record).run answers authority stored = (.error failure, stored)) ∨
    ∃ next, (upsert scope record).run answers authority stored = (.ok true, some next) ∧
      record.billingAccountGroupId = scope.accountGroupId ∧
      orderTable.lookup (some next) record.clientRequestId = some record := by
  rcases orderTable.upsert_cases answers authority scope record stored
    with ⟨failure, hfail⟩ | ⟨next, hpublished, hscope, -, hlookup, -⟩
  · refine .inl ⟨failure, ?_⟩
    simp only [run, upserted, upsertPendingOrder, hfail, Except.map]
  · refine .inr ⟨next, ?_, (RecoveryRecordIdentity.requireScope_ok.mp hscope).2.2.2, hlookup⟩
    simp only [run, upserted, upsertPendingOrder, hpublished, Except.map]

/-- The two updates of an order ask for a value. -/
def OrderOperation.Accepts : OrderOperation → Prop
  | orderId _ value | quoteId _ value => trimIsEmpty value = false
  | _ => True

theorem requiring_ok {S T : Type} {check : Except Failure Unit} {stored : S}
    {mutation : Except Failure T × S} {answer : T}
    (h : (requiring check stored mutation).1 = .ok answer) : check = .ok () ∧ mutation.1 = .ok answer := by
  rcases RowTable.requiring_cases check stored mutation with ⟨failure, hfail⟩ | ⟨hcheck, heq⟩
  · rw [hfail] at h
    cases h
  · exact ⟨hcheck, heq ▸ h⟩

theorem updatePendingOrder_ok {answers : StorageAnswers} {authority : NamespaceStorageAuthority}
    {expected : RecoveryRecordIdentity} {write : String → PendingOrderRecord → PendingOrderRecord}
    {value : String} {stored : OrderFile}
    (h : (updatePendingOrder answers authority expected write value stored).1 = .ok true) :
    trimIsEmpty value = false := by
  have hvalue := (requiring_ok (requiring_ok h).2).1
  simpa using hvalue

theorem OrderOperation.run_accepts {answers : StorageAnswers} {authority : NamespaceStorageAuthority}
    {stored : OrderFile} {op : OrderOperation} (h : (op.run answers authority stored).1 = .ok true) :
    op.Accepts := by
  cases op with
  | orderId expected value =>
    simp only [run, updatePendingOrderId] at h
    exact updatePendingOrder_ok h
  | quoteId expected value =>
    simp only [run, updatePendingOrderQuoteId] at h
    exact updatePendingOrder_ok h
  | upsert | remove | rebind | dismiss => trivial

/-- The row as an operation on a retained optimization leaves it. -/
def DeepOperation.edited (row : PendingPromptOptimizationRecord) :
    DeepOperation → Option PendingPromptOptimizationRecord
  | upsert _ record => some record
  | remove _ => none
  | rebind _ epoch => some (RecoveryRow.setAuthEpoch epoch row)
  | dismiss _ _ _ => some { row with presentationDismissed := true }
  | jobId _ value => some { row with serverJobId := value }

/-- A dismissal leaves a row that is dismissed already, and one with another job. -/
theorem dismissed_edited {answers : StorageAnswers} {authority : NamespaceStorageAuthority}
    {stored : PromptFile} {expected : RecoveryRecordIdentity} {readable : Bool} {job : String} :
    RowEdited deepTable expected (fun row => some { row with presentationDismissed := true }) stored
      (markPendingPromptOptimizationPresentationDismissed answers authority expected readable job
        stored) := by
  have hsame : ∀ answer, answer = false ∨ (∃ row, deepTable.lookup stored expected.clientRequestId =
      some row ∧ RecoveryRow.identity row = expected ∧ row.presentationDismissed = true) →
      RowEdited deepTable expected (fun row => some { row with presentationDismissed := true }) stored
        (.ok answer, stored) := by
    rintro answer (rfl | ⟨row, hrow, hidentity, hdismissed⟩)
    · exact ⟨fun _ _ => rfl, .inl ⟨by simp, rfl⟩⟩
    · refine ⟨fun _ _ => rfl, ?_⟩
      cases answer with
      | false => exact .inl ⟨by simp, rfl⟩
      | true =>
        refine .inr ⟨rfl, row, hrow, hidentity, hrow.trans ?_⟩
        rw [← hdismissed]
  refine .requiring fun _ => .requiring fun _ => ?_
  cases hload : load readable authority stored with
  | error failure => exact .failed failure
  | ok retained =>
    obtain ⟨-, rfl, hvalid⟩ := load_ok.mp hload
    dsimp only
    split
    · exact hsame false (.inl rfl)
    · next row index hexact =>
      split
      · exact hsame false (.inl rfl)
      · split
        · next hdismissed =>
          obtain ⟨hget, hidentity⟩ := exactIndex_some hexact
          have hkey := congrArg RecoveryRecordIdentity.clientRequestId hidentity
          have hfound := find_of_getElem? (deepTable.uniqueKeys_get hvalid) hget hkey
          exact hsame true (.inr ⟨row, hfound, hidentity, hdismissed⟩)
        · have hkeep : ∀ row answer edited, dismissDeepEdit job row = .ok (answer, some edited) →
              clientRequestId edited = clientRequestId row := by
            intro row answer edited hedit
            unfold dismissDeepEdit at hedit
            split at hedit <;> cases hedit <;> rfl
          rcases deepTable.editExact_cases answers authority .preserve expected
            (dismissDeepEdit job) stored hkeep
            with ⟨failure, hfail⟩ | ⟨answer, next, hpublished, hrow, hexact⟩
          · rw [hfail]
            exact .failed failure
          · rw [hpublished]
            refine ⟨fun other hother => hrow.lookup_other hother, ?_⟩
            rcases hexact with ⟨rfl, hrows, -⟩ | ⟨found, edited, hlookup, hidentity, hedit, hafter⟩
            · exact .inl ⟨by simp, congrArg (find clientRequestId · expected.clientRequestId) hrows⟩
            · unfold dismissDeepEdit at hedit
              split at hedit
              · cases hedit
                exact .inl ⟨by simp, hafter.trans hlookup.symm⟩
              · cases hedit
                exact .inr ⟨rfl, found, hlookup, hidentity, hafter⟩

theorem DeepOperation.run_edited {answers : StorageAnswers} {authority : NamespaceStorageAuthority}
    {stored : PromptFile} {op : DeepOperation} (hop : ∀ scope record, op ≠ .upsert scope record) :
    RowEdited deepTable op.identity op.edited stored (op.run answers authority stored) := by
  cases op with
  | upsert scope record => exact absurd rfl (hop scope record)
  | remove expected => exact remove_edited
  | rebind expected epoch => exact rebind_edited
  | dismiss expected readable job => exact dismissed_edited
  | jobId expected value =>
    refine .requiring fun _ => .requiring fun _ => editExact_edited _ ?_
    rintro row _ ⟨⟩
    rfl

/-- The row as a patch leaves it that does not refuse it. -/
def PromptTaskRecoveryPatch.written (row : PendingPromptTaskRecord) :
    PromptTaskRecoveryPatch → PendingPromptTaskRecord
  | requestCancellation => { row with cancelRequested := true }
  | beginSubmission => { row with submissionStarted := true }
  | uploadedFileIds ids => { row with uploadedFileIds := ids }
  | serverTaskId id => { row with serverTaskId := id }
  | terminalError error => { row with terminalError := error }
  | resultPrompt prompt => { row with resultPrompt := prompt }
  | resultCommitted => { row with resultCommitted := true }
  | appliedToTarget => { row with appliedToTarget := true }
  | releaseCustomPromptResult => { row with appliedToTarget := false, resultCommitted := true }

theorem PromptTaskRecoveryPatch.apply_written {change : PromptTaskRecoveryPatch}
    {row later : PendingPromptTaskRecord} (h : change.apply row = .ok later) :
    later = change.written row := by
  cases change with
  | beginSubmission =>
    obtain ⟨-, -, hresult⟩ := bind_eq_ok.mp h
    exact (pure_eq_ok.mp hresult).symm
  | _ => exact (Except.ok.inj h).symm

/-- The row as an operation on a retained prompt task leaves it. -/
def PromptOperation.edited (row : PendingPromptTaskRecord) :
    PromptOperation → Option PendingPromptTaskRecord
  | upsert _ record => some record
  | remove _ => none
  | rebind _ epoch => some (RecoveryRow.setAuthEpoch epoch row)
  | patch _ change => some (change.written row)

theorem PromptOperation.run_edited {answers : StorageAnswers} {authority : NamespaceStorageAuthority}
    {stored : PromptFile} {op : PromptOperation} (hop : ∀ scope record, op ≠ .upsert scope record) :
    RowEdited promptTable op.identity op.edited stored (op.run answers authority stored) := by
  cases op with
  | upsert scope record => exact absurd rfl (hop scope record)
  | remove expected => exact remove_edited
  | rebind expected epoch => exact rebind_edited
  | patch expected change =>
    refine .requiring fun _ => ?_
    have happlied : ∀ {row answer edited}, (change.apply row).map (true, some ·) =
        .ok (answer, edited) → answer = true ∧ edited = some (change.written row) := by
      intro row answer edited hedit
      cases hchange : change.apply row with
      | error failure => simp [hchange, Except.map] at hedit
      | ok later =>
        simp only [hchange, Except.map, Except.ok.injEq, Prod.mk.injEq] at hedit
        exact ⟨hedit.1.symm, hedit.2.symm.trans (congrArg some (change.apply_written hchange))⟩
    have hkeep : ∀ row answer edited, (change.apply row).map (true, some ·) =
        .ok (answer, some edited) → clientRequestId edited = clientRequestId row := by
      intro row answer edited hedit
      obtain ⟨-, hwritten⟩ := happlied hedit
      rw [Option.some.inj hwritten]
      cases change <;> rfl
    rcases promptTable.editExact_cases answers authority .preserve expected
      (fun record => (change.apply record).map (true, some ·)) stored hkeep
      with ⟨failure, hfail⟩ | ⟨answer, next, hpublished, hrow, hexact⟩
    · rw [hfail]
      exact .failed failure
    rw [hpublished]
    refine ⟨fun other hother => hrow.lookup_other hother, ?_⟩
    rcases hexact with ⟨rfl, hrows, -⟩ | ⟨row, edited, hlookup, hidentity, hedit, hafter⟩
    · exact .inl ⟨by simp, congrArg (find clientRequestId · expected.clientRequestId) hrows⟩
    · obtain ⟨rfl, rfl⟩ := happlied hedit
      exact .inr ⟨rfl, row, hlookup, hidentity, hafter⟩

theorem PromptOperation.run_upsert (answers : StorageAnswers) (authority : NamespaceStorageAuthority)
    (stored : PromptFile) (scope : BillingScope) (record : PendingPromptTaskRecord) :
    (∃ failure, (upsert scope record).run answers authority stored = (.error failure, stored)) ∨
    ∃ next, (upsert scope record).run answers authority stored = (.ok true, some next) ∧
      promptTable.OneRow authority.userPublicId record.clientRequestId stored (some next) ∧
      promptTable.lookup (some next) record.clientRequestId = some record := by
  rcases promptTable.upsert_cases answers authority scope record stored
    with ⟨failure, hfail⟩ | ⟨next, hpublished, -, hrow, hlookup, -⟩
  · refine .inl ⟨failure, ?_⟩
    simp only [run, upserted, upsertPendingPromptTask, hfail, Except.map]
  · refine .inr ⟨next, ?_, hrow, hlookup⟩
    simp only [run, upserted, upsertPendingPromptTask, hpublished, Except.map]

end ArtForgeStudio.Recovery
