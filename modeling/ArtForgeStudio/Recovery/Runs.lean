import ArtForgeStudio.Recovery.RowUpdate

/-! # Runs of recovery operations

One inversion per document says what an operation can do; the runs and their properties only
use these.
-/

namespace ArtForgeStudio.Recovery

open ArtForgeStudio.Api ArtForgeStudio.Outcome ArtForgeStudio.KeyedRows

namespace GenerationOperation

variable {answers : StorageAnswers} {authority : NamespaceStorageAuthority}
  {stored : GenerationFile} {op : GenerationOperation}

/-- The result of an operation: it failed and left the document, or it published a document
that differs in the row it names. -/
inductive Result (authority : NamespaceStorageAuthority) (op : GenerationOperation)
    (stored : GenerationFile) : Except Failure Bool × GenerationFile → Prop
  | failed (failure : Failure) : Result authority op stored (.error failure, stored)
  | published (answer : Bool) (next : RecoveryFile)
      (row : generationTable.OneRow authority.userPublicId op.key stored (some next))
      (change : RowChange authority op (generationTable.lookup stored op.key)
        (generationTable.lookup (some next) op.key)) :
      Result authority op stored (.ok answer, some next)

theorem requiring_result {check : Except Failure Unit}
    {mutation : Except Failure Bool × GenerationFile}
    (h : check = .ok () → Result authority op stored mutation) :
    Result authority op stored (requiring check stored mutation) := by
  rcases RowTable.requiring_cases check stored mutation with ⟨failure, hfail⟩ | ⟨hcheck, heq⟩
  · rw [hfail]
    exact .failed failure
  · rw [heq]
    exact h hcheck

theorem editExact_result (op : GenerationOperation) (permission : MutationPermission)
    (edit : PendingGenerationRecord → Except Failure (Bool × Option PendingGenerationRecord))
    (hedit : ∀ row answer edited, edit row = .ok (answer, edited) →
      RowChange authority op (some row) edited ∧
        ∀ kept, edited = some kept → clientRequestId kept = clientRequestId row) :
    Result authority op stored
      (generationTable.editExact answers authority permission op.identity edit stored) := by
  rcases generationTable.editExact_cases answers authority permission
    op.identity edit stored (fun row answer edited h => (hedit row _ _ h).2 edited rfl)
    with ⟨failure, hfail⟩ | ⟨answer, next, hpublished, hrow, hexact⟩
  · rw [hfail]
    exact .failed failure
  · rw [hpublished]
    refine .published answer next hrow ?_
    rcases hexact with ⟨-, hrows, -⟩ | ⟨row, edited, hlookup, -, hrun, hafter⟩
    · rw [show generationTable.lookup (some next) op.key = generationTable.lookup stored op.key from
        congrArg (find clientRequestId · op.key) hrows]
      exact .untouched _
    · change RowChange authority op (generationTable.lookup stored op.identity.clientRequestId)
        (generationTable.lookup (some next) op.identity.clientRequestId)
      rw [hlookup, hafter]
      exact (hedit row answer edited hrun).1

theorem key_of_update {row : PendingGenerationRecord} {edited : Option PendingGenerationRecord}
    (h : ∀ kept, edited = some kept → RowUpdate row kept) :
    ∀ kept, edited = some kept → clientRequestId kept = clientRequestId row :=
  fun kept hkept => congrArg RecoveryRecordIdentity.clientRequestId (h kept hkept).identity

theorem settleDelivery_result {expected : RecoveryRecordIdentity} {value : String}
    {abandon : Bool} (hidentity : op.identity = expected)
    (hfields : ∀ row, op.fieldUpdate authority row = settleUpdate value abandon row) :
    Result authority op stored
      (settleDelivery answers authority expected value abandon stored) := by
  subst hidentity
  refine requiring_result fun _ => editExact_result op _ _ fun row answer edited h => ?_
  obtain ⟨hchange, hkept⟩ := settledEdit_change op (hfields row) (fun _ => settleUpdate_update) h
  exact ⟨hchange, key_of_update hkept⟩

theorem saveDelivery_result {expected : RecoveryRecordIdentity} {delivery : DeliveryConfirmation}
    {value : String} {failed : Bool} (hidentity : op.identity = expected)
    (hfields : ∀ row, op.fieldUpdate authority row =
      (saveDeliveryEdit delivery value failed row).map (·.2)) :
    Result authority op stored
      (saveDelivery answers authority expected delivery value failed stored) := by
  subst hidentity
  refine requiring_result fun _ => editExact_result op _ _ fun row answer edited h => ?_
  obtain ⟨hchange, hkept⟩ := saveDelivery_change (hfields row) h
  exact ⟨hchange, key_of_update hkept⟩

/-- What an operation on the generation document can do. -/
theorem run_result (answers : StorageAnswers) (authority : NamespaceStorageAuthority)
    (stored : GenerationFile) (op : GenerationOperation) :
    Result authority op stored (op.run answers authority stored) := by
  cases op with
  | upsert scope record =>
    rcases generationTable.upsert_cases answers authority scope record stored
      with ⟨failure, hfail⟩ | ⟨next, hpublished, -, hrow, hlookup, hsame⟩
    · simp only [run, upsertPendingGeneration, hfail]
      exact .failed failure
    · simp only [run, upsertPendingGeneration, hpublished]
      refine .published true next hrow ?_
      rw [show generationTable.lookup (some next) (upsert scope record).key = some record
        from hlookup]
      exact .upserted scope record _ rfl hsame
  | remove expected =>
    refine requiring_result fun _ => editExact_result (remove expected) _ _ ?_
    rintro row _ _ ⟨⟩
    exact ⟨.removed row ⟨expected, rfl⟩, by simp⟩
  | retire expected =>
    refine requiring_result fun _ => editExact_result (retire expected) _ _ ?_
    intro row answer edited h
    obtain ⟨hchange, hkept⟩ := retire_change h
    exact ⟨hchange, key_of_update hkept⟩
  | rebind expected epoch =>
    refine requiring_result fun _ => requiring_result fun hepoch =>
      editExact_result (rebind expected epoch) _ _ ?_
    have hcurrent : epoch = authority.lease.authEpoch := by simpa using hepoch
    subst hcurrent
    rintro row _ _ ⟨⟩
    refine ⟨.rebound row expected rfl, ?_⟩
    rintro _ ⟨⟩
    rfl
  | patch expected change =>
    refine requiring_result fun _ => editExact_result (patch expected change) _ _ ?_
    intro row answer edited h
    obtain ⟨hchange, hkept⟩ := patch_change h
    exact ⟨hchange, key_of_update hkept⟩
  | deliverySaved expected delivery path => exact saveDelivery_result rfl fun _ => rfl
  | deliveryFailed expected delivery asset => exact saveDelivery_result rfl fun _ => rfl
  | deliveryAcknowledged expected file => exact settleDelivery_result rfl fun _ => rfl
  | abandonDelivery expected asset => exact settleDelivery_result rfl fun _ => rfl
  | settleCutout record confirmation path =>
    refine requiring_result fun _ => requiring_result fun _ =>
      editExact_result (settleCutout record confirmation path) _ _ ?_
    intro row answer edited h
    obtain ⟨hchange, hkept⟩ := settledEdit_change (settleCutout record confirmation path) rfl
      (fun _ => cutoutUpdate_update) h
    exact ⟨hchange, key_of_update hkept⟩

end GenerationOperation

/-- What a patch does: nothing, or it answers `false` without the exact row, or it leaves the
patched row, which a terminal patch drops when it is complete. -/
theorem applyGenerationPatch_cases (answers : StorageAnswers)
    (authority : NamespaceStorageAuthority) (expected : RecoveryRecordIdentity)
    (patch : GenerationRecoveryPatch) (stored : GenerationFile) :
    (∃ failure, applyGenerationPatch answers authority expected patch stored =
      (.error failure, stored)) ∨
    ∃ answer next, applyGenerationPatch answers authority expected patch stored =
        (.ok answer, some next) ∧
      generationTable.OneRow authority.userPublicId expected.clientRequestId stored (some next) ∧
      (answer = false ∧ generationTable.rowsOf (some next) = generationTable.rowsOf stored ∧
          exactIndex (generationTable.rowsOf stored) expected = none ∨
        ∃ row updated, generationTable.lookup stored expected.clientRequestId = some row ∧
          RecoveryRow.identity row = expected ∧ patch.apply row = .ok updated ∧ answer = true ∧
          generationTable.lookup (some next) expected.clientRequestId =
            if patch.isTerminal then dropWhenComplete updated else some updated) := by
  unfold applyGenerationPatch
  rcases RowTable.requiring_cases (expected.requireAuthority authority true) stored
    (generationTable.editExact answers authority
      (if patch.isTerminal then .remove .generation expected else .preserve) expected
      patch.edit stored) with ⟨failure, hfail⟩ | ⟨-, heq⟩
  · exact .inl ⟨failure, hfail⟩
  have hkeep : ∀ row answer edited, patch.edit row = .ok (answer, some edited) →
      clientRequestId edited = clientRequestId row := by
    intro row answer edited hedit
    obtain ⟨updated, happly, -, hedited⟩ := GenerationRecoveryPatch.edit_ok.mp hedit
    have hidentity := (GenerationRecoveryPatch.apply_update happly).identity
    split at hedited
    · rcases GenerationOperation.dropWhenComplete_cases updated with hkeep | ⟨hdrop, -⟩
      · cases hedited.trans hkeep
        exact congrArg RecoveryRecordIdentity.clientRequestId hidentity
      · cases hedited.trans hdrop
    · cases hedited
      exact congrArg RecoveryRecordIdentity.clientRequestId hidentity
  rcases generationTable.editExact_cases answers authority
    (if patch.isTerminal then .remove .generation expected else .preserve) expected patch.edit
    stored hkeep with ⟨failure, hfail⟩ | ⟨answer, next, hpublished, hrow, hexact⟩
  · exact .inl ⟨failure, heq.trans hfail⟩
  refine .inr ⟨answer, next, heq.trans hpublished, hrow, ?_⟩
  rcases hexact with habsent | ⟨row, edited, hlookup, hidentity, hedit, hafter⟩
  · exact .inl habsent
  · obtain ⟨updated, happly, hanswer, rfl⟩ := GenerationRecoveryPatch.edit_ok.mp hedit
    exact .inr ⟨row, updated, hlookup, hidentity, happly, hanswer, hafter⟩

def loginOf (epoch : Nat) : NamespaceStorageAuthority :=
  ⟨"0a000000-0000-0000-0000-000000000001", ⟨epoch, id⟩⟩

def payerScope (epoch : Nat) : BillingScope :=
  ⟨⟨"0a000000-0000-0000-0000-000000000001", epoch⟩, "0b000000-0000-0000-0000-000000000002"⟩

def imageTask (epoch : Nat) : PendingGenerationRecord where
  clientRequestId := "key"
  ownerUserId := "0a000000-0000-0000-0000-000000000001"
  billingAccountGroupId := "0b000000-0000-0000-0000-000000000002"
  authEpoch := epoch
  localTaskId := "local"
  rawPrompt := "a tree"
  generationPrompt := "a tree"
  taskType := "image_generation"
  category := "image"
  mode := "text"
  ratio := "1:1"
  quality := "2K"
  modelCode := "model"
  conversationId := "conversation"
  count := 1
  createConversation := false

end ArtForgeStudio.Recovery
