import ArtForgeStudio.Recovery.Replay
import ArtForgeStudio.Recovery.Runs
import ArtForgeStudio.Library.Runs

/-! # Cancellation, settlement and disappearance of generation rows

Between its insertion and its removal a row only gains facts, except where an upsert puts a
record over it. A row that no caller removes leaves the document complete.
-/

namespace ArtForgeStudio.Recovery

open ArtForgeStudio.Api ArtForgeStudio.Outcome ArtForgeStudio.KeyedRows ArtForgeStudio.Runs

/-- One call of a public operation on the generation document. -/
structure GenerationCall where
  answers : StorageAnswers
  authority : NamespaceStorageAuthority
  operation : GenerationOperation

def GenerationCall.step (call : GenerationCall) (stored : GenerationFile) : GenerationFile :=
  (call.operation.run call.answers call.authority stored).2

abbrev runGeneration (calls : List GenerationCall) (stored : GenerationFile) : GenerationFile :=
  run GenerationCall.step calls stored

def Retained (key : String) (stored : GenerationFile) : Prop :=
  (generationTable.lookup stored key).isSome

/-- An upsert over a row of its identity brings the facts of that row along, or is refused. -/
def CarriesFacts (call : GenerationCall) (stored : GenerationFile) : Prop :=
  ∀ scope record, call.operation = .upsert scope record →
    (call.operation.run call.answers call.authority stored).1 = .ok true →
    ∀ saved, generationTable.lookup stored record.clientRequestId = some saved →
      RecoveryRow.identity saved = RecoveryRow.identity record → FactsKept saved record

variable {call : GenerationCall} {calls : List GenerationCall} {stored : GenerationFile}
  {key : String} {row later : PendingGenerationRecord}

open GenerationOperation in
/-- The row of any key after one call: unchanged, or changed as the operation changes the row
it names. -/
theorem GenerationCall.step_row (call : GenerationCall) (stored : GenerationFile) (key : String) :
    generationTable.lookup (call.step stored) key = generationTable.lookup stored key ∨
      key = call.operation.key ∧
        (∃ answer, (call.operation.run call.answers call.authority stored).1 = .ok answer) ∧
        RowChange call.authority call.operation
          (generationTable.lookup stored key) (generationTable.lookup (call.step stored) key) := by
  obtain ⟨answers, authority, op⟩ := call
  have hresult := op.run_result answers authority stored
  unfold GenerationCall.step
  dsimp only
  generalize op.run answers authority stored = result at hresult ⊢
  cases hresult with
  | failed failure => exact .inl rfl
  | published answer next hrow hchange =>
    by_cases hkey : key = op.key
    · subst hkey
      exact .inr ⟨rfl, ⟨answer, rfl⟩, hchange⟩
    · exact .inl (hrow.lookup_other hkey)

/-- An upsert that succeeds has the one answer. -/
theorem upsert_answer {answers : StorageAnswers} {authority : NamespaceStorageAuthority}
    {scope : BillingScope} {record : PendingGenerationRecord} {answer : Bool}
    (h : (GenerationOperation.run answers authority stored (.upsert scope record)).1 = .ok answer) :
    (GenerationOperation.run answers authority stored (.upsert scope record)).1 = .ok true := by
  simp only [GenerationOperation.run] at h ⊢
  cases hresult : (upsertPendingGeneration answers authority scope record stored).1 with
  | error failure =>
    rw [hresult] at h
    cases h
  | ok u => rfl

theorem step_facts (hcarries : CarriesFacts call stored)
    (hrow : generationTable.lookup stored key = some row)
    (hlater : generationTable.lookup (call.step stored) key = some later) :
    FactsKept row later := by
  rcases call.step_row stored key with hsame | ⟨rfl, ⟨answer, hanswer⟩, hchange⟩
  · cases hrow.symm.trans (hsame.symm.trans hlater)
    exact .refl row
  · rw [hrow, hlater] at hchange
    cases hchange with
    | untouched => exact .refl row
    | upserted scope record before hop hsame =>
      refine hcarries scope later hop ?_ row ?_ (hsame row rfl)
      · rw [hop] at hanswer ⊢
        exact upsert_answer hanswer
      · rw [← hrow, hop]
        rfl
    | rebound row expected hop => exact ⟨id, id, .refl _⟩
    | updated row updated hfields hupdate => exact hupdate.facts

/-- While a row is retained and upserts over it carry its facts, it keeps them. -/
theorem run_facts (hrow : generationTable.lookup stored key = some row)
    (hretained : Throughout GenerationCall.step (Retained key) calls stored)
    (hcarries : AtEachStep GenerationCall.step CarriesFacts calls stored) :
    ∃ later, generationTable.lookup (runGeneration calls stored) key = some later ∧
      FactsKept row later := by
  refine run_invariant (fun state => ∃ later, generationTable.lookup state key = some later ∧
      FactsKept row later) ?_ ⟨row, hrow, .refl row⟩ (hcarries.and hretained.next)
  rintro call state ⟨current, hcurrent, hfacts⟩ ⟨hcarries, hnext⟩
  obtain ⟨later, hlater⟩ := Option.isSome_iff_exists.mp hnext
  exact ⟨later, hlater, hfacts.trans (step_facts hcarries hcurrent hlater)⟩

/-- Neither a first submission nor a replay of the key is admitted. -/
def SubmissionRefused (key : String) (stored : GenerationFile) : Prop :=
  (∀ answers authority expected, expected.clientRequestId = key →
    (applyGenerationPatch answers authority expected .beginSubmission stored).1 ≠ .ok true) ∧
  ∀ readable authority session saved,
    SavedReplayRequest.generation readable authority session key stored ≠ .ok saved

theorem patch_true {answers : StorageAnswers} {authority : NamespaceStorageAuthority}
    {expected : RecoveryRecordIdentity} {change : GenerationRecoveryPatch}
    (h : (applyGenerationPatch answers authority expected change stored).1 = .ok true) :
    ∃ row updated, generationTable.lookup stored expected.clientRequestId = some row ∧
      change.apply row = .ok updated ∧
      generationTable.lookup (applyGenerationPatch answers authority expected change stored).2
        expected.clientRequestId =
          if change.isTerminal then dropWhenComplete updated else some updated := by
  rcases applyGenerationPatch_cases answers authority expected change stored
    with ⟨failure, hfail⟩ | ⟨answer, next, hpublished, -, hexact⟩
  · rw [hfail] at h
    cases h
  rw [hpublished] at h ⊢
  rcases hexact with ⟨rfl, -⟩ | ⟨row, updated, hlookup, -, happly, -, hafter⟩
  · cases h
  · exact ⟨row, updated, hlookup, happly, hafter⟩

theorem submissionRefused_of_cancelled (hrow : generationTable.lookup stored key = some row)
    (hcancelled : row.cancelRequested = true) : SubmissionRefused key stored := by
  constructor
  · rintro answers authority expected rfl hbegin
    obtain ⟨current, updated, hlookup, happly, -⟩ := patch_true hbegin
    cases hrow.symm.trans hlookup
    obtain ⟨u, hensure, -⟩ := bind_eq_ok.mp happly
    simp [hcancelled] at hensure
  · intro readable authority session saved hsaved
    obtain ⟨-, current, hlookup, -, -, -, -, hrequest⟩ := generation_ok hsaved
    cases hrow.symm.trans hlookup
    obtain ⟨-, -, hactive, -⟩ := savedGenerationRequest_ok.mp hrequest
    rw [show (remapGeneration authority row).cancelRequested = true from hcancelled] at hactive
    cases hactive

theorem requestCancellation_cancels {answers : StorageAnswers}
    {authority : NamespaceStorageAuthority} {expected : RecoveryRecordIdentity}
    {before : GenerationFile}
    (h : applyGenerationPatch answers authority expected .requestCancellation before =
      (.ok true, stored))
    (hrow : generationTable.lookup stored expected.clientRequestId = some row) :
    row.cancelRequested = true := by
  obtain ⟨old, updated, -, happly, hafter⟩ := patch_true (congrArg Prod.fst h)
  rw [h] at hafter
  cases happly
  cases hrow.symm.trans hafter
  rfl

/-- In every run whose upserts carry the facts of the rows they replace, a retained row keeps
its cancellation, its end and its settled deliveries. A successful cancellation is such a
fact, and from then on the row is not submitted again. -/
theorem cancellation_and_settlement_survive
    (hrow : generationTable.lookup stored key = some row)
    (hretained : Throughout GenerationCall.step (Retained key) calls stored)
    (hcarries : AtEachStep GenerationCall.step CarriesFacts calls stored) :
    (∃ later, generationTable.lookup (runGeneration calls stored) key = some later ∧
      FactsKept row later ∧
      (row.cancelRequested = true → SubmissionRefused key (runGeneration calls stored))) ∧
    ∀ before answers authority expected, expected.clientRequestId = key →
      applyGenerationPatch answers authority expected .requestCancellation before =
        (.ok true, stored) → row.cancelRequested = true := by
  obtain ⟨later, hlater, hfacts⟩ := run_facts hrow hretained hcarries
  refine ⟨⟨later, hlater, hfacts, fun hcancelled =>
    submissionRefused_of_cancelled hlater (hfacts.cancelRequested hcancelled)⟩, ?_⟩
  rintro before answers authority expected rfl hcancel
  exact requestCancellation_cancels hcancel hrow

def insertCall : GenerationCall := ⟨.faultFree, loginOf 1, .upsert (payerScope 1) (imageTask 1)⟩

def cancelCall : GenerationCall :=
  ⟨.faultFree, loginOf 1, .patch (RecoveryRow.identity (imageTask 1)) .requestCancellation⟩

/-- A stale upsert of the original record takes the cancellation back. -/
theorem stale_upsert_forgets_cancellation :
    (generationTable.lookup (runGeneration [insertCall, cancelCall] none) "key").map
        (·.cancelRequested) = some true ∧
    (generationTable.lookup (runGeneration [insertCall, cancelCall, insertCall] none) "key").map
        (·.cancelRequested) = some false ∧
    (applyGenerationPatch .faultFree (loginOf 1) (RecoveryRow.identity (imageTask 1))
      .beginSubmission (runGeneration [insertCall, cancelCall, insertCall] none)).1 = .ok true := by
  decide +kernel

/-- The record is stored once more, with the cancellation and another prompt, and its end is
recorded. -/
def recordedCalls : List GenerationCall :=
  [⟨.faultFree, loginOf 1, .upsert (payerScope 1)
      { imageTask 1 with cancelRequested := true, rawPrompt := "a tall tree" }⟩,
    ⟨.faultFree, loginOf 1, .patch (RecoveryRow.identity (imageTask 1)) (.terminal 1)⟩]

/-- The cancelled task stays refused. -/
theorem cancellation_survives_upsert :
    let stored := runGeneration [insertCall, cancelCall] none
    let row := { imageTask 1 with cancelRequested := true }
    (∃ later, generationTable.lookup (runGeneration recordedCalls stored) "key" = some later ∧
      FactsKept row later ∧
      (row.cancelRequested = true → SubmissionRefused "key" (runGeneration recordedCalls stored))) ∧
    ∀ before answers authority expected, expected.clientRequestId = "key" →
      applyGenerationPatch answers authority expected .requestCancellation before =
        (.ok true, stored) → row.cancelRequested = true := by
  intro stored row
  have hrow : generationTable.lookup stored "key" = some row := by decide +kernel
  refine cancellation_and_settlement_survive hrow
    ⟨by unfold Retained; decide +kernel, by unfold Retained; decide +kernel,
      by unfold Throughout Retained; decide +kernel⟩ ⟨?_, by rintro _ _ ⟨⟩, trivial⟩
  rintro scope record ⟨⟩ - saved hsaved -
  obtain rfl := Option.some.inj (hrow.symm.trans hsaved)
  exact ⟨id, id, .refl _⟩

/-- The row that a disappearing row was last: ended, without inputs, with every delivery
settled and enough of them. -/
structure Delivered (row : PendingGenerationRecord) : Prop where
  terminal : row.terminal = true
  referencePaths : row.referencePaths = []
  referenceSha256 : row.referenceSha256 = []
  referenceSizeBytes : row.referenceSizeBytes = []
  settled : ∀ delivery ∈ row.deliveries, delivery.acknowledged = true ∨ delivery.abandoned = true
  enough : row.expectedSuccessCount ≤ (row.deliveries.filter (·.settled)).length

theorem delivered_of_complete (h : generationRecordComplete row = true) : Delivered row := by
  simp only [generationRecordComplete, Bool.and_eq_true, List.isEmpty_iff, List.all_eq_true,
    decide_eq_true_eq] at h
  obtain ⟨⟨⟨⟨⟨hterminal, hpaths⟩, hsha⟩, hsize⟩, hsettled⟩, henough⟩ := h
  refine ⟨hterminal, hpaths, hsha, hsize, fun delivery hmem => ?_, henough⟩
  simpa [PendingDeliveryRecord.settled] using hsettled delivery hmem

/-- In every run, a row that disappears without a removal being asked for was complete after
the fields that the last operation wrote. -/
theorem no_undelivered_row_disappears (start : GenerationFile) (calls : List GenerationCall)
    (call : GenerationCall) (hremove : ∀ expected, call.operation ≠ .remove expected)
    (hrow : generationTable.lookup (runGeneration calls start) key = some row)
    (hgone : generationTable.lookup (runGeneration (calls ++ [call]) start) key = none) :
    key = call.operation.key ∧ ∃ updated,
      call.operation.fieldUpdate call.authority row = .ok (some updated) ∧ Delivered updated := by
  rw [runGeneration, run_append] at hgone
  change generationTable.lookup (call.step (runGeneration calls start)) key = none at hgone
  rcases call.step_row (runGeneration calls start) key with hsame | ⟨hkey, -, hchange⟩
  · rw [hrow, hgone] at hsame
    cases hsame
  · rw [hrow, hgone] at hchange
    refine ⟨hkey, ?_⟩
    cases hchange with
    | removed _ hop =>
      obtain ⟨expected, hop⟩ := hop
      exact absurd hop (hremove expected)
    | completed _ updated hfields hcomplete =>
      exact ⟨updated, hfields, delivered_of_complete hcomplete⟩

/-- A result is saved and acknowledged, and then the task ends. -/
def deliveryCalls : List GenerationCall :=
  [⟨.faultFree, loginOf 1, .deliverySaved (RecoveryRow.identity (imageTask 1))
      ⟨"key", 0, "task", "file", "", 1, none⟩ "image.png"⟩,
    ⟨.faultFree, loginOf 1, .deliveryAcknowledged (RecoveryRow.identity (imageTask 1)) "file"⟩]

theorem acknowledged_task_disappears_complete :
    let call : GenerationCall := ⟨.faultFree, loginOf 1,
      .patch (RecoveryRow.identity (imageTask 1)) (.terminal 1)⟩
    let row := { imageTask 1 with deliveries := [⟨0, "file", "", 1, "image.png", true, "", false⟩] }
    "key" = call.operation.key ∧ ∃ updated,
      call.operation.fieldUpdate call.authority row = .ok (some updated) ∧ Delivered updated :=
  no_undelivered_row_disappears none (insertCall :: deliveryCalls) _ (by simp) (by decide +kernel)
    (by decide +kernel)

end ArtForgeStudio.Recovery
