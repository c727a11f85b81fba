import ArtForgeStudio.Recovery.Operations

/-! # What the operations do to a generation row

Patches, deliveries and settlements change a row within `RowUpdate`: identity, retained
body and every recorded fact survive. An upsert is the only operation outside of it, and a
removal that is not asked for removes a complete row.
-/

namespace ArtForgeStudio.Recovery

open ArtForgeStudio.Api ArtForgeStudio.Outcome ArtForgeStudio.KeyedRows

/-- A later version of a delivery: the same file, and a settlement is not taken back. -/
structure DeliveryKept (old new : PendingDeliveryRecord) : Prop where
  itemIndex : new.itemIndex = old.itemIndex
  fileId : new.fileId = old.fileId
  sha256 : new.sha256 = old.sha256
  sizeBytes : new.sizeBytes = old.sizeBytes
  acknowledged : old.acknowledged = true → new.acknowledged = true
  abandoned : old.abandoned = true → new.abandoned = true

theorem DeliveryKept.refl (delivery : PendingDeliveryRecord) : DeliveryKept delivery delivery :=
  ⟨rfl, rfl, rfl, rfl, id, id⟩

theorem DeliveryKept.trans {a b c : PendingDeliveryRecord} (h : DeliveryKept a b)
    (h' : DeliveryKept b c) : DeliveryKept a c :=
  ⟨h'.itemIndex.trans h.itemIndex, h'.fileId.trans h.fileId, h'.sha256.trans h.sha256,
    h'.sizeBytes.trans h.sizeBytes, h'.acknowledged ∘ h.acknowledged,
    h'.abandoned ∘ h.abandoned⟩

/-- Every settled delivery of the old list has a later version in the new one. -/
def settledKept (old new : List PendingDeliveryRecord) : Prop :=
  ∀ delivery ∈ old, delivery.settled = true → ∃ later ∈ new, DeliveryKept delivery later

/-- The facts of cancellation and settlement that a row holds. -/
structure FactsKept (old new : PendingGenerationRecord) : Prop where
  cancelRequested : old.cancelRequested = true → new.cancelRequested = true
  terminal : old.terminal = true → new.terminal = true
  deliveries : settledKept old.deliveries new.deliveries

theorem settledKept.refl (deliveries : List PendingDeliveryRecord) :
    settledKept deliveries deliveries :=
  fun delivery hmem _ => ⟨delivery, hmem, .refl delivery⟩

theorem DeliveryKept.settled {old new : PendingDeliveryRecord} (h : DeliveryKept old new)
    (hold : old.settled = true) : new.settled = true := by
  rcases Bool.or_eq_true _ _ ▸ hold with hack | habandon
  · simp [PendingDeliveryRecord.settled, h.acknowledged hack]
  · simp [PendingDeliveryRecord.settled, h.abandoned habandon]

theorem settledKept.trans {a b c : List PendingDeliveryRecord} (h : settledKept a b)
    (h' : settledKept b c) : settledKept a c := by
  intro delivery hmem hsettled
  obtain ⟨later, hlater, hkept⟩ := h delivery hmem hsettled
  obtain ⟨latest, hlatest, hkept'⟩ := h' later hlater (hkept.settled hsettled)
  exact ⟨latest, hlatest, hkept.trans hkept'⟩

theorem FactsKept.refl (row : PendingGenerationRecord) : FactsKept row row :=
  ⟨id, id, .refl _⟩

theorem FactsKept.trans {a b c : PendingGenerationRecord} (h : FactsKept a b)
    (h' : FactsKept b c) : FactsKept a c :=
  ⟨h'.cancelRequested ∘ h.cancelRequested, h'.terminal ∘ h.terminal,
    h.deliveries.trans h'.deliveries⟩

/-- A delivery list changed item by item, with items appended. -/
theorem settledKept_map (deliveries added : List PendingDeliveryRecord)
    (change : PendingDeliveryRecord → PendingDeliveryRecord)
    (hchange : ∀ delivery, DeliveryKept delivery (change delivery)) :
    settledKept deliveries (deliveries.map change ++ added) :=
  fun delivery hmem _ => ⟨change delivery,
    List.mem_append_left _ (List.mem_map_of_mem hmem), hchange delivery⟩

theorem settledKept_modify (deliveries : List PendingDeliveryRecord) (index : Nat)
    (change : PendingDeliveryRecord → PendingDeliveryRecord)
    (hchange : ∀ delivery, DeliveryKept delivery (change delivery)) :
    settledKept deliveries (deliveries.modify index change) := by
  intro delivery hmem _
  obtain ⟨i, hi⟩ := List.getElem?_of_mem hmem
  have hmodify := List.getElem?_modify change index deliveries i
  rw [hi] at hmodify
  simp only [Option.map_eq_map, Option.map_some] at hmodify
  refine ⟨_, List.mem_of_getElem? hmodify, ?_⟩
  split
  · exact hchange delivery
  · exact .refl delivery

theorem settleMark_kept (abandon : Bool) (delivery : PendingDeliveryRecord) :
    DeliveryKept delivery (settleMark abandon delivery) := by
  cases abandon
  · exact ⟨rfl, rfl, rfl, rfl, fun _ => rfl, id⟩
  · exact ⟨rfl, rfl, rfl, rfl, id, fun _ => rfl⟩

/-- The changes of a row by patches, deliveries and settlements. -/
structure RowUpdate (old new : PendingGenerationRecord) : Prop where
  identity : RecoveryRow.identity new = RecoveryRow.identity old
  body : retainedBody new = retainedBody old
  facts : FactsKept old new

namespace GenerationRecoveryPatch

variable {patch : GenerationRecoveryPatch} {row updated : PendingGenerationRecord}

theorem apply_update (h : patch.apply row = .ok updated) : RowUpdate row updated := by
  cases patch with
  | requestCancellation =>
    cases h
    exact ⟨rfl, rfl, fun _ => rfl, id, .refl _⟩
  | beginSubmission =>
    obtain ⟨-, -, hresult⟩ := bind_eq_ok.mp h
    cases hresult
    exact ⟨rfl, rfl, .refl row⟩
  | uploadedFileIds ids =>
    cases h
    exact ⟨rfl, rfl, id, id, .refl _⟩
  | uploadedAndReleaseInputs ids =>
    cases h
    exact ⟨rfl, rfl, id, id, .refl _⟩
  | accepted taskId ids clear =>
    cases h
    cases clear
    · exact ⟨rfl, rfl, id, id, .refl _⟩
    · exact ⟨rfl, rfl, id, id, .refl _⟩
  | releaseReferenceInputs =>
    cases h
    exact ⟨rfl, rfl, id, id, .refl _⟩
  | clearDeliveryLocalPaths ids =>
    cases h
    refine ⟨rfl, rfl, id, id, ?_⟩
    have hmap := settledKept_map row.deliveries []
      (fun item => if ids.contains item.fileId then { item with localPath := "" } else item) ?_
    · simpa using hmap
    · intro delivery
      split
      · exact ⟨rfl, rfl, rfl, rfl, id, id⟩
      · exact .refl delivery
  | terminal count =>
    cases h
    exact ⟨rfl, rfl, id, fun _ => rfl, .refl _⟩

theorem edit_ok {answer : Bool} {edited : Option PendingGenerationRecord} :
    patch.edit row = .ok (answer, edited) ↔ ∃ updated, patch.apply row = .ok updated ∧
      answer = true ∧
      edited = if patch.isTerminal then dropWhenComplete updated else some updated := by
  simp only [edit, bind_eq_ok, pure_eq_ok, Prod.mk.injEq]
  constructor
  · rintro ⟨updated, happly, rfl, rfl⟩
    exact ⟨updated, happly, rfl, rfl⟩
  · rintro ⟨updated, happly, rfl, rfl⟩
    exact ⟨updated, happly, rfl, rfl⟩

end GenerationRecoveryPatch

variable {row updated : PendingGenerationRecord} {answer : Bool}
  {edited : Option PendingGenerationRecord}

theorem saveDeliveryEdit_update {delivery : DeliveryConfirmation} {value : String} {failed : Bool}
    (h : saveDeliveryEdit delivery value failed row = .ok (answer, edited)) :
    ∃ updated, edited = some updated ∧ RowUpdate row updated := by
  obtain ⟨index?, -, hresult⟩ := bind_eq_ok.mp h
  cases index? with
  | some index =>
    cases hresult
    refine ⟨_, rfl, rfl, rfl, id, id, settledKept_modify _ _ _ ?_⟩
    intro item
    cases failed
    · exact ⟨rfl, rfl, rfl, rfl, id, id⟩
    · exact ⟨rfl, rfl, rfl, rfl, id, id⟩
  | none =>
    cases hresult
    refine ⟨_, rfl, rfl, rfl, id, id, ?_⟩
    simpa using settledKept_map row.deliveries _ id .refl

theorem settleUpdate_update {value : String} {abandon : Bool}
    (h : settleUpdate value abandon row = .ok (some updated)) : RowUpdate row updated := by
  unfold settleUpdate at h
  split at h
  · cases h
  · obtain ⟨index?, -, hindex⟩ := bind_eq_ok.mp h
    cases index? with
    | none => cases hindex
    | some index =>
      obtain ⟨-, -, hresult⟩ := bind_eq_ok.mp hindex
      cases hresult
      exact ⟨rfl, rfl, id, id, settledKept_modify _ _ _ (settleMark_kept abandon)⟩

theorem cutoutUpdate_update {receipt : AcknowledgedCutoutDelivery}
    (h : cutoutUpdate receipt row = .ok (some updated)) : RowUpdate row updated := by
  obtain ⟨-, -, h⟩ := bind_eq_ok.mp h
  obtain ⟨index?, -, hindex⟩ := bind_eq_ok.mp h
  cases index? with
  | none => cases hindex
  | some index =>
    obtain ⟨-, -, hresult⟩ := bind_eq_ok.mp hindex
    cases hresult
    exact ⟨rfl, rfl, id, id, settledKept_modify _ _ _ (settleMark_kept false)⟩

/-- The operations on the generation document. The receipt of a cutout settlement carries
the authority of its call. -/
inductive GenerationOperation where
  | upsert (scope : BillingScope) (record : PendingGenerationRecord)
  | remove (expected : RecoveryRecordIdentity)
  | retire (expected : RecoveryRecordIdentity)
  | rebind (expected : RecoveryRecordIdentity) (newAuthEpoch : Nat)
  | patch (expected : RecoveryRecordIdentity) (change : GenerationRecoveryPatch)
  | deliverySaved (expected : RecoveryRecordIdentity) (delivery : DeliveryConfirmation)
      (localPath : String)
  | deliveryFailed (expected : RecoveryRecordIdentity) (delivery : DeliveryConfirmation)
      (failedAssetId : String)
  | deliveryAcknowledged (expected : RecoveryRecordIdentity) (fileId : String)
  | abandonDelivery (expected : RecoveryRecordIdentity) (failedAssetId : String)
  | settleCutout (record : PendingGenerationRecord) (confirmation : DeliveryConfirmation)
      (remotePath : String)

namespace GenerationOperation

/-- The identity of the row that an operation names. -/
def identity : GenerationOperation → RecoveryRecordIdentity
  | upsert _ record | settleCutout record _ _ => RecoveryRow.identity record
  | remove expected | retire expected | rebind expected _ | patch expected _
  | deliverySaved expected _ _ | deliveryFailed expected _ _ | deliveryAcknowledged expected _
  | abandonDelivery expected _ => expected

def key (op : GenerationOperation) : String := op.identity.clientRequestId

/-- Running an operation. An upsert returns `Ok(())`, which counts as the answer `true`. -/
def run (answers : StorageAnswers) (authority : NamespaceStorageAuthority)
    (stored : GenerationFile) : GenerationOperation → Except Failure Bool × GenerationFile
  | upsert scope record =>
    let result := upsertPendingGeneration answers authority scope record stored
    (result.1.map fun _ => true, result.2)
  | remove expected => removePendingGeneration answers authority expected stored
  | retire expected => retireCompletedGeneration answers authority expected stored
  | rebind expected epoch => rebindPendingGenerationEpoch answers authority expected epoch stored
  | patch expected change => applyGenerationPatch answers authority expected change stored
  | deliverySaved expected delivery path =>
    pendingDeliverySaved answers authority expected delivery path stored
  | deliveryFailed expected delivery asset =>
    pendingDeliveryFailed answers authority expected delivery asset stored
  | deliveryAcknowledged expected file =>
    pendingDeliveryAcknowledged answers authority expected file stored
  | abandonDelivery expected asset =>
    abandonPendingDelivery answers authority expected asset stored
  | settleCutout record confirmation path =>
    settleAcknowledgedCutoutDelivery answers ⟨authority, record, confirmation, path⟩ stored

/-- The row as the fields that an operation writes leave it, before the operation decides
whether the row stays; `none` when it writes none. -/
def fieldUpdate (authority : NamespaceStorageAuthority) (row : PendingGenerationRecord) :
    GenerationOperation → Except Failure (Option PendingGenerationRecord)
  | upsert _ record => .ok (some record)
  | remove _ | retire _ => .ok (some row)
  | rebind _ epoch => .ok (some { row with authEpoch := epoch })
  | patch _ change => (change.apply row).map some
  | deliverySaved _ delivery path => (saveDeliveryEdit delivery path false row).map (·.2)
  | deliveryFailed _ delivery asset => (saveDeliveryEdit delivery asset true row).map (·.2)
  | deliveryAcknowledged _ file => settleUpdate file false row
  | abandonDelivery _ asset => settleUpdate asset true row
  | settleCutout record confirmation path =>
    cutoutUpdate ⟨authority, record, confirmation, path⟩ row

/-- What an operation can do to the row it names. -/
inductive RowChange (authority : NamespaceStorageAuthority) (op : GenerationOperation) :
    Option PendingGenerationRecord → Option PendingGenerationRecord → Prop
  | untouched (row : Option PendingGenerationRecord) : RowChange authority op row row
  | upserted (scope : BillingScope) (record : PendingGenerationRecord)
      (before : Option PendingGenerationRecord) (hop : op = upsert scope record)
      (hsame : ∀ saved, before = some saved →
        RecoveryRow.identity saved = RecoveryRow.identity record) :
      RowChange authority op before (some record)
  | removed (row : PendingGenerationRecord) (hop : ∃ expected, op = remove expected) : RowChange authority op (some row) none
  | rebound (row : PendingGenerationRecord) (expected : RecoveryRecordIdentity)
      (hop : op = rebind expected authority.lease.authEpoch) :
      RowChange authority op (some row)
        (some (RecoveryRow.setAuthEpoch authority.lease.authEpoch row))
  | updated (row updated : PendingGenerationRecord)
      (hfields : op.fieldUpdate authority row = .ok (some updated))
      (hupdate : RowUpdate row updated) : RowChange authority op (some row) (some updated)
  | completed (row updated : PendingGenerationRecord)
      (hfields : op.fieldUpdate authority row = .ok (some updated))
      (hcomplete : generationRecordComplete updated = true) :
      RowChange authority op (some row) none

variable {answers : StorageAnswers} {authority : NamespaceStorageAuthority}
  {stored : GenerationFile}

theorem dropWhenComplete_cases (row : PendingGenerationRecord) :
    dropWhenComplete row = some row ∨
      dropWhenComplete row = none ∧ generationRecordComplete row = true := by
  unfold dropWhenComplete
  cases h : generationRecordComplete row
  · exact .inl rfl
  · exact .inr ⟨rfl, rfl⟩

/-- The edits that settle a delivery update the row and drop it when it is complete. -/
theorem settledEdit_change (op : GenerationOperation)
    {update : Except Failure (Option PendingGenerationRecord)}
    (hfields : op.fieldUpdate authority row = update)
    (hupdate : ∀ updated, update = .ok (some updated) → RowUpdate row updated)
    (h : settledEdit update row = .ok (answer, edited)) :
    RowChange authority op (some row) edited ∧
      ∀ kept, edited = some kept → RowUpdate row kept := by
  obtain ⟨updated?, hupdated, hresult⟩ := bind_eq_ok.mp h
  cases updated? with
  | none =>
    cases hresult
    refine ⟨.untouched _, ?_⟩
    rintro _ ⟨⟩
    exact ⟨rfl, rfl, .refl row⟩
  | some updated =>
    cases hresult
    have hfields := hfields.trans hupdated
    rcases dropWhenComplete_cases updated with hkeep | ⟨hdrop, hcomplete⟩
    · rw [hkeep]
      refine ⟨.updated row updated hfields (hupdate updated hupdated), ?_⟩
      rintro _ ⟨⟩
      exact hupdate updated hupdated
    · rw [hdrop]
      exact ⟨.completed row updated hfields hcomplete, by simp⟩

theorem patch_change {expected : RecoveryRecordIdentity} {change : GenerationRecoveryPatch}
    (h : change.edit row = .ok (answer, edited)) :
    RowChange authority (patch expected change) (some row) edited ∧
      ∀ kept, edited = some kept → RowUpdate row kept := by
  obtain ⟨updated, happly, -, rfl⟩ := GenerationRecoveryPatch.edit_ok.mp h
  have hupdate := GenerationRecoveryPatch.apply_update happly
  have hfields : (patch expected change).fieldUpdate authority row = .ok (some updated) := by
    simp [fieldUpdate, happly, Except.map]
  have hkept : RowChange authority (patch expected change) (some row) (some updated) ∧
      ∀ kept, some updated = some kept → RowUpdate row kept := by
    refine ⟨.updated row updated hfields hupdate, ?_⟩
    rintro _ ⟨⟩
    exact hupdate
  split
  · rcases dropWhenComplete_cases updated with hkeep | ⟨hdrop, hcomplete⟩
    · rwa [hkeep]
    · rw [hdrop]
      exact ⟨.completed row updated hfields hcomplete, by simp⟩
  · exact hkept

theorem saveDelivery_change {op : GenerationOperation} {delivery : DeliveryConfirmation}
    {value : String} {failed : Bool}
    (hfields : op.fieldUpdate authority row = (saveDeliveryEdit delivery value failed row).map (·.2))
    (h : saveDeliveryEdit delivery value failed row = .ok (answer, edited)) :
    RowChange authority op (some row) edited ∧
      ∀ kept, edited = some kept → RowUpdate row kept := by
  obtain ⟨updated, rfl, hupdate⟩ := saveDeliveryEdit_update h
  rw [h] at hfields
  refine ⟨.updated row updated hfields hupdate, ?_⟩
  rintro _ ⟨⟩
  exact hupdate

theorem retire_change {expected : RecoveryRecordIdentity}
    (h : retireEdit row = .ok (answer, edited)) :
    RowChange authority (retire expected) (some row) edited ∧
      ∀ kept, edited = some kept → RowUpdate row kept := by
  unfold retireEdit at h
  split at h
  · rename_i hcomplete
    cases h
    exact ⟨.completed row row rfl hcomplete, by simp⟩
  · cases h
    refine ⟨.untouched _, ?_⟩
    rintro _ ⟨⟩
    exact ⟨rfl, rfl, .refl row⟩

end GenerationOperation

end ArtForgeStudio.Recovery
