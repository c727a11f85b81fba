import ArtForgeStudio.Generation.Workers

/-! # The requests that rows determine

A row asks the server for one request or for none. Most operations keep it: they write no
field that the request is built from. The bodies that the workers build are the requests of
the rows as their own patches have left them.
-/

namespace ArtForgeStudio.Generation

open ArtForgeStudio.Api ArtForgeStudio.Outcome ArtForgeStudio.KeyedRows ArtForgeStudio.Recovery

/-- The fields that later patches leave alone: what is left out says how far a task got. -/
def requestPart (row : PendingGenerationRecord) : PendingGenerationRecord :=
  { row with
    cancelRequested := false
    deliveries := []
    terminal := false
    expectedSuccessCount := 0
    authEpoch := 0 }

section Requests

variable {row other record : PendingGenerationRecord} {creation : Creation} {path : String}
  {body : Json} {uploaded : List String}

theorem rowRequest_eq_some : rowRequest row = some creation ↔
    savedGenerationCreatePath row = .ok creation.path ∧
      savedGenerationCreateBody row = .ok creation.body ∧
      creation.key = row.clientRequestId ∧ creation.payer = row.billingAccountGroupId := by
  obtain ⟨key, path, payer, body⟩ := creation
  unfold rowRequest
  cases savedGenerationCreatePath row with
  | error failure => simp
  | ok path' =>
    cases savedGenerationCreateBody row with
    | error failure => simp
    | ok body' =>
      simp only [Option.some.injEq, Creation.mk.injEq, Except.ok.injEq]
      constructor
      · rintro ⟨rfl, rfl, rfl, rfl⟩
        exact ⟨rfl, rfl, rfl, rfl⟩
      · rintro ⟨rfl, rfl, rfl, rfl⟩
        exact ⟨rfl, rfl, rfl, rfl⟩

theorem key_of_request (h : rowRequest row = some creation) :
    creation.key = row.clientRequestId := (rowRequest_eq_some.mp h).2.2.1

theorem payer_of_request (h : rowRequest row = some creation) :
    creation.payer = row.billingAccountGroupId := (rowRequest_eq_some.mp h).2.2.2

theorem rowRequest_requestPart (row : PendingGenerationRecord) :
    rowRequest (requestPart row) = rowRequest row := rfl

theorem request_congr (h : requestPart other = requestPart row) :
    rowRequest other = rowRequest row := by
  rw [← rowRequest_requestPart other, h, rowRequest_requestPart]

theorem taskId_congr (h : requestPart other = requestPart row) :
    other.serverTaskId = row.serverTaskId := by
  have hid := congrArg PendingGenerationRecord.serverTaskId h
  exact hid

theorem payer_congr (h : requestPart other = requestPart row) :
    other.billingAccountGroupId = row.billingAccountGroupId := by
  have hpayer := congrArg PendingGenerationRecord.billingAccountGroupId h
  exact hpayer

/-- The length check is the only use of the references in a body. -/
theorem createBody_eq_ok : savedGenerationCreateBody row = .ok body ↔
    (row.uploadedFileIds.length = row.referencePaths.length ∨ row.referencePaths = []) ∧
      savedGenerationCreateBody { row with referencePaths := [] } = .ok body := by
  simp [savedGenerationCreateBody, bind_eq_ok, savedVideoBody, savedToolboxBody,
    savedGenerationTask, savedUpscaleTask, savedEditTask]

/-- Relocating the paths of a row keeps its request. -/
theorem rowRequest_remap (authority : NamespaceStorageAuthority) (row : PendingGenerationRecord) :
    rowRequest (remapGeneration authority row) = rowRequest row := by
  refine Option.ext fun creation => ?_
  have hbody : savedGenerationCreateBody (remapGeneration authority row) = .ok creation.body ↔
      savedGenerationCreateBody row = .ok creation.body := by
    rw [createBody_eq_ok]
    simp only [remapGeneration, List.length_map, List.map_eq_nil_iff]
    exact createBody_eq_ok.symm
  rw [rowRequest_eq_some, rowRequest_eq_some, hbody]
  exact Iff.rfl

/-- Without its references a row asks for what it asked for with them. -/
theorem rowRequest_release (h : rowRequest row = some creation) :
    rowRequest (releaseReferenceInputs row) = some creation := by
  obtain ⟨hpath, hbody, hkey, hpayer⟩ := rowRequest_eq_some.mp h
  refine rowRequest_eq_some.mpr ⟨hpath, ?_, hkey, hpayer⟩
  exact (createBody_eq_ok.mp hbody).2

theorem rowRequest_incomplete
    (hlength : row.uploadedFileIds.length ≠ row.referencePaths.length)
    (hreferences : row.referencePaths ≠ []) : rowRequest row = none := by
  rw [Option.eq_none_iff_forall_ne_some]
  intro creation h
  rcases (createBody_eq_ok.mp (rowRequest_eq_some.mp h).2.1).1 with heq | heq
  · exact hlength heq
  · exact hreferences heq

theorem rowRequest_edit (htype : row.taskType = "image_edit")
    (hlength : row.uploadedFileIds.length ≠ 2) : rowRequest row = none := by
  rw [Option.eq_none_iff_forall_ne_some]
  intro creation h
  obtain ⟨-, -, hbody⟩ := bind_eq_ok.mp (rowRequest_eq_some.mp h).2.1
  simp only [htype] at hbody
  split at hbody
  · rename_i hids
    simp [hids] at hlength
  · cases hbody

/-- The uploads that a row needs are there. -/
def UploadsComplete (record : PendingGenerationRecord) (uploaded : List String) : Prop :=
  uploaded.length = record.referencePaths.length ∨ record.referencePaths = []

/-- The four types of rows that the submission workers create. -/
def submittedTypes : List String :=
  ["image_generation", "image_edit", "image_upscale", "image_to_video"]

theorem trimIsEmpty_generation : trimIsEmpty "image_generation" = false := by decide

theorem trimIsEmpty_upscale : trimIsEmpty "image_upscale" = false := by decide

theorem trimIsEmpty_of_type (htype : row.taskType ∈ submittedTypes) :
    trimIsEmpty row.taskType = false := by
  simp only [submittedTypes, List.mem_cons, List.not_mem_nil, or_false] at htype
  rcases htype with htype | htype | htype | htype <;> rw [htype] <;> decide

/-- The body that `run_generation_record_checked` builds is the request of the record with its
uploads. -/
theorem rowRequest_recordRequest (record : PendingGenerationRecord) (uploaded : List String)
    (htype : record.taskType ∈ submittedTypes)
    (hvideo : ∀ request, record.videoRequest = some request →
      request.clientRequestId = record.clientRequestId ∧ request.taskType = record.taskType)
    (huploads : UploadsComplete record uploaded)
    (h : recordRequest record uploaded = some (.ok body)) :
    rowRequest { record with uploadedFileIds := uploaded } =
      some ⟨record.clientRequestId, "/v1/generation/tasks", record.billingAccountGroupId, body⟩ := by
  have htrim := trimIsEmpty_of_type htype
  refine rowRequest_eq_some.mpr ⟨?_, createBody_eq_ok.mpr ⟨huploads, ?_⟩, rfl, rfl⟩
  · simp only [submittedTypes, List.mem_cons, List.not_mem_nil, or_false] at htype
    rcases htype with htype | htype | htype | htype <;> simp [savedGenerationCreatePath, htype]
  simp only [submittedTypes, List.mem_cons, List.not_mem_nil, or_false] at htype
  simp only [savedGenerationCreateBody, bind_eq_ok, exists_unit, ensure_eq_ok, or_true, true_and]
  simp only [recordRequest, htrim, Bool.false_eq_true, if_false] at h
  rcases htype with htype | htype | htype | htype
  · simp only [htype, String.reduceEq, if_false, Option.some.injEq, Except.ok.injEq] at h
    simp only [htype, pure_eq_ok]
    exact h
  · simp only [htype, String.reduceEq, if_false, if_true] at h
    simp only [htype]
    split at h
    · simp only [Option.some.injEq, Except.ok.injEq] at h
      simp only [pure_eq_ok]
      exact h
    · cases h
  · simp only [htype, String.reduceEq, if_false, if_true, Option.some.injEq, Except.ok.injEq] at h
    simp only [htype, pure_eq_ok]
    exact h
  · simp only [htype, if_true, Option.map_eq_some_iff] at h
    obtain ⟨request, hrequest, hvalidate⟩ := h
    simp only [htype, savedVideoBody, hrequest, bind_eq_ok, exists_unit, ensure_eq_ok, pure_eq_ok]
    cases hvalid : request.validate with
    | error error => simp [hvalid, Except.map] at hvalidate
    | ok u =>
      simp only [hvalid, Except.map, Except.ok.injEq] at hvalidate
      exact ⟨rfl, htype ▸ hvideo request hrequest, hvalidate⟩

/-- Without a request to build, a record that is no video determines none. -/
theorem rowRequest_of_none (record : PendingGenerationRecord) (uploaded : List String)
    (htype : record.taskType ∈ submittedTypes) (hvideo : record.taskType ≠ "image_to_video")
    (h : recordRequest record uploaded = none) :
    rowRequest { record with uploadedFileIds := uploaded } = none := by
  have htrim := trimIsEmpty_of_type htype
  simp only [submittedTypes, List.mem_cons, List.not_mem_nil, or_false] at htype
  rcases htype with htype | htype | htype | htype
  · simp [recordRequest, htype, trimIsEmpty_generation] at h
  · refine rowRequest_edit htype fun hlength => ?_
    obtain ⟨source, mask, rfl⟩ := List.length_eq_two.mp hlength
    rw [htype] at htrim
    simp [recordRequest, htype, htrim] at h
  · simp [recordRequest, htype, trimIsEmpty_upscale] at h
  · exact absurd htype hvideo

theorem rowRequest_upscale (row : PendingGenerationRecord) (htype : row.taskType = "image_upscale")
    (huploads : UploadsComplete row row.uploadedFileIds) :
    rowRequest row = some ⟨row.clientRequestId, "/v1/generation/tasks",
      row.billingAccountGroupId, (savedUpscaleTask row).toValue⟩ := by
  refine rowRequest_eq_some.mpr ⟨by simp [savedGenerationCreatePath, htype], ?_, rfl, rfl⟩
  simp only [savedGenerationCreateBody, htype, bind_eq_ok, exists_unit, ensure_eq_ok, pure_eq_ok,
    and_true]
  exact huploads

end Requests

/-- The operations that write no field of a request. -/
def keepsRequest : GenerationOperation → Bool
  | .retire _ | .rebind _ _ | .deliverySaved _ _ _ | .deliveryFailed _ _ _
  | .deliveryAcknowledged _ _ | .abandonDelivery _ _ => true
  | .patch _ change =>
    match change with
    | .requestCancellation | .beginSubmission | .clearDeliveryLocalPaths _ | .terminal _ => true
    | _ => false
  | _ => false

section Operations

variable {authority : NamespaceStorageAuthority} {op : GenerationOperation} {key : String}
  {row later updated : PendingGenerationRecord} {world : World} {answers : StorageAnswers}
  {creation : Creation}

theorem saveDeliveryEdit_part {delivery : DeliveryConfirmation} {value : String} {failed : Bool}
    (h : (saveDeliveryEdit delivery value failed row).map (·.2) = .ok (some updated)) :
    requestPart updated = requestPart row := by
  cases hedit : saveDeliveryEdit delivery value failed row with
  | error failure =>
    rw [hedit] at h
    cases h
  | ok result =>
    rw [hedit] at h
    obtain ⟨index?, -, hresult⟩ := bind_eq_ok.mp hedit
    cases index? <;> cases hresult <;> cases h <;> rfl

theorem settleUpdate_part {value : String} {abandon : Bool}
    (h : settleUpdate value abandon row = .ok (some updated)) :
    requestPart updated = requestPart row := by
  unfold settleUpdate at h
  split at h
  · cases h
  · obtain ⟨index?, -, hindex⟩ := bind_eq_ok.mp h
    cases index? with
    | none => cases hindex
    | some index =>
      obtain ⟨-, -, hresult⟩ := bind_eq_ok.mp hindex
      cases hresult
      rfl

theorem patch_part {change : GenerationRecoveryPatch} {expected : RecoveryRecordIdentity}
    (hkeeps : keepsRequest (.patch expected change) = true)
    (h : change.apply row = .ok updated) : requestPart updated = requestPart row := by
  cases change with
  | requestCancellation =>
    cases h
    rfl
  | beginSubmission =>
    obtain ⟨-, -, hresult⟩ := bind_eq_ok.mp h
    cases hresult
    rfl
  | clearDeliveryLocalPaths ids =>
    cases h
    rfl
  | terminal count =>
    cases h
    rfl
  | uploadedFileIds ids => cases hkeeps
  | uploadedAndReleaseInputs ids => cases hkeeps
  | accepted taskId ids clear => cases hkeeps
  | releaseReferenceInputs => cases hkeeps

theorem fieldUpdate_part (hkeeps : keepsRequest op = true)
    (h : op.fieldUpdate authority row = .ok (some updated)) :
    requestPart updated = requestPart row := by
  cases op with
  | retire expected =>
    cases h
    rfl
  | rebind expected epoch =>
    cases h
    rfl
  | patch expected change =>
    cases happly : change.apply row with
    | error failure =>
      rw [GenerationOperation.fieldUpdate, happly] at h
      cases h
    | ok patched =>
      rw [GenerationOperation.fieldUpdate, happly] at h
      cases h
      exact patch_part hkeeps happly
  | deliverySaved expected delivery path => exact saveDeliveryEdit_part h
  | deliveryFailed expected delivery asset => exact saveDeliveryEdit_part h
  | deliveryAcknowledged expected file => exact settleUpdate_part h
  | abandonDelivery expected asset => exact settleUpdate_part h
  | upsert scope record => cases hkeeps
  | remove expected => cases hkeeps
  | settleCutout record confirmation path => cases hkeeps

theorem key_congr (h : requestPart updated = requestPart row) :
    updated.clientRequestId = row.clientRequestId := by
  have hkey := congrArg PendingGenerationRecord.clientRequestId h
  exact hkey

/-- An operation writes a row with its own key. -/
theorem fieldUpdate_key (hrow : row.clientRequestId = op.key)
    (h : op.fieldUpdate authority row = .ok (some updated)) : updated.clientRequestId = op.key := by
  by_cases hkeeps : keepsRequest op = true
  · exact (key_congr (fieldUpdate_part hkeeps h)).trans hrow
  have hupdate : RowUpdate row updated → updated.clientRequestId = op.key := fun hupdate =>
    (congrArg RecoveryRecordIdentity.clientRequestId hupdate.identity).trans hrow
  cases op with
  | upsert scope record =>
    cases h
    rfl
  | remove expected =>
    cases h
    exact hrow
  | patch expected change =>
    cases happly : change.apply row with
    | error failure =>
      rw [GenerationOperation.fieldUpdate, happly] at h
      cases h
    | ok patched =>
      rw [GenerationOperation.fieldUpdate, happly] at h
      cases h
      exact hupdate (GenerationRecoveryPatch.apply_update happly)
  | settleCutout record confirmation path => exact hupdate (cutoutUpdate_update h)
  | _ => exact absurd rfl hkeeps

theorem clientRequestId_of_row (h : world.row key = some row) : row.clientRequestId = key :=
  key_of_find h

/-- A replay sends the request of the stored row. -/
theorem rowRequest_replay {readable : Bool} {session : SessionScope}
    {saved : SavedReplayRequest PendingGenerationRecord}
    (h : SavedReplayRequest.generation readable authority session key world.file = .ok saved) :
    ∃ row, world.row key = some row ∧ row.serverTaskId = "" ∧ saved.key = key ∧
      saved.payer = row.billingAccountGroupId ∧
      rowRequest row = some ⟨saved.key, saved.path, saved.payer, saved.body⟩ := by
  obtain ⟨-, row, hrow, -, hkey, hpayer, -, hsaved⟩ := generation_ok h
  obtain ⟨hempty, -, -, hpath, hbody⟩ := savedGenerationRequest_ok.mp hsaved
  refine ⟨row, hrow, hempty, hkey, hpayer, ?_⟩
  rw [← rowRequest_remap authority]
  exact rowRequest_eq_some.mpr
    ⟨hpath, hbody, hkey.trans (clientRequestId_of_row hrow).symm, hpayer⟩

theorem operated_row_other (hne : key ≠ op.key) :
    (world.operated answers authority op).row key = world.row key := by
  have hresult := op.run_result answers authority world.file
  unfold World.row World.operated
  dsimp only
  generalize op.run answers authority world.file = result at hresult ⊢
  cases hresult with
  | failed failure => rfl
  | published answer next hrow hchange => exact hrow.lookup_other hne

theorem operated_row (world : World) (answers : StorageAnswers)
    (authority : NamespaceStorageAuthority) (op : GenerationOperation) :
    GenerationOperation.RowChange authority op (world.row op.key)
      ((world.operated answers authority op).row op.key) := by
  have hresult := op.run_result answers authority world.file
  unfold World.row World.operated
  dsimp only
  generalize op.run answers authority world.file = result at hresult ⊢
  cases hresult with
  | failed failure => exact .untouched _
  | published answer next hrow hchange => exact hchange

theorem mem_operated_determined :
    creation ∈ (world.operated answers authority op).determined ↔
      World.waitingRequest ((world.operated answers authority op).row op.key) = some creation ∨
        creation ∈ world.determined := by
  simp [World.operated, World.row, Option.mem_toList]

theorem waitingRequest_eq_some {row? : Option PendingGenerationRecord} :
    World.waitingRequest row? = some creation ↔
      ∃ row, row? = some row ∧ row.serverTaskId = "" ∧ rowRequest row = some creation := by
  cases row? with
  | none => simp [World.waitingRequest]
  | some row => simp [World.waitingRequest, Option.filter_eq_some_iff, Option.bind_eq_some_iff,
      and_assoc]

/-- An operation other than a removal drops complete rows alone, and says so. -/
theorem operated_dropped (hremove : ∀ expected, op ≠ .remove expected)
    (hrow : world.row op.key = some row)
    (hgone : (world.operated answers authority op).row op.key = none) :
    ∃ dropped, (op.key, Release.complete dropped) ∈
      (world.operated answers authority op).released := by
  have hchange := operated_row world answers authority op
  rw [hrow, hgone] at hchange
  cases hchange with
  | removed row hop => exact absurd hop.choose_spec (hremove _)
  | completed row updated hfields hcomplete =>
    refine ⟨updated, ?_⟩
    have hdropped : World.dropped authority op (world.row op.key)
        (generationTable.lookup (op.run answers authority world.file).2 op.key) = some updated := by
      rw [hrow, show generationTable.lookup (op.run answers authority world.file).2 op.key = none
        from hgone]
      simp [World.dropped, hfields, hcomplete]
    simp [World.operated, hdropped]

theorem mem_operated_released {entry : String × Release}
    (h : entry ∈ (world.operated answers authority op).released) :
    entry ∈ world.released ∨ ∃ dropped, entry = (op.key, .complete dropped) ∧
      dropped.clientRequestId = op.key ∧ generationRecordComplete dropped = true := by
  rcases List.mem_append.mp h with hnew | hold
  · right
    simp only [Option.mem_toList, Option.map_eq_some_iff] at hnew
    obtain ⟨dropped, hdropped, rfl⟩ := hnew
    refine ⟨dropped, rfl, ?_⟩
    unfold World.dropped at hdropped
    split at hdropped
    · rename_i row hrow hnone
      split at hdropped
      · rename_i updated hfields
        split at hdropped
        · cases hdropped
          exact ⟨fieldUpdate_key (clientRequestId_of_row hrow) hfields, ‹_›⟩
        · cases hdropped
      · cases hdropped
    · cases hdropped
  · exact .inl hold

/-- Among rows with different keys the exact row of an identity is found. -/
theorem exactIndex_ne_none {rows : List PendingGenerationRecord}
    (hunique : UniqueKeys clientRequestId rows) (hmem : row ∈ rows) :
    exactIndex rows (RecoveryRow.identity row) ≠ none := by
  obtain ⟨index, hlt, rfl⟩ := List.getElem_of_mem hmem
  have hentry : (rows[index], index) ∈ rows.zipIdx.filter
      (RecoveryRow.identity ·.1 = RecoveryRow.identity rows[index]) :=
    List.mem_filter.mpr ⟨List.mem_zipIdx_iff_getElem?.mpr (List.getElem?_eq_getElem hlt), by simp⟩
  have hsame : ∀ entry ∈ rows.zipIdx.filter
      (RecoveryRow.identity ·.1 = RecoveryRow.identity rows[index]),
      clientRequestId entry.1 = clientRequestId rows[index] := by
    intro entry hentry
    exact congrArg RecoveryRecordIdentity.clientRequestId
      (of_decide_eq_true (List.mem_filter.mp hentry).2)
  have hkeys : ((rows.zipIdx.filter
      (RecoveryRow.identity ·.1 = RecoveryRow.identity rows[index])).map
        (clientRequestId ·.1)).Nodup := by
    refine List.Nodup.sublist ((List.filter_sublist).map _) ?_
    have hfst : rows.zipIdx.map (clientRequestId ·.1) = rows.map clientRequestId := by
      rw [← List.zipIdx_map_fst 0 rows, List.map_map, List.zipIdx_map_fst]
      rfl
    rw [hfst]
    exact hunique
  unfold exactIndex
  split
  · exact Option.some_ne_none _
  · rename_i hother
    generalize rows.zipIdx.filter
      (RecoveryRow.identity ·.1 = RecoveryRow.identity rows[index]) = entries at *
    cases entries with
    | nil => cases hentry
    | cons entry entries =>
      cases entries with
      | nil => exact absurd rfl (hother entry)
      | cons other entries =>
        have hne := (List.nodup_cons.mp hkeys).1
        simp [hsame entry, hsame other] at hne
theorem identity_ne {expected : RecoveryRecordIdentity} {stored : GenerationFile}
    {next : RecoveryFile} {user : String}
    (hone : generationTable.OneRow user key stored (some next))
    (hrows : generationTable.rowsOf (some next) = generationTable.rowsOf stored)
    (hnone : exactIndex (generationTable.rowsOf stored) expected = none)
    (hrow : generationTable.lookup stored key = some row) :
    RecoveryRow.identity row ≠ expected := by
  rintro rfl
  have hunique : UniqueKeys clientRequestId (generationTable.rowsOf stored) :=
    hrows ▸ generationTable.uniqueKeys_get hone.valid
  exact exactIndex_ne_none hunique (mem_of_find hrow) hnone

/-- A patch answers `false` when the row is not the exact one. -/
theorem unpatched_row {expected : RecoveryRecordIdentity} {change : GenerationRecoveryPatch}
    (h : ((GenerationOperation.patch expected change).run answers authority world.file).1 =
      .ok false) (hrow : world.row expected.clientRequestId = some row) :
    RecoveryRow.identity row ≠ expected := by
  rcases applyGenerationPatch_cases answers authority expected change world.file
    with ⟨failure, hfail⟩ | ⟨answer, next, hok, hone, hcases⟩
  · rw [GenerationOperation.run, hfail] at h
    cases h
  rw [GenerationOperation.run, hok] at h
  cases h
  rcases hcases with ⟨-, hrows, hnone⟩ | ⟨_, _, -, -, -, hanswer, -⟩
  · exact identity_ne hone hrows hnone hrow
  · cases hanswer

theorem requiring_answer {check : Except Failure Unit} {stored : GenerationFile}
    {mutation : Except Failure Bool × GenerationFile} {answer : Bool}
    (h : (requiring check stored mutation).1 = .ok answer) : mutation.1 = .ok answer := by
  rcases RowTable.requiring_cases check stored mutation with ⟨failure, hfail⟩ | ⟨-, heq⟩
  · rw [hfail] at h
    cases h
  · rwa [heq] at h

/-- So does a move to another login. -/
theorem unmoved_row {expected : RecoveryRecordIdentity} {epoch : Nat}
    (h : ((GenerationOperation.rebind expected epoch).run answers authority world.file).1 =
      .ok false) (hrow : world.row expected.clientRequestId = some row) :
    RecoveryRow.identity row ≠ expected := by
  have hexact : (generationTable.editExact answers authority
      (.rebind generationTable.kind expected epoch) expected
      (fun row => .ok (true, some (RecoveryRow.setAuthEpoch epoch row))) world.file).1 = .ok false :=
    requiring_answer (requiring_answer h)
  rcases generationTable.editExact_cases answers authority
    (.rebind generationTable.kind expected epoch) expected
    (fun row => .ok (true, some (RecoveryRow.setAuthEpoch epoch row))) world.file (by
      rintro row _ _ ⟨⟩
      rfl) with ⟨failure, hfail⟩ | ⟨answer, next, hok, hone, hcases⟩
  · rw [hfail] at hexact
    cases hexact
  rw [hok] at hexact
  cases hexact
  rcases hcases with ⟨-, hrows, hnone⟩ | ⟨_, _, -, -, hedit, -⟩
  · exact identity_ne hone hrows hnone hrow
  · cases hedit

/-- A row that an operation leaves of a row of its kind: the rest of the request, or the patched
fields. -/
theorem operated_later (hinsert : ∀ scope record, op ≠ .upsert scope record)
    (hlater : (world.operated answers authority op).row op.key = some later) :
    ∃ row, world.row op.key = some row ∧ later.billingAccountGroupId = row.billingAccountGroupId ∧
      (requestPart later = requestPart row ∨ op.fieldUpdate authority row = .ok (some later)) := by
  have hchange := operated_row world answers authority op
  generalize hrow : world.row op.key = before at hchange
  rw [hlater] at hchange
  cases hchange with
  | untouched => exact ⟨later, rfl, rfl, .inl rfl⟩
  | upserted scope record before hop hsame => exact absurd hop (hinsert scope later)
  | rebound row expected hop => exact ⟨row, rfl, rfl, .inl rfl⟩
  | updated row updated hfields hupdate =>
    refine ⟨row, rfl, ?_, .inr hfields⟩
    exact congrArg RecoveryRecordIdentity.billingAccountGroupId hupdate.identity

end Operations

end ArtForgeStudio.Generation
