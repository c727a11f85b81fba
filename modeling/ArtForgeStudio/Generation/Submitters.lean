import ArtForgeStudio.Generation.Submission

/-! # The three submitters

A submitter knows the request part of its row until the request is determined, and the request
from then on. What it sends is therefore what its row determined, whatever the others do.
-/

namespace ArtForgeStudio.Generation

open ArtForgeStudio.Api ArtForgeStudio.Recovery ArtForgeStudio.Concurrency

/-- The submitter's knowledge of its row: the request, or the fields it will be made of. It has
not sent anything yet. -/
structure Tracks (thread : Nat) (current : PendingGenerationRecord) (world : World) : Prop where
  inserted : current.clientRequestId ∈ world.inserted
  determined : ∀ creation, rowRequest current = some creation → creation ∈ world.determined
  part : rowRequest current = none → ¬world.Determined current.clientRequestId ∧
    ∀ row, world.row current.clientRequestId = some row → requestPart row = requestPart current
  unsent : (thread, current.clientRequestId) ∉ world.senders

/-- A submitter that tracks its row and has no id to record. -/
abbrev Tracking (strict : Prop) (thread : Nat) (current : PendingGenerationRecord)
    (world : World) : Prop := Calm strict thread world ∧ Tracks thread current world

section Requests

variable {strict : Prop} {own : Owner} {current record : PendingGenerationRecord} {world : World}
  {authority : NamespaceStorageAuthority} {creation : Creation}

theorem Tracks.persistent (hkey : own.key = some current.clientRequestId) :
    Persistent strict own (Tracks own.thread current) := by
  intro before after hinv h hstep
  have hfrozen := hstep.frozen _ h.inserted hkey
  refine ⟨hstep.evolves.inserted h.inserted,
    fun creation hrequest => hstep.evolves.determined (h.determined creation hrequest),
    fun hnone => ?_, fun hsent => h.unsent ((hstep.senders rfl).mp hsent)⟩
  obtain ⟨hno, hpart⟩ := h.part hnone
  obtain ⟨hno', hlater⟩ := hfrozen.undetermined hno
  refine ⟨hno', fun later hrow => ?_⟩
  obtain ⟨row, hbefore, heq⟩ := hlater later hrow
  exact heq.trans (hpart row hbefore)

theorem Tracking.persistent (hkey : own.key = some current.clientRequestId) :
    Persistent strict own (Tracking strict own.thread current) :=
  Clear.persistent.and (Tracks.persistent hkey)

theorem Tracks.release (h : Tracks own.thread current world)
    (hrequest : rowRequest current = some creation) :
    Tracks own.thread (releaseReferenceInputs current) world where
  inserted := h.inserted
  determined other hother := by
    cases (rowRequest_release hrequest).symm.trans hother
    exact h.determined creation hrequest
  part hnone := by cases (rowRequest_release hrequest).symm.trans hnone
  unsent := h.unsent

/-- Nothing was sent for a row whose request is open, so it may go. -/
theorem removeUnsent_triple {identity : RecoveryRecordIdentity}
    (hidentity : identity.clientRequestId = current.clientRequestId)
    (hkey : own.key = some current.clientRequestId) (hnone : rowRequest current = none) :
    (discipline strict).Triple own (At strict (Tracking strict own.thread current))
      (removePendingGeneration authority identity) fun _ => At strict (Calm strict own.thread) := by
  refine own_triple hkey (Tracking.persistent hkey) (fun _ => Clear.persistent) ?_
  rintro answers world hinv ⟨hcalm, htracks⟩ _
  have hunsent : ¬world.Sent current.clientRequestId :=
    fun hsent => (htracks.part hnone).1 (hinv.sent_determined hsent)
  have hchange : Change strict _ _ world
      (world.operated answers.storage authority (.remove identity)) :=
    removed_change hinv fun _ => .inr (hidentity ▸ hunsent)
  exact ⟨hidentity ▸ hchange, hcalm.change hinv hchange⟩

/-- A patch that fills in the uploads of an open request. -/
theorem fill_triple (fill : PendingGenerationRecord → PendingGenerationRecord)
    {identity : RecoveryRecordIdentity} {change : GenerationRecoveryPatch}
    (hidentity : identity.clientRequestId = current.clientRequestId)
    (hkey : own.key = some current.clientRequestId) (hnone : rowRequest current = none)
    (hempty : current.serverTaskId = "") (hterminal : change.isTerminal = false)
    (happly : ∀ row, change.apply row = .ok (fill row))
    (hpart : ∀ row, requestPart (fill row) = fill (requestPart row))
    (htask : ∀ row, (fill row).serverTaskId = row.serverTaskId)
    (hpayer : ∀ row, (fill row).billingAccountGroupId = row.billingAccountGroupId)
    (hfill : (fill current).clientRequestId = current.clientRequestId) :
    (discipline strict).Triple own (At strict (Tracking strict own.thread current))
      (applyGenerationPatch authority identity change)
      fun result => At strict fun world => Calm strict own.thread world ∧
        (result = .ok true → Tracks own.thread (fill current) world) := by
  refine own_triple hkey (Clear.persistent.and (.persistent hkey))
    (fun _ => Clear.persistent.and (.imp fun _ => .persistent (hfill.symm ▸ hkey))) ?_
  rintro answers world hinv ⟨hcalm, htracks⟩ _
  obtain ⟨hno, hrows⟩ := htracks.part hnone
  have hchange : Change strict _ _ world
      (world.operated answers.storage authority (.patch identity change)) :=
    patched_change hinv fun row later hrow h => by
      cases (happly row).symm.trans h
      exact .of_task (hpayer row) (htask row) (.inl (hidentity ▸ hno))
  refine ⟨hidentity ▸ hchange, hcalm.change hinv hchange, fun hwritten => ?_⟩
  obtain ⟨row, later, hrow, h, hlater⟩ := patched_written hterminal hwritten
  cases (happly row).symm.trans h
  have hsame : requestPart (fill row) = requestPart (fill current) := by
    rw [hpart, hpart, hrows row (hidentity ▸ hrow)]
  have hid : (fill row).serverTaskId = "" := by
    rw [taskId_congr hsame, htask, hempty]
  rw [hidentity] at hlater
  refine ⟨hfill ▸ hchange.evolves.inserted htracks.inserted, fun creation hrequest => ?_,
    fun hopen => ⟨?_, fun row' hrow' => ?_⟩, hfill ▸ htracks.unsent⟩
  · exact hchange.inv.recorded _ _ creation hlater hid ((request_congr hsame).trans hrequest)
  · rintro ⟨creation, hmem, hcreation⟩
    rw [hfill] at hcreation
    rcases mem_determined_cases hmem with hold | ⟨row', hrow', -, hrequest, -⟩
    · exact hno ⟨creation, hold, hcreation⟩
    · have hrow'' : row' = fill row :=
        Option.some.inj (hrow'.symm.trans (by
          rw [show (GenerationOperation.patch identity change).key = current.clientRequestId from
            hidentity, hlater]))
      subst hrow''
      cases ((request_congr hsame).trans hopen).symm.trans hrequest
  · rw [hfill] at hrow'
    cases hlater.symm.trans hrow'
    exact hsame

/-- The submission is begun on a row that is there. -/
theorem beginGenerationSubmission_triple {key : String} {assertion : World → Prop}
    (hassertion : Persistent strict own assertion) (hkey : own.key = some key)
    (hcreation : creation.key = key)
    (hdetermined : ∀ world, assertion world → creation ∈ world.determined) :
    (discipline strict).Triple own (At strict assertion) (beginGenerationSubmission authority key)
      fun begun => At strict fun world => assertion world ∧
        (begun = true → Ready strict false creation world) := by
  subst hcreation
  have hready : ∀ begun : Bool, Persistent strict own fun world => assertion world ∧
      (begun = true → Ready strict false creation world) :=
    fun _ => hassertion.and (.imp fun _ => Ready.persistent fun _ => hkey)
  refine loadRow_tells.bind hassertion fun row? => given fun hrow? => ?_
  cases row? with
  | none => exact done_fact hready fun _ h => ⟨h, nofun⟩
  | some row =>
  have hrow := hrow? row rfl
  have hbegin : (discipline strict).Triple own (At strict assertion)
      (applyGenerationPatch authority (RecoveryRow.identity row) .beginSubmission)
      fun result => At strict fun world => assertion world ∧
        (result = .ok true → Ready strict false creation world) := by
    refine quiet_triple hassertion (fun _ => .imp fun _ => Ready.persistent fun _ => hkey) ?_
    intro answers world hinv hat _
    have hquiet : Quiet strict world (world.operated answers.storage authority
        (.patch (RecoveryRow.identity row) .beginSubmission)) := keeps_quiet hinv rfl
    refine ⟨hquiet, fun hwritten => ⟨hquiet.evolves.determined (hdetermined world hat), ?_⟩⟩
    intro _ _ hnone
    obtain ⟨-, later, -, -, hlater⟩ := patched_written rfl hwritten
    rw [show (RecoveryRow.identity row).clientRequestId = creation.key from hrow] at hlater
    cases hlater.symm.trans hnone
  refine .bind hbegin fun result => done_fact hready fun world h => ⟨h.1, fun htrue => h.2 ?_⟩
  split at htrue
  · rfl
  · cases htrue

end Requests

/-- A row as the workers create it: without a task, and with a request of its own. -/
structure Fresh (record : PendingGenerationRecord) (scope : BillingScope) : Prop where
  waiting : record.serverTaskId = ""
  payer : record.billingAccountGroupId = scope.accountGroupId
  type : record.taskType ∈ submittedTypes
  video : ∀ request, record.videoRequest = some request →
    request.clientRequestId = record.clientRequestId ∧ request.taskType = record.taskType

section Workers

variable {strict : Prop} {own : Owner} {record : PendingGenerationRecord}
  {authority : NamespaceStorageAuthority} {scope : BillingScope} {uploaded : List String}
  {body : Json} {polls : Nat}

/-- The uploads known so far. -/
def withUploads (record : PendingGenerationRecord) (uploaded : List String) :
    PendingGenerationRecord := { record with uploadedFileIds := uploaded }

theorem withUploads_self (h : record.uploadedFileIds = uploaded) :
    withUploads record uploaded = record := by
  subst h
  rfl

theorem rowRequest_withUploads (h : uploaded.length < record.referencePaths.length) :
    rowRequest (withUploads record uploaded) = none :=
  rowRequest_incomplete (Nat.ne_of_lt h) fun hnil => by
    rw [show (withUploads record uploaded).referencePaths = record.referencePaths from rfl] at hnil
    simp [hnil] at h

theorem uploadReferences_triple (hkey : own.key = some record.clientRequestId)
    (hempty : record.serverTaskId = "") (paths : List String)
    (hlength : paths.length + uploaded.length = record.referencePaths.length) :
    (discipline strict).Triple own
      (At strict (Tracking strict own.thread (withUploads record uploaded)))
      (uploadReferences authority (RecoveryRow.identity record) paths uploaded)
      fun result => At strict fun world => Calm strict own.thread world ∧
        ∀ all, result = some all → all.length = record.referencePaths.length ∧
          Tracks own.thread (withUploads record all) world := by
  have hpost : ∀ result : Option (List String), Persistent strict own fun world =>
      Calm strict own.thread world ∧
        ∀ all, result = some all → all.length = record.referencePaths.length ∧
          Tracks own.thread (withUploads record all) world :=
    fun _ => Clear.persistent.and (.forall fun all => .imp fun _ =>
      (Persistent.const _).and (.persistent hkey))
  induction paths generalizing uploaded with
  | nil =>
    refine done_fact hpost fun world h => ⟨h.1, ?_⟩
    rintro _ ⟨⟩
    exact ⟨by simpa using hlength, h.2⟩
  | cons path paths ih =>
    have hpre : Persistent strict own (Tracking strict own.thread (withUploads record uploaded)) :=
      .persistent hkey
    have hlt : uploaded.length < record.referencePaths.length := by
      rw [List.length_cons] at hlength
      omega
    have hopen := rowRequest_withUploads hlt
    refine (Silent.read _).bind hpre fun upload => ?_
    cases upload with
    | error error =>
      refine (Silent.read _).bind hpre fun active => ?_
      refine .ite (fun _ => done_fact hpost fun _ h => ⟨h.1, nofun⟩) fun _ => ?_
      exact .bind (removeUnsent_triple rfl hkey hopen) fun _ =>
        done_fact hpost fun _ h => ⟨h, nofun⟩
    | ok fileId =>
      refine .bind (fill_triple (withUploads · (uploaded ++ [fileId])) rfl hkey hopen
        hempty rfl (fun _ => rfl) (fun _ => rfl) (fun _ => rfl) (fun _ => rfl) rfl) fun result => ?_
      refine .ite (fun _ => done_fact hpost fun _ h => ⟨h.1, nofun⟩) fun hwritten => ?_
      refine weaken ?_ fun world h => (⟨h.1, h.2 (written_of_not hwritten)⟩ :
        Tracking strict own.thread (withUploads record (uploaded ++ [fileId])) world)
      have hnext : Persistent strict own
          (Tracking strict own.thread (withUploads record (uploaded ++ [fileId]))) :=
        .persistent hkey
      refine (Silent.read _).bind hnext fun cancelled => ?_
      refine .ite (fun _ => ?_) fun _ => ih ?_
      · exact cleanupCancelledGeneration_silent.bind hnext fun _ =>
          done_fact hpost fun _ h => ⟨h.1, nofun⟩
      · simpa [Nat.add_assoc, Nat.add_comm 1] using hlength

/-- From the submission on: what is sent is what the row determined. -/
theorem submit_triple {key : String} {savedGroup : Option String}
    {rest : Except ApiError GenerationTaskDetail → Action Unit} (hkey : own.key = some key)
    (hgroup : ∀ group, savedGroup = some group → group = scope.accountGroupId)
    (hrest : ∀ result, (discipline strict).Triple own
      (At strict (Received strict own.thread key scope.accountGroupId result)) (rest result)
      fun _ => At strict (Calm strict own.thread)) :
    (discipline strict).Triple own
      (At strict fun world => (Calm strict own.thread world ∧
          Ready strict false ⟨key, "/v1/generation/tasks", scope.accountGroupId, body⟩ world) ∧
        (own.thread, key) ∉ world.senders)
      (createTaskBodyBilling own.thread savedGroup scope key body >>= rest)
      fun _ => At strict (Calm strict own.thread) :=
  .bind (createTaskBodyBilling_triple hkey hgroup) hrest

theorem beginAndSubmit_triple {current : PendingGenerationRecord}
    (hkey : own.key = some record.clientRequestId) (hrecord : Fresh record scope)
    (hcurrent : current.clientRequestId = record.clientRequestId)
    (hbody : rowRequest current = some
      ⟨record.clientRequestId, "/v1/generation/tasks", record.billingAccountGroupId, body⟩) :
    (discipline strict).Triple own (At strict (Tracking strict own.thread current))
      (beginAndSubmit own.thread authority scope record uploaded polls body)
      fun _ => At strict (Calm strict own.thread) := by
  have hpre : Persistent strict own (Tracking strict own.thread current) :=
    .persistent (hcurrent ▸ hkey)
  refine .bind (beginGenerationSubmission_triple hpre hkey rfl fun world h =>
    h.2.determined _ hbody) fun begun => ?_
  refine .ite (fun _ => done Clear.persistent fun _ h => h.1.1) fun hbegun => ?_
  have hunsent : ∀ world, Tracks own.thread current world →
      (own.thread, record.clientRequestId) ∉ world.senders := fun _ h => hcurrent ▸ h.unsent
  refine weaken (submit_triple hkey nofun fun result => ?_) fun world h =>
    ⟨⟨h.1.1, hrecord.payer ▸ h.2 (by simpa using hbegun)⟩, hunsent world h.1.2⟩
  cases result with
  | error error => exact creationFailed_triple rfl hkey
  | ok detail => exact weaken followAccepted_triple fun _ h => h.1

theorem startBackendGenerationWorker_triple (hkey : own.key = some record.clientRequestId)
    (hrecord : Fresh record scope) (htype : record.taskType = "image_generation")
    (huploads : record.uploadedFileIds = []) :
    (discipline strict).Triple own (At strict (Tracking strict own.thread record))
      (startBackendGenerationWorker own.thread authority scope record polls)
      fun _ => At strict (Calm strict own.thread) := by
  have hpre : Persistent strict own (Tracking strict own.thread record) :=
    .persistent hkey
  refine (Silent.read _).bind hpre fun active => ?_
  refine .ite (fun _ => done Clear.persistent fun _ h => h.1) fun _ => ?_
  refine (Silent.read _).bind hpre fun matching => ?_
  refine .ite (fun _ => done Clear.persistent fun _ h => h.1) fun _ => ?_
  refine weaken (.bind (uploadReferences_triple hkey hrecord.waiting record.referencePaths rfl)
    fun result => ?_) fun world h => (⟨h.1, (withUploads_self huploads).symm ▸ h.2⟩ :
      Tracking strict own.thread (withUploads record []) world)
  cases result with
  | none => exact done Clear.persistent fun _ h => h.1
  | some uploaded =>
  refine weaken ?_ fun world h => (⟨⟨h.1, (h.2 uploaded rfl).2⟩, (h.2 uploaded rfl).1⟩ :
    Tracking strict own.thread (withUploads record uploaded) world ∧
      uploaded.length = record.referencePaths.length)
  refine given fun hlength => ?_
  have hnext : Persistent strict own (Tracking strict own.thread (withUploads record uploaded)) :=
    .persistent hkey
  refine (Silent.read _).bind hnext fun cancelled => ?_
  refine .ite (fun _ => ?_) fun _ => beginAndSubmit_triple hkey hrecord rfl ?_
  · exact cleanupCancelledGeneration_silent.bind hnext fun _ =>
      done Clear.persistent fun _ h => h.1
  · refine rowRequest_recordRequest record uploaded hrecord.type hrecord.video (.inl hlength) ?_
    simp [recordRequest, htype, trimIsEmpty_generation]

theorem preparedUpscaleSubmissionRun_triple (hkey : own.key = some record.clientRequestId)
    (hrecord : Fresh record scope) (htype : record.taskType = "image_upscale")
    (huploads : record.uploadedFileIds = []) (hreferences : record.referencePaths.length = 1) :
    (discipline strict).Triple own (At strict (Tracking strict own.thread record))
      (preparedUpscaleSubmissionRun own.thread authority scope record polls)
      fun _ => At strict (Calm strict own.thread) := by
  have hpre : Persistent strict own (Tracking strict own.thread record) :=
    .persistent hkey
  have hopen : rowRequest record = none := by
    rw [← withUploads_self huploads]
    exact rowRequest_withUploads (by simp [hreferences])
  refine (Silent.read _).bind hpre fun active => ?_
  refine .ite (fun _ => done Clear.persistent fun _ h => h.1) fun _ => ?_
  refine (Silent.read _).bind hpre fun matching => ?_
  refine .ite (fun _ => done Clear.persistent fun _ h => h.1) fun _ => ?_
  refine (Silent.read _).bind hpre fun upload => ?_
  cases upload with
  | error error =>
    refine (Silent.read _).bind hpre fun active => ?_
    refine .ite (fun _ => done Clear.persistent fun _ h => h.1) fun _ => ?_
    exact .bind (removeUnsent_triple rfl hkey hopen) fun _ => done Clear.persistent fun _ => id
  | ok fileId =>
  refine .bind (fill_triple (fun row => releaseReferenceInputs (withUploads row [fileId])) rfl
    hkey hopen hrecord.waiting rfl (fun _ => rfl) (fun _ => rfl) (fun _ => rfl) (fun _ => rfl)
    rfl) fun result => ?_
  refine .ite (fun _ => done Clear.persistent fun _ h => h.1) fun hwritten => ?_
  refine weaken ?_ fun world h => (⟨h.1, h.2 (written_of_not hwritten)⟩ :
    Tracking strict own.thread (withUploads (releaseReferenceInputs record) [fileId]) world)
  have hnext : Persistent strict own
      (Tracking strict own.thread (withUploads (releaseReferenceInputs record) [fileId])) :=
    .persistent hkey
  refine (Silent.read _).bind hnext fun cancelled => ?_
  refine .ite (fun _ => ?_) fun _ => ?_
  · exact cleanupCancelledGeneration_silent.bind hnext fun _ =>
      done Clear.persistent fun _ h => h.1
  · refine beginAndSubmit_triple hkey hrecord rfl ?_
    refine rowRequest_recordRequest (releaseReferenceInputs record) [fileId] hrecord.type
      hrecord.video (.inr rfl) ?_
    simp [recordRequest, releaseReferenceInputs, htype, trimIsEmpty_upscale]

end Workers

/-- A submitter tracks its row; a resumed record is bound to its task. -/
structure Follows (thread : Nat) (record : PendingGenerationRecord) (world : World) : Prop where
  waiting : record.serverTaskId = "" → Tracks thread record world
  bound : record.serverTaskId ≠ "" → Bound record.clientRequestId record.serverTaskId world

/-- The record with or without its inputs. -/
structure Kin (record other : PendingGenerationRecord) : Prop where
  identity : RecoveryRow.identity other = RecoveryRow.identity record
  task : other.serverTaskId = record.serverTaskId
  type : other.taskType = record.taskType
  video : other.videoRequest = record.videoRequest
  uploads : other.uploadedFileIds = record.uploadedFileIds
  references : other.referencePaths = record.referencePaths ∨ other.referencePaths = []

section Checked

variable {strict : Prop} {own : Owner} {record other : PendingGenerationRecord} {world : World}
  {authority : NamespaceStorageAuthority} {scope : BillingScope} {savedGroup : Option String}
  {uploaded : List String} {polls : Nat}

theorem Follows.persistent
    (hkey : record.serverTaskId = "" → own.key = some record.clientRequestId) :
    Persistent strict own (Follows own.thread record) :=
  fun before after hinv h hstep =>
    ⟨fun hempty => Tracks.persistent (hkey hempty) before after hinv (h.waiting hempty) hstep,
      fun hne => (h.bound hne).evolves hinv hstep.evolves⟩

/-- A submitter or a resumed worker with no id to record. -/
abbrev Following (strict : Prop) (thread : Nat) (record : PendingGenerationRecord)
    (world : World) : Prop := Calm strict thread world ∧ Follows thread record world

theorem Following.persistent
    (hkey : record.serverTaskId = "" → own.key = some record.clientRequestId) :
    Persistent strict own (Following strict own.thread record) :=
  Clear.persistent.and (Follows.persistent hkey)

theorem Follows.determined (h : Follows own.thread record world) (hinv : Inv strict world)
    (hrequest : record.serverTaskId = "" → ∃ creation, rowRequest record = some creation) :
    world.Determined record.clientRequestId := by
  by_cases hempty : record.serverTaskId = ""
  · obtain ⟨creation, hcreation⟩ := hrequest hempty
    exact ⟨creation, (h.waiting hempty).determined creation hcreation, key_of_request hcreation⟩
  · exact hinv.sent_determined (hinv.named_sent (h.bound hempty).named)

theorem Follows.release (h : Follows own.thread record world)
    (hrequest : record.serverTaskId = "" → ∃ creation, rowRequest record = some creation) :
    Follows own.thread (releaseReferenceInputs record) world where
  waiting hempty := (h.waiting hempty).release (hrequest hempty).choose_spec
  bound hne := h.bound hne

theorem Kin.refl (record : PendingGenerationRecord) : Kin record record :=
  ⟨rfl, rfl, rfl, rfl, rfl, .inl rfl⟩

theorem Kin.release (h : Kin record other) : Kin record (releaseReferenceInputs other) :=
  ⟨h.identity, h.task, h.type, h.video, h.uploads, .inr rfl⟩

theorem Kin.key (h : Kin record other) : other.clientRequestId = record.clientRequestId :=
  congrArg RecoveryRecordIdentity.clientRequestId h.identity

theorem Kin.payer (h : Kin record other) :
    other.billingAccountGroupId = record.billingAccountGroupId :=
  congrArg RecoveryRecordIdentity.billingAccountGroupId h.identity

theorem Kin.trans {last : PendingGenerationRecord} (h : Kin record other) (h' : Kin other last) :
    Kin record last where
  identity := h'.identity.trans h.identity
  task := h'.task.trans h.task
  type := h'.type.trans h.type
  video := h'.video.trans h.video
  uploads := h'.uploads.trans h.uploads
  references := h'.references.elim (fun heq => heq ▸ h.references) .inr

theorem Kin.submits (h : Kin record other)
    (hkey : record.serverTaskId = "" → own.key = some record.clientRequestId) :
    other.serverTaskId = "" → own.key = some other.clientRequestId :=
  fun hempty => (hkey (h.task.symm.trans hempty)).trans (congrArg some h.key.symm)

/-- A row that the thread submits itself has a request of its own and no upload yet. -/
def Startable (record : PendingGenerationRecord) : Prop :=
  record.serverTaskId = "" → record.taskType ∈ submittedTypes ∧
    (∀ request, record.videoRequest = some request →
      request.clientRequestId = record.clientRequestId ∧ request.taskType = record.taskType) ∧
    (record.uploadedFileIds = [] ∨ record.referencePaths = [])

theorem Kin.startable (h : Kin record other) (hstart : Startable record) : Startable other := by
  intro hempty
  obtain ⟨htype, hvideo, hnone⟩ := hstart (h.task.symm.trans hempty)
  refine ⟨h.type ▸ htype, ?_, ?_⟩
  · intro request hrequest
    rw [h.key, h.type]
    exact hvideo request (h.video ▸ hrequest)
  · rcases hnone with huploads | hreferences
    · exact .inl (h.uploads.trans huploads)
    · exact .inr (h.references.elim (fun heq => heq.trans hreferences) id)

theorem UploadsComplete.kin (h : UploadsComplete record uploaded) (hkin : Kin record other) :
    UploadsComplete other uploaded :=
  hkin.references.elim (fun heq => by rwa [UploadsComplete, heq]) .inr

/-- Dropping the inputs of a determined row. -/
theorem releasePatch_triple
    (hkey : record.serverTaskId = "" → own.key = some record.clientRequestId)
    (hrequest : record.serverTaskId = "" → ∃ creation, rowRequest record = some creation) :
    (discipline strict).Triple own (At strict (Following strict own.thread record))
      (applyGenerationPatch authority (RecoveryRow.identity record) .releaseReferenceInputs)
      fun _ => At strict (Following strict own.thread record) := by
  have hpre : Persistent strict own (Following strict own.thread record) :=
    .persistent hkey
  refine act_triple hpre (fun _ => hpre) fun answers world hinv hat _ => ?_
  have hdetermined := hat.2.determined hinv hrequest
  have hquiet : Quiet strict world (world.operated answers.storage authority
      (.patch (RecoveryRow.identity record) .releaseReferenceInputs)) :=
    patched_quiet hinv hdetermined fun row later hrow happly => by
      cases happly
      exact .release hinv hrow hdetermined
  exact ⟨hquiet.change, hpre world _ hinv hat hquiet.change⟩

/-- Filling in one more upload of a record. -/
theorem fillMissing_triple {fileId : String}
    (hkey : record.serverTaskId = "" → own.key = some record.clientRequestId)
    (hlength : record.serverTaskId = "" → uploaded.length < record.referencePaths.length) :
    (discipline strict).Triple own
      (At strict (Following strict own.thread (withUploads record uploaded)))
      (applyGenerationPatch authority (RecoveryRow.identity record)
        (.uploadedFileIds (uploaded ++ [fileId])))
      fun result => At strict fun world => Calm strict own.thread world ∧
        (result = .ok true →
          Follows own.thread (withUploads record (uploaded ++ [fileId])) world) := by
  by_cases hempty : record.serverTaskId = ""
  · have hfill : (discipline strict).Triple own
        (At strict (Tracking strict own.thread (withUploads record uploaded)))
        (applyGenerationPatch authority (RecoveryRow.identity record)
          (.uploadedFileIds (uploaded ++ [fileId])))
        fun result => At strict fun world => Calm strict own.thread world ∧
          (result = .ok true →
            Tracks own.thread (withUploads record (uploaded ++ [fileId])) world) :=
      fill_triple (withUploads · (uploaded ++ [fileId])) rfl (hkey hempty)
        (rowRequest_withUploads (hlength hempty)) hempty rfl (fun _ => rfl) (fun _ => rfl)
        (fun _ => rfl) (fun _ => rfl) rfl
    refine hfill.mono (fun _ h => ⟨h.1, h.2.1, h.2.2.waiting hempty⟩) fun _ _ h => ?_
    exact ⟨h.1, h.2.1, fun hwritten =>
      ⟨fun _ => h.2.2 hwritten, fun hne => absurd hempty hne⟩⟩
  · have hpre : Persistent strict own
        (Following strict own.thread (withUploads record uploaded)) := .persistent hkey
    refine act_triple hpre (fun _ => Clear.persistent.and (.imp fun _ => .persistent hkey)) ?_
    intro answers world hinv hat _
    have hbound := hat.2.bound hempty
    have hquiet : Quiet strict world (world.operated answers.storage authority
        (.patch (RecoveryRow.identity record) (.uploadedFileIds (uploaded ++ [fileId])))) :=
      patched_quiet hinv (hinv.sent_determined (hinv.named_sent hbound.named))
        fun row later hrow happly => by
          cases happly
          exact .of_task rfl rfl (.inr (hbound.row row hrow))
    have hafter := hpre world _ hinv hat hquiet.change
    exact ⟨hquiet.change, hafter.1, fun _ =>
      ⟨fun hwaiting => absurd hwaiting hempty, hafter.2.bound⟩⟩

theorem uploadMissing_triple
    (hkey : record.serverTaskId = "" → own.key = some record.clientRequestId)
    (paths : List (String × Option String × Option Nat))
    (hlength : record.serverTaskId = "" →
      paths.length + uploaded.length = record.referencePaths.length ∨
        paths = [] ∧ UploadsComplete record uploaded) :
    (discipline strict).Triple own
      (At strict (Following strict own.thread (withUploads record uploaded)))
      (uploadMissing authority (RecoveryRow.identity record) savedGroup paths uploaded)
      fun result => At strict fun world => Calm strict own.thread world ∧
        ∀ all, result = some all → Follows own.thread (withUploads record all) world ∧
          (record.serverTaskId = "" → UploadsComplete record all) := by
  have hfollows : ∀ uploaded, Persistent strict own
      (Follows own.thread (withUploads record uploaded)) := fun _ => .persistent hkey
  have hpost : ∀ result : Option (List String), Persistent strict own fun world =>
      Calm strict own.thread world ∧ ∀ all, result = some all →
        Follows own.thread (withUploads record all) world ∧
          (record.serverTaskId = "" → UploadsComplete record all) :=
    fun _ => Clear.persistent.and (.forall fun all => .imp fun _ => (hfollows all).and (.const _))
  have hpre : ∀ uploaded, Persistent strict own
      (Following strict own.thread (withUploads record uploaded)) := fun _ => .persistent hkey
  induction paths generalizing uploaded with
  | nil =>
    refine done_fact hpost fun world h => ⟨h.1, ?_⟩
    rintro _ ⟨⟩
    refine ⟨h.2, fun hempty => ?_⟩
    rcases hlength hempty with heq | ⟨-, hcomplete⟩
    · exact .inl (by simpa using heq)
    · exact hcomplete
  | cons reference paths ih =>
    obtain ⟨path, hash, size⟩ := reference
    have hall : record.serverTaskId = "" →
        paths.length + 1 + uploaded.length = record.referencePaths.length :=
      fun hempty => (hlength hempty).resolve_right fun h => nomatch h.1
    refine (Silent.read _).bind (hpre uploaded) fun heard => ?_
    refine .ite (fun _ => done_fact hpost fun _ h => ⟨h.1, nofun⟩) fun _ => ?_
    refine .ite (fun _ => done_fact hpost fun _ h => ⟨h.1, nofun⟩) fun _ => ?_
    refine (Silent.read _).bind (hpre uploaded) fun upload => ?_
    cases upload with
    | error error => exact done_fact hpost fun _ h => ⟨h.1, nofun⟩
    | ok fileId =>
      refine .bind (fillMissing_triple hkey fun hempty => by have := hall hempty; omega)
        fun result => ?_
      refine .ite (fun _ => done_fact hpost fun _ h => ⟨h.1, nofun⟩) fun hwritten => ?_
      refine weaken ?_ fun world h => (⟨h.1, h.2 (written_of_not hwritten)⟩ :
        Following strict own.thread (withUploads record (uploaded ++ [fileId])) world)
      refine (Silent.read _).bind (hpre _) fun cancelled => ?_
      refine .ite (fun _ => ?_) fun _ => ih fun hempty => .inl ?_
      · exact cleanupCancelledGeneration_silent.bind (hpre _) fun _ =>
          done_fact hpost fun _ h => ⟨h.1, nofun⟩
      · have := hall hempty
        rw [List.length_append, List.length_singleton]
        omega

/-- From the detail of a created task on. -/
theorem followRecord_created {detail : GenerationTaskDetail}
    (hempty : record.serverTaskId = "")
    (hpayer :
      requireSavedGroup record.billingAccountGroupId detail.billingAccountGroupId = .ok ()) :
    (discipline strict).Triple own
      (At strict (Pending strict own.thread record.clientRequestId detail.id))
      (followRecord own.thread authority savedGroup record uploaded polls true detail)
      fun _ => At strict (Calm strict own.thread) := by
  refine .bind cancelRequested_triple fun cancelled => ?_
  refine .ite (fun hcancelled => ?_) fun _ => ?_
  · exact .bind (weaken cleanupReceived_triple fun _ h => ⟨h.1, h.2 hcancelled⟩)
      fun _ => done Clear.persistent fun _ => id
  refine .ite (fun h => ?_) fun _ => ?_
  · simp [hempty] at h
  refine .ite (fun h => absurd hpayer h) fun _ => ?_
  refine .bind (weaken (accept_triple rfl) fun _ h => h.1) fun result => ?_
  refine .ite (fun _ => done Clear.persistent fun _ h => h.1) fun hwritten => ?_
  refine (pollTask_triple calm_bound_persistent (fun _ h _ => h.2.named) polls detail).mono
    (fun _ h => ⟨h.1, h.2.1, h.2.2 (written_of_not hwritten)⟩) fun _ _ h => ⟨h.1, h.2.1⟩

/-- From the detail of a resumed task on. -/
theorem followRecord_resumed {detail : GenerationTaskDetail} (hne : record.serverTaskId ≠ "") :
    (discipline strict).Triple own
      (At strict fun world => Following strict own.thread record world ∧
        (strict → detail.id = record.serverTaskId))
      (followRecord own.thread authority savedGroup record uploaded polls false detail)
      fun _ => At strict (Calm strict own.thread) := by
  have hpre : Persistent strict own (Following strict own.thread record) :=
    .persistent fun hempty => absurd hempty hne
  refine given fun hreport => ?_
  have hnamed : ∀ world, Following strict own.thread record world →
      strict → world.Named record.clientRequestId detail.id :=
    fun _ h hstrict => hreport hstrict ▸ (h.2.bound hne).named
  refine (Silent.read _).bind hpre fun cancelled => ?_
  refine .ite (fun _ => ?_) fun _ => ?_
  · refine .bind (cleanupCancelledGeneration_triple hpre ?_) fun _ =>
      done Clear.persistent fun _ h => h.1
    rintro _ ⟨⟩ _
    exact hnamed
  refine .ite (fun _ => done Clear.persistent fun _ h => h.1) fun hsame => ?_
  have hsame : detail.id = record.serverTaskId := by
    simp only [Bool.and_eq_true, Bool.not_eq_true', String.isEmpty_eq_false_iff, ne_eq,
      decide_eq_true_eq, not_and, not_not] at hsame
    exact (hsame hne).symm
  refine .ite (fun _ => done Clear.persistent fun _ h => h.1) fun _ => ?_
  have haccept : (discipline strict).Triple own
      (At strict (Following strict own.thread record))
      (operate authority (.patch (RecoveryRow.identity record)
        (.accepted detail.id uploaded (record.taskType = "image_edit"))))
      fun _ => At strict (Following strict own.thread record) := by
    refine act_triple hpre (fun _ => hpre) fun answers world hinv hat _ => ?_
    have hbound := hat.2.bound hne
    have hquiet : Quiet strict world (world.operated answers.storage authority
        (.patch (RecoveryRow.identity record)
          (.accepted detail.id uploaded (record.taskType = "image_edit")))) :=
      patched_quiet hinv (hinv.sent_determined (hinv.named_sent hbound.named))
        fun row later hrow happly => by
          obtain ⟨hid, hpayer⟩ := accepted_later happly
          have hlater : later.serverTaskId = record.serverTaskId := hid.trans hsame
          exact .accept hpayer (hlater ▸ hne) (hlater ▸ hbound.named)
    exact ⟨hquiet.change, hpre world _ hinv hat hquiet.change⟩
  refine .bind haccept fun result => ?_
  refine .ite (fun _ => done Clear.persistent fun _ h => h.1) fun _ => ?_
  exact (pollTask_triple hpre hnamed polls detail).mono (fun _ => id) fun _ _ h => ⟨h.1, h.2.1⟩

theorem submitRecord_triple {billingScope : Option BillingScope}
    (hkey : own.key = some record.clientRequestId) (hempty : record.serverTaskId = "")
    (htype : record.taskType ∈ submittedTypes)
    (hvideo : ∀ request, record.videoRequest = some request →
      request.clientRequestId = record.clientRequestId ∧ request.taskType = record.taskType)
    (hpayer : ∀ scope, billingScope = some scope →
      record.billingAccountGroupId = scope.accountGroupId)
    (huploads : UploadsComplete record uploaded) :
    (discipline strict).Triple own
      (At strict (Tracking strict own.thread (withUploads record uploaded)))
      (submitRecord own.thread authority billingScope (some record.billingAccountGroupId) record
        uploaded polls)
      fun _ => At strict (Calm strict own.thread) := by
  have hpre : Persistent strict own (Tracking strict own.thread (withUploads record uploaded)) :=
    .persistent hkey
  unfold submitRecord
  cases billingScope with
  | none => exact done Clear.persistent fun _ h => h.1
  | some scope =>
  have hpayer := hpayer scope rfl
  cases hrequest : recordRequest record uploaded with
  | none =>
    refine beginGenerationSubmission_silent.bind hpre fun begun => ?_
    refine .ite (fun _ => done Clear.persistent fun _ h => h.1) fun _ => ?_
    refine .ite (fun _ => done Clear.persistent fun _ h => h.1) fun hother => ?_
    have hopen := rowRequest_of_none record uploaded htype hother hrequest
    exact .bind (removeUnsent_triple rfl hkey hopen) fun _ => done Clear.persistent fun _ => id
  | some body? =>
  cases body? with
  | error error =>
    refine beginGenerationSubmission_silent.bind hpre fun begun => ?_
    refine .ite (fun _ => done Clear.persistent fun _ h => h.1) fun _ => ?_
    exact done Clear.persistent fun _ h => h.1
  | ok body =>
    have hbody := rowRequest_recordRequest record uploaded htype hvideo huploads hrequest
    refine .bind (beginGenerationSubmission_triple hpre hkey rfl fun world h =>
      h.2.determined _ hbody) fun begun => ?_
    refine .ite (fun _ => done Clear.persistent fun _ h => h.1.1) fun hbegun => ?_
    refine weaken (submit_triple hkey (fun group hgroup => ?_) fun result => ?_) fun world h =>
      ⟨⟨h.1.1, hpayer ▸ h.2 (by simpa using hbegun)⟩, h.1.2.unsent⟩
    · cases hgroup
      exact hpayer
    · cases result with
      | error error =>
        refine .ite (fun _ => done Clear.persistent fun _ h => h.1) fun _ => ?_
        exact creationFailed_triple rfl hkey
      | ok detail =>
        exact given fun hgroup => followRecord_created hempty (hpayer ▸ hgroup)

/-- A record behind a stage in front of the submission. -/
def Staged (thread : Nat) (record : PendingGenerationRecord) (uploaded : List String)
    (result : Option PendingGenerationRecord) (world : World) : Prop :=
  ∀ other, result = some other →
    Follows thread (withUploads other uploaded) world ∧ Kin record other

theorem Staged.none : Staged own.thread record uploaded none world := fun _ h => nomatch h

theorem Staged.persistent {result : Option PendingGenerationRecord}
    (hkey : record.serverTaskId = "" → own.key = some record.clientRequestId) :
    Persistent strict own (Staged own.thread record uploaded result) := by
  intro before after hinv h hstep other hother
  obtain ⟨hfollows, hkin⟩ := h other hother
  refine ⟨Follows.persistent (fun hempty => ?_) before after hinv hfollows hstep, hkin⟩
  exact (hkey (hkin.task.symm.trans hempty)).trans (congrArg some hkin.key.symm)

/-- A stage of a worker with no id to record. -/
abbrev Staging (strict : Prop) (thread : Nat) (record : PendingGenerationRecord)
    (uploaded : List String) (result : Option PendingGenerationRecord) (world : World) : Prop :=
  Calm strict thread world ∧ Staged thread record uploaded result world

theorem Staging.persistent {result : Option PendingGenerationRecord}
    (hkey : record.serverTaskId = "" → own.key = some record.clientRequestId) :
    Persistent strict own (Staging strict own.thread record uploaded result) :=
  Clear.persistent.and (Staged.persistent hkey)

theorem dropInputs_triple
    (hkey : record.serverTaskId = "" → own.key = some record.clientRequestId)
    (hrequest : record.serverTaskId = "" →
      ∃ creation, rowRequest (withUploads record uploaded) = some creation) :
    (discipline strict).Triple own
      (At strict (Following strict own.thread (withUploads record uploaded)))
      (dropInputs authority record)
      fun result => At strict (Staging strict own.thread record uploaded result) := by
  have hpost : ∀ result, Persistent strict own
      (Staging strict own.thread record uploaded result) := fun _ => .persistent hkey
  have hpatch : (discipline strict).Triple own
      (At strict (Following strict own.thread (withUploads record uploaded)))
      (applyGenerationPatch authority (RecoveryRow.identity record) .releaseReferenceInputs)
      fun _ => At strict (Following strict own.thread (withUploads record uploaded)) :=
    releasePatch_triple hkey hrequest
  refine .bind hpatch fun result => .ite (fun _ => ?_) fun _ => ?_
  · refine done_fact hpost fun world h => ⟨h.1, ?_⟩
    rintro _ ⟨⟩
    exact ⟨h.2.release hrequest, .release (.refl record)⟩
  · exact done_fact hpost fun _ h => ⟨h.1, .none⟩

theorem releaseRecovered_triple
    (hkey : record.serverTaskId = "" → own.key = some record.clientRequestId)
    (huploads : record.serverTaskId = "" → UploadsComplete record uploaded) :
    (discipline strict).Triple own
      (At strict (Following strict own.thread (withUploads record uploaded)))
      (releaseRecoveredUpscaleInputs authority record)
      fun result => At strict (Staging strict own.thread record uploaded result) := by
  refine .ite (fun _ => ?_) fun hcond => ?_
  · refine done_fact (fun _ => Staging.persistent hkey) fun world h => ⟨h.1, ?_⟩
    rintro _ ⟨⟩
    exact ⟨h.2, .refl record⟩
  · have htype : record.taskType = "image_upscale" := by
      simp only [ne_eq, Bool.or_eq_true, decide_eq_true_eq, not_or, not_not] at hcond
      exact hcond.1
    exact dropInputs_triple hkey fun hempty =>
      ⟨_, rowRequest_upscale (withUploads record uploaded) htype (huploads hempty)⟩

/-- A stage that may be passed by. -/
theorem stage_triple {condition : Prop} [Decidable condition]
    {program : Action (Option PendingGenerationRecord)}
    (hkey : record.serverTaskId = "" → own.key = some record.clientRequestId)
    (hprogram : condition → (discipline strict).Triple own
      (At strict (Following strict own.thread (withUploads record uploaded))) program
      fun result => At strict (Staging strict own.thread record uploaded result)) :
    (discipline strict).Triple own
      (At strict (Following strict own.thread (withUploads record uploaded)))
      (if condition then program else pure (some record))
      fun result => At strict (Staging strict own.thread record uploaded result) := by
  refine .ite hprogram fun _ => ?_
  refine done_fact (fun _ => Staging.persistent hkey) fun world h => ⟨h.1, ?_⟩
  rintro _ ⟨⟩
  exact ⟨h.2, .refl record⟩

/-- The rest of the worker behind a stage. -/
theorem staged {rest : Action Unit}
    (h : Kin record other → (discipline strict).Triple own
      (At strict (Following strict own.thread (withUploads other uploaded))) rest
      fun _ => At strict (Calm strict own.thread)) :
    (discipline strict).Triple own
      (At strict (Staging strict own.thread record uploaded (some other))) rest
      fun _ => At strict (Calm strict own.thread) :=
  weaken (given h) fun _ h => ⟨⟨h.1, (h.2 other rfl).1⟩, (h.2 other rfl).2⟩

theorem missingReferences_length (record : PendingGenerationRecord) :
    (missingReferences record).length =
      record.referencePaths.length - record.uploadedFileIds.length := by
  simp [missingReferences]

/-- What is missing before the uploads. -/
theorem missing_complete (hstart : Startable record) (hempty : record.serverTaskId = "") :
    (missingReferences record).length + record.uploadedFileIds.length =
        record.referencePaths.length ∨
      missingReferences record = [] ∧ UploadsComplete record record.uploadedFileIds := by
  rcases (hstart hempty).2.2 with huploads | hreferences
  · left
    simp [missingReferences_length, huploads]
  · right
    exact ⟨by simp [missingReferences, hreferences], .inr hreferences⟩

/-- The last part, with all uploads there: a submission or a query. -/
theorem submitOrFollow_triple {billingScope : Option BillingScope} {payer key : String}
    (hkey : record.serverTaskId = "" → own.key = some record.clientRequestId)
    (hstart : Startable record)
    (hcomplete : record.serverTaskId = "" → UploadsComplete record uploaded)
    (hname : record.clientRequestId = key) (hgroup : record.billingAccountGroupId = payer)
    (hpayer : ∀ scope, billingScope = some scope → payer = scope.accountGroupId) :
    (discipline strict).Triple own
      (At strict (Following strict own.thread (withUploads record uploaded)))
      (do
        if record.serverTaskId.isEmpty then
          submitRecord own.thread authority billingScope (some payer) record uploaded polls
        else
        match ← taskScoped key (some payer) record.serverTaskId with
        | .error _ => pure ()
        | .ok detail =>
          followRecord own.thread authority (some payer) record uploaded polls false detail)
      fun _ => At strict (Calm strict own.thread) := by
  subst hname hgroup
  refine .ite (fun hempty => ?_) fun hne => ?_
  · rw [String.isEmpty_iff] at hempty
    obtain ⟨htype, hvideo, -⟩ := hstart hempty
    exact weaken (submitRecord_triple (hkey hempty) hempty htype hvideo hpayer (hcomplete hempty))
      fun _ h => ⟨h.1, h.2.waiting hempty⟩
  · rw [String.isEmpty_iff] at hne
    have hpre : Persistent strict own (Following strict own.thread (withUploads record uploaded)) :=
      .persistent hkey
    refine .bind (taskScoped_triple hpre fun _ h _ => (h.2.bound hne).named) fun polled => ?_
    cases polled with
    | error error => exact done Clear.persistent fun _ h => h.1.1
    | ok detail =>
      refine weaken (followRecord_resumed hne) fun _ h =>
        ⟨⟨h.1.1, fun hempty => absurd hempty hne, h.1.2.bound⟩, ?_⟩
      exact fun hstrict => (h.2 detail rfl hstrict).1

/-- `run_generation_record_checked` for a fresh row of the thread and for a resumed record. -/
theorem runGenerationRecordChecked_triple {billingScope : Option BillingScope}
    {session : SessionScope}
    (hkey : record.serverTaskId = "" → own.key = some record.clientRequestId)
    (hstart : Startable record) :
    (discipline strict).Triple own (At strict (Following strict own.thread record))
      (runGenerationRecordChecked own.thread authority billingScope session record polls)
      fun _ => At strict (Calm strict own.thread) := by
  have hpre : Persistent strict own (Following strict own.thread record) :=
    .persistent hkey
  refine (Silent.read _).bind hpre fun active => ?_
  refine .ite (fun _ => done Clear.persistent fun _ h => h.1) fun _ => ?_
  refine .ite (fun _ => done Clear.persistent fun _ h => h.1) fun hscope => ?_
  have hpayer : ∀ scope, billingScope = some scope →
      record.billingAccountGroupId = scope.accountGroupId := by
    rintro scope rfl
    simp only [Option.any_some, Bool.or_eq_true, decide_eq_true_eq, not_or, ne_eq, not_not]
      at hscope
    exact hscope.1.1
  refine (Silent.read _).bind hpre fun matching => ?_
  refine .ite (fun _ => done Clear.persistent fun _ h => h.1) fun _ => ?_
  refine weaken ?_ fun world h => (⟨h.1, (withUploads_self rfl).symm ▸ h.2⟩ :
    Following strict own.thread (withUploads record record.uploadedFileIds) world)
  refine .bind (stage_triple hkey fun hcond => dropInputs_triple hkey fun hempty => ?_)
    fun result => ?_
  · simp [hempty] at hcond
  cases result with
  | none => exact done Clear.persistent fun _ h => h.1
  | some edit =>
  refine staged fun hkin => ?_
  rw [← hkin.uploads]
  refine .bind (stage_triple (hkin.submits hkey) fun hcond =>
    releaseRecovered_triple (hkin.submits hkey) fun hempty => ?_) fun result => ?_
  · have hnone := (hkin.startable hstart hempty).2.2
    rcases hnone with huploads | hreferences
    · simp [hempty, huploads] at hcond
    · simp [hempty, hreferences] at hcond
  cases result with
  | none => exact done Clear.persistent fun _ h => h.1
  | some upscale =>
  refine staged fun hkin' => ?_
  rw [← hkin'.uploads]
  have hall := hkin.trans hkin'
  rw [← hall.identity]
  refine .bind (uploadMissing_triple (hall.submits hkey) _ fun hempty =>
    missing_complete (hall.startable hstart) hempty) fun uploads? => ?_
  cases uploads? with
  | none => exact done Clear.persistent fun _ h => h.1
  | some uploaded =>
  refine weaken (given fun hcomplete => ?_) fun world h => (⟨⟨h.1, (h.2 uploaded rfl).1⟩,
    (h.2 uploaded rfl).2⟩ :
    Following strict own.thread (withUploads upscale uploaded) world ∧
      (upscale.serverTaskId = "" → UploadsComplete upscale uploaded))
  refine .bind (stage_triple (hall.submits hkey) fun _ =>
    releaseRecovered_triple (hall.submits hkey) hcomplete) fun result => ?_
  cases result with
  | none => exact done Clear.persistent fun _ h => h.1
  | some last =>
  refine staged fun hkin'' => ?_
  have hlast := hall.trans hkin''
  have hnext : Persistent strict own (Following strict own.thread (withUploads last uploaded)) :=
    .persistent (hlast.submits hkey)
  refine (Silent.read _).bind hnext fun cancelled => ?_
  refine .ite (fun _ => ?_) fun _ => ?_
  · exact cleanupCancelledGeneration_silent.bind hnext fun _ =>
      done Clear.persistent fun _ h => h.1
  refine (Silent.read _).bind hnext fun heard => ?_
  refine .ite (fun _ => done Clear.persistent fun _ h => h.1) fun _ => ?_
  exact submitOrFollow_triple (hlast.submits hkey) (hlast.startable hstart)
    (fun hempty => (hcomplete (hkin''.task.symm.trans hempty)).kin hkin'') hlast.key
    hlast.payer hpayer

/-- A recovered record is resumed with its task or not at all. -/
theorem runRecoveredGenerationWorker_triple {session : SessionScope} :
    (discipline strict).Triple own
      (At strict fun world => Calm strict own.thread world ∧
        Bound record.clientRequestId record.serverTaskId world)
      (runRecoveredGenerationWorker own.thread authority session record polls)
      fun _ => At strict (Calm strict own.thread) := by
  refine .ite (fun _ => done Clear.persistent fun _ h => h.1) fun hne => ?_
  rw [String.isEmpty_iff] at hne
  have hbound : record.serverTaskId = "" → own.key = some record.clientRequestId :=
    fun hempty => absurd hempty hne
  exact weaken (runGenerationRecordChecked_triple hbound fun hempty => absurd hempty hne)
    fun _ h => ⟨h.1, fun hempty => absurd hempty hne, fun _ => h.2⟩

end Checked

end ArtForgeStudio.Generation
