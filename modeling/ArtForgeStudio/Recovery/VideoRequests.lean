import ArtForgeStudio.Recovery.Settlement

/-! # Immutability of retained video requests

The guard of `mutate` compares the bodies of the video rows before and after an arbitrary
update. With unique keys it speaks about rows: a video row that stays keeps its request, and
no other row becomes one.
-/

namespace ArtForgeStudio.Recovery

open ArtForgeStudio.Api ArtForgeStudio.Outcome ArtForgeStudio.KeyedRows ArtForgeStudio.Runs

/-- A mutation of the generation document by any closure, under any permission. The closure
runs anew in each attempt. -/
structure Mutation where
  Answer : Type
  answers : StorageAnswers
  authority : NamespaceStorageAuthority
  permission : MutationPermission
  update : Nat → RecoveryFile → Except Failure (Answer × RecoveryFile)

def Mutation.step (mutation : Mutation) (stored : GenerationFile) : GenerationFile :=
  (mutate mutation.answers mutation.authority mutation.permission mutation.update stored).2

variable {user key : String} {file next : RecoveryFile} {row after : PendingGenerationRecord}
  {stored start : GenerationFile} {mutations : List Mutation}

theorem bodyOf_retained (key : String) (hunique : UniqueKeys clientRequestId file.generations) :
    bodyOf (RecoveryEnvelope.retainedRequestBodies file) key =
      ((find clientRequestId file.generations key).filter isVideo).map retainedBody := by
  have hvideo : UniqueKeys clientRequestId (file.generations.filter isVideo) :=
    hunique.sublist (List.filter_sublist.map _)
  rw [← find_filter hunique, ← find_reverse hvideo]
  simp only [bodyOf, RecoveryEnvelope.retainedRequestBodies, ← List.map_reverse, List.find?_map,
    Option.map_map]
  rfl

theorem any_identity (h : find clientRequestId file.generations key = some row) :
    (identitiesOf (RecoveryEnvelope.rows file)).any (·.2.clientRequestId = key) = true := by
  simp only [identitiesOf, RecoveryEnvelope.rows, List.map_map, List.any_map, List.any_eq_true,
    Function.comp_apply, decide_eq_true_eq]
  have hkey : clientRequestId row = key := key_of_find h
  exact ⟨row, mem_of_find h, hkey⟩

theorem mem_retained (h : find clientRequestId file.generations key = some row)
    (hvideo : isVideo row = true) :
    (key, retainedBody row) ∈ RecoveryEnvelope.retainedRequestBodies file := by
  refine List.mem_map.mpr ⟨row, List.mem_filter.mpr ⟨mem_of_find h, hvideo⟩, ?_⟩
  exact congrArg (·, retainedBody row) (key_of_find h)

/-- The two loops of the guard, read on rows. -/
theorem video_of_transact {T : Type} {authority : NamespaceStorageAuthority}
    {permission : MutationPermission} {update : RecoveryFile → Except Failure (T × RecoveryFile)}
    {answer : T} (h : transact authority permission update file = .ok (answer, next))
    (hrow : find clientRequestId file.generations key = some row)
    (hafter : find clientRequestId next.generations key = some after) :
    isVideo after = isVideo row ∧ (isVideo row = true → retainedBody after = retainedBody row) := by
  obtain ⟨hfile, -, hnext, -, hlate, hkept⟩ := transact_ok.mp h
  have hbefore := bodyOf_retained key (generationTable.uniqueKeys_get hfile)
  have hbodies := bodyOf_retained key (generationTable.uniqueKeys_get hnext)
  rw [hrow] at hbefore
  rw [hafter] at hbodies
  by_cases hvideo : isVideo row = true
  · have heq := hkept _ (mem_retained hrow hvideo) (any_identity hafter)
    rw [hbefore, hbodies, Option.filter_some_pos hvideo] at heq
    by_cases hvideo' : isVideo after = true
    · rw [Option.filter_some_pos hvideo'] at heq
      exact ⟨hvideo'.trans hvideo.symm, fun _ => Option.some.inj heq⟩
    · rw [Option.filter_some_neg (by simpa using hvideo')] at heq
      cases heq
  · have hplain : isVideo after ≠ true := by
      intro hvideo'
      rcases hlate _ (mem_retained hafter hvideo') with habsent | hbody
      · exact habsent (any_identity hrow)
      · simp [hbefore, hvideo] at hbody
    exact ⟨by simp [hvideo, hplain], fun hcontra => absurd hcontra hvideo⟩

/-- A published mutation keeps the request of a video row and makes no other row one. -/
theorem Mutation.step_video (mutation : Mutation) (stored : GenerationFile)
    (hrow : generationTable.lookup stored key = some row)
    (hafter : generationTable.lookup (mutation.step stored) key = some after) :
    isVideo after = isVideo row ∧ (isVideo row = true → retainedBody after = retainedBody row) := by
  unfold Mutation.step at hafter
  rcases mutate_cases mutation.answers mutation.authority mutation.permission mutation.update
    stored with ⟨failure, hfail⟩ | ⟨i, answer, next, htransact, hpublished⟩
  · rw [hfail] at hafter
    cases hrow.symm.trans hafter
    exact ⟨rfl, fun _ => rfl⟩
  · rw [hpublished] at hafter
    exact video_of_transact htransact hrow hafter

/-- While a row is retained, mutations keep whether it is a video row and, if it is, its
request. -/
theorem run_video (hrow : generationTable.lookup stored key = some row)
    (hretained : Throughout Mutation.step (Retained key) mutations stored) :
    ∃ later, generationTable.lookup (run Mutation.step mutations stored) key = some later ∧
      isVideo later = isVideo row ∧
      (isVideo row = true → retainedBody later = retainedBody row) := by
  refine run_invariant (fun state => ∃ later, generationTable.lookup state key = some later ∧
    isVideo later = isVideo row ∧ (isVideo row = true → retainedBody later = retainedBody row))
    ?_ ⟨row, hrow, rfl, fun _ => rfl⟩ hretained.next
  rintro mutation state ⟨current, hcurrent, hvideo, hbody⟩ hnext
  obtain ⟨later, hlater⟩ := Option.isSome_iff_exists.mp hnext
  obtain ⟨hvideo', hbody'⟩ := mutation.step_video state hcurrent hlater
  refine ⟨later, hlater, hvideo'.trans hvideo, fun h => ?_⟩
  exact (hbody' (hvideo.trans h)).trans (hbody h)

theorem upsert_lookup {answers : StorageAnswers} {authority : NamespaceStorageAuthority}
    {scope : BillingScope} {record : PendingGenerationRecord} {before : GenerationFile}
    (h : upsertPendingGeneration answers authority scope record before = (.ok (), stored)) :
    generationTable.lookup stored record.clientRequestId = some record := by
  rcases generationTable.upsert_cases answers authority scope record before
    with ⟨failure, hfail⟩ | ⟨next, hpublished, -, -, hlookup, -⟩
  · cases hfail.symm.trans h
  · cases hpublished.symm.trans h
    exact hlookup

theorem taskType_of_valid (hvalid : ValidFor user file)
    (hrow : find clientRequestId file.generations key = some row) (hvideo : isVideo row = true) :
    row.taskType = "image_to_video" := by
  have hextra := forM_eq_ok.mp hvalid.extra row (mem_of_find hrow)
  unfold validateVideoRequest at hextra
  cases hrequest : row.videoRequest with
  | none => simpa [isVideo, hrequest] using hvideo
  | some request =>
    rw [hrequest] at hextra
    obtain ⟨-, -, hidentity⟩ := bind_eq_ok.mp hextra
    exact (ensure_eq_ok.mp hidentity).2.2

theorem savedVideoBody_ok {body : Json} (h : savedVideoBody row = .ok body) :
    ∃ request, row.videoRequest = some request ∧ body = request.toValue := by
  unfold savedVideoBody at h
  cases hrequest : row.videoRequest with
  | none =>
    rw [hrequest] at h
    cases h
  | some request =>
    rw [hrequest] at h
    obtain ⟨-, -, h⟩ := bind_eq_ok.mp h
    obtain ⟨-, -, h⟩ := bind_eq_ok.mp h
    exact ⟨request, rfl, (pure_eq_ok.mp h).symm⟩

/-- The replayed body of a video row is its retained request. -/
theorem replayed_video {readable : Bool} {authority : NamespaceStorageAuthority}
    {session : SessionScope} {saved : SavedReplayRequest PendingGenerationRecord}
    (h : SavedReplayRequest.generation readable authority session key stored = .ok saved)
    (hrow : generationTable.lookup stored key = some row) (hvideo : isVideo row = true) :
    ∃ request, row.videoRequest = some request ∧ saved.path = "/v1/generation/tasks" ∧
      saved.body = request.toValue := by
  obtain ⟨hvalid, current, hlookup, -, -, -, -, hrequest⟩ := generation_ok h
  cases hrow.symm.trans hlookup
  obtain ⟨-, -, -, hpath, hbody⟩ := savedGenerationRequest_ok.mp hrequest
  have hrowType : row.taskType = "image_to_video" := taskType_of_valid hvalid hrow hvideo
  have htype : (remapGeneration authority row).taskType = "image_to_video" := hrowType
  obtain ⟨-, -, hbody⟩ := bind_eq_ok.mp hbody
  simp only [savedGenerationCreatePath, htype, Except.ok.injEq] at hpath
  simp only [htype] at hbody
  obtain ⟨request, hsome, heq⟩ := savedVideoBody_ok hbody
  exact ⟨request, hsome, hpath.symm, heq⟩

/-- Along every run of mutations by arbitrary closures: a retained video row keeps its task
type, its request and its source asset, no other retained row becomes a video row, and what a
replay of a video key sends is the request of the upsert that its row comes from. -/
theorem video_requests_immutable (start : GenerationFile) (mutations : List Mutation)
    (hretained : Throughout Mutation.step (Retained key) mutations start) :
    (∀ row later, generationTable.lookup start key = some row →
      generationTable.lookup (run Mutation.step mutations start) key = some later →
      (isVideo row = true → isVideo later = true ∧ later.taskType = row.taskType ∧
        later.videoRequest = row.videoRequest ∧ later.sourceAssetId = row.sourceAssetId) ∧
      (isVideo row = false → isVideo later = false)) ∧
    ∀ before answers authority scope record, record.clientRequestId = key →
      upsertPendingGeneration answers authority scope record before = (.ok (), start) →
      isVideo record = true → ∀ readable authority session saved,
        SavedReplayRequest.generation readable authority session key
          (run Mutation.step mutations start) = .ok saved →
        ∃ request, record.videoRequest = some request ∧ saved.path = "/v1/generation/tasks" ∧
          saved.body = request.toValue := by
  constructor
  · intro row later hrow hlater
    obtain ⟨last, hlast, hvideo, hbody⟩ := run_video hrow hretained
    cases hlast.symm.trans hlater
    refine ⟨fun h => ⟨hvideo.trans h, ?_⟩, fun h => hvideo.trans h⟩
    have heq := hbody h
    exact ⟨congrArg RetainedBody.taskType heq, congrArg RetainedBody.videoRequest heq,
      congrArg RetainedBody.sourceAssetId heq⟩
  · rintro before answers authority scope record rfl hupsert hvideo readable authority' session
      saved hsaved
    obtain ⟨last, hlast, hlastVideo, hbody⟩ := run_video (upsert_lookup hupsert) hretained
    obtain ⟨request, hrequest, hpath, hsent⟩ :=
      replayed_video hsaved hlast (hlastVideo.trans hvideo)
    have heq := congrArg RetainedBody.videoRequest (hbody hvideo)
    exact ⟨request, heq.symm.trans hrequest, hpath, hsent⟩

def videoTask : PendingGenerationRecord :=
  { imageTask 1 with
    taskType := "image_to_video"
    uploadedFileIds := ["frame"]
    videoRequest := some {
      clientRequestId := "key"
      taskType := "image_to_video"
      modelCode := "model"
      prompt := "a tree"
      sourceFileId := "frame"
      referenceFileIds := ["frame"]
      aspectRatio := "16:9"
      resolution := "720P"
      durationSecs := 4
      quoteId := "quote" } }

def videoFile : GenerationFile :=
  (upsertPendingGeneration .faultFree (loginOf 1) (payerScope 1) videoTask none).2

/-- A mutation that clears every video request is refused, and the row keeps its request. -/
theorem video_request_survives_clearing :
    let clear : Mutation := ⟨Unit, .faultFree, loginOf 1, .preserve, fun _ file => .ok ((),
      { file with generations := file.generations.map fun row => { row with videoRequest := none } })⟩
    (∀ row later, generationTable.lookup videoFile "key" = some row →
      generationTable.lookup (run Mutation.step [clear] videoFile) "key" = some later →
      (isVideo row = true → isVideo later = true ∧ later.taskType = row.taskType ∧
        later.videoRequest = row.videoRequest ∧ later.sourceAssetId = row.sourceAssetId) ∧
      (isVideo row = false → isVideo later = false)) ∧
    ∀ before answers authority scope record, record.clientRequestId = "key" →
      upsertPendingGeneration answers authority scope record before = (.ok (), videoFile) →
      isVideo record = true → ∀ readable authority session saved,
        SavedReplayRequest.generation readable authority session "key"
          (run Mutation.step [clear] videoFile) = .ok saved →
        ∃ request, record.videoRequest = some request ∧ saved.path = "/v1/generation/tasks" ∧
          saved.body = request.toValue :=
  video_requests_immutable videoFile _
    ⟨by unfold Retained; decide +kernel, by unfold Throughout Retained; decide +kernel⟩

end ArtForgeStudio.Recovery
