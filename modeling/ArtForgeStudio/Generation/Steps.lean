import ArtForgeStudio.Generation.Invariant

/-! # What the actions do to the world

One lemma per kind of step: operations on a row, sends, received ids, and what only the
histories see.
-/

namespace ArtForgeStudio.Generation

open ArtForgeStudio.Api ArtForgeStudio.KeyedRows ArtForgeStudio.Recovery

/-- A change of the row of a key that agrees with its request, its task and the ids received
for it. -/
structure Benign (world : World) (key : String) (row later : PendingGenerationRecord) : Prop where
  payer : later.billingAccountGroupId = row.billingAccountGroupId
  task : row.serverTaskId ≠ "" → later.serverTaskId ≠ ""
  accepted : later.serverTaskId ≠ "" →
    later.serverTaskId = row.serverTaskId ∨ world.Named key later.serverTaskId
  request : world.Determined key → later.serverTaskId = "" → rowRequest later = rowRequest row

section Operations

variable {strict : Prop} {world : World} {key : String} {row later : PendingGenerationRecord}
  {answers : StorageAnswers} {authority : NamespaceStorageAuthority} {op : GenerationOperation}

theorem Benign.of_part (h : requestPart later = requestPart row) : Benign world key row later where
  payer := payer_congr h
  task hne := taskId_congr h ▸ hne
  accepted _ := .inl (taskId_congr h)
  request _ _ := request_congr h

/-- A change that keeps the task of a row whose request is not determined, or that has one. -/
theorem Benign.of_task (hpayer : later.billingAccountGroupId = row.billingAccountGroupId)
    (htask : later.serverTaskId = row.serverTaskId)
    (hfree : ¬world.Determined key ∨ row.serverTaskId ≠ "") : Benign world key row later where
  payer := hpayer
  task hne := htask ▸ hne
  accepted _ := .inl htask
  request hdetermined hempty := by
    rcases hfree with hno | hne
    · exact absurd hdetermined hno
    · exact absurd (htask.symm.trans hempty) hne

theorem Benign.release (hinv : Inv strict world) (hrow : world.row key = some row)
    (hdetermined : world.Determined key) :
    Benign world key row (releaseReferenceInputs row) where
  payer := rfl
  task hne := hne
  accepted _ := .inl rfl
  request _ hempty := by
    obtain ⟨creation, hmem, rfl⟩ := hdetermined
    have hrequest := hinv.request creation hmem row hrow hempty
    rw [rowRequest_release hrequest, hrequest]

/-- Recording an id that was received for the key. -/
theorem Benign.accept (hpayer : later.billingAccountGroupId = row.billingAccountGroupId)
    (hne : later.serverTaskId ≠ "") (hnamed : world.Named key later.serverTaskId) :
    Benign world key row later where
  payer := hpayer
  task _ := hne
  accepted _ := .inr hnamed
  request _ hempty := absurd hempty hne

theorem mem_determined_cases {creation : Creation}
    (h : creation ∈ (world.operated answers authority op).determined) :
    creation ∈ world.determined ∨ ∃ later,
      (world.operated answers authority op).row op.key = some later ∧ later.serverTaskId = "" ∧
        rowRequest later = some creation ∧ creation.key = op.key := by
  rcases mem_operated_determined.mp h with hnew | hold
  · obtain ⟨later, hlater, hempty, hrequest⟩ := waitingRequest_eq_some.mp hnew
    refine .inr ⟨later, hlater, hempty, hrequest, ?_⟩
    exact (key_of_request hrequest).trans (clientRequestId_of_row hlater)
  · exact .inl hold

/-- An operation that changes its row benignly, and removes it for a reason or before anything
was sent for it. -/
structure Fits (strict : Prop) (answers : StorageAnswers) (authority : NamespaceStorageAuthority)
    (op : GenerationOperation) (world : World) : Prop where
  update : ∀ scope record, op ≠ .upsert scope record
  benign : ∀ row later, world.row op.key = some row →
    (world.operated answers authority op).row op.key = some later → Benign world op.key row later
  gone : strict → (∃ row, world.row op.key = some row) →
    (world.operated answers authority op).row op.key = none →
    (world.operated answers authority op).Released op.key ∨ ¬world.Sent op.key

theorem Fits.evolves (h : Fits strict answers authority op world) :
    Evolves world (world.operated answers authority op) where
  inserted := List.Subset.refl _
  determined _ hmem := mem_operated_determined.mpr (.inr hmem)
  sent := List.Subset.refl _
  received := List.Subset.refl _
  replies := List.Subset.refl _
  released := List.subset_append_right _ _
  unrecorded := List.Subset.refl _
  absent key _ hnone := by
    by_cases hkey : key = op.key
    · subst hkey
      cases hlater : (world.operated answers authority op).row op.key with
      | none => rfl
      | some later =>
        obtain ⟨row, hrow, -⟩ := operated_later h.update hlater
        cases hrow.symm.trans hnone
    · rw [operated_row_other hkey, hnone]
  row key row later hrow hlater := by
    by_cases hkey : key = op.key
    · subst hkey
      have hsame := h.benign row later hrow hlater
      exact ⟨hsame.payer, hsame.task⟩
    · rw [operated_row_other hkey, hrow] at hlater
      cases hlater
      exact ⟨rfl, id⟩

theorem operated_frozen_other (hkey : key ≠ op.key) :
    Frozen strict key world (world.operated answers authority op) where
  undetermined hno := by
    refine ⟨?_, fun later hlater => ⟨later, operated_row_other hkey ▸ hlater, rfl⟩⟩
    rintro ⟨creation, hmem, rfl⟩
    rcases mem_determined_cases hmem with hold | ⟨-, -, -, -, heq⟩
    · exact hno ⟨creation, hold, rfl⟩
    · exact hkey heq
  kept _ row hrow hnone := by
    rw [operated_row_other hkey, hrow] at hnone
    cases hnone

theorem Fits.kept (h : Fits strict answers authority op world) (hinv : Inv strict world)
    (hstrict : strict) (hsent : world.Sent key)
    (hnone : (world.operated answers authority op).row key = none) :
    (world.operated answers authority op).Released key := by
  have hreleased : world.released ⊆ (world.operated answers authority op).released :=
    List.subset_append_right _ _
  by_cases hkey : key = op.key
  · subst hkey
    cases hrow : world.row op.key with
    | none => exact (hinv.kept hstrict _ hsent hrow).mono hreleased
    | some row => exact (h.gone hstrict ⟨row, hrow⟩ hnone).resolve_right (not_not_intro hsent)
  · rw [operated_row_other hkey] at hnone
    exact (hinv.kept hstrict key hsent hnone).mono hreleased

theorem Fits.request (h : Fits strict answers authority op world) (hinv : Inv strict world)
    {creation : Creation}
    (hmem : creation ∈ (world.operated answers authority op).determined)
    (hlater : (world.operated answers authority op).row creation.key = some later)
    (hempty : later.serverTaskId = "") : rowRequest later = some creation := by
  rcases mem_determined_cases hmem with hold | ⟨row, hrow, -, hrequest, hkey⟩
  · by_cases hkey : creation.key = op.key
    · rw [hkey] at hlater
      obtain ⟨row, hrow, -⟩ := operated_later h.update hlater
      have hsame := h.benign row later hrow hlater
      rw [hsame.request ⟨creation, hold, hkey⟩ hempty]
      refine hinv.request creation hold row (hkey ▸ hrow) ?_
      exact Classical.byContradiction fun hne => hsame.task hne hempty
    · rw [operated_row_other hkey] at hlater
      exact hinv.request creation hold later hlater hempty
  · rw [hkey, hrow] at hlater
    cases hlater
    exact hrequest

theorem Fits.unique (h : Fits strict answers authority op world) (hinv : Inv strict world)
    {creation other : Creation}
    (hmem : creation ∈ (world.operated answers authority op).determined)
    (hother : other ∈ (world.operated answers authority op).determined)
    (heq : creation.key = other.key) : creation = other := by
  rcases mem_determined_cases hmem with hold | ⟨later, hlater, hempty, hrequest, hkey⟩
  · rcases mem_determined_cases hother with hold' | ⟨later, hlater, hempty, hrequest, hkey⟩
    · exact hinv.unique creation hold other hold' heq
    · rw [← hkey, ← heq] at hlater
      exact Option.some.inj ((h.request hinv hmem hlater hempty).symm.trans
        hrequest)
  · rw [← hkey, heq] at hlater
    exact Option.some.inj (hrequest.symm.trans
      (h.request hinv hother hlater hempty))

theorem Fits.payer (h : Fits strict answers authority op world) (hinv : Inv strict world)
    {creation : Creation}
    (hmem : creation ∈ (world.operated answers authority op).determined)
    (hlater : (world.operated answers authority op).row creation.key = some later) :
    later.billingAccountGroupId = creation.payer := by
  rcases mem_determined_cases hmem with hold | ⟨row, hrow, -, hrequest, hkey⟩
  · obtain ⟨row, hrow⟩ := h.evolves.row_before (hinv.determined creation hold) hlater
    exact (h.evolves.row _ row later hrow hlater).1.trans (hinv.payer creation hold row hrow)
  · rw [hkey, hrow] at hlater
    cases hlater
    exact (payer_of_request hrequest).symm

theorem Fits.accepted (h : Fits strict answers authority op world) (hinv : Inv strict world)
    (hlater : (world.operated answers authority op).row key = some later)
    (hne : later.serverTaskId ≠ "") : world.Named key later.serverTaskId := by
  by_cases hkey : key = op.key
  · subst hkey
    obtain ⟨row, hrow, -⟩ := operated_later h.update hlater
    rcases (h.benign row later hrow hlater).accepted hne with hsame | hnamed
    · rw [hsame]
      exact hinv.accepted _ row hrow (hsame ▸ hne)
    · exact hnamed
  · rw [operated_row_other hkey] at hlater
    exact hinv.accepted key later hlater hne

theorem Fits.inv (h : Fits strict answers authority op world) (hinv : Inv strict world) :
    Inv strict (world.operated answers authority op) where
  sent creation hmem := mem_operated_determined.mpr (.inr (hinv.sent creation hmem))
  determined creation hmem := by
    rcases mem_determined_cases hmem with hold | ⟨later, hlater, -, -, hkey⟩
    · exact hinv.determined creation hold
    · obtain ⟨row, hrow, -⟩ := operated_later h.update hlater
      exact hkey ▸ hinv.rows _ row hrow
  payer creation hmem later hlater := h.payer hinv hmem hlater
  request creation hmem later hlater hempty :=
    h.request hinv hmem hlater hempty
  recorded key later creation hlater hempty hrow := by
    by_cases hkey : key = op.key
    · subst hkey
      exact mem_operated_determined.mpr
        (.inl (waitingRequest_eq_some.mpr ⟨later, hlater, hempty, hrow⟩))
    · rw [operated_row_other hkey] at hlater
      exact mem_operated_determined.mpr (.inr (hinv.recorded key later creation hlater hempty hrow))
  unique creation hmem other hother := h.unique hinv hmem hother
  rows key later hlater := by
    by_cases hkey : key = op.key
    · subst hkey
      obtain ⟨row, hrow, -⟩ := operated_later h.update hlater
      exact hinv.rows _ row hrow
    · rw [operated_row_other hkey] at hlater
      exact hinv.rows key later hlater
  accepted key later hlater hne :=
    have hnamed : world.Named key later.serverTaskId :=
      h.accepted hinv hlater hne
    hnamed
  recovered record hmem :=
    (hinv.recovered record hmem).evolves hinv h.evolves
  received := hinv.received
  justified entry hmem := by
    rcases mem_operated_released hmem with hold | ⟨dropped, rfl, hcomplete⟩
    · exact hinv.justified entry hold
    · exact hcomplete
  kept hstrict key hsent hnone := h.kept hinv hstrict hsent hnone
  oneId := hinv.oneId

theorem Fits.change (h : Fits strict answers authority op world) (hinv : Inv strict world) :
    Change strict (fun _ => True) (· ≠ op.key) world (world.operated answers authority op) where
  inv := h.inv hinv
  evolves := h.evolves
  notes _ _ := rfl
  frozen _ _ hkey := operated_frozen_other hkey

/-- Such an operation is quiet when it leaves an open request alone and removes a row for a
reason. -/
theorem Fits.quiet (h : Fits strict answers authority op world) (hinv : Inv strict world)
    (hopen : ∀ row later, world.row op.key = some row →
      (world.operated answers authority op).row op.key = some later →
      world.Determined op.key ∨ requestPart later = requestPart row)
    (hgone : strict → (∃ row, world.row op.key = some row) →
      (world.operated answers authority op).row op.key = none →
      (world.operated answers authority op).Released op.key) :
    Quiet strict world (world.operated answers authority op) := by
  refine ⟨h.inv hinv, h.evolves, fun _ _ => rfl, fun key hmem _ => ?_⟩
  by_cases hkey : key = op.key
  · subst hkey
    refine ⟨fun hno => ?_, fun hstrict row hrow => hgone hstrict ⟨row, hrow⟩⟩
    have hpart : ∀ later, (world.operated answers authority op).row op.key = some later →
        ∃ row, world.row op.key = some row ∧ requestPart later = requestPart row := by
      intro later hlater
      obtain ⟨row, hrow, -⟩ := operated_later h.update hlater
      exact ⟨row, hrow, (hopen row later hrow hlater).resolve_left hno⟩
    refine ⟨?_, hpart⟩
    rintro ⟨creation, hdetermined, hkey⟩
    rcases mem_determined_cases hdetermined with hold | ⟨later, hlater, hempty, hrequest, -⟩
    · exact hno ⟨creation, hold, hkey⟩
    · obtain ⟨row, hrow, heq⟩ := hpart later hlater
      refine hno ⟨creation, hinv.recorded _ row creation hrow ?_ ?_, hkey⟩
      · exact (taskId_congr heq).symm.trans hempty
      · exact (request_congr heq).symm.trans hrequest
  · exact operated_frozen_other hkey

theorem operated_complete (hremove : ∀ expected, op ≠ .remove expected)
    (hrow : ∃ row, world.row op.key = some row)
    (hgone : (world.operated answers authority op).row op.key = none) :
    (world.operated answers authority op).Released op.key :=
  let ⟨_, hrow⟩ := hrow
  let ⟨dropped, hmem⟩ := operated_dropped hremove hrow hgone
  ⟨.complete dropped, hmem⟩

theorem keeps_quiet (hinv : Inv strict world) (hkeeps : keepsRequest op = true) :
    Quiet strict world (world.operated answers authority op) := by
  have hupdate : ∀ scope record, op ≠ .upsert scope record := by
    rintro scope record rfl
    cases hkeeps
  have hremove : ∀ expected, op ≠ .remove expected := by
    rintro expected rfl
    cases hkeeps
  have hsame : ∀ row later, world.row op.key = some row →
      (world.operated answers authority op).row op.key = some later →
      requestPart later = requestPart row := by
    intro row later hrow hlater
    obtain ⟨row', hrow', -, hpart⟩ := operated_later hupdate hlater
    cases hrow.symm.trans hrow'
    exact hpart.elim id fun hfields => fieldUpdate_part hkeeps hfields
  have hfits : Fits strict answers authority op world :=
    ⟨hupdate, fun row later hrow hlater => .of_part (hsame row later hrow hlater),
      fun _ hrow hgone => .inl (operated_complete hremove hrow hgone)⟩
  exact hfits.quiet hinv (fun row later hrow hlater => .inr (hsame row later hrow hlater))
    fun _ => operated_complete hremove

variable {identity : RecoveryRecordIdentity} {change : GenerationRecoveryPatch}

theorem patched_later
    (hlater : (world.operated answers authority (.patch identity change)).row
      identity.clientRequestId = some later) :
    ∃ row, world.row identity.clientRequestId = some row ∧
      (requestPart later = requestPart row ∨ change.apply row = .ok later) := by
  obtain ⟨row, hrow, -, hpart⟩ := operated_later (by simp) hlater
  refine ⟨row, hrow, hpart.imp_right fun hfields => ?_⟩
  cases happly : change.apply row with
  | error failure =>
    rw [GenerationOperation.fieldUpdate, happly] at hfields
    cases hfields
  | ok patched =>
    rw [GenerationOperation.fieldUpdate, happly] at hfields
    cases hfields
    rfl

theorem patched_fits
    (h : ∀ row later, world.row identity.clientRequestId = some row →
      change.apply row = .ok later → Benign world identity.clientRequestId row later) :
    Fits strict answers authority (.patch identity change) world where
  update _ _ := nofun
  benign row later hrow hlater := by
    obtain ⟨row', hrow', hpart⟩ := patched_later hlater
    cases hrow.symm.trans hrow'
    exact hpart.elim .of_part (h row later hrow)
  gone _ hrow hgone := .inl (operated_complete (fun _ => nofun) hrow hgone)

/-- A patch that changes its row benignly is the business of the submitter of the key. -/
theorem patched_change (hinv : Inv strict world)
    (h : ∀ row later, world.row identity.clientRequestId = some row →
      change.apply row = .ok later → Benign world identity.clientRequestId row later) :
    Change strict (fun _ => True) (· ≠ identity.clientRequestId) world
      (world.operated answers authority (.patch identity change)) :=
  (patched_fits h).change hinv

/-- With a determined request it is quiet. -/
theorem patched_quiet (hinv : Inv strict world)
    (hdetermined : world.Determined identity.clientRequestId)
    (h : ∀ row later, world.row identity.clientRequestId = some row →
      change.apply row = .ok later → Benign world identity.clientRequestId row later) :
    Quiet strict world (world.operated answers authority (.patch identity change)) :=
  (patched_fits h).quiet hinv (fun _ _ _ _ => .inl hdetermined)
    fun _ => operated_complete fun _ => nofun

theorem removed_later {expected : RecoveryRecordIdentity}
    (hlater : (world.operated answers authority (.remove expected)).row
      expected.clientRequestId = some later) :
    ∃ row, world.row expected.clientRequestId = some row ∧ requestPart later = requestPart row := by
  obtain ⟨row, hrow, -, hpart⟩ := operated_later (by simp) hlater
  refine ⟨row, hrow, ?_⟩
  rcases hpart with hpart | hfields
  · exact hpart
  · cases hfields
    rfl

theorem removed_change {expected : RecoveryRecordIdentity} (hinv : Inv strict world)
    (hunsent : strict →
      world.Released expected.clientRequestId ∨ ¬world.Sent expected.clientRequestId) :
    Change strict (fun _ => True) (· ≠ expected.clientRequestId) world
      (world.operated answers authority (.remove expected)) := by
  have hfits : Fits strict answers authority (.remove expected) world := by
    refine ⟨fun _ _ => nofun, fun row later hrow hlater => ?_, fun hstrict _ _ =>
      (hunsent hstrict).imp_left fun h => h.mono (List.subset_append_right _ _)⟩
    obtain ⟨row', hrow', hpart⟩ := removed_later hlater
    cases hrow.symm.trans hrow'
    exact .of_part hpart
  exact hfits.change hinv

theorem removed_quiet {expected : RecoveryRecordIdentity} (hinv : Inv strict world)
    (hreleased : strict → world.Released expected.clientRequestId) :
    Quiet strict world (world.operated answers authority (.remove expected)) := by
  have hpart : ∀ row later, world.row expected.clientRequestId = some row →
      (world.operated answers authority (.remove expected)).row expected.clientRequestId =
        some later → requestPart later = requestPart row := by
    intro row later hrow hlater
    obtain ⟨row', hrow', hpart⟩ := removed_later hlater
    cases hrow.symm.trans hrow'
    exact hpart
  have hgone : strict → (world.operated answers authority (.remove expected)).Released
      expected.clientRequestId :=
    fun hstrict => (hreleased hstrict).mono (List.subset_append_right _ _)
  have hfits : Fits strict answers authority (.remove expected) world :=
    ⟨fun _ _ => nofun, fun row later hrow hlater => .of_part (hpart row later hrow hlater),
      fun hstrict _ _ => .inl (hgone hstrict)⟩
  exact hfits.quiet hinv (fun row later hrow hlater => .inr (hpart row later hrow hlater))
    fun hstrict _ _ => hgone hstrict

end Operations

/-- A step that leaves the document alone and writes histories. -/
structure Noted (strict : Prop) (before after : World) : Prop where
  file : after.file = before.file
  inserted : after.inserted = before.inserted
  determined : after.determined = before.determined
  sent : before.sent ⊆ after.sent
  received : before.received ⊆ after.received
  replies : before.replies ⊆ after.replies
  released : before.released ⊆ after.released
  unrecorded : before.unrecorded ⊆ after.unrecorded
  recovered : ∀ record ∈ after.recovered,
    Bound record.clientRequestId record.serverTaskId before
  sends : ∀ creation ∈ after.sent, creation ∈ before.determined ∧
    (strict → before.row creation.key = none → after.Released creation.key)
  receives : ∀ receipt ∈ after.received, receipt.taskId ≠ "" ∧ after.Sent receipt.key
  oneId : strict → ∀ receipt ∈ after.received, ∀ other ∈ after.received,
    receipt.key = other.key → receipt.taskId = other.taskId
  justified : ∀ entry ∈ after.released, entry.2.Justified after entry.1

section Histories

variable {strict : Prop} {world before after : World} {key taskId : String}
  {creation : Creation} {threads : Nat → Prop}

theorem Noted.refl (hinv : Inv strict world) : Noted strict world world where
  file := rfl
  inserted := rfl
  determined := rfl
  sent := List.Subset.refl _
  received := List.Subset.refl _
  replies := List.Subset.refl _
  released := List.Subset.refl _
  unrecorded := List.Subset.refl _
  recovered := hinv.recovered
  sends creation hmem := ⟨hinv.sent creation hmem,
    fun hstrict => hinv.kept hstrict _ ⟨creation, hmem, rfl⟩⟩
  receives := hinv.received
  oneId := hinv.oneId
  justified := hinv.justified

theorem Noted.row (h : Noted strict before after) (key : String) :
    after.row key = before.row key := by
  rw [World.row, World.row, h.file]

theorem Noted.evolves (h : Noted strict before after) : Evolves before after where
  inserted := h.inserted ▸ List.Subset.refl _
  determined := h.determined ▸ List.Subset.refl _
  sent := h.sent
  received := h.received
  replies := h.replies
  released := h.released
  unrecorded := h.unrecorded
  absent key _ hnone := (h.row key).trans hnone
  row key row later hrow hlater := by
    rw [h.row key, hrow] at hlater
    cases hlater
    exact ⟨rfl, id⟩

theorem Noted.inv (h : Noted strict before after) (hinv : Inv strict before) :
    Inv strict after where
  sent creation hmem := h.determined ▸ (h.sends creation hmem).1
  determined := by
    rw [h.determined, h.inserted]
    exact hinv.determined
  payer := by
    simp only [h.determined, h.row]
    exact hinv.payer
  request := by
    simp only [h.determined, h.row]
    exact hinv.request
  recorded := by
    simp only [h.determined, h.row]
    exact hinv.recorded
  unique := by
    rw [h.determined]
    exact hinv.unique
  rows := by
    simp only [h.inserted, h.row]
    exact hinv.rows
  accepted key row hrow hne := (hinv.accepted key row (h.row key ▸ hrow) hne).mono h.received
  recovered record hmem := (h.recovered record hmem).evolves hinv h.evolves
  received := h.receives
  justified := h.justified
  kept hstrict key hsent hnone := by
    obtain ⟨creation, hmem, rfl⟩ := hsent
    exact (h.sends creation hmem).2 hstrict (h.row _ ▸ hnone)
  oneId := h.oneId

theorem Noted.change (h : Noted strict before after) (hinv : Inv strict before)
    (hnotes : ∀ thread, threads thread → after.notes thread = before.notes thread) :
    Change strict threads (fun _ => True) before after where
  inv := h.inv hinv
  evolves := h.evolves
  notes := hnotes
  frozen key _ _ := by
    refine ⟨fun hno => ⟨?_, fun later hlater => ⟨later, h.row key ▸ hlater, rfl⟩⟩,
      fun _ row hrow hnone => ?_⟩
    · rw [World.Determined, h.determined]
      exact hno
    · rw [h.row key, hrow] at hnone
      cases hnone

theorem Noted.quiet (h : Noted strict before after) (hinv : Inv strict before)
    (hnotes : ∀ thread, after.notes thread = before.notes thread) : Quiet strict before after :=
  h.change hinv fun thread _ => hnotes thread

/-- The cancelled set and the polling threads are nobody's business. -/
theorem unseen_quiet (hinv : Inv strict world) (cancelled : List String) (polling : List Nat) :
    Quiet strict world { world with cancelled := cancelled, polling := polling } :=
  Noted.quiet { Noted.refl hinv with } hinv fun _ => rfl

theorem recovered_quiet (hinv : Inv strict world) {recovered : List PendingGenerationRecord}
    (h : ∀ record ∈ recovered, Bound record.clientRequestId record.serverTaskId world) :
    Quiet strict world { world with recovered := recovered } :=
  Noted.quiet { Noted.refl hinv with recovered := h } hinv fun _ => rfl

theorem release_quiet (hinv : Inv strict world) {release : Release}
    (hjustified : release.Justified world key) :
    Quiet strict world (world.release key release) := by
  refine Noted.quiet { Noted.refl hinv with
    released := List.subset_cons_self _ _
    sends := fun creation hmem => ?_
    justified := List.forall_mem_cons.mpr ⟨hjustified, hinv.justified⟩ } hinv fun _ => rfl
  obtain ⟨hdetermined, hkept⟩ := (Noted.refl hinv).sends creation hmem
  exact ⟨hdetermined, fun hstrict hnone =>
    (hkept hstrict hnone).mono (List.subset_cons_self _ _)⟩

theorem noteReply_quiet (hinv : Inv strict world) (replay : Bool) (reply : Reply) :
    Quiet strict world (world.noteReply replay key reply) := by
  cases replay with
  | true => exact .refl hinv
  | false =>
    refine Noted.quiet { Noted.refl hinv with
      replies := List.subset_cons_self _ _
      justified := fun entry hmem => ?_ } hinv fun _ => rfl
    exact (hinv.justified entry hmem).mono (List.Subset.refl _) (List.subset_cons_self _ _)

/-- A failed write excuses its thread. -/
theorem settle_quiet (hinv : Inv strict world) (thread : Nat) (result : Except Failure Bool) :
    Quiet strict world (world.settle thread key result) := by
  cases result with
  | error failure =>
    exact Noted.quiet { Noted.refl hinv with unrecorded := List.subset_cons_self _ _ } hinv
      fun _ => rfl
  | ok written => exact .refl hinv

/-- A determined request is sent while its row is there or was let go. -/
theorem send_change (hinv : Inv strict world) (thread : Nat) (hmem : creation ∈ world.determined)
    (hkept : strict → world.row creation.key = none → world.Released creation.key) :
    Change strict (· ≠ thread) (fun _ => True) world { world with
      sent := creation :: world.sent
      senders := (thread, creation.key) :: world.senders } := by
  refine Noted.change { Noted.refl hinv with
    sent := List.subset_cons_self _ _
    sends := List.forall_mem_cons.mpr ⟨⟨hmem, hkept⟩, (Noted.refl hinv).sends⟩
    receives := fun receipt hreceipt => ⟨(hinv.received receipt hreceipt).1,
      (hinv.received receipt hreceipt).2.mono (List.subset_cons_self _ _)⟩ } hinv
    fun other hother => ?_
  simp [World.notes, Ne.symm hother]

/-- A received id is the only one of its key. -/
theorem receive_change (hinv : Inv strict world) (thread : Nat) (hne : taskId ≠ "")
    (hsent : world.Sent key)
    (hone : strict → ∀ old ∈ world.received, old.key = key → old.taskId = taskId) :
    Change strict (· ≠ thread) (fun _ => True) world
      { world with received := ⟨thread, key, taskId⟩ :: world.received } := by
  have hreceived : world.received ⊆ ⟨thread, key, taskId⟩ :: world.received :=
    List.subset_cons_self _ _
  refine Noted.change { Noted.refl hinv with
    received := hreceived
    receives := List.forall_mem_cons.mpr ⟨⟨hne, hsent⟩, hinv.received⟩
    oneId := fun hstrict old hmem other hmem' hkey => ?_
    justified := fun entry hmem =>
      (hinv.justified entry hmem).mono hreceived (List.Subset.refl _) } hinv
    fun other hother => ?_
  · rcases List.mem_cons.mp hmem with rfl | hold
    · rcases List.mem_cons.mp hmem' with rfl | hother
      · rfl
      · exact (hone hstrict other hother hkey.symm).symm
    · rcases List.mem_cons.mp hmem' with rfl | hother
      · exact hone hstrict old hold hkey
      · exact hinv.oneId hstrict old hold other hother hkey
  · simp [World.notes, Ne.symm hother]

end Histories

end ArtForgeStudio.Generation
