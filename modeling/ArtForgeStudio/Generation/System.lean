import ArtForgeStudio.Generation.Scan
import ArtForgeStudio.Library.Runs

/-! # The system of workers and scans

Any number of submitters, scans and resumed workers run over one document. Around them the
user cancels, delivered files are settled, and the client may be killed between any two
actions. An event whose condition fails changes nothing.
-/

namespace ArtForgeStudio.Generation

open ArtForgeStudio.Api ArtForgeStudio.Recovery ArtForgeStudio.KeyedRows ArtForgeStudio.Concurrency
  ArtForgeStudio.Outcome ArtForgeStudio.Runs

inductive Submitter where
  | generation
  | upscale
  | checked

structure Submission where
  submitter : Submitter
  authority : NamespaceStorageAuthority
  scope : BillingScope
  record : PendingGenerationRecord
  polls : Nat

namespace Submission

variable (submission : Submission)

def key : String := submission.record.clientRequestId

def op : GenerationOperation := .upsert submission.scope submission.record

/-- What the record of each submitter is built with. -/
def shaped : Bool :=
  submission.record.serverTaskId = "" &&
  match submission.submitter with
  | .generation =>
    submission.record.taskType = "image_generation" && submission.record.uploadedFileIds = []
  | .upscale =>
    submission.record.taskType = "image_upscale" && submission.record.uploadedFileIds = [] &&
      submission.record.referencePaths.length = 1
  | .checked =>
    submittedTypes.contains submission.record.taskType &&
      (submission.record.uploadedFileIds = [] || submission.record.referencePaths = [])

def worker (thread : Nat) : Action Unit :=
  match submission.submitter with
  | .generation => startBackendGenerationWorker thread submission.authority submission.scope
      submission.record submission.polls
  | .upscale => preparedUpscaleSubmissionRun thread submission.authority submission.scope
      submission.record submission.polls
  | .checked => runGenerationRecordChecked thread submission.authority (some submission.scope)
      submission.scope.session submission.record submission.polls

end Submission

/-- The row of a new submission is stored. -/
def World.started (world : World) (answers : StorageAnswers) (submission : Submission) : World :=
  { world.operated answers submission.authority submission.op with
    inserted := submission.key :: world.inserted }

section Starting

variable {strict : Prop} {world : World} {answers : StorageAnswers} {submission : Submission}
  {key : String} {thread : Nat}

theorem started_row_other (hne : key ≠ submission.key) :
    (world.started answers submission).row key = world.row key := operated_row_other hne

/-- Under a new key there is no row, or the new one. -/
theorem started_row (hinv : Inv strict world) (hnew : submission.key ∉ world.inserted) :
    (world.started answers submission).row submission.key = none ∨
      (world.started answers submission).row submission.key = some submission.record := by
  have hnone : world.row submission.key = none := by
    cases hrow : world.row submission.key with
    | none => rfl
    | some row => exact absurd (hinv.rows _ row hrow) hnew
  have hchange := operated_row world answers submission.authority submission.op
  have hkey : submission.op.key = submission.key := rfl
  rw [hkey, hnone] at hchange
  generalize hafter :
    (world.operated answers submission.authority submission.op).row submission.key = after
    at hchange
  have hstarted : (world.started answers submission).row submission.key = after := hafter
  rw [hstarted]
  cases hchange with
  | untouched => exact .inl rfl
  | upserted scope record before hop hsame =>
    cases hop
    exact .inr rfl

/-- A row was there before, or is the new one. -/
theorem row_of_started (hinv : Inv strict world) (hnew : submission.key ∉ world.inserted)
    {row : PendingGenerationRecord} (hrow : (world.started answers submission).row key = some row) :
    world.row key = some row ∨ key = submission.key ∧ row = submission.record := by
  by_cases hkey : key = submission.key
  · subst hkey
    have hcases : (world.started answers submission).row submission.key = none ∨
        (world.started answers submission).row submission.key = some submission.record :=
      started_row hinv hnew
    rcases hcases with hnone | hsome
    · cases hrow.symm.trans hnone
    · exact .inr ⟨rfl, Option.some.inj (hrow.symm.trans hsome)⟩
  · exact .inl ((started_row_other hkey).symm.trans hrow)

theorem mem_started_determined {creation : Creation}
    (h : creation ∈ (world.started answers submission).determined) :
    creation ∈ world.determined ∨ ∃ row,
      (world.started answers submission).row submission.key = some row ∧
        row.serverTaskId = "" ∧ rowRequest row = some creation := by
  rcases mem_operated_determined.mp h with hnew | hold
  · exact .inr (waitingRequest_eq_some.mp hnew)
  · exact .inl hold

/-- A request was determined before, and its row is untouched, or the new row determines it. -/
theorem determined_of_started (hinv : Inv strict world) (hnew : submission.key ∉ world.inserted)
    {creation : Creation} (hmem : creation ∈ (world.started answers submission).determined) :
    (creation ∈ world.determined ∧
      (world.started answers submission).row creation.key = world.row creation.key) ∨
    (creation.key = submission.key ∧ rowRequest submission.record = some creation) := by
  rcases mem_started_determined hmem with hmem | ⟨row, hrow, -, hrequest⟩
  · exact .inl ⟨hmem, started_row_other fun heq =>
      hnew (heq ▸ hinv.determined creation hmem)⟩
  · refine .inr ⟨(key_of_request hrequest).trans (clientRequestId_of_row hrow), ?_⟩
    rcases row_of_started hinv hnew hrow with hold | ⟨-, rfl⟩
    · exact absurd (hinv.rows _ row hold) hnew
    · exact hrequest

theorem started_evolves (hinv : Inv strict world) (hnew : submission.key ∉ world.inserted) :
    Evolves world (world.started answers submission) where
  inserted := List.subset_cons_self _ _
  determined := List.subset_append_right _ _
  sent := List.Subset.refl _
  received := List.Subset.refl _
  replies := List.Subset.refl _
  released := List.subset_append_right _ _
  unrecorded := List.Subset.refl _
  absent key hkey hnone := (started_row_other fun heq => hnew (heq ▸ hkey)).trans hnone
  row key row later hrow hlater := by
    rw [started_row_other fun heq => hnew (heq ▸ hinv.rows key row hrow), hrow] at hlater
    cases hlater
    exact ⟨rfl, id⟩

/-- The rows that were there before and the requests that they determined have other keys. -/
theorem started_inv (hinv : Inv strict world) (hnew : submission.key ∉ world.inserted)
    (hempty : submission.record.serverTaskId = "") :
    Inv strict (world.started answers submission) := by
  have hevolves : Evolves world (world.started answers submission) := started_evolves hinv hnew
  have hrecord : ∀ (creation : Creation) row, creation.key = submission.key →
      (world.started answers submission).row creation.key = some row → row = submission.record := by
    intro creation row hkey hrow
    rcases row_of_started hinv hnew hrow with hold | ⟨-, hsame⟩
    · exact absurd (hkey ▸ hinv.rows _ row hold) hnew
    · exact hsame
  refine {
    sent := fun creation hmem => hevolves.determined (hinv.sent creation hmem)
    determined := fun creation hmem => ?_
    payer := fun creation hmem row hrow => ?_
    request := fun creation hmem row hrow hwaiting => ?_
    recorded := fun key row creation hrow hwaiting hrequest => ?_
    unique := fun creation hmem other hother heq => ?_
    rows := fun key row hrow => ?_
    accepted := fun key row hrow hne => ?_
    recovered := fun record hmem => (hinv.recovered record hmem).evolves hinv hevolves
    received := hinv.received
    justified := fun entry hmem => ?_
    kept := fun hstrict key h hnone => ?_
    oneId := hinv.oneId }
  · rcases determined_of_started hinv hnew hmem with ⟨hold, -⟩ | ⟨hkey, -⟩
    · exact List.mem_cons_of_mem _ (hinv.determined creation hold)
    · exact hkey ▸ List.mem_cons_self
  · rcases determined_of_started hinv hnew hmem with ⟨hold, hsame⟩ | ⟨hkey, hrequest⟩
    · exact hinv.payer creation hold row (hsame ▸ hrow)
    · rw [hrecord creation row hkey hrow]
      exact (payer_of_request hrequest).symm
  · rcases determined_of_started hinv hnew hmem with ⟨hold, hsame⟩ | ⟨hkey, hrequest⟩
    · exact hinv.request creation hold row (hsame ▸ hrow) hwaiting
    · rw [hrecord creation row hkey hrow]
      exact hrequest
  · by_cases hkey : key = submission.key
    · subst hkey
      exact mem_operated_determined.mpr
        (.inl (waitingRequest_eq_some.mpr ⟨row, hrow, hwaiting, hrequest⟩))
    · rw [started_row_other hkey] at hrow
      exact hevolves.determined (hinv.recorded key row creation hrow hwaiting hrequest)
  · rcases determined_of_started hinv hnew hmem with ⟨hold, -⟩ | ⟨hkey, hrequest⟩ <;>
      rcases determined_of_started hinv hnew hother with ⟨hold', -⟩ | ⟨hkey', hrequest'⟩
    · exact hinv.unique creation hold other hold' heq
    · exact absurd (heq.trans hkey' ▸ hinv.determined creation hold) hnew
    · exact absurd (heq.symm.trans hkey ▸ hinv.determined other hold') hnew
    · exact Option.some.inj (hrequest.symm.trans hrequest')
  · rcases row_of_started hinv hnew hrow with hold | ⟨rfl, -⟩
    · exact List.mem_cons_of_mem _ (hinv.rows key row hold)
    · exact List.mem_cons_self
  · rcases row_of_started hinv hnew hrow with hold | ⟨-, rfl⟩
    · exact hinv.accepted key row hold hne
    · exact absurd hempty hne
  · rcases mem_operated_released hmem with hmem | ⟨dropped, rfl, hcomplete⟩
    · exact hinv.justified entry hmem
    · exact hcomplete
  · have hkey : key ∈ world.inserted := hinv.determined_inserted (hinv.sent_determined h)
    rw [started_row_other fun heq => hnew (heq ▸ hkey)] at hnone
    exact (hinv.kept hstrict key h hnone).mono hevolves.released

theorem started_quiet (hinv : Inv strict world) (hnew : submission.key ∉ world.inserted)
    (hempty : submission.record.serverTaskId = "") :
    Quiet strict world (world.started answers submission) where
  inv := started_inv hinv hnew hempty
  evolves := started_evolves hinv hnew
  notes _ _ := rfl
  frozen key hkey _ := by
    have hne : key ≠ submission.key := fun heq => hnew (heq ▸ hkey)
    refine ⟨fun hno => ⟨?_, fun later hlater => ⟨later, ?_, rfl⟩⟩, fun _ row hrow hnone => ?_⟩
    · rintro ⟨creation, hmem, rfl⟩
      rcases mem_started_determined hmem with hmem | ⟨row, hrow, -, hrequest⟩
      · exact hno ⟨creation, hmem, rfl⟩
      · exact hne ((key_of_request hrequest).trans (clientRequestId_of_row hrow))
    · exact (started_row_other hne).symm.trans hlater
    · rw [started_row_other hne, hrow] at hnone
      cases hnone

/-- The submitter of a stored row knows what it determines. -/
theorem started_tracks (hinv : Inv strict world) (hnew : submission.key ∉ world.inserted)
    (hempty : submission.record.serverTaskId = "")
    (hunsent : (thread, submission.key) ∉ world.senders)
    (hrow : (world.started answers submission).row submission.key = some submission.record) :
    Tracks thread submission.record (world.started answers submission) where
  inserted := List.mem_cons_self
  unsent := hunsent
  determined creation hrequest := mem_operated_determined.mpr
    (.inl (waitingRequest_eq_some.mpr ⟨_, hrow, hempty, hrequest⟩))
  part hopen := by
    refine ⟨?_, fun row hrow' => ?_⟩
    · rintro ⟨creation, hmem, hkey⟩
      rcases mem_started_determined hmem with hmem | ⟨row, hrow', -, hrequest⟩
      · have hkey' : creation.key = submission.key := hkey
        exact hnew (hkey' ▸ hinv.determined creation hmem)
      · cases hrow.symm.trans hrow'
        cases hopen.symm.trans hrequest
    · cases hrow.symm.trans hrow'
      rfl

/-- A stored row is for the payer of its scope, and its video request is its own. -/
theorem started_written
    (h : (submission.op.run answers submission.authority world.file).1 = .ok true) :
    (world.started answers submission).row submission.key = some submission.record ∧
      submission.record.billingAccountGroupId = submission.scope.accountGroupId ∧
      ∀ request, submission.record.videoRequest = some request →
        request.clientRequestId = submission.record.clientRequestId ∧
          request.taskType = submission.record.taskType := by
  rcases generationTable.upsert_cases answers submission.authority submission.scope
    submission.record world.file with ⟨failure, hfail⟩ | ⟨next, hok, hscope, hone, hlookup, -⟩
  · have herror :
        (submission.op.run answers submission.authority world.file).1 = .error failure := by
      simp only [Submission.op, GenerationOperation.run, upsertPendingGeneration, hfail]
      rfl
    cases herror.symm.trans h
  · have hfile : (submission.op.run answers submission.authority world.file).2 = some next := by
      simp only [Submission.op, GenerationOperation.run, upsertPendingGeneration, hok]
    refine ⟨?_, (RecoveryRecordIdentity.requireScope_ok.mp hscope).2.2.2,
      fun request hrequest => ?_⟩
    · have hrow : (world.started answers submission).row submission.key =
          generationTable.lookup (submission.op.run answers submission.authority world.file).2
            submission.key := rfl
      rw [hrow, hfile]
      exact hlookup
    · have hvalid := forM_eq_ok.mp hone.valid.extra submission.record (mem_of_find hlookup)
      simp only [validateVideoRequest, hrequest] at hvalid
      obtain ⟨-, -, hidentity⟩ := bind_eq_ok.mp hvalid
      exact ⟨(ensure_eq_ok.mp hidentity).1, (ensure_eq_ok.mp hidentity).2.1⟩

theorem worker_triple {own : Owner} (hkey : own.key = some submission.key)
    (hshaped : submission.shaped = true)
    (hpayer : submission.record.billingAccountGroupId = submission.scope.accountGroupId)
    (hvideo : ∀ request, submission.record.videoRequest = some request →
      request.clientRequestId = submission.record.clientRequestId ∧
        request.taskType = submission.record.taskType) :
    (discipline strict).Triple own (At strict (Tracking strict own.thread submission.record))
      (submission.worker own.thread) fun _ => At strict (Calm strict own.thread) := by
  obtain ⟨submitter, authority, scope, record, polls⟩ := submission
  simp only [Submission.shaped, Bool.and_eq_true, decide_eq_true_eq] at hshaped
  obtain ⟨hempty, hshape⟩ := hshaped
  cases submitter with
  | generation =>
    simp only [Bool.and_eq_true, decide_eq_true_eq] at hshape
    obtain ⟨htype, huploads⟩ := hshape
    exact startBackendGenerationWorker_triple hkey
      ⟨hempty, hpayer, by simp [htype, submittedTypes], hvideo⟩ htype huploads
  | upscale =>
    simp only [Bool.and_eq_true, decide_eq_true_eq] at hshape
    obtain ⟨⟨htype, huploads⟩, hreferences⟩ := hshape
    exact preparedUpscaleSubmissionRun_triple hkey
      ⟨hempty, hpayer, by simp [htype, submittedTypes], hvideo⟩ htype huploads hreferences
  | checked =>
    simp only [Bool.and_eq_true] at hshape
    obtain ⟨htype, huploads⟩ := hshape
    have hstart : Startable record := fun _ =>
      ⟨List.contains_iff_mem.mp htype, hvideo, by simpa using huploads⟩
    exact weaken (runGenerationRecordChecked_triple (fun _ => hkey) hstart) fun _ h =>
      ⟨h.1, fun _ => h.2, fun hne => absurd hempty hne⟩

end Starting

structure System where
  world : World := { file := none }
  pool : Pool Act World Answers Owner := []
  spawned : Nat := 0
  crashed : List Nat := []

inductive Event where
  | start (answers : StorageAnswers) (submission : Submission)
  | scan (authority : NamespaceStorageAuthority) (session : SessionScope)
  | resume (authority : NamespaceStorageAuthority) (session : SessionScope)
      (record : PendingGenerationRecord) (polls : Nat)
  /-- the cancellation of a running task -/
  | stop (authority : NamespaceStorageAuthority) (savedGroup : Option String) (key : String)
      (uploaded : List String) (serverTaskId : Option String)
  /-- a delivery, a retirement or a move to another login by other components -/
  | operate (answers : StorageAnswers) (authority : NamespaceStorageAuthority)
      (op : GenerationOperation)
  | cancel (key : String)
  | forgetCancellations
  /-- the next action of a thread -/
  | act (index : Nat) (answers : Answers)
  | crash

namespace System

def spawn (system : System) (key : Option String) (program : Nat → Action Unit) : System :=
  { system with
    pool := (⟨system.spawned, key⟩, program system.spawned) :: system.pool
    spawned := system.spawned + 1 }

def step : Event → System → System
  | .start answers submission, system =>
    if system.world.inserted.contains submission.key || !submission.shaped then system else
    let started := { system with world := system.world.started answers submission }
    if (submission.op.run answers submission.authority system.world.file).1 = .ok true then
      started.spawn (some submission.key) submission.worker
    else started
  | .scan authority session, system =>
    system.spawn none fun thread => recoverPendingGenerations thread authority session
  | .resume authority session record polls, system =>
    if system.world.recovered.contains record then
      system.spawn none fun thread =>
        runRecoveredGenerationWorker thread authority session record polls
    else system
  | .stop authority savedGroup key uploaded serverTaskId, system =>
    system.spawn none fun _ => do
      let _ ← cleanupCancelledGeneration authority savedGroup key uploaded serverTaskId
      pure ()
  | .operate answers authority op, system =>
    if keepsRequest op then { system with world := system.world.operated answers authority op }
    else system
  | .cancel key, system =>
    { system with world := { system.world with cancelled := key :: system.world.cancelled } }
  | .forgetCancellations, system =>
    { system with world := { system.world with cancelled := [] } }
  | .act index answers, system =>
    match system.pool[index]? with
    | none => system
    | some (own, program) =>
      let next := program.step answers system.world
      { system with world := next.2, pool := system.pool.set index (own, next.1) }
  | .crash, system =>
    { system with
      world := { system.world with cancelled := [], recovered := [] }
      pool := []
      crashed := system.pool.map (·.1.thread) ++ system.crashed }

def running (system : System) (thread : Nat) : Bool :=
  system.pool.any fun entry => entry.1.thread = thread && !entry.2.finished

end System

structure SystemInv (strict : Prop) (system : System) : Prop where
  world : Inv strict system.world
  sound : Pool.Sound (discipline strict) (fun own => At strict (Calm strict own.thread)) system.pool
    system.world
  threads : ∀ entry ∈ system.pool, entry.1.thread < system.spawned
  crashed : ∀ thread ∈ system.crashed, thread < system.spawned
  keys : ∀ entry ∈ system.pool, ∀ key, entry.1.key = some key → key ∈ system.world.inserted
  receipts : ∀ receipt ∈ system.world.received,
    receipt.thread ∈ system.crashed ∨ ∃ entry ∈ system.pool, entry.1.thread = receipt.thread
  senders : ∀ sender ∈ system.world.senders, sender.1 < system.spawned

/-- The server gives every task it accepts an id. -/
def Event.NamesTask : Event → Prop
  | .act _ answers => Generation.NamesTask answers
  | _ => True

/-- The next action of a thread loses no accepted task, and a running task is cancelled with an
id that the server named for its key. -/
def Event.Meets : Event → System → Prop
  | .act index answers, system => ∀ own program label, system.pool[index]? = some (own, program) →
      program.label? = some label → Generation.Meets own system.world answers label
  | .stop _ _ key _ serverTaskId, system => ∀ taskId, serverTaskId = some taskId → taskId ≠ "" →
      system.world.Named key taskId
  | _, _ => True

/-- What an event of a run, and of a strict one, grants. -/
def Event.Allowed (strict : Prop) : Event → System → Prop
  | .act index answers, system => ∀ own program label, system.pool[index]? = some (own, program) →
      program.label? = some label → Generation.Allowed strict own label system.world answers
  | .stop _ _ key _ serverTaskId, system => ∀ taskId, serverTaskId = some taskId → taskId ≠ "" →
      strict → system.world.Named key taskId
  | _, _ => True

section Systems

variable {strict : Prop} {system : System} {world : World} {event : Event} {events : List Event}

theorem Event.NamesTask.allowed (h : event.NamesTask) : event.Allowed False system := by
  cases event with
  | act index answers =>
    exact fun _ _ _ _ _ => ⟨fun creation detail _ => h creation detail, False.elim⟩
  | stop authority savedGroup key uploaded serverTaskId => exact fun _ _ _ => False.elim
  | _ => trivial

theorem Event.Meets.allowed (h : event.Meets system) : event.Allowed True system := by
  cases event with
  | act index answers =>
    intro own program label hget hlabel
    have hmeets := h own program label hget hlabel
    refine ⟨?_, fun _ => hmeets⟩
    rintro creation detail rfl
    exact hmeets.names detail
  | stop authority savedGroup key uploaded serverTaskId =>
    exact fun taskId htask hne _ => h taskId htask hne
  | _ => trivial

theorem Inv.start : Inv strict { file := none } where
  sent _ h := nomatch h
  determined _ h := nomatch h
  payer _ h := nomatch h
  request _ h := nomatch h
  recorded _ _ _ h := nomatch h
  unique _ h := nomatch h
  rows _ _ h := nomatch h
  accepted _ _ h := nomatch h
  recovered _ h := nomatch h
  received _ h := nomatch h
  justified _ h := nomatch h
  kept _ _ h := nomatch h
  oneId _ _ h := nomatch h

theorem SystemInv.start : SystemInv strict {} :=
  ⟨.start, .nil, nofun, nofun, nofun, nofun, nofun⟩

/-- A quiet step beside the threads. -/
theorem SystemInv.quiet (h : SystemInv strict system) (hquiet : Quiet strict system.world world)
    (hsenders : world.senders = system.world.senders) :
    SystemInv strict { system with world := world } where
  world := hquiet.inv
  sound := h.sound.rely fun _ _ _ => Quiet.change hquiet
  threads := h.threads
  crashed := h.crashed
  keys entry hmem key hkey := hquiet.evolves.inserted (h.keys entry hmem key hkey)
  receipts receipt hmem := h.receipts receipt (hquiet.received trivial receipt hmem rfl)
  senders := hsenders ▸ h.senders

/-- A thread that has received nothing is calm. -/
theorem SystemInv.fresh (h : SystemInv strict system) :
    Calm strict system.spawned system.world := by
  rintro - receipt hmem hthread
  rcases h.receipts receipt hmem with hcrashed | ⟨entry, hentry, heq⟩
  · exact absurd (h.crashed _ hcrashed) (hthread ▸ Nat.lt_irrefl _)
  · exact absurd (h.threads entry hentry) (by rw [heq, hthread]; exact Nat.lt_irrefl _)

theorem SystemInv.spawn {key : Option String} {program : Nat → Action Unit}
    {assertion : World → Prop} (h : SystemInv strict system)
    (hkey : ∀ name, key = some name → name ∈ system.world.inserted ∧
      ∀ entry ∈ system.pool, entry.1.key ≠ some name)
    (hprogram : (discipline strict).Triple ⟨system.spawned, key⟩ (At strict assertion)
      (program system.spawned) fun _ => At strict (Calm strict system.spawned))
    (hassertion : assertion system.world) : SystemInv strict (system.spawn key program) where
  world := h.world
  sound := by
    refine h.sound.spawn (hprogram _ ⟨h.world, hassertion⟩) fun entry hmem => ?_
    have hlt := h.threads entry hmem
    refine ⟨⟨fun heq => ?_, fun name hname heq => (hkey name heq).2 entry hmem hname⟩,
      ⟨fun heq => ?_, fun name hname => (hkey name hname).2 entry hmem⟩⟩
    · exact absurd hlt (heq ▸ Nat.lt_irrefl _)
    · exact absurd hlt (heq ▸ Nat.lt_irrefl _)
  threads := List.forall_mem_cons.mpr
    ⟨Nat.lt_succ_self _, fun entry hmem => Nat.lt_succ_of_lt (h.threads entry hmem)⟩
  crashed thread hmem := Nat.lt_succ_of_lt (h.crashed thread hmem)
  keys := List.forall_mem_cons.mpr ⟨fun name hname => (hkey name hname).1, h.keys⟩
  receipts receipt hmem := (h.receipts receipt hmem).imp_right
    fun ⟨entry, hentry, heq⟩ => ⟨entry, List.mem_cons_of_mem _ hentry, heq⟩
  senders sender hmem := Nat.lt_succ_of_lt (h.senders sender hmem)

theorem SystemInv.spawn_free {program : Nat → Action Unit} {assertion : World → Prop}
    (h : SystemInv strict system)
    (hprogram : (discipline strict).Triple ⟨system.spawned, none⟩ (At strict assertion)
      (program system.spawned) fun _ => At strict (Calm strict system.spawned))
    (hassertion : assertion system.world) : SystemInv strict (system.spawn none program) :=
  h.spawn (fun _ heq => nomatch heq) hprogram hassertion

/-- The next action of one thread. -/
theorem SystemInv.act (h : SystemInv strict system) {index : Nat} {own : Owner}
    {program : Action Unit} {answers : Answers}
    (hget : system.pool[index]? = some (own, program))
    (hallowed : ∀ label, program.label? = some label →
      Generation.Allowed strict own label system.world answers) :
    SystemInv strict { system with
      world := (program.step answers system.world).2
      pool := system.pool.set index (own, (program.step answers system.world).1) } := by
  obtain ⟨hguarantee, hsound⟩ := h.sound.step hget hallowed fun _ => .refl
  have hchange := hguarantee h.world
  have hmem := List.mem_of_getElem? hget
  have hset : ∀ entry ∈ system.pool.set index (own, (program.step answers system.world).1),
      ∃ old ∈ system.pool, old.1 = entry.1 := by
    intro entry hentry
    rcases List.mem_or_eq_of_mem_set hentry with hold | rfl
    · exact ⟨entry, hold, rfl⟩
    · exact ⟨_, hmem, rfl⟩
  have hkept : ∀ entry ∈ system.pool,
      ∃ new ∈ system.pool.set index (own, (program.step answers system.world).1),
        new.1 = entry.1 := by
    intro entry hentry
    obtain ⟨i, hi, rfl⟩ := List.getElem_of_mem hentry
    refine ⟨_, List.getElem_mem (by simpa using hi), ?_⟩
    rw [List.getElem_set]
    split
    · rename_i heq
      subst heq
      rw [List.getElem?_eq_getElem hi] at hget
      rw [Option.some.inj hget]
    · rfl
  refine ⟨hchange.inv, hsound, fun entry hentry => ?_, h.crashed, fun entry hentry => ?_,
    fun receipt hreceipt => ?_, fun sender hsender => ?_⟩
  · obtain ⟨old, hold, heq⟩ := hset entry hentry
    exact heq ▸ h.threads old hold
  · obtain ⟨old, hold, heq⟩ := hset entry hentry
    exact heq ▸ fun key hkey => hchange.evolves.inserted (h.keys old hold key hkey)
  · by_cases hthread : receipt.thread = own.thread
    · obtain ⟨new, hnew, heq⟩ := hkept _ hmem
      exact .inr ⟨new, hnew, by rw [heq, hthread]⟩
    · refine (h.receipts receipt (hchange.received hthread receipt hreceipt rfl)).imp_right ?_
      rintro ⟨entry, hentry, heq⟩
      obtain ⟨new, hnew, hsame⟩ := hkept entry hentry
      exact ⟨new, hnew, by rw [hsame, heq]⟩
  · by_cases hthread : sender.1 = own.thread
    · exact hthread ▸ h.threads _ hmem
    · exact h.senders sender ((hchange.senders hthread).mp hsender)

theorem SystemInv.crash (h : SystemInv strict system) :
    SystemInv strict (System.step .crash system) where
  world := Noted.inv { Noted.refl h.world with recovered := List.forall_mem_nil _ } h.world
  sound := .nil
  threads := nofun
  crashed thread hmem := by
    rcases List.mem_append.mp hmem with hmem | hmem
    · obtain ⟨entry, hentry, rfl⟩ := List.mem_map.mp hmem
      exact h.threads entry hentry
    · exact h.crashed thread hmem
  keys := nofun
  receipts receipt hmem := by
    refine .inl (List.mem_append.mpr ?_)
    rcases h.receipts receipt hmem with hcrashed | ⟨entry, hentry, heq⟩
    · exact .inr hcrashed
    · exact .inl (List.mem_map.mpr ⟨entry, hentry, heq⟩)
  senders := h.senders

theorem SystemInv.begin {answers : StorageAnswers} {submission : Submission}
    (h : SystemInv strict system) :
    SystemInv strict (System.step (.start answers submission) system) := by
  simp only [System.step]
  split
  · exact h
  rename_i hcond
  simp only [Bool.or_eq_true, Bool.not_eq_true', not_or, Bool.not_eq_false,
    List.contains_iff_mem] at hcond
  obtain ⟨hnew, hshaped⟩ := hcond
  have hempty : submission.record.serverTaskId = "" := by
    simp only [Submission.shaped, Bool.and_eq_true, decide_eq_true_eq] at hshaped
    exact hshaped.1
  have hstarted : SystemInv strict
      { system with world := system.world.started answers submission } :=
    h.quiet (started_quiet h.world hnew hempty) rfl
  have hunsent : (system.spawned, submission.key) ∉ system.world.senders :=
    fun hmem => Nat.lt_irrefl _ (h.senders _ hmem)
  split
  · rename_i hwritten
    obtain ⟨hrow, hpayer, hvideo⟩ := started_written hwritten
    refine hstarted.spawn ?_ (worker_triple rfl hshaped hpayer hvideo)
      ⟨hstarted.fresh, started_tracks h.world hnew hempty hunsent hrow⟩
    rintro _ ⟨⟩
    exact ⟨List.mem_cons_self, fun entry hmem heq => hnew (h.keys entry hmem _ heq)⟩
  · exact hstarted

/-- One event keeps the invariant of the system. -/
theorem SystemInv.step (h : SystemInv strict system) (hallowed : event.Allowed strict system) :
    SystemInv strict (System.step event system) := by
  cases event with
  | start answers submission => exact h.begin
  | scan authority session =>
    simp only [System.step]
    exact h.spawn_free (recoverPendingGenerations_triple rfl) h.fresh
  | resume authority session record polls =>
    simp only [System.step]
    split
    · rename_i hmem
      have hbound := h.world.recovered record (List.contains_iff_mem.mp hmem)
      exact h.spawn_free runRecoveredGenerationWorker_triple ⟨h.fresh, hbound⟩
    · exact h
  | stop authority savedGroup key uploaded serverTaskId =>
    simp only [System.step]
    have hassertion : Persistent strict ⟨system.spawned, none⟩ fun world =>
        Calm strict system.spawned world ∧ ∀ taskId, serverTaskId = some taskId → taskId ≠ "" →
          strict → world.Named key taskId :=
      Clear.persistent.and (.forall fun _ => .imp fun _ => .imp fun _ => .imp fun _ =>
        named_persistent)
    refine h.spawn_free (.bind (cleanupCancelledGeneration_triple hassertion
      fun taskId htask hne _ hat => hat.2 taskId htask hne) fun _ => ?_) ⟨h.fresh, hallowed⟩
    exact done Clear.persistent fun _ h => h.1
  | operate answers authority op =>
    simp only [System.step]
    split
    · rename_i hkeeps
      exact h.quiet (keeps_quiet h.world hkeeps) rfl
    · exact h
  | cancel key => exact h.quiet (unseen_quiet h.world _ system.world.polling) rfl
  | forgetCancellations => exact h.quiet (unseen_quiet h.world _ system.world.polling) rfl
  | act index answers =>
    simp only [System.step]
    split
    · exact h
    · rename_i own program hget
      exact h.act hget fun label => hallowed own program label hget
  | crash => exact h.crash

/-- Every run in which the server names the tasks it accepts keeps the invariant. -/
theorem systemInv_run (hnames : ∀ event ∈ events, event.NamesTask) :
    SystemInv False (run System.step events {}) :=
  run_invariant (SystemInv False) (fun _ _ h hevent => h.step hevent.allowed) .start
    (atEachStep_of_forall hnames)

end Systems

end ArtForgeStudio.Generation
