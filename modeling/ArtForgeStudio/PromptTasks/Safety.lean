import ArtForgeStudio.PromptTasks.Submission
import ArtForgeStudio.Library.Runs
import ArtForgeStudio.Recovery.Runs

/-! # Prompt tasks in any order of events

Tasks are started, recovered after a restart and cancelled, over one document. A thread of
`launch_prompt_record` that ends while its request is cancelled is followed by one of
`finish_prompt_cancellation`. An event whose condition fails changes nothing.
-/

namespace ArtForgeStudio.PromptTasks

open ArtForgeStudio.Api ArtForgeStudio.Recovery ArtForgeStudio.KeyedRows ArtForgeStudio.Concurrency
  ArtForgeStudio.Outcome ArtForgeStudio.Runs KeyState Parts

inductive PromptResultTarget where
  | composer (category input : String)
  | customPrompt (sessionId input : String) (appendResult : Bool)
  | canvasNode (id input : String)
  | video (sourceId input : String)

structure PromptTaskRequest where
  modelCode : String
  taskType : String
  prompt : String
  targetLanguage : Option String
  optimize : Bool
  target : PromptResultTarget
  referencePaths : List String

/-- The kind, the id, the category, the input and whether the result is appended. -/
def serializePromptTarget : PromptResultTarget → String × String × String × String × Bool
  | .composer category input => ("composer", "", category, input, false)
  | .customPrompt sessionId input appendResult =>
    ("custom_prompt", sessionId, "", input, appendResult)
  | .canvasNode id input => ("canvas_node", id, "", input, false)
  | .video sourceId input => ("video_prompt", sourceId, "", input, false)

def promptActivityKind (taskType : String) : PromptResultTarget → String
  | .video _ _ => "video_optimize"
  | .customPrompt _ _ _ =>
    if taskType = "prompt_translate" then "translate"
    else if taskType = "image_style_analysis" then "custom_style_analysis"
    else "optimize"
  | _ => if taskType = "prompt_translate" then "translate" else "optimize"

/-- The record of `start_backend_prompt_task_with_billing_scope`, under a new key. -/
def newPromptRecord (scope : BillingScope) (key : String) (createdAtEpochMs : Int)
    (task : PromptTaskRequest) : PendingPromptTaskRecord :=
  let (targetKind, targetId, targetCategory, targetInput, appendResult) :=
    serializePromptTarget task.target
  { createdAtEpochMs, clientRequestId := key, ownerUserId := scope.session.ownerUserId,
    billingAccountGroupId := scope.accountGroupId, authEpoch := scope.session.authEpoch,
    taskType := task.taskType, modelCode := task.modelCode, prompt := task.prompt,
    targetLanguage := task.targetLanguage, optimize := task.optimize, targetKind, targetId,
    targetCategory, targetInput, appendResult,
    activityKind := promptActivityKind task.taskType task.target,
    referencePaths := task.referencePaths, submissionStarted := false }

/-- A thread of `spawn_prompt_job`. Its result goes to the window. -/
def promptThread (worker : PromptWorker) {α : Type} (work : Fallible α) : Action Unit := do
  let _ ← (do worker.ensure; work : Fallible α).run
  pure ()

structure PromptJob where
  worker : PromptWorker
  /-- the record that the first thread was launched with -/
  expected : PendingPromptTaskRecord
  /-- the thread is one of `finish_prompt_cancellation` -/
  cancelling : Bool
  program : Action Unit

def PromptJob.key (job : PromptJob) : String := job.expected.clientRequestId

/-- The thread of a record, which the cancellation of its request stops. -/
def launched (worker : PromptWorker) (expected : PendingPromptTaskRecord)
    (work : PromptWorker → Fallible PromptTaskOutcome) : PromptJob :=
  let worker := { worker with requestId := some expected.clientRequestId }
  ⟨worker, expected, false, promptThread worker (work worker)⟩

/-- The thread that follows where the request was cancelled. -/
def PromptJob.cancellation (job : PromptJob) : PromptJob :=
  let worker := { job.worker with requestId := none }
  ⟨worker, job.expected, true, promptThread worker (runCancellation worker job.expected)⟩

structure System where
  world : World := {}
  jobs : List PromptJob := []
  /-- `cancelled_prompt_task_requests` -/
  cancelled : List String := []
  /-- the records that a recovery loaded and did not launch yet -/
  found : List (PromptWorker × PendingPromptTaskRecord) := []
  /-- every key whose result the window committed -/
  committed : List String := []
  /-- every key that the user cancelled -/
  stopped : List String := []

namespace System

variable (system : System)

/-- `active_prompt_task_requests`: the reservation ends with the first thread. -/
def active (key : String) : Bool := system.jobs.any fun job => !job.cancelling && job.key = key

def forget (key : String) : System := { system with cancelled := system.cancelled.filter (· ≠ key) }

end System

/-- What the window writes into the row of a result. -/
inductive ResultChange where
  | committed
  | applied
  | released
  deriving DecidableEq

def ResultChange.patch : ResultChange → PromptTaskRecoveryPatch
  | committed => .resultCommitted
  | applied => .appliedToTarget
  | released => .releaseCustomPromptResult

inductive Event where
  | start (worker : PromptWorker) (rounds : Nat) (payer key : String) (createdAtEpochMs : Int)
      (task : PromptTaskRequest)
  /-- `recover_pending_prompt_tasks` loads the rows. -/
  | recover (worker : PromptWorker) (readable : Bool)
  /-- A loaded record is launched. -/
  | launch (index rounds : Nat)
  | act (index : Nat) (answers : Answers)
  /-- The result of a thread arrives, in a window that is still current or not. -/
  | finish (index : Nat) (current spawned : Bool)
  /-- The user cancels a request. -/
  | cancel (key : String)
  | commit (authority : NamespaceStorageAuthority) (answers : StorageAnswers)
      (expected : RecoveryRecordIdentity) (change : ResultChange)
  | besides (authority : NamespaceStorageAuthority) (answers : StorageAnswers) (op : DeepOperation)
  /-- The client is killed. -/
  | crash

namespace System

def finish (system : System) (index : Nat) (job : PromptJob) (current spawned : Bool) : System :=
  let rest := { system with jobs := system.jobs.eraseIdx index }
  if !current then rest
  else if !job.cancelling && system.cancelled.contains job.key then
    if spawned then { system with jobs := system.jobs.set index job.cancellation } else rest
  else rest.forget job.key

def commit (system : System) (authority : NamespaceStorageAuthority) (answers : StorageAnswers)
    (expected : RecoveryRecordIdentity) (change : ResultChange) : System :=
  let op := PromptOperation.patch expected change.patch
  { system with
    world := system.world.operated answers authority op
    committed :=
      if change ≠ .applied ∧ (op.run answers authority system.world.file).1 = .ok true then
        expected.clientRequestId :: system.committed
      else system.committed }

def step (event : Event) (system : System) : System :=
  match event with
  | .start worker rounds payer key createdAtEpochMs task =>
    if system.world.stored.contains key || system.jobs.any (·.key = key) then system
    else
      let scope : BillingScope := ⟨worker.session, payer⟩
      let record := newPromptRecord scope key createdAtEpochMs task
      { system with
        jobs := launched worker record (runNewPrompt · rounds scope record) :: system.jobs }
  | .recover worker readable =>
    match loadPendingPromptTasks readable worker.authority system.world.file with
    | .error _ => system
    | .ok rows =>
      let rows := rows.filter fun row =>
        row.ownerUserId = worker.session.ownerUserId && validPendingPromptTask row
      { system with found := system.found ++ rows.map (worker, ·) }
  | .launch index rounds =>
    match system.found[index]? with
    | none => system
    | some (worker, record) =>
      let rest := { system with found := system.found.eraseIdx index }
      if system.active record.clientRequestId then rest
      else { rest with
        jobs := launched worker record (runPromptRecord · rounds none record) :: system.jobs }
  | .act index answers =>
    match system.jobs[index]? with
    | none => system
    | some job =>
      let next := job.program.step { answers with cancelled := system.cancelled } system.world
      { system with world := next.2, jobs := system.jobs.set index { job with program := next.1 } }
  | .finish index current spawned =>
    match system.jobs[index]? with
    | none => system
    | some job => if job.program.finished then system.finish index job current spawned else system
  | .cancel key =>
    { system with cancelled := key :: system.cancelled, stopped := key :: system.stopped }
  | .commit authority answers expected change => system.commit authority answers expected change
  | .besides authority answers op =>
    { system with world := system.world.besides answers authority op }
  | .crash => { system with jobs := [], cancelled := [], found := [] }

end System

abbrev runEvents (events : List Event) : System := run System.step events {}

/-- No thread has the key, a record that is not compared with its row is its row, and a record that
is replayed for its new login is marked as sent. -/
def Launchable (system : System) (worker : PromptWorker) (record : PendingPromptTaskRecord) : Prop :=
  (∀ job ∈ system.jobs, job.key ≠ record.clientRequestId) ∧
  (record.authEpoch = worker.session.authEpoch ∨ record.cancelRequested = true →
    (system.world.row record.clientRequestId).map (remapPromptTask worker.authority) = some record) ∧
  (record.cancelRequested = false → record.authEpoch ≠ worker.session.authEpoch →
    replaysRecord record = true → record.submissionStarted = true)

instance (system : System) (worker : PromptWorker) (record : PendingPromptTaskRecord) :
    Decidable (Launchable system worker record) :=
  inferInstanceAs (Decidable (_ ∧ _ ∧ _))

def Event.Meets : Event → System → Prop
  | .launch index _, system => ∀ found ∈ system.found[index]?,
      system.active found.2.clientRequestId = false → Launchable system found.1 found.2
  | _, _ => True

instance : ∀ (event : Event) (system : System), Decidable (event.Meets system)
  | .launch index _, system => inferInstanceAs (Decidable (∀ found ∈ system.found[index]?, _ → _))
  | .start .., _ | .recover .., _ | .act .., _ | .finish .., _ | .cancel _, _ | .commit .., _
  | .besides .., _ | .crash, _ => .isTrue trivial

def System.pool (system : System) : Pool Unit World Answers String :=
  system.jobs.map fun job => (job.key, job.program)

structure SystemInv (beside : Beside) (system : System) : Prop where
  good : (keys beside).AllGood system.world
  sound : Pool.Sound (keys beside).discipline (fun _ _ => True) system.pool system.world
  stopped : ∀ key ∈ system.cancelled, key ∈ system.stopped

/-- The histories of what the window and the user did only grow. -/
structure Grows (before after : System) : Prop where
  committed : ∀ key ∈ before.committed, key ∈ after.committed
  stopped : ∀ key ∈ before.stopped, key ∈ after.stopped

/-- All that happens beside the workers up to here. -/
structure Within (system : System) (beside : Beside) : Prop where
  committed : ∀ key ∈ system.committed, key ∈ beside.committed
  stopped : ∀ key ∈ system.stopped, key ∈ beside.cancelled

section Systems

variable {beside : Beside} {system before after : System} {key : String} {job : PromptJob}
  {event : Event}

theorem Grows.refl : Grows system system := ⟨fun _ => id, fun _ => id⟩

theorem Grows.trans {last : System} (h : Grows before after) (h' : Grows after last) :
    Grows before last :=
  ⟨fun key hmem => h'.committed key (h.committed key hmem),
    fun key hmem => h'.stopped key (h.stopped key hmem)⟩

theorem Within.of_grows (h : Within after beside) (hgrows : Grows before after) :
    Within before beside :=
  ⟨fun key hmem => h.committed key (hgrows.committed key hmem),
    fun key hmem => h.stopped key (hgrows.stopped key hmem)⟩

theorem finish_keeps {index : Nat} {current spawned : Bool} :
    let later := system.finish index job current spawned
    later.world = system.world ∧ later.committed = system.committed ∧
      later.stopped = system.stopped := by
  unfold System.finish
  dsimp only
  split
  · exact ⟨rfl, rfl, rfl⟩
  split
  · split
    · exact ⟨rfl, rfl, rfl⟩
    · exact ⟨rfl, rfl, rfl⟩
  · exact ⟨rfl, rfl, rfl⟩

theorem finish_grows {index : Nat} {current spawned : Bool} :
    Grows system (system.finish index job current spawned) := by
  obtain ⟨-, hcommitted, hstopped⟩ := @finish_keeps system job index current spawned
  exact ⟨fun _ hmem => hcommitted.symm ▸ hmem, fun _ hmem => hstopped.symm ▸ hmem⟩

theorem step_grows : Grows system (System.step event system) := by
  cases event with
  | start | recover | act =>
    simp only [System.step]
    split
    · exact .refl
    · exact ⟨fun _ => id, fun _ => id⟩
  | launch index rounds =>
    simp only [System.step]
    split
    · exact .refl
    split
    · exact ⟨fun _ => id, fun _ => id⟩
    · exact ⟨fun _ => id, fun _ => id⟩
  | finish index current spawned =>
    simp only [System.step]
    split
    · exact .refl
    split
    · exact finish_grows
    · exact .refl
  | cancel key => exact ⟨fun _ => id, fun _ => List.mem_cons_of_mem _⟩
  | commit authority answers expected change =>
    refine ⟨fun key hmem => ?_, fun _ => id⟩
    simp only [System.step, System.commit]
    split
    · exact List.mem_cons_of_mem _ hmem
    · exact hmem
  | besides | crash => exact ⟨fun _ => id, fun _ => id⟩

theorem run_grows (events : List Event) : Grows system (run System.step events system) := by
  induction events generalizing system with
  | nil => exact .refl
  | cons event events ih => exact step_grows.trans ih

theorem SystemInv.start : SystemInv beside {} where
  good key := by
    have hrow : (World.part beside key {}).row = none := rfl
    have hsent : (World.part beside key {}).sent = [] := rfl
    refine ⟨?_, ?_, ?_, ?_, fun _ hne => absurd hsent hne⟩
    · exact fun row hthere => nomatch hrow.symm.trans hthere
    · exact fun row hthere => nomatch hrow.symm.trans hthere
    · exact fun request hmem => nomatch hsent ▸ hmem
    · exact fun request hmem => nomatch hsent ▸ hmem
  sound := .nil
  stopped := nofun

theorem promptThread_judges {P : KeyState → Prop} {worker : PromptWorker} {α : Type}
    {work : Fallible α} (h : (keys beside).Tries key P work (fun _ _ => True) fun _ _ => True) :
    (keys beside).Judges key P (promptThread worker work) fun _ _ => True := by
  refine Judges.bind (Tries.bind (quiet_tries _) fun _ => h) fun _ => ?_
  exact .done fun _ _ _ => trivial

/-- A thread is safe in the state that it starts in. -/
theorem SystemInv.safe (h : SystemInv beside system) {P : KeyState → Prop}
    {program : Action Unit} (hprogram : (keys beside).Judges key P program fun _ _ => True)
    (hat : P (system.world.part beside key)) :
    (keys beside).discipline.Safe key program (fun _ _ => True) system.world :=
  (hprogram _ ⟨h.good key, hat⟩).mono fun _ _ _ => trivial

/-- A thread may start under a key that no thread has. -/
theorem SystemInv.spawn (h : SystemInv beside system)
    (hfree : ∀ other ∈ system.jobs, other.key ≠ job.key)
    (hsafe : (keys beside).discipline.Safe job.key job.program (fun _ _ => True) system.world) :
    Pool.Sound (keys beside).discipline (fun _ _ => True)
      ((job.key, job.program) :: system.pool) system.world := by
  refine h.sound.spawn hsafe fun thread hmem => ?_
  obtain ⟨other, hother, rfl⟩ := List.mem_map.mp hmem
  exact ⟨(hfree other hother).symm, hfree other hother⟩

theorem cancellation_judges (hcancelled : job.key ∈ beside.cancelled) :
    (keys beside).Judges job.key (fun _ => True) job.cancellation.program fun _ _ => True :=
  promptThread_judges (runCancellation_tries rfl hcancelled)

/-- What the window writes is no part of a row. -/
theorem core_change {change : ResultChange} {row : PendingPromptTaskRecord}
    (h : change ≠ .applied → row.clientRequestId ∈ beside.committed) :
    core beside (change.patch.written row) = core beside row := by
  cases change with
  | applied => rfl
  | committed | released =>
    simp [core, ResultChange.patch, PromptTaskRecoveryPatch.written, h (by simp)]

theorem commit_parts {authority : NamespaceStorageAuthority} {answers : StorageAnswers}
    {expected : RecoveryRecordIdentity} {change : ResultChange} (h : SystemInv beside system)
    (hwithin : Within (system.commit authority answers expected change) beside) :
    ∀ key, (system.commit authority answers expected change).world.part beside key =
      system.world.part beside key := by
  intro key
  obtain ⟨op, hop⟩ : ∃ op, op = PromptOperation.patch expected change.patch := ⟨_, rfl⟩
  change World.part beside key
    (system.world.operated answers authority (.patch expected change.patch)) = _
  rw [← hop]
  by_cases hkey : key = op.identity.clientRequestId
  · subst hkey
    have hkept := edit_lookup (h.good op.identity.clientRequestId)
    have hedited : RowEdited promptTable op.identity op.edited system.world.file
        (op.run answers authority system.world.file) := PromptOperation.run_edited (by simp [hop])
    rw [part_operated rfl]
    rcases hedited.row with ⟨-, hsame⟩ | ⟨hresult, row, hrow, -, hafter⟩
    · rwa [hsame]
    · have hwritten : change ≠ .applied → row.clientRequestId ∈ beside.committed := by
        intro hne
        rw [show row.clientRequestId = op.identity.clientRequestId from key_of_find hrow]
        rw [hop] at hresult
        refine hwithin.committed _ ?_
        simp [System.commit, hne, hresult, hop, PromptOperation.identity]
      rw [hrow] at hkept
      rw [hafter]
      refine Eq.trans ?_ hkept
      simp only [KeyState.edit, hop, PromptOperation.edited, Option.map_some, core_change hwritten,
        Option.isSome_some]
  · exact part_operated_other hkey

theorem newPromptRecord_new (scope : BillingScope) (key : String) (createdAtEpochMs : Int)
    (task : PromptTaskRequest) : New key (newPromptRecord scope key createdAtEpochMs task) :=
  ⟨rfl, rfl, rfl, rfl, rfl, rfl⟩

theorem start_safe (h : SystemInv beside system) {worker : PromptWorker} {rounds : Nat}
    {payer : String} {createdAtEpochMs : Int} {task : PromptTaskRequest}
    (hnew : system.world.stored.contains key = false) :
    let record := newPromptRecord ⟨worker.session, payer⟩ key createdAtEpochMs task
    (keys beside).discipline.Safe key
      (launched worker record (runNewPrompt · rounds ⟨worker.session, payer⟩ record)).program
      (fun _ _ => True) system.world :=
  h.safe (promptThread_judges (runNewPrompt_tries (newPromptRecord_new _ _ _ _) rfl rfl)) hnew

theorem launch_safe (h : SystemInv beside system) {worker : PromptWorker} {rounds : Nat}
    {record : PendingPromptTaskRecord} (hlaunch : Launchable system worker record) :
    (keys beside).discipline.Safe record.clientRequestId
      (launched worker record (runPromptRecord · rounds none record)).program (fun _ _ => True)
      system.world := by
  obtain ⟨-, hcurrent, hmarked⟩ := hlaunch
  refine h.safe (promptThread_judges runPromptRecord_tries) ⟨rfl, nofun, fun hsame => ?_, hmarked⟩
  obtain ⟨row, hrow, hremapped⟩ := Option.map_eq_some_iff.mp (hcurrent hsame)
  have hcore : core beside record = core beside row := by rw [← hremapped, core_remap]
  exact (congrArg (Option.map (core beside)) hrow).trans (congrArg some hcore.symm)

theorem pool_get {index : Nat} (hget : system.jobs[index]? = some job) :
    system.pool[index]? = some (job.key, job.program) := by
  simp [System.pool, hget]

/-- A job in the place of another with the same key. -/
theorem SystemInv.replace (h : SystemInv beside system) {index : Nat} {next : PromptJob}
    {world : World} (hkey : next.key = job.key) (hgood : (keys beside).AllGood world)
    (hset : Pool.Sound (keys beside).discipline (fun _ _ => True)
      (system.pool.set index (job.key, next.program)) world) :
    SystemInv beside { system with world := world, jobs := system.jobs.set index next } := by
  refine ⟨hgood, ?_, h.stopped⟩
  unfold System.pool
  rw [List.map_set, hkey]
  exact hset

theorem SystemInv.act (h : SystemInv beside system) {index : Nat} {answers : Answers}
    (hget : system.jobs[index]? = some job) :
    let next := job.program.step answers system.world
    SystemInv beside { system with
      world := next.2, jobs := system.jobs.set index { job with program := next.1 } } ∧
    (keys beside).AllMove system.world next.2 := by
  intro next
  have hstep : (keys beside).Touches job.key system.world next.2 ∧ Pool.Sound (keys beside).discipline
      (fun _ _ => True) (system.pool.set index (job.key, next.1)) next.2 :=
    h.sound.step (pool_get hget) (fun _ _ => trivial) fun _ => .refl
  exact ⟨h.replace rfl (hstep.1.allGood h.good) hstep.2, hstep.1.allMove h.good⟩

/-- A thread that follows another has its key. -/
theorem SystemInv.finish (h : SystemInv beside system) {index : Nat} {current spawned : Bool}
    (hget : system.jobs[index]? = some job) (hwithin : Within system beside) :
    SystemInv beside (system.finish index job current spawned) := by
  have hrest : SystemInv beside { system with jobs := system.jobs.eraseIdx index } :=
    ⟨h.good, h.sound.sublist ((List.eraseIdx_sublist _ _).map _), h.stopped⟩
  unfold System.finish
  dsimp only
  split
  · exact hrest
  split
  · next hcancelled =>
    obtain ⟨-, hcontains⟩ := Bool.and_eq_true_iff.mp hcancelled
    have hown := hwithin.stopped _ (h.stopped _ (List.contains_iff_mem.mp hcontains))
    split
    · have hsafe := h.safe (cancellation_judges hown) trivial
      have hkey : job.cancellation.key = job.key := rfl
      exact h.replace hkey h.good (h.sound.set (pool_get hget) hsafe fun _ _ => rfl)
    · exact hrest
  · exact ⟨h.good, hrest.sound, fun key hmem => h.stopped key (List.mem_filter.mp hmem).1⟩

theorem SystemInv.step (h : SystemInv beside system) (hmeets : event.Meets system)
    (hwithin : Within (System.step event system) beside) :
    SystemInv beside (System.step event system) ∧
      (keys beside).AllMove system.world (System.step event system).world := by
  have hstay : (keys beside).AllMove system.world system.world := fun _ => .of_row rfl rfl
  have hbefore := hwithin.of_grows step_grows
  cases event with
  | start worker rounds payer key createdAtEpochMs task =>
    simp only [System.step]
    split
    · exact ⟨h, hstay⟩
    · next hnew =>
      obtain ⟨hstored, hjobs⟩ := Bool.or_eq_false_iff.mp (Bool.not_eq_true _ ▸ hnew)
      refine ⟨⟨h.good, h.spawn (fun other hother heq => ?_) (start_safe h hstored), h.stopped⟩, hstay⟩
      exact List.any_eq_false.mp hjobs other hother (decide_eq_true heq)
  | recover worker readable =>
    simp only [System.step]
    split
    · exact ⟨h, hstay⟩
    · exact ⟨⟨h.good, h.sound, h.stopped⟩, hstay⟩
  | launch index rounds =>
    simp only [System.step]
    split
    · exact ⟨h, hstay⟩
    · next worker record hfound =>
      split
      · exact ⟨⟨h.good, h.sound, h.stopped⟩, hstay⟩
      · next hactive =>
        have hlaunch : Launchable system worker record :=
          hmeets (worker, record) hfound (by simpa using hactive)
        exact ⟨⟨h.good, h.spawn hlaunch.1 (launch_safe h hlaunch), h.stopped⟩, hstay⟩
  | act index answers =>
    simp only [System.step]
    split
    · exact ⟨h, hstay⟩
    · next job hget => exact h.act hget
  | finish index current spawned =>
    simp only [System.step]
    split
    · exact ⟨h, hstay⟩
    · next job hget =>
      split
      · exact ⟨h.finish hget hbefore, finish_keeps.1.symm ▸ hstay⟩
      · exact ⟨h, hstay⟩
  | cancel key =>
    refine ⟨⟨h.good, h.sound, fun other hmem => ?_⟩, hstay⟩
    exact (List.mem_cons.mp hmem).elim (fun heq => heq ▸ List.mem_cons_self)
      fun hold => List.mem_cons_of_mem _ (h.stopped other hold)
  | commit authority answers expected change =>
    have hparts := commit_parts h hwithin
    have htouches : (keys beside).Touches expected.clientRequestId system.world
        (system.commit authority answers expected change).world := .of_parts hparts
    exact ⟨⟨htouches.allGood h.good, h.sound.rely fun thread _ => hparts thread.1, h.stopped⟩,
      htouches.allMove h.good⟩
  | besides authority answers op =>
    have hparts : ∀ key, (system.world.besides answers authority op).part beside key =
        system.world.part beside key := fun _ => part_besides op
    have htouches : (keys beside).Touches op.identity.clientRequestId system.world
        (system.world.besides answers authority op) := .of_parts hparts
    exact ⟨⟨htouches.allGood h.good, h.sound.rely fun thread _ => hparts thread.1, h.stopped⟩,
      htouches.allMove h.good⟩
  | crash => exact ⟨⟨h.good, .nil, nofun⟩, hstay⟩

/-- Every state of a run is good, and every part moves as it may. -/
theorem systemInv_run (events : List Event) (h : SystemInv beside system)
    (hmeets : AtEachStep System.step Event.Meets events system)
    (hwithin : Within (run System.step events system) beside) :
    SystemInv beside (run System.step events system) ∧
      (keys beside).AllMove system.world (run System.step events system).world := by
  induction events generalizing system with
  | nil => exact ⟨h, fun _ => .of_row rfl rfl⟩
  | cons event events ih =>
    obtain ⟨hstep, hmoves⟩ := h.step hmeets.1 (hwithin.of_grows (run_grows events))
    obtain ⟨hrun, hmoves'⟩ := ih hstep hmeets.2 hwithin
    exact ⟨hrun, fun key => (hmoves key).trans (hmoves' key)⟩

end Systems

/-- The server named a task of the key and reported it to be at its end. -/
def EndReported (world : World) (key : String) : Prop :=
  ∃ named ∈ world.reports, named.key = key ∧ named.creation = true ∧
    ∃ report ∈ world.reports, report.key = key ∧ report.detail.id = named.detail.id ∧
      report.detail.terminal = true

/-- A request that was sent has its row, or it was ended or committed. -/
def AccountedFor (system : System) (request : PromptRequest) : Prop :=
  (system.world.row request.key).isSome = true ∨ EndReported system.world request.key ∨
    request.key ∈ system.committed

/-- A result stays in its row, and the row stays until the result was committed or the user
cancelled. -/
def ResultKept (before after : System) : Prop :=
  ∀ key row, before.world.row key = some row → row.resultPrompt ≠ "" →
    (∃ later, after.world.row key = some later ∧ later.resultPrompt = row.resultPrompt) ∨
    after.world.row key = none ∧ (key ∈ after.committed ∨ key ∈ after.stopped)

theorem endReported_of_ended {world : World} {key : String}
    (h : Ended (world.reports.filter (·.key = key))) : EndReported world key := by
  obtain ⟨report, hreport, hterminal, named, hnamed, hcreation, hid⟩ := h
  obtain ⟨hreport, hkey⟩ := List.mem_filter.mp hreport
  obtain ⟨hnamed, hkey'⟩ := List.mem_filter.mp hnamed
  exact ⟨named, hnamed, of_decide_eq_true hkey', hcreation, report, hreport, of_decide_eq_true hkey,
    hid.symm, hterminal⟩

/-- What happened beside the workers in a run. -/
def System.beside (system : System) : Beside := ⟨system.committed, system.stopped⟩

theorem System.within_beside (system : System) : Within system system.beside :=
  ⟨fun _ => id, fun _ => id⟩

theorem mem_part_sent {world : World} {request : PromptRequest} {beside : Beside}
    (h : request ∈ world.sent) : request ∈ (world.part beside request.key).sent :=
  List.mem_filter.mpr ⟨h, decide_eq_true rfl⟩

theorem SystemInv.accountedFor {system : System} (h : SystemInv system.beside system)
    {request : PromptRequest} (hmem : request ∈ system.world.sent) : AccountedFor system request := by
  cases hrow : system.world.row request.key with
  | some row => exact .inl (Option.isSome_iff_exists.mpr ⟨row, hrow⟩)
  | none =>
    have hcore : (system.world.part system.beside request.key).row = none :=
      congrArg (Option.map (core system.beside)) hrow
    have hsent : (system.world.part system.beside request.key).sent ≠ [] :=
      List.ne_nil_of_mem (mem_part_sent hmem)
    exact .inr (((h.good request.key).released hcore hsent).imp_left endReported_of_ended)

theorem SystemInv.resultKept {before after : System} (h : SystemInv after.beside before)
    (hmoves : (keys after.beside).AllMove before.world after.world) : ResultKept before after := by
  intro key row hrow hresult
  have hcore : (before.world.part after.beside key).row = some (core after.beside row) :=
    congrArg (Option.map (core after.beside)) hrow
  have hstored := (h.good key).stored _ hcore
  cases hlater : after.world.row key with
  | some later =>
    obtain ⟨saved, hsaved, hsame⟩ := (hmoves key).row hstored (core after.beside later)
      (congrArg (Option.map (core after.beside)) hlater)
    cases hcore.symm.trans hsaved
    exact .inl ⟨later, rfl, hsame hresult⟩
  | none =>
    exact .inr ⟨rfl, (hmoves key).dropped hstored _ hcore hresult
      (congrArg (Option.map (core after.beside)) hlater)⟩

/-- Where every launch meets its condition, the requests with one key are one request, a request that
was sent is accounted for, and a result stays until it is committed or cancelled. -/
theorem prompt_tasks_consistent (before rest : List Event)
    (h : AtEachStep System.step Event.Meets (before ++ rest) {}) :
    (∀ request ∈ (runEvents (before ++ rest)).world.sent,
      AccountedFor (runEvents (before ++ rest)) request ∧
        ∀ other ∈ (runEvents (before ++ rest)).world.sent,
          other.key = request.key → other = request) ∧
    ResultKept (runEvents before) (runEvents (before ++ rest)) := by
  obtain ⟨hbefore, hrest⟩ := atEachStep_append.mp h
  have hsplit : runEvents (before ++ rest) = run System.step rest (runEvents before) :=
    run_append _ before rest _
  rw [hsplit]
  have hwithin := (run System.step rest (runEvents before)).within_beside
  obtain ⟨hmiddle, -⟩ := systemInv_run before .start hbefore (hwithin.of_grows (run_grows rest))
  obtain ⟨hend, hmoves⟩ := systemInv_run rest hmiddle hrest hwithin
  refine ⟨fun request hmem => ⟨hend.accountedFor hmem, fun other hother hkey => ?_⟩,
    hmiddle.resultKept hmoves⟩
  exact (hend.good request.key).unique other (hkey ▸ mem_part_sent hother) request
    (mem_part_sent hmem)

-- A task is created, and the client is killed twice: after its first request, and before it.
def workerOf (epoch : Nat) : PromptWorker := ⟨loginOf epoch, (payerScope epoch).session, none⟩

def optimization : PromptTaskRequest where
  modelCode := "model"
  taskType := "prompt_optimize"
  prompt := "a tree"
  targetLanguage := none
  optimize := true
  target := .canvasNode "node" "a tree"
  referencePaths := []

/-- The requests leave the client and are not answered. -/
def unanswered : Answers where
  scope := true
  readable := true
  storage := .faultFree
  owned := true
  source := .ok ("", 0)
  upload := .ok "file"
  admission := .ok ()
  token := .ok ()
  post := .ok ()
  reply := .error (.network "" true)
  task := .error (.network "" true)
  command := .ok ()

def answered : Answers :=
  let detail : PromptTaskDetail :=
    { id := "task", status := "completed", successCount := 1,
      billingAccountGroupId := (payerScope 1).accountGroupId, resultPrompt := some "an old tree" }
  { unanswered with reply := .ok { detail with status := "queued" }, task := .ok detail }

/-- The thread is killed after so many actions, and the user signs in again. -/
def killedAfter (count : Nat) : List Event :=
  .start (workerOf 1) 2 (payerScope 1).accountGroupId "key" 0 optimization ::
    (List.replicate count (.act 0 unanswered) ++ [.crash, .recover (workerOf 2) true, .launch 0 2])

theorem answered_after_restart :
    let before := killedAfter 11 ++ List.replicate 22 (.act 0 answered)
    let rest := [.finish 0 true true, .crash]
    (runEvents (before ++ rest)).world.sent.map (·.key) = ["key", "key"] ∧
      (∀ request ∈ (runEvents (before ++ rest)).world.sent,
        AccountedFor (runEvents (before ++ rest)) request ∧
          ∀ other ∈ (runEvents (before ++ rest)).world.sent,
            other.key = request.key → other = request) ∧
      ResultKept (runEvents before) (runEvents (before ++ rest)) :=
  ⟨by decide +kernel, prompt_tasks_consistent _ _ (by decide +kernel)⟩

/-- The task is replayed for its new login, and the user cancels it before the answer: its row is
removed, and the server was asked nothing about the task. -/
def cancelledReplay : List Event :=
  killedAfter 3 ++ (List.replicate 9 (.act 0 unanswered) ++ (.cancel "key" ::
    .act 0 unanswered :: .finish 0 true true :: List.replicate 8 (.act 0 unanswered)))

theorem cancelled_replay_abandoned :
    ¬∀ events, ∀ request ∈ (runEvents events).world.sent,
      AccountedFor (runEvents events) request := by
  intro h
  have hend : (runEvents cancelledReplay).world.sent.map (·.key) = ["key"] ∧
      (runEvents cancelledReplay).world.row "key" = none ∧
      (runEvents cancelledReplay).world.reports = [] ∧
      (runEvents cancelledReplay).committed = [] := by
    decide +kernel
  obtain ⟨hsent, hrow, hreports, hcommitted⟩ := hend
  obtain ⟨request, hmem, hkey⟩ : ∃ request ∈ (runEvents cancelledReplay).world.sent,
      request.key = "key" := List.mem_map.mp (hsent ▸ List.mem_singleton.mpr rfl)
  rcases h cancelledReplay request hmem with hthere | ⟨named, hnamed, -⟩ | hown
  · rw [hkey, hrow] at hthere
    cases hthere
  · rw [hreports] at hnamed
    cases hnamed
  · rw [hcommitted] at hown
    cases hown

end ArtForgeStudio.PromptTasks
