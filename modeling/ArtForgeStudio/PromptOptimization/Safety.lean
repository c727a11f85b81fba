import ArtForgeStudio.PromptOptimization.Acceptance
import ArtForgeStudio.Library.OwnedRows
import ArtForgeStudio.Library.Runs

/-! # One unresolved request

Workers run one after the other over the document of a user, and the client may be killed between
any two actions. An event whose condition fails changes nothing.
-/

namespace ArtForgeStudio.PromptOptimization

open ArtForgeStudio.Api ArtForgeStudio.Recovery ArtForgeStudio.KeyedRows ArtForgeStudio.Concurrency
  ArtForgeStudio.Outcome ArtForgeStudio.Runs DeepState Parts

/-- The thread of `spawn_deep_job`. -/
def deepThread {user : String} (work : Fallible user (Option PromptOptimizationDetail)) :
    Action user Unit := do
  let _ ← (do ensureActive; work : Fallible user (Option PromptOptimizationDetail)).run
  pure ()

structure System (user : String) where
  world : World user
  worker : Option (Action user Unit) := none

def System.start (user : String) : System user :=
  { world := { file := none, valid := (absent_valid user).prompts } }

variable {user : String}

/-- The marker of `prompt_optimization_polling`: there is one worker at a time. -/
def System.spawn (work : Fallible user (Option PromptOptimizationDetail)) (system : System user) :
    System user :=
  match system.worker with
  | some _ => system
  | none => { system with worker := some (deepThread work) }

inductive Event (user : String) where
  /-- The keys of new requests are new. -/
  | start (worker : DeepWorker user) (billing : Except ApiError BillingScope)
      (request : CreatePromptOptimization)
  | retry (worker : DeepWorker user) (billing : Except ApiError BillingScope)
      (sourceJobId key : String)
  /-- Polling and the buttons of a job that is shown. -/
  | request (worker : DeepWorker user) (id : String)
  | recover (worker : DeepWorker user)
  | act (answers : Answers)
  | join
  /-- The window closes a row. -/
  | dismiss (authority : UserAuthority user) (answers : StorageAnswers)
      (expected : RecoveryRecordIdentity) (readable : Bool) (serverJobId : String)
  /-- A task of another kind writes its row. -/
  | besides (authority : UserAuthority user) (answers : StorageAnswers) (op : PromptOperation)
  | crash

def System.step (event : Event user) (system : System user) : System user :=
  match event with
  | .start worker billing request =>
    if (system.world.row request.clientRequestId).isSome then system
    else system.spawn (startPromptOptimization worker billing request)
  | .retry worker billing sourceJobId key =>
    if (system.world.row key).isSome then system
    else system.spawn (retryPromptOptimization worker billing sourceJobId key)
  | .request worker id => if id = "" then system else system.spawn (runPromptRequest worker id)
  | .recover worker => system.spawn (recoverPromptOptimization worker)
  | .act answers =>
    match system.worker with
    | none => system
    | some program =>
      let next := program.step answers system.world
      { world := next.2, worker := some next.1 }
  | .join =>
    if system.worker.any (·.finished) then { system with worker := none } else system
  | .dismiss authority answers expected readable serverJobId =>
    { system with
      world := system.world.operated answers authority (.dismiss expected readable serverJobId) }
  | .besides authority answers op =>
    { system with world := system.world.besides answers authority op }
  | .crash => { system with worker := none }

abbrev runEvents (user : String) (events : List (Event user)) : System user :=
  run System.step events (System.start user)

structure SystemInv (system : System user) : Prop where
  good : Good system.world.part
  safe : ∀ program, system.worker = some program →
    (state user).discipline.Safe () program (fun _ _ => True) system.world

section Systems

variable {system : System user}

theorem SystemInv.start : SystemInv (System.start user) :=
  ⟨⟨nofun, nofun, nofun, nofun, nofun⟩, nofun⟩

theorem SystemInv.spawn {P : DeepState → Prop}
    {work : Fallible user (Option PromptOptimizationDetail)} (h : SystemInv system)
    (hwork : (state user).Tries () P work (fun _ _ => True) fun _ _ => True)
    (hat : P system.world.part) :
    SystemInv (system.spawn work) ∧ (system.spawn work).world = system.world := by
  unfold System.spawn
  split
  · exact ⟨h, rfl⟩
  · refine ⟨⟨h.good, fun program hprogram => ?_⟩, rfl⟩
    cases hprogram
    have hthread : (state user).Judges () P (deepThread work) fun _ _ => True :=
      Judges.bind (Tries.bind (looks_tries _ fun _ _ _ => trivial) fun _ => hwork) fun _ =>
        .done fun _ _ _ => trivial
    exact (hthread _ ⟨h.good, hat⟩).mono fun _ _ _ => trivial

/-- An event beside the worker that leaves the rows. -/
theorem SystemInv.beside {world : World user} (h : SystemInv system)
    (hpart : world.part = system.world.part) : SystemInv { system with world := world } := by
  refine ⟨hpart ▸ h.good, fun program hprogram => (h.safe program hprogram).rely ?_⟩
  exact hpart

/-- A dismissal writes the flag alone. -/
theorem part_dismiss {world : World user} {answers : StorageAnswers} {authority : UserAuthority user}
    {op : DeepOperation} {expected : RecoveryRecordIdentity} {readable : Bool} {serverJobId : String}
    (hop : op = .dismiss expected readable serverJobId) :
    (world.operated answers authority op).part = world.part := by
  have hedited : RowEdited deepTable op.identity op.edited world.file
      (op.run answers authority.toNamespaceStorageAuthority world.file) :=
    DeepOperation.run_edited (by simp [hop])
  rw [part_operated, edit_same]
  rcases hedited.row with ⟨-, hsame⟩ | ⟨-, row, hrow, -, hafter⟩
  · exact (congrArg (Option.map core) hsame).symm
  · have hdismissed : op.edited row = some { row with presentationDismissed := true } := by
      rw [hop]
      rfl
    exact (congrArg (Option.map core) hrow).trans
      (congrArg (Option.map core) (hafter.trans hdismissed)).symm

theorem SystemInv.step (event : Event user) (h : SystemInv system) :
    SystemInv (System.step event system) ∧
      Moves system.world.part (System.step event system).world.part := by
  have hspawn : ∀ {P : DeepState → Prop} {work : Fallible user (Option PromptOptimizationDetail)},
      (state user).Tries () P work (fun _ _ => True) (fun _ _ => True) → P system.world.part →
      SystemInv (system.spawn work) ∧ Moves system.world.part (system.spawn work).world.part := by
    intro P work hwork hat
    obtain ⟨hinv, hworld⟩ := h.spawn hwork hat
    exact ⟨hinv, .of_row (by rw [hworld])⟩
  have hfresh : ∀ {key}, ¬(system.world.row key).isSome = true → system.world.part.row key = none :=
    fun hnone => congrArg (Option.map core) (Option.not_isSome_iff_eq_none.mp hnone)
  have hstay : Moves system.world.part system.world.part := .of_row rfl
  cases event with
  | start worker billing request =>
    simp only [System.step]
    split
    · exact ⟨h, hstay⟩
    · next hnew =>
      refine hspawn (startNewDeep_tries ?_) (hfresh hnew)
      rintro _ ⟨⟩
      rfl
  | retry worker billing sourceJobId key =>
    simp only [System.step]
    split
    · exact ⟨h, hstay⟩
    · next hnew => exact hspawn (startNewDeep_tries nofun) (hfresh hnew)
  | request worker id =>
    simp only [System.step]
    split
    · exact ⟨h, hstay⟩
    · next hid => exact hspawn (runPromptRequest_tries hid) trivial
  | recover worker => exact hspawn recoverPromptOptimization_tries trivial
  | act answers =>
    simp only [System.step]
    split
    · exact ⟨h, hstay⟩
    · next program hworker =>
      have hsafe := h.safe program hworker
      cases program with
      | ret result =>
        refine ⟨⟨h.good, fun _ hprogram => ?_⟩, hstay⟩
        cases hprogram
        exact hsafe
      | act label update next =>
        obtain ⟨htouches, hnext⟩ := hsafe system.world rfl answers trivial
        obtain ⟨hgood, hmoves⟩ := htouches.own h.good
        refine ⟨⟨hgood, fun _ hprogram => ?_⟩, hmoves⟩
        cases hprogram
        exact hnext
  | join =>
    simp only [System.step]
    split
    · exact ⟨⟨h.good, nofun⟩, hstay⟩
    · exact ⟨h, hstay⟩
  | dismiss authority answers expected readable serverJobId =>
    exact ⟨h.beside (part_dismiss rfl), .of_row (congrArg DeepState.row (part_dismiss rfl))⟩
  | besides authority answers op =>
    exact ⟨h.beside (part_besides op), .of_row (congrArg DeepState.row (part_besides op))⟩
  | crash => exact ⟨⟨h.good, nofun⟩, hstay⟩

theorem systemInv_run (events : List (Event user)) (h : SystemInv system) :
    SystemInv (run System.step events system) ∧
      Moves system.world.part (run System.step events system).world.part := by
  induction events generalizing system with
  | nil => exact ⟨h, .of_row rfl⟩
  | cons event events ih =>
    obtain ⟨hstep, hmoves⟩ := h.step event
    obtain ⟨hrun, hmoves'⟩ := ih hstep
    exact ⟨hrun, hmoves.trans hmoves'⟩

end Systems

section Kept

variable {world : World user} {row : PendingPromptOptimizationRecord}

theorem part_row (h : row ∈ deepTable.rowsOf world.file) :
    world.part.row row.clientRequestId = some (core row) :=
  congrArg (Option.map core) (row_eq_some_iff.mpr ⟨h, rfl⟩)

theorem mem_of_part_row {key : String} {shown : PendingPromptOptimizationRecord}
    (h : world.part.row key = some shown) :
    ∃ row ∈ deepTable.rowsOf world.file, row.clientRequestId = key ∧ core row = shown := by
  obtain ⟨row, hrow, rfl⟩ := Option.map_eq_some_iff.mp h
  obtain ⟨hmem, hkey⟩ := row_eq_some_iff.mp hrow
  exact ⟨row, hmem, hkey, rfl⟩

/-- Jobs of distinct rows differ if the server names distinct jobs for distinct keys. -/
theorem exists_record (h : Good world.part)
    (hdistinct : ∀ answer ∈ world.answered, ∀ other ∈ world.answered,
      answer.2 = other.2 → answer.1 = other.1) {id : String} (hid : id ∈ world.accepted)
    (authority : UserAuthority user) : ∃ row,
      deepRecordForJob true authority.toNamespaceStorageAuthority id world.file = .ok row := by
  obtain ⟨hne, key, shown, hshown, hjob⟩ := h.accepted id hid
  obtain ⟨row, hmem, rfl, rfl⟩ := mem_of_part_row hshown
  have hanswered : ∀ other ∈ deepTable.rowsOf world.file, other.serverJobId = id →
      (other.clientRequestId, id) ∈ world.answered := by
    rintro other hother rfl
    exact h.answered _ (core other) (part_row hother) hne
  have hfilter : (deepTable.rowsOf world.file).filter (·.serverJobId = id) = [row] := by
    refine OwnedRows.filter_eq_singleton (deepTable.uniqueKeys_get world.valid) hmem
      (decide_eq_true hjob) fun other hother hsame => ?_
    exact hdistinct _ (hanswered other hother (of_decide_eq_true hsame)) _
      (hanswered row hmem hjob) rfl
  have hload : loadPendingPromptOptimizations true authority.toNamespaceStorageAuthority world.file =
      .ok (deepTable.rowsOf world.file) := by
    have hvalid : ValidFor authority.userPublicId (world.file.getD RecoveryEnvelope.empty) := by
      rw [authority.owner]
      exact world.valid
    unfold loadPendingPromptOptimizations
    rw [load_ok.mpr ⟨rfl, rfl, hvalid⟩]
    rfl
  refine ⟨row, ?_⟩
  unfold deepRecordForJob
  rw [hload]
  simp only [Except.mapError, ok_bind, hfilter]

end Kept

theorem one_unresolved_deep_request (user : String) :
    (∀ events, let world := (runEvents user events).world
      (∀ row ∈ deepTable.rowsOf world.file, ∀ other ∈ deepTable.rowsOf world.file,
        row.serverJobId = "" → other.serverJobId = "" → row = other) ∧
      (∀ sent ∈ world.sent, sent.Ahead ∧
        (∃ row ∈ deepTable.rowsOf world.file, deepRequest row = some sent.request) ∧
        ∀ other ∈ world.sent, other.request.key = sent.request.key →
          other.request = sent.request) ∧
      ((∀ answer ∈ world.answered, ∀ other ∈ world.answered,
          answer.2 = other.2 → answer.1 = other.1) →
        ∀ id ∈ world.accepted, ∀ authority : UserAuthority user, ∃ row,
          deepRecordForJob true authority.toNamespaceStorageAuthority id world.file = .ok row)) ∧
    ∀ before rest, ∀ row ∈ deepTable.rowsOf (runEvents user before).world.file,
      row.serverJobId ≠ "" →
        ∃ later ∈ deepTable.rowsOf (runEvents user (before ++ rest)).world.file,
          later.clientRequestId = row.clientRequestId ∧ later.serverJobId = row.serverJobId := by
  refine ⟨fun events => ?_, fun before rest row hrow hne => ?_⟩
  · have hinv : SystemInv (runEvents user events) := (systemInv_run events .start).1
    intro world
    refine ⟨?_, ?_, fun hdistinct id hid authority => exists_record hinv.good hdistinct hid authority⟩
    · intro row hrow other hother hempty hempty'
      have hkey := hinv.good.alone _ _ _ _ (part_row hrow) (part_row hother) hempty hempty'
      exact OwnedRows.eq_of_key (deepTable.uniqueKeys_get world.valid) hrow hother hkey
    · intro sent hsent
      obtain ⟨hahead, shown, hshown, hrequest⟩ := hinv.good.sent sent hsent
      obtain ⟨row, hrow, -, rfl⟩ := mem_of_part_row hshown
      refine ⟨hahead, ⟨row, hrow, hrequest⟩, fun other hother hkey => ?_⟩
      obtain ⟨-, shown, hshown', hrequest'⟩ := hinv.good.sent other hother
      rw [hkey, hshown] at hshown'
      cases hshown'
      exact Option.some.inj (hrequest'.symm.trans hrequest)
  · have hinv : SystemInv (runEvents user before) := (systemInv_run before .start).1
    obtain ⟨shown, hshown, -, hjob⟩ := (systemInv_run rest hinv).2 _ _ (part_row hrow)
    obtain ⟨later, hlater, hkey, rfl⟩ := mem_of_part_row hshown
    rw [runEvents, run_append]
    exact ⟨later, hlater, hkey, hjob hne⟩

end ArtForgeStudio.PromptOptimization
