import ArtForgeStudio.Generation.System

/-! # What no run loses

All requests with one key are one request. In a run whose steps all meet their condition an
accepted task keeps its row and its id.
-/

namespace ArtForgeStudio.Generation

open ArtForgeStudio.Api ArtForgeStudio.Recovery ArtForgeStudio.KeyedRows ArtForgeStudio.Concurrency
  ArtForgeStudio.Outcome ArtForgeStudio.Runs

/-- Requests keep their rows until these may go, and received ids are in their rows. -/
structure TasksKept (system : System) : Prop where
  rows : ∀ creation ∈ system.world.sent,
    (∃ row, system.world.row creation.key = some row ∧
      row.billingAccountGroupId = creation.payer) ∨
    ∃ release, (creation.key, release) ∈ system.world.released ∧
      release.Justified system.world creation.key
  ids : ∀ receipt ∈ system.world.received,
    receipt.thread ∈ system.crashed ∨ system.running receipt.thread = true ∨
      (receipt.thread, receipt.key) ∈ system.world.unrecorded ∨ Settled receipt system.world

section Kept

variable {system : System} {events : List Event}

/-- A thread that is neither running nor dead has returned. -/
theorem SystemInv.calm {strict : Prop} (h : SystemInv strict system) {receipt : Receipt}
    (hmem : receipt ∈ system.world.received) (hcrashed : receipt.thread ∉ system.crashed)
    (hidle : system.running receipt.thread = false) :
    Calm strict receipt.thread system.world := by
  obtain ⟨⟨own, program⟩, hentry, hthread⟩ := (h.receipts receipt hmem).resolve_left hcrashed
  have hdone := List.any_eq_false.mp hidle _ hentry
  cases program with
  | ret result => exact hthread ▸ (h.sound.finished hentry).2
  | act label update next => exact absurd hthread (by simpa [Program.finished] using hdone)

theorem SystemInv.kept (h : SystemInv True system) : TasksKept system where
  rows creation hmem := by
    have hdetermined := h.world.sent creation hmem
    cases hrow : system.world.row creation.key with
    | some row => exact .inl ⟨row, rfl, h.world.payer creation hdetermined row hrow⟩
    | none =>
      obtain ⟨release, hrelease⟩ := h.world.kept trivial _ ⟨creation, hmem, rfl⟩ hrow
      exact .inr ⟨release, hrelease, h.world.justified _ hrelease⟩
  ids receipt hmem := by
    by_cases hcrashed : receipt.thread ∈ system.crashed
    · exact .inl hcrashed
    cases hrunning : system.running receipt.thread with
    | true => exact .inr (.inl rfl)
    | false =>
      rcases h.calm hmem hcrashed hrunning trivial receipt hmem rfl with
        hnone | hsettled | hunrecorded
      · exact nomatch hnone
      · exact .inr (.inr (.inr hsettled))
      · exact .inr (.inr (.inl hunrecorded))

-- A login submits an image task without references, and the server accepts it.
def imageSubmission : Submission :=
  ⟨.generation, loginOf 1, payerScope 1, imageTask 1, 0⟩

def acceptingServer : Answers where
  active := true
  matching := true
  readable := true
  storage := .faultFree
  upload := .ok "file"
  token := .ok ()
  post _ := .ok ()
  reply _ := .accepted {
    id := "task"
    billingAccountGroupId := "0b000000-0000-0000-0000-000000000002"
    status := "running"
    successCount := 0 }
  query _ := .error (.network "" true)
  command := .ok ()
  listening := true

def submitted : List Event :=
  .start .faultFree imageSubmission :: List.replicate 8 (.act 0 acceptingServer)

theorem acceptingServer_names : NamesTask acceptingServer := by
  rintro creation _ ⟨⟩
  decide

theorem submitted_names {rest : List Event} (h : ∀ event ∈ rest, event.NamesTask) :
    ∀ event ∈ submitted ++ rest, event.NamesTask := by
  intro event hmem
  rcases List.mem_append.mp hmem with hmem | hmem
  · rcases List.mem_cons.mp hmem with rfl | hmem
    · trivial
    · rw [List.eq_of_mem_replicate hmem]
      exact acceptingServer_names
  · exact h event hmem

/-- Nobody disturbs the only submitter. -/
def alone (system : System) : Bool :=
  system.world.cancelled.isEmpty && system.world.received.all (·.taskId = "task") &&
  system.pool.all fun entry => entry.1.key.isSome && match entry.2.label? with
    | some (.operate op) => !(op matches .remove _) && system.world.received.all fun receipt =>
        (system.world.row receipt.key).all (RecoveryRow.identity · = op.identity)
    | _ => true

/-- All requests that were ever sent under one key are equal, a replay sends that request
again, and a row whose uploads are not all recorded is not replayed. -/
theorem replays_equal_original (events : List Event)
    (hnames : ∀ event ∈ events, event.NamesTask) :
    let world := (run System.step events {}).world
    (∀ creation ∈ world.sent, ∀ other ∈ world.sent, creation.key = other.key →
      creation.path = other.path ∧ creation.payer = other.payer ∧ creation.body = other.body) ∧
    ∀ readable authority session key row, world.row key = some row →
      (∀ saved, SavedReplayRequest.generation readable authority session key world.file = .ok saved →
        ∀ creation ∈ world.sent, creation.key = key →
          saved.path = creation.path ∧ saved.payer = creation.payer ∧ saved.body = creation.body) ∧
      (rowRequest row = none → ∃ failure,
        SavedReplayRequest.generation readable authority session key world.file = .error failure) ∧
      (row.uploadedFileIds.length ≠ row.referencePaths.length → row.referencePaths ≠ [] →
        ∃ failure, SavedReplayRequest.generation readable authority session key world.file =
          .error failure) := by
  intro world
  have hinv : Inv False world := (systemInv_run hnames).world
  refine ⟨fun creation hmem other hother hkey => ?_,
    fun readable authority session key row hrow => ?_⟩
  · obtain rfl := hinv.unique creation (hinv.sent creation hmem) other (hinv.sent other hother) hkey
    exact ⟨rfl, rfl, rfl⟩
  have hrefused : rowRequest row = none → ∃ failure,
      SavedReplayRequest.generation readable authority session key world.file = .error failure := by
    intro hnone
    cases hreplay : SavedReplayRequest.generation readable authority session key world.file with
    | error failure => exact ⟨failure, rfl⟩
    | ok saved =>
      obtain ⟨row', hrow', -, -, -, hrequest⟩ := rowRequest_replay hreplay
      cases hrow.symm.trans hrow'
      cases hnone.symm.trans hrequest
  refine ⟨fun saved hreplay creation hmem hkey => ?_, hrefused,
    fun hlength hreferences => hrefused (rowRequest_incomplete hlength hreferences)⟩
  obtain ⟨row', hrow', hempty, -, -, hrequest⟩ := rowRequest_replay hreplay
  subst hkey
  have hsame := hinv.request creation (hinv.sent creation hmem) row' hrow' hempty
  cases hrequest.symm.trans hsame
  exact ⟨rfl, rfl, rfl⟩

/-- The accepted task and the request of its row. -/
theorem replays_equal_accepted :
    let world := (run System.step submitted {}).world
    (∀ creation ∈ world.sent, ∀ other ∈ world.sent, creation.key = other.key →
      creation.path = other.path ∧ creation.payer = other.payer ∧ creation.body = other.body) ∧
    ∀ readable authority session key row, world.row key = some row →
      (∀ saved, SavedReplayRequest.generation readable authority session key world.file = .ok saved →
        ∀ creation ∈ world.sent, creation.key = key →
          saved.path = creation.path ∧ saved.payer = creation.payer ∧ saved.body = creation.body) ∧
      (rowRequest row = none → ∃ failure,
        SavedReplayRequest.generation readable authority session key world.file = .error failure) ∧
      (row.uploadedFileIds.length ≠ row.referencePaths.length → row.referencePaths ≠ [] →
        ∃ failure, SavedReplayRequest.generation readable authority session key world.file =
          .error failure) :=
  replays_equal_original submitted
    (List.append_nil submitted ▸ submitted_names (List.forall_mem_nil _))

end Kept

end ArtForgeStudio.Generation
