import ArtForgeStudio.PromptOptimization.Requests

/-! # The workers keep the state good

The worker acts alone, so what it read of its row holds until it writes the row. A request is sent
only while its row waits for a job, and a job id is written only where the server named it.
-/

namespace ArtForgeStudio.PromptOptimization

open ArtForgeStudio.Api ArtForgeStudio.Recovery ArtForgeStudio.KeyedRows ArtForgeStudio.Concurrency
  ArtForgeStudio.Outcome DeepState Parts

/-- The record is the row under its key. -/
def Held (record : PendingPromptOptimizationRecord) (v : DeepState) : Prop :=
  v.row record.clientRequestId = some (core record)

/-- The record is held and waits for a job. -/
structure Waiting (record : PendingPromptOptimizationRecord) (v : DeepState) : Prop where
  held : Held record v
  empty : record.serverJobId = ""

/-- An answer for the record: to its request, unless it has a job already. -/
structure Answered (record : PendingPromptOptimizationRecord) (detail : PromptOptimizationDetail)
    (v : DeepState) : Prop where
  held : Held record v
  named : record.serverJobId = "" → (record.clientRequestId, detail.id) ∈ v.answered

section Actions

variable {user : String} {P Q : DeepState → Prop} {authority : UserAuthority user}
  {session : SessionScope} {record : PendingPromptOptimizationRecord}
  {detail : PromptOptimizationDetail} {request : DeepRequest} {op : DeepOperation} {missing : String}
  {failed : ApiError → DeepState → Prop}

/-- What only looks leaves the assertion. -/
theorem looks_tries {α : Type} (view : Answers → World user → Except ApiError α)
    (h : ∀ error v, P v → failed error v) :
    (state user).Tries () P (.mk (.read view)) (fun _ => P) failed := by
  refine .read fun answers world _ hat => ?_
  cases view answers world with
  | error error => exact h error _ hat
  | ok result => exact hat

theorem requireUpdate_tries (hop : ∀ scope record, op ≠ .upsert scope record)
    (h : ∀ v row, Good v → P v → v.row op.identity.clientRequestId = some (core row) →
      RecoveryRow.identity row = op.identity →
      Good (v.edit op.identity.clientRequestId (op.edited row)) ∧
        Moves v (v.edit op.identity.clientRequestId (op.edited row)) ∧
        Q (v.edit op.identity.clientRequestId (op.edited row))) :
    (state user).Tries () P (requireUpdate authority op missing) (fun _ => Q) fun _ _ => True := by
  let after (result : Except Failure Bool) (v : DeepState) : Prop := result = .ok true → Q v
  have hoperate : (state user).Judges () P (operate authority op) after := by
    refine .act fun answers world _ hgood hat => ?_
    have hpart : (world.operated answers.storage authority op).part = world.part.edit _ _ :=
      part_operated op
    have hedited : RowEdited deepTable op.identity op.edited world.file
        (op.run answers.storage authority.toNamespaceStorageAuthority world.file) :=
      DeepOperation.run_edited hop
    rcases hedited.row with ⟨hresult, hsame⟩ | ⟨-, row, hrow, hidentity, hafter⟩
    · rw [edit_same (congrArg (Option.map core) hsame).symm] at hpart
      exact ⟨.of_parts fun _ => hpart, fun htrue => absurd htrue hresult⟩
    · have hcore : world.part.row op.identity.clientRequestId = some (core row) :=
        congrArg (Option.map core) hrow
      have hnext : (world.operated answers.storage authority op).row op.identity.clientRequestId =
        op.edited row := hafter
      rw [hnext] at hpart
      obtain ⟨hgood', hmoves, hq⟩ := h world.part row hgood hat hcore hidentity
      refine ⟨⟨fun _ hother => absurd rfl hother, fun _ => ?_⟩, fun _ => ?_⟩
      · change Good (World.part _) ∧ Moves _ (World.part _)
        rw [hpart]
        exact ⟨hgood', hmoves⟩
      · change Q (World.part _)
        rw [hpart]
        exact hq
  refine Judges.bind hoperate fun result => ?_
  match result with
  | .ok true => exact .done fun _ _ hat => hat rfl
  | .ok false => exact .done fun _ _ _ => trivial
  | .error failure => exact .done fun _ _ _ => trivial

theorem upsert_tries {scope : BillingScope} {key : String} (hkey : record.clientRequestId = key)
    (hempty : record.serverJobId = "") :
    (state user).Tries () (fun v => v.row key = none ∧ v.Resolved)
      (requireUpdate authority (.upsert scope record) missing) (fun _ => Waiting record)
      fun _ _ => True := by
  subst hkey
  let after (result : Except Failure Bool) (v : DeepState) : Prop :=
    result = .ok true → Waiting record v
  have hoperate : (state user).Judges ()
      (fun v => v.row record.clientRequestId = none ∧ v.Resolved)
      (operate authority (.upsert scope record)) after := by
    refine .act fun answers world _ hgood hat => ?_
    rcases part_upsert world answers.storage authority scope record with ⟨hresult, hpart⟩ | hpart
    · exact ⟨.of_parts fun _ => hpart, fun htrue => absurd htrue hresult⟩
    · obtain ⟨hgood', hmoves⟩ := hgood.insert hat.1 hat.2 rfl hempty
      refine ⟨⟨fun _ hother => absurd rfl hother, fun _ => ?_⟩, fun _ => ⟨?_, hempty⟩⟩
      · change Good (World.part _) ∧ Moves _ (World.part _)
        rw [hpart]
        exact ⟨hgood', hmoves⟩
      · change (World.part _).row _ = _
        rw [hpart, edit_self, Option.map_some]
  refine Judges.bind hoperate fun result => ?_
  match result with
  | .ok true => exact .done fun _ _ hat => hat rfl
  | .ok false => exact .done fun _ _ _ => trivial
  | .error failure => exact .done fun _ _ _ => trivial

/-- The rows that were loaded are those of the state. -/
structure Loaded (rows : List PendingPromptOptimizationRecord) (v : DeepState) : Prop where
  unique : UniqueKeys clientRequestId rows
  row : ∀ key, v.row key = (find clientRequestId rows key).map core

theorem Loaded.held {rows : List PendingPromptOptimizationRecord} {v : DeepState}
    (h : Loaded rows v) (hmem : record ∈ rows) : Held record v := by
  have hfound := (find_eq_some_iff h.unique).mpr ⟨hmem, rfl⟩
  exact (h.row record.clientRequestId).trans (congrArg (Option.map core) hfound)

theorem loaded_part (world : World user) : Loaded (deepTable.rowsOf world.file) world.part :=
  ⟨deepTable.uniqueKeys_get world.valid, fun _ => rfl⟩

theorem loadRows_tries :
    (state user).Tries () P (loadRows authority) (fun rows v => P v ∧ Loaded rows v)
      fun _ _ => True := by
  refine .read fun answers world _ hat => ?_
  cases hload : loadPendingPromptOptimizations answers.readable
      authority.toNamespaceStorageAuthority world.file with
  | error failure => trivial
  | ok rows =>
    obtain ⟨-, rfl⟩ := loadPendingPromptOptimizations_ok hload
    exact ⟨hat, loaded_part world⟩

/-- The unresolved row is held, or there is none. -/
def Found (found : Option PendingPromptOptimizationRecord) (v : DeepState) : Prop :=
  match found with
  | some saved => Held saved v
  | none => v.Resolved

theorem findUnresolved_tries :
    (state user).Tries () P (findUnresolved authority) (fun found v => P v ∧ Found found v)
      fun _ _ => True := by
  refine .bind loadRows_tries fun rows => .pure fun v _ hat => ⟨hat.1, ?_⟩
  cases hfind : rows.find? (·.serverJobId = "") with
  | some saved => exact hat.2.held (List.mem_of_find?_eq_some hfind)
  | none =>
    intro key row hrow hempty
    rw [hat.2.row] at hrow
    obtain ⟨found, hfound, rfl⟩ := Option.map_eq_some_iff.mp hrow
    have hnone := List.find?_eq_none.mp hfind found (mem_of_find hfound)
    exact hnone (decide_eq_true hempty)

theorem deepRecordForJob_ok {readable : Bool} {authority : NamespaceStorageAuthority} {id : String}
    {stored : PromptFile} {found : PendingPromptOptimizationRecord}
    (h : deepRecordForJob readable authority id stored = .ok found) :
    found ∈ deepTable.rowsOf stored ∧ found.serverJobId = id := by
  obtain ⟨rows, hrows, hfound⟩ := bind_eq_ok.mp h
  obtain ⟨-, rfl⟩ := loadPendingPromptOptimizations_ok (mapError_eq_ok.mp hrows)
  split at hfound
  · cases hfound
  · next only hfilter =>
    cases hfound
    have hmem : found ∈ (deepTable.rowsOf stored).filter (·.serverJobId = id) := by simp [hfilter]
    simpa using List.mem_filter.mp hmem
  · cases hfound

theorem readRecordForJob_tries {id : String} :
    (state user).Tries () P (readRecordForJob authority id)
      (fun found v => P v ∧ Held found v ∧ found.serverJobId = id) fun _ _ => True := by
  refine .read fun answers world _ hat => ?_
  cases hfound : deepRecordForJob answers.readable authority.toNamespaceStorageAuthority id
      world.file with
  | error error => trivial
  | ok found =>
    obtain ⟨hmem, hjob⟩ := deepRecordForJob_ok hfound
    exact ⟨hat, (loaded_part world).held hmem, hjob⟩

theorem post_tries (hkey : request.key = record.clientRequestId)
    (hrequest : deepRequest record = some request) :
    (state user).Tries () (Waiting record) (post request) (fun _ => Waiting record)
      fun _ => Waiting record := by
  refine .act fun answers world _ _ hat => ?_
  cases answers.post with
  | error error => exact ⟨.refl, hat⟩
  | ok u =>
    refine ⟨⟨fun _ hother => absurd rfl hother, fun hgood => ⟨?_, .of_row rfl⟩⟩, hat.held, hat.empty⟩
    have hheld : world.part.row request.key = some (core record) := hkey ▸ hat.held
    refine hgood.send ⟨?_, fun row hmem hempty => ?_⟩ hheld hrequest
    · obtain ⟨row, hrow, hcore⟩ := Option.map_eq_some_iff.mp hheld
      refine ⟨row, hrow, ?_⟩
      rw [← deepRequest_core, hcore, deepRequest_core, hrequest]
    · exact hgood.alone _ _ _ _ ((loaded_part world).held hmem) hheld hempty hat.empty

theorem receive_tries (hkey : request.key = record.clientRequestId) :
    (state user).Tries () (Waiting record) (receive request.key) (Answered record)
      fun _ => Waiting record := by
  refine .act fun answers world _ _ hat => ?_
  cases answers.reply with
  | error error => exact ⟨.refl, hat⟩
  | ok detail =>
    refine ⟨⟨fun _ hother => absurd rfl hother, fun hgood => ⟨hgood.answer _ _, .of_row rfl⟩⟩,
      hat.held, fun _ => ?_⟩
    rw [← hkey]
    exact List.mem_cons_self

theorem sendOnce_tries (hkey : request.key = record.clientRequestId)
    (hrequest : deepRequest record = some request) :
    (state user).Tries () (Waiting record) (sendOnce request) (Answered record)
      fun _ => Waiting record :=
  .bind (post_tries hkey hrequest) fun _ => receive_tries hkey

theorem authenticatedJsonWithScope_tries (hkey : request.key = record.clientRequestId)
    (hrequest : deepRequest record = some request) :
    (state user).Tries () (Waiting record) (authenticatedJsonWithScope request) (Answered record)
      fun _ => Waiting record := by
  have haccess : (state user).Tries () (Waiting record) accessOrRefresh (fun _ => Waiting record)
      fun _ => Waiting record := looks_tries _ fun _ _ => id
  refine .bind haccess fun _ => .catch (sendOnce_tries hkey hrequest) fun error => ?_
  refine .ite (fun _ => ?_) fun _ => .throw fun _ _ => id
  exact .bind haccess fun _ => sendOnce_tries hkey hrequest

theorem billingJson_tries (hkey : request.key = record.clientRequestId)
    (hrequest : deepRequest record = some request) :
    (state user).Tries () (Waiting record) (billingJson request) (Answered record) fun _ _ => True :=
  .catch (authenticatedJsonWithScope_tries hkey hrequest) fun _ => .throw fun _ _ _ => trivial

/-- A row without a job asks for what is replayed. -/
theorem deepRequest_of_saved {row : PendingPromptOptimizationRecord} {path : String} {body : Json}
    (h : savedDeepRequest row = .ok (path, body)) : row.serverJobId = "" ∧
      deepRequest row = some ⟨row.clientRequestId, row.billingAccountGroupId, path, body⟩ := by
  obtain ⟨_, hensure, -⟩ := bind_eq_ok.mp h
  have hempty : row.serverJobId = "" := by simpa using hensure
  have hsame : { row with serverJobId := "" } = row := by rw [← hempty]
  refine ⟨hempty, ?_⟩
  unfold deepRequest
  rw [hsame, h]

theorem replaySaved_tries :
    (state user).Tries () (Held record) (replaySaved authority session record.clientRequestId)
      (Answered record) fun _ _ => True := by
  refine .bind (Q := fun request v => Waiting record v ∧ request.key = record.clientRequestId ∧
      deepRequest record = some ⟨request.key, request.payer, request.path, request.body⟩)
    (.read fun answers world _ hat => ?_) fun request => ?_
  · cases hload : SavedReplayRequest.deep answers.readable authority.toNamespaceStorageAuthority
        session record.clientRequestId world.file with
    | error failure => trivial
    | ok request =>
      obtain ⟨row, hlookup, hrequest, heq⟩ := deep_ok hload
      obtain ⟨hempty, hasks⟩ := deepRequest_of_saved hrequest
      have hcore : core row = core record :=
        Option.some.inj ((congrArg (Option.map core) hlookup).symm.trans hat)
      have hkey : row.clientRequestId = record.clientRequestId := key_of_find hlookup
      refine ⟨⟨hat, ?_⟩, congrArg SavedReplayRequest.key heq, ?_⟩
      · exact (congrArg PendingPromptOptimizationRecord.serverJobId hcore).symm.trans hempty
      · rw [← deepRequest_core, ← hcore, deepRequest_core, hasks, heq, hkey]
  refine .given (fun _ _ hat => hat.2) ?_
  rintro ⟨hkey, hrequest⟩
  refine .weaken (P := Waiting record) ?_ fun _ _ hat => hat.1
  refine .bind (looks_tries _ fun _ _ _ => trivial) fun _ => ?_
  refine .bind (looks_tries _ fun _ _ _ => trivial) fun _ => ?_
  exact billingJson_tries hkey hrequest

end Actions

end ArtForgeStudio.PromptOptimization
