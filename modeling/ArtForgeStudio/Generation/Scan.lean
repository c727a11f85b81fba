import ArtForgeStudio.Generation.Submitters

/-! # The recovery scan keeps the discipline

A scan works on records that it loaded earlier. What it still knows of their rows is the payer,
and the task if there was one; a request it sends is read from the row once more.
-/

namespace ArtForgeStudio.Generation

open ArtForgeStudio.Api ArtForgeStudio.KeyedRows ArtForgeStudio.Outcome ArtForgeStudio.Recovery
  ArtForgeStudio.Concurrency

/-- What a loaded record says of its row for good. -/
structure Listed (record : PendingGenerationRecord) (world : World) : Prop where
  inserted : record.clientRequestId ∈ world.inserted
  payer : ∀ row, world.row record.clientRequestId = some row →
    row.billingAccountGroupId = record.billingAccountGroupId
  bound : record.serverTaskId ≠ "" → Bound record.clientRequestId record.serverTaskId world

section Scan

variable {strict : Prop} {own : Owner} {record : PendingGenerationRecord}
  {authority : NamespaceStorageAuthority} {session : SessionScope} {detail : GenerationTaskDetail}
  {world : World} {assertion : World → Prop}

theorem Listed.evolves {before after : World} (hinv : Inv strict before) (h : Listed record before)
    (hstep : Evolves before after) : Listed record after := by
  refine ⟨hstep.inserted h.inserted, fun later hlater => ?_,
    fun hne => (h.bound hne).evolves hinv hstep⟩
  obtain ⟨row, hrow⟩ := hstep.row_before h.inserted hlater
  exact (hstep.row _ row later hrow hlater).1.trans (h.payer row hrow)

theorem Listed.persistent : Persistent strict own (Listed record) :=
  .evolves fun _ _ hinv h hstep => h.evolves hinv hstep

/-- A readable document lists its rows with their payers and tasks. -/
theorem Listed.of_load {readable : Bool} {records : List PendingGenerationRecord}
    (hinv : Inv strict world)
    (hload : loadPendingGenerations readable authority world.file = .ok records)
    (hmem : record ∈ records) : Listed record world := by
  obtain ⟨file, hfile, hmap⟩ := bind_eq_ok.mp hload
  obtain ⟨-, rfl, hvalid⟩ := load_ok.mp hfile
  cases pure_eq_ok.mp hmap
  obtain ⟨row, hrow, rfl⟩ := List.mem_map.mp hmem
  have hlookup : world.row row.clientRequestId = some row :=
    (find_eq_some_iff (generationTable.uniqueKeys_get hvalid)).mpr ⟨hrow, rfl⟩
  refine ⟨hinv.rows _ row hlookup, fun row' hrow' => ?_, fun hne => ?_⟩
  · cases hlookup.symm.trans hrow'
    rfl
  · refine ⟨hne, hinv.accepted _ row hlookup hne, fun row' hrow' => ?_⟩
    cases hlookup.symm.trans hrow'
    exact hne

theorem loadRows_tells : Tells strict (loadRows authority) fun result world =>
    ∀ records, result = .ok records → ∀ record ∈ records, Listed record world :=
  .read (fun _ _ => .forall fun _ => .imp fun _ => .forall fun _ => .imp fun _ => Listed.persistent)
    fun _ _ hinv _ hload _ hmem => .of_load hinv hload hmem

theorem Ready.persistent_replay {creation : Creation} :
    Persistent strict own (Ready strict true creation) := .persistent fun h => nomatch h

/-- A scan with no id to record. -/
abbrev Listing (strict : Prop) (thread : Nat) (record : PendingGenerationRecord)
    (world : World) : Prop := Calm strict thread world ∧ Listed record world

theorem Listing.persistent : Persistent strict own (Listing strict own.thread record) :=
  Clear.persistent.and Listed.persistent

/-- A saved request is what the row determines, for the payer of the row. -/
theorem savedReplayRequest_triple :
    (discipline strict).Triple own (At strict (Listing strict own.thread record))
      (savedReplayRequest authority session record.clientRequestId)
      fun result => At strict fun world => Listing strict own.thread record world ∧
        ∀ request, result = .ok request →
          Ready strict true ⟨request.key, request.path, request.payer, request.body⟩ world ∧
            request.key = record.clientRequestId ∧
            request.payer = record.billingAccountGroupId := by
  refine quiet_triple Listing.persistent (fun _ => .forall fun _ =>
    .imp fun _ => Ready.persistent_replay.and (.const _)) ?_
  intro answers world hinv hat _
  refine ⟨.refl hinv, fun request hrequest => ?_⟩
  obtain ⟨row, hrow, hempty, hkey, hpayer, hsaved⟩ := rowRequest_replay hrequest
  exact ⟨⟨hinv.recorded _ row _ hrow hempty hsaved, nofun⟩, hkey,
    hpayer.trans (hat.2.payer row hrow)⟩

/-- A replayed creation ends like a first one. -/
theorem replaySaved_triple {request : SavedReplayRequest PendingGenerationRecord}
    (hscan : own.key = none) :
    (discipline strict).Triple own
      (At strict fun world => Calm strict own.thread world ∧
        Ready strict true ⟨request.key, request.path, request.payer, request.body⟩ world)
      (replaySaved own.thread authority request)
      fun result => At strict
        (Answered strict true own.thread request.key request.payer result) := by
  have hpre : Persistent strict own fun world => Calm strict own.thread world ∧
      Ready strict true ⟨request.key, request.path, request.payer, request.body⟩ world :=
    Clear.persistent.and .persistent_replay
  have hpost : ∀ result, Persistent strict own
      (Answered strict true own.thread request.key request.payer result) :=
    fun _ => Answered.persistent
  refine (Silent.read _).bind hpre fun active => ?_
  refine .ite (fun _ => done_fact hpost fun _ h => ⟨h.1, .inl rfl⟩) fun _ => ?_
  refine (Silent.read _).bind hpre fun verified => ?_
  cases verified with
  | error failure => exact done_fact hpost fun _ h => ⟨h.1, .inl rfl⟩
  | ok u =>
    refine .bind (weaken (authenticatedJsonWithScope_triple hscan) fun _ h => ⟨h, .inl rfl⟩)
      fun result => ?_
    cases result with
    | error error => exact done_fact hpost fun _ h => ⟨h.1, .inl rfl⟩
    | ok detail => exact done_fact hpost fun _ => id

/-- The result of binding a record. -/
def Recovered (strict : Prop) (thread : Nat) (result : Option PendingGenerationRecord)
    (world : World) : Prop :=
  Calm strict thread world ∧ ∀ record, result = some record →
    Bound record.clientRequestId record.serverTaskId world

theorem Recovered.persistent (result : Option PendingGenerationRecord) :
    Persistent strict own (Recovered strict own.thread result) :=
  Clear.persistent.and (.forall fun _ => .imp fun _ =>
    .evolves fun _ _ hinv h hstep => h.evolves hinv hstep)

theorem Recovered.none {thread : Nat} (h : Calm strict thread world) :
    Recovered strict thread none world :=
  ⟨h, fun _ heq => nomatch heq⟩

/-- A thread that finds its login ended has no id that waits for its row. -/
theorem scopeActive_triple {key taskId : String} :
    (discipline strict).Triple own (At strict (Pending strict own.thread key taskId))
      backendGenerationScopeActive
      fun active => At strict fun world => Pending strict own.thread key taskId world ∧
        (active = false → Calm strict own.thread world) := by
  refine quiet_triple Pending.persistent (fun _ => .imp fun _ => Clear.persistent) ?_
  refine fun answers world hinv hpending hallowed => ⟨.refl hinv, fun hinactive => ?_⟩
  refine hpending.calm hinv fun hstrict row hwaits => ?_
  cases hinactive.symm.trans (hallowed.meets hstrict _ row hwaits)

theorem moveToLogin_received {taskId : String} :
    (discipline strict).Triple own
      (At strict (Pending strict own.thread record.clientRequestId taskId))
      (moveToLogin own.thread authority session true record)
      fun result => At strict fun world =>
        (result = .ok true → Pending strict own.thread record.clientRequestId taskId world) ∧
        (result ≠ .ok true → Calm strict own.thread world) := by
  refine .ite (fun _ => rebind_triple rfl) fun _ => done_fact (fun _ => ?_) fun _ h => ?_
  · exact .and (.imp fun _ => Pending.persistent) (.imp fun _ => Clear.persistent)
  · exact ⟨fun _ => h, fun hne => absurd rfl hne⟩

theorem recoverCancelled_none (hassertion : Persistent strict own assertion)
    (hcancel : record.cancelRequested = false) :
    (discipline strict).Triple own (At strict assertion) (recoverCancelled authority record detail)
      fun result => At strict fun world => assertion world ∧ result = some detail := by
  refine .ite (fun _ => ?_) fun hcancelled => ?_
  · exact done_fact (fun _ => hassertion.and (.const _)) fun _ h => ⟨h, rfl⟩
  · simp [hcancel] at hcancelled

/-- Behind a replayed creation the id is recorded, or it waits no more. -/
theorem bindDetail_received (hcancel : record.cancelRequested = false)
    (hpayer :
      requireSavedGroup record.billingAccountGroupId detail.billingAccountGroupId = .ok ()) :
    (discipline strict).Triple own
      (At strict (Pending strict own.thread record.clientRequestId detail.id))
      (bindDetail own.thread authority session true record detail)
      fun result => At strict (Recovered strict own.thread result) := by
  have hpost : ∀ result, Persistent strict own (Recovered strict own.thread result) :=
    Recovered.persistent
  refine .ite (fun h => absurd hpayer h) fun _ => ?_
  refine .bind scopeActive_triple fun active => ?_
  refine .ite (fun hinactive => done_fact hpost fun _ h => .none (h.2 ?_)) fun _ => ?_
  · simpa using hinactive
  refine .bind (weaken moveToLogin_received fun _ h => h.1) fun moved => ?_
  refine .ite (fun hmoved => ?_) fun hmoved => ?_
  · refine done_fact hpost fun _ h => .none (h.2 ?_)
    rintro rfl
    cases hmoved
  refine weaken ?_ fun _ h => h.1 (written_of_not hmoved)
  refine .bind (recoverCancelled_none Pending.persistent hcancel) fun result =>
    given fun hresult => ?_
  subst hresult
  refine .ite (fun h => nomatch h) fun _ => ?_
  refine .bind (accept_triple rfl) fun result => ?_
  refine .ite (fun _ => done_fact hpost fun _ h => .none h.1) fun hwritten => ?_
  refine done_fact hpost fun _ h => ⟨h.1, ?_⟩
  rintro _ ⟨⟩
  exact h.2 (written_of_not hwritten)

/-- The report with which the task of a row ended is the one that was there, or it lets the row
go. -/
theorem endTask_triple (hassertion : Persistent strict own assertion)
    (hnamed : ∀ world, assertion world → strict →
      world.Named record.clientRequestId record.serverTaskId) :
    (discipline strict).Triple own (At strict assertion) (endTask record detail)
      fun result => At strict fun world => assertion world ∧ ∀ ended, result = some ended →
        ended = detail ∨ (strict → ended.cancelledEmpty = true →
          world.Released record.clientRequestId) := by
  have hpost : ∀ result : Option GenerationTaskDetail, Persistent strict own fun world =>
      assertion world ∧ ∀ ended, result = some ended → ended = detail ∨
        (strict → ended.cancelledEmpty = true → world.Released record.clientRequestId) := by
    refine fun result => hassertion.and (.forall fun ended => .imp fun _ => ?_)
    exact .evolves fun _ _ _ h hstep => h.imp_right fun h hstrict hempty =>
      (h hstrict hempty).mono hstep.released
  refine .ite (fun _ => done_fact hpost fun _ h => ⟨h, ?_⟩) fun _ => ?_
  · rintro _ ⟨⟩
    exact .inl rfl
  refine (Silent.read _).bind hassertion fun commanded => ?_
  cases commanded with
  | error error => exact done_fact hpost fun _ h => ⟨h, nofun⟩
  | ok u =>
  refine .bind (taskScoped_triple hassertion hnamed) fun polled => ?_
  cases polled with
  | error error => exact done_fact hpost fun _ h => ⟨h.1, nofun⟩
  | ok ended =>
  refine .ite (fun _ => done_fact hpost fun _ h => ⟨h.1, nofun⟩) fun _ => ?_
  refine done_fact hpost fun _ h => ⟨h.1, ?_⟩
  rintro _ ⟨⟩
  exact .inr fun hstrict => (h.2 ended rfl hstrict).2

/-- A row of a cancelled task goes when the server reports no results. -/
theorem recoverCancelled_triple (hassertion : Persistent strict own assertion)
    (hnamed : ∀ world, assertion world → strict →
      world.Named record.clientRequestId record.serverTaskId)
    (hdetail : ∀ world, assertion world → strict → detail.cancelledEmpty = true →
      world.Released record.clientRequestId) :
    (discipline strict).Triple own (At strict assertion) (recoverCancelled authority record detail)
      fun _ => At strict assertion := by
  refine .ite (fun _ => done hassertion fun _ => id) fun _ => ?_
  refine .bind (endTask_triple hassertion hnamed) fun result => ?_
  cases result with
  | none => exact done hassertion fun _ h => h.1
  | some ended =>
  refine weaken (.ite (fun _ => done hassertion fun _ h => h.1) fun _ => ?_) fun world h =>
    (⟨h.1, fun hstrict hempty => (h.2 ended rfl).elim
      (fun heq => hdetail world h.1 hstrict (heq ▸ hempty)) fun h => h hstrict hempty⟩ :
      assertion world ∧ (strict → ended.cancelledEmpty = true →
        world.Released record.clientRequestId))
  refine .ite (fun hempty => ?_) fun _ => done hassertion fun _ h => h.1
  have hreleased : Persistent strict own fun world => assertion world ∧
      (strict → ended.cancelledEmpty = true → world.Released record.clientRequestId) :=
    hassertion.and (.imp fun _ => .imp fun _ => released_persistent)
  refine .bind (removePendingGeneration_silent hreleased fun _ h hstrict => h.2 hstrict hempty)
    fun _ => ?_
  exact done hassertion fun _ h => h.1

/-- Behind a query the row keeps its task. -/
theorem bindDetail_queried (hne : record.serverTaskId ≠ "") :
    (discipline strict).Triple own
      (At strict fun world => Listing strict own.thread record world ∧
        (strict → detail.cancelledEmpty = true → world.Released record.clientRequestId))
      (bindDetail own.thread authority session false record detail)
      fun result => At strict (Recovered strict own.thread result) := by
  have hpre : Persistent strict own fun world => Listing strict own.thread record world ∧
      (strict → detail.cancelledEmpty = true → world.Released record.clientRequestId) :=
    Listing.persistent.and (.imp fun _ => .imp fun _ => released_persistent)
  have hpost : ∀ result, Persistent strict own (Recovered strict own.thread result) :=
    Recovered.persistent
  refine .ite (fun _ => done_fact hpost fun _ h => .none h.1.1) fun _ => ?_
  refine (Silent.read _).bind hpre fun active => ?_
  refine .ite (fun _ => done_fact hpost fun _ h => .none h.1.1) fun _ => ?_
  have hmove : Silent strict (moveToLogin own.thread authority session false record) :=
    .ite (operate_silent rfl) (.pure _)
  refine hmove.bind hpre fun moved => ?_
  refine .ite (fun _ => done_fact hpost fun _ h => .none h.1.1) fun _ => ?_
  refine .bind (recoverCancelled_triple hpre (fun _ h _ => (h.1.2.bound hne).named)
    fun _ h => h.2) fun result => ?_
  cases result with
  | none => exact done_fact hpost fun _ h => .none h.1.1
  | some ended =>
  refine .ite (fun _ => done_fact hpost fun _ h => ⟨h.1.1, ?_⟩) fun h => absurd rfl h
  rintro _ ⟨⟩
  exact h.1.2.bound hne

/-- A record without a task asks for it with the saved request. -/
theorem recoveredDetail_waiting (hscan : own.key = none)
    (hwaiting : record.serverTaskId.isEmpty = true) :
    (discipline strict).Triple own (At strict (Listing strict own.thread record))
      (recoveredDetail own.thread authority session record)
      fun result => At strict (Answered strict true own.thread record.clientRequestId
        record.billingAccountGroupId result) := by
  have hpost : ∀ result, Persistent strict own (Answered strict true own.thread
      record.clientRequestId record.billingAccountGroupId result) := fun _ => Answered.persistent
  simp only [recoveredDetail, hwaiting, if_true]
  refine .bind savedReplayRequest_triple fun loaded => ?_
  cases loaded with
  | error failure => exact done_fact hpost fun _ h => ⟨h.1.1, .inl rfl⟩
  | ok request =>
  have hreplay : (discipline strict).Triple own
      (At strict fun world => (Calm strict own.thread world ∧
        Ready strict true ⟨request.key, request.path, request.payer, request.body⟩ world) ∧
        (request.key = record.clientRequestId ∧ request.payer = record.billingAccountGroupId))
      (replaySaved own.thread authority request)
      fun result => At strict (Answered strict true own.thread record.clientRequestId
        record.billingAccountGroupId result) := by
    refine given fun hrequest => ?_
    rw [← hrequest.1, ← hrequest.2]
    exact replaySaved_triple hscan
  exact weaken hreplay fun _ h => ⟨⟨h.1.1, (h.2 request rfl).1⟩, (h.2 request rfl).2⟩

/-- A record is bound to the task of its row, or to the task that its replayed creation names. -/
theorem bindGenerationRecoveryCandidate_triple (hscan : own.key = none) :
    (discipline strict).Triple own (At strict (Listing strict own.thread record))
      (bindGenerationRecoveryCandidate own.thread authority session record)
      fun result => At strict (Recovered strict own.thread result) := by
  have hpre : Persistent strict own (Listing strict own.thread record) := Listing.persistent
  have hpost : ∀ result, Persistent strict own (Recovered strict own.thread result) :=
    Recovered.persistent
  refine .ite (fun _ => done_fact hpost fun _ h => .none h.1) fun _ => ?_
  refine (Silent.read _).bind hpre fun active => ?_
  refine .ite (fun _ => done_fact hpost fun _ h => .none h.1) fun _ => ?_
  refine .ite (fun _ => ?_) fun _ => ?_
  · exact (operate_silent rfl).bind hpre fun _ => done_fact hpost fun _ h => .none h.1
  refine .ite (fun _ => done_fact hpost fun _ h => .none h.1) fun hcancel => ?_
  by_cases hempty : record.serverTaskId = ""
  · have hwaiting : record.serverTaskId.isEmpty = true := by simp [hempty]
    have huncancelled : record.cancelRequested = false := by
      rw [hwaiting, Bool.and_true] at hcancel
      simpa using hcancel
    refine .bind (recoveredDetail_waiting hscan hwaiting) fun result => ?_
    cases result with
    | error error => exact done_fact hpost fun _ h => .none h.1
    | ok detail =>
    rw [hwaiting]
    by_cases hpayer : requireSavedGroup record.billingAccountGroupId
        detail.billingAccountGroupId = .ok ()
    · simp only [Answered, hpayer, if_true]
      exact bindDetail_received huncancelled hpayer
    · simp only [Answered, hpayer, if_false]
      exact .ite (fun _ => done_fact hpost fun _ h => .none h)
        fun h => absurd h (not_not.mpr hpayer)
  · have hwaiting : record.serverTaskId.isEmpty = false := by simp [hempty]
    simp only [recoveredDetail, hwaiting, Bool.false_eq_true, if_false]
    refine .bind (taskScoped_triple hpre fun _ h _ => (h.2.bound hempty).named) fun polled => ?_
    cases polled with
    | error error => exact done_fact hpost fun _ h => .none h.1.1
    | ok detail =>
      exact weaken (bindDetail_queried hempty) fun _ h =>
        ⟨h.1, fun hstrict => (h.2 detail rfl hstrict).2⟩

/-- What a scan holds in its loop: the rows it listed, and the records it bound. -/
structure Scanned (records recovered : List PendingGenerationRecord) (world : World) : Prop where
  listed : ∀ record ∈ records, Listed record world
  bound : ∀ record ∈ recovered, Bound record.clientRequestId record.serverTaskId world

theorem Scanned.evolves {records recovered : List PendingGenerationRecord} {before after : World}
    (hinv : Inv strict before) (h : Scanned records recovered before)
    (hstep : Evolves before after) :
    Scanned records recovered after :=
  ⟨fun record hmem => (h.listed record hmem).evolves hinv hstep,
    fun record hmem => (h.bound record hmem).evolves hinv hstep⟩

theorem Scanned.rest {records recovered : List PendingGenerationRecord}
    (h : Scanned (record :: records) recovered world) : Scanned records recovered world :=
  ⟨fun other hmem => h.listed other (List.mem_cons_of_mem _ hmem), h.bound⟩

theorem Scanned.add {records recovered : List PendingGenerationRecord}
    (h : Scanned records recovered world)
    (hbound : Bound record.clientRequestId record.serverTaskId world) :
    Scanned records (recovered ++ [record]) world := by
  refine ⟨h.listed, fun other hmem => ?_⟩
  rcases List.mem_append.mp hmem with hmem | hmem
  · exact h.bound other hmem
  · rwa [List.mem_singleton.mp hmem]

/-- Induction over the listed records: each binding leaves the rest of the list as it was. -/
theorem scanRecords_triple (hscan : own.key = none)
    (records recovered : List PendingGenerationRecord) :
    (discipline strict).Triple own
      (At strict fun world => Calm strict own.thread world ∧ Scanned records recovered world)
      (scanRecords own.thread authority session records recovered)
      fun result => At strict fun world =>
        Calm strict own.thread world ∧ Scanned [] result world := by
  have hscanned : ∀ records recovered, Persistent strict own fun world =>
      Calm strict own.thread world ∧ Scanned records recovered world :=
    fun _ _ => Clear.persistent.and (.evolves fun _ _ hinv h hstep => h.evolves hinv hstep)
  induction records generalizing recovered with
  | nil => exact done_fact (hscanned []) fun _ => id
  | cons record records ih =>
    refine (Silent.read _).bind (hscanned _ _) fun active => ?_
    refine .ite (fun _ => done_fact (hscanned []) fun _ h =>
      ⟨h.1, List.forall_mem_nil _, h.2.bound⟩) fun _ => ?_
    refine .ite (fun _ => weaken (ih recovered) fun _ h => ⟨h.1, h.2.rest⟩) fun _ => ?_
    have hbind : (discipline strict).Triple own
        (At strict fun world =>
          Listing strict own.thread record world ∧ Scanned records recovered world)
        (bindGenerationRecoveryCandidate own.thread authority session record)
        fun result => At strict fun world =>
          Recovered strict own.thread result world ∧ Scanned records recovered world :=
      frame (fun _ _ hinv h hstep => h.evolves hinv hstep)
        (bindGenerationRecoveryCandidate_triple hscan)
    refine weaken (.bind hbind fun result => ?_) fun _ h =>
      ⟨⟨h.1, h.2.listed record List.mem_cons_self⟩, h.2.rest⟩
    cases result with
    | none => exact weaken (ih recovered) fun _ h => ⟨h.1.1, h.2⟩
    | some bound =>
      exact weaken (ih _) fun _ h => ⟨h.1.1, h.2.add (h.1.2 bound rfl)⟩

/-- A scan hands over records that are bound to their tasks. -/
theorem recoverPendingGenerations_triple (hscan : own.key = none) :
    (discipline strict).Triple own (At strict (Calm strict own.thread))
      (recoverPendingGenerations own.thread authority session)
      fun _ => At strict (Calm strict own.thread) := by
  refine loadRows_tells.bind Clear.persistent fun result => ?_
  cases result with
  | error failure => exact done Clear.persistent fun _ h => h.1
  | ok records =>
  refine weaken (.bind (scanRecords_triple hscan records []) fun recovered => ?_) fun world h =>
    (⟨h.1, fun record hmem => h.2 records rfl record hmem, List.forall_mem_nil _⟩ :
      Calm strict own.thread world ∧ Scanned records [] world)
  refine act_triple (Clear.persistent.and (.evolves fun _ _ hinv h hstep => h.evolves hinv hstep))
    (fun _ => Clear.persistent) ?_
  rintro answers world hinv ⟨hcalm, hscanned⟩ -
  have hquiet : Quiet strict world { world with recovered := recovered ++ world.recovered } :=
    recovered_quiet hinv fun record hmem => (List.mem_append.mp hmem).elim
      (hscanned.bound record) (hinv.recovered record)
  exact ⟨hquiet.change, Clear.persistent world _ hinv hcalm hquiet.change⟩

end Scan

end ArtForgeStudio.Generation
