import ArtForgeStudio.PromptOptimization.Rules

/-! # Accepting a job

An answer is accepted for the record that it was asked for: the row moves to the session and gets
the job that the server named. Every worker ends so, or leaves its row waiting.
-/

namespace ArtForgeStudio.PromptOptimization

open ArtForgeStudio.Api ArtForgeStudio.Recovery ArtForgeStudio.KeyedRows ArtForgeStudio.Concurrency
  ArtForgeStudio.Outcome DeepState Parts

section Acceptance

variable {user : String} {authority : UserAuthority user} {session : SessionScope}
  {record : PendingPromptOptimizationRecord} {detail : PromptOptimizationDetail}

theorem checkDeepDetail_ok (h : checkDeepDetail record detail = .ok ()) :
    detail.id ≠ "" ∧ (record.serverJobId = "" ∨ record.serverJobId = detail.id) := by
  simp only [checkDeepDetail, bind_eq_ok, exists_unit, rejectIf_eq_ok] at h
  obtain ⟨-, hcanonical, hsame, -⟩ := h
  refine ⟨fun hempty => ?_, by_contra fun hother => hsame (not_or.mp hother)⟩
  rw [hempty] at hcanonical
  exact hcanonical (by decide)

theorem rebindDeep_tries :
    (state user).Tries () (Answered record detail) (rebindDeep authority session record)
      (fun moved v => Answered moved detail v ∧ moved.serverJobId = record.serverJobId)
      fun _ _ => True := by
  refine .ite (fun _ => ?_) fun _ => .pure fun _ _ hat => ⟨hat, rfl⟩
  refine .bind (Q := fun _ => Answered (RecoveryRow.setAuthEpoch session.authEpoch record) detail)
    (requireUpdate_tries (by simp) fun v row hgood hat hrow hidentity => ?_) fun _ =>
      .pure fun _ _ hat => ⟨hat, rfl⟩
  have hsame : core row = core record := Option.some.inj (hrow.symm.trans hat.held)
  refine ⟨hgood.edit hrow rfl rfl (.inl rfl), .edit hrow rfl (.inl rfl), ?_, hat.named⟩
  refine edit_self.trans (congrArg some ?_)
  exact congrArg (RecoveryRow.setAuthEpoch session.authEpoch) hsame

/-- The row under some key has the job. -/
def Named (id : String) (v : DeepState) : Prop :=
  ∃ key row, v.row key = some row ∧ row.serverJobId = id

theorem nameJob_tries (hjob : record.serverJobId = "" ∨ record.serverJobId = detail.id) :
    (state user).Tries () (Answered record detail) (nameJob authority record detail.id)
      (fun _ => Named detail.id) fun _ _ => True := by
  refine .ite (fun hempty => ?_) fun hnamed => .pure fun v _ hat => ?_
  · refine requireUpdate_tries (by simp) fun v row hgood hat hrow hidentity => ?_
    have hsame : core row = core record := Option.some.inj (hrow.symm.trans hat.held)
    have hwaits : row.serverJobId = "" :=
      (congrArg PendingPromptOptimizationRecord.serverJobId hsame).trans hempty
    refine ⟨hgood.edit hrow rfl rfl (.inr ⟨hwaits, hat.named hempty⟩),
      .edit hrow rfl (.inr hwaits), _, _, edit_self, rfl⟩
  · exact ⟨_, _, hat.held, hjob.resolve_left hnamed⟩

theorem acceptDeepDetail_tries :
    (state user).Tries () (Answered record detail) (acceptDeepDetail authority session record detail)
      (fun _ _ => True) fun _ _ => True := by
  refine .bind (Q := fun _ v => Answered record detail v ∧ checkDeepDetail record detail = .ok ())
    (.done fun v _ hat => ?_) fun _ => ?_
  · cases hcheck : checkDeepDetail record detail with
    | error error => trivial
    | ok u => exact ⟨hat, rfl⟩
  refine .given (fun _ _ hat => checkDeepDetail_ok hat.2) ?_
  rintro ⟨hne, hjob⟩
  refine .bind (.weaken rebindDeep_tries fun _ _ hat => hat.1) fun moved => ?_
  refine .given (fun _ _ hat => hat.2) fun hsame => ?_
  refine .bind (.weaken (nameJob_tries (hsame ▸ hjob)) fun _ _ hat => hat.1) fun _ => ?_
  refine .act fun answers world _ _ hat => ?_
  obtain ⟨key, row, hrow, hid⟩ := hat
  exact ⟨⟨fun _ hother => absurd rfl hother, fun hgood => ⟨hgood.accept hne hrow hid, .of_row rfl⟩⟩,
    trivial⟩

theorem replayOrGetDeep_tries :
    (state user).Tries () (Held record) (replayOrGetDeep authority session record)
      (fun _ _ => True) fun _ _ => True := by
  refine .bind (looks_tries _ fun _ _ _ => trivial) fun _ => ?_
  refine .bind (Q := Answered record) ?_ fun detail => acceptDeepDetail_tries
  refine .ite (fun _ => replaySaved_tries) fun hnamed => ?_
  refine Tries.mono (looks_tries (P := Held record) _ fun _ _ _ => trivial) (fun _ _ => id) ?_
    fun _ _ _ => id
  exact fun detail v _ hat => ⟨hat, fun hempty => absurd hempty hnamed⟩

section New

variable {billing : BillingScope} {operation : PendingPromptOptimizationOperation} {key : String}

/-- A create request has the key of its row. -/
def Keyed (operation : PendingPromptOptimizationOperation) (key : String) : Prop :=
  ∀ request, operation = .create request → request.clientRequestId = key

theorem submitDeep_tries (hkeyed : Keyed operation key) :
    (state user).Tries () (Waiting (newDeepRecord billing operation key))
      (submitDeep billing operation key) (Answered (newDeepRecord billing operation key))
      fun _ _ => True := by
  cases operation with
  | create request =>
    have hkey : request.clientRequestId = key := hkeyed request rfl
    refine billingJson_tries hkey ?_
    subst hkey
    simp [deepRequest, savedDeepRequest, newDeepRecord, ensure]
    rfl
  | retry sourceJobId => exact billingJson_tries rfl rfl

theorem storeAndSubmit_tries (hkeyed : Keyed operation key) :
    (state user).Tries () (fun v => v.row key = none ∧ v.Resolved)
      (storeAndSubmit authority billing operation key) (fun _ _ => True) fun _ _ => True := by
  have hlooks : ∀ {P : DeepState → Prop} (view : Answers → World user → Except ApiError Unit),
      (state user).Tries () P (.mk (.read view)) (fun _ => P) fun _ _ => True :=
    fun view => looks_tries view fun _ _ _ => trivial
  refine .bind (Q := fun _ v => v.row key = none ∧ v.Resolved) ?_ fun _ => ?_
  · cases operation with
    | create request => exact .pure fun _ _ => id
    | retry sourceJobId =>
      exact .bind readRecordForJob_tries fun _ => .pure fun _ _ hat => hat.1
  refine .bind (hlooks _) fun _ => .bind (upsert_tries rfl rfl) fun _ => ?_
  refine .bind (hlooks _) fun _ => .bind (hlooks _) fun _ => .bind (hlooks _) fun _ => ?_
  exact .bind (submitDeep_tries hkeyed) fun detail => acceptDeepDetail_tries

theorem executeNewDeep_tries (hkeyed : Keyed operation key) :
    (state user).Tries () (fun v => v.row key = none) (executeNewDeep authority billing operation key)
      (fun _ _ => True) fun _ _ => True := by
  refine .bind findUnresolved_tries fun found => ?_
  cases found with
  | some saved => exact .weaken replayOrGetDeep_tries fun _ _ hat => hat.2
  | none => exact storeAndSubmit_tries hkeyed

theorem startNewDeep_tries {worker : DeepWorker user} {scope : Except ApiError BillingScope}
    (hkeyed : Keyed operation key) :
    (state user).Tries () (fun v => v.row key = none) (startNewDeep worker scope operation key)
      (fun _ _ => True) fun _ _ => True := by
  refine .bind findUnresolved_tries fun found => ?_
  cases found with
  | some saved =>
    refine .weaken ?_ fun _ _ hat => hat.2
    exact .bind replayOrGetDeep_tries fun _ => .pure fun _ _ _ => trivial
  | none =>
    refine .bind (Q := fun _ v => v.row key = none) (.done fun v _ hat => ?_) fun billing => ?_
    · cases scope with
      | error error => trivial
      | ok billing => exact hat.1
    · exact .bind (executeNewDeep_tries hkeyed) fun _ => .pure fun _ _ _ => trivial

end New

theorem runPromptRequest_tries {worker : DeepWorker user} {id : String} (hid : id ≠ "") :
    (state user).Tries () (fun _ => True) (runPromptRequest worker id) (fun _ _ => True)
      fun _ _ => True := by
  refine .bind readRecordForJob_tries fun saved => .given (fun _ _ hat => hat.2.2) fun hjob => ?_
  refine .weaken (P := Held saved) ?_ fun _ _ hat => hat.2.1
  refine .bind (looks_tries _ fun _ _ _ => trivial) fun _ => ?_
  refine .bind (looks_tries _ fun _ _ _ => trivial) fun detail => ?_
  refine .bind (.weaken acceptDeepDetail_tries fun _ _ hat => ⟨hat, fun hempty => ?_⟩) fun _ =>
    .pure fun _ _ _ => trivial
  exact absurd (hjob.symm.trans hempty) hid

theorem mem_of_visible {rows : List PendingPromptOptimizationRecord}
    (h : visibleDeepRecoveryRow rows = some record) : record ∈ rows := by
  unfold visibleDeepRecoveryRow at h
  rcases Option.or_eq_some_iff.mp h with hfound | ⟨-, hlast⟩
  · exact (List.mem_filter.mp (List.mem_of_find?_eq_some hfound)).1
  · exact (List.mem_filter.mp (List.mem_of_getLast? hlast)).1

theorem recoverPromptOptimization_tries {worker : DeepWorker user} :
    (state user).Tries () (fun _ => True) (recoverPromptOptimization worker) (fun _ _ => True)
      fun _ _ => True := by
  refine .bind loadRows_tries fun rows => ?_
  cases hvisible : visibleDeepRecoveryRow rows with
  | some saved =>
    refine .weaken ?_ fun _ _ hat => hat.2.held (mem_of_visible hvisible)
    exact .bind replayOrGetDeep_tries fun _ => .pure fun _ _ _ => trivial
  | none => exact .pure fun _ _ _ => trivial

end Acceptance

end ArtForgeStudio.PromptOptimization
