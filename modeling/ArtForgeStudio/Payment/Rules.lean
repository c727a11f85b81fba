import ArtForgeStudio.Payment.Orders

/-! # The workers keep their keys good

Each action of a worker is judged in the state of its key. A worker is judged by the
assertions between its actions: the row that it wrote or read is there until it removes it.
-/

namespace ArtForgeStudio.Payment

open ArtForgeStudio.Api ArtForgeStudio.Recovery ArtForgeStudio.KeyedRows ArtForgeStudio.Concurrency
  ArtForgeStudio.Outcome KeyState Parts

/-- An error after which a first creation keeps its row. -/
def Preserves (error : ApiError) : Prop := paymentErrorPreservesOrderRecovery error = true

theorem preserves_of_isBillingRejection {error : ApiError} (h : error.isBillingRejection = true) :
    Preserves error := by
  simp only [ApiError.isBillingRejection, Bool.or_eq_true, decide_eq_true_eq] at h
  unfold Preserves paymentErrorPreservesOrderRecovery
  split
  · simp only [ApiError.code, Option.some.injEq] at h
    rcases h with rfl | rfl
    · decide
    · decide
  · rfl

theorem preserves_withBillingPayer (error : ApiError) (payer : String) :
    paymentErrorPreservesOrderRecovery (error.withBillingPayer payer) =
      paymentErrorPreservesOrderRecovery error := by
  unfold ApiError.withBillingPayer
  split
  · rfl
  · split
    · exact (preserves_of_isBillingRejection ‹_›).symm
    · rfl

/-- After a failed submission the row may go unless the error preserves it. -/
def Abandonable (error : ApiError) (v : KeyState) : Prop :=
  paymentErrorPreservesOrderRecovery error = false → v.sent = [] ∨ v.Refused

theorem Abandonable.of_preserves {error : ApiError} {v : KeyState} (h : Preserves error) :
    Abandonable error v := by
  intro hrefuses
  rw [Preserves, hrefuses] at h
  cases h

section Actions

variable {own key : String} {P Q : KeyState → Prop} {failed : ApiError → KeyState → Prop}
  {worker : PaymentWorker} {authority : NamespaceStorageAuthority} {op : OrderOperation}
  {scope : BillingScope} {record row : PendingOrderRecord} {creation : Creation} {first : Bool}
  {order : OrderDetail} {error : ApiError}

theorem ensureActive_tries :
    keys.Tries own P ensureActive (fun _ => P) fun error v => Preserves error ∧ P v := by
  refine .read fun answers world _ hat => ?_
  cases answers.active
  · exact ⟨rfl, hat⟩
  · exact hat

theorem presentationDismissed_tries :
    keys.Tries own P presentationDismissed (fun _ => P) failed :=
  .read fun _ _ _ hat => hat

theorem isActive_tries : keys.Tries own P isActive (fun _ => P) failed := .read fun _ _ _ hat => hat

theorem acceptAgreements_tries :
    keys.Tries own P acceptAgreements (fun _ => P) fun _ => P := by
  refine .read fun answers _ _ hat => ?_
  cases answers.agreements
  · exact hat
  · exact hat

theorem createUpgradeQuote_tries :
    keys.Tries own P createUpgradeQuote (fun _ => P) fun _ => P := by
  refine .read fun answers _ _ hat => ?_
  cases answers.quote
  · exact hat
  · exact hat

/-- The row that is found is the row of the key. -/
theorem findSavedPayment_tries :
    keys.Tries own P (findSavedPayment worker own)
      (fun found v => P v ∧ v.row = some (core found) ∧ found.clientRequestId = own)
      fun error _ => Preserves error := by
  refine .read fun answers world _ hat => ?_
  cases hload : loadPendingOrders answers.readable worker.authority world.file with
  | error failure => exact rfl
  | ok rows =>
    obtain ⟨hvalid, rfl⟩ := loadPendingOrders_ok hload
    dsimp only
    split
    · rename_i found hfound
      have hkey : found.ownerUserId = worker.session.ownerUserId ∧ found.clientRequestId = own := by
        simpa using List.find?_some hfound
      have hlookup : orderTable.lookup world.file own = some found :=
        (find_eq_some_iff (orderTable.uniqueKeys_get hvalid)).mpr
          ⟨List.mem_of_find?_eq_some hfound, hkey.2⟩
      exact ⟨hat, congrArg (Option.map core) hlookup, hkey.2⟩
    · exact rfl

theorem operated_touches (hkey : op.identity.clientRequestId = own) {world : World}
    {answers : StorageAnswers}
    (h : Good own (world.part own) → Good own ((world.operated answers authority op).part own) ∧
      Moves (world.part own) ((world.operated answers authority op).part own)) :
    keys.Touches own world (world.operated answers authority op) :=
  ⟨fun _ hother => part_operated_other (hkey ▸ hother), h⟩

/-- The row that is there is stored. -/
theorem edit_lookup {world : World} (hgood : Good key (world.part key)) :
    (world.part key).edit (orderTable.lookup world.file key) = world.part key := by
  unfold KeyState.edit
  cases hrow : orderTable.lookup world.file key with
  | none => simp [World.part, World.row, hrow]
  | some row =>
    have hstored := hgood.stored (core row) (by simp [World.part, World.row, hrow])
    simp [World.part, World.row, hrow] at hstored ⊢
    exact hstored

/-- An operation on a retained row: what it makes of the row is as good. -/
theorem requireUpdate_tries (hkey : op.identity.clientRequestId = own)
    (hop : ∀ scope record, op ≠ .upsert scope record)
    (h : ∀ v row, Good own v → P v → op.Accepts → v.row = some (core row) →
      RecoveryRow.identity row = op.identity →
      Good own (v.edit (op.edited row)) ∧ Moves v (v.edit (op.edited row)) ∧
        Q (v.edit (op.edited row))) :
    keys.Tries own P (requireUpdate authority op) (fun _ => Q)
      fun error v => Preserves error ∧ P v := by
  subst hkey
  let after (result : Except Failure Bool) (v : KeyState) : Prop :=
    if result = .ok true then Q v else P v
  have hoperate : keys.Judges op.identity.clientRequestId P (operate authority op) after := by
    refine .act fun answers world _ hgood hat => ?_
    have hpart : World.part op.identity.clientRequestId
        (world.operated answers.storage authority op) =
          (world.part op.identity.clientRequestId).edit (orderTable.lookup
            (op.run answers.storage authority world.file).2 op.identity.clientRequestId) :=
      part_operated rfl
    have hedited : RowEdited orderTable op.identity op.edited world.file
        (op.run answers.storage authority world.file) := OrderOperation.run_edited hop
    rcases hedited.row with ⟨hresult, hsame⟩ | ⟨hresult, row, hrow, hidentity, hafter⟩
    · rw [hsame, edit_lookup hgood] at hpart
      refine ⟨operated_touches rfl fun hgood => ?_, ?_⟩
      · rw [hpart]
        exact ⟨hgood, .of_row rfl rfl⟩
      · simp only [after, hresult, if_false]
        change P (World.part _ _)
        rw [hpart]
        exact hat
    · rw [hafter] at hpart
      have hcore : (world.part op.identity.clientRequestId).row = some (core row) :=
        congrArg (Option.map core) hrow
      obtain ⟨hgood', hmoves, hq⟩ := h _ row hgood hat (OrderOperation.run_accepts hresult) hcore
        hidentity
      refine ⟨operated_touches rfl fun _ => ?_, ?_⟩
      · rw [hpart]
        exact ⟨hgood', hmoves⟩
      · simp only [after, hresult, if_true]
        change Q (World.part _ _)
        rw [hpart]
        exact hq
  refine Judges.bind hoperate fun result => ?_
  match result with
  | .ok true => exact .done fun _ _ hat => (if_pos rfl).mp hat
  | .ok false => exact .done fun _ _ hat => ⟨rfl, (if_neg (by simp)).mp hat⟩
  | .error failure => exact .done fun _ _ hat => ⟨rfl, (if_neg (by simp)).mp hat⟩

theorem upsertPendingOrder_tries (hkey : record.clientRequestId = own) :
    keys.Tries own (fun v => v.stored = false) (upsertPendingOrder authority scope record)
      (fun _ v => v.row = some (core record) ∧ v.sent = [] ∧
        record.billingAccountGroupId = scope.accountGroupId)
      fun error _ => Preserves error := by
  subst hkey
  let after (result : Except Failure Bool) (v : KeyState) : Prop :=
    result = .ok true → v.row = some (core record) ∧ v.sent = [] ∧
      record.billingAccountGroupId = scope.accountGroupId
  have hoperate : keys.Judges record.clientRequestId (fun v => v.stored = false)
      (operate authority (.upsert scope record)) after := by
    refine .act fun answers world _ hgood hnew => ?_
    have hpart : World.part record.clientRequestId
        (world.operated answers.storage authority (.upsert scope record)) =
          (world.part record.clientRequestId).edit (orderTable.lookup
            ((OrderOperation.upsert scope record).run answers.storage authority world.file).2
            record.clientRequestId) := part_operated rfl
    rcases OrderOperation.run_upsert answers.storage authority world.file scope record
      with ⟨failure, hrun⟩ | ⟨next, hrun, hpayer, hlookup⟩
    · rw [hrun, edit_lookup hgood] at hpart
      refine ⟨⟨fun _ hother => part_operated_other hother, fun hgood => ?_⟩, by simp [after, hrun]⟩
      change Good _ (World.part _ _) ∧ Moves _ (World.part _ _)
      rw [hpart]
      exact ⟨hgood, .of_row rfl rfl⟩
    · rw [hrun, hlookup] at hpart
      obtain ⟨hgood', hmoves, hsent⟩ := Good.insert hgood hnew rfl
      refine ⟨⟨fun _ hother => part_operated_other hother, fun _ => ?_⟩, fun _ => ?_⟩
      · change Good _ (World.part _ _) ∧ Moves _ (World.part _ _)
        rw [hpart]
        exact ⟨hgood', hmoves⟩
      · change (World.part _ _).row = _ ∧ (World.part _ _).sent = _ ∧ _
        rw [hpart]
        exact ⟨rfl, hsent, hpayer⟩
  refine Judges.bind hoperate fun result => ?_
  match result with
  | .ok true => exact .done fun _ _ hat => hat rfl
  | .ok false => exact .done fun _ _ _ => rfl
  | .error failure => exact .done fun _ _ _ => rfl

theorem queryOrder_tries :
    keys.Tries own (fun v => v.row = some row) (queryOrder own)
      (fun detail v => v.row = some row ∧ detail ∈ v.returned) fun _ _ => True := by
  refine .act fun answers world _ _ hat => ?_
  cases answers.order with
  | error error => exact ⟨.refl, trivial⟩
  | ok detail =>
    refine ⟨⟨fun _ hother => part_returns_other hother, fun hgood => ?_⟩, ?_⟩
    · change Good own (World.part _ _) ∧ Moves _ (World.part _ _)
      rw [part_returns]
      exact ⟨hgood.gain, .of_row rfl rfl⟩
    · change (World.part _ _).row = _ ∧ detail ∈ (World.part _ _).returned
      rw [part_returns]
      exact ⟨hat, List.mem_cons_self⟩

/-- The row that asks for the creation is there and has no order id. -/
structure Ready (row : PendingOrderRecord) (v : KeyState) : Prop where
  present : v.row = some row
  waiting : row.orderId = ""

/-- The row is there after a failed request, and an answer that lets it go was noted. -/
def Failed (first : Bool) (row : PendingOrderRecord) (error : ApiError) (v : KeyState) : Prop :=
  Ready row v ∧ (first = true → paymentErrorPreservesOrderRecovery error = false → v.Refused)

/-- An error inside a creation is noted when it lets the row go. -/
theorem refuse_touches {refresh : Bool} {world : World} (hat : Ready row (world.part own)) :
    keys.Touches own world (world.refuse first own refresh error) ∧
      Failed first row error ((world.refuse first own refresh error).part own) := by
  refine ⟨⟨fun _ hother => part_refuse_other hother, fun hgood => ?_⟩, ?_⟩
  · change Good own (World.part _ _) ∧ Moves _ (World.part _ _)
    rw [part_refuse]
    split
    · exact ⟨hgood.refuse, .of_row rfl rfl⟩
    · exact ⟨hgood, .of_row rfl rfl⟩
  · rw [part_refuse]
    split
    · refine ⟨⟨hat.present, hat.waiting⟩, fun _ _ => ⟨_, List.mem_cons_self, ?_⟩⟩
      simp [hat.present, hat.waiting]
    · rename_i hcond
      refine ⟨hat, fun hfirst hrefuses => ?_⟩
      simp [hfirst, hrefuses] at hcond

theorem accessOrRefresh_tries :
    keys.Tries own (Ready row) (accessOrRefresh first own) (fun _ => Ready row)
      (Failed first row) := by
  refine .act fun answers world _ _ hat => ?_
  cases answers.token with
  | ok u => exact ⟨.refl, hat⟩
  | error error => exact refuse_touches hat

theorem post_tries (hkey : creation.key = own) (hrequest : orderCreation row = some creation) :
    keys.Tries own (Ready row) (post creation) (fun _ => Ready row) (Failed first row) := by
  subst hkey
  refine .act fun answers world _ _ hat => ?_
  cases answers.post with
  | some unsent =>
    refine ⟨.refl, hat, fun _ hrefuses => ?_⟩
    cases unsent <;> cases hrefuses
  | none =>
    refine ⟨⟨fun _ hother => part_send_other hother, fun hgood => ?_⟩, ?_⟩
    · change Good creation.key (World.part _ _) ∧ Moves _ (World.part _ _)
      rw [part_send]
      exact ⟨hgood.send hat.present hrequest, .of_row rfl rfl⟩
    · change Ready row (World.part _ _)
      rw [part_send]
      exact ⟨hat.present, hat.waiting⟩

/-- An order that the server returned for the row. -/
def Answered (row : PendingOrderRecord) (detail : OrderDetail) (v : KeyState) : Prop :=
  Ready row v ∧ detail ∈ v.returned

theorem receive_tries :
    keys.Tries own (Ready row) (receive first own) (Answered row) (Failed first row) := by
  refine .act fun answers world _ _ hat => ?_
  cases answers.reply.result with
  | error error => exact refuse_touches hat
  | ok detail =>
    refine ⟨⟨fun _ hother => part_returns_other hother, fun hgood => ?_⟩, ?_⟩
    · change Good own (World.part _ _) ∧ Moves _ (World.part _ _)
      rw [part_returns]
      exact ⟨hgood.gain, .of_row rfl rfl⟩
    · change Answered row detail (World.part _ _)
      rw [part_returns]
      exact ⟨⟨hat.present, hat.waiting⟩, List.mem_cons_self⟩

theorem sendOnce_tries (hkey : creation.key = own) (hrequest : orderCreation row = some creation) :
    keys.Tries own (Ready row) (sendOnce first creation) (Answered row) (Failed first row) := by
  subst hkey
  exact .bind (post_tries rfl hrequest) fun _ => receive_tries

theorem authenticatedJsonWithScope_tries (hkey : creation.key = own)
    (hrequest : orderCreation row = some creation) :
    keys.Tries own (Ready row) (authenticatedJsonWithScope first creation) (Answered row)
      (Failed first row) := by
  subst hkey
  refine .bind accessOrRefresh_tries fun _ => .catch (sendOnce_tries rfl hrequest) fun error => ?_
  refine .ite (fun _ => ?_) fun _ => .throw fun _ _ hat => hat
  refine .weaken ?_ fun _ _ hat => hat.1
  exact .bind accessOrRefresh_tries fun _ => sendOnce_tries rfl hrequest

theorem createOrderBilling_tries (hkey : creation.key = own)
    (hrequest : orderCreation row = some creation) :
    keys.Tries own (Ready row) (createOrderBilling first creation) (Answered row)
      (Failed first row) := by
  refine .catch (authenticatedJsonWithScope_tries hkey hrequest) fun error => .throw ?_
  rintro v - ⟨hready, hrefused⟩
  refine ⟨hready, fun hfirst hrefuses => hrefused hfirst ?_⟩
  rwa [preserves_withBillingPayer] at hrefuses

end Actions

end ArtForgeStudio.Payment
