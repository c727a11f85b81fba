import ArtForgeStudio.Payment.Rules

/-! # The three workers

A worker binds the order that was returned for its row, and removes the row only when that
order is settled or its first creation was refused.
-/

namespace ArtForgeStudio.Payment

open ArtForgeStudio.Api ArtForgeStudio.Recovery ArtForgeStudio.KeyedRows ArtForgeStudio.Concurrency
  ArtForgeStudio.Outcome KeyState Parts

theorem orderCreation_payer {row : PendingOrderRecord} {creation : Creation}
    (h : orderCreation row = some creation) :
    creation.key = row.clientRequestId ∧ creation.payer = row.billingAccountGroupId ∧
      creation.product = row.productCode := by
  unfold orderCreation at h
  split at h
  · cases h
    exact ⟨rfl, rfl, rfl⟩
  · cases h

theorem requireOrder_ok {record : PendingOrderRecord} {order : OrderDetail}
    (h : requireOrder record order = .ok ()) :
    record.billingAccountGroupId = order.billingAccountGroupId ∧
      (record.orderId = "" ∨ record.orderId = order.id) := by
  obtain ⟨_, hgroup, hid⟩ := bind_eq_ok.mp h
  refine ⟨requireSavedGroup_ok hgroup, ?_⟩
  split at hid
  · cases hid
  · rename_i hcond
    by_cases hempty : record.orderId = ""
    · exact .inl hempty
    · exact .inr (by simpa [hempty] using fun hne => hcond (.inr ⟨hempty, hne⟩))

theorem requireOrder_preserves {record : PendingOrderRecord} {order : OrderDetail} {error : ApiError}
    (h : requireOrder record order = .error error) : Preserves error := by
  unfold requireOrder requireSavedGroup at h
  split at h
  · simp only [bind, Except.bind] at h
    split at h
    · cases h
      rfl
    · cases h
  · cases h
    rfl

/-- The order was returned, and the row has the order id of the record. -/
structure Binding (record : PendingOrderRecord) (order : OrderDetail) (v : KeyState) : Prop where
  row : ∃ row, v.row = some row ∧ row.orderId = record.orderId
  order : order ∈ v.returned

section Binding

variable {own : String} {worker : PaymentWorker} {record : PendingOrderRecord} {order : OrderDetail}

theorem rebindOrder_tries (hkey : record.clientRequestId = own) :
    keys.Tries own (Binding record order) (rebindOrder worker record)
      (fun rebound v => Binding rebound order v ∧ rebound.clientRequestId = record.clientRequestId ∧
        rebound.billingAccountGroupId = record.billingAccountGroupId ∧
        rebound.orderId = record.orderId)
      fun error _ => Preserves error := by
  refine .ite (fun _ => ?_) fun _ => .pure fun _ _ hat => ⟨hat, rfl, rfl, rfl⟩
  refine .bind (.fails (requireUpdate_tries (Q := Binding record order) hkey (by simp) ?_)
    fun _ _ _ h => h.1) fun _ => .pure fun v _ hat => ⟨⟨hat.row, hat.order⟩, rfl, rfl, rfl⟩
  intro v row hgood hat _ hrow _
  obtain ⟨saved, hsaved, hid⟩ := hat.row
  cases hrow.symm.trans hsaved
  exact ⟨hgood.edit hrow rfl (.inr rfl), .edit hrow (.inr rfl),
    ⟨_, rfl, hid⟩, hat.order⟩

/-- The order id is written where there is none, or once more. -/
theorem updateOrderId_tries (hkey : record.clientRequestId = own)
    (hid : record.orderId = "" ∨ record.orderId = order.id) :
    keys.Tries own (Binding record order)
      (requireUpdate worker.authority (.orderId (RecoveryRow.identity record) order.id))
      (fun _ => Binding { record with orderId := order.id } order)
      fun error _ => Preserves error := by
  refine .fails (requireUpdate_tries hkey (by simp) ?_) fun _ _ _ h => h.1
  intro v row hgood hat _ hrow _
  obtain ⟨saved, hsaved, hsame⟩ := hat.row
  cases hrow.symm.trans hsaved
  have hkept : row.orderId = "" ∨ order.id = row.orderId := by
    rw [show row.orderId = record.orderId from hsame]
    exact hid.imp_right Eq.symm
  exact ⟨hgood.edit hrow rfl (.inr rfl), .edit hrow hkept,
    ⟨_, rfl, rfl⟩, hat.order⟩

theorem dismissOrder_tries {P : KeyState → Prop} (hkey : record.clientRequestId = own)
    (hP : ∀ v row, P v → v.row = some (core row) → P (v.edit (some row))) :
    keys.Tries own P (dismissOrder worker record) (fun _ => P) fun error v => Preserves error ∧ P v := by
  refine .bind presentationDismissed_tries fun dismissed => ?_
  refine .ite (fun _ => requireUpdate_tries hkey (by simp) ?_) fun _ => .pure fun _ _ hat => hat
  intro v row hgood hat _ hrow _
  exact ⟨hgood.edit hrow rfl (.inr rfl), .edit hrow (.inr rfl), hP v row hat hrow⟩

/-- The row of a settled order may go. -/
theorem removeSettled_tries (hkey : record.clientRequestId = own)
    (hpayer : record.billingAccountGroupId = order.billingAccountGroupId) :
    keys.Tries own (Binding record order) (removeSettled worker record order) (fun _ _ => True)
      fun error _ => Preserves error := by
  refine .ite (fun hsettled => ?_) fun _ => .pure fun _ _ _ => trivial
  refine .bind (.fails ensureActive_tries fun _ _ _ h => h.1) fun _ => ?_
  refine .fails (requireUpdate_tries hkey (by simp) ?_) fun _ _ _ h => h.1
  intro v row hgood hat _ hrow hidentity
  refine ⟨hgood.remove fun creation hmem => .inl ⟨order, hat.order, ?_, hsettled⟩, .remove, trivial⟩
  have hrowPayer : row.billingAccountGroupId = record.billingAccountGroupId :=
    congrArg RecoveryRecordIdentity.billingAccountGroupId hidentity
  rw [(orderCreation_payer (hgood.request _ hrow creation hmem)).2.1, ← hpayer, ← hrowPayer]
  rfl

theorem bindAndSettleOrder_tries (hkey : record.clientRequestId = own) :
    keys.Tries own (Binding record order) (bindAndSettleOrder worker record order) (fun _ _ => True)
      fun error _ => Preserves error := by
  refine .bind (.fails ensureActive_tries fun _ _ _ h => h.1) fun _ => ?_
  refine .bind (Q := fun _ v => Binding record order v ∧ requireOrder record order = .ok ())
    (Judges.done fun v _ hat => ?_) fun _ => ?_
  · cases hrequire : requireOrder record order with
    | error error => exact requireOrder_preserves hrequire
    | ok u => exact ⟨hat, rfl⟩
  refine .given (fun _ _ hat => hat.2) fun hrequire => .weaken ?_ fun _ _ hat => hat.1
  obtain ⟨hpayer, hid⟩ := requireOrder_ok hrequire
  refine .bind (rebindOrder_tries hkey) fun rebound => ?_
  refine .given (fun _ _ hat => hat.2) fun hrebound => .weaken ?_ fun _ _ hat => hat.1
  obtain ⟨hkey', hpayer', hid'⟩ := hrebound
  obtain rfl : rebound.clientRequestId = own := hkey'.trans hkey
  refine .bind (.fails ensureActive_tries fun _ _ _ h => h.1) fun _ => ?_
  refine .bind (updateOrderId_tries rfl (hid' ▸ hid)) fun _ => ?_
  refine .bind (.fails (dismissOrder_tries rfl ?_) fun _ _ _ h => h.1) fun _ => ?_
  · intro v row hat hrow
    obtain ⟨saved, hsaved, hsame⟩ := hat.row
    exact ⟨⟨core row, rfl, (Option.some.inj (hrow.symm.trans hsaved)) ▸ hsame⟩, hat.order⟩
  refine .bind findSavedPayment_tries fun saved => ?_
  refine .bind (.weaken (removeSettled_tries rfl (hpayer'.trans hpayer)) ?_) fun _ =>
    .pure fun _ _ _ => trivial
  exact fun _ _ hat => ⟨hat.1.row, hat.1.order⟩

end Binding

section Recovery

variable {own : String} {worker : PaymentWorker} {record : PendingOrderRecord}

theorem orderCreation_saved {row : PendingOrderRecord} {path : String} {body : Json}
    (h : savedOrderRequest row = .ok (path, body)) :
    row.orderId = "" ∧ orderCreation (core row) =
      some ⟨row.clientRequestId, row.billingAccountGroupId, row.productCode, path, body⟩ := by
  obtain ⟨_, hempty, -⟩ := bind_eq_ok.mp h
  have hid : row.orderId = "" := by simpa using hempty
  have hsame : savedOrderRequest { core row with orderId := "" } = savedOrderRequest row := by
    simp [savedOrderRequest, core, hid]
  exact ⟨hid, by simp only [orderCreation, hsame, h]; rfl⟩

/-- A replay sends what the row under its key asks for. -/
theorem replaySaved_tries :
    keys.Tries own (fun v => v.row = some (core record)) (replaySaved worker own)
      (Answered (core record)) fun _ _ => True := by
  refine .bind (Q := fun request v => v.row = some (core record) ∧
      ∃ row, core row = core record ∧ row.clientRequestId = own ∧
        savedOrderRequest row = .ok (request.path, request.body) ∧
        request = ⟨worker.session, own, row.billingAccountGroupId, row, request.body, request.path⟩)
    (.read fun answers world _ hat => ?_) fun request => ?_
  · cases hload : SavedReplayRequest.order answers.readable worker.authority worker.session own
        world.file with
    | error failure => trivial
    | ok request =>
      obtain ⟨row, hlookup, hrequest, heq⟩ := order_ok hload
      have hcore : (world.part own).row = some (core row) := congrArg (Option.map core) hlookup
      exact ⟨hat, row, Option.some.inj (hcore.symm.trans hat), key_of_find hlookup, hrequest, heq⟩
  refine .given (fun _ _ hat => hat.2) ?_
  rintro ⟨row, hrow, hkey, hrequest, heq⟩
  obtain ⟨hid, hcreation⟩ := orderCreation_saved hrequest
  refine .weaken ?_ fun v _ hat => (⟨hrow ▸ hat.1, hid⟩ : Ready (core row) v)
  refine .bind (Q := fun _ => Ready (core row)) (.read fun answers _ _ hat => ?_) fun _ => ?_
  · cases answers.admission with
    | error error => trivial
    | ok u => exact hat
  refine .bind (Q := fun _ => Ready (core row)) (.read fun answers world _ hat => ?_) fun _ => ?_
  · cases request.verify (loadPendingOrders answers.readable worker.authority world.file) with
    | error failure => trivial
    | ok u => exact hat
  rw [heq, ← hrow]
  exact .fails (createOrderBilling_tries rfl (hkey ▸ hcreation)) fun _ _ _ _ => trivial

theorem recoverPendingOrderWorker_tries (hkey : record.clientRequestId = own) :
    keys.Tries own (fun v => v.row = some (core record)) (recoverPendingOrderWorker worker record)
      (fun _ _ => True) fun _ _ => True := by
  subst hkey
  refine .bind (.fails ensureActive_tries fun _ _ _ _ => trivial) fun _ => ?_
  refine .ite (fun _ => .throw fun _ _ _ => trivial) fun _ => ?_
  refine .bind (Q := fun order v => v.row = some (core record) ∧ order ∈ v.returned) ?_
    fun order => .weaken (.fails (bindAndSettleOrder_tries rfl) fun _ _ _ _ => trivial)
      fun _ _ hat => ⟨⟨core record, hat.1, rfl⟩, hat.2⟩
  refine .ite (fun _ => .ite (fun _ => .throw fun _ _ _ => trivial) fun _ => ?_) fun _ =>
    queryOrder_tries
  exact replaySaved_tries.mono (fun _ _ hat => hat) (fun _ _ _ hat => ⟨hat.1.present, hat.2⟩)
    fun _ _ _ _ => trivial

theorem syncPaymentWorker_tries {orderId : String} :
    keys.Tries own (fun _ => True) (syncPaymentWorker worker own orderId) (fun _ _ => True)
      fun _ _ => True := by
  refine .bind (.fails ensureActive_tries fun _ _ _ _ => trivial) fun _ => ?_
  refine .bind (.fails findSavedPayment_tries fun _ _ _ _ => trivial) fun record => ?_
  refine .given (fun _ _ hat => hat.2.2) fun hkey => .weaken ?_ fun _ _ hat => hat.2.1
  refine .ite (fun _ => .throw fun _ _ _ => trivial) fun _ => ?_
  refine .bind (.fails ensureActive_tries fun _ _ _ _ => trivial) fun _ => ?_
  refine .bind queryOrder_tries fun order => ?_
  exact .weaken (.fails (bindAndSettleOrder_tries hkey) fun _ _ _ _ => trivial)
    fun _ _ hat => ⟨⟨core record, hat.1, rfl⟩, hat.2⟩

end Recovery

section Creation

variable {own : String} {worker : PaymentWorker} {scope : BillingScope}
  {record : PendingOrderRecord}

/-- The row of a submission before its creation is sent. -/
structure Fresh (record : PendingOrderRecord) (v : KeyState) : Prop where
  present : v.row = some (core record)
  unsent : v.sent = []

/-- The order was returned for a row that had no order id. -/
def Created (order : OrderDetail) (v : KeyState) : Prop :=
  (∃ row, v.row = some row ∧ row.orderId = "") ∧ order ∈ v.returned

theorem Fresh.ready {v : KeyState} (h : Fresh record v) (hid : record.orderId = "") :
    Ready (core record) v := ⟨h.present, hid⟩

theorem createBilling_tries {creation : Creation} {row : PendingOrderRecord}
    (hkey : creation.key = own) (hrequest : orderCreation (core row) = some creation)
    (hid : row.orderId = "") :
    keys.Tries own (Fresh row) (createOrderBilling true creation) Created Abandonable :=
  (createOrderBilling_tries hkey hrequest).mono (fun _ _ hat => hat.ready hid)
    (fun _ _ _ hat => ⟨⟨_, hat.1.present, hat.1.waiting⟩, hat.2⟩)
    fun _ _ _ hat hrefuses => .inr (hat.2 rfl hrefuses)

theorem createUpgradeOrderChecked_tries (hkey : record.clientRequestId = own)
    (hkind : record.kind = "membership_upgrade") (hid : record.orderId = "")
    (hpayer : record.billingAccountGroupId = scope.accountGroupId) :
    keys.Tries own (Fresh record) (createUpgradeOrderChecked worker scope record) Created
      Abandonable := by
  have hactive : ∀ {row}, keys.Tries own (Fresh row) ensureActive (fun _ => Fresh row) Abandonable :=
    .fails ensureActive_tries fun _ _ _ h => .of_preserves h.1
  refine .bind hactive fun _ => ?_
  refine .bind (.fails createUpgradeQuote_tries fun _ _ _ hat _ => .inl hat.unsent) fun quote => ?_
  refine .bind hactive fun _ => .bind hactive fun _ => ?_
  refine .bind (Q := fun _ v => Fresh { record with upgradeQuoteId := quote } v ∧
      trimIsEmpty quote = false) (.fails (requireUpdate_tries hkey (by simp) ?_)
    fun _ _ _ h => .of_preserves h.1) fun _ => ?_
  · intro v row hgood hat haccepts hrow _
    have hcore : core row = core record := Option.some.inj (hrow.symm.trans hat.present)
    refine ⟨hgood.edit hrow rfl (.inl hat.unsent), .edit hrow (.inr rfl), ⟨?_, hat.unsent⟩, haccepts⟩
    exact congrArg (fun row => some { row with upgradeQuoteId := quote }) hcore
  refine .given (fun _ _ hat => hat.2) fun hquote => .weaken ?_ fun _ _ hat => hat.1
  refine .bind hactive fun _ => createBilling_tries hkey ?_ hid
  have hne : quote ≠ "" := by
    rintro rfl
    cases hquote
  simp [orderCreation, savedOrderRequest, core, hkind, hne, hpayer, ensure, bind, Except.bind, pure,
    Except.pure]

theorem createOrder_tries (hkey : record.clientRequestId = own) (hid : record.orderId = "")
    (hpayer : record.billingAccountGroupId = scope.accountGroupId) :
    keys.Tries own (Fresh record) (createOrder worker scope record) Created Abandonable := by
  unfold createOrder
  dsimp only
  split
  · rename_i hkind
    refine createBilling_tries hkey ?_ hid
    simp [orderCreation, savedOrderRequest, core, hkind, hpayer, ensure, bind, Except.bind, pure,
      Except.pure]
  · rename_i hkind
    refine createBilling_tries hkey ?_ hid
    simp [orderCreation, savedOrderRequest, core, hkind, hpayer, ensure, bind, Except.bind, pure,
      Except.pure]
  · rename_i hkind
    exact createUpgradeOrderChecked_tries hkey hkind hid hpayer
  · exact .throw fun _ _ _ => .of_preserves rfl

theorem submitOrder_tries (hkey : record.clientRequestId = own) (hid : record.orderId = "")
    (hpayer : record.billingAccountGroupId = scope.accountGroupId) :
    keys.Tries own (Fresh record) (submitOrder worker scope record) (fun _ _ => True) Abandonable := by
  have hactive : keys.Tries own (Fresh record) ensureActive (fun _ => Fresh record) Abandonable :=
    .fails ensureActive_tries fun _ _ _ h => .of_preserves h.1
  refine .bind hactive fun _ => ?_
  refine .bind (.fails acceptAgreements_tries fun _ _ _ hat _ => .inl hat.unsent) fun _ => ?_
  refine .bind hactive fun _ => .bind (createOrder_tries hkey hid hpayer) fun order => ?_
  refine .weaken (.fails (bindAndSettleOrder_tries hkey) fun _ _ _ h => .of_preserves h) ?_
  rintro v - ⟨⟨row, hrow, hempty⟩, hreturned⟩
  exact ⟨⟨row, hrow, hempty.trans hid.symm⟩, hreturned⟩

/-- The row goes after a refusal, or without a request. -/
theorem abandonRefused_tries {error : ApiError} (hkey : record.clientRequestId = own) :
    keys.Tries own (Abandonable error) (abandonRefused worker record error) (fun _ _ => True)
      fun _ _ => True := by
  subst hkey
  refine .ite (fun _ => .pure fun _ _ _ => trivial) fun hrefuses => ?_
  refine .bind isActive_tries fun active => ?_
  refine .ite (fun _ => ?_) fun _ => .pure fun _ _ _ => trivial
  refine .bind (.fails findSavedPayment_tries fun _ _ _ _ => trivial) fun current => ?_
  refine .given (fun _ _ hat => hat.2.2) fun hkey => ?_
  refine .ite (fun _ => ?_) fun _ => .pure fun _ _ _ => trivial
  refine .fails (requireUpdate_tries hkey (by simp) ?_) fun _ _ _ _ => trivial
  intro v row hgood hat _ _ _
  refine ⟨hgood.remove fun creation hmem => .inr ?_, .remove, trivial⟩
  rcases hat.1 (by simpa using hrefuses) with hnone | hrefused
  · exact absurd hmem (by simp [hnone])
  · exact hrefused

theorem createStoredOrder_tries (hkey : record.clientRequestId = own) (hid : record.orderId = "") :
    keys.Tries own (fun v => v.stored = false) (createStoredOrder worker scope record)
      (fun _ _ => True) fun _ _ => True := by
  refine .bind (.fails (upsertPendingOrder_tries hkey) fun _ _ _ _ => trivial) fun _ => ?_
  refine .given (fun _ _ hat => hat.2.2) fun hpayer => ?_
  refine .weaken (P := Fresh record) ?_ fun v _ hat => ⟨hat.1, hat.2.1⟩
  refine .bind (.fails (dismissOrder_tries hkey ?_) fun _ _ _ _ => trivial) fun _ => ?_
  · intro v row hat hrow
    exact ⟨hrow.symm.trans hat.present, hat.unsent⟩
  refine .catch (submitOrder_tries hkey hid hpayer) fun error => ?_
  exact .bind (abandonRefused_tries hkey) fun _ => .throw fun _ _ _ => trivial

/-- A worker with a new key. -/
theorem createPaymentWorker_tries (hkey : record.clientRequestId = own) (hid : record.orderId = "") :
    keys.Tries own (fun v => v.stored = false) (createPaymentWorker worker scope record)
      (fun _ _ => True) fun _ _ => True := by
  have hactive : keys.Tries own (fun v => v.stored = false) ensureActive
      (fun _ v => v.stored = false) fun _ _ => True :=
    .fails ensureActive_tries fun _ _ _ _ => trivial
  refine .bind hactive fun _ => .bind hactive fun _ => ?_
  exact .bind presentationDismissed_tries fun dismissed => createStoredOrder_tries hkey hid

end Creation

end ArtForgeStudio.Payment
