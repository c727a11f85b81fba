import ArtForgeStudio.Redemption.Attempts

/-! # One live redemption per account

The saved record of an account is the key that may be sent. It goes away only with a success
or with the definitive failure of a first attempt.
-/

namespace ArtForgeStudio.Redemption

open ArtForgeStudio.Api ArtForgeStudio.Runs

/-- The record that a request redeems. -/
def RedeemRequest.record (request : RedeemRequest) : PendingCreditRedemption :=
  ⟨request.code, request.idempotencyKey, request.payer⟩

def RedeemRequest.owner (request : RedeemRequest) : String := request.session.ownerUserId

/-- A completion settled this key of this account: by a success, or by the definitive failure
of a first attempt. -/
def Settled (history : List Entry) (owner key : String) : Prop :=
  ∃ receipt outcome, .settled receipt outcome ∈ history ∧
    receipt.settlement outcome ≠ .ambiguousFailure ∧
    receipt.session.ownerUserId = owner ∧ receipt.key = key

/-- The saved record of the account is the one this request redeems, or its key is settled. -/
def Covered (saved : String → Records) (history : List Entry) (request : RedeemRequest) : Prop :=
  request.clientRequestId = request.idempotencyKey ∧
  (saved request.owner request.owner = some request.record ∨
    Settled history request.owner request.idempotencyKey)

structure Invariant (world : World) : Prop where
  mirrored : ∀ session, world.session = some session →
    world.memory = world.saved session.ownerUserId
  attempts : ∀ attempt ∈ world.attempts, Covered world.saved world.history attempt.request
  sent : ∀ request, .sent request ∈ world.history → Covered world.saved world.history request

section Basic

variable {world : World} {history : List Entry} {owner key : String} {request : RedeemRequest}
  {saved : String → Records}

theorem Settled.cons (entry : Entry) (h : Settled history owner key) :
    Settled (entry :: history) owner key := by
  obtain ⟨receipt, outcome, hmem, hrest⟩ := h
  exact ⟨receipt, outcome, List.mem_cons_of_mem _ hmem, hrest⟩

theorem Covered.cons (entry : Entry) (h : Covered saved history request) :
    Covered saved (entry :: history) request :=
  ⟨h.1, h.2.imp_right (·.cons entry)⟩

/-- A request of an account without a saved record was settled. -/
theorem Covered.settled (h : Covered saved history request)
    (hnone : saved request.owner request.owner = none) :
    Settled history request.owner request.idempotencyKey := by
  obtain hsaved | hsettled := h.2
  · rw [hnone] at hsaved
    cases hsaved
  · exact hsettled

/-- Covered requests stay covered when only the record of one account changes, from none to
some or together with a settlement of its key. -/
theorem Covered.update {session : SessionScope} {records : Records}
    (h : Covered saved history request)
    (howner : request.owner = session.ownerUserId →
      records session.ownerUserId = saved session.ownerUserId session.ownerUserId ∨
        Settled history request.owner request.idempotencyKey) :
    Covered (Function.update saved session.ownerUserId records) history request := by
  refine ⟨h.1, ?_⟩
  by_cases hsame : request.owner = session.ownerUserId
  · obtain hrecords | hsettled := howner hsame
    · rw [hsame, Function.update_self, hrecords, ← hsame]
      exact h.2
    · exact .inr hsettled
  · rw [Function.update_of_ne hsame]
    exact h.2

theorem readRetainedRedemption_ok {session : SessionScope} {fault : Option String}
    {row : PendingCreditRedemption} (h : readRetainedRedemption session key fault world = .ok row) :
    world.saved session.ownerUserId session.ownerUserId = some row ∧ row.clientRequestId = key := by
  unfold readRetainedRedemption at h
  split at h
  · cases h
  split at h
  · cases h
  · dsimp only at h
    cases hrow : (world.saved session.ownerUserId session.ownerUserId).filter fun row =>
        row.clientRequestId = key ∧ row.code ≠ "" ∧ row.billingAccountGroupId ≠ "" with
    | none =>
      rw [hrow] at h
      cases h
    | some found =>
      rw [hrow] at h
      dsimp only at h
      split at h
      · cases h
        obtain ⟨hsaved, hfound⟩ := Option.filter_eq_some_iff.mp hrow
        simp only [decide_eq_true_eq] at hfound
        exact ⟨hsaved, hfound.1⟩
      · cases h

theorem saveLocalStoreChecked_ok {session : SessionScope} {memory : Records}
    {fault : Option String} {next : World}
    (h : saveLocalStoreChecked session memory fault world = .ok next) :
    fault = none ∧ next = { world with
      memory := memory, saved := Function.update world.saved session.ownerUserId memory } := by
  unfold saveLocalStoreChecked at h
  split at h
  · cases h
  · split at h
    · cases h
    · cases h
      exact ⟨rfl, rfl⟩

end Basic

/-- What a preparation does: nothing, a replay of the saved record, or a new saved record. -/
inductive Prepared (session : SessionScope) (world : World) : Except ApiError Attempt × World → Prop
  | refused (error : ApiError) : Prepared session world (.error error, world)
  | replayed (attempt : Attempt) (record : PendingCreditRedemption)
      (hmemory : world.memory session.ownerUserId = some record)
      (hsaved : world.saved session.ownerUserId session.ownerUserId = some record)
      (hrequest : attempt.request = record.request session) :
      Prepared session world (.ok attempt, world)
  | created (attempt : Attempt) (record : PendingCreditRedemption) (pending : Records)
      (hmemory : world.memory session.ownerUserId = none)
      (hpending : pending = Function.update world.memory session.ownerUserId (some record))
      (hrequest : attempt.request = record.request session) :
      Prepared session world (.ok attempt, { world with
        memory := pending, saved := Function.update world.saved session.ownerUserId pending })

theorem prepareCreditRedemption_prepared (session : SessionScope) (code : String)
    (answers : Answers) (world : World) :
    Prepared session world (prepareCreditRedemption session code answers world) := by
  unfold prepareCreditRedemption
  cases hmemory : world.memory session.ownerUserId with
  | some existing =>
    dsimp only
    split
    · exact .refused _
    cases hread : readRetainedRedemption session existing.clientRequestId answers.readFault world with
    | error message => exact .refused _
    | ok source =>
      dsimp only
      split
      · exact .refused _
      · rename_i hsame
        obtain ⟨hsaved, -⟩ := readRetainedRedemption_ok hread
        obtain ⟨hpayer, hcode, hkey⟩ : source.billingAccountGroupId = existing.billingAccountGroupId ∧
            source.code = existing.code ∧ source.clientRequestId = existing.clientRequestId := by
          simpa only [not_or, ne_eq, not_not] using hsame
        have heq : source = existing := by
          cases source
          cases existing
          simp_all
        refine .replayed _ existing hmemory (heq ▸ hsaved) ?_
        rw [heq]
        rfl
  | none =>
    dsimp only
    cases answers.payer with
    | error error => exact .refused _
    | ok payer =>
      simp only [creditRedemptionRequestIdForBilling, hmemory]
      split
      · exact .refused _
      · rename_i next hsave
        obtain ⟨-, rfl⟩ := saveLocalStoreChecked_ok hsave
        exact .created _ ⟨code, answers.createRequestId, payer⟩ _ hmemory rfl rfl

section Steps

variable {world : World} {index : Nat}

/-- The new record of an account without one, and the attempt that carries it. -/
theorem Invariant.created (h : Invariant world) (record : PendingCreditRedemption)
    {session : SessionScope} (hsession : world.session = some session)
    (hmemory : world.memory session.ownerUserId = none) :
    let pending := Function.update world.memory session.ownerUserId (some record)
    Invariant { world with
      memory := pending, saved := Function.update world.saved session.ownerUserId pending } := by
  intro pending
  have hnone : world.saved session.ownerUserId session.ownerUserId = none := by
    rw [← h.mirrored session hsession, hmemory]
  have hcovered : ∀ request, Covered world.saved world.history request →
      Covered (Function.update world.saved session.ownerUserId pending) world.history request := by
    intro request hrequest
    refine hrequest.update fun howner => .inr (hrequest.settled ?_)
    rw [howner, hnone]
  refine ⟨fun other hother => ?_, fun attempt hattempt => hcovered _ (h.attempts attempt hattempt),
    fun request hrequest => hcovered _ (h.sent request hrequest)⟩
  obtain rfl := Option.some.inj (hsession.symm.trans hother)
  dsimp only
  rw [Function.update_self]

theorem covered_request (history : List Entry) {saved : String → Records}
    {record : PendingCreditRedemption} {session : SessionScope}
    (h : saved session.ownerUserId session.ownerUserId = some record) :
    Covered saved history (record.request session) :=
  ⟨rfl, .inl h⟩

theorem redeem_invariant (code : String) (answers : Answers) (h : Invariant world) :
    Invariant (redeem code answers world) := by
  unfold redeem
  split
  · exact h
  cases hsession : world.session with
  | none => exact h
  | some session =>
    dsimp only
    have hprepared := prepareCreditRedemption_prepared session code answers world
    generalize prepareCreditRedemption session code answers world = result at hprepared
    cases hprepared with
    | refused error => exact h
    | replayed attempt record hmemory hsaved hrequest =>
      have hcovered := hrequest ▸ covered_request world.history hsaved
      exact ⟨h.mirrored, List.forall_mem_cons.mpr ⟨hcovered, h.attempts⟩, h.sent⟩
    | created attempt record pending hmemory hpending hrequest =>
      subst hpending
      have hnext := h.created record hsession hmemory
      refine ⟨hnext.mirrored, List.forall_mem_cons.mpr ⟨?_, hnext.attempts⟩, hnext.sent⟩
      rw [hrequest]
      refine covered_request _ ?_
      dsimp only
      rw [Function.update_self, Function.update_self]

/-- Moving an attempt to another phase does not change its request. -/
theorem Invariant.setPhase (h : Invariant world) (index : Nat) (phase : Phase) :
    Invariant (world.setPhase index phase) := by
  refine ⟨h.mirrored, fun attempt hattempt => ?_, h.sent⟩
  obtain ⟨place, hplace⟩ := List.mem_iff_getElem?.mp hattempt
  simp only [World.setPhase, List.getElem?_modify, Option.map_eq_map, Option.map_eq_some_iff]
    at hplace
  obtain ⟨old, hold, rfl⟩ := hplace
  have hcovered := h.attempts old (List.mem_of_getElem? hold)
  split <;> exact hcovered

theorem startAttempt_invariant (readFault : Option String) (h : Invariant world) :
    Invariant (startAttempt index readFault world) := by
  unfold startAttempt
  split
  · split
    · exact h.setPhase _ _
    · exact h
  · exact h

theorem sendAttempt_invariant (h : Invariant world) : Invariant (sendAttempt index world) := by
  unfold sendAttempt
  cases hattempt : world.attempts[index]? with
  | none => exact h
  | some attempt =>
    dsimp only
    split
    · have hmoved := h.setPhase index (.running true)
      have hcovered := h.attempts attempt (List.mem_of_getElem? hattempt)
      refine ⟨hmoved.mirrored, fun other hother => (hmoved.attempts other hother).cons _, ?_⟩
      intro request hrequest
      obtain hnew | hold := List.mem_cons.mp hrequest
      · cases hnew
        exact hcovered.cons _
      · exact (h.sent request hold).cons _
    · exact h

theorem answerAttempt_invariant (outcome : Except ApiError Unit) (h : Invariant world) :
    Invariant (answerAttempt index outcome world) := by
  unfold answerAttempt
  split
  · split
    · exact { h.setPhase index _ with }
    · exact h.setPhase _ _
    · exact h
  · exact h

end Steps

/-- What a completion does to the records. -/
inductive Completed (receipt : CreditRedemptionReceipt) (outcome : Except ApiError Unit)
    (world : World) : World → Prop
  | kept (busy : Bool) : Completed receipt outcome world { world with busy := busy }
  | confirmed (hsession : world.session = some receipt.session)
      (hambiguous : receipt.settlement outcome = .ambiguousFailure) :
      Completed receipt outcome world { world with
        busy := false
        saved := Function.update world.saved receipt.session.ownerUserId world.memory }
  | settled (record : PendingCreditRedemption) (records : Records)
      (hrecords : records = Function.update world.memory receipt.session.ownerUserId none)
      (hsession : world.session = some receipt.session)
      (hrecord : world.memory receipt.session.ownerUserId = some record)
      (hkey : record.clientRequestId = receipt.key)
      (hsettles : receipt.settlement outcome ≠ .ambiguousFailure) :
      Completed receipt outcome world { world with
        busy := false
        memory := records
        saved := Function.update world.saved receipt.session.ownerUserId records
        history := .settled receipt outcome :: world.history }

theorem redemptionReceiptIsCurrent_iff {receipt : CreditRedemptionReceipt} {world : World} :
    redemptionReceiptIsCurrent receipt world = true ↔ world.upgradeTripped = false ∧
      world.session = some receipt.session ∧
      world.memory receipt.session.ownerUserId = some ⟨receipt.code, receipt.key, receipt.payer⟩ := by
  unfold redemptionReceiptIsCurrent
  cases world.memory receipt.session.ownerUserId with
  | none => simp
  | some record =>
    cases record
    simp [and_assoc]

theorem completeCreditRedemption_completed (receipt : CreditRedemptionReceipt)
    (outcome : Except ApiError Unit) (saveFault : Option String) (world : World) :
    Completed receipt outcome world (completeCreditRedemption receipt outcome saveFault world) := by
  unfold completeCreditRedemption
  split
  · exact .kept world.busy
  rename_i hcurrent
  obtain ⟨-, hsession, hrecord⟩ := redemptionReceiptIsCurrent_iff.mp (by simpa using hcurrent)
  dsimp only
  cases hsave : saveLocalStoreChecked receipt.session (settleCreditRedemption world.memory
      receipt.session.ownerUserId receipt.code receipt.key (receipt.settlement outcome)) saveFault
      { world with busy := false } with
  | error message => exact .kept false
  | ok next =>
    obtain ⟨-, rfl⟩ := saveLocalStoreChecked_ok hsave
    dsimp only
    unfold settleCreditRedemption
    by_cases hambiguous : receipt.settlement outcome = .ambiguousFailure
    · simp only [hambiguous, ne_eq, not_true_eq_false, false_and, if_true, if_false]
      exact .confirmed hsession hambiguous
    · simp only [hambiguous, ne_eq, not_false_eq_true, if_false, hrecord,
        Option.any_some, and_self, decide_true, if_true]
      exact .settled _ _ rfl hsession hrecord rfl hambiguous

theorem Completed.invariant {receipt : CreditRedemptionReceipt} {outcome : Except ApiError Unit}
    {world next : World} (hcompleted : Completed receipt outcome world next) (h : Invariant world) :
    Invariant next := by
  cases hcompleted with
  | kept busy => exact { h with }
  | confirmed hsession hambiguous =>
    have hsame : Function.update world.saved receipt.session.ownerUserId world.memory = world.saved := by
      rw [h.mirrored _ hsession, Function.update_eq_self]
    rw [hsame]
    exact { h with }
  | settled record records hrecords hsession hrecord hkey hsettles =>
    subst hrecords
    have hsaved : world.saved receipt.session.ownerUserId receipt.session.ownerUserId = some record := by
      rw [← h.mirrored _ hsession, hrecord]
    -- a request of this account redeems the removed record, whose key is now settled
    have hcovered : ∀ request, Covered world.saved world.history request →
        Covered (Function.update world.saved receipt.session.ownerUserId
            (Function.update world.memory receipt.session.ownerUserId none))
          (.settled receipt outcome :: world.history) request := by
      intro request hrequest
      refine (hrequest.cons _).update fun howner => .inr ?_
      obtain hrecord' | hsettled := hrequest.2
      · rw [howner, hsaved] at hrecord'
        have hrecordKey : record.clientRequestId = request.idempotencyKey :=
          congrArg (·.clientRequestId) (Option.some.inj hrecord')
        exact ⟨receipt, outcome, List.mem_cons_self, hsettles, howner.symm, hkey.symm.trans hrecordKey⟩
      · exact hsettled.cons _
    refine ⟨fun other hother => ?_, fun attempt hattempt => hcovered _ (h.attempts attempt hattempt),
      fun request hrequest => hcovered _ (h.sent request (by simpa using hrequest))⟩
    obtain rfl := Option.some.inj (hsession.symm.trans hother)
    dsimp only
    rw [Function.update_self]

theorem completeAttempt_invariant {world : World} {index : Nat} (saveFault : Option String)
    (h : Invariant world) : Invariant (completeAttempt index saveFault world) := by
  unfold completeAttempt
  split
  · split
    · refine (completeCreditRedemption_completed ..).invariant ?_
      exact ⟨h.mirrored, fun attempt hattempt => h.attempts attempt (List.mem_of_mem_eraseIdx hattempt),
        h.sent⟩
    · exact h
  · exact h

theorem step_invariant (event : Event) {world : World} (h : Invariant world) :
    Invariant (step event world) := by
  cases event with
  | redeem code answers => exact redeem_invariant code answers h
  | start index readFault => exact startAttempt_invariant readFault h
  | send index => exact sendAttempt_invariant h
  | answer index outcome => exact answerAttempt_invariant outcome h
  | complete index saveFault => exact completeAttempt_invariant saveFault h
  | switchBilling | trip => exact { h with }
  | save =>
    unfold step
    dsimp only
    split
    · exact h
    · rename_i session hsession
      rw [h.mirrored _ hsession, Function.update_eq_self, ← h.mirrored _ hsession]
      exact h
  | leave =>
    unfold step leaveAccount
    dsimp only
    split
    · exact h
    · exact ⟨fun session hsession => (Option.some_ne_none _ hsession.symm).elim, h.attempts, h.sent⟩
  | enter owner =>
    unfold step enterAccount
    dsimp only
    split
    · exact h
    · refine ⟨fun session hsession => ?_, h.attempts, h.sent⟩
      obtain rfl := Option.some.inj hsession
      rfl
  | restart =>
    exact ⟨fun session hsession => (Option.some_ne_none _ hsession.symm).elim,
      List.forall_mem_nil _, h.sent⟩

theorem runEvents_invariant (events : List Event) {world : World} (h : Invariant world) :
    Invariant (runEvents events world) := by
  induction events generalizing world with
  | nil => exact h
  | cons event events ih => exact ih (step_invariant event h)

theorem invariant_new (saved : String → Records) : Invariant { saved := saved } where
  mirrored session hsession := (Option.some_ne_none _ hsession.symm).elim
  attempts := List.forall_mem_nil _
  sent request hrequest := by cases hrequest

section Frames

variable {world : World} {event : Event}

/-- Only a worker that runs sends, and it sends the request of its attempt. -/
theorem step_history (event : Event) (world : World) :
    (step event world).history = world.history ∨
    (∃ receipt outcome, (step event world).history = .settled receipt outcome :: world.history) ∨
    ∃ attempt ∈ world.attempts, (step event world).history = .sent attempt.request :: world.history := by
  cases event with
  | redeem code answers =>
    left
    unfold step redeem
    dsimp only
    split
    · rfl
    cases world.session with
    | none => rfl
    | some session =>
      dsimp only
      have hprepared := prepareCreditRedemption_prepared session code answers world
      generalize prepareCreditRedemption session code answers world = result at hprepared
      cases hprepared <;> rfl
  | switchBilling | trip | restart => exact .inl rfl
  | save | leave | enter owner =>
    left
    simp only [step, leaveAccount, enterAccount]
    split <;> rfl
  | start index readFault =>
    left
    simp only [step, startAttempt]
    split
    · split <;> rfl
    · rfl
  | answer index outcome =>
    left
    simp only [step, answerAttempt]
    split
    · split <;> rfl
    · rfl
  | send index =>
    simp only [step, sendAttempt]
    cases hattempt : world.attempts[index]? with
    | none => exact .inl rfl
    | some attempt =>
      dsimp only
      split
      · exact .inr (.inr ⟨attempt, List.mem_of_getElem? hattempt, rfl⟩)
      · exact .inl rfl
  | complete index saveFault =>
    simp only [step, completeAttempt]
    split
    · rename_i attempt hattempt
      split
      · rename_i outcome hphase
        have hcompleted := completeCreditRedemption_completed attempt.receipt outcome saveFault
          { world with attempts := world.attempts.eraseIdx index }
        generalize completeCreditRedemption _ _ _ _ = next at hcompleted
        cases hcompleted with
        | kept | confirmed => exact .inl rfl
        | settled => exact .inr (.inl ⟨_, _, rfl⟩)
      · exact .inl rfl
    · exact .inl rfl

/-- A request that a step sends is covered. -/
theorem Invariant.sends (h : Invariant world) {request : RedeemRequest}
    (hsent : (step event world).history = .sent request :: world.history) :
    Covered world.saved world.history request := by
  obtain hsame | ⟨receipt, outcome, hsettled⟩ | ⟨attempt, hattempt, hnew⟩ := step_history event world
  · rw [hsame] at hsent
    exact absurd hsent (List.cons_ne_self _ _).symm
  · rw [hsettled] at hsent
    cases hsent
  · rw [hnew] at hsent
    cases hsent
    exact h.attempts attempt hattempt

theorem update_saved_other {saved : String → Records} {owner : String} {records : Records}
    {account other : String} (hrecords : records other = saved owner other) :
    Function.update saved owner records account other = saved account other := by
  by_cases haccount : account = owner
  · rw [haccount, Function.update_self, hrecords]
  · rw [Function.update_of_ne haccount]

/-- A step changes no saved record but the one of the account in session. -/
theorem Invariant.saved_other (h : Invariant world) (event : Event) (account other : String)
    (hother : ∀ session, world.session = some session → session.ownerUserId ≠ other) :
    (step event world).saved account other = world.saved account other := by
  cases event with
  | redeem code answers =>
    unfold step redeem
    dsimp only
    split
    · rfl
    cases hsession : world.session with
    | none => rfl
    | some session =>
      dsimp only
      have hne := (hother session hsession).symm
      have hprepared := prepareCreditRedemption_prepared session code answers world
      generalize prepareCreditRedemption session code answers world = result at hprepared
      cases hprepared with
      | refused | replayed => rfl
      | created attempt record pending hmemory hpending =>
        refine update_saved_other ?_
        rw [hpending, Function.update_of_ne hne, h.mirrored session hsession]
  | switchBilling | trip | restart => rfl
  | leave | enter owner =>
    simp only [step, leaveAccount, enterAccount]
    split <;> rfl
  | save =>
    simp only [step]
    split
    · rfl
    · rename_i session hsession
      dsimp only
      rw [h.mirrored session hsession, Function.update_eq_self]
  | start index readFault =>
    simp only [step, startAttempt]
    split
    · split <;> rfl
    · rfl
  | answer index outcome =>
    simp only [step, answerAttempt]
    split
    · split <;> rfl
    · rfl
  | send index =>
    simp only [step, sendAttempt]
    split
    · split <;> rfl
    · rfl
  | complete index saveFault =>
    simp only [step, completeAttempt]
    split
    · rename_i attempt hattempt
      split
      · rename_i outcome hphase
        have hcompleted := completeCreditRedemption_completed attempt.receipt outcome saveFault
          { world with attempts := world.attempts.eraseIdx index }
        generalize completeCreditRedemption _ _ _ _ = next at hcompleted
        cases hcompleted with
        | kept => rfl
        | confirmed hsession => exact update_saved_other (by rw [← h.mirrored _ hsession])
        | settled record records hrecords hsession =>
          have hne := (hother _ hsession).symm
          refine update_saved_other ?_
          rw [hrecords, Function.update_of_ne hne, ← h.mirrored _ hsession]
      · rfl
    · rfl

end Frames

section Replay

variable {world : World}

/-- A completion that does not settle, or whose save fails, leaves the records alone. -/
theorem Invariant.complete_kept (h : Invariant world) {index : Nat} {saveFault : Option String}
    {attempt : Attempt} {outcome : Except ApiError Unit}
    (hattempt : world.attempts[index]? = some attempt) (hphase : attempt.phase = .finished outcome)
    (hkept : attempt.receipt.settlement outcome = .ambiguousFailure ∨ saveFault.isSome) :
    (step (.complete index saveFault) world).memory = world.memory ∧
      (step (.complete index saveFault) world).saved = world.saved := by
  simp only [step, completeAttempt, hattempt, hphase]
  cases saveFault with
  | some message =>
    unfold completeCreditRedemption saveLocalStoreChecked
    split <;> exact ⟨rfl, rfl⟩
  | none =>
    have hcompleted := completeCreditRedemption_completed attempt.receipt outcome none
      { world with attempts := world.attempts.eraseIdx index }
    generalize completeCreditRedemption _ _ _ _ = next at hcompleted
    cases hcompleted with
    | kept => exact ⟨rfl, rfl⟩
    | confirmed hsession =>
      refine ⟨rfl, ?_⟩
      dsimp only
      rw [h.mirrored _ hsession, Function.update_eq_self]
    | settled _ _ _ _ _ _ hsettles => simp [hsettles] at hkept

/-- While an account has a record, its next attempt sends that record again. -/
theorem redeem_replays {session : SessionScope} {record : PendingCreditRedemption} {code : String}
    {answers : Answers} {attempt : Attempt} (hsession : world.session = some session)
    (hrecord : world.memory session.ownerUserId = some record)
    (hnew : (step (.redeem code answers) world).attempts = attempt :: world.attempts) :
    attempt.request = record.request session := by
  unfold step redeem at hnew
  dsimp only at hnew
  split at hnew
  · exact absurd hnew (List.cons_ne_self _ _).symm
  rw [hsession] at hnew
  dsimp only at hnew
  have hprepared := prepareCreditRedemption_prepared session code answers world
  generalize prepareCreditRedemption session code answers world = result at hprepared hnew
  cases hprepared with
  | refused => exact absurd hnew (List.cons_ne_self _ _).symm
  | replayed next other hmemory hsaved hrequest =>
    cases hnew
    rw [hrequest, Option.some.inj (hmemory.symm.trans hrecord)]
  | created next other pending hmemory =>
    rw [hrecord] at hmemory
    cases hmemory

/-- And it does so whenever the form is free and the store answers. -/
theorem Invariant.redeem_ready (h : Invariant world) {session : SessionScope}
    {record : PendingCreditRedemption} {answers : Answers} (hsession : world.session = some session)
    (hrecord : world.memory session.ownerUserId = some record)
    (hcode : record.code ≠ "") (hpayer : parsesAsUuid record.billingAccountGroupId)
    (hbusy : world.busy = false) (htripped : world.upgradeTripped = false)
    (hread : answers.readFault = none) :
    ∃ attempt, (step (.redeem record.code answers) world).attempts = attempt :: world.attempts := by
  have hsaved : world.saved session.ownerUserId session.ownerUserId = some record := by
    rw [← h.mirrored session hsession, hrecord]
  have hnamed : record.billingAccountGroupId ≠ "" := by
    rintro hempty
    rw [hempty] at hpayer
    exact absurd hpayer (by decide)
  simp [step, redeem, prepareCreditRedemption, readRetainedRedemption, hbusy, hsession, hrecord,
    hread, htripped, hsaved, hcode, hnamed, hpayer, Option.filter]

end Replay

/-- In every run from any saved records: a request is sent only while the saved record of its
account is the one it redeems, or after its key was settled; no other key of the account is
open then; a completion that does not settle or cannot save keeps the record, which the next
attempt sends again; and the records of other accounts do not change. -/
theorem one_live_redemption (saved : String → Records) (events : List Event) (event : Event) :
    let world := runEvents events { saved := saved }
    let next := step event world
    (∀ request, next.history = .sent request :: world.history →
      request.clientRequestId = request.idempotencyKey ∧
      (world.saved request.owner request.owner = some request.record ∨
        Settled world.history request.owner request.idempotencyKey) ∧
      ∀ earlier, .sent earlier ∈ world.history → earlier.owner = request.owner →
        earlier.idempotencyKey ≠ request.idempotencyKey →
        Settled world.history earlier.owner earlier.idempotencyKey ∨
          Settled world.history request.owner request.idempotencyKey) ∧
    (∀ index saveFault attempt outcome, event = .complete index saveFault →
      world.attempts[index]? = some attempt → attempt.phase = .finished outcome →
      attempt.receipt.settlement outcome = .ambiguousFailure ∨ saveFault.isSome →
      next.memory = world.memory ∧ next.saved = world.saved) ∧
    (∀ session record code answers, world.session = some session →
      world.memory session.ownerUserId = some record → event = .redeem code answers →
      (∀ attempt, next.attempts = attempt :: world.attempts →
        attempt.request = record.request session) ∧
      (code = record.code → record.code ≠ "" → parsesAsUuid record.billingAccountGroupId →
        world.busy = false → world.upgradeTripped = false → answers.readFault = none →
        ∃ attempt, next.attempts = attempt :: world.attempts)) ∧
    (∀ session, world.session = some session → world.memory = world.saved session.ownerUserId) ∧
    ∀ account other, (∀ session, world.session = some session → session.ownerUserId ≠ other) →
      next.saved account other = world.saved account other := by
  intro world next
  have h : Invariant world := runEvents_invariant events (invariant_new saved)
  refine ⟨fun request hsent => ?_, ?_, ?_, h.mirrored, fun account other hother => ?_⟩
  · have hcovered := h.sends hsent
    refine ⟨hcovered.1, hcovered.2, fun earlier hearlier howner hkey => ?_⟩
    obtain hrecord | hsettled := (h.sent earlier hearlier).2
    · obtain hrecord' | hsettled' := hcovered.2
      · -- both are the saved record of the account
        rw [howner, hrecord'] at hrecord
        exact absurd (congrArg (·.clientRequestId) (Option.some.inj hrecord)).symm hkey
      · exact .inr hsettled'
    · exact .inl hsettled
  · rintro index saveFault attempt outcome rfl hattempt hphase hkept
    exact h.complete_kept hattempt hphase hkept
  · rintro session record code answers hsession hrecord rfl
    refine ⟨fun attempt hnew => redeem_replays hsession hrecord hnew, ?_⟩
    rintro rfl hcode hpayer hbusy htripped hread
    exact h.redeem_ready hsession hrecord hcode hpayer hbusy htripped hread
  · exact h.saved_other event account other hother

/-- An attempt that another payer's form left behind still sends when a replay of its record
was settled meanwhile: the saved record then holds another key, which is open. -/
theorem settled_key_sent_again :
    ¬ ∀ (saved : String → Records) (events : List Event) (event : Event) (request : RedeemRequest),
      let world := runEvents events { saved := saved }
      (step event world).history = .sent request :: world.history →
      world.saved request.owner request.owner = some request.record ∧
      ∀ earlier, .sent earlier ∈ world.history → earlier.owner = request.owner →
        earlier.idempotencyKey ≠ request.idempotencyKey →
        Settled world.history earlier.owner earlier.idempotencyKey := by
  intro hclaim
  let payer := "5f3c1a52-7c1b-4c8e-9a61-0d7e4b1f2c30"
  let first : Answers := { payer := .ok payer, createRequestId := "first" }
  let second : Answers := { payer := .ok payer, createRequestId := "second" }
  let events : List Event := [.enter "owner", .redeem "CODE-A" first, .switchBilling,
    .redeem "CODE-A" first, .start 0 none, .send 0, .answer 0 (.ok ()), .complete 0 none,
    .redeem "CODE-B" second, .start 0 none, .send 0, .start 1 none]
  have hrecord := (hclaim (fun _ _ => none) events (.send 1)
    ⟨⟨"owner", 1⟩, payer, "first", "CODE-A", "first"⟩ (by decide +kernel)).1
  exact absurd hrecord (by decide +kernel)

end ArtForgeStudio.Redemption
