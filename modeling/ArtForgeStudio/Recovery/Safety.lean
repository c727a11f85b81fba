import ArtForgeStudio.Recovery.Runs
import ArtForgeStudio.Library.Runs

/-! # Safety of runs over the three recovery documents

A call runs one public operation with arbitrary arguments and storage answers. Along every
run the documents stay valid, and each call edits at most the row it names.
-/

namespace ArtForgeStudio.Recovery

open ArtForgeStudio.Api ArtForgeStudio.Outcome ArtForgeStudio.KeyedRows ArtForgeStudio.Runs

inductive PromptOperation where
  | upsert (scope : BillingScope) (record : PendingPromptTaskRecord)
  | remove (expected : RecoveryRecordIdentity)
  | rebind (expected : RecoveryRecordIdentity) (newAuthEpoch : Nat)
  | patch (expected : RecoveryRecordIdentity) (change : PromptTaskRecoveryPatch)

inductive DeepOperation where
  | upsert (scope : BillingScope) (record : PendingPromptOptimizationRecord)
  | remove (expected : RecoveryRecordIdentity)
  | rebind (expected : RecoveryRecordIdentity) (newAuthEpoch : Nat)
  | dismiss (expected : RecoveryRecordIdentity) (readable : Bool) (serverJobId : String)
  | jobId (expected : RecoveryRecordIdentity) (value : String)

inductive OrderOperation where
  | upsert (scope : BillingScope) (record : PendingOrderRecord)
  | remove (expected : RecoveryRecordIdentity)
  | rebind (expected : RecoveryRecordIdentity) (newAuthEpoch : Nat)
  | dismiss (expected : RecoveryRecordIdentity)
  | orderId (expected : RecoveryRecordIdentity) (value : String)
  | quoteId (expected : RecoveryRecordIdentity) (value : String)

/-- An upsert returns `Ok(())`, which counts as the answer `true`. -/
def upserted {S : Type} (result : Except Failure Unit × S) : Except Failure Bool × S :=
  (result.1.map fun _ => true, result.2)

def PromptOperation.run (answers : StorageAnswers) (authority : NamespaceStorageAuthority)
    (stored : PromptFile) : PromptOperation → Except Failure Bool × PromptFile
  | upsert scope record => upserted (upsertPendingPromptTask answers authority scope record stored)
  | remove expected => removePendingPromptTask answers authority expected stored
  | rebind expected epoch => rebindPendingPromptTaskEpoch answers authority expected epoch stored
  | patch expected change => applyPromptTaskPatch answers authority expected change stored

def DeepOperation.run (answers : StorageAnswers) (authority : NamespaceStorageAuthority)
    (stored : PromptFile) : DeepOperation → Except Failure Bool × PromptFile
  | upsert scope record =>
    upserted (upsertPendingPromptOptimization answers authority scope record stored)
  | remove expected => removePendingPromptOptimization answers authority expected stored
  | rebind expected epoch =>
    rebindPendingPromptOptimizationEpoch answers authority expected epoch stored
  | dismiss expected readable job =>
    markPendingPromptOptimizationPresentationDismissed answers authority expected readable job
      stored
  | jobId expected value => updatePendingPromptOptimizationJobId answers authority expected value stored

def OrderOperation.run (answers : StorageAnswers) (authority : NamespaceStorageAuthority)
    (stored : OrderFile) : OrderOperation → Except Failure Bool × OrderFile
  | upsert scope record => upserted (upsertPendingOrder answers authority scope record stored)
  | remove expected => removePendingOrder answers authority expected stored
  | rebind expected epoch => rebindPendingOrderEpoch answers authority expected epoch stored
  | dismiss expected => dismissPendingOrder answers authority expected stored
  | orderId expected value => updatePendingOrderId answers authority expected value stored
  | quoteId expected value => updatePendingOrderQuoteId answers authority expected value stored

/-- The identity of the named row. -/
def PromptOperation.identity : PromptOperation → RecoveryRecordIdentity
  | upsert _ record => RecoveryRow.identity record
  | remove expected | rebind expected _ | patch expected _ => expected

def DeepOperation.identity : DeepOperation → RecoveryRecordIdentity
  | upsert _ record => RecoveryRow.identity record
  | remove expected | rebind expected _ | dismiss expected _ _ | jobId expected _ => expected

def OrderOperation.identity : OrderOperation → RecoveryRecordIdentity
  | upsert _ record => RecoveryRow.identity record
  | remove expected | rebind expected _ | dismiss expected | orderId expected _
  | quoteId expected _ => expected

/-- The public operations on the three documents. -/
inductive Operation where
  | generation (op : GenerationOperation)
  | prompt (op : PromptOperation)
  | deep (op : DeepOperation)
  | order (op : OrderOperation)

def Operation.kind : Operation → RowKind
  | generation _ => .generation
  | prompt _ => .prompt
  | deep _ => .deep
  | order _ => .order

def Operation.identity : Operation → RecoveryRecordIdentity
  | generation op => op.identity
  | prompt op => op.identity
  | deep op => op.identity
  | order op => op.identity

def Operation.key (op : Operation) : String := op.identity.clientRequestId

def Operation.isRebind : Operation → Bool
  | generation (.rebind _ _) | prompt (.rebind _ _) | deep (.rebind _ _) | order (.rebind _ _) => true
  | _ => false

/-- The stored documents of one user. -/
structure RecoveryState where
  generations : GenerationFile
  prompts : PromptFile
  orders : OrderFile

structure Call where
  answers : StorageAnswers
  authority : NamespaceStorageAuthority
  operation : Operation

def Call.step (call : Call) (state : RecoveryState) : Except Failure Bool × RecoveryState :=
  match call.operation with
  | .generation op =>
    let result := op.run call.answers call.authority state.generations
    (result.1, { state with generations := result.2 })
  | .prompt op =>
    let result := op.run call.answers call.authority state.prompts
    (result.1, { state with prompts := result.2 })
  | .deep op =>
    let result := op.run call.answers call.authority state.prompts
    (result.1, { state with prompts := result.2 })
  | .order op =>
    let result := op.run call.answers call.authority state.orders
    (result.1, { state with orders := result.2 })

/-- The documents after a run of calls. -/
abbrev runCalls (history : List Call) (start : RecoveryState) : RecoveryState :=
  run (fun call state => (call.step state).2) history start

/-- Every stored document validates; an absent file does. -/
structure RecoveryState.Valid (user : String) (state : RecoveryState) : Prop where
  generations : ValidFor user (state.generations.getD RecoveryEnvelope.empty)
  prompts : ValidFor user (state.prompts.getD RecoveryEnvelope.empty)
  orders : ValidFor user (state.orders.getD RecoveryEnvelope.empty)

abbrev RowOf : RowKind → Type
  | .generation => PendingGenerationRecord
  | .prompt => PendingPromptTaskRecord
  | .deep => PendingPromptOptimizationRecord
  | .order => PendingOrderRecord

instance (kind : RowKind) : RecoveryRow (RowOf kind) :=
  match kind with
  | .generation => inferInstanceAs (RecoveryRow PendingGenerationRecord)
  | .prompt => inferInstanceAs (RecoveryRow PendingPromptTaskRecord)
  | .deep => inferInstanceAs (RecoveryRow PendingPromptOptimizationRecord)
  | .order => inferInstanceAs (RecoveryRow PendingOrderRecord)

def RecoveryState.rows (state : RecoveryState) : (kind : RowKind) → List (RowOf kind)
  | .generation => generationTable.rowsOf state.generations
  | .prompt => promptTable.rowsOf state.prompts
  | .deep => deepTable.rowsOf state.prompts
  | .order => orderTable.rowsOf state.orders

/-- A surviving row keeps its identity, but for the epoch that a rebind writes. -/
def IdentityKept (rebound : Option Nat) (old new : RecoveryRecordIdentity) : Prop :=
  new = old ∨ ∃ epoch, rebound = some epoch ∧ new = { old with authEpoch := epoch }

/-- The epoch that a call may write into the row `key` of `kind`. -/
def Call.rebound (call : Call) (kind : RowKind) (key : String) : Option Nat :=
  if call.operation.isRebind ∧ kind = call.operation.kind ∧ key = call.operation.key then
    some call.authority.lease.authEpoch else none

/-- One call edits the table and the row it names, and nothing else. -/
structure SafeStep (call : Call) (before after : RecoveryState) : Prop where
  otherTables : ∀ kind, kind ≠ call.operation.kind → after.rows kind = before.rows kind
  edit : Edit clientRequestId call.operation.key (before.rows call.operation.kind)
    (after.rows call.operation.kind)
  identity : ∀ kind, ∀ old ∈ before.rows kind, ∀ new ∈ after.rows kind,
    clientRequestId new = clientRequestId old →
      IdentityKept (call.rebound kind (clientRequestId old)) (RecoveryRow.identity old)
        (RecoveryRow.identity new)

section Tables

variable {D R : Type} [RecoveryEnvelope D] [RecoveryRow R] {table : RowTable D R}
  {answers : StorageAnswers} {authority : NamespaceStorageAuthority} {stored : Option D}
  {expected : RecoveryRecordIdentity} {rebound : Option Nat}

/-- The result of an operation on a table, as far as identities go. -/
inductive TableResult (table : RowTable D R) (user key : String) (rebound : Option Nat)
    (stored : Option D) : Except Failure Bool × Option D → Prop
  | failed (failure : Failure) : TableResult table user key rebound stored (.error failure, stored)
  | unchanged (answer : Bool) : TableResult table user key rebound stored (.ok answer, stored)
  | published (answer : Bool) (next : D) (row : table.OneRow user key stored (some next))
      (identity : ∀ old new, table.lookup stored key = some old →
        table.lookup (some next) key = some new →
        IdentityKept rebound (RecoveryRow.identity old) (RecoveryRow.identity new)) :
      TableResult table user key rebound stored (.ok answer, some next)

theorem requiring_tableResult {user key : String} {check : Except Failure Unit}
    {mutation : Except Failure Bool × Option D}
    (h : check = .ok () → TableResult table user key rebound stored mutation) :
    TableResult table user key rebound stored (requiring check stored mutation) := by
  rcases RowTable.requiring_cases check stored mutation with ⟨failure, hfail⟩ | ⟨hcheck, heq⟩
  · rw [hfail]
    exact .failed failure
  · rw [heq]
    exact h hcheck

theorem identityKept_key {old new : RecoveryRecordIdentity} (h : IdentityKept rebound old new) :
    new.clientRequestId = old.clientRequestId := by
  rcases h with rfl | ⟨epoch, -, rfl⟩ <;> rfl

theorem editExact_tableResult (permission : MutationPermission)
    (edit : R → Except Failure (Bool × Option R))
    (hedit : ∀ row answer edited, edit row = .ok (answer, some edited) →
      IdentityKept rebound (RecoveryRow.identity row) (RecoveryRow.identity edited)) :
    TableResult table authority.userPublicId expected.clientRequestId rebound stored
      (table.editExact answers authority permission expected edit stored) := by
  rcases table.editExact_cases answers authority permission expected edit
    stored (fun row answer edited h => identityKept_key (hedit row answer edited h))
    with ⟨failure, hfail⟩ | ⟨answer, next, hpublished, hrow, hexact⟩
  · rw [hfail]
    exact .failed failure
  · rw [hpublished]
    refine .published answer next hrow fun old new hold hnew => ?_
    rcases hexact with ⟨-, hrows, -⟩ | ⟨row, edited, hlookup, -, hrun, hafter⟩
    · rw [RowTable.lookup, hrows] at hnew
      exact .inl (congrArg RecoveryRow.identity (Option.some.inj (hnew.symm.trans hold)))
    · cases hlookup.symm.trans hold
      cases hafter.symm.trans hnew
      exact hedit _ answer _ hrun

theorem upsert_tableResult (scope : BillingScope) (record : R) :
    TableResult table authority.userPublicId (RecoveryRow.identity record).clientRequestId none
      stored (upserted (table.upsert answers authority scope record stored)) := by
  rcases table.upsert_cases answers authority scope record stored
    with ⟨failure, hfail⟩ | ⟨next, hpublished, -, hrow, hlookup, hsame⟩
  · rw [hfail]
    exact .failed failure
  · rw [hpublished]
    refine .published true next hrow fun old new hold hnew => ?_
    cases hlookup.symm.trans hnew
    exact .inl (hsame old hold).symm

theorem remove_tableResult :
    TableResult table authority.userPublicId expected.clientRequestId none stored
      (table.remove answers authority expected stored) :=
  requiring_tableResult fun _ => editExact_tableResult _ _ (by simp)

theorem rebind_tableResult {epoch : Nat} :
    TableResult table authority.userPublicId expected.clientRequestId
      (some authority.lease.authEpoch) stored
      (table.rebind answers authority expected epoch stored) := by
  refine requiring_tableResult fun _ => requiring_tableResult fun hepoch =>
    editExact_tableResult _ _ ?_
  have hcurrent : epoch = authority.lease.authEpoch := by simpa using hepoch
  rintro row _ _ ⟨⟩
  exact .inr ⟨epoch, congrArg some hcurrent.symm, RecoveryRow.identity_setAuthEpoch _ _⟩

end Tables

section Documents

variable {answers : StorageAnswers} {authority : NamespaceStorageAuthority}

/-- The epoch a rebind of the call's authority writes. -/
def Operation.reboundEpoch (op : Operation) (authority : NamespaceStorageAuthority) : Option Nat :=
  if op.isRebind then some authority.lease.authEpoch else none

theorem GenerationOperation.tableResult (answers : StorageAnswers)
    (authority : NamespaceStorageAuthority) (stored : GenerationFile) (op : GenerationOperation) :
    TableResult generationTable authority.userPublicId op.key
      ((Operation.generation op).reboundEpoch authority) stored
      (op.run answers authority stored) := by
  have hresult := op.run_result answers authority stored
  generalize op.run answers authority stored = result at hresult ⊢
  cases hresult with
  | failed failure => exact .failed failure
  | published answer next hrow hchange =>
    refine .published answer next hrow fun old new hold hnew => ?_
    rw [hold, hnew] at hchange
    cases hchange with
    | untouched row => exact .inl rfl
    | upserted scope record before hop hsame => exact .inl (hsame old rfl).symm
    | rebound row expected hop =>
      subst hop
      exact .inr ⟨_, rfl, rfl⟩
    | updated row updated hfields hupdate => exact .inl hupdate.identity

theorem PromptTaskRecoveryPatch.apply_identity {change : PromptTaskRecoveryPatch}
    {row updated : PendingPromptTaskRecord} (h : change.apply row = .ok updated) :
    RecoveryRow.identity updated = RecoveryRow.identity row := by
  cases change with
  | beginSubmission =>
    obtain ⟨-, -, hresult⟩ := bind_eq_ok.mp h
    cases hresult
    rfl
  | _ =>
    cases h
    rfl

theorem PromptOperation.tableResult (answers : StorageAnswers)
    (authority : NamespaceStorageAuthority) (stored : PromptFile) (op : PromptOperation) :
    TableResult promptTable authority.userPublicId op.identity.clientRequestId
      ((Operation.prompt op).reboundEpoch authority) stored
      (op.run answers authority stored) := by
  cases op with
  | upsert scope record => exact upsert_tableResult scope record
  | remove expected => exact remove_tableResult
  | rebind expected epoch => exact rebind_tableResult
  | patch expected change =>
    refine requiring_tableResult fun _ => editExact_tableResult _ _ ?_
    intro row answer edited h
    cases happly : change.apply row with
    | error failure => simp [happly, Except.map] at h
    | ok updated =>
      simp only [happly, Except.map, Except.ok.injEq, Prod.mk.injEq, Option.some.injEq] at h
      exact .inl (h.2 ▸ PromptTaskRecoveryPatch.apply_identity happly)

/-- What the upsert of an optimization does, as the upserts of the other tables do. -/
theorem deepUpsert_cases (answers : StorageAnswers) (authority : NamespaceStorageAuthority)
    (scope : BillingScope) (record : PendingPromptOptimizationRecord) (stored : PromptFile) :
    (∃ failure, upsertPendingPromptOptimization answers authority scope record stored =
      (.error failure, stored)) ∨
    ∃ next, upsertPendingPromptOptimization answers authority scope record stored =
        (.ok (), some next) ∧
      deepTable.OneRow authority.userPublicId record.clientRequestId stored (some next) ∧
      deepTable.lookup (some next) record.clientRequestId = some record ∧
      ∀ saved, deepTable.lookup stored record.clientRequestId = some saved →
        RecoveryRow.identity saved = RecoveryRow.identity record := by
  unfold upsertPendingPromptOptimization
  dsimp only
  rcases RowTable.requiring_cases ((RecoveryRow.identity record).requireScope authority scope)
    stored _ with hfail | ⟨-, heq⟩
  · exact .inl hfail
  rw [heq]
  rcases mutate_cases answers authority (.upsert .deep (RecoveryRow.identity record))
    (fun _ => deepTable.onRows fun rows => do
      deepUpsertCheck rows record
      let rows ← upsertRow rows record
      pure ((), rows)) stored
    with hfail | ⟨i, answer, next, htransact, hpublished⟩
  · exact .inl hfail
  have hunique := deepTable.uniqueKeys_get (transact_ok.mp htransact).1
  have hupsert : ∀ rows, (do
      deepUpsertCheck (deepTable.rowsOf stored) record
      let rows ← upsertRow (deepTable.rowsOf stored) record
      pure ((), rows)) = Except.ok (answer, rows) →
      upsertRow (deepTable.rowsOf stored) record = .ok rows := by
    intro rows hrun
    obtain ⟨-, -, hrun⟩ := bind_eq_ok.mp hrun
    obtain ⟨rows', hrows, hresult⟩ := bind_eq_ok.mp hrun
    cases hresult
    exact hrows
  obtain ⟨-, hrun, hrow⟩ := deepTable.oneRow_of_transact record.clientRequestId htransact
    fun rows hrun => (upsertRow_ok hunique (hupsert rows hrun)).1
  obtain ⟨-, hfind, hsame⟩ := upsertRow_ok hunique (hupsert _ hrun)
  exact .inr ⟨next, hpublished, hrow, hfind, hsame⟩

theorem deepUpsert_tableResult (scope : BillingScope) (record : PendingPromptOptimizationRecord)
    (stored : PromptFile) :
    TableResult deepTable authority.userPublicId record.clientRequestId none stored
      (upserted (upsertPendingPromptOptimization answers authority scope record stored)) := by
  rcases deepUpsert_cases answers authority scope record stored
    with ⟨failure, hfail⟩ | ⟨next, hpublished, hrow, hlookup, hsame⟩
  · rw [hfail]
    exact .failed failure
  · rw [hpublished]
    refine .published true next hrow fun old new hold hnew => ?_
    cases hlookup.symm.trans hnew
    exact .inl (hsame old hold).symm

theorem DeepOperation.tableResult (answers : StorageAnswers)
    (authority : NamespaceStorageAuthority) (stored : PromptFile) (op : DeepOperation) :
    TableResult deepTable authority.userPublicId op.identity.clientRequestId
      ((Operation.deep op).reboundEpoch authority) stored
      (op.run answers authority stored) := by
  cases op with
  | upsert scope record => exact deepUpsert_tableResult scope record stored
  | remove expected => exact remove_tableResult
  | rebind expected epoch => exact rebind_tableResult
  | dismiss expected readable job =>
    refine requiring_tableResult fun _ => requiring_tableResult fun _ => ?_
    cases load readable authority stored with
    | error failure => exact .failed failure
    | ok retained =>
      dsimp only
      split
      · exact .unchanged false
      · split
        · exact .unchanged false
        · split
          · exact .unchanged true
          · refine editExact_tableResult _ _ ?_
            intro row answer edited h
            unfold dismissDeepEdit at h
            split at h <;> cases h <;> exact .inl rfl
  | jobId expected value =>
    refine requiring_tableResult fun _ => requiring_tableResult fun _ =>
      editExact_tableResult _ _ ?_
    rintro row _ _ ⟨⟩
    exact .inl rfl

theorem OrderOperation.tableResult (answers : StorageAnswers)
    (authority : NamespaceStorageAuthority) (stored : OrderFile) (op : OrderOperation) :
    TableResult orderTable authority.userPublicId op.identity.clientRequestId
      ((Operation.order op).reboundEpoch authority) stored
      (op.run answers authority stored) := by
  cases op with
  | upsert scope record => exact upsert_tableResult scope record
  | remove expected => exact remove_tableResult
  | rebind expected epoch => exact rebind_tableResult
  | dismiss expected =>
    refine requiring_tableResult fun _ => editExact_tableResult _ _ ?_
    rintro row _ _ ⟨⟩
    exact .inl rfl
  | orderId expected value =>
    refine requiring_tableResult fun _ => requiring_tableResult fun _ =>
      editExact_tableResult _ _ ?_
    rintro row _ _ ⟨⟩
    exact .inl rfl
  | quoteId expected value =>
    refine requiring_tableResult fun _ => requiring_tableResult fun _ =>
      editExact_tableResult _ _ ?_
    rintro row _ _ ⟨⟩
    exact .inl rfl

end Documents

section TableResults

variable {D R : Type} [RecoveryEnvelope D] [RecoveryRow R] {table : RowTable D R}
  {user key : String} {rebound : Option Nat} {stored : Option D}
  {result : Except Failure Bool × Option D}

theorem TableResult.error {failure : Failure} (h : TableResult table user key rebound stored result)
    (herror : result.1 = .error failure) : result.2 = stored := by
  cases h with
  | failed => rfl
  | unchanged answer => cases herror
  | published answer next hrow hidentity => cases herror

theorem TableResult.valid (h : TableResult table user key rebound stored result)
    (hvalid : ValidFor user (stored.getD RecoveryEnvelope.empty)) :
    ValidFor user (result.2.getD RecoveryEnvelope.empty) := by
  cases h with
  | failed | unchanged => exact hvalid
  | published answer next hrow hidentity => exact hrow.valid

theorem TableResult.edit (h : TableResult table user key rebound stored result) :
    Edit clientRequestId key (table.rowsOf stored) (table.rowsOf result.2) := by
  cases h with
  | failed | unchanged => exact .same _
  | published answer next hrow hidentity => exact hrow.edit

theorem TableResult.rest (h : TableResult table user key rebound stored result) :
    result.2.getD RecoveryEnvelope.empty =
      table.put (table.rowsOf result.2) (stored.getD RecoveryEnvelope.empty) := by
  cases h with
  | failed | unchanged => exact (table.put_get _).symm
  | published answer next hrow hidentity => exact hrow.rest

/-- Every surviving row of the table keeps its identity; the named one may be rebound. -/
theorem TableResult.identity (h : TableResult table user key rebound stored result)
    (hvalid : ValidFor user (stored.getD RecoveryEnvelope.empty)) {old new : R}
    (hold : old ∈ table.rowsOf stored) (hnew : new ∈ table.rowsOf result.2)
    (hkey : clientRequestId new = clientRequestId old) :
    IdentityKept (if clientRequestId old = key then rebound else none)
      (RecoveryRow.identity old) (RecoveryRow.identity new) := by
  have hbefore := (find_eq_some_iff (table.uniqueKeys_get hvalid)).mpr ⟨hold, rfl⟩
  have hafter := (find_eq_some_iff (table.uniqueKeys_get (h.valid hvalid))).mpr ⟨hnew, hkey⟩
  by_cases hnamed : clientRequestId old = key
  · rw [if_pos hnamed]
    rw [hnamed] at hbefore hafter
    cases h with
    | failed | unchanged =>
      exact .inl (congrArg RecoveryRow.identity (Option.some.inj (hafter.symm.trans hbefore)))
    | published answer next hrow hidentity => exact hidentity old new hbefore hafter
  · have hsame := h.edit.find_other hnamed
    exact .inl (congrArg RecoveryRow.identity
      (Option.some.inj (hafter.symm.trans (hsame.trans hbefore))))

end TableResults

section Steps

variable {user : String} {call : Call} {state start : RecoveryState} {failure : Failure}

/-- A call that fails leaves every document. -/
theorem Call.step_error (h : (call.step state).1 = .error failure) :
    (call.step state).2 = state := by
  obtain ⟨answers, authority, operation⟩ := call
  cases operation with
  | generation op =>
    exact congrArg (fun file => { state with generations := file }) ((op.tableResult _ _ _).error h)
  | prompt op =>
    exact congrArg (fun file => { state with prompts := file }) ((op.tableResult _ _ _).error h)
  | deep op =>
    exact congrArg (fun file => { state with prompts := file }) ((op.tableResult _ _ _).error h)
  | order op =>
    exact congrArg (fun file => { state with orders := file }) ((op.tableResult _ _ _).error h)

theorem Call.step_valid (hvalid : state.Valid user)
    (hmine : call.authority.userPublicId = user) : (call.step state).2.Valid user := by
  obtain ⟨answers, authority, operation⟩ := call
  subst hmine
  cases operation with
  | generation op => exact { hvalid with generations := (op.tableResult _ _ _).valid hvalid.generations }
  | prompt op => exact { hvalid with prompts := (op.tableResult _ _ _).valid hvalid.prompts }
  | deep op => exact { hvalid with prompts := (op.tableResult _ _ _).valid hvalid.prompts }
  | order op => exact { hvalid with orders := (op.tableResult _ _ _).valid hvalid.orders }

theorem runCalls_valid {history : List Call} (hvalid : start.Valid user)
    (hmine : ∀ call ∈ history, call.authority.userPublicId = user) :
    (runCalls history start).Valid user :=
  run_invariant (RecoveryState.Valid user) (fun _ _ hvalid hmine => Call.step_valid hvalid hmine) hvalid
    (atEachStep_of_forall hmine)

theorem RecoveryState.Valid.unique (hvalid : state.Valid user) (kind : RowKind) :
    UniqueKeys clientRequestId (state.rows kind) := by
  cases kind with
  | generation => exact generationTable.uniqueKeys_get hvalid.generations
  | prompt => exact promptTable.uniqueKeys_get hvalid.prompts
  | deep => exact deepTable.uniqueKeys_get hvalid.prompts
  | order => exact orderTable.uniqueKeys_get hvalid.orders

/-- With one row for a key, a row of an unchanged table keeps its whole content. -/
theorem identityKept_of_rows_eq {after : RecoveryState} {kind : RowKind}
    (hvalid : state.Valid user) (hrows : after.rows kind = state.rows kind) {old new : RowOf kind}
    (hold : old ∈ state.rows kind) (hnew : new ∈ after.rows kind)
    (hkey : clientRequestId new = clientRequestId old) (rebound : Option Nat) :
    IdentityKept rebound (RecoveryRow.identity old) (RecoveryRow.identity new) := by
  rw [hrows] at hnew
  have hunique := hvalid.unique kind
  have hfound := (find_eq_some_iff hunique).mpr ⟨hold, rfl⟩
  have hfound' := (find_eq_some_iff hunique).mpr ⟨hnew, hkey⟩
  exact .inl (congrArg RecoveryRow.identity (Option.some.inj (hfound'.symm.trans hfound)))

/-- The edit of the named table, the other tables, and the rows of the named table make a
safe step. -/
theorem safeStep_of_table {after : RecoveryState} (hvalid : state.Valid user)
    (hother : ∀ kind, kind ≠ call.operation.kind → after.rows kind = state.rows kind)
    (hedit : Edit clientRequestId call.operation.key (state.rows call.operation.kind)
      (after.rows call.operation.kind))
    (hidentity : ∀ old ∈ state.rows call.operation.kind,
      ∀ new ∈ after.rows call.operation.kind, clientRequestId new = clientRequestId old →
        IdentityKept (if clientRequestId old = call.operation.key then
          call.operation.reboundEpoch call.authority else none)
          (RecoveryRow.identity old) (RecoveryRow.identity new)) :
    SafeStep call state after := by
  refine ⟨hother, hedit, fun kind old hold new hnew hkey => ?_⟩
  by_cases hkind : kind = call.operation.kind
  · subst hkind
    have hkept := hidentity old hold new hnew hkey
    unfold Call.rebound
    by_cases hnamed : clientRequestId old = call.operation.key
    · simpa [hnamed, Operation.reboundEpoch] using hkept
    · simpa [hnamed] using hkept
  · exact identityKept_of_rows_eq hvalid (hother kind hkind) hold hnew hkey _

theorem Call.step_safe (hvalid : state.Valid user)
    (hmine : call.authority.userPublicId = user) : SafeStep call state (call.step state).2 := by
  obtain ⟨answers, authority, operation⟩ := call
  subst hmine
  cases operation with
  | generation op =>
    have hresult := op.tableResult answers authority state.generations
    refine safeStep_of_table hvalid ?_ hresult.edit
      fun old hold new hnew => hresult.identity hvalid.generations hold hnew
    intro kind hkind
    cases kind <;> first | rfl | exact absurd rfl hkind
  | prompt op =>
    have hresult := op.tableResult answers authority state.prompts
    refine safeStep_of_table hvalid ?_ hresult.edit
      fun old hold new hnew => hresult.identity hvalid.prompts hold hnew
    intro kind hkind
    cases kind with
    | prompt => exact absurd rfl hkind
    | deep =>
      have hdeep := congrArg PromptTaskRecoveryFile.deepOptimizations hresult.rest
      exact hdeep
    | generation | order => rfl
  | deep op =>
    have hresult := op.tableResult answers authority state.prompts
    refine safeStep_of_table hvalid ?_ hresult.edit
      fun old hold new hnew => hresult.identity hvalid.prompts hold hnew
    intro kind hkind
    cases kind with
    | deep => exact absurd rfl hkind
    | prompt =>
      have hprompt := congrArg PromptTaskRecoveryFile.promptTasks hresult.rest
      exact hprompt
    | generation | order => rfl
  | order op =>
    have hresult := op.tableResult answers authority state.orders
    refine safeStep_of_table hvalid ?_ hresult.edit
      fun old hold new hnew => hresult.identity hvalid.orders hold hnew
    intro kind hkind
    cases kind <;> first | rfl | exact absurd rfl hkind

end Steps

/-- Along every run from valid documents, each further call leaves valid documents, leaves
everything when it fails, and otherwise edits the row it names and nothing else. -/
theorem recovery_runs_safe {user : String} {start : RecoveryState} (hvalid : start.Valid user)
    (history : List Call) (hmine : ∀ call ∈ history, call.authority.userPublicId = user)
    (call : Call) (hcall : call.authority.userPublicId = user) :
    (runCalls history start).Valid user ∧
      (call.step (runCalls history start)).2.Valid user ∧
      (∀ failure, (call.step (runCalls history start)).1 = .error failure →
        (call.step (runCalls history start)).2 = runCalls history start) ∧
      SafeStep call (runCalls history start) (call.step (runCalls history start)).2 := by
  have hrun := runCalls_valid hvalid hmine
  exact ⟨hrun, call.step_valid hrun hcall, fun _ => call.step_error, call.step_safe hrun hcall⟩

theorem absent_valid (user : String) : (⟨none, none, none⟩ : RecoveryState).Valid user :=
  ⟨⟨rfl, by simp [RecoveryEnvelope.rows, RecoveryEnvelope.empty],
      by simp [RecoveryEnvelope.rows, RecoveryEnvelope.empty],
      by simp [RecoveryEnvelope.rows, RecoveryEnvelope.empty], List.nodup_nil, rfl⟩,
    ⟨rfl, by simp [RecoveryEnvelope.rows, RecoveryEnvelope.empty],
      by simp [RecoveryEnvelope.rows, RecoveryEnvelope.empty],
      by simp [RecoveryEnvelope.rows, RecoveryEnvelope.empty], List.nodup_nil, rfl⟩,
    ⟨rfl, by simp [RecoveryEnvelope.rows, RecoveryEnvelope.empty],
      by simp [RecoveryEnvelope.rows, RecoveryEnvelope.empty],
      by simp [RecoveryEnvelope.rows, RecoveryEnvelope.empty], List.nodup_nil, rfl⟩⟩

/-- An image task is inserted into absent documents and then rebound to a second login. -/
theorem recovery_runs_safe_rebind :
    let insert : Call := ⟨.faultFree, loginOf 1, .generation (.upsert (payerScope 1) (imageTask 1))⟩
    let rebind : Call :=
      ⟨.faultFree, loginOf 2, .generation (.rebind (RecoveryRow.identity (imageTask 1)) 2)⟩
    let stored := runCalls [insert] ⟨none, none, none⟩
    stored.Valid (loginOf 1).userPublicId ∧ (rebind.step stored).2.Valid (loginOf 1).userPublicId ∧
      (∀ failure, (rebind.step stored).1 = .error failure → (rebind.step stored).2 = stored) ∧
      SafeStep rebind stored (rebind.step stored).2 :=
  recovery_runs_safe (absent_valid _) [_] (by simp [loginOf]) _ rfl

end ArtForgeStudio.Recovery
