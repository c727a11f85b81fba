import ArtForgeStudio.Payment.Settlement
import ArtForgeStudio.Library.Runs

/-! # What is bought is written ahead

Workers of the three kinds run over one orders document, at most one for a key. The window
dismisses rows beside them, and the client may be killed between any two actions. An event
whose condition fails changes nothing.
-/

namespace ArtForgeStudio.Payment

open ArtForgeStudio.Api ArtForgeStudio.Recovery ArtForgeStudio.KeyedRows ArtForgeStudio.Concurrency
  ArtForgeStudio.Outcome ArtForgeStudio.Runs KeyState Parts

inductive NewOrderKind where
  | credit
  | membership
  | membershipUpgrade

def NewOrderKind.text : NewOrderKind → String
  | credit => "credit"
  | membership => "membership"
  | membershipUpgrade => "membership_upgrade"

/-- The record of `start_new_payment`, under a new key. -/
def newPaymentRecord (session : SessionScope) (payer key product createdAt : String)
    (kind : NewOrderKind) : PendingOrderRecord where
  kind := kind.text
  clientRequestId := key
  ownerUserId := session.ownerUserId
  billingAccountGroupId := payer
  authEpoch := session.authEpoch
  productCode := product
  createdAt := createdAt

/-- A thread of `spawn_payment_thread`. Its result goes to the window. -/
def paymentThread (work : Fallible PaymentStarted) : Action Unit := do
  let _ ← (do ensureActive; work : Fallible PaymentStarted).run
  pure ()

structure System where
  world : World
  pool : Pool Unit World Answers String := []

/-- The client starts on a document that may hold rows of earlier runs. -/
def System.start (file : OrderFile) : System :=
  { world := { file := file, stored := (orderTable.rowsOf file).map (·.clientRequestId) } }

/-- `payment_worker_pending` -/
def System.pending (system : System) (key : String) : Bool := system.pool.any (·.1 = key)

def System.spawn (key : String) (work : Fallible PaymentStarted) (system : System) : System :=
  if system.pending key then system
  else { system with pool := (key, paymentThread work) :: system.pool }

inductive Event where
  | create (worker : PaymentWorker) (payer key product createdAt : String) (kind : NewOrderKind)
  | recover (worker : PaymentWorker) (readable : Bool) (key : String)
  | sync (worker : PaymentWorker) (key orderId : String)
  | act (index : Nat) (answers : Answers)
  /-- A finished thread is joined. -/
  | reap (index : Nat)
  /-- The user closes the payment of a row. -/
  | dismiss (authority : NamespaceStorageAuthority) (answers : StorageAnswers)
      (expected : RecoveryRecordIdentity)
  | crash

def System.step (event : Event) (system : System) : System :=
  match event with
  | .create worker payer key product createdAt kind =>
    if system.world.stored.contains key then system
    else system.spawn key (createPaymentWorker worker ⟨worker.session, payer⟩
      (newPaymentRecord worker.session payer key product createdAt kind))
  | .recover worker readable key =>
    match loadPendingOrders readable worker.authority system.world.file with
    | .error _ => system
    | .ok rows =>
      match rows.find? (·.clientRequestId = key) with
      | none => system
      | some record => system.spawn key (recoverPendingOrderWorker worker record)
  | .sync worker key orderId => system.spawn key (syncPaymentWorker worker key orderId)
  | .act index answers =>
    match system.pool[index]? with
    | none => system
    | some (own, program) =>
      let next := program.step answers system.world
      { world := next.2, pool := system.pool.set index (own, next.1) }
  | .reap index =>
    match system.pool[index]? with
    | none => system
    | some (_, program) =>
      if program.finished then { system with pool := system.pool.eraseIdx index } else system
  | .dismiss authority answers expected =>
    { system with world := system.world.operated answers authority (.dismiss expected) }
  | .crash => { system with pool := [] }

abbrev runEvents (events : List Event) (file : OrderFile) : System :=
  run System.step events (System.start file)

structure SystemInv (system : System) : Prop where
  good : keys.AllGood system.world
  sound : Pool.Sound keys.discipline (fun _ _ => True) system.pool system.world

section Systems

variable {system : System} {key : String} {work : Fallible PaymentStarted}

theorem SystemInv.start (file : OrderFile) : SystemInv (System.start file) where
  good key := by
    refine ⟨?_, ?_, nofun, nofun, nofun, nofun⟩
    · intro row hrow
      obtain ⟨saved, hsaved, rfl⟩ := Option.map_eq_some_iff.mp hrow
      have hkey : saved.clientRequestId = key := key_of_find hsaved
      exact hkey
    · intro row hrow
      obtain ⟨saved, hsaved, rfl⟩ := Option.map_eq_some_iff.mp hrow
      have hkey : saved.clientRequestId = key := key_of_find hsaved
      have hmem := List.mem_map_of_mem (f := (·.clientRequestId)) (mem_of_find hsaved)
      simpa [keys, World.part, System.start, ← hkey] using hmem
  sound := .nil

/-- A thread may start under a key that no thread has. -/
theorem SystemInv.spawn {P : KeyState → Prop} (h : SystemInv system)
    (hwork : keys.Tries key P work (fun _ _ => True) fun _ _ => True)
    (hat : P (system.world.part key)) : SystemInv (system.spawn key work) := by
  unfold System.spawn
  split
  · exact h
  rename_i hpending
  refine ⟨h.good, h.sound.spawn ?_ fun thread hmem => ?_⟩
  · have hthread : keys.Judges key P (paymentThread work) fun _ _ => True := by
      refine Judges.bind (Tries.bind (F := fun _ _ => True) (.fails ensureActive_tries
        fun _ _ _ _ => trivial) fun _ => hwork) fun _ => .done fun _ _ _ => trivial
    exact (hthread _ ⟨h.good key, hat⟩).mono fun _ _ _ => trivial
  · have hne : thread.1 ≠ key := fun heq => hpending
      (List.any_eq_true.mpr ⟨thread, hmem, decide_eq_true heq⟩)
    exact ⟨hne.symm, hne⟩

/-- A dismissal changes no part. -/
theorem dismiss_parts {world : World} {authority : NamespaceStorageAuthority}
    {answers : StorageAnswers} {expected : RecoveryRecordIdentity} {op : OrderOperation}
    (hop : op = .dismiss expected) (hgood : keys.AllGood world) :
    ∀ key, (world.operated answers authority op).part key = world.part key := by
  intro key
  by_cases hkey : key = op.identity.clientRequestId
  · subst hkey
    have hkept := edit_lookup (hgood op.identity.clientRequestId)
    have hedited : RowEdited orderTable op.identity op.edited world.file
        (op.run answers authority world.file) := OrderOperation.run_edited (by simp [hop])
    rw [part_operated rfl]
    rcases hedited.row with ⟨-, hsame⟩ | ⟨-, row, hrow, -, hafter⟩
    · rwa [hsame]
    · rw [hrow] at hkept
      have hdismissed : op.edited row = some { row with presentationDismissed := true } := by
        rw [hop]
        rfl
      rw [hafter, hdismissed]
      exact hkept
  · exact part_operated_other hkey

theorem SystemInv.step (event : Event) (h : SystemInv system) :
    SystemInv (System.step event system) ∧
      keys.AllMove system.world (System.step event system).world := by
  have hstay : keys.AllMove system.world system.world := fun _ => .of_row rfl rfl
  have hspawn : ∀ {key work}, keys.AllMove system.world (system.spawn key work).world := by
    intro key work
    unfold System.spawn
    split
    · exact hstay
    · exact hstay
  cases event with
  | create worker payer key product createdAt kind =>
    simp only [System.step]
    split
    · exact ⟨h, hstay⟩
    · rename_i hnew
      exact ⟨h.spawn (createPaymentWorker_tries rfl rfl) (by simpa [World.part] using hnew), hspawn⟩
  | recover worker readable key =>
    simp only [System.step]
    split
    · exact ⟨h, hstay⟩
    rename_i rows hload
    obtain ⟨-, rfl⟩ := loadPendingOrders_ok hload
    split
    · exact ⟨h, hstay⟩
    rename_i record hfound
    have hlookup : system.world.row key = some record := hfound
    exact ⟨h.spawn (recoverPendingOrderWorker_tries (key_of_find hlookup))
      (congrArg (Option.map core) hlookup), hspawn⟩
  | sync worker key orderId => exact ⟨h.spawn syncPaymentWorker_tries trivial, hspawn⟩
  | act index answers =>
    simp only [System.step]
    split
    · exact ⟨h, hstay⟩
    · rename_i own program hget
      obtain ⟨htouches, hsound⟩ := h.sound.step hget (fun _ _ => trivial) fun _ => .refl
      exact ⟨⟨htouches.allGood h.good, hsound⟩, htouches.allMove h.good⟩
  | reap index =>
    simp only [System.step]
    split
    · exact ⟨h, hstay⟩
    split
    · exact ⟨⟨h.good, h.sound.sublist (List.eraseIdx_sublist _ _)⟩, hstay⟩
    · exact ⟨h, hstay⟩
  | dismiss authority answers expected =>
    have hparts : ∀ key, (system.world.operated answers authority (.dismiss expected)).part key =
        system.world.part key := dismiss_parts rfl h.good
    have htouches : keys.Touches expected.clientRequestId system.world
        (system.world.operated answers authority (.dismiss expected)) := .of_parts hparts
    exact ⟨⟨htouches.allGood h.good, h.sound.rely fun thread _ => hparts thread.1⟩,
      htouches.allMove h.good⟩
  | crash => exact ⟨⟨h.good, .nil⟩, hstay⟩

theorem systemInv_run (events : List Event) (h : SystemInv system) :
    SystemInv (run System.step events system) ∧
      keys.AllMove system.world (run System.step events system).world := by
  induction events generalizing system with
  | nil => exact ⟨h, fun _ => .of_row rfl rfl⟩
  | cons event events ih =>
    obtain ⟨hstep, hmoves⟩ := h.step event
    obtain ⟨hrun, hmoves'⟩ := ih hstep
    exact ⟨hrun, fun key => (hmoves key).trans (hmoves' key)⟩

end Systems

/-- The row of a request is there, with its payer and its product, and asks for it. -/
def Kept (world : World) (creation : Creation) : Prop :=
  ∃ row, world.row creation.key = some row ∧ row.billingAccountGroupId = creation.payer ∧
    row.productCode = creation.product ∧ orderCreation row = some creation

/-- The server returned an order of the payer that was fulfilled or closed. -/
def Settled (world : World) (creation : Creation) : Prop :=
  ∃ detail, (creation.key, detail) ∈ world.returned ∧
    detail.billingAccountGroupId = creation.payer ∧
    (paymentOrderPhase detail = .fulfilled ∨ paymentOrderPhase detail = .closed)

/-- The first creation, or a token refresh within it when `refreshing` admits that, was
answered with a refusal while the row had no order id. -/
def Refused (refreshing : Bool) (world : World) (creation : Creation) : Prop :=
  ∃ refusal ∈ world.refused, refusal.key = creation.key ∧ refusal.orderId = "" ∧
    (refusal.refresh = true → refreshing = true)

theorem mem_part_sent {world : World} {creation : Creation} (h : creation ∈ world.sent) :
    creation ∈ (world.part creation.key).sent :=
  List.mem_filter.mpr ⟨h, decide_eq_true rfl⟩

theorem SystemInv.kept {system : System} (h : SystemInv system) {creation : Creation}
    (hmem : creation ∈ system.world.sent) :
    Kept system.world creation ∨ Settled system.world creation ∨
      Refused true system.world creation := by
  have hgood := h.good creation.key
  have hsent := mem_part_sent hmem
  cases hrow : system.world.row creation.key with
  | some row =>
    have hcore : (system.world.part creation.key).row = some (core row) :=
      congrArg (Option.map core) hrow
    have hrequest : orderCreation row = some creation := hgood.request _ hcore creation hsent
    obtain ⟨-, hpayer, hproduct⟩ := orderCreation_payer hrequest
    exact .inl ⟨row, hrow, hpayer.symm, hproduct.symm, hrequest⟩
  | none =>
    refine .inr ((hgood.released (congrArg (Option.map core) hrow) creation hsent).imp ?_ ?_)
    · rintro ⟨detail, hdetail, hpayer, hsettled⟩
      obtain ⟨⟨key, detail⟩, hentry, rfl⟩ := List.mem_map.mp hdetail
      obtain ⟨hreturned, hkey⟩ := List.mem_filter.mp hentry
      obtain rfl := of_decide_eq_true hkey
      exact ⟨detail, hreturned, hpayer, by simpa [OrderDetail.settled] using hsettled⟩
    · rintro ⟨refusal, hrefusal, hempty⟩
      obtain ⟨hrefused, hkey⟩ := List.mem_filter.mp hrefusal
      exact ⟨refusal, hrefused, of_decide_eq_true hkey, hempty, fun _ => rfl⟩

/-- The orders document is written ahead of every creation, an order id stays, and the
requests with one key are one request. -/
theorem orders_written_ahead (file : OrderFile) :
    (∀ events, let world := (runEvents events file).world
      ∀ creation ∈ world.sent, (Kept world creation ∨ Settled world creation ∨
          Refused true world creation) ∧
        ∀ other ∈ world.sent, other.key = creation.key → other = creation) ∧
    ∀ before rest key row later, (runEvents before file).world.row key = some row →
      row.orderId ≠ "" → (runEvents (before ++ rest) file).world.row key = some later →
      later.orderId = row.orderId := by
  refine ⟨fun events => ?_, fun before rest key row later hrow hid hlater => ?_⟩
  · have hinv : SystemInv (runEvents events file) := (systemInv_run _ (.start file)).1
    intro world creation hmem
    refine ⟨hinv.kept hmem, fun other hother hkey => ?_⟩
    exact (hinv.good creation.key).unique other (hkey ▸ mem_part_sent hother) creation
      (mem_part_sent hmem)
  · have hinv : SystemInv (runEvents before file) := (systemInv_run _ (.start file)).1
    have hmoves := (systemInv_run rest hinv).2 key
    rw [runEvents, run_append] at hlater
    have hcore : ((runEvents before file).world.part key).row = some (core row) :=
      congrArg (Option.map core) hrow
    obtain ⟨saved, hsaved, hsame⟩ := hmoves.row ((hinv.good key).stored _ hcore) (core later)
      (congrArg (Option.map core) hlater)
    cases hcore.symm.trans hsaved
    exact hsame hid

-- A creation is answered that its access token is invalid, and the refresh of the token with
-- a code that refuses creations: the row goes, and the server refused no creation so.
def expiredToken : Answers where
  active := true
  dismissed := false
  readable := true
  storage := .faultFree
  admission := .ok ()
  agreements := .ok ()
  quote := .ok "quote"
  token := .ok ()
  post := none
  reply := .http 401 "access_token_invalid" ""
  order := .error (.network "" true)

def refusedRefresh : Answers :=
  { expiredToken with token := .error (.http 400 "credit_pack_unavailable" "") }

def refreshRefused : List Event :=
  .create ⟨loginOf 1, (payerScope 1).session⟩ (payerScope 1).accountGroupId "key" "pack" "" .credit ::
    (List.replicate 12 (.act 0 expiredToken) ++ List.replicate 4 (.act 0 refusedRefresh))

theorem refused_refresh_releases_row :
    ¬∀ file events, let world := (runEvents events file).world
      ∀ creation ∈ world.sent, Kept world creation ∨ Settled world creation ∨
        Refused false world creation := by
  intro h
  have hsent : (runEvents refreshRefused none).world.sent.map (·.key) = ["key"] := by decide +kernel
  have hrow : ((runEvents refreshRefused none).world.row "key").isNone = true := by decide +kernel
  have hreturned : (runEvents refreshRefused none).world.returned.isEmpty = true := by decide +kernel
  have hrefused : (runEvents refreshRefused none).world.refused = [⟨"key", "", true⟩] := by
    decide +kernel
  obtain ⟨creation, hmem, hkey⟩ : ∃ creation ∈ (runEvents refreshRefused none).world.sent,
      creation.key = "key" := List.mem_map.mp (hsent ▸ List.mem_singleton.mpr rfl)
  rcases h none refreshRefused creation hmem with ⟨row, hthere, -⟩ | ⟨detail, hdetail, -⟩ |
    ⟨refusal, hrefusal, -, -, hrefresh⟩
  · rw [hkey, Option.isNone_iff_eq_none.mp hrow] at hthere
    cases hthere
  · rw [List.isEmpty_iff.mp hreturned] at hdetail
    cases hdetail
  · rw [hrefused] at hrefusal
    obtain rfl := List.mem_singleton.mp hrefusal
    cases hrefresh rfl

end ArtForgeStudio.Payment
