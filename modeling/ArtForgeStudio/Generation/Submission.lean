import ArtForgeStudio.Generation.Threads

/-! # The workers keep the discipline

Every action of a worker is quiet or changes the row that it submits. Along the way each
received id stays pending until it is recorded, let go or excused.
-/

namespace ArtForgeStudio.Generation

open ArtForgeStudio.Api ArtForgeStudio.Recovery ArtForgeStudio.Concurrency

section Cancellation

variable {strict : Prop} {own : Owner} {assertion : World → Prop}
  {authority : NamespaceStorageAuthority} {savedGroup : Option String} {key taskId : String}
  {row : PendingGenerationRecord} {uploaded : List String} {serverTaskId : Option String}
  {thread : Nat} {identity : RecoveryRecordIdentity}

theorem deleteReferences_silent (files : List String) :
    Silent strict (deleteReferences files) := by
  induction files with
  | nil => exact .pure true
  | cons file files ih =>
    refine .andThen (.read _) fun deleted => ?_
    cases deleted with
    | error error => exact .pure false
    | ok u => exact ih

/-- The row is removed only after the server reported its task cancelled without results. -/
theorem confirmCancellation_triple (hassertion : Persistent strict own assertion)
    (hnamed : ∀ world, assertion world → strict → world.Named row.clientRequestId taskId) :
    (discipline strict).Triple own (At strict assertion)
      (confirmCancellation authority savedGroup row uploaded taskId)
      fun _ => At strict assertion := by
  refine taskScoped_silent.bind hassertion fun before => ?_
  cases before with
  | error error => exact done hassertion fun _ => id
  | ok before =>
  refine .ite (fun _ => done hassertion fun _ => id) fun _ => ?_
  refine (Silent.read _).bind hassertion fun cancelled => ?_
  cases cancelled with
  | error error => exact done hassertion fun _ => id
  | ok u =>
  refine .bind (taskScoped_triple hassertion hnamed) fun after => ?_
  cases after with
  | error error => exact done hassertion fun _ h => h.1
  | ok after =>
  refine .ite (fun _ => done hassertion fun _ h => h.1) fun hcond => ?_
  simp only [Bool.or_eq_true, Bool.not_eq_true', not_or, Bool.not_eq_false] at hcond
  have hreleased : Persistent strict own fun world =>
      assertion world ∧ (strict → world.Released row.clientRequestId) :=
    hassertion.and (.imp fun _ => released_persistent)
  refine weaken ?_ fun world h =>
    (⟨h.1, fun hstrict => (h.2 after rfl hstrict).2 hcond.2⟩ :
      assertion world ∧ (strict → world.Released row.clientRequestId))
  refine (deleteReferences_silent uploaded).bind hreleased fun deleted => ?_
  refine .ite (fun _ => done hassertion fun _ h => h.1) fun _ => ?_
  refine .bind (removePendingGeneration_silent hreleased fun _ h => h.2) fun removed => ?_
  exact done hassertion fun _ h => h.1

theorem forgetCancellation_silent : Silent strict (forgetCancellation key) :=
  .act fun _ world hinv => unseen_quiet hinv _ world.polling

/-- A cancellation disturbs nobody when its task is one that the server named for the key. -/
theorem cleanupCancelledGeneration_triple (hassertion : Persistent strict own assertion)
    (hnamed : ∀ taskId, serverTaskId = some taskId → taskId ≠ "" →
      ∀ world, assertion world → strict → world.Named key taskId) :
    (discipline strict).Triple own (At strict assertion)
      (cleanupCancelledGeneration authority savedGroup key uploaded serverTaskId)
      fun _ => At strict assertion := by
  refine (Silent.read _).bind hassertion fun active => ?_
  refine .ite (fun _ => done hassertion fun _ => id) fun _ => ?_
  refine loadRow_tells.bind hassertion fun row? => ?_
  cases row? with
  | none => exact done hassertion fun _ h => h.1
  | some row =>
  refine given fun hkey => ?_
  obtain rfl := hkey row rfl
  refine (operate_silent rfl).bind hassertion fun requested => ?_
  refine .ite (fun _ => done hassertion fun _ => id) fun _ => ?_
  cases htask : serverTaskId.filter (· ≠ "") with
  | none => exact done hassertion fun _ => id
  | some taskId =>
  obtain ⟨htask, hne⟩ := Option.filter_eq_some_iff.mp htask
  refine .bind (confirmCancellation_triple hassertion
    (hnamed taskId htask (of_decide_eq_true hne))) fun confirmed => ?_
  refine .ite (fun _ => done hassertion fun _ => id) fun _ => ?_
  exact forgetCancellation_silent.bind hassertion fun _ => done hassertion fun _ => id

/-- Without an id the server is not asked. -/
theorem cleanupCancelledGeneration_silent :
    Silent strict (cleanupCancelledGeneration authority savedGroup key uploaded none) :=
  fun _ _ hassertion => cleanupCancelledGeneration_triple hassertion nofun

theorem beginGenerationSubmission_silent :
    Silent strict (beginGenerationSubmission authority key) := by
  refine .andThen loadRow_tells.silent fun row? => ?_
  cases row? with
  | none => exact .pure false
  | some row => exact .andThen (operate_silent rfl) fun _ => .pure _

theorem pollTask_triple (hassertion : Persistent strict own assertion)
    (hnamed : ∀ world, assertion world → strict → world.Named identity.clientRequestId taskId)
    (polls : Nat) (detail : GenerationTaskDetail) :
    (discipline strict).Triple own (At strict assertion)
      (pollTask thread authority identity savedGroup taskId polls detail)
      fun _ => At strict assertion := by
  induction polls generalizing detail with
  | zero =>
    have hpolling : Silent strict (pollTask thread authority identity savedGroup taskId 0 detail) :=
      .act fun _ world hinv => unseen_quiet hinv world.cancelled _
    exact hpolling own assertion hassertion
  | succ polls ih =>
    refine (Silent.read _).bind hassertion fun active => ?_
    refine .ite (fun _ => done hassertion fun _ => id) fun _ => ?_
    refine (Silent.read _).bind hassertion fun cancelled => ?_
    refine .ite (fun _ => ?_) fun _ => ?_
    · refine .bind (cleanupCancelledGeneration_triple hassertion ?_) fun _ =>
        done hassertion fun _ => id
      rintro _ ⟨⟩ _
      exact hnamed
    refine (Silent.read _).bind hassertion fun heard => ?_
    refine .ite (fun _ => done hassertion fun _ => id) fun _ => ?_
    refine .ite (fun _ => (operate_silent rfl).bind hassertion fun _ =>
      done hassertion fun _ => id) fun _ => ?_
    refine taskScoped_silent.bind hassertion fun polled => ?_
    cases polled with
    | error error => exact done hassertion fun _ => id
    | ok detail => exact ih detail

end Cancellation

/-- In a strict run every id that the thread received is settled, excused, or still pending. -/
def Clear (strict : Prop) (thread : Nat) (pending : Receipt → Prop) (world : World) : Prop :=
  strict → ∀ receipt ∈ world.received, receipt.thread = thread →
    pending receipt ∨ Settled receipt world ∨ (thread, receipt.key) ∈ world.unrecorded

abbrev Calm (strict : Prop) (thread : Nat) : World → Prop := Clear strict thread fun _ => False

/-- An error that makes a thread remove the row comes with a reason, unless the thread has sent
nothing. -/
def Excused (strict : Prop) (thread : Nat) (key : String) (error : ApiError) (world : World) :
    Prop :=
  strict → removesRecord error = true → (thread, key) ∈ world.senders → world.Released key

/-- The thread has received an id and not recorded it yet. -/
structure Pending (strict : Prop) (thread : Nat) (key taskId : String) (world : World) :
    Prop where
  nonempty : taskId ≠ ""
  received : ⟨thread, key, taskId⟩ ∈ world.received
  clear : Clear strict thread (· = ⟨thread, key, taskId⟩) world

/-- The end of a creation: an id to record for the payer, or nothing received. -/
def Received (strict : Prop) (thread : Nat) (key payer : String) :
    Except ApiError GenerationTaskDetail → World → Prop
  | .ok detail => fun world => Pending strict thread key detail.id world ∧
      requireSavedGroup payer detail.billingAccountGroupId = .ok ()
  | .error error => fun world => Calm strict thread world ∧ Excused strict thread key error world

/-- The reply to a creation: an id to record when it is for the payer of the request. -/
def Answered (strict : Prop) (replay : Bool) (thread : Nat) (key payer : String) :
    Except ApiError GenerationTaskDetail → World → Prop
  | .ok detail =>
    if requireSavedGroup payer detail.billingAccountGroupId = .ok () then
      Pending strict thread key detail.id
    else Calm strict thread
  | .error error => fun world => Calm strict thread world ∧
      (replay = true ∨ Excused strict thread key error world)

section Receipts

variable {strict : Prop} {own : Owner} {key taskId payer : String}
  {pending : Receipt → Prop} {world before after : World} {thread : Nat}
  {result : Except ApiError GenerationTaskDetail}

theorem Clear.evolves (hinv : Inv strict before) (h : Clear strict thread pending before)
    (hstep : Evolves before after) (hinv' : Inv strict after)
    (hreceived : ∀ receipt ∈ after.received, receipt.thread = thread →
      receipt ∈ before.received) : Clear strict thread pending after := by
  intro hstrict receipt hmem hthread
  have hold := hreceived receipt hmem hthread
  rcases h hstrict receipt hold hthread with h | h | h
  · exact .inl h
  · exact .inr (.inl (h.evolves hinv hold hstep hinv' hstrict))
  · exact .inr (.inr (hstep.unrecorded h))

theorem Clear.persistent : Persistent strict own (Clear strict own.thread pending) :=
  fun _ _ hinv h hstep => h.evolves hinv hstep.evolves hstep.inv (hstep.received rfl)

theorem Pending.persistent : Persistent strict own (Pending strict own.thread key taskId) :=
  fun before after hinv h hstep => ⟨h.nonempty, hstep.evolves.received h.received,
    Clear.persistent before after hinv h.clear hstep⟩

theorem Excused.persistent {error : ApiError} :
    Persistent strict own (Excused strict own.thread key error) :=
  fun _ _ _ h hstep hstrict hremoves hsent =>
    (h hstrict hremoves ((hstep.senders rfl).mp hsent)).mono hstep.evolves.released

theorem Received.persistent :
    Persistent strict own (Received strict own.thread key payer result) := by
  cases result with
  | error error => exact Clear.persistent.and .persistent
  | ok detail => exact Pending.persistent.and (.const _)

theorem Answered.persistent {replay : Bool} :
    Persistent strict own (Answered strict replay own.thread key payer result) := by
  cases result with
  | error error =>
    exact Clear.persistent.and fun before after hinv h hstep =>
      h.imp_right fun h => Excused.persistent before after hinv h hstep
  | ok detail =>
    simp only [Answered]
    split
    · exact Pending.persistent
    · exact Clear.persistent

/-- A pending id that does not wait for its row is settled or excused. -/
theorem Pending.calm (h : Pending strict own.thread key taskId world) (hinv : Inv strict world)
    (hwaits : strict → ∀ row, ¬Waits own ⟨own.thread, key, taskId⟩ row world) :
    Calm strict own.thread world := by
  intro hstrict receipt hmem hthread
  rcases h.clear hstrict receipt hmem hthread with rfl | hsettled
  · right
    by_cases hunrecorded : (own.thread, key) ∈ world.unrecorded
    · exact .inr hunrecorded
    · refine .inl (hinv.settled hstrict hmem fun row hrow hempty => ?_)
      exact hwaits hstrict row ⟨rfl, hmem, hunrecorded, hrow, hempty⟩
  · exact .inr hsettled

end Receipts

theorem removesRecord_withBillingPayer (error : ApiError) (payer : String) :
    removesRecord (error.withBillingPayer payer) = removesRecord error := by
  cases hbilling : error.isBillingRejection with
  | true =>
    have hsame : (error.withBillingPayer payer).isBillingRejection = true := by
      simpa [ApiError.isBillingRejection] using hbilling
    simp [removesRecord, hbilling, hsame]
  | false =>
    have hsame : error.withBillingPayer payer = error := by
      cases error <;> simp_all [ApiError.withBillingPayer]
    rw [hsame]

theorem isClientUpdateRequired_http {status : Nat} {code message : String} :
    (ApiError.http status code message).isClientUpdateRequired =
      (status == 426 && code == "client_upgrade_required") := by
  unfold ApiError.isClientUpdateRequired
  split
  · rename_i heq
    cases heq
    rfl
  · rename_i hother
    by_contra hne
    simp only [Bool.false_eq, Bool.not_eq_false, Bool.and_eq_true, beq_iff_eq] at hne
    obtain ⟨rfl, rfl⟩ := hne
    exact hother message rfl

/-- An answer whose error removes the row refuses the creation. -/
theorem refuses_of_removesRecord {reply : Reply} {error : ApiError}
    (hresult : reply.result = .error error) (h : removesRecord error = true) :
    reply.refuses = true := by
  cases reply with
  | network message timeout =>
    cases hresult
    simp [removesRecord, ApiError.isBillingRejection, ApiError.code,
      ApiError.shouldPreserveGenerationRecovery] at h
  | malformed message =>
    cases hresult
    simp [removesRecord, ApiError.isBillingRejection, ApiError.code,
      ApiError.shouldPreserveGenerationRecovery] at h
  | accepted detail => cases hresult
  | http status code message =>
    cases hresult
    simp only [removesRecord, ApiError.shouldPreserveGenerationRecovery,
      isClientUpdateRequired_http] at h
    simp only [Reply.refuses]
    cases hupgrade : status == 426 && code == "client_upgrade_required"
    · simp only [hupgrade, Bool.false_eq_true, if_false, Bool.or_eq_true, Bool.not_eq_true',
        Bool.or_eq_false_iff, decide_eq_false_iff_not, Nat.not_le] at h
      rcases h with hbilling | ⟨⟨⟨⟨hserver, htimeout⟩, hearly⟩, hmany⟩, hlocked⟩
      · simp [hbilling]
      · simp [hserver, htimeout, hearly, hmany, hlocked]
    · simp only [hupgrade, if_true, Bool.not_true, Bool.or_false] at h
      simp [h]

/-- A request that is determined, and the row of a first submission is there or was let go. -/
structure Ready (strict : Prop) (replay : Bool) (creation : Creation) (world : World) : Prop where
  determined : creation ∈ world.determined
  kept : replay = false → strict → world.row creation.key = none → world.Released creation.key

/-- What a reply leaves its receiver with. -/
structure Replied (strict : Prop) (replay : Bool) (thread : Nat) (key payer : String)
    (reply : Reply) (world : World) : Prop where
  noted : replay = false → (key, reply) ∈ world.replies
  accepted : ∀ detail, reply.result = .ok detail →
    Answered strict true thread key payer (.ok detail) world
  failed : ∀ error, reply.result = .error error → Calm strict thread world
  token : ∀ error, reply.result = .error error → strict → error.isAccessTokenRejected = true →
    reply.refuses = true

section Creations

variable {strict : Prop} {own : Owner} {replay : Bool} {creation : Creation}
  {assertion : World → Prop} {savedGroup : Option String} {error : ApiError} {world : World}

theorem Ready.persistent (hkey : replay = false → own.key = some creation.key) :
    Persistent strict own (Ready strict replay creation) := by
  refine fun before after hinv h hstep =>
    ⟨hstep.evolves.determined h.determined, fun hreplay hstrict hnone => ?_⟩
  have hfrozen := hstep.frozen creation.key (hinv.determined creation h.determined) (hkey hreplay)
  cases hrow : before.row creation.key with
  | none => exact (h.kept hreplay hstrict hrow).mono hstep.evolves.released
  | some row => exact hfrozen.kept hstrict row hrow hnone

theorem sent_persistent {key : String} : Persistent strict own fun world => world.Sent key :=
  .evolves fun _ _ _ h hstep => h.mono hstep.sent

theorem unsent_persistent {key : String} :
    Persistent strict own fun world => (own.thread, key) ∉ world.senders :=
  fun _ _ _ h hstep hsent => h ((hstep.senders rfl).mp hsent)

/-- A submitter sends only for its own row, a replay is nobody's own. -/
def Owner.creates (own : Owner) (replay : Bool) (creation : Creation) : Prop :=
  own.key = if replay then none else some creation.key

theorem Owner.creates.key (h : own.creates replay creation) (hreplay : replay = false) :
    own.key = some creation.key := by
  subst hreplay
  exact h

theorem sendOnceScope_triple (howner : own.creates replay creation)
    (hassertion : Persistent strict own assertion) :
    (discipline strict).Triple own
      (At strict fun world => (Calm strict own.thread world ∧ Ready strict replay creation world) ∧
        assertion world)
      (sendOnceScope own.thread creation)
      fun result => At strict fun world =>
        (Calm strict own.thread world ∧ Ready strict replay creation world) ∧
        (result = .ok () → world.Sent creation.key) ∧
        ∀ error, result = .error error → assertion world := by
  have hpre : Persistent strict own fun world =>
      Calm strict own.thread world ∧ Ready strict replay creation world :=
    Clear.persistent.and (Ready.persistent howner.key)
  have hpost : ∀ result : Except ApiError Unit, Persistent strict own fun world =>
      (result = .ok () → world.Sent creation.key) ∧
        ∀ error, result = .error error → assertion world :=
    fun _ => Persistent.and (.imp fun _ => sent_persistent)
      (.forall fun _ => .imp fun _ => hassertion)
  refine act_triple (hpre.and hassertion) (fun result => hpre.and (hpost result)) ?_
  rintro answers world hinv ⟨⟨hcalm, hready⟩, hat⟩ hallowed
  cases hpost : answers.post creation with
  | error error => exact ⟨.refl hinv, ⟨hcalm, hready⟩, nofun, fun _ _ => hat⟩
  | ok u =>
    dsimp only
    have hkept : strict → world.row creation.key = none → world.Released creation.key := by
      cases replay with
      | false => exact hready.kept rfl
      | true => exact fun hstrict => hallowed.meets hstrict howner hpost
    have hsend : Change strict (· ≠ own.thread) (fun _ => True) world { world with
        sent := creation :: world.sent
        senders := (own.thread, creation.key) :: world.senders } :=
      send_change hinv own.thread hready.determined hkept
    refine ⟨hsend.mono (fun _ => id) fun _ _ => trivial, ⟨?_, ?_⟩, fun _ => ?_, nofun⟩
    · exact hcalm.evolves hinv hsend.evolves hsend.inv fun _ hmem _ => hmem
    · exact ⟨hready.determined, hready.kept⟩
    · exact ⟨creation, List.mem_cons_self, rfl⟩

theorem Pending.receive {key taskId : String} (hinv : Inv strict world)
    (hcalm : Calm strict own.thread world) (hne : taskId ≠ "")
    (hchange : Change strict (· ≠ own.thread) (fun _ => True) world
      { world with received := ⟨own.thread, key, taskId⟩ :: world.received }) :
    Pending strict own.thread key taskId
      { world with received := ⟨own.thread, key, taskId⟩ :: world.received } := by
  refine ⟨hne, List.mem_cons_self, fun hstrict receipt hmem hthread => ?_⟩
  rcases List.mem_cons.mp hmem with rfl | hold
  · exact .inl rfl
  · refine .inr ((hcalm hstrict receipt hold hthread).resolve_left id |>.imp_left ?_)
    exact fun hsettled => hsettled.evolves hinv hold hchange.evolves hchange.inv hstrict

theorem noted_persistent {key : String} {reply : Reply} :
    Persistent strict own fun world => replay = false → (key, reply) ∈ world.replies :=
  .imp fun _ => .evolves fun _ _ _ h hstep => hstep.replies h

theorem Replied.persistent {key payer : String} {reply : Reply} :
    Persistent strict own (Replied strict replay own.thread key payer reply) :=
  fun before after hinv h hstep =>
    ⟨noted_persistent before after hinv h.noted hstep,
      fun detail hresult => Answered.persistent before after hinv (h.accepted detail hresult) hstep,
      fun error hresult => Clear.persistent before after hinv (h.failed error hresult) hstep,
      h.token⟩

theorem receiveReply_triple (howner : own.creates replay creation) :
    (discipline strict).Triple own
      (At strict fun world => (Calm strict own.thread world ∧ Ready strict replay creation world) ∧
        world.Sent creation.key)
      (receiveReply own.thread replay creation)
      fun reply => At strict fun world =>
        Replied strict replay own.thread creation.key creation.payer reply world ∧
        Ready strict replay creation world := by
  have hpre : Persistent strict own fun world =>
      (Calm strict own.thread world ∧ Ready strict replay creation world) ∧
        world.Sent creation.key :=
    (Clear.persistent.and (Ready.persistent howner.key)).and sent_persistent
  refine act_triple hpre (fun _ => Replied.persistent.and (Ready.persistent howner.key)) ?_
  intro answers world hinv hat hallowed
  have hmeets : strict → Replies world creation (answers.reply creation) := hallowed.meets
  have hnames := hallowed.names creation
  dsimp only
  generalize answers.reply creation = reply at hmeets hnames ⊢
  have hquiet : Quiet strict world (world.noteReply replay creation.key reply) :=
    noteReply_quiet hinv replay reply
  obtain ⟨⟨hcalm, hready⟩, hsent⟩ := hpre world _ hinv hat hquiet.change
  have hnoted : replay = false →
      (creation.key, reply) ∈ (world.noteReply replay creation.key reply).replies := by
    rintro rfl
    exact List.mem_cons_self
  have hone : strict → ∀ detail, reply = .accepted detail →
      ∀ old ∈ (world.noteReply replay creation.key reply).received,
        old.key = creation.key → old.taskId = detail.id := by
    intro hstrict detail hreply
    have hsame : (world.noteReply replay creation.key reply).received = world.received := by
      cases replay <;> rfl
    exact hsame ▸ (hmeets hstrict).oneTask detail hreply
  have htoken := fun error hresult hstrict => (hmeets hstrict).token error hresult
  have hfailed : (∀ detail, reply ≠ .accepted detail) →
      Replied strict replay own.thread creation.key creation.payer reply
        (world.noteReply replay creation.key reply) := by
    refine fun hno => ⟨hnoted, fun detail hresult => ?_, fun _ _ => hcalm, htoken⟩
    cases reply
    case accepted => exact absurd rfl (hno _)
    all_goals cases hresult
  cases reply with
  | network message timeout => exact ⟨hquiet.change, hfailed nofun, hready⟩
  | malformed message => exact ⟨hquiet.change, hfailed nofun, hready⟩
  | http status code message => exact ⟨hquiet.change, hfailed nofun, hready⟩
  | accepted detail =>
    have hne := hnames detail rfl rfl
    dsimp only
    split
    · rename_i hpayer
      have hchange : Change strict (· ≠ own.thread) (fun _ => True) _ _ :=
        receive_change hquiet.inv own.thread hne hsent fun hstrict => hone hstrict detail rfl
      refine ⟨(Quiet.change hquiet).trans hinv (hchange.mono (fun _ => id) fun _ _ => trivial),
        ⟨hnoted, ?_, nofun, nofun⟩, hready.determined, hready.kept⟩
      rintro _ ⟨⟩
      simp only [Answered, hpayer, if_true]
      exact .receive hquiet.inv hcalm hne hchange
    · rename_i hpayer
      refine ⟨hquiet.change, ⟨hnoted, ?_, nofun, nofun⟩, hready⟩
      rintro _ ⟨⟩
      simp only [Answered, hpayer, if_false]
      exact hcalm

/-- A creation of which nothing was sent leaves no id to record, and no reason to let go. -/
theorem endCreation_unsent {key payer : String} (hassertion : Persistent strict own assertion)
    (hcalm : ∀ world, assertion world → Calm strict own.thread world)
    (hunsent : ∀ world, assertion world → replay = true ∨ (own.thread, key) ∉ world.senders) :
    (discipline strict).Triple own (At strict assertion) (endCreation replay key none error)
      fun result => At strict (Answered strict replay own.thread key payer result) := by
  refine act_triple hassertion (fun _ => Answered.persistent) fun answers world hinv hat _ => ?_
  refine ⟨.refl hinv, hcalm world hat, (hunsent world hat).imp_right ?_⟩
  exact fun hunsent _ _ hsent => absurd hsent hunsent

/-- After a reply the server has refused the creation where its row may go. -/
theorem endCreation_replied {key payer : String} {reply : Reply}
    (hassertion : Persistent strict own assertion)
    (hcalm : ∀ world, assertion world → Calm strict own.thread world)
    (hnoted : ∀ world, assertion world → replay = false → (key, reply) ∈ world.replies)
    (hrefused : strict → removesRecord error = true → reply.refuses = true) :
    (discipline strict).Triple own (At strict assertion)
      (endCreation replay key (some reply) error)
      fun result => At strict (Answered strict replay own.thread key payer result) := by
  refine act_triple hassertion (fun _ => Answered.persistent) fun answers world hinv hat _ => ?_
  have hcalm := hcalm world hat
  have hnoted := hnoted world hat
  dsimp only
  cases hrefuses : reply.refuses with
  | false =>
    simp only [Option.filter_some, hrefuses, Bool.false_eq_true, if_false]
    refine ⟨.refl hinv, hcalm, .inr fun hstrict hremoves _ => ?_⟩
    cases hrefuses.symm.trans (hrefused hstrict hremoves)
  | true =>
    simp only [Option.filter_some, hrefuses, if_true]
    cases replay with
    | true => exact ⟨.refl hinv, hcalm, .inl rfl⟩
    | false =>
      have hquiet : Quiet strict world (world.release key (.refused reply)) :=
        release_quiet hinv ⟨hrefuses, hnoted rfl⟩
      refine ⟨hquiet.change, ?_, .inr fun _ _ _ => ⟨_, List.mem_cons_self⟩⟩
      exact Clear.persistent world _ hinv hcalm hquiet.change

theorem authenticatedJsonWithScope_triple (howner : own.creates replay creation) :
    (discipline strict).Triple own
      (At strict fun world => (Calm strict own.thread world ∧ Ready strict replay creation world) ∧
        (replay = true ∨ (own.thread, creation.key) ∉ world.senders))
      (authenticatedJsonWithScope own.thread replay creation)
      fun result => At strict
        (Answered strict replay own.thread creation.key creation.payer result) := by
  have hready : Persistent strict own fun world =>
      Calm strict own.thread world ∧ Ready strict replay creation world :=
    Clear.persistent.and (Ready.persistent howner.key)
  have hunsent : Persistent strict own fun world =>
      replay = true ∨ (own.thread, creation.key) ∉ world.senders :=
    fun before after hinv h hstep =>
      h.imp_right fun h => unsent_persistent before after hinv h hstep
  have hpre := hready.and hunsent
  refine (Silent.read _).bind hpre fun token => ?_
  cases token with
  | error error => exact endCreation_unsent hpre (fun _ h => h.1.1) fun _ h => h.2
  | ok u =>
  refine .bind (sendOnceScope_triple howner hunsent) fun posted => ?_
  cases posted with
  | error error =>
    exact weaken (endCreation_unsent hpre (fun _ h => h.1.1) fun _ h => h.2)
      fun _ h => ⟨h.1, h.2.2 error rfl⟩
  | ok u =>
  refine .bind (weaken (receiveReply_triple howner) fun world h => ⟨h.1, h.2.1 rfl⟩)
    fun first => ?_
  cases hfirst : first.result with
  | ok detail =>
    exact done_fact (fun _ => Answered.persistent) fun _ h => h.1.accepted detail hfirst
  | error error =>
  -- The first answer decides: it refuses, or its error leaves the row.
  have hnext : Persistent strict own fun world =>
      (Calm strict own.thread world ∧ Ready strict replay creation world) ∧
        (replay = false → (creation.key, first) ∈ world.replies) := hready.and noted_persistent
  have hend : ∀ last, (strict → removesRecord last = true → first.refuses = true) →
      (discipline strict).Triple own (At strict fun world =>
        (Calm strict own.thread world ∧ Ready strict replay creation world) ∧
          (replay = false → (creation.key, first) ∈ world.replies))
        (endCreation replay creation.key (some first) last)
        fun result => At strict
          (Answered strict replay own.thread creation.key creation.payer result) :=
    fun _ => endCreation_replied hnext (fun _ h => h.1.1) fun _ h => h.2
  refine weaken (given fun htoken => ?_) fun world h =>
    (⟨⟨⟨h.1.failed error hfirst, h.2⟩, h.1.noted⟩, h.1.token error hfirst⟩ :
      ((Calm strict own.thread world ∧ Ready strict replay creation world) ∧
        (replay = false → (creation.key, first) ∈ world.replies)) ∧
      (strict → error.isAccessTokenRejected = true → first.refuses = true))
  refine .ite (fun _ => hend error fun _ => refuses_of_removesRecord hfirst) fun hrejected => ?_
  have hrefused : strict → first.refuses = true :=
    fun hstrict => htoken hstrict (by simpa using hrejected)
  refine (Silent.read _).bind hnext fun token => ?_
  cases token with
  | error error => exact hend error fun hstrict _ => hrefused hstrict
  | ok u =>
  refine .bind (sendOnceScope_triple howner noted_persistent) fun posted => ?_
  cases posted with
  | error error =>
    exact weaken (hend error fun hstrict _ => hrefused hstrict) fun _ h => ⟨h.1, h.2.2 error rfl⟩
  | ok u =>
  refine .bind (weaken (receiveReply_triple howner) fun world h => ⟨h.1, h.2.1 rfl⟩)
    fun second => ?_
  cases hsecond : second.result with
  | ok detail =>
    exact done_fact (fun _ => Answered.persistent) fun _ h => h.1.accepted detail hsecond
  | error error =>
    exact weaken (endCreation_replied (Clear.persistent.and noted_persistent) (fun _ h => h.1)
      (fun _ h => h.2) fun _ => refuses_of_removesRecord hsecond)
      fun _ h => ⟨h.1.failed error hsecond, h.1.noted⟩

/-- With the payer of its scope, a creation ends with an id to record or with nothing. -/
theorem createTaskBodyBilling_triple {scope : BillingScope} {key : String} {body : Json}
    (hkey : own.key = some key)
    (hgroup : ∀ group, savedGroup = some group → group = scope.accountGroupId) :
    (discipline strict).Triple own
      (At strict fun world => (Calm strict own.thread world ∧
          Ready strict false ⟨key, "/v1/generation/tasks", scope.accountGroupId, body⟩ world) ∧
        (own.thread, key) ∉ world.senders)
      (createTaskBodyBilling own.thread savedGroup scope key body)
      fun result => At strict (Received strict own.thread key scope.accountGroupId result) := by
  have hpost : ∀ result, Persistent strict own
      (Received strict own.thread key scope.accountGroupId result) := fun _ => Received.persistent
  refine .bind (weaken (authenticatedJsonWithScope_triple hkey) fun _ h => ⟨h.1, .inr h.2⟩)
    fun result => ?_
  cases result with
  | error error =>
    refine done_fact hpost fun _ h => ⟨h.1, fun hstrict hremoves hsent => ?_⟩
    rw [removesRecord_withBillingPayer] at hremoves
    exact h.2.resolve_left Bool.false_ne_true hstrict hremoves hsent
  | ok detail =>
    cases hpayer : requireSavedGroup scope.accountGroupId detail.billingAccountGroupId with
    | error error =>
      -- The task of another payer is refused with an error that leaves the row.
      have hpreserved : removesRecord error = false := by
        unfold requireSavedGroup at hpayer
        split at hpayer
        · cases hpayer
        · cases hpayer
          rfl
      simp only [Answered, hpayer, reduceCtorEq, if_false, Except.mapError, bind, Except.bind]
      refine done_fact hpost fun _ h => ⟨h, fun _ hremoves => ?_⟩
      rw [hpreserved] at hremoves
      cases hremoves
    | ok u =>
      have hchecked : checkedSavedDetail savedGroup detail = .ok detail := by
        cases savedGroup with
        | none => rfl
        | some group =>
          obtain rfl := hgroup group rfl
          simp only [checkedSavedDetail, hpayer]
          rfl
      simp only [Answered, hpayer, if_true, Except.mapError, bind, Except.bind, hchecked]
      exact done_fact hpost fun _ h => ⟨h, hpayer⟩

end Creations

section Recording

variable {strict : Prop} {own : Owner} {key taskId : String}
  {authority : NamespaceStorageAuthority} {identity : RecoveryRecordIdentity}
  {uploaded : List String} {clear : Bool} {savedGroup : Option String} {error : ApiError}
  {world : World}

/-- The test with which the workers go on after a write. -/
theorem written_of_not {result : Except Failure Bool}
    (h : ¬(!(result matches .ok true)) = true) : result = .ok true := by
  split at h
  · rfl
  · exact absurd rfl h

/-- The rule of an action on the row that the thread submits. -/
theorem own_triple {α : Type} {label : Act} {action : Answers → World → α × World}
    {assertion : World → Prop} {fact : α → World → Prop} (hkey : own.key = some key)
    (hpre : Persistent strict own assertion) (hpost : ∀ result, Persistent strict own (fact result))
    (h : ∀ answers world, Inv strict world → assertion world →
      Allowed strict own label world answers →
      Change strict (fun _ => True) (· ≠ key) world (action answers world).2 ∧
        fact (action answers world).1 (action answers world).2) :
    (discipline strict).Triple own (At strict assertion) (Program.labelled label action)
      fun result => At strict (fact result) := by
  refine act_triple hpre hpost fun answers world hinv hat hallowed => ?_
  obtain ⟨hchange, hfact⟩ := h answers world hinv hat hallowed
  exact ⟨hchange.mono (fun _ _ => trivial)
    fun other hother heq => hother (hkey.trans (heq ▸ rfl)), hfact⟩

theorem Clear.change {thread : Nat} {pending : Receipt → Prop} {keys : String → Prop}
    {before after : World} (hinv : Inv strict before) (h : Clear strict thread pending before)
    (hchange : Change strict (fun _ => True) keys before after) :
    Clear strict thread pending after :=
  h.evolves hinv hchange.evolves hchange.inv (hchange.received trivial)

/-- A failed creation removes its row before anything was sent, or for a reason. -/
theorem creationFailed_triple (hidentity : identity.clientRequestId = key)
    (hkey : own.key = some key) :
    (discipline strict).Triple own
      (At strict fun world =>
        Calm strict own.thread world ∧ Excused strict own.thread key error world)
      (creationFailed authority identity error) fun _ => At strict (Calm strict own.thread) := by
  subst hidentity
  have hpre : Persistent strict own fun world => Calm strict own.thread world ∧
      Excused strict own.thread identity.clientRequestId error world :=
    Clear.persistent.and .persistent
  refine (Silent.read _).bind hpre fun active => ?_
  refine .ite (fun _ => done Clear.persistent fun _ h => h.1) fun _ => ?_
  refine .ite (fun hremoves => ?_) fun _ => done Clear.persistent fun _ h => h.1
  refine .bind (own_triple hkey hpre (fun _ => Clear.persistent) ?_)
    fun _ => done Clear.persistent fun _ => id
  rintro answers world hinv ⟨hcalm, hexcused⟩ hallowed
  have hmeets : strict → Operates own world (.remove identity) := hallowed.meets
  have hchange : Change strict (fun _ => True) (· ≠ identity.clientRequestId) world
      (world.operated answers.storage authority (.remove identity)) := by
    refine removed_change hinv fun hstrict => ?_
    by_cases hsent : world.Sent identity.clientRequestId
    · left
      rcases (hmeets hstrict).first identity rfl hkey hsent with hown | hreleased
      · exact hexcused hstrict hremoves hown
      · exact hreleased
    · exact .inr hsent
  exact ⟨hchange, hcalm.change hinv hchange⟩

/-- A thread that finds a cancellation has no id that waits for its row. -/
theorem cancelRequested_triple :
    (discipline strict).Triple own (At strict (Pending strict own.thread key taskId))
      (generationCancelRequested key)
      fun cancelled => At strict fun world => Pending strict own.thread key taskId world ∧
        (cancelled = true → Calm strict own.thread world) := by
  refine quiet_triple Pending.persistent (fun _ => .imp fun _ => Clear.persistent) ?_
  refine fun answers world hinv hpending hallowed => ⟨.refl hinv, fun hcancelled => ?_⟩
  refine hpending.calm hinv fun hstrict row hwaits => ?_
  exact hallowed.meets hstrict _ row hwaits rfl (List.contains_iff_mem.mp hcancelled)

/-- A cancellation of a task whose id the thread has received. -/
theorem cleanupReceived_triple :
    (discipline strict).Triple own
      (At strict fun world =>
        Pending strict own.thread key taskId world ∧ Calm strict own.thread world)
      (cleanupCancelledGeneration authority savedGroup key uploaded (some taskId))
      fun _ => At strict (Calm strict own.thread) := by
  refine (cleanupCancelledGeneration_triple (Pending.persistent.and Clear.persistent) ?_).mono
    (fun _ => id) fun _ _ h => ⟨h.1, h.2.2⟩
  rintro _ ⟨⟩ _ world h _
  exact ⟨_, h.1.received, rfl, rfl⟩

/-- The write of a received id: done, or the id is no longer pending. -/
theorem operateReceived_triple (op : GenerationOperation) {fact : World → Prop}
    (hquiet : ∀ answers world, Inv strict world → Pending strict own.thread op.key taskId world →
      Quiet strict world (world.operated answers authority op))
    (hunwritten : ∀ answers (world : World) row,
      (op.run answers authority world.file).1 = .ok false → world.row op.key = some row →
      RecoveryRow.identity row ≠ op.identity)
    (hfact : Persistent strict own fact)
    (hdone : ∀ answers world, Inv strict world → Pending strict own.thread op.key taskId world →
      (op.run answers authority world.file).1 = .ok true →
      fact (world.operated answers authority op)) :
    (discipline strict).Triple own (At strict (Pending strict own.thread op.key taskId))
      (operateReceived own.thread authority op)
      fun result => At strict fun world =>
        (result = .ok true → Pending strict own.thread op.key taskId world ∧ fact world) ∧
        (result ≠ .ok true → Calm strict own.thread world) := by
  refine act_triple Pending.persistent (fun _ => Persistent.and
    (.imp fun _ => Pending.persistent.and hfact) (.imp fun _ => Clear.persistent)) ?_
  intro answers world hinv hpending hallowed
  have hmeets : strict → Operates own world op := hallowed.meets
  dsimp only
  have hoperated := hquiet answers.storage world hinv hpending
  have hdone := hdone answers.storage world hinv hpending
  have hunwritten := hunwritten answers.storage world
  generalize (op.run answers.storage authority world.file).1 = result at hdone hunwritten ⊢
  have hchange : Quiet strict world
      ((world.operated answers.storage authority op).settle own.thread op.key result) :=
    hoperated.trans hinv (settle_quiet hoperated.inv own.thread result)
  have hpending' := Pending.persistent world _ hinv hpending hchange.change
  refine ⟨hchange.change, ?_⟩
  rcases result with failure | (_ | _)
  · refine ⟨nofun, fun _ hstrict receipt hmem hthread => ?_⟩
    rcases hpending'.clear hstrict receipt hmem hthread with rfl | hsettled
    · exact .inr (.inr List.mem_cons_self)
    · exact .inr hsettled
  · have hcalm : Calm strict own.thread world := hpending.calm hinv fun hstrict row hwaits =>
      hunwritten row rfl hwaits.stored ((hmeets hstrict).unmoved _ row hwaits rfl)
    exact ⟨nofun, fun _ => Clear.persistent world _ hinv hcalm hchange.change⟩
  · exact ⟨fun _ => ⟨hpending', hdone rfl⟩, fun hne => absurd rfl hne⟩

theorem accepted_later {row later : PendingGenerationRecord}
    (h : (GenerationRecoveryPatch.accepted taskId uploaded clear).apply row = .ok later) :
    later.serverTaskId = taskId ∧ later.billingAccountGroupId = row.billingAccountGroupId := by
  cases h
  cases clear <;> exact ⟨rfl, rfl⟩

/-- A patch that was written left the patched row. -/
theorem patched_written {answers : StorageAnswers} {change : GenerationRecoveryPatch}
    (hterminal : change.isTerminal = false)
    (h : (GenerationOperation.run answers authority world.file (.patch identity change)).1 =
      .ok true) :
    ∃ row later, world.row identity.clientRequestId = some row ∧ change.apply row = .ok later ∧
      (world.operated answers authority (.patch identity change)).row identity.clientRequestId =
        some later := by
  rcases applyGenerationPatch_cases answers authority identity change world.file with
    ⟨failure, hfail⟩ | ⟨written, next, heq, -, hcases⟩
  · rw [GenerationOperation.run, hfail] at h
    cases h
  · rw [GenerationOperation.run, heq] at h
    cases h
    rcases hcases with ⟨hno, -, -⟩ | ⟨row, later, hrow, -, happly, -, hlater⟩
    · cases hno
    · refine ⟨row, later, hrow, happly, ?_⟩
      simp only [World.row, World.operated, GenerationOperation.run, heq]
      rw [hlater, hterminal]
      rfl

/-- Recording a received id. -/
theorem accept_triple (hidentity : identity.clientRequestId = key) :
    (discipline strict).Triple own (At strict (Pending strict own.thread key taskId))
      (operateReceived own.thread authority (.patch identity (.accepted taskId uploaded clear)))
      fun result => At strict fun world => Calm strict own.thread world ∧
        (result = .ok true → Bound key taskId world) := by
  subst hidentity
  have hbound : Persistent strict own (Bound identity.clientRequestId taskId) :=
    .evolves fun _ _ hinv h hstep => h.evolves hinv hstep
  have hnamed : ∀ world, Pending strict own.thread identity.clientRequestId taskId world →
      world.Named identity.clientRequestId taskId :=
    fun _ h => ⟨_, h.received, rfl, rfl⟩
  have hwrite : (discipline strict).Triple own
      (At strict (Pending strict own.thread identity.clientRequestId taskId))
      (operateReceived own.thread authority (.patch identity (.accepted taskId uploaded clear)))
      fun result => At strict fun world => (result = .ok true →
        Pending strict own.thread identity.clientRequestId taskId world ∧
          Bound identity.clientRequestId taskId world) ∧
        (result ≠ .ok true → Calm strict own.thread world) := by
    refine operateReceived_triple (.patch identity (.accepted taskId uploaded clear)) ?_
      (fun _ _ _ h hrow => unpatched_row h hrow) hbound ?_
    · intro answers world hinv hpending
      have hsent := hinv.named_sent (hnamed world hpending)
      refine patched_quiet hinv (hinv.sent_determined hsent) fun row later hrow happly => ?_
      obtain ⟨hid, hpayer⟩ := accepted_later happly
      exact .accept hpayer (hid ▸ hpending.nonempty) (hid ▸ hnamed world hpending)
    · intro answers world hinv hpending hwritten
      obtain ⟨row, later, -, happly, hlater⟩ := patched_written rfl hwritten
      refine ⟨hpending.nonempty, hnamed world hpending, fun row' hrow' => ?_⟩
      cases hlater.symm.trans hrow'
      exact (accepted_later happly).1 ▸ hpending.nonempty
  refine hwrite.mono (fun _ => id) ?_
  rintro result world ⟨hinv, hok, helse⟩
  refine ⟨hinv, ?_, fun hresult => (hok hresult).2⟩
  by_cases hresult : result = .ok true
  · obtain ⟨hpending, hbound⟩ := hok hresult
    exact hpending.calm hinv fun _ row hwaits => hbound.row row hwaits.stored hwaits.empty
  · exact helse hresult

/-- Moving a row whose id is pending to the current login. -/
theorem rebind_triple {epoch : Nat} (hidentity : identity.clientRequestId = key) :
    (discipline strict).Triple own (At strict (Pending strict own.thread key taskId))
      (operateReceived own.thread authority (.rebind identity epoch))
      fun result => At strict fun world =>
        (result = .ok true → Pending strict own.thread key taskId world) ∧
        (result ≠ .ok true → Calm strict own.thread world) := by
  subst hidentity
  have hwrite : (discipline strict).Triple own
      (At strict (Pending strict own.thread identity.clientRequestId taskId))
      (operateReceived own.thread authority (.rebind identity epoch))
      fun result => At strict fun world =>
        (result = .ok true →
          Pending strict own.thread identity.clientRequestId taskId world ∧ True) ∧
        (result ≠ .ok true → Calm strict own.thread world) :=
    operateReceived_triple (.rebind identity epoch) (fun _ _ hinv _ => keeps_quiet hinv rfl)
      (fun _ _ _ h hrow => unmoved_row h hrow) (.const True) fun _ _ _ _ _ => trivial
  exact hwrite.mono (fun _ => id)
    fun _ _ h => ⟨h.1, fun hresult => (h.2.1 hresult).1, h.2.2⟩

theorem calm_bound_persistent :
    Persistent strict own fun world => Calm strict own.thread world ∧ Bound key taskId world :=
  Clear.persistent.and (.evolves fun _ _ hinv h hstep => h.evolves hinv hstep)

theorem followAccepted_triple {polls : Nat} {detail : GenerationTaskDetail} :
    (discipline strict).Triple own
      (At strict (Pending strict own.thread identity.clientRequestId detail.id))
      (followAccepted own.thread authority identity uploaded polls detail)
      fun _ => At strict (Calm strict own.thread) := by
  refine .bind cancelRequested_triple fun cancelled => ?_
  refine .ite (fun hcancelled => ?_) fun _ => ?_
  · exact .bind (weaken cleanupReceived_triple fun _ h => ⟨h.1, h.2 hcancelled⟩)
      fun _ => done Clear.persistent fun _ => id
  refine .bind (weaken (accept_triple rfl) fun _ h => h.1) fun result => ?_
  refine .ite (fun _ => done Clear.persistent fun _ h => h.1) fun hwritten => ?_
  refine weaken ?_ fun world h => (⟨h.1, h.2 (written_of_not hwritten)⟩ :
    Calm strict own.thread world ∧ Bound identity.clientRequestId detail.id world)
  refine (Silent.read _).bind calm_bound_persistent fun heard => ?_
  refine .ite (fun _ => ?_) fun _ => ?_
  · exact (Silent.read _).bind calm_bound_persistent fun _ => done Clear.persistent fun _ h => h.1
  · exact (pollTask_triple calm_bound_persistent (fun _ h _ => h.2.named) polls detail).mono
      (fun _ => id) fun _ _ h => ⟨h.1, h.2.1⟩

end Recording

end ArtForgeStudio.Generation
