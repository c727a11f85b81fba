import ArtForgeStudio.Generation.Steps

/-! # The discipline of the threads

A thread relies on quiet steps of the others, apart from the rows that they submit and what
they note. Its assertions are kept by every such step. `Meets` is what a strict run grants a
step. `Tells` is for actions that are quiet themselves: they fit into any thread and report a
fact about the world.
-/

namespace ArtForgeStudio.Generation

open ArtForgeStudio.Api ArtForgeStudio.Outcome ArtForgeStudio.Recovery ArtForgeStudio.Concurrency

/-- A thread, and the key that it submits. -/
structure Owner where
  thread : Nat
  key : Option String
  deriving DecidableEq

/-- The server gives every task an id. -/
def NamesTask (answers : Answers) : Prop :=
  ∀ creation detail, answers.reply creation = .accepted detail → detail.id ≠ ""

/-- A received id waits for its row: no write of it has failed, and the row does not carry one. -/
structure Waits (own : Owner) (receipt : Receipt) (row : PendingGenerationRecord)
    (world : World) : Prop where
  thread : receipt.thread = own.thread
  received : receipt ∈ world.received
  writable : (receipt.thread, receipt.key) ∉ world.unrecorded
  stored : world.row receipt.key = some row
  empty : row.serverTaskId = ""

/-- A reply to a creation names one task for the key, and refuses the creation when it rejects
the access token. -/
structure Replies (world : World) (creation : Creation) (reply : Reply) : Prop where
  names : ∀ detail, reply = .accepted detail → detail.id ≠ ""
  oneTask : ∀ detail, reply = .accepted detail →
    ∀ receipt ∈ world.received, receipt.key = creation.key → receipt.taskId = detail.id
  token : ∀ error, reply.result = .error error → error.isAccessTokenRejected = true →
    reply.refuses = true

/-- An operation finds the row of a waiting id where its thread knows it, and a submitter whose
request was sent by somebody else alone keeps its row. -/
structure Operates (own : Owner) (world : World) (op : GenerationOperation) : Prop where
  unmoved : ∀ receipt row, Waits own receipt row world → receipt.key = op.key →
    RecoveryRow.identity row = op.identity
  first : ∀ expected, op = .remove expected → own.key = some expected.clientRequestId →
    world.Sent expected.clientRequestId →
    (own.thread, expected.clientRequestId) ∈ world.senders ∨
      world.Released expected.clientRequestId

/-- An action of a thread on which no accepted task is lost. -/
def Meets (own : Owner) (world : World) (answers : Answers) : Act → Prop
  -- the login holds, and nobody has cancelled, while an id waits
  | .scopeActive => ∀ receipt row, Waits own receipt row world → answers.active = true
  | .cancelRequested key => ∀ receipt row, Waits own receipt row world → receipt.key = key →
      key ∉ world.cancelled
  | .operate op => Operates own world op
  -- a report is about the task that was asked for
  | .query taskId => ∀ detail, answers.query taskId = .ok detail → detail.id = taskId
  -- a replay is sent for a row that is there or was let go
  | .send creation => own.key = none → answers.post creation = .ok () →
      world.row creation.key = none → world.Released creation.key
  | .reply creation => Replies world creation (answers.reply creation)
  | .other => True

/-- The answers of a run, and of a strict one. -/
structure Allowed (strict : Prop) (own : Owner) (label : Act) (world : World) (answers : Answers) :
    Prop where
  names : ∀ creation detail, label = .reply creation → answers.reply creation = .accepted detail →
    detail.id ≠ ""
  meets : strict → Meets own world answers label

def discipline (strict : Prop) : Discipline Act World Answers Owner where
  admits := Allowed strict
  rely own before after :=
    Inv strict before → Change strict (· = own.thread) (own.key = some ·) before after
  guarantee own before after :=
    Inv strict before → Change strict (· ≠ own.thread) (own.key ≠ some ·) before after
  apart own other := own.thread ≠ other.thread ∧ ∀ key, other.key = some key → own.key ≠ some key
  rely_refl _ _ := .refl
  rely_trans _ _ _ _ h h' hinv := (h hinv).trans hinv (h' (h hinv).inv)
  guarantee_rely _ _ _ _ hapart h hinv :=
    (h hinv).mono (fun _ hthread => hthread ▸ hapart.1.symm) hapart.2

/-- An assertion in a world that keeps the invariant. -/
def At (strict : Prop) (assertion : World → Prop) (world : World) : Prop :=
  Inv strict world ∧ assertion world

/-- The other threads keep the assertion. -/
def Persistent (strict : Prop) (own : Owner) (assertion : World → Prop) : Prop :=
  ∀ before after, Inv strict before → assertion before →
    Change strict (· = own.thread) (own.key = some ·) before after → assertion after

/-- A quiet program with the fact that it reports. -/
def Tells {α : Type} (strict : Prop) (program : Action α) (fact : α → World → Prop) : Prop :=
  ∀ own assertion, Persistent strict own assertion →
    (discipline strict).Triple own (At strict assertion) program
      fun result => At strict fun world => assertion world ∧ fact result world

/-- A quiet program. -/
def Silent {α : Type} (strict : Prop) (program : Action α) : Prop :=
  ∀ own assertion, Persistent strict own assertion →
    (discipline strict).Triple own (At strict assertion) program fun _ => At strict assertion

section Rules

variable {α β : Type} {strict : Prop} {own : Owner} {assertion other : World → Prop}
  {fact : α → World → Prop} {program : Action α} {rest : α → Action β} {R : β → World → Prop}
  {label : Act} {action : Answers → World → α × World} {authority : NamespaceStorageAuthority}

theorem Persistent.stable (h : Persistent strict own assertion) :
    (discipline strict).Stable own (At strict assertion) :=
  fun before after hat hrely =>
    ⟨(hrely hat.1).inv, h before after hat.1 hat.2 (hrely hat.1)⟩

theorem Persistent.and (h : Persistent strict own assertion) (h' : Persistent strict own other) :
    Persistent strict own fun world => assertion world ∧ other world :=
  fun before after hinv hat hstep =>
    ⟨h before after hinv hat.1 hstep, h' before after hinv hat.2 hstep⟩

theorem Persistent.const (fact : Prop) : Persistent strict own fun _ => fact := fun _ _ _ h _ => h

theorem Persistent.imp {fact : Prop} (h : fact → Persistent strict own assertion) :
    Persistent strict own fun world => fact → assertion world :=
  fun before after hinv hat hstep hfact => h hfact before after hinv (hat hfact) hstep

theorem Persistent.forall {ι : Type} {family : ι → World → Prop}
    (h : ∀ i, Persistent strict own (family i)) :
    Persistent strict own fun world => ∀ i, family i world :=
  fun before after hinv hat hstep i => h i before after hinv (hat i) hstep

theorem Persistent.evolves
    (h : ∀ before after, Inv strict before → assertion before → Evolves before after →
      assertion after) :
    Persistent strict own assertion :=
  fun before after hinv hat hstep => h before after hinv hat hstep.evolves

/-- The rule of an action of the thread itself. -/
theorem act_triple (hpre : Persistent strict own assertion)
    (hpost : ∀ result, Persistent strict own (fact result))
    (h : ∀ answers world, Inv strict world → assertion world →
      Allowed strict own label world answers →
      Change strict (· ≠ own.thread) (own.key ≠ some ·) world (action answers world).2 ∧
        fact (action answers world).1 (action answers world).2) :
    (discipline strict).Triple own (At strict assertion) (Program.labelled label action)
      fun result => At strict (fact result) := by
  refine .labelled hpre.stable (fun result => (hpost result).stable) ?_
  intro answers world hat hallowed
  obtain ⟨hchange, hfact⟩ := h answers world hat.1 hat.2 hallowed
  exact ⟨fun _ => hchange, hchange.inv, hfact⟩

/-- The rule of a quiet action in a certain place. -/
theorem quiet_triple (hassertion : Persistent strict own assertion)
    (hfact : ∀ result, Persistent strict own (fact result))
    (h : ∀ answers world, Inv strict world → assertion world →
      Allowed strict own label world answers →
      Quiet strict world (action answers world).2 ∧
        fact (action answers world).1 (action answers world).2) :
    (discipline strict).Triple own (At strict assertion) (Program.labelled label action)
      fun result => At strict fun world => assertion world ∧ fact result world := by
  refine act_triple hassertion (fun result => hassertion.and (hfact result)) ?_
  intro answers world hinv hat hallowed
  obtain ⟨hquiet, hafter⟩ := h answers world hinv hat hallowed
  exact ⟨hquiet.change, hassertion world _ hinv hat hquiet.change, hafter⟩

/-- A quiet action keeps every assertion. -/
theorem Tells.act (hfact : ∀ own result, Persistent strict own (fact result))
    (h : ∀ answers world, Inv strict world → Quiet strict world (action answers world).2 ∧
      fact (action answers world).1 (action answers world).2) :
    Tells strict (Program.labelled label action) fact :=
  fun own _ hassertion => quiet_triple hassertion (hfact own) fun answers world hinv _ _ =>
    h answers world hinv

theorem Silent.act
    (h : ∀ answers world, Inv strict world → Quiet strict world (action answers world).2) :
    Silent strict (Program.labelled label action) :=
  fun _ _ hassertion => act_triple hassertion (fun _ => hassertion)
    fun answers world hinv hat _ => ⟨(h answers world hinv).change,
      hassertion world _ hinv hat (h answers world hinv).change⟩

theorem Silent.read (view : Answers → World → α) :
    Silent strict (Program.labelled label fun answers world => (view answers world, world)) :=
  .act fun _ _ hinv => .refl hinv

theorem Tells.read {view : Answers → World → α}
    (hfact : ∀ own result, Persistent strict own (fact result))
    (h : ∀ answers world, Inv strict world → fact (view answers world) world) :
    Tells strict (Program.read view) fact :=
  .act hfact fun answers world hinv => ⟨.refl hinv, h answers world hinv⟩

theorem Tells.silent (h : Tells strict program fact) : Silent strict program :=
  fun own assertion hassertion => (h own assertion hassertion).mono (fun _ => id)
    fun _ _ hat => ⟨hat.1, hat.2.1⟩

theorem Tells.bind (h : Tells strict program fact) (hassertion : Persistent strict own assertion)
    (hrest : ∀ result, (discipline strict).Triple own
      (At strict fun world => assertion world ∧ fact result world) (rest result) R) :
    (discipline strict).Triple own (At strict assertion) (program >>= rest) R :=
  .bind (h own assertion hassertion) hrest

theorem Silent.bind (h : Silent strict program) (hassertion : Persistent strict own assertion)
    (hrest : ∀ result, (discipline strict).Triple own (At strict assertion) (rest result) R) :
    (discipline strict).Triple own (At strict assertion) (program >>= rest) R :=
  .bind (h own assertion hassertion) hrest

theorem done {result : α} (hpost : Persistent strict own other)
    (h : ∀ world, assertion world → other world) :
    (discipline strict).Triple own (At strict assertion) (pure result : Action α)
      fun _ => At strict other :=
  .pure hpost.stable fun _ hat => ⟨hat.1, h _ hat.2⟩

theorem done_fact {result : α} (hpost : ∀ result, Persistent strict own (fact result))
    (h : ∀ world, assertion world → fact result world) :
    (discipline strict).Triple own (At strict assertion) (pure result : Action α)
      fun result => At strict (fact result) :=
  .pure (hpost result).stable fun _ hat => ⟨hat.1, h _ hat.2⟩

theorem weaken {Q : α → World → Prop}
    (hprogram : (discipline strict).Triple own (At strict other) program Q)
    (h : ∀ world, assertion world → other world) :
    (discipline strict).Triple own (At strict assertion) program Q :=
  hprogram.mono (fun _ hat => ⟨hat.1, h _ hat.2⟩) fun _ _ => id

/-- A fact that no world changes is there for the rest of the program. -/
theorem given {truth : Prop} {Q : α → World → Prop}
    (h : truth → (discipline strict).Triple own (At strict assertion) program Q) :
    (discipline strict).Triple own (At strict fun world => assertion world ∧ truth) program Q :=
  (Discipline.Triple.of_and h).mono (fun _ hat => ⟨hat.2.2, hat.1, hat.2.1⟩) fun _ _ => id

/-- A fact that every step preserves stays through every program. -/
theorem frame (hother : ∀ before after, Inv strict before → other before → Evolves before after →
      other after)
    (hprogram : (discipline strict).Triple own (At strict assertion) program
      fun result => At strict (fact result)) :
    (discipline strict).Triple own (At strict fun world => assertion world ∧ other world) program
      fun result => At strict fun world => fact result world ∧ other world := by
  refine (hprogram.frame (Persistent.evolves hother).stable ?_).mono
    (fun _ hat => ⟨⟨hat.1, hat.2.1⟩, hat.1, hat.2.2⟩) fun _ _ hat => ⟨hat.1.1, hat.1.2, hat.2.2⟩
  intro before after hat hstep
  exact ⟨(hstep hat.1).inv, hother before after hat.1 hat.2 (hstep hat.1).evolves⟩

theorem Silent.pure (result : α) : Silent strict (pure result : Action α) :=
  fun _ _ hassertion => done hassertion fun _ => id

theorem Silent.andThen {rest : α → Action β} (h : Silent strict program)
    (hrest : ∀ result, Silent strict (rest result)) : Silent strict (program >>= rest) :=
  fun own assertion hassertion =>
    h.bind hassertion fun result => hrest result own assertion hassertion

theorem Silent.ite {c : Prop} [Decidable c] {other : Action α} (hpos : Silent strict program)
    (hneg : Silent strict other) : Silent strict (if c then program else other) := by
  split
  · exact hpos
  · exact hneg

end Rules

section Actions

variable {strict : Prop} {authority : NamespaceStorageAuthority} {key taskId : String}
  {own : Owner} {assertion : World → Prop} {savedGroup : Option String}

theorem loadRow_tells : Tells strict (loadRow authority key) fun row? _ =>
    ∀ row, row? = some row → row.clientRequestId = key := by
  refine .read (fun _ _ => .const _) ?_
  intro answers world _ row hrow
  split at hrow
  · have hkey := List.find?_some hrow
    exact of_decide_eq_true hkey
  · cases hrow

theorem operate_silent {op : GenerationOperation} (hkeeps : keepsRequest op = true) :
    Silent strict (operate authority op) := .act fun _ _ hinv => keeps_quiet hinv hkeeps

/-- A row whose letting go was noted may be removed. -/
theorem removePendingGeneration_silent {identity : RecoveryRecordIdentity}
    (hassertion : Persistent strict own assertion)
    (h : ∀ world, assertion world → strict → world.Released identity.clientRequestId) :
    (discipline strict).Triple own (At strict assertion)
      (removePendingGeneration authority identity) fun _ => At strict assertion :=
  act_triple hassertion (fun _ => hassertion) fun _ world hinv hat _ =>
    have hquiet := removed_quiet hinv (h world hat)
    ⟨hquiet.change, hassertion world _ hinv hat hquiet.change⟩

theorem released_persistent : Persistent strict own fun world => world.Released key :=
  .evolves fun _ _ _ h hstep => h.mono hstep.released

theorem named_persistent : Persistent strict own fun world => world.Named key taskId :=
  .evolves fun _ _ _ h hstep => h.mono hstep.received

theorem checkedSavedDetail_ok {detail checked : GenerationTaskDetail}
    (h : checkedSavedDetail savedGroup detail = .ok checked) : checked = detail := by
  cases savedGroup with
  | none =>
    cases h
    rfl
  | some group =>
    obtain ⟨_, -, hchecked⟩ := bind_eq_ok.mp h
    cases hchecked
    rfl

theorem taskScoped_silent : Silent strict (taskScoped key savedGroup taskId) := by
  refine .act fun answers world hinv => ?_
  dsimp only
  cases (answers.query taskId).bind (checkedSavedDetail savedGroup) with
  | error error => exact .refl hinv
  | ok detail =>
    dsimp only
    split
    · rename_i hcond
      rw [Bool.and_eq_true, World.isNamed_eq_true] at hcond
      exact release_quiet hinv hcond
    · exact .refl hinv

/-- In a strict run the report that a named task is cancelled lets its row go. -/
theorem taskScoped_triple (hassertion : Persistent strict own assertion)
    (hnamed : ∀ world, assertion world → strict → world.Named key taskId) :
    (discipline strict).Triple own (At strict assertion) (taskScoped key savedGroup taskId)
      fun result => At strict fun world => assertion world ∧ ∀ detail, result = .ok detail →
        strict → detail.id = taskId ∧ (detail.cancelledEmpty = true → world.Released key) := by
  refine quiet_triple hassertion (fun result => .forall fun detail => .imp fun _ => .imp fun _ =>
    (Persistent.const _).and (.imp fun _ => released_persistent)) ?_
  intro answers world hinv hat hallowed
  have hreports : strict → ∀ detail,
      (answers.query taskId).bind (checkedSavedDetail savedGroup) = .ok detail →
      detail.id = taskId := by
    intro hstrict detail hresult
    obtain ⟨report, hquery, hchecked⟩ := bind_eq_ok.mp hresult
    rw [checkedSavedDetail_ok hchecked]
    exact hallowed.meets hstrict report hquery
  dsimp only
  cases hresult : (answers.query taskId).bind (checkedSavedDetail savedGroup) with
  | error error => exact ⟨.refl hinv, nofun⟩
  | ok detail =>
    dsimp only
    split
    · rename_i hcond
      rw [Bool.and_eq_true, World.isNamed_eq_true] at hcond
      refine ⟨release_quiet hinv hcond, ?_⟩
      rintro _ ⟨⟩ hstrict
      exact ⟨hreports hstrict _ hresult, fun _ => ⟨_, List.mem_cons_self⟩⟩
    · rename_i hcond
      refine ⟨.refl hinv, ?_⟩
      rintro _ ⟨⟩ hstrict
      have hid := hreports hstrict _ hresult
      refine ⟨hid, fun hempty => absurd ?_ hcond⟩
      rw [Bool.and_eq_true, World.isNamed_eq_true, hid]
      exact ⟨hempty, hnamed world hat hstrict⟩

end Actions

end ArtForgeStudio.Generation
