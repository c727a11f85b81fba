import ArtForgeStudio.ClientState.Worker

/-! # The commands of the worker

Producers act between any two actions of the worker. Every command keeps the invariant, leaves
nothing of the private slots in the worker's hands, and acknowledges only what is so.
-/

namespace ArtForgeStudio.ClientState

open ArtForgeStudio.Session ArtForgeStudio.Concurrency

/-- A private snapshot that waits has the wake flag, unless a send failed. -/
def World.PrivateWoken (world : World) : Prop :=
  world.sendFailed = false → ∀ slot, slot.isPrivate = true → world.pending.slots slot ≠ none →
    world.pending.privateWake = true

def World.DeviceWoken (world : World) : Prop :=
  world.sendFailed = false → ∀ slot, slot.isPrivate = false → world.pending.slots slot ≠ none →
    world.pending.deviceWake = true

def World.Woken (world : World) : Prop := world.PrivateWoken ∧ world.DeviceWoken

/-- At most one write of the database, newer than the last one of its slot. -/
def World.Wrote (before after : World) : Prop :=
  after.written = before.written ∧ after.last.committed = before.last.committed ∨
  ∃ done, after.written = done :: before.written ∧
    before.last.committed done.slot < done.entry.sequence ∧
    after.last.committed =
      Function.update before.last.committed done.slot done.entry.sequence

/-- What an action of the worker leaves as it is. -/
structure Works (before after : World) : Prop where
  queue : after.queue = before.queue
  accepted : after.accepted = before.accepted
  activated : after.activated = before.activated
  reservations : after.reservations = before.reservations
  active : after.pending.active = before.pending.active
  sequence : after.pending.sequence = before.pending.sequence
  retirement : after.pending.retirement = before.pending.retirement
  sendFailed : after.sendFailed = before.sendFailed
  woken : before.Woken → after.Woken
  wrote : before.Wrote after

def discipline : Discipline Unit World Bool Unit where
  admits _ _ _ _ := True
  rely _ before after := Inv before → Follows before after
  guarantee _ before after := Inv before → Works before after ∧ Inv after
  apart _ _ := False
  rely_refl _ _ h := ⟨.refl _, h⟩
  rely_trans _ _ _ _ h h' hinv := (h hinv).trans (h' (h hinv).inv)
  guarantee_rely _ _ _ _ hapart _ := hapart.elim

/-- An assertion in a world that keeps the invariant. -/
def At (assertion : World → Prop) (world : World) : Prop := Inv world ∧ assertion world

/-- The producers keep the assertion. -/
def Persistent (assertion : World → Prop) : Prop :=
  ∀ before after, Inv before → assertion before → Follows before after → assertion after

section Rules

variable {α : Type} {assertion other : World → Prop} {fact : α → World → Prop}
  {action : Bool → World → α × World}

theorem Persistent.stable (h : Persistent assertion) : discipline.Stable () (At assertion) :=
  fun before after hat hrely => ⟨(hrely hat.1).inv, h before after hat.1 hat.2 (hrely hat.1)⟩

theorem Persistent.and (h : Persistent assertion) (h' : Persistent other) :
    Persistent fun world => assertion world ∧ other world :=
  fun before after hinv hat hnext =>
    ⟨h before after hinv hat.1 hnext, h' before after hinv hat.2 hnext⟩

theorem Persistent.imp {condition : Prop} (h : condition → Persistent assertion) :
    Persistent fun world => condition → assertion world :=
  fun before after hinv hat hnext hcondition =>
    h hcondition before after hinv (hat hcondition) hnext

theorem act_triple (hpre : Persistent assertion) (hpost : ∀ result, Persistent (fact result))
    (h : ∀ writes world, Inv world → assertion world →
      Works world (action writes { world with received := none }).2 ∧
        Inv (action writes { world with received := none }).2 ∧
        fact (action writes { world with received := none }).1
          (action writes { world with received := none }).2) :
    discipline.Triple () (At assertion) (act action) fun result => At (fact result) := by
  refine .atomic hpre.stable (fun result => (hpost result).stable) fun writes world hat _ => ?_
  obtain ⟨hworks, hinv, hfact⟩ := h writes world hat.1 hat.2
  exact ⟨fun _ => ⟨hworks, hinv⟩, hinv, hfact⟩

/-- What no action of the worker touches stays as it is. -/
theorem frame {program : Action α} {keeps : World → Prop} (hkeeps : Persistent keeps)
    (hworks : ∀ before after, Works before after → keeps before → keeps after)
    (h : discipline.Triple () (At assertion) program fun result => At (fact result)) :
    discipline.Triple () (At fun world => assertion world ∧ keeps world) program
      fun result => At fun world => fact result world ∧ keeps world := by
  refine .mono (.frame hkeeps.stable ?_ h) ?_ ?_
  · exact fun before after hat hguarantee =>
      ⟨(hguarantee hat.1).2, hworks before after (hguarantee hat.1).1 hat.2⟩
  · exact fun world hat => ⟨⟨hat.1, hat.2.1⟩, hat.1, hat.2.2⟩
  · exact fun result world hat => ⟨hat.1.1, hat.1.2, hat.2.2⟩

end Rules

/-- The worker has nothing of the private slots. -/
def Free (world : World) : Prop := ∀ slot, slot.isPrivate = true → world.taken slot = none

/-- The worker has received a command of this kind, or is past its first action. -/
def Received (kind : QueuedWrite → Prop) (world : World) : Prop :=
  ∀ queued ∈ world.received, kind queued

def Plain (queued : QueuedWrite) : Prop :=
  queued.slotWrite = none ∧ ∀ lease, queued.command ≠ .wake lease

/-- No private snapshot waits while the generation is reserved. -/
def Emptied (generation : Nat) (world : World) : Prop :=
  generation ≤ world.pending.sequence ∧ (world.pending.retirement = some generation →
    ∀ slot, slot.isPrivate = true → world.pending.slots slot = none)

theorem free_persistent : Persistent Free := fun before after _ hfree hnext slot hprivate => by
  rw [hnext.produced.taken]
  exact hfree slot hprivate

theorem received_persistent (kind : QueuedWrite → Prop) : Persistent (Received kind) :=
  fun before after _ hreceived hnext => by
    unfold Received
    rw [hnext.produced.received]
    exact hreceived

theorem emptied_persistent (generation : Nat) : Persistent (Emptied generation) := by
  intro before after _ hempty hnext
  refine ⟨hempty.1.trans hnext.produced.sequence, fun hgeneration slot hprivate => ?_⟩
  obtain ⟨hbefore, -, hslots, -⟩ := hnext.produced.retirement generation hempty.1 hgeneration
  rw [hslots slot hprivate]
  exact hempty.2 hbefore slot hprivate

def Begun (world : World) : Prop := world.received = none

def Ready (queued : QueuedWrite) (world : World) : Prop := world.received = some queued ∧ Free world

theorem begun_persistent : Persistent Begun := fun _ _ _ hbegun hnext =>
  hnext.produced.received.trans hbegun

theorem ready_persistent (queued : QueuedWrite) : Persistent (Ready queued) :=
  fun before after hinv hready hnext =>
    ⟨hnext.produced.received.trans hready.1, free_persistent before after hinv hready.2 hnext⟩

section Actions

open World

variable {world after : World} {slot : Slot} {write : SlotWrite} {writes : Bool}
  {result : WriteResult} {lease : NamespaceLease} {generation : Nat} {queued : QueuedWrite}

theorem Works.refl (world : World) : Works world { world with received := none } where
  queue := rfl
  accepted := rfl
  activated := rfl
  reservations := rfl
  active := rfl
  sequence := rfl
  retirement := rfl
  sendFailed := rfl
  woken := id
  wrote := .inl ⟨rfl, rfl⟩

theorem World.Settles.works (h : Settles write world result after) : Works world after := by
  cases h with
  | failed error => exact { Works.refl world with }
  | late => exact { Works.refl world with }
  | done howner hnewer =>
    exact { Works.refl world with wrote := .inr ⟨_, rfl, hnewer, rfl⟩ }

theorem World.Settles.keeps_taken (h : Settles write world result after) :
    after.taken = world.taken ∧ after.pending = world.pending ∧ after.accepted = world.accepted ∧
      after.received = world.received := by
  cases h <;> exact ⟨rfl, rfl, rfl, rfl⟩

theorem begun_eq (h : Begun world) : { world with received := none } = world := by
  obtain ⟨⟩ := world
  cases h
  rfl

theorem settle_begin (write : SlotWrite) (writes : Bool) (world : World) :
    { world with received := none }.settle write writes =
      ((world.settle write writes).1, { (world.settle write writes).2 with received := none }) := by
  unfold World.settle World.commit
  cases world.pending.requireOwner write.entry.lease with
  | error error => simp
  | ok _ =>
    by_cases hlate : write.entry.sequence ≤ world.last.committed write.slot
    · simp [hlate]
    · cases writes <;> simp [hlate, not_le.mp hlate]

/-- What the worker took from a slot is settled. -/
theorem settleTaken_spec (h : Inv world) (slot : Slot) (writes : Bool) :
    Works world (world.settleTaken slot writes).2 ∧ Inv (world.settleTaken slot writes).2 ∧
      (world.settleTaken slot writes).2.taken = Function.update world.taken slot none ∧
      (world.settleTaken slot writes).2.received = world.received ∧
      (world.settleTaken slot writes).2.pending = world.pending := by
  unfold World.settleTaken
  cases htaken : world.taken slot with
  | none =>
    exact ⟨{ Works.refl world with }, h, (Function.update_eq_self_iff.mpr htaken.symm).symm, rfl, rfl⟩
  | some entry =>
    have hsettles := settle_settles ⟨slot, entry⟩ writes world
    have hmem := h.taken slot entry htaken
    have hworks := hsettles.works
    obtain ⟨htaken', hpending, haccepted, hreceived⟩ := hsettles.keeps_taken
    refine ⟨{ hworks with }, (h.settles hsettles hmem).putAway slot _ ?_, ?_, hreceived, hpending⟩
    · intro other hother hprivate hfresh
      obtain rfl : entry = other := by
        rw [htaken', htaken] at hother
        exact Option.some.inj hother
      refine (hsettles.own h ?_ hmem hprivate).1
      unfold World.Fresh at hfresh
      rwa [hworks.activated] at hfresh
    · exact congrArg (Function.update · slot none) htaken'

theorem takePrivate_spec (h : Inv world) (hfree : Free world)
    (hreceived : Received (·.command = .wake lease) world)
    (hempty : generation ≤ world.pending.sequence) :
    Works world ({ world with received := none }.takePrivate lease).2 ∧
      Inv ({ world with received := none }.takePrivate lease).2 ∧
      Begun ({ world with received := none }.takePrivate lease).2 ∧
      (({ world with received := none }.takePrivate lease).1 ≠ .ok () →
        Free ({ world with received := none }.takePrivate lease).2) ∧
      (({ world with received := none }.takePrivate lease).1 = .ok () →
        Emptied generation ({ world with received := none }.takePrivate lease).2) := by
  have hplain : ∀ queued ∈ world.received, queued.slotWrite = none := by
    intro queued hmem
    simp [QueuedWrite.slotWrite, hreceived queued hmem]
  unfold World.takePrivate PendingClientState.require
  by_cases hactive : world.pending.active = some lease
  · simp only [hactive, if_true]
    refine ⟨{ Works.refl world with woken := fun hwoken => ⟨?_, ?_⟩ }, ?_, rfl,
      fun hne => absurd rfl hne, fun _ => ⟨hempty, fun _ slot hprivate => ?_⟩⟩
    · intro _ slot hprivate hslot
      simp [PendingClientState.clearPrivate, hprivate] at hslot
    · intro hsent slot hprivate hslot
      exact hwoken.2 hsent slot hprivate
        (by simpa [PendingClientState.clearPrivate, hprivate] using hslot)
    · exact (h.takePrivate hfree).begin
        (fun queued hmem write hwrite => absurd (hwrite.symm.trans (hplain queued hmem)) (Option.some_ne_none _))
        (fun _ _ _ _ _ => rfl) fun queued hmem hdevice =>
          absurd (hdevice.symm.trans (hreceived queued hmem)) (by simp)
    · simp [PendingClientState.clearPrivate, hprivate]
  · simp only [hactive, if_false]
    refine ⟨Works.refl world, ?_, rfl, fun _ => hfree, fun h => absurd h (by simp)⟩
    refine h.begin
      (fun queued hmem write hwrite => absurd (hwrite.symm.trans (hplain queued hmem)) (Option.some_ne_none _))
      (fun queued hmem other hother hthis => ?_) fun queued hmem hdevice =>
        absurd (hdevice.symm.trans (hreceived queued hmem)) (by simp)
    obtain rfl : other = lease := by simpa [hother] using hreceived queued hmem
    exact absurd hthis hactive

theorem takeDevice_spec (h : Inv world) (hfree : Free world) (hreceived : Received Plain world) :
    Works world { world with received := none }.takeDevice ∧
      Inv { world with received := none }.takeDevice ∧
      Begun { world with received := none }.takeDevice ∧
      Free { world with received := none }.takeDevice := by
  refine ⟨{ Works.refl world with woken := fun hwoken => ⟨?_, ?_⟩ }, ?_, rfl,
    fun slot hprivate => ?_⟩
  · intro hsent slot hprivate hslot
    exact hwoken.1 hsent slot hprivate
      (by simpa [World.takeDevice, PendingClientState.clearDevice, hprivate] using hslot)
  · intro _ slot hprivate hslot
    simp [World.takeDevice, PendingClientState.clearDevice, hprivate] at hslot
  · exact h.takeDevice.begin
      (fun queued hmem write hwrite => absurd (hwrite.symm.trans (hreceived queued hmem).1) (Option.some_ne_none _))
      (fun queued hmem other hother => absurd hother ((hreceived queued hmem).2 other))
      fun _ _ _ => rfl
  · simpa [World.takeDevice, hprivate] using hfree slot hprivate

/-- A command that stands for nothing may begin with any action. -/
theorem plain_begin (h : Inv world)
    (hreceived : Received (fun queued => Plain queued ∧ queued.command ≠ .wakeDevice) world) :
    Inv { world with received := none } :=
  h.begin
    (fun queued hmem _ hwrite => absurd (hwrite.symm.trans (hreceived queued hmem).1.1) (Option.some_ne_none _))
    (fun queued hmem other hother => absurd hother ((hreceived queued hmem).1.2 other))
    fun queued hmem hdevice => absurd hdevice (hreceived queued hmem).2

end Actions

section Drains

variable {assertion : World → Prop}

theorem taken_persistent (slot : Slot) : Persistent fun world => world.taken slot = none :=
  fun _ _ _ htaken hnext => (congrFun hnext.produced.taken slot).trans htaken

theorem settleTaken_triple (slot : Slot) (hassertion : Persistent assertion)
    (hkeeps : ∀ before after, before.pending = after.pending →
      (∀ other, other ≠ slot → before.taken other = after.taken other) →
      assertion before → assertion after) :
    discipline.Triple () (At fun world => Begun world ∧ assertion world)
      (act fun writes world => world.settleTaken slot writes)
      fun _ => At fun world => Begun world ∧ assertion world ∧ world.taken slot = none := by
  refine act_triple (begun_persistent.and hassertion)
    (fun _ => begun_persistent.and (hassertion.and (taken_persistent slot))) ?_
  rintro writes world hinv ⟨hbegun, hassert⟩
  rw [begun_eq hbegun]
  obtain ⟨hworks, hafter, htaken, hreceived, hpending⟩ := settleTaken_spec hinv slot writes
  refine ⟨hworks, hafter, hreceived.trans hbegun, hkeeps world _ hpending.symm ?_ hassert, ?_⟩
  · intro other hother
    rw [htaken, Function.update_of_ne hother]
  · rw [htaken, Function.update_self]

theorem drainPrivate_triple (lease : NamespaceLease) (generation : Nat) :
    discipline.Triple ()
      (At fun world => Free world ∧ Received (·.command = .wake lease) world ∧
        generation ≤ world.pending.sequence)
      (drainPrivate lease)
      fun result => At fun world => Begun world ∧ Free world ∧
        (result = .ok () → Emptied generation world) := by
  have hsequence : Persistent fun world => generation ≤ world.pending.sequence :=
    fun _ _ _ hle hnext => hle.trans hnext.produced.sequence
  have hempty := emptied_persistent generation
  have hpost (result : WriteResult) : Persistent fun world => Begun world ∧
      (result ≠ .ok () → Free world) ∧ (result = .ok () → Emptied generation world) :=
    begun_persistent.and (.and (.imp fun _ => free_persistent) (.imp fun _ => hempty))
  have hdone (result : WriteResult) : Persistent fun world => Begun world ∧ Free world ∧
      (result = .ok () → Emptied generation world) :=
    begun_persistent.and (free_persistent.and (.imp fun _ => hempty))
  refine .bind (act_triple (free_persistent.and ((received_persistent _).and hsequence)) hpost ?_) ?_
  · rintro writes world hinv ⟨hfree, hreceived, hle⟩
    exact takePrivate_spec hinv hfree hreceived hle
  · rintro (error | _)
    · refine .pure (hdone (.error error)).stable ?_
      rintro world ⟨hinv, hbegun, hfree, -⟩
      exact ⟨hinv, hbegun, hfree nofun, nofun⟩
    · have hstore := settleTaken_triple .store hempty
        fun before after hpending _ h => by unfold Emptied; rw [← hpending]; exact h
      have hprofile := settleTaken_triple .profile
        (hempty.and (taken_persistent .store)) fun before after hpending htaken h => by
          unfold Emptied
          rw [← hpending, ← htaken .store nofun]
          exact h
      refine .bind (hstore.mono ?_ fun _ _ => id) fun store =>
        .bind (hprofile.mono ?_ fun _ _ => id) fun profile => .pure (hdone _).stable ?_
      · rintro world ⟨hinv, hbegun, -, hempty⟩
        exact ⟨hinv, hbegun, hempty rfl⟩
      · rintro world ⟨hinv, hbegun, hempty, hnone⟩
        exact ⟨hinv, hbegun, hempty, hnone⟩
      · rintro world ⟨hinv, hbegun, ⟨hempty, hstore⟩, hprofile⟩
        refine ⟨hinv, hbegun, ?_, fun _ => hempty⟩
        rintro (_ | _ | _ | _) hprivate
        · exact hstore
        · exact hprofile
        · cases hprivate
        · cases hprivate

theorem drainDevice_triple :
    discipline.Triple () (At fun world => Free world ∧ Received Plain world) drainDevice
      fun _ => At fun world => Begun world ∧ Free world := by
  have hclean := begun_persistent.and free_persistent
  have hkeeps {slot : Slot} (hslot : slot.isPrivate = false) (before after : World)
      (_ : before.pending = after.pending)
      (htaken : ∀ other, other ≠ slot → before.taken other = after.taken other)
      (h : Free before) : Free after := by
    intro other hprivate
    rw [← htaken other fun heq => by simp [heq, hslot] at hprivate]
    exact h other hprivate
  refine .bind (act_triple (free_persistent.and (received_persistent _)) (fun _ => hclean) ?_)
    fun _ => ?_
  · rintro writes world hinv ⟨hfree, hreceived⟩
    exact takeDevice_spec hinv hfree hreceived
  · refine .bind (settleTaken_triple .device free_persistent (hkeeps rfl)) fun settings =>
      .bind ((settleTaken_triple .exportDirectory free_persistent (hkeeps rfl)).mono ?_
        fun _ _ => id) fun directory => .pure hclean.stable ?_
    · rintro world ⟨hinv, hbegun, hfree, -⟩
      exact ⟨hinv, hbegun, hfree⟩
    · rintro world ⟨hinv, hbegun, hfree, -⟩
      exact ⟨hinv, hbegun, hfree⟩

end Drains

/-- The result may be acknowledged: a checked write is covered, a flush has sealed the lease. -/
def Answerable (queued : QueuedWrite) (result : WriteResult) (world : World) : Prop :=
  queued.sequence ≤ world.pending.sequence ∧
  (result = .ok () → ∀ write, queued.slotWrite = some write → write.slot.isPrivate = true →
    world.Fresh → world.Covered write) ∧
  (result = .ok () → ∀ lease, queued.command = .flushForRetirement lease queued.sequence →
    world.pending.retirement = some queued.sequence → world.Sealed lease)

/-- The lease of the retirement is active, and nothing of a private slot is behind its flush. -/
def Quiet (lease : NamespaceLease) (generation : Nat) (world : World) : Prop :=
  generation ≤ world.pending.sequence ∧ (world.pending.retirement = some generation →
    world.pending.active = some lease ∧ ∀ queued ∈ world.queue, ∀ write,
      queued.slotWrite = some write → write.slot.isPrivate = false)

section Acknowledgements

open World

variable {before after world : World} {lease : NamespaceLease} {generation : Nat}
  {queued : QueuedWrite} {result : WriteResult} {write : SlotWrite}

theorem Produced.fresh (h : Produced before after) (hfresh : after.Fresh) : before.Fresh := by
  obtain ⟨added, hadded⟩ := h.activated
  unfold World.Fresh at hfresh
  rw [← hadded, List.map_append] at hfresh
  exact (List.nodup_append.mp hfresh).2.1

theorem Produced.covered (h : Produced before after) (hcovered : before.Covered write) :
    after.Covered write := by
  unfold World.Covered
  rw [h.written]
  exact hcovered

/-- A lease stays sealed while its generation is reserved. -/
theorem Produced.sealed (h : Produced before after) (hle : generation ≤ before.pending.sequence)
    (hgeneration : after.pending.retirement = some generation) (hsealed : before.Sealed lease) :
    after.Sealed lease := by
  obtain ⟨-, hactive, hslots, haccepted, -⟩ := h.retirement generation hle hgeneration
  refine ⟨hactive.trans hsealed.1, fun slot hprivate => ?_, fun hfresh write hmem hprivate hlease => ?_⟩
  · exact (hslots slot hprivate).trans (hsealed.2.1 slot hprivate)
  · have hold : write ∈ before.accepted.filter (·.slot.isPrivate) := by
      rw [← haccepted]
      exact List.mem_filter.mpr ⟨hmem, hprivate⟩
    exact h.covered (hsealed.2.2 (h.fresh hfresh) write (List.mem_filter.mp hold).1 hprivate hlease)

theorem answerable_persistent (queued : QueuedWrite) (result : WriteResult) :
    Persistent (Answerable queued result) := by
  rintro before after - ⟨hle, hcovered, hsealed⟩ hnext
  refine ⟨hle.trans hnext.produced.sequence, fun hok write hwrite hprivate hfresh => ?_,
    fun hok lease hcommand hgeneration => ?_⟩
  · exact hnext.produced.covered
      (hcovered hok write hwrite hprivate (hnext.produced.fresh hfresh))
  · have hbefore := (hnext.produced.retirement _ hle hgeneration).1
    exact hnext.produced.sealed hle hgeneration (hsealed hok lease hcommand hbefore)

theorem quiet_persistent (lease : NamespaceLease) (generation : Nat) :
    Persistent (Quiet lease generation) := by
  rintro before after - ⟨hle, hquiet⟩ hnext
  refine ⟨hle.trans hnext.produced.sequence, fun hgeneration => ?_⟩
  obtain ⟨hbefore, hactive, -, -, hqueue⟩ := hnext.produced.retirement generation hle hgeneration
  refine ⟨hactive.trans (hquiet hbefore).1, fun queued hmem write hwrite => ?_⟩
  by_contra hprivate
  exact hprivate ((hquiet hbefore).2 queued
    (hqueue queued hmem write hwrite (by simpa using hprivate)) write hwrite)

theorem quiet_works (hworks : Works before after) (h : Quiet lease generation before) :
    Quiet lease generation after := by
  unfold Quiet
  rw [hworks.sequence, hworks.retirement, hworks.active, hworks.queue]
  exact h

/-- Nothing is to be shown of a command that carries no snapshot and is no retirement. -/
theorem answerable_of_none (hle : queued.sequence ≤ world.pending.sequence)
    (hnone : queued.slotWrite = none)
    (hcommand : ∀ lease generation, queued.command ≠ .flushForRetirement lease generation) :
    Answerable queued result world :=
  ⟨hle, fun _ _ hwrite => absurd (hwrite.symm.trans hnone) (Option.some_ne_none _),
    fun _ lease hthis => absurd hthis (hcommand lease _)⟩

theorem acknowledge_triple (queued : QueuedWrite) (result : WriteResult) :
    discipline.Triple ()
      (At fun world => Begun world ∧ Free world ∧ Answerable queued result world)
      (acknowledge queued result) fun _ => At fun world => Begun world ∧ Free world := by
  refine act_triple
    (begun_persistent.and (free_persistent.and (answerable_persistent queued result)))
    (fun _ => begun_persistent.and free_persistent) ?_
  rintro writes world hinv ⟨hbegun, hfree, hle, hcovered, hsealed⟩
  rw [begun_eq hbegun]
  exact ⟨{ Works.refl world with }, hinv.acknowledge hle hcovered hsealed, hbegun, hfree⟩

/-- A checked write that succeeds is covered. -/
theorem settle_triple (hcarries : queued.slotWrite = some write) :
    discipline.Triple () (At (Ready queued)) (act fun writes world => world.settle write writes)
      fun result => At fun world => Begun world ∧ Free world ∧ Answerable queued result world := by
  refine act_triple (ready_persistent queued) (fun result =>
    begun_persistent.and (free_persistent.and (answerable_persistent queued result))) ?_
  rintro writes world hinv ⟨hreceived, hfree⟩
  rw [settle_begin]
  have hcommand : queued ∈ world.commands := by simp [World.commands, hreceived]
  have hmem := hinv.queued queued hcommand write hcarries
  have hsettles := settle_settles write writes world
  have hworks := hsettles.works
  obtain ⟨htaken, hpending, -, hstill⟩ := hsettles.keeps_taken
  have hfresh : (world.settle write writes).2.Fresh → world.Fresh := by
    unfold World.Fresh
    rw [hworks.activated]
    exact id
  have hchecked : ∃ checked, queued.command = .checked checked := by
    unfold QueuedWrite.slotWrite at hcarries
    split at hcarries
    · exact ⟨_, ‹_›⟩
    · cases hcarries
    · cases hcarries
    · cases hcarries
  obtain ⟨checked, hchecked⟩ := hchecked
  refine ⟨{ hworks with }, ?_, rfl, ?_, ?_, ?_, ?_⟩
  · refine (hinv.settles hsettles hmem).begin (fun other hother mine hmine hprivate hthis => ?_)
      (fun other hother lease hlease _ => ?_) fun other hother hdevice => ?_ <;>
      obtain rfl : queued = other := by
        rw [hstill, hreceived] at hother
        exact Option.some.inj hother
    · obtain rfl := Option.some.inj (hcarries.symm.trans hmine)
      exact (hsettles.own hinv (hfresh hthis) hmem hprivate).1
    · exact absurd (hlease.symm.trans hchecked) (by simp)
    · exact absurd (hdevice.symm.trans hchecked) (by simp)
  · intro slot hprivate
    exact (congrFun htaken slot).trans (hfree slot hprivate)
  · exact (hinv.numbered queued hcommand).trans hworks.sequence.ge
  · intro hok mine hmine hprivate hthis
    obtain rfl := Option.some.inj (hcarries.symm.trans hmine)
    exact (hsettles.own hinv (hfresh hthis) hmem hprivate).2 hok
  · exact fun _ lease hlease => absurd (hlease.symm.trans hchecked) (by simp)

/-- A read that begins the processing of a command. -/
theorem begin_triple {fact : WriteResult → World → Prop} {view : Bool → World → WriteResult}
    (hplain : Plain queued ∧ queued.command ≠ .wakeDevice)
    (hfact : ∀ result, Persistent (fact result))
    (h : ∀ writes world, Inv world → Ready queued world →
      fact (view writes { world with received := none }) { world with received := none }) :
    discipline.Triple () (At (Ready queued)) (act fun writes world => (view writes world, world))
      fun result => At fun world => Begun world ∧ Free world ∧ fact result world := by
  refine act_triple (ready_persistent queued)
    (fun result => begun_persistent.and (free_persistent.and (hfact result))) ?_
  rintro writes world hinv hready
  refine ⟨Works.refl world, plain_begin hinv fun other hother => ?_, rfl, hready.2,
    h writes world hinv hready⟩
  obtain rfl : queued = other := Option.some.inj (hready.1.symm.trans hother)
  exact hplain

end Acknowledgements

section Commands

open World

variable {queued : QueuedWrite} {lease : NamespaceLease} {world : World}

/-- The worker between two commands. -/
def Resting (world : World) : Prop := Begun world ∧ Free world

theorem resting_persistent : Persistent Resting := begun_persistent.and free_persistent

theorem begun_received {kind : QueuedWrite → Prop} (h : Begun world) : Received kind world := by
  intro queued hmem
  rw [h] at hmem
  cases hmem

theorem ready_received {kind : QueuedWrite → Prop} (h : Ready queued world) (hkind : kind queued) :
    Received kind world := by
  intro other hother
  obtain rfl : queued = other := Option.some.inj (h.1.symm.trans hother)
  exact hkind

theorem ready_numbered (hinv : Inv world) (h : Ready queued world) :
    queued.sequence ≤ world.pending.sequence :=
  hinv.numbered queued (by simp [World.commands, h.1])

theorem numbered_persistent (sequence : Nat) : Persistent fun world =>
    sequence ≤ world.pending.sequence :=
  fun _ _ _ hle hnext => hle.trans hnext.produced.sequence

theorem numbered_works {before after : World} {sequence : Nat} (hworks : Works before after)
    (h : sequence ≤ before.pending.sequence) : sequence ≤ after.pending.sequence := by
  rw [hworks.sequence]
  exact h

/-- The errors that were noted before. -/
theorem takeError_triple {take : CommittedSequences → WriteResult × CommittedSequences}
    (herrors : ∀ last, ∃ errors, (take last).2 = { last with errors }) :
    discipline.Triple () (At Resting)
      (act fun _ world => ((take world.last).1, { world with last := (take world.last).2 }))
      fun _ => At Resting := by
  refine act_triple resting_persistent (fun _ => resting_persistent) ?_
  rintro writes world hinv ⟨hbegun, hfree⟩
  rw [begun_eq hbegun]
  obtain ⟨errors, hlast⟩ := herrors world.last
  rw [hlast]
  exact ⟨{ Works.refl world with }, { hinv with }, hbegun, hfree⟩

theorem takeDeviceError_triple :
    discipline.Triple () (At Resting) takeDeviceError fun _ => At Resting :=
  takeError_triple fun _ => ⟨_, rfl⟩

theorem takePrivateError_triple (lease : NamespaceLease) :
    discipline.Triple () (At Resting) (takePrivateError lease) fun _ => At Resting :=
  @takeError_triple (CommittedSequences.takePrivateError lease) fun _ => ⟨_, rfl⟩

/-- The end of a command that carries no snapshot and is no retirement. -/
theorem acknowledge_plain (result : WriteResult) (hplain : queued.slotWrite = none)
    (hcommand : ∀ lease generation, queued.command ≠ .flushForRetirement lease generation) :
    discipline.Triple ()
      (At fun world => Resting world ∧ queued.sequence ≤ world.pending.sequence)
      (acknowledge queued result) fun _ => At Resting :=
  (acknowledge_triple queued result).mono
    (fun _ ⟨hinv, ⟨hbegun, hfree⟩, hle⟩ =>
      ⟨hinv, hbegun, hfree, answerable_of_none hle hplain hcommand⟩)
    fun _ _ => id

/-- Device snapshots first, then private ones, with what stays true meanwhile. -/
theorem drains_bind (lease : NamespaceLease) (generation : Nat) {keeps : World → Prop}
    {rest : WriteResult → WriteResult → Action Unit}
    (hpersistent : Persistent keeps)
    (hworks : ∀ before after, Works before after → keeps before → keeps after)
    (hrest : ∀ device owned, discipline.Triple ()
      (At fun world => Resting world ∧ keeps world ∧ (owned = .ok () → Emptied generation world))
      (rest device owned) fun _ => At Resting) :
    discipline.Triple ()
      (At fun world => Free world ∧ Received Plain world ∧ keeps world ∧
        generation ≤ world.pending.sequence)
      (drainDevice >>= fun device => drainPrivate lease >>= rest device) fun _ => At Resting := by
  have hall := hpersistent.and (numbered_persistent generation)
  have hallWorks : ∀ before after, Works before after →
      keeps before ∧ generation ≤ before.pending.sequence →
      keeps after ∧ generation ≤ after.pending.sequence := fun before after hstep h =>
    ⟨hworks before after hstep h.1, numbered_works hstep h.2⟩
  refine .bind ((frame hall hallWorks drainDevice_triple).mono ?_ fun _ _ => id) fun device =>
    .bind ((frame hpersistent hworks (drainPrivate_triple lease generation)).mono ?_ ?_)
      (hrest device)
  · rintro world ⟨hinv, hfree, hreceived, hkeeps, hle⟩
    exact ⟨hinv, ⟨hfree, hreceived⟩, hkeeps, hle⟩
  · rintro world ⟨hinv, ⟨hbegun, hfree⟩, hkeeps, hle⟩
    exact ⟨hinv, ⟨hfree, begun_received hbegun, hle⟩, hkeeps⟩
  · rintro owned world ⟨hinv, ⟨hbegun, hfree, hempty⟩, hkeeps⟩
    exact ⟨hinv, ⟨hbegun, hfree⟩, hkeeps, hempty⟩

theorem both_ok {result next : WriteResult} (h : both result next = .ok ()) :
    result = .ok () ∧ next = .ok () := by
  cases result with
  | error error => cases h
  | ok _ => exact ⟨rfl, h⟩

/-- After both drains and without debts the lease is sealed: whatever was accepted under it is
not queued, pending or taken, so it is covered. -/
theorem sealed_of_retirementResult (queued : QueuedWrite) (hinv : Inv world) (hrest : Resting world)
    (hquiet : Quiet lease queued.sequence world) (hempty : Emptied queued.sequence world)
    (hdebts : world.last.retirementResult lease = .ok ())
    (hgeneration : world.pending.retirement = some queued.sequence) : world.Sealed lease := by
  obtain ⟨hbegun, hfree⟩ := hrest
  obtain ⟨hactive, hqueue⟩ := hquiet.2 hgeneration
  refine ⟨hactive, hempty.2 hgeneration, fun hfresh write hmem hprivate hlease => ?_⟩
  obtain ⟨other, hother, hcarries⟩ | ⟨entry, hentry, -⟩ | ⟨entry, hentry, -⟩ | hsettled :=
    hinv.kept hfresh write hmem hprivate
  · have hother : other ∈ world.queue := by
      unfold World.commands at hother
      rw [hbegun] at hother
      simpa using hother
    exact absurd (hprivate.symm.trans (hqueue other hother write hcarries)) (by simp)
  · exact absurd (hentry.symm.trans (hempty.2 hgeneration write.slot hprivate)) (Option.some_ne_none _)
  · exact absurd (hentry.symm.trans (hfree write.slot hprivate)) (Option.some_ne_none _)
  · obtain hcovered | ⟨debt, hdebt, -, howner, -⟩ | hgone := hsettled
    · exact hcovered
    · unfold CommittedSequences.retirementResult at hdebts
      split at hdebts
      · cases hdebts
      · rename_i hfind
        have hnone := List.find?_eq_none.mp hfind debt hdebt
        exact absurd (howner.trans hlease) (by simpa using fun h => hnone (by simp [h]))
    · exact absurd (hactive.trans hlease.symm) hgone

/-- While its generation is reserved, all private snapshots are before the flush. -/
theorem quiet_of_ready {generation : Nat} (hinv : Inv world) (hready : Ready queued world)
    (h : world.requireRetirement lease generation = .ok ()) :
    Quiet lease queued.sequence { world with received := none } := by
  have hle : queued.sequence ≤ world.pending.sequence := ready_numbered hinv hready
  refine ⟨hle, fun hgeneration => ⟨?_, fun other hmem write hwrite => ?_⟩⟩
  · have hrequire := (both_ok h).1
    unfold PendingClientState.require at hrequire
    split at hrequire
    · assumption
    · cases hrequire
  · by_contra hprivate
    have hlater : queued.sequence < other.sequence := by
      have hordered := hinv.ordered
      rw [World.commands, hready.1] at hordered
      exact (List.pairwise_cons.mp hordered).1 other hmem
    have hqueued := hinv.queued other (List.mem_append_right _ hmem) write hwrite
    have hearlier := (hinv.history.reserved _ hgeneration).2 write hqueued (by simpa using hprivate)
    have hsame : write.entry.sequence = other.sequence := by
      unfold QueuedWrite.slotWrite at hwrite
      split at hwrite
      · exact Follows.slotWrite_sequence hwrite
      · cases hwrite
      · cases hwrite
      · cases hwrite
    omega

theorem flushForRetirement_triple (lease : NamespaceLease) (sequence generation : Nat) :
    discipline.Triple () (At (Ready ⟨sequence, .flushForRetirement lease generation⟩))
      (process ⟨sequence, .flushForRetirement lease generation⟩) fun _ => At Resting := by
  let queued : QueuedWrite := ⟨sequence, .flushForRetirement lease generation⟩
  let fact (result : WriteResult) (world : World) := sequence ≤ world.pending.sequence ∧
    (result = .ok () → Quiet lease sequence world)
  have hquiet := quiet_persistent lease sequence
  have hfact (result : WriteResult) : Persistent (fact result) :=
    (numbered_persistent sequence).and (.imp fun _ => hquiet)
  have hplain : Plain queued ∧ queued.command ≠ .wakeDevice := ⟨⟨rfl, nofun⟩, nofun⟩
  refine .bind (begin_triple hplain hfact fun writes world hinv hready =>
    ⟨ready_numbered hinv hready, quiet_of_ready hinv hready⟩) ?_
  rintro (error | _)
  · refine (acknowledge_triple queued (.error error)).mono ?_ fun _ _ => id
    rintro world ⟨hinv, hbegun, hfree, hle, -⟩
    exact ⟨hinv, hbegun, hfree, hle, nofun, nofun⟩
  · refine (drains_bind lease sequence hquiet (fun _ _ => quiet_works) ?_).mono ?_ fun _ _ => id
    · intro device owned
      refine .bind (act_triple (resting_persistent.and (hquiet.and
        (.imp fun _ => emptied_persistent sequence))) (fun debts => begun_persistent.and
          (free_persistent.and (answerable_persistent queued (both (both device owned) debts))))
        ?_) fun debts => acknowledge_triple queued (both (both device owned) debts)
      rintro writes world hinv ⟨⟨hbegun, hfree⟩, hquiet, hempty⟩
      rw [begun_eq hbegun]
      refine ⟨{ Works.refl world with }, hinv, hbegun, hfree, hquiet.1, nofun, ?_⟩
      intro hok other hother hgeneration
      obtain ⟨rfl, -⟩ : lease = other ∧ generation = sequence := by simpa [queued] using hother
      obtain ⟨hdrains, hdebts⟩ := both_ok hok
      exact sealed_of_retirementResult queued hinv ⟨hbegun, hfree⟩ hquiet
        (hempty (both_ok hdrains).2) hdebts hgeneration
    · rintro world ⟨hinv, hbegun, hfree, hle, hall⟩
      exact ⟨hinv, hfree, begun_received hbegun, hall rfl, hle⟩

/-- A command that only asks for the drains or for a table that no slot covers. -/
theorem read_triple {queued : QueuedWrite} {view : Bool → World → WriteResult}
    (hplain : Plain queued ∧ queued.command ≠ .wakeDevice)
    (hcommand : ∀ lease generation, queued.command ≠ .flushForRetirement lease generation) :
    discipline.Triple () (At (Ready queued)) (do
      let result ← act fun writes world => (view writes world, world)
      acknowledge queued result) fun _ => At Resting := by
  have hnumbered := numbered_persistent queued.sequence
  refine .bind (begin_triple hplain (fun _ => hnumbered) fun writes world hinv hready => ?_)
    fun result => (acknowledge_plain result hplain.1.1 hcommand).mono ?_ fun _ _ => id
  · have hle : queued.sequence ≤ world.pending.sequence := ready_numbered hinv hready
    exact hle
  · rintro world ⟨hinv, hbegun, hfree, hle⟩
    exact ⟨hinv, ⟨hbegun, hfree⟩, hle⟩

theorem settle_acknowledge {queued : QueuedWrite} {write : SlotWrite}
    (hcarries : queued.slotWrite = some write) :
    discipline.Triple () (At (Ready queued)) (do
      let result ← act fun writes world => world.settle write writes
      acknowledge queued result) fun _ => At Resting :=
  .bind (settle_triple hcarries) fun result => acknowledge_triple queued result

/-- Every command keeps the invariant and is answered truly. -/
theorem process_triple (queued : QueuedWrite) :
    discipline.Triple () (At (Ready queued)) (process queued) fun _ => At Resting := by
  have hnumbered := numbered_persistent queued.sequence
  have hnumberedWorks : ∀ before after, Works before after →
      queued.sequence ≤ before.pending.sequence → queued.sequence ≤ after.pending.sequence :=
    fun _ _ => numbered_works
  obtain ⟨sequence, command⟩ := queued
  cases command with
  | wake lease =>
    refine .bind ((drainPrivate_triple lease 0).mono ?_ fun _ _ => id)
      fun result => .pure resting_persistent.stable ?_
    · rintro world ⟨hinv, hready⟩
      exact ⟨hinv, hready.2, ready_received hready rfl, Nat.zero_le _⟩
    · rintro world ⟨hinv, hbegun, hfree, -⟩
      exact ⟨hinv, hbegun, hfree⟩
  | wakeDevice =>
    refine .bind (drainDevice_triple.mono ?_ fun _ _ => id)
      fun result => .pure resting_persistent.stable fun _ => id
    rintro world ⟨hinv, hready⟩
    exact ⟨hinv, hready.2, ready_received hready ⟨rfl, nofun⟩⟩
  | flushForRetirement lease generation => exact flushForRetirement_triple lease sequence generation
  | checked write =>
    cases write with
    | flushDevice =>
      refine .bind ((frame hnumbered hnumberedWorks drainDevice_triple).mono ?_ fun _ _ => id)
        fun result => .bind ((frame hnumbered hnumberedWorks takeDeviceError_triple).mono
          (fun _ => id) fun _ _ => id) fun prior => acknowledge_plain _ rfl nofun
      rintro world ⟨hinv, hready⟩
      exact ⟨hinv, ⟨hready.2, ready_received hready ⟨rfl, nofun⟩⟩, ready_numbered hinv hready⟩
    | flush lease =>
      refine (drains_bind lease 0 hnumbered hnumberedWorks fun device owned => ?_).mono ?_
        fun _ _ => id
      · refine .bind ((frame hnumbered hnumberedWorks takeDeviceError_triple).mono ?_ fun _ _ => id)
          fun priorDevice => .bind (frame hnumbered hnumberedWorks (takePrivateError_triple lease))
            fun priorPrivate => acknowledge_plain _ rfl nofun
        rintro world ⟨hinv, hrest, hle, -⟩
        exact ⟨hinv, hrest, hle⟩
      · rintro world ⟨hinv, hready⟩
        exact ⟨hinv, hready.2, ready_received hready ⟨rfl, nofun⟩, ready_numbered hinv hready,
          Nat.zero_le _⟩
    | localStore lease data => exact settle_acknowledge rfl
    | userProfile lease data => exact settle_acknowledge rfl
    | deviceSettings data => exact settle_acknowledge rfl
    | exportDirectory data => exact settle_acknowledge rfl
    | retainedRedemptionRead lease clientRequestId =>
      exact read_triple ⟨⟨rfl, nofun⟩, nofun⟩ nofun
    | selectedGroup user device group => exact read_triple ⟨⟨rfl, nofun⟩, nofun⟩ nofun

end Commands

end ArtForgeStudio.ClientState
