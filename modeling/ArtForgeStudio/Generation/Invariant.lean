import ArtForgeStudio.Generation.Rows

/-! # What holds between any two actions

The first half of the invariant is about requests: what was sent is what a row determined,
and a row that waits for its task still determines it. The second half is about rows and ids;
what it says of removed rows and second ids holds in `strict` runs alone. `Change` says what a
step may do to the worlds of other threads.
-/

namespace ArtForgeStudio.Generation

open ArtForgeStudio.Api ArtForgeStudio.KeyedRows ArtForgeStudio.Recovery

namespace World

variable (world : World) (key : String)

/-- A stored row determined the request of the key. -/
def Determined : Prop := ∃ creation ∈ world.determined, creation.key = key

def Sent : Prop := ∃ creation ∈ world.sent, creation.key = key

def Released : Prop := ∃ release, (key, release) ∈ world.released

/-- The server named this task for the key. -/
def Named (taskId : String) : Prop :=
  ∃ receipt ∈ world.received, receipt.key = key ∧ receipt.taskId = taskId

end World

/-- What lets the row of a key go. -/
def Release.Justified (world : World) (key : String) : Release → Prop
  | .refused reply => reply.refuses = true ∧ (key, reply) ∈ world.replies
  | .cancelled detail => detail.cancelledEmpty = true ∧ world.Named key detail.id
  | .complete row => row.clientRequestId = key ∧ generationRecordComplete row = true

/-- The row of a received id was let go or carries the id. -/
def Settled (receipt : Receipt) (world : World) : Prop :=
  world.Released receipt.key ∨
    ∃ row, world.row receipt.key = some row ∧ row.serverTaskId = receipt.taskId

/-- A key whose row was bound to a task. -/
structure Bound (key taskId : String) (world : World) : Prop where
  nonempty : taskId ≠ ""
  named : world.Named key taskId
  row : ∀ row, world.row key = some row → row.serverTaskId ≠ ""

structure Inv (strict : Prop) (world : World) : Prop where
  sent : ∀ creation ∈ world.sent, creation ∈ world.determined
  determined : ∀ creation ∈ world.determined, creation.key ∈ world.inserted
  payer : ∀ creation ∈ world.determined, ∀ row, world.row creation.key = some row →
    row.billingAccountGroupId = creation.payer
  request : ∀ creation ∈ world.determined, ∀ row, world.row creation.key = some row →
    row.serverTaskId = "" → rowRequest row = some creation
  recorded : ∀ key row creation, world.row key = some row → row.serverTaskId = "" →
    rowRequest row = some creation → creation ∈ world.determined
  unique : ∀ creation ∈ world.determined, ∀ other ∈ world.determined,
    creation.key = other.key → creation = other
  rows : ∀ key row, world.row key = some row → key ∈ world.inserted
  accepted : ∀ key row, world.row key = some row → row.serverTaskId ≠ "" →
    world.Named key row.serverTaskId
  recovered : ∀ record ∈ world.recovered,
    Bound record.clientRequestId record.serverTaskId world
  received : ∀ receipt ∈ world.received, receipt.taskId ≠ "" ∧ world.Sent receipt.key
  justified : ∀ entry ∈ world.released, entry.2.Justified world entry.1
  kept : strict → ∀ key, world.Sent key → world.row key = none → world.Released key
  oneId : strict → ∀ receipt ∈ world.received, ∀ other ∈ world.received,
    receipt.key = other.key → receipt.taskId = other.taskId

/-- How any world may go on from another. -/
structure Evolves (before after : World) : Prop where
  inserted : before.inserted ⊆ after.inserted
  determined : before.determined ⊆ after.determined
  sent : before.sent ⊆ after.sent
  received : before.received ⊆ after.received
  replies : before.replies ⊆ after.replies
  released : before.released ⊆ after.released
  unrecorded : before.unrecorded ⊆ after.unrecorded
  absent : ∀ key ∈ before.inserted, before.row key = none → after.row key = none
  row : ∀ key row later, before.row key = some row → after.row key = some later →
    later.billingAccountGroupId = row.billingAccountGroupId ∧
      (row.serverTaskId ≠ "" → later.serverTaskId ≠ "")

/-- What the submitter of a key may count on: nobody else fills in the request of its row, and
nobody else lets the row go without a reason. -/
structure Frozen (strict : Prop) (key : String) (before after : World) : Prop where
  undetermined : ¬before.Determined key → ¬after.Determined key ∧
    ∀ later, after.row key = some later →
      ∃ row, before.row key = some row ∧ requestPart later = requestPart row
  kept : strict → ∀ row, before.row key = some row → after.row key = none → after.Released key

/-- The histories of one thread. -/
structure Notes where
  received : List Receipt
  senders : List (Nat × String)

def World.notes (world : World) (thread : Nat) : Notes where
  received := world.received.filter (·.thread = thread)
  senders := world.senders.filter (·.1 = thread)

/-- A step that notes nothing for the threads and leaves the keys frozen. -/
structure Change (strict : Prop) (threads : Nat → Prop) (keys : String → Prop)
    (before after : World) : Prop where
  inv : Inv strict after
  evolves : Evolves before after
  notes : ∀ thread, threads thread → after.notes thread = before.notes thread
  frozen : ∀ key ∈ before.inserted, keys key → Frozen strict key before after

/-- A step that every thread allows to every other. -/
abbrev Quiet (strict : Prop) : World → World → Prop := Change strict (fun _ => True) (fun _ => True)

section Laws

variable {strict : Prop} {world before middle after : World} {key taskId : String}
  {receipt : Receipt} {row later : PendingGenerationRecord} {threads threads' : Nat → Prop}
  {keys keys' : String → Prop} {thread : Nat}

theorem World.isNamed_eq_true : world.isNamed key taskId = true ↔ world.Named key taskId := by
  simp [World.isNamed, World.Named]

theorem Inv.sent_determined (h : Inv strict world) (hsent : world.Sent key) :
    world.Determined key :=
  let ⟨creation, hmem, hkey⟩ := hsent
  ⟨creation, h.sent creation hmem, hkey⟩

theorem Inv.determined_inserted (h : Inv strict world) (hdetermined : world.Determined key) :
    key ∈ world.inserted :=
  let ⟨creation, hmem, hkey⟩ := hdetermined
  hkey ▸ h.determined creation hmem

theorem Inv.named_sent (h : Inv strict world) (hnamed : world.Named key taskId) :
    world.Sent key := by
  obtain ⟨receipt, hmem, rfl, -⟩ := hnamed
  exact (h.received receipt hmem).2

theorem World.Sent.mono (h : world.Sent key) (hsub : world.sent ⊆ after.sent) : after.Sent key :=
  let ⟨creation, hmem, hkey⟩ := h
  ⟨creation, hsub hmem, hkey⟩

theorem World.Released.mono (h : world.Released key) (hsub : world.released ⊆ after.released) :
    after.Released key :=
  let ⟨release, hmem⟩ := h
  ⟨release, hsub hmem⟩

theorem World.Named.mono (h : world.Named key taskId) (hsub : world.received ⊆ after.received) :
    after.Named key taskId :=
  let ⟨receipt, hmem, hsame⟩ := h
  ⟨receipt, hsub hmem, hsame⟩

theorem Release.Justified.mono {release : Release} (h : release.Justified world key)
    (hsub : world.received ⊆ after.received) (hreplies : world.replies ⊆ after.replies) :
    release.Justified after key := by
  cases release with
  | refused reply => exact ⟨h.1, hreplies h.2⟩
  | cancelled detail => exact ⟨h.1, h.2.mono hsub⟩
  | complete row => exact h

/-- A row with an id carries the one that the server named. -/
theorem Inv.task_eq (h : Inv strict world) (hstrict : strict) (hrow : world.row key = some row)
    (hne : row.serverTaskId ≠ "") (hnamed : world.Named key taskId) :
    row.serverTaskId = taskId := by
  obtain ⟨receipt, hmem, hkey, hid⟩ := h.accepted key row hrow hne
  obtain ⟨other, hother, hkey', rfl⟩ := hnamed
  exact hid.symm.trans (h.oneId hstrict receipt hmem other hother (hkey.trans hkey'.symm))

theorem Evolves.refl (world : World) : Evolves world world where
  inserted := List.Subset.refl _
  determined := List.Subset.refl _
  sent := List.Subset.refl _
  received := List.Subset.refl _
  replies := List.Subset.refl _
  released := List.Subset.refl _
  unrecorded := List.Subset.refl _
  absent _ _ h := h
  row key row later h h' := by
    cases h.symm.trans h'
    exact ⟨rfl, id⟩

/-- A row after a step was a row before it. -/
theorem Evolves.row_before (h : Evolves before after) (hkey : key ∈ before.inserted)
    (hrow : after.row key = some later) : ∃ row, before.row key = some row := by
  cases hbefore : before.row key with
  | some row => exact ⟨row, rfl⟩
  | none => cases (h.absent key hkey hbefore).symm.trans hrow

theorem Evolves.trans (hinv : Inv strict before) (h : Evolves before middle)
    (h' : Evolves middle after) : Evolves before after where
  inserted := List.Subset.trans h.inserted h'.inserted
  determined := List.Subset.trans h.determined h'.determined
  sent := List.Subset.trans h.sent h'.sent
  received := List.Subset.trans h.received h'.received
  replies := List.Subset.trans h.replies h'.replies
  released := List.Subset.trans h.released h'.released
  unrecorded := List.Subset.trans h.unrecorded h'.unrecorded
  absent key hkey hnone := h'.absent key (h.inserted hkey) (h.absent key hkey hnone)
  row key row later hrow hlater := by
    obtain ⟨between, hbetween⟩ := h'.row_before (h.inserted (hinv.rows key row hrow)) hlater
    obtain ⟨hpayer, hid⟩ := h.row key row between hrow hbetween
    obtain ⟨hpayer', hid'⟩ := h'.row key between later hbetween hlater
    exact ⟨hpayer'.trans hpayer, fun hne => hid' (hid hne)⟩

theorem Frozen.refl (key : String) (world : World) : Frozen strict key world world where
  undetermined h := ⟨h, fun later hlater => ⟨later, hlater, rfl⟩⟩
  kept _ _ hrow hnone := by cases hrow.symm.trans hnone

theorem Frozen.trans (h : Frozen strict key before middle) (h' : Frozen strict key middle after)
    (hevolves : Evolves middle after) : Frozen strict key before after where
  undetermined hno := by
    obtain ⟨hno', hpart⟩ := h.undetermined hno
    obtain ⟨hno'', hpart'⟩ := h'.undetermined hno'
    refine ⟨hno'', fun later hlater => ?_⟩
    obtain ⟨between, hbetween, heq'⟩ := hpart' later hlater
    obtain ⟨row, hrow, heq⟩ := hpart between hbetween
    exact ⟨row, hrow, heq'.trans heq⟩
  kept hstrict row hrow hnone := by
    cases hbetween : middle.row key with
    | none => exact (h.kept hstrict row hrow hbetween).mono hevolves.released
    | some between => exact h'.kept hstrict between hbetween hnone

theorem Change.refl (hinv : Inv strict world) : Change strict threads keys world world :=
  ⟨hinv, .refl world, fun _ _ => rfl, fun key _ _ => .refl key world⟩

theorem Change.trans (hinv : Inv strict before) (h : Change strict threads keys before middle)
    (h' : Change strict threads keys middle after) : Change strict threads keys before after where
  inv := h'.inv
  evolves := h.evolves.trans hinv h'.evolves
  notes thread hthread := (h'.notes thread hthread).trans (h.notes thread hthread)
  frozen key hkey hfrozen := (h.frozen key hkey hfrozen).trans
    (h'.frozen key (h.evolves.inserted hkey) hfrozen) h'.evolves

theorem Change.mono (h : Change strict threads' keys' before after)
    (hthreads : ∀ thread, threads thread → threads' thread) (hkeys : ∀ key, keys key → keys' key) :
    Change strict threads keys before after :=
  ⟨h.inv, h.evolves, fun thread hthread => h.notes thread (hthreads _ hthread),
    fun key hkey hfrozen => h.frozen key hkey (hkeys key hfrozen)⟩

theorem Quiet.change (h : Quiet strict before after) : Change strict threads keys before after :=
  h.mono (fun _ _ => trivial) fun _ _ => trivial

/-- A thread for which nothing is noted has received what it had received. -/
theorem Change.received (h : Change strict threads keys before after) (hthread : threads thread) :
    ∀ receipt ∈ after.received, receipt.thread = thread → receipt ∈ before.received := by
  intro receipt hmem heq
  have hsame := congrArg Notes.received (h.notes thread hthread)
  have hold : receipt ∈ after.received.filter (·.thread = thread) :=
    List.mem_filter.mpr ⟨hmem, decide_eq_true heq⟩
  rw [show after.received.filter (·.thread = thread) = before.received.filter (·.thread = thread)
    from hsame] at hold
  exact (List.mem_filter.mp hold).1

theorem Change.senders (h : Change strict threads keys before after) (hthread : threads thread) :
    (thread, key) ∈ after.senders ↔ (thread, key) ∈ before.senders := by
  have hsame : after.senders.filter (·.1 = thread) = before.senders.filter (·.1 = thread) :=
    congrArg Notes.senders (h.notes thread hthread)
  have hown : ∀ senders : List (Nat × String),
      (thread, key) ∈ senders.filter (·.1 = thread) ↔ (thread, key) ∈ senders := by simp
  rw [← hown, hsame, hown]

theorem Bound.evolves (hinv : Inv strict before) (h : Bound key taskId before)
    (hstep : Evolves before after) : Bound key taskId after where
  nonempty := h.nonempty
  named := h.named.mono hstep.received
  row later hlater := by
    have hkey := hinv.determined_inserted (hinv.sent_determined (hinv.named_sent h.named))
    obtain ⟨row, hrow⟩ := hstep.row_before hkey hlater
    exact (hstep.row _ row later hrow hlater).2 (h.row row hrow)

/-- A row of a received id that does not wait is as it should be. -/
theorem Inv.settled (hinv : Inv strict world) (hstrict : strict)
    (hmem : receipt ∈ world.received)
    (hrow : ∀ row, world.row receipt.key = some row → row.serverTaskId ≠ "") :
    Settled receipt world := by
  cases hlookup : world.row receipt.key with
  | none => exact .inl (hinv.kept hstrict _ (hinv.received receipt hmem).2 hlookup)
  | some row =>
    exact .inr ⟨row, hlookup, hinv.task_eq hstrict hlookup (hrow row hlookup)
      ⟨receipt, hmem, rfl, rfl⟩⟩

theorem Settled.evolves (h : Settled receipt before) (hinv : Inv strict before)
    (hmem : receipt ∈ before.received) (hstep : Evolves before after) (hinv' : Inv strict after)
    (hstrict : strict) : Settled receipt after := by
  rcases h with hreleased | ⟨row, hrow, heq⟩
  · exact .inl (hreleased.mono hstep.released)
  · refine hinv'.settled hstrict (hstep.received hmem) fun later hlater => ?_
    exact (hstep.row _ row later hrow hlater).2 (heq ▸ (hinv.received receipt hmem).1)

end Laws

end ArtForgeStudio.Generation
