import ArtForgeStudio.Payment.Workers
import ArtForgeStudio.Recovery.RowEdits

/-! # What belongs to one key

A worker acts on its key alone: its row, the requests sent for it, and what the server said to
them. In a good state the row that is there asks for every request that was sent, and a row
that is gone was settled or refused.
-/

namespace ArtForgeStudio.Payment

open ArtForgeStudio.Api ArtForgeStudio.Recovery ArtForgeStudio.KeyedRows ArtForgeStudio.Concurrency
  ArtForgeStudio.Outcome

/-- A row without the flag that the window writes. -/
def core (row : PendingOrderRecord) : PendingOrderRecord := { row with presentationDismissed := false }

structure KeyState where
  row : Option PendingOrderRecord
  stored : Bool
  sent : List Creation
  returned : List OrderDetail
  refused : List Refusal

def World.part (key : String) (world : World) : KeyState where
  row := (world.row key).map core
  stored := world.stored.contains key
  sent := world.sent.filter (·.key = key)
  returned := (world.returned.filter (·.1 = key)).map (·.2)
  refused := world.refused.filter (·.key = key)

namespace KeyState

/-- The server returned an order of the payer that was fulfilled or closed. -/
def Settled (v : KeyState) (payer : String) : Prop :=
  ∃ detail ∈ v.returned, detail.billingAccountGroupId = payer ∧ detail.settled = true

/-- The first creation was refused while the row had no order id. -/
def Refused (v : KeyState) : Prop := ∃ refusal ∈ v.refused, refusal.orderId = ""

structure Good (key : String) (v : KeyState) : Prop where
  key : ∀ row, v.row = some row → row.clientRequestId = key
  stored : ∀ row, v.row = some row → v.stored = true
  sent : ∀ creation ∈ v.sent, v.stored = true
  request : ∀ row, v.row = some row → ∀ creation ∈ v.sent, orderCreation row = some creation
  released : v.row = none → ∀ creation ∈ v.sent, v.Settled creation.payer ∨ v.Refused
  unique : ∀ creation ∈ v.sent, ∀ other ∈ v.sent, creation = other

/-- How the state of a key changes: a key that was stored stays stored, a row that is gone
does not come back, and an order id stays. -/
structure Moves (before after : KeyState) : Prop where
  stored : before.stored = true → after.stored = true
  row : before.stored = true → ∀ later, after.row = some later →
    ∃ row, before.row = some row ∧ (row.orderId ≠ "" → later.orderId = row.orderId)

theorem Moves.of_row {before after : KeyState} (hstored : after.stored = before.stored)
    (hrow : after.row = before.row) : Moves before after :=
  ⟨fun h => hstored ▸ h, fun _ later hlater => ⟨later, hrow ▸ hlater, fun _ => rfl⟩⟩

theorem Moves.trans {u v w : KeyState} (h : Moves u v) (h' : Moves v w) : Moves u w where
  stored := h'.stored ∘ h.stored
  row hstored later hlater := by
    obtain ⟨middle, hmiddle, hsame⟩ := h'.row (h.stored hstored) later hlater
    obtain ⟨row, hrow, hsame'⟩ := h.row hstored middle hmiddle
    refine ⟨row, hrow, fun hne => ?_⟩
    have hmid := hsame' hne
    rw [hsame (hmid ▸ hne), hmid]

def edit (row : Option PendingOrderRecord) (v : KeyState) : KeyState :=
  { v with row := row.map core, stored := row.isSome || v.stored }

def send (creation : Creation) (v : KeyState) : KeyState := { v with sent := creation :: v.sent }

def gain (detail : OrderDetail) (v : KeyState) : KeyState :=
  { v with returned := detail :: v.returned }

def refuse (refusal : Refusal) (v : KeyState) : KeyState :=
  { v with refused := refusal :: v.refused }

variable {key : String} {v : KeyState} {row later : PendingOrderRecord} {creation : Creation}

theorem Good.send (h : Good key v) (hrow : v.row = some row)
    (hrequest : orderCreation row = some creation) : Good key (v.send creation) := by
  have hall : ∀ other ∈ (v.send creation).sent, other = creation := by
    intro other hmem
    rcases List.mem_cons.mp hmem with rfl | hold
    · rfl
    · exact Option.some.inj ((h.request row hrow other hold).symm.trans hrequest)
  refine { h with sent := fun _ _ => h.stored row hrow, request := ?_, released := ?_, unique := ?_ }
  · intro row' hrow' other hmem
    cases hrow.symm.trans hrow'
    rw [hall other hmem, hrequest]
  · intro hnone
    cases hrow.symm.trans hnone
  · intro one hone other hother
    rw [hall one hone, hall other hother]

theorem Settled.gain {payer : String} {detail : OrderDetail} (h : v.Settled payer) :
    (v.gain detail).Settled payer := by
  obtain ⟨old, hmem, hsettled⟩ := h
  exact ⟨old, List.mem_cons_of_mem _ hmem, hsettled⟩

theorem Refused.refuse {refusal : Refusal} (h : v.Refused) : (v.refuse refusal).Refused := by
  obtain ⟨old, hmem, hempty⟩ := h
  exact ⟨old, List.mem_cons_of_mem _ hmem, hempty⟩

theorem Good.gain {detail : OrderDetail} (h : Good key v) : Good key (v.gain detail) :=
  { h with released := fun hnone creation hmem => (h.released hnone creation hmem).imp_left .gain }

theorem Good.refuse {refusal : Refusal} (h : Good key v) : Good key (v.refuse refusal) :=
  { h with released := fun hnone creation hmem => (h.released hnone creation hmem).imp_right .refuse }

/-- A row that asks for the same is as good. -/
theorem Good.edit (h : Good key v) (hrow : v.row = some (core row))
    (hkey : later.clientRequestId = row.clientRequestId)
    (hrequest : v.sent = [] ∨ orderCreation (core later) = orderCreation (core row)) :
    Good key (v.edit (some later)) where
  key := by
    rintro _ ⟨⟩
    exact hkey.trans (h.key (core row) hrow)
  stored _ _ := rfl
  sent _ _ := rfl
  request := by
    rintro _ ⟨⟩ creation hmem
    rcases hrequest with hnone | hsame
    · exact absurd (show creation ∈ v.sent from hmem) (by simp [hnone])
    · exact hsame.trans (h.request _ hrow creation hmem)
  released := by simp [KeyState.edit]
  unique := h.unique

theorem Moves.edit (hrow : v.row = some (core row))
    (hid : row.orderId = "" ∨ later.orderId = row.orderId) : Moves v (v.edit (some later)) := by
  refine ⟨fun _ => rfl, ?_⟩
  rintro - _ ⟨⟩
  exact ⟨_, hrow, fun hne => hid.resolve_left hne⟩

/-- A row may go when every request that was sent for it is settled or refused. -/
theorem Good.remove (h : Good key v)
    (hreleased : ∀ creation ∈ v.sent, v.Settled creation.payer ∨ v.Refused) :
    Good key (v.edit none) where
  key := by simp [KeyState.edit]
  stored := by simp [KeyState.edit]
  sent := h.sent
  request := by simp [KeyState.edit]
  released _ := hreleased
  unique := h.unique

theorem Moves.remove : Moves v (v.edit none) := ⟨id, by simp [KeyState.edit]⟩

/-- The row of a key that was never stored. -/
theorem Good.insert (h : Good key v) (hnew : v.stored = false) (hkey : row.clientRequestId = key) :
    Good key (v.edit (some row)) ∧ Moves v (v.edit (some row)) ∧ v.sent = [] := by
  have hsent : v.sent = [] := by
    by_contra hne
    obtain ⟨creation, hmem⟩ := List.exists_mem_of_ne_nil _ hne
    rw [h.sent creation hmem] at hnew
    cases hnew
  refine ⟨?_, ⟨fun _ => rfl, ?_⟩, hsent⟩
  · refine ⟨?_, fun _ _ => rfl, fun _ _ => rfl, ?_, by simp [KeyState.edit], h.unique⟩
    · rintro _ ⟨⟩
      exact hkey
    · rintro _ - creation hmem
      exact absurd (show creation ∈ v.sent from hmem) (by simp [hsent])
  · intro hstored
    rw [hnew] at hstored
    cases hstored

end KeyState

open KeyState

/-- The parts of the world under the keys. -/
def keys : Parts World Answers String KeyState where
  admits _ := True
  part := World.part
  good := Good
  moves _ := Moves
  moves_refl _ _ := .of_row rfl rfl
  moves_trans _ _ _ _ := .trans

section Parts

variable {world : World} {key other : String} {answers : StorageAnswers}
  {authority : NamespaceStorageAuthority} {op : OrderOperation} {creation : Creation}
  {detail : OrderDetail} {first refresh : Bool} {error : ApiError}

/-- An operation leaves the rows under the other keys. -/
theorem run_others (hother : other ≠ op.identity.clientRequestId) :
    orderTable.lookup (op.run answers authority world.file).2 other =
      orderTable.lookup world.file other := by
  cases op with
  | upsert scope record =>
    rcases orderTable.upsert_cases answers authority scope record world.file
      with ⟨failure, hfail⟩ | ⟨next, hpublished, -, hrow, -, -⟩
    · simp only [OrderOperation.run, upserted, Recovery.upsertPendingOrder, hfail]
    · simp only [OrderOperation.run, upserted, Recovery.upsertPendingOrder, hpublished]
      exact hrow.lookup_other hother
  | remove | rebind | dismiss | orderId | quoteId =>
    exact (OrderOperation.run_edited (by simp)).others other hother

theorem part_operated_other (hother : other ≠ op.identity.clientRequestId) :
    (world.operated answers authority op).part other = world.part other := by
  have hrow : (world.operated answers authority op).row other = world.row other := run_others hother
  have hstored : (world.operated answers authority op).stored.contains other =
      world.stored.contains other := by
    unfold World.operated
    dsimp only
    split
    · simp [hother]
    · rfl
  simp only [World.part, hrow, hstored]
  rfl

/-- The part of the key that an operation names. -/
theorem part_operated (hkey : op.identity.clientRequestId = key) :
    (world.operated answers authority op).part key =
      (world.part key).edit (orderTable.lookup (op.run answers authority world.file).2 key) := by
  subst hkey
  unfold World.operated World.part KeyState.edit World.row
  dsimp only
  split
  · rename_i hsome
    simp [hsome]
  · rename_i hnone
    simp [hnone]

theorem part_send_other (hother : other ≠ creation.key) :
    World.part other { world with sent := creation :: world.sent } = world.part other := by
  simp [World.part, World.row, hother.symm]

theorem part_send :
    World.part creation.key { world with sent := creation :: world.sent } =
      (world.part creation.key).send creation := by
  simp [World.part, World.row, KeyState.send]

theorem part_returns_other (hother : other ≠ key) :
    World.part other (world.returns key (.ok detail)) = world.part other := by
  simp [World.part, World.row, World.returns, hother.symm]

theorem part_returns :
    World.part key (world.returns key (.ok detail)) = (world.part key).gain detail := by
  simp [World.part, World.row, World.returns, KeyState.gain]

theorem part_refuse_other (hother : other ≠ key) :
    World.part other (world.refuse first key refresh error) = world.part other := by
  unfold World.refuse
  split
  · simp [World.part, World.row, hother.symm]
  · rfl

/-- A refusal is noted with the order id of the row. -/
theorem part_refuse :
    World.part key (world.refuse first key refresh error) =
      if first && !paymentErrorPreservesOrderRecovery error then
        (world.part key).refuse ⟨key, (((world.part key).row).map (·.orderId)).getD "", refresh⟩
      else world.part key := by
  unfold World.refuse
  split
  · simp [World.part, World.row, KeyState.refuse, core, Function.comp_def]
  · rfl

end Parts

end ArtForgeStudio.Payment
