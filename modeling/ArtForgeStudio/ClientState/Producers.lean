import ArtForgeStudio.ClientState.Invariant

/-! # What producers do

A producer's step keeps the invariant, and what the worker relies on: `Produced`.
-/

namespace ArtForgeStudio.ClientState

open ArtForgeStudio.Session

/-- What the worker relies on: producers only send commands, and while a retirement is reserved
they leave the private side as it is. -/
structure Produced (before after : World) : Prop where
  received : after.received = before.received
  taken : after.taken = before.taken
  last : after.last = before.last
  written : after.written = before.written
  acknowledged : after.acknowledged = before.acknowledged
  sequence : before.pending.sequence ≤ after.pending.sequence
  activated : before.activated <:+ after.activated
  retirement : ∀ generation ≤ before.pending.sequence, after.pending.retirement = some generation →
    before.pending.retirement = some generation ∧ after.pending.active = before.pending.active ∧
      (∀ slot, slot.isPrivate = true → after.pending.slots slot = before.pending.slots slot) ∧
      after.accepted.filter (·.slot.isPrivate) = before.accepted.filter (·.slot.isPrivate) ∧
      ∀ queued ∈ after.queue, ∀ write, queued.slotWrite = some write →
        write.slot.isPrivate = true → queued ∈ before.queue

namespace Produced

variable {world first second third : World} {write : SlotWrite} {queued : QueuedWrite}

theorem refl (world : World) : Produced world world where
  received := rfl
  taken := rfl
  last := rfl
  written := rfl
  acknowledged := rfl
  sequence := Nat.le_refl _
  activated := List.suffix_refl _
  retirement _ _ h := ⟨h, rfl, fun _ _ => rfl, rfl, fun _ h _ _ _ => h⟩

theorem trans (h : Produced first second) (h' : Produced second third) : Produced first third where
  received := h'.received.trans h.received
  taken := h'.taken.trans h.taken
  last := h'.last.trans h.last
  written := h'.written.trans h.written
  acknowledged := h'.acknowledged.trans h.acknowledged
  sequence := h.sequence.trans h'.sequence
  activated := h.activated.trans h'.activated
  retirement generation hle hgeneration := by
    obtain ⟨hmid, hactive', hslots', haccepted', hqueue'⟩ :=
      h'.retirement generation (hle.trans h.sequence) hgeneration
    obtain ⟨hfirst, hactive, hslots, haccepted, hqueue⟩ := h.retirement generation hle hmid
    exact ⟨hfirst, hactive'.trans hactive,
      fun slot hprivate => (hslots' slot hprivate).trans (hslots slot hprivate),
      haccepted'.trans haccepted, fun queued hmem write hwrite hprivate =>
        hqueue queued (hqueue' queued hmem write hwrite hprivate) write hwrite hprivate⟩

/-- Nothing is promised once no retirement is reserved. -/
theorem of_free (h : Produced first second) {pending : PendingClientState}
    {activated : List (NamespaceLease × Nat)}
    (hsequence : pending.sequence = second.pending.sequence) (hnone : pending.retirement = none)
    (hactivated : second.activated <:+ activated) :
    Produced first { second with pending, activated } :=
  { h with
    sequence := hsequence ▸ h.sequence
    activated := h.activated.trans hactivated
    retirement := fun _ _ hsome => absurd (hsome.symm.trans hnone) nofun }

theorem advance {sequence : Nat} (hle : world.pending.sequence ≤ sequence) :
    Produced world { world with pending := { world.pending with sequence } } :=
  { refl world with sequence := hle }

theorem exhaust :
    Produced world { world with pending := { world.pending with authorityExhausted := true } } :=
  { refl world with }

theorem filter_accept (hwrite : write.slot.isPrivate = false) :
    (write :: world.accepted).filter (·.slot.isPrivate) =
      world.accepted.filter (·.slot.isPrivate) :=
  List.filter_cons_of_neg (by simp [hwrite])

theorem fill {slot : Slot} {owner : Option NamespaceLease} {data : Option String} {sequence : Nat}
    (hfree : slot.isPrivate = true → world.pending.retirement = none) :
    Produced world (world.fill slot owner data sequence) := by
  cases data with
  | none => exact refl world
  | some text =>
    exact {
      refl world with
      retirement := by
        intro generation _ hgeneration
        have hnot : slot.isPrivate = false := by
          by_contra hprivate
          exact absurd (hgeneration.symm.trans (hfree (by simpa using hprivate))) nofun
        refine ⟨hgeneration, rfl, fun other hprivate => ?_, filter_accept hnot, fun _ h _ _ _ => h⟩
        have hother : other ≠ slot := by
          rintro rfl
          simp [hnot] at hprivate
        simp [World.fill, hother] }

theorem sent (hfree : ∀ write, queued.slotWrite = some write → write.slot.isPrivate = true →
      world.pending.retirement = none) :
    Produced world { world with
      queue := world.queue ++ [queued]
      accepted := queued.slotWrite.toList ++ world.accepted } :=
  { refl world with
    retirement := by
      intro generation _ hgeneration
      have hnot : ∀ write, queued.slotWrite = some write → write.slot.isPrivate = false := by
        intro write hwrite
        by_contra hprivate
        exact absurd (hgeneration.symm.trans (hfree write hwrite (by simpa using hprivate))) nofun
      refine ⟨hgeneration, rfl, fun _ _ => rfl, ?_, fun other hmem write hwrite hprivate => ?_⟩
      · cases hqueued : queued.slotWrite with
        | none => rfl
        | some write => exact filter_accept (hnot write hqueued)
      · obtain hmem | hmem := List.mem_append.mp hmem
        · exact hmem
        · obtain rfl := List.mem_singleton.mp hmem
          simp [hnot write hwrite] at hprivate }

end Produced

namespace World

variable (world : World)

/-- Every way that a sequence is drawn. -/
theorem sequenced_cases {P : World → Prop} {use : Nat → World → WriteResult × World}
    (hsame : P world)
    (hexhausted : P { world with pending := { world.pending with authorityExhausted := true } })
    (huse : ∀ sequence, sequence = world.pending.sequence + 1 →
      P (use sequence { world with pending := { world.pending with sequence } }).2) :
    P (world.sequenced use).2 := by
  unfold World.sequenced PendingClientState.nextSequence checkedAdd1
  by_cases hclosed : world.pending.authorityExhausted = true
  · simpa [hclosed] using hsame
  · by_cases hroom : world.pending.sequence + 1 < 0x10000000000000000
    · simpa [hclosed, hroom] using huse _ rfl
    · simpa [hclosed, hroom] using hexhausted

theorem requireUnreserved_free {pending : PendingClientState}
    (h : pending.requireUnreserved = .ok ()) : pending.retirement = none := by
  unfold PendingClientState.requireUnreserved at h
  split at h
  · cases h
  · split at h
    · cases h
    · simpa using ‹¬pending.retirement.isSome = true›

theorem requireEnqueue_admits {pending : PendingClientState} {lease : NamespaceLease}
    (h : pending.requireEnqueue lease = .ok ()) :
    pending.active = some lease ∧ pending.retirement = none := by
  unfold PendingClientState.requireEnqueue PendingClientState.require at h
  by_cases hactive : pending.active = some lease
  · exact ⟨hactive, requireUnreserved_free (by simpa [hactive, both] using h)⟩
  · simp [hactive, both] at h

end World

/-- A producer's step that keeps the invariant. -/
structure Follows (before after : World) : Prop where
  produced : Produced before after
  inv : Inv after

namespace Follows

open World

variable {world next : World} {lease : NamespaceLease} {sequence : Nat} {sent : Bool}
  {write : CheckedWrite} {carried : SlotWrite}

theorem slotWrite_sequence (h : write.slotWrite sequence = some carried) :
    carried.entry.sequence = sequence := by
  cases write <;> simp [CheckedWrite.slotWrite] at h <;> subst h <;> rfl

theorem slotWrite_owner (h : write.slotWrite sequence = some carried) :
    carried.entry.lease = write.owner := by
  cases write <;> simp [CheckedWrite.slotWrite] at h <;> subst h <;> rfl

theorem slotWrite_private (h : write.slotWrite sequence = some carried)
    (hprivate : carried.slot.isPrivate = true) : ∃ lease, write.owner = some lease := by
  cases write <;> simp [CheckedWrite.slotWrite] at h <;> subst h <;>
    first | exact ⟨_, rfl⟩ | cases hprivate

theorem drawn (h : Inv world) (hsequence : sequence = world.pending.sequence + 1) :
    Drawn sequence { world with pending := { world.pending with sequence } } where
  drawn := rfl
  positive := by omega
  commands queued hmem := by have := h.numbered queued hmem; omega
  activated start hmem := by have := h.history.started start hmem; omega

theorem newest (h : Inv world) (hsequence : sequence = world.pending.sequence + 1) :
    Newest sequence { world with pending := { world.pending with sequence } } where
  accepted write hmem := by have := h.history.dated write hmem; omega
  acknowledged note hmem := by have := h.answered note hmem; omega
  reservations reservation hmem := by have := h.pledged reservation hmem; omega

/-- A step that draws a sequence. -/
theorem sequenced (h : Inv world) {use : Nat → World → WriteResult × World}
    (huse : ∀ sequence next,
      next = { world with pending := { world.pending with sequence } } → Inv next →
      Drawn sequence next → Newest sequence next →
      Follows next (use sequence next).2) : Follows world (world.sequenced use).2 := by
  refine world.sequenced_cases ⟨.refl world, h⟩ ⟨.exhaust, h.exhaust⟩ fun sequence hsequence => ?_
  have hle : world.pending.sequence ≤ sequence := by omega
  have hnext := huse sequence _ rfl (h.advance hle) (drawn h hsequence) (newest h hsequence)
  exact ⟨(Produced.advance hle).trans hnext.produced, hnext.inv⟩

theorem send {queued : QueuedWrite} (h : Inv world) (hdrawn : Drawn queued.sequence world)
    (hplain : queued.slotWrite = none) : Follows world (world.send queued sent).2 := by
  unfold World.send
  split
  · have hinv := @Inv.sent _ queued h hdrawn (by simp [hplain])
    have hproduced := @Produced.sent world queued (by simp [hplain])
    rw [hplain] at hinv hproduced
    exact ⟨hproduced, hinv⟩
  · exact ⟨{ Produced.refl world with }, h.failSend⟩

/-- A wake is sent if there is none, and its flag is set after that. -/
theorem wakePrivate (h : Inv world) (hdrawn : Drawn sequence world)
    (hactive : world.pending.active = some lease) :
    Follows world (world.wakePrivate lease sequence sent).2 := by
  unfold World.wakePrivate
  split
  · exact ⟨.refl world, h⟩
  · have hsend : Follows world (world.send ⟨sequence, .wake lease⟩ sent).2 := send h hdrawn rfl
    cases sent with
    | false => exact hsend
    | true =>
      have hmem : ⟨sequence, .wake lease⟩ ∈ (world.send ⟨sequence, .wake lease⟩ true).2.commands := by
        simp [World.send, World.commands]
      exact ⟨{ hsend.produced with }, hsend.inv.flagPrivate hactive hmem rfl⟩

theorem wakeDevice (h : Inv world) (hdrawn : Drawn sequence world) :
    Follows world (world.wakeDevice sequence sent).2 := by
  unfold World.wakeDevice
  split
  · exact ⟨.refl world, h⟩
  · have hsend : Follows world (world.send ⟨sequence, .wakeDevice⟩ sent).2 := send h hdrawn rfl
    cases sent with
    | false => exact hsend
    | true =>
      have hmem : ⟨sequence, .wakeDevice⟩ ∈ (world.send ⟨sequence, .wakeDevice⟩ true).2.commands := by
        simp [World.send, World.commands]
      exact ⟨{ hsend.produced with }, hsend.inv.flagDevice hmem rfl⟩

section Fill

variable {slot : Slot} {owner : Option NamespaceLease} {data : Option String}

theorem fill (h : Inv world)
    (hwrite : ∀ text, data = some text → Admissible ⟨slot, sequence, owner, text⟩ world) :
    Follows world (world.fill slot owner data sequence) := by
  refine ⟨?_, h.fill hwrite⟩
  cases data with
  | none => exact .refl world
  | some text => exact .fill fun hprivate => ((hwrite text rfl).owner hprivate).1

theorem fill_keeps : (world.fill slot owner data sequence).pending.active = world.pending.active ∧
    (world.fill slot owner data sequence).pending.retirement = world.pending.retirement := by
  cases data <;> exact ⟨rfl, rfl⟩

theorem drawn_fill (h : Drawn sequence world) :
    Drawn sequence (world.fill slot owner data sequence) := by
  cases data with
  | none => exact h
  | some text => exact { h with }

/-- Two slots under one sequence. -/
theorem fill_both (slot other : Slot) (owner : Option NamespaceLease) (data data' : Option String)
    (h : Inv world) (hdrawn : Drawn sequence world) (hnew : Newest sequence world) (hne : slot ≠ other)
    (howner : slot.isPrivate = true ∨ other.isPrivate = true → world.pending.retirement = none ∧
      world.pending.active = owner ∧ owner.isSome = true) :
    Follows world
      ((world.fill slot owner data sequence).fill other owner data' sequence) := by
  have hfirst : Follows world (world.fill slot owner data sequence) := fill h fun text _ =>
    { drawn := hdrawn
      new := fun write hmem _ => hnew.accepted write hmem
      owner := fun hprivate => howner (.inl hprivate) }
  refine ⟨hfirst.produced.trans ?_, ?_⟩ <;>
    have hwrite : ∀ text, data' = some text →
        Admissible ⟨other, sequence, owner, text⟩ (world.fill slot owner data sequence) := by
      intro text _
      refine ⟨drawn_fill hdrawn, fun write hmem hslot => ?_, fun hprivate => ?_⟩
      · cases data with
        | none => exact hnew.accepted write hmem
        | some first =>
          obtain rfl | hmem := List.mem_cons.mp hmem
          · exact absurd hslot hne
          · exact hnew.accepted write hmem
      · rw [fill_keeps.1, fill_keeps.2]
        exact howner (.inr hprivate)
  · exact (fill hfirst.inv hwrite).produced
  · exact (fill hfirst.inv hwrite).inv

end Fill

theorem trans {middle : World} (h : Follows world middle) (h' : Follows middle next) :
    Follows world next := ⟨h.produced.trans h'.produced, h'.inv⟩

theorem activate (h : Inv world) : Follows world (world.activate lease).2 := by
  unfold World.activate
  split
  · exact ⟨.refl world, h⟩
  · have hfree := requireUnreserved_free ‹_›
    exact ⟨(Produced.refl world).of_free rfl hfree (List.suffix_cons ..),
      h.switch hfree (some lease)⟩

theorem deactivate (h : Inv world) : Follows world (world.deactivate lease).2 := by
  unfold World.deactivate
  split
  · exact ⟨.refl world, h⟩
  · have hfree := (requireEnqueue_admits ‹_›).2
    exact ⟨(Produced.refl world).of_free rfl hfree (List.suffix_refl _), h.switch hfree none⟩

theorem queuePrivate (h : Inv world) (store profile : Option String) :
    Follows world (world.queuePrivate lease store profile sent).2 := by
  unfold World.queuePrivate
  split
  · exact ⟨.refl world, h⟩
  · obtain ⟨hactive, hfree⟩ := requireEnqueue_admits ‹_›
    refine sequenced h ?_
    rintro sequence next rfl hnext hdrawn hnew
    have hfill := fill_both .store .profile (some lease) store profile hnext hdrawn hnew nofun
      fun _ => ⟨hfree, hactive, rfl⟩
    refine hfill.trans (wakePrivate hfill.inv (drawn_fill (drawn_fill hdrawn)) ?_)
    rw [fill_keeps.1, fill_keeps.1]
    exact hactive

theorem queueDevice (h : Inv world) (settings directory : Option String) :
    Follows world (world.queueDevice settings directory sent).2 := by
  refine sequenced h ?_
  rintro sequence next rfl hnext hdrawn hnew
  have hfill := fill_both .device .exportDirectory none settings directory hnext hdrawn hnew nofun
    nofun
  exact hfill.trans (wakeDevice hfill.inv (drawn_fill (drawn_fill hdrawn)))

theorem checked (h : Inv world) (write : CheckedWrite) :
    Follows world (world.checked write sent).2 := by
  unfold World.checked
  split
  · exact ⟨.refl world, h⟩
  · rename_i hadmitted
    refine sequenced h ?_
    rintro sequence next rfl hnext hdrawn hnew
    cases sent with
    | false => exact ⟨{ Produced.refl _ with }, hnext.failSend⟩
    | true =>
      have howner : ∀ carried, write.slotWrite sequence = some carried →
          carried.slot.isPrivate = true → world.pending.retirement = none ∧
            world.pending.active = carried.entry.lease ∧ carried.entry.lease.isSome = true := by
        intro carried hcarried hprivate
        obtain ⟨lease, howner⟩ := slotWrite_private hcarried hprivate
        rw [howner] at hadmitted
        obtain ⟨hactive, hfree⟩ := requireEnqueue_admits hadmitted
        have hlease := (slotWrite_owner hcarried).trans howner
        exact ⟨hfree, hactive.trans hlease.symm, by simp [hlease]⟩
      have hadmissible : ∀ carried, write.slotWrite sequence = some carried →
          Admissible carried { world with pending := { world.pending with sequence } } := by
        intro carried hcarried
        have hsequence := slotWrite_sequence hcarried
        exact ⟨hsequence ▸ hdrawn, fun other hmem _ => hsequence ▸ hnew.accepted other hmem,
          howner carried hcarried⟩
      exact ⟨@Produced.sent _ ⟨sequence, .checked write⟩ fun carried hcarried hprivate =>
          (howner carried hcarried hprivate).1,
        @Inv.sent _ ⟨sequence, .checked write⟩ hnext hdrawn hadmissible⟩

theorem flushForRetirement (h : Inv world) :
    Follows world (world.flushForRetirement lease sent).2 := by
  unfold World.flushForRetirement
  split
  · exact ⟨.refl world, h⟩
  · obtain ⟨-, hfree⟩ := requireEnqueue_admits ‹_›
    refine world.sequenced_cases ⟨.refl world, h⟩ ⟨.exhaust, h.exhaust⟩
      fun generation hgeneration => ?_
    have hle : world.pending.sequence ≤ generation := by omega
    have hdrawn := drawn h hgeneration
    have hreserve := (h.advance hle).reserve lease hdrawn (newest h hgeneration) hfree
    refine trans ⟨?_, hreserve⟩ (send hreserve { hdrawn with } rfl)
    -- the generation reserved is newer than all that a promise can be about
    exact {
      Produced.refl world with
      sequence := hle
      retirement := fun mine hmine hsome => by
        have : generation = mine := Option.some.inj hsome
        omega }

theorem dropReservation (h : Inv world) {reservation : Reservation}
    (hmem : reservation ∈ world.reservations) :
    Follows world (world.dropReservation reservation) := by
  refine ⟨?_, h.dropReservation hmem⟩
  unfold World.dropReservation
  split
  · exact { Produced.refl world with retirement := nofun }
  · exact { Produced.refl world with }

theorem flushed (h : Inv world) {reservation : Reservation}
    (hmem : reservation ∈ world.reservations) : Follows world (world.flushed reservation) := by
  refine ⟨?_, h.flushed hmem⟩
  unfold World.flushed
  split
  · exact .refl world
  · exact (dropReservation h hmem).produced
  · split
    · exact { Produced.refl world with }
    · exact (dropReservation h hmem).produced

theorem retireFlushed (h : Inv world) {reservation : Reservation}
    (hmem : reservation ∈ world.reservations) :
    Follows world (world.retireFlushed reservation) := by
  refine ⟨?_, h.retireFlushed hmem⟩
  unfold World.retireFlushed
  split
  · exact { Produced.refl world with retirement := nofun }
  · exact { Produced.refl world with }

end Follows

end ArtForgeStudio.ClientState
