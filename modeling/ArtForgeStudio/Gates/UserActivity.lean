import ArtForgeStudio.Gates.UpgradeLatch

/-! # The user activity gate

A permit stands for work under the lease that the gate is bound to. Quiescing registers, waits
until the permits are dropped, and ends in an exclusive right to retire the lease. Each lock
of the gate is one event, and threads take it in any order.
-/

namespace ArtForgeStudio.Gates

open ArtForgeStudio.Runs

structure ActivityState (L : Type) where
  lease : Option L := none
  count : Nat := 0
  quiescing : Bool := false
  closed : Bool := false

namespace ActivityState

variable {L : Type} [DecidableEq L] (state : ActivityState L) (lease : L)

/-- The gate can be bound to a lease. -/
def unbound : Bool := !state.closed && state.lease.isNone && state.count = 0 && !state.quiescing

def prepareActivation : Except String Unit :=
  if state.unbound then .ok () else .error "activity cannot be prepared"

/-- `PreparedUserActivity::publish` -/
def publish : ActivityState L := if state.closed then state else { state with lease := some lease }

def activate : Except String Unit × ActivityState L :=
  if state.unbound then (.ok (), { state with lease := some lease })
  else (.error "activity already bound", state)

def beginRecoveryUnit : Except String Unit × ActivityState L :=
  if !state.closed && !state.quiescing && state.lease = some lease then
    if state.count < usizeMax then (.ok (), { state with count := state.count + 1 })
    else (.error "activity counter exhausted", { state with closed := true })
  else (.error "user activity is closed or stale", state)

/-- The drop of a permit; the subtraction saturates at zero. -/
def dropPermit : ActivityState L :=
  if state.lease = some lease then { state with count := state.count - 1 } else state

def tryQuiesce : Except String Unit × ActivityState L :=
  if !state.closed && !state.quiescing && state.count = 0 && state.lease = some lease then
    (.ok (), { state with quiescing := true })
  else (.error "当前账号有任务正在处理，请完成后重试", state)

/-- `begin_quiesce` up to its wait. -/
def registerQuiesce : Except String Unit × ActivityState L :=
  if !state.closed && !state.quiescing && state.lease = some lease then
    (.ok (), { state with quiescing := true })
  else (.error "cannot quiesce stale activity", state)

/-- `QuiescedUserActivity::retire` -/
def retire : ActivityState L :=
  if state.lease = some lease then { state with lease := none, quiescing := false } else state

/-- The drop of a `QuiescedUserActivity` that was not retired. -/
def dropQuiesced : ActivityState L :=
  if !state.closed && state.lease = some lease then { state with quiescing := false } else state

end ActivityState

/-- The gate, what is live beside it, and the histories that no thread reads. -/
structure ActivitySystem (L : Type) where
  gate : ActivityState L := {}
  /-- the leases of the live permits -/
  permits : List L := []
  prepared : Option L := none
  /-- the calls of `begin_quiesce` that wait -/
  waiters : List L := []
  quiesced : List L := []
  /-- every lease the gate was bound to -/
  used : List L := []
  retired : List L := []
  issued : List L := []
  /-- A decrement met a counter at zero. -/
  saturated : Bool := false

inductive ActivityEvent (L : Type) where
  | activate (lease : L)
  | prepare (lease : L)
  | publish
  | dropPrepared
  | begin (lease : L)
  | dropPermit (lease : L)
  | tryQuiesce (lease : L)
  | beginQuiesce (lease : L)
  /-- A waiting call looks at the counter. -/
  | wake (index : Nat)
  | retire (lease : L)
  | dropQuiesced (lease : L)

namespace ActivitySystem

variable {L : Type} [DecidableEq L]

/-- An activation starts with a fresh lease and while no other one is prepared. -/
def mayActivate (system : ActivitySystem L) (lease : L) : Bool :=
  system.prepared.isNone && !system.used.contains lease

/-- An event whose permit, call or condition is not there changes nothing. -/
def step (event : ActivityEvent L) (system : ActivitySystem L) : ActivitySystem L :=
  match event with
  | .activate lease =>
    if system.mayActivate lease then
      match system.gate.activate lease with
      | (.ok (), gate) => { system with gate := gate, used := lease :: system.used }
      | (.error _, gate) => { system with gate := gate }
    else system
  | .prepare lease =>
    if system.mayActivate lease then
      match system.gate.prepareActivation with
      | .ok () => { system with prepared := some lease }
      | .error _ => system
    else system
  | .publish =>
    match system.prepared with
    | some lease => { system with gate := system.gate.publish lease, prepared := none,
                                  used := lease :: system.used }
    | none => system
  | .dropPrepared => { system with prepared := none }
  | .begin lease =>
    match system.gate.beginRecoveryUnit lease with
    | (.ok (), gate) => { system with gate := gate, permits := lease :: system.permits,
                                      issued := lease :: system.issued }
    | (.error _, gate) => { system with gate := gate }
  | .dropPermit lease =>
    if system.permits.contains lease then
      { system with gate := system.gate.dropPermit lease, permits := system.permits.erase lease,
                    saturated := system.saturated ||
                      (system.gate.lease = some lease && system.gate.count = 0) }
    else system
  | .tryQuiesce lease =>
    match system.gate.tryQuiesce lease with
    | (.ok (), gate) => { system with gate := gate, quiesced := lease :: system.quiesced }
    | (.error _, gate) => { system with gate := gate }
  | .beginQuiesce lease =>
    match system.gate.registerQuiesce lease with
    | (.ok (), gate) => { system with gate := gate, waiters := lease :: system.waiters }
    | (.error _, gate) => { system with gate := gate }
  | .wake index =>
    match system.waiters[index]? with
    | some lease =>
      if system.gate.count = 0 then
        { system with waiters := system.waiters.eraseIdx index,
                      quiesced := lease :: system.quiesced }
      else system
    | none => system
  | .retire lease =>
    if system.quiesced.contains lease then
      { system with gate := system.gate.retire lease, quiesced := system.quiesced.erase lease,
                    retired := lease :: system.retired }
    else system
  | .dropQuiesced lease =>
    if system.quiesced.contains lease then
      { system with gate := system.gate.dropQuiesced lease,
                    quiesced := system.quiesced.erase lease }
    else system

abbrev runEvents (events : List (ActivityEvent L)) : ActivitySystem L := run step events {}

/-- A thread that wakes without a waiting call finds nothing to do. -/
example : (step (.wake 0) ({} : ActivitySystem Nat)).quiesced = [] := by simp [step]

/-- The quiesces that registered and were neither retired nor dropped. -/
def registered (system : ActivitySystem L) : List L := system.waiters ++ system.quiesced

structure Inv (system : ActivitySystem L) : Prop where
  counted : system.gate.count = system.permits.length
  exact : system.saturated = false
  bound : ∀ lease ∈ system.permits, system.gate.lease = some lease
  registered : system.registered.length = system.gate.quiescing.toNat
  holds : ∀ lease ∈ system.registered,
    system.gate.lease = some lease ∧ system.gate.closed = false
  quiet : system.quiesced ≠ [] → system.permits = []
  prepared : ∀ lease, system.prepared = some lease →
    system.gate.lease = none ∧ lease ∉ system.used
  used : ∀ lease, system.gate.lease = some lease → lease ∈ system.used
  retired : ∀ lease ∈ system.retired, lease ∈ system.used ∧ system.gate.lease ≠ some lease

/-- What the histories keep: a retired lease gets no permit. -/
structure Moves (before after : ActivitySystem L) : Prop where
  retired : ∀ lease ∈ before.retired, lease ∈ after.retired ∧
    after.issued.count lease = before.issued.count lease

theorem Moves.refl (system : ActivitySystem L) : Moves system system := ⟨fun _ h => ⟨h, rfl⟩⟩

theorem Moves.trans {a b c : ActivitySystem L} (h : Moves a b) (h' : Moves b c) : Moves a c := by
  refine ⟨fun lease hmem => ?_⟩
  obtain ⟨hmid, hcount⟩ := h.retired lease hmem
  obtain ⟨hlast, hcount'⟩ := h'.retired lease hmid
  exact ⟨hlast, hcount'.trans hcount⟩

/-- A step that issues nothing moves so when it forgets no retired lease. -/
theorem Moves.of_issued {a b : ActivitySystem L} (hissued : b.issued = a.issued)
    (hretired : ∀ lease ∈ a.retired, lease ∈ b.retired) : Moves a b :=
  ⟨fun lease h => ⟨hretired lease h, by rw [hissued]⟩⟩

section Steps

variable {system : ActivitySystem L} {lease : L}

omit [DecidableEq L] in
/-- An unbound gate has no permits and no quiesce. -/
theorem Inv.of_unbound (h : Inv system) (hnone : system.gate.lease = none) :
    system.permits = [] ∧ system.registered = [] ∧ system.gate.quiescing = false := by
  have hpermits : system.permits = [] := by
    refine List.eq_nil_iff_forall_not_mem.mpr fun lease hmem => ?_
    simpa [hnone] using h.bound lease hmem
  have hregistered : system.registered = [] := by
    refine List.eq_nil_iff_forall_not_mem.mpr fun lease hmem => ?_
    simpa [hnone] using (h.holds lease hmem).1
  refine ⟨hpermits, hregistered, ?_⟩
  have hlength := h.registered
  rw [hregistered] at hlength
  cases hquiescing : system.gate.quiescing
  · rfl
  · simp [hquiescing] at hlength

omit [DecidableEq L] in
theorem Inv.registered_nil (h : Inv system) (hquiescing : system.gate.quiescing = false) :
    system.registered = [] := by
  have hlength := h.registered
  rw [hquiescing] at hlength
  exact List.eq_nil_of_length_eq_zero hlength

omit [DecidableEq L] in
/-- A quiesce that is registered is the only one. -/
theorem Inv.registered_eq (h : Inv system) (hmem : lease ∈ system.registered) :
    system.registered = [lease] ∧ system.gate.quiescing = true := by
  have hlength := h.registered
  have hpos := List.length_pos_of_mem hmem
  cases hquiescing : system.gate.quiescing
  · rw [hquiescing] at hlength
    simp at hlength
    simp [hlength] at hmem
  · rw [hquiescing] at hlength
    obtain ⟨only, honly⟩ := List.length_eq_one_iff.mp hlength
    rw [honly] at hmem ⊢
    simp only [List.mem_singleton] at hmem
    exact ⟨by rw [hmem], rfl⟩

omit [DecidableEq L] in
theorem Inv.quiesced_eq (h : Inv system) (hmem : lease ∈ system.quiesced) :
    system.waiters = [] ∧ system.quiesced = [lease] ∧ system.gate.quiescing = true := by
  obtain ⟨hregistered, hquiescing⟩ := h.registered_eq (List.mem_append_right _ hmem)
  unfold ActivitySystem.registered at hregistered
  obtain ⟨hwaiters, hquiesced⟩ | ⟨hwaiters, hquiesced⟩ := List.append_eq_singleton_iff.mp hregistered
  · exact ⟨hwaiters, hquiesced, hquiescing⟩
  · simp [hquiesced] at hmem

omit [DecidableEq L] in
theorem Inv.waiter_eq (h : Inv system) (hmem : lease ∈ system.waiters) :
    system.waiters = [lease] ∧ system.quiesced = [] := by
  obtain ⟨hregistered, -⟩ := h.registered_eq (List.mem_append_left _ hmem)
  unfold ActivitySystem.registered at hregistered
  obtain ⟨hwaiters, hquiesced⟩ | ⟨hwaiters, hquiesced⟩ := List.append_eq_singleton_iff.mp hregistered
  · simp [hwaiters] at hmem
  · exact ⟨hwaiters, hquiesced⟩

omit [DecidableEq L] in
/-- An unbound gate that nobody prepared may be bound to a fresh lease. -/
theorem Inv.bind (h : Inv system) (hnone : system.gate.lease = none)
    (hfresh : lease ∉ system.used) :
    Inv { system with gate := { system.gate with lease := some lease }, prepared := none,
                      used := lease :: system.used } := by
  obtain ⟨hpermits, hregistered, -⟩ := h.of_unbound hnone
  refine ⟨h.counted, h.exact, ?_, h.registered, ?_, h.quiet, nofun, ?_, ?_⟩
  · simp [hpermits]
  · intro other hother
    have hmem : other ∈ system.registered := hother
    simp [hregistered] at hmem
  · rintro other ⟨⟩
    exact List.mem_cons_self
  · intro other hother
    refine ⟨List.mem_cons_of_mem _ (h.retired other hother).1, ?_⟩
    rintro ⟨⟩
    exact hfresh (h.retired _ hother).1

omit [DecidableEq L] in
theorem unbound_iff {gate : ActivityState L} : gate.unbound = true ↔
    gate.closed = false ∧ gate.lease = none ∧ gate.count = 0 ∧ gate.quiescing = false := by
  simp [ActivityState.unbound, and_assoc]

theorem mayActivate_iff : system.mayActivate lease = true ↔
    system.prepared = none ∧ lease ∉ system.used := by
  simp [mayActivate]

theorem Inv.activate (h : Inv system) : Inv (step (.activate lease) system) := by
  simp only [step]
  split
  · obtain ⟨hprepared, hfresh⟩ := mayActivate_iff.mp ‹_›
    unfold ActivityState.activate
    by_cases hunbound : system.gate.unbound = true
    · simp only [hunbound, if_true]
      have hbound := h.bind (unbound_iff.mp hunbound).2.1 hfresh
      rwa [← hprepared] at hbound
    · simp only [hunbound]
      exact h
  · exact h

theorem Inv.prepare (h : Inv system) : Inv (step (.prepare lease) system) := by
  simp only [step]
  split
  · obtain ⟨hprepared, hfresh⟩ := mayActivate_iff.mp ‹_›
    unfold ActivityState.prepareActivation
    by_cases hunbound : system.gate.unbound = true
    · simp only [hunbound, if_true]
      refine { h with prepared := ?_ }
      rintro _ ⟨⟩
      exact ⟨(unbound_iff.mp hunbound).2.1, hfresh⟩
    · simp only [hunbound]
      exact h
  · exact h

theorem Inv.publish (h : Inv system) : Inv (step .publish system) := by
  simp only [step]
  split
  · rename_i lease hprepared
    obtain ⟨hnone, hfresh⟩ := h.prepared lease hprepared
    unfold ActivityState.publish
    split
    · refine { h with prepared := nofun, used := fun other hother => ?_, retired := ?_ }
      · exact List.mem_cons_of_mem _ (h.used other hother)
      · intro other hother
        exact ⟨List.mem_cons_of_mem _ (h.retired other hother).1, (h.retired other hother).2⟩
    · exact h.bind hnone hfresh
  · exact h

theorem Inv.begin (h : Inv system) :
    Inv (step (.begin lease) system) ∧ Moves system (step (.begin lease) system) := by
  simp only [step, ActivityState.beginRecoveryUnit]
  by_cases hopen : (!system.gate.closed && !system.gate.quiescing &&
      decide (system.gate.lease = some lease)) = true
  · obtain ⟨⟨hclosed, hquiescing⟩, hlease⟩ : (system.gate.closed = false ∧
        system.gate.quiescing = false) ∧ system.gate.lease = some lease := by simpa using hopen
    have hidle : system.waiters = [] ∧ system.quiesced = [] :=
      List.append_eq_nil_iff.mp (h.registered_nil hquiescing)
    simp only [hopen, if_true]
    by_cases hcount : system.gate.count < usizeMax
    · simp only [if_pos hcount]
      refine ⟨{ h with counted := ?_, bound := ?_, quiet := ?_ }, ⟨fun other hother => ⟨hother, ?_⟩⟩⟩
      · simp [h.counted]
      · intro other hother
        rcases List.mem_cons.mp hother with rfl | hold
        · exact hlease
        · exact h.bound other hold
      · simp [hidle.2]
      · refine List.count_cons_of_ne ?_
        rintro rfl
        exact (h.retired _ hother).2 hlease
    · simp only [if_neg hcount]
      refine ⟨{ h with holds := fun other hother => ?_ }, .of_issued rfl fun _ => id⟩
      have hmem : other ∈ system.registered := hother
      simp [ActivitySystem.registered, hidle] at hmem
  · simp only [hopen]
    exact ⟨h, .refl system⟩

/-- A live permit is counted, so the decrement is exact. -/
theorem Inv.dropPermit (h : Inv system) : Inv (step (.dropPermit lease) system) := by
  simp only [step]
  split
  · have hlive : lease ∈ system.permits := List.contains_iff_mem.mp ‹_›
    have hlease := h.bound lease hlive
    have hpos : system.gate.count ≠ 0 := by
      rw [h.counted]
      exact Nat.pos_iff_ne_zero.mp (List.length_pos_of_mem hlive)
    have hdrop : system.gate.dropPermit lease =
        { system.gate with count := system.gate.count - 1 } := if_pos hlease
    rw [hdrop]
    refine { h with counted := ?_, exact := ?_, bound := ?_, quiet := ?_ }
    · simp [h.counted, List.length_erase_of_mem hlive]
    · simp [h.exact, hpos]
    · exact fun other hother => h.bound other (List.mem_of_mem_erase hother)
    · intro hne
      simp [h.quiet hne]
  · exact h

theorem Inv.tryQuiesce (h : Inv system) : Inv (step (.tryQuiesce lease) system) := by
  simp only [step, ActivityState.tryQuiesce]
  by_cases hfree : (!system.gate.closed && !system.gate.quiescing &&
      decide (system.gate.count = 0) && decide (system.gate.lease = some lease)) = true
  · obtain ⟨⟨⟨hclosed, hquiescing⟩, hcount⟩, hlease⟩ : ((system.gate.closed = false ∧
        system.gate.quiescing = false) ∧ system.gate.count = 0) ∧
        system.gate.lease = some lease := by simpa using hfree
    have hidle : system.waiters = [] ∧ system.quiesced = [] :=
      List.append_eq_nil_iff.mp (h.registered_nil hquiescing)
    simp only [hfree, if_true]
    refine { h with registered := ?_, holds := ?_, quiet := fun _ => ?_ }
    · simp [ActivitySystem.registered, hidle]
    · simp [ActivitySystem.registered, hidle, hlease, hclosed]
    · exact List.eq_nil_of_length_eq_zero (h.counted ▸ hcount)
  · simp only [hfree]
    exact h

theorem Inv.beginQuiesce (h : Inv system) : Inv (step (.beginQuiesce lease) system) := by
  simp only [step, ActivityState.registerQuiesce]
  by_cases hfree : (!system.gate.closed && !system.gate.quiescing &&
      decide (system.gate.lease = some lease)) = true
  · obtain ⟨⟨hclosed, hquiescing⟩, hlease⟩ : (system.gate.closed = false ∧
        system.gate.quiescing = false) ∧ system.gate.lease = some lease := by simpa using hfree
    have hidle : system.waiters = [] ∧ system.quiesced = [] :=
      List.append_eq_nil_iff.mp (h.registered_nil hquiescing)
    simp only [hfree, if_true]
    refine { h with registered := ?_, holds := ?_ }
    · simp [ActivitySystem.registered, hidle]
    · simp [ActivitySystem.registered, hidle, hlease, hclosed]
  · simp only [hfree]
    exact h

/-- The waiting call holds the gate once the permits are gone. -/
theorem Inv.wake (h : Inv system) (index : Nat) : Inv (step (.wake index) system) := by
  simp only [step]
  split
  · rename_i lease hget
    obtain ⟨hwaiters, hquiesced⟩ := h.waiter_eq (List.mem_of_getElem? hget)
    split
    · rename_i hcount
      have hindex : index = 0 := by
        rw [hwaiters] at hget
        cases index with
        | zero => rfl
        | succ index => simp at hget
      have hsame : ∀ (after : ActivitySystem L), after.waiters = [] → after.quiesced = [lease] →
          after.registered = system.registered := by
        intro after hnone hone
        simp [ActivitySystem.registered, hnone, hone, hwaiters, hquiesced]
      refine { h with registered := ?_, holds := ?_, quiet := fun _ => ?_ }
      · rw [hsame _ (by simp [hwaiters, hindex]) (by simp [hquiesced])]
        exact h.registered
      · rw [hsame _ (by simp [hwaiters, hindex]) (by simp [hquiesced])]
        exact h.holds
      · exact List.eq_nil_of_length_eq_zero (h.counted ▸ hcount)
    · exact h
  · exact h

theorem Inv.retire (h : Inv system) : Inv (step (.retire lease) system) := by
  simp only [step]
  split
  · have hmem : lease ∈ system.quiesced := List.contains_iff_mem.mp ‹_›
    obtain ⟨hwaiters, hquiesced, -⟩ := h.quiesced_eq hmem
    obtain ⟨hlease, -⟩ := h.holds lease (List.mem_append_right _ hmem)
    have hpermits := h.quiet (List.ne_nil_of_mem hmem)
    have hretire : system.gate.retire lease =
        { system.gate with lease := none, quiescing := false } := if_pos hlease
    rw [hretire]
    refine { h with bound := ?_, registered := ?_, holds := ?_, quiet := fun _ => hpermits,
                    prepared := ?_, used := nofun, retired := ?_ }
    · simp [hpermits]
    · simp [ActivitySystem.registered, hwaiters, hquiesced]
    · simp [ActivitySystem.registered, hwaiters, hquiesced]
    · intro other hother
      simpa [hlease] using h.prepared other hother
    · intro other hother
      refine ⟨?_, nofun⟩
      rcases List.mem_cons.mp hother with rfl | hold
      · exact h.used _ hlease
      · exact (h.retired other hold).1
  · exact h

theorem Inv.dropQuiesced (h : Inv system) : Inv (step (.dropQuiesced lease) system) := by
  simp only [step]
  split
  · have hmem : lease ∈ system.quiesced := List.contains_iff_mem.mp ‹_›
    obtain ⟨hwaiters, hquiesced, -⟩ := h.quiesced_eq hmem
    obtain ⟨hlease, hclosed⟩ := h.holds lease (List.mem_append_right _ hmem)
    have hpermits := h.quiet (List.ne_nil_of_mem hmem)
    have hdrop : system.gate.dropQuiesced lease = { system.gate with quiescing := false } := by
      simp [ActivityState.dropQuiesced, hlease, hclosed]
    rw [hdrop]
    refine { h with registered := ?_, holds := ?_, quiet := fun _ => hpermits }
    · simp [ActivitySystem.registered, hwaiters, hquiesced]
    · simp [ActivitySystem.registered, hwaiters, hquiesced]
  · exact h

/-- Only an admission issues a permit, and no event forgets a retired lease. -/
theorem step_histories (event : ActivityEvent L) :
    ((∀ lease, event ≠ .begin lease) → (step event system).issued = system.issued) ∧
      ∀ lease ∈ system.retired, lease ∈ (step event system).retired := by
  cases event with
  | begin lease =>
    refine ⟨fun hne => absurd rfl (hne lease), ?_⟩
    simp only [step]
    split <;> exact fun _ => id
  | activate lease | prepare lease =>
    simp only [step]
    split
    · split <;> exact ⟨fun _ => rfl, fun _ => id⟩
    · exact ⟨fun _ => rfl, fun _ => id⟩
  | publish | dropPermit lease | tryQuiesce lease | beginQuiesce lease | dropQuiesced lease =>
    simp only [step]
    split <;> exact ⟨fun _ => rfl, fun _ => id⟩
  | dropPrepared => exact ⟨fun _ => rfl, fun _ => id⟩
  | wake index =>
    simp only [step]
    split
    · split <;> exact ⟨fun _ => rfl, fun _ => id⟩
    · exact ⟨fun _ => rfl, fun _ => id⟩
  | retire lease =>
    simp only [step]
    split
    · exact ⟨fun _ => rfl, fun _ => List.mem_cons_of_mem _⟩
    · exact ⟨fun _ => rfl, fun _ => id⟩

theorem Inv.step (event : ActivityEvent L) (h : Inv system) :
    Inv (step event system) ∧ Moves system (step event system) := by
  have hmoves : (∀ lease, event ≠ .begin lease) → Moves system (ActivitySystem.step event system) :=
    fun hne => .of_issued ((step_histories event).1 hne) (step_histories event).2
  cases event with
  | begin lease => exact h.begin
  | activate lease => exact ⟨h.activate, hmoves nofun⟩
  | prepare lease => exact ⟨h.prepare, hmoves nofun⟩
  | publish => exact ⟨h.publish, hmoves nofun⟩
  | dropPrepared => exact ⟨{ h with prepared := nofun }, hmoves nofun⟩
  | dropPermit lease => exact ⟨h.dropPermit, hmoves nofun⟩
  | tryQuiesce lease => exact ⟨h.tryQuiesce, hmoves nofun⟩
  | beginQuiesce lease => exact ⟨h.beginQuiesce, hmoves nofun⟩
  | wake index => exact ⟨h.wake index, hmoves nofun⟩
  | retire lease => exact ⟨h.retire, hmoves nofun⟩
  | dropQuiesced lease => exact ⟨h.dropQuiesced, hmoves nofun⟩

/-- A registered quiesce keeps permits from being issued. -/
theorem Inv.not_issued (h : Inv system) (hregistered : system.registered ≠ [])
    (event : ActivityEvent L) : (ActivitySystem.step event system).issued = system.issued := by
  obtain ⟨lease, hmem⟩ := List.exists_mem_of_ne_nil _ hregistered
  obtain ⟨-, hquiescing⟩ := h.registered_eq hmem
  by_cases hbegin : ∃ lease, event = .begin lease
  · obtain ⟨lease, rfl⟩ := hbegin
    simp [ActivitySystem.step, ActivityState.beginRecoveryUnit, hquiescing]
  · exact (step_histories event).1 fun lease heq => hbegin ⟨lease, heq⟩

/-- A quiesce that is dropped admits work of its lease again. -/
theorem Inv.readmits (h : Inv system) (hmem : lease ∈ system.quiesced) :
    ((ActivitySystem.step (.dropQuiesced lease) system).gate.beginRecoveryUnit lease).1 = .ok () := by
  obtain ⟨hlease, hclosed⟩ := h.holds lease (List.mem_append_right _ hmem)
  have hcount : system.gate.count = 0 := by
    rw [h.counted, h.quiet (List.ne_nil_of_mem hmem)]
    rfl
  simp [ActivitySystem.step, hmem, ActivityState.dropQuiesced, ActivityState.beginRecoveryUnit,
    hlease, hclosed, hcount, usizeMax]

end Steps

omit [DecidableEq L] in
theorem inv_start : Inv ({} : ActivitySystem L) where
  counted := rfl
  exact := rfl
  bound := nofun
  registered := rfl
  holds := nofun
  quiet := fun hne => absurd rfl hne
  prepared := nofun
  used := nofun
  retired := nofun

theorem inv_run (events : List (ActivityEvent L)) : Inv (runEvents events) :=
  (run_related Moves.refl (fun _ _ _ => .trans) (fun event _ h => h.step event) inv_start).1

theorem moves_run (before rest : List (ActivityEvent L)) :
    Moves (runEvents before) (runEvents (before ++ rest)) := by
  rw [runEvents, runEvents, run_append]
  exact (run_related Moves.refl (fun _ _ _ => .trans) (fun event _ h => h.step event)
    (inv_run before)).2

end ActivitySystem

open ActivitySystem

/-- The counter is the number of live permits, all of the lease of the gate. A quiesce that is
registered is the only one and stops admission; it holds the gate without work, gives it back
when it is dropped, and a lease that it retires has no work ever after. -/
theorem user_activity_exclusive {L : Type} [DecidableEq L] (before rest : List (ActivityEvent L)) :
    let system := runEvents before
    let later := runEvents (before ++ rest)
    (system.gate.count = system.permits.length ∧ system.saturated = false) ∧
    (∀ lease ∈ system.permits, system.gate.lease = some lease) ∧
    (system.registered ≠ [] → ∀ event, (step event system).issued = system.issued) ∧
    (system.quiesced ≠ [] → system.gate.count = 0 ∧ system.registered.length = 1) ∧
    (∀ lease ∈ system.quiesced,
      ((step (.dropQuiesced lease) system).gate.beginRecoveryUnit lease).1 = .ok ()) ∧
    ∀ lease ∈ system.retired, later.issued.count lease = system.issued.count lease ∧
      lease ∉ later.permits := by
  intro system later
  have hinv : Inv system := inv_run before
  have hlater : Inv later := inv_run (before ++ rest)
  have hmoves : Moves system later := moves_run before rest
  refine ⟨⟨hinv.counted, hinv.exact⟩, hinv.bound, fun hne event => hinv.not_issued hne event,
    fun hne => ⟨?_, ?_⟩, fun lease hmem => hinv.readmits hmem, fun lease hretired => ?_⟩
  · rw [hinv.counted, hinv.quiet hne]
    rfl
  · obtain ⟨lease, hmem⟩ := List.exists_mem_of_ne_nil _ hne
    rw [(hinv.registered_eq (List.mem_append_right _ hmem)).1]
    rfl
  · obtain ⟨hkept, hcount⟩ := hmoves.retired lease hretired
    exact ⟨hcount, fun hlive => (hlater.retired lease hkept).2 (hlater.bound lease hlive)⟩

end ArtForgeStudio.Gates
