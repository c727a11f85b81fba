import ArtForgeStudio.Gates.UpgradeLatch
import Mathlib.Data.List.Nodup

/-! # The namespace operation gate

One operation or one transition is admitted at a time. A transition may retire the active
lease, and may publish a lease that it proved recovered before. Each lock of the gate is one
event, and threads take it in any order.
-/

namespace ArtForgeStudio.Gates

open ArtForgeStudio.Runs

/-- The largest guard id. -/
def u64Max : Nat := 18446744073709551615

structure NamespaceOperationState (L : Type) where
  sequence : Nat := 0
  active : Option L := none
  operation : Option Nat := none
  transition : Option Nat := none
  waiters : Nat := 0
  closed : Bool := false

namespace NamespaceOperationState

variable {L : Type} [DecidableEq L] (state : NamespaceOperationState L)

omit [DecidableEq L] in
/-- `next`, followed by the use of the id. -/
def next (use : Nat → NamespaceOperationState L → NamespaceOperationState L) :
    Except String Nat × NamespaceOperationState L :=
  if state.closed then (.error "namespace admission closed", state)
  else if state.sequence < u64Max then
    let id := state.sequence + 1
    (.ok id, use id { state with sequence := id })
  else (.error "namespace authority exhausted", { state with closed := true })

def beginOperation (lease : L) : Except String Nat × NamespaceOperationState L :=
  if state.active = some lease ∧ state.transition = none ∧ state.waiters = 0 ∧
      state.operation = none then
    state.next fun id state => { state with operation := some id }
  else (.error "namespace operation unavailable", state)

def tryBeginTransition : Except String Nat × NamespaceOperationState L :=
  if state.operation = none ∧ state.transition = none ∧ state.waiters = 0 then
    state.next fun id state => { state with transition := some id }
  else (.error "namespace is busy", state)

/-- `begin_transition` up to its wait. -/
def registerTransition : Except String Unit × NamespaceOperationState L :=
  if state.waiters < usizeMax then (.ok (), { state with waiters := state.waiters + 1 })
  else (.error "namespace waiter count exhausted", { state with closed := true })

/-- `begin_transition` after its wait. -/
def enterTransition : Except String Nat × NamespaceOperationState L :=
  { state with waiters := state.waiters - 1 }.next fun id state =>
    { state with transition := some id }

def validate (id : Nat) (lease : L) : Except String Unit :=
  if !state.closed ∧ state.operation = some id ∧ state.active = some lease then .ok ()
  else .error "namespace operation expired"

def dropOperation (id : Nat) : NamespaceOperationState L :=
  if state.operation = some id then { state with operation := none } else state

def dropTransition (id : Nat) : NamespaceOperationState L :=
  if state.transition = some id then { state with transition := none } else state

/-- The check of `begin_prepublication_recovery`, and of `prepare_publication` on the gate. -/
def unpublished (id : Nat) : Bool := !state.closed && state.transition = some id && state.active.isNone

def publish (lease : L) : NamespaceOperationState L :=
  if state.closed then state else { state with active := some lease }

def retireFlushed (id : Nat) (lease : L) : Except String Unit × NamespaceOperationState L :=
  if !state.closed ∧ state.transition = some id ∧ state.active = some lease then
    (.ok (), { state with active := none })
  else (.error "writer retirement does not match the active namespace", state)

end NamespaceOperationState

/-- What became of a transition guard: `prepare_publication` and `publish` own it. -/
inductive TransitionStage (L : Type) where
  | held
  | prepared (lease : L)
  | published
  deriving DecidableEq

structure TransitionGuard (L : Type) where
  id : Nat
  stage : TransitionStage L := .held
  deriving DecidableEq

/-- A `PrepublicationRecoveryAuthority` borrows the guard of its id. -/
structure RecoveryAuthority (L : Type) where
  id : Nat
  lease : L
  checked : Bool := false

/-- The gate, what is live beside it, and the histories that no thread reads. -/
structure OperationSystem (L : Type) where
  gate : NamespaceOperationState L := {}
  operations : List (Nat × L) := []
  transitions : List (TransitionGuard L) := []
  /-- how many calls of `begin_transition` wait -/
  waiting : Nat := 0
  authorities : List (RecoveryAuthority L) := []
  /-- the live `PrepublicationRecovered` -/
  recovered : List (Nat × L) := []
  /-- the ids of all guards -/
  issued : List Nat := []
  /-- all operation guards -/
  opened : List (Nat × L) := []
  /-- the leases that were proved recovered, under the transitions that proved them -/
  verified : List (Nat × L) := []
  refused : List String := []

inductive OperationEvent (L : Type) where
  | beginOperation (lease : L)
  | dropOperation (id : Nat) (lease : L)
  | tryBeginTransition
  | registerTransition
  /-- A waiting call looks at the gate. -/
  | wake
  | dropTransition (id : Nat)
  | beginRecovery (id : Nat) (lease : L)
  /-- `verify_no_unsupported_imports` on a storage of a lease. -/
  | verify (index : Nat) (storage : L) (clean : Bool)
  | finish (index : Nat)
  | dropAuthority (index : Nat)
  | preparePublication (id : Nat) (lease : L) (proof : Nat × L)
  | publish (id : Nat)
  | retireFlushed (id : Nat) (lease : L)

/-- The transition guard with which an event may change the active lease. -/
def OperationEvent.transition {L : Type} : OperationEvent L → Option Nat
  | publish id | retireFlushed id _ => some id
  | _ => none

namespace OperationSystem

variable {L : Type} [DecidableEq L]

/-- A guard that may be moved, dropped or changed: nothing borrows it. -/
def free (system : OperationSystem L) (id : Nat) (stage : TransitionStage L) : Bool :=
  system.transitions.contains ⟨id, stage⟩ && system.authorities.all (·.id ≠ id)

def refuse (error : String) (gate : NamespaceOperationState L) (system : OperationSystem L) :
    OperationSystem L :=
  { system with gate := gate, refused := error :: system.refused }

/-- A transition guard, as `begin_transition` and its try return it. -/
def admitTransition (result : Except String Nat × NamespaceOperationState L)
    (system : OperationSystem L) : OperationSystem L :=
  match result with
  | (.ok id, gate) => { system with gate := gate, transitions := ⟨id, .held⟩ :: system.transitions,
                                    issued := id :: system.issued }
  | (.error error, gate) => system.refuse error gate

def removeTransition (guard : TransitionGuard L) (system : OperationSystem L) : OperationSystem L :=
  { system with gate := system.gate.dropTransition guard.id,
                transitions := system.transitions.erase guard }

def restage (id : Nat) (before after : TransitionStage L) (system : OperationSystem L) :
    OperationSystem L :=
  { system with transitions := ⟨id, after⟩ :: system.transitions.erase ⟨id, before⟩ }

/-- The stages in which a guard can be dropped. -/
def dropStage (id : Nat) (system : OperationSystem L) : Option (TransitionGuard L) :=
  if system.authorities.all (·.id ≠ id) then system.transitions.find? (·.id = id) else none

/-- An event whose guard, call or proof is not there changes nothing. -/
def step (event : OperationEvent L) (system : OperationSystem L) : OperationSystem L :=
  match event with
  | .beginOperation lease =>
    match system.gate.beginOperation lease with
    | (.ok id, gate) => { system with gate := gate, operations := (id, lease) :: system.operations,
                                      issued := id :: system.issued,
                                      opened := (id, lease) :: system.opened }
    | (.error error, gate) => system.refuse error gate
  | .dropOperation id lease =>
    if system.operations.contains (id, lease) then
      { system with gate := system.gate.dropOperation id,
                    operations := system.operations.erase (id, lease) }
    else system
  | .tryBeginTransition => system.admitTransition system.gate.tryBeginTransition
  | .registerTransition =>
    match system.gate.registerTransition with
    | (.ok (), gate) => { system with gate := gate, waiting := system.waiting + 1 }
    | (.error error, gate) => system.refuse error gate
  | .wake =>
    if 0 < system.waiting ∧ system.gate.operation = none ∧ system.gate.transition = none then
      { system with waiting := system.waiting - 1 }.admitTransition system.gate.enterTransition
    else system
  | .dropTransition id =>
    match system.dropStage id with
    | some guard => system.removeTransition guard
    | none => system
  | .beginRecovery id lease =>
    if system.transitions.contains ⟨id, .held⟩ ∧ system.gate.unpublished id then
      { system with authorities := ⟨id, lease, false⟩ :: system.authorities }
    else system
  | .verify index storage clean =>
    match system.authorities[index]? with
    | some authority =>
      if storage = authority.lease ∧ clean then
        { system with authorities := system.authorities.set index { authority with checked := true },
                      verified := (authority.id, authority.lease) :: system.verified }
      else system
    | none => system
  | .finish index =>
    match system.authorities[index]? with
    | some authority =>
      let system := { system with authorities := system.authorities.eraseIdx index }
      if authority.checked then
        { system with recovered := (authority.id, authority.lease) :: system.recovered }
      else system
    | none => system
  | .dropAuthority index => { system with authorities := system.authorities.eraseIdx index }
  | .preparePublication id lease proof =>
    if system.free id .held ∧ system.recovered.contains proof then
      let system := { system with recovered := system.recovered.erase proof }
      if system.gate.unpublished id ∧ proof = (id, lease) then
        system.restage id .held (.prepared lease)
      else system.removeTransition ⟨id, .held⟩
    else system
  | .publish id =>
    match system.transitions.find? (·.id = id) with
    | some ⟨_, .prepared lease⟩ =>
      { system with gate := system.gate.publish lease }.restage id (.prepared lease) .published
    | _ => system
  | .retireFlushed id lease =>
    if system.free id .held then { system with gate := (system.gate.retireFlushed id lease).2 }
    else system

abbrev runEvents (events : List (OperationEvent L)) : OperationSystem L := run step events {}

structure Inv (system : OperationSystem L) : Prop where
  operation : system.operations.map (·.1) = system.gate.operation.toList
  transition : system.transitions.map (·.id) = system.gate.transition.toList
  exclusive : system.gate.operation = none ∨ system.gate.transition = none
  waiting : system.gate.waiters = system.waiting
  unique : system.issued.Nodup
  numbered : ∀ id ∈ system.issued, id ≤ system.gate.sequence
  opened : system.opened.map (·.1) |>.Sublist system.issued
  live : ∀ guard ∈ system.operations, guard ∈ system.opened ∧ system.gate.active = some guard.2
  exhausted : "namespace authority exhausted" ∈ system.refused → system.gate.closed = true
  checked : ∀ authority ∈ system.authorities, authority.checked = true →
    (authority.id, authority.lease) ∈ system.verified
  recovered : ∀ proof ∈ system.recovered, proof ∈ system.verified
  prepared : ∀ id lease, ⟨id, .prepared lease⟩ ∈ system.transitions →
    system.gate.active = none ∧ (id, lease) ∈ system.verified

/-- A closed gate stays closed and issues no guard. -/
structure Moves (before after : OperationSystem L) : Prop where
  closed : before.gate.closed = true → after.gate.closed = true ∧ after.issued = before.issued

omit [DecidableEq L] in
theorem Moves.refl (system : OperationSystem L) : Moves system system := ⟨fun h => ⟨h, rfl⟩⟩

omit [DecidableEq L] in
theorem Moves.trans {a b c : OperationSystem L} (h : Moves a b) (h' : Moves b c) : Moves a c := by
  refine ⟨fun hclosed => ?_⟩
  obtain ⟨hclosed', hissued⟩ := h.closed hclosed
  obtain ⟨hclosed'', hissued'⟩ := h'.closed hclosed'
  exact ⟨hclosed'', hissued'.trans hissued⟩

omit [DecidableEq L] in
/-- A step that issues nothing and does not open the gate moves so. -/
theorem Moves.of_issued {a b : OperationSystem L} (hissued : b.issued = a.issued)
    (hclosed : b.gate.closed = a.gate.closed) : Moves a b := ⟨fun h => ⟨hclosed ▸ h, hissued⟩⟩

section Steps

variable {system : OperationSystem L} {id : Nat} {lease : L} {guard : TransitionGuard L}

omit [DecidableEq L] in
theorem next_cases (state : NamespaceOperationState L)
    (use : Nat → NamespaceOperationState L → NamespaceOperationState L) :
    (∃ error closed, state.next use = (.error error, { state with closed := closed }) ∧
      (state.closed = true → closed = true) ∧
      (error = "namespace authority exhausted" → closed = true)) ∨
    state.closed = false ∧ state.sequence < u64Max ∧ state.next use =
      (.ok (state.sequence + 1), use (state.sequence + 1)
        { state with sequence := state.sequence + 1 }) := by
  unfold NamespaceOperationState.next
  split
  · rename_i hclosed
    exact .inl ⟨_, state.closed, rfl, id, fun _ => hclosed⟩
  split
  · rename_i hclosed hlimit
    exact .inr ⟨by simpa using hclosed, hlimit, rfl⟩
  · exact .inl ⟨_, true, rfl, fun _ => rfl, fun _ => rfl⟩

omit [DecidableEq L] in
theorem Inv.operation_eq (h : Inv system) (hmem : (id, lease) ∈ system.operations) :
    system.gate.operation = some id ∧ system.operations = [(id, lease)] := by
  have hids := h.operation
  have hid := List.mem_map_of_mem (f := (·.1)) hmem
  rw [hids, Option.mem_toList] at hid
  rw [hid] at hids
  obtain ⟨only, honly, hfst⟩ := List.map_eq_singleton_iff.mp hids
  rw [honly, List.mem_singleton] at hmem
  exact ⟨hid, by rw [honly, hmem]⟩

omit [DecidableEq L] in
/-- A transition guard that is held is the only guard. -/
theorem Inv.transition_eq (h : Inv system) (hmem : guard ∈ system.transitions) :
    system.gate.transition = some guard.id ∧ system.transitions = [guard] ∧
      system.gate.operation = none ∧ system.operations = [] := by
  have hids := h.transition
  have hid := List.mem_map_of_mem (f := (·.id)) hmem
  rw [hids, Option.mem_toList] at hid
  rw [hid] at hids
  obtain ⟨only, honly, hfst⟩ := List.map_eq_singleton_iff.mp hids
  rw [honly, List.mem_singleton] at hmem
  have hoperation : system.gate.operation = none := h.exclusive.resolve_right (by simp [hid])
  have hoperations := h.operation
  rw [hoperation] at hoperations
  exact ⟨hid, by rw [honly, hmem], hoperation, List.map_eq_nil_iff.mp hoperations⟩

omit [DecidableEq L] in
/-- A refusal may close the gate. -/
theorem Inv.refuse {error : String} (closed : Bool) (h : Inv system)
    (hclosed : system.gate.closed = true → closed = true)
    (herror : error = "namespace authority exhausted" → closed = true) :
    Inv (system.refuse error { system.gate with closed := closed }) ∧
      Moves system (system.refuse error { system.gate with closed := closed }) := by
  refine ⟨{ h with exhausted := fun hmem => ?_ }, ⟨fun h => ⟨hclosed h, rfl⟩⟩⟩
  rcases List.mem_cons.mp hmem with heq | hold
  · exact herror heq.symm
  · exact hclosed (h.exhausted hold)

omit [DecidableEq L] in
/-- A refusal that has a text of its own leaves the gate. -/
theorem Inv.refuse_same {error : String} (h : Inv system)
    (herror : error ≠ "namespace authority exhausted") :
    Inv (system.refuse error system.gate) ∧ Moves system (system.refuse error system.gate) :=
  h.refuse system.gate.closed (fun h => h) fun heq => absurd heq herror

omit [DecidableEq L] in
/-- The next id was never issued. -/
theorem Inv.fresh (h : Inv system) : system.gate.sequence + 1 ∉ system.issued := by
  intro hmem
  have hle := h.numbered _ hmem
  omega

omit [DecidableEq L] in
theorem Inv.numbered_succ (h : Inv system) :
    ∀ id ∈ (system.gate.sequence + 1) :: system.issued, id ≤ system.gate.sequence + 1 := by
  intro id hmem
  rcases List.mem_cons.mp hmem with rfl | hold
  · exact Nat.le_refl _
  · exact Nat.le_succ_of_le (h.numbered id hold)

theorem Inv.beginOperation (h : Inv system) :
    Inv (step (.beginOperation lease) system) ∧
      Moves system (step (.beginOperation lease) system) := by
  simp only [step, NamespaceOperationState.beginOperation]
  by_cases hfree : system.gate.active = some lease ∧ system.gate.transition = none ∧
      system.gate.waiters = 0 ∧ system.gate.operation = none
  · obtain ⟨hactive, htransition, hwaiters, hoperation⟩ := hfree
    simp only [hactive, htransition, hwaiters, hoperation, and_self, if_true]
    rcases next_cases system.gate (fun id state => { state with operation := some id })
      with ⟨error, closed, hnext, hclosed, herror⟩ | ⟨hopen, hlimit, hnext⟩
    · rw [hnext]
      exact h.refuse closed hclosed herror
    · rw [hnext]
      have hoperations : system.operations = [] := by
        have hids := h.operation
        rw [hoperation] at hids
        exact List.map_eq_nil_iff.mp hids
      refine ⟨{ h with operation := ?_, exclusive := .inr htransition, unique := ?_,
                       numbered := h.numbered_succ, opened := ?_, live := ?_ }, ?_⟩
      · simp [hoperations]
      · exact List.nodup_cons.mpr ⟨h.fresh, h.unique⟩
      · exact h.opened.cons_cons _
      · intro guard hguard
        rw [hoperations, List.mem_singleton] at hguard
        subst hguard
        exact ⟨List.mem_cons_self, hactive⟩
      · exact ⟨fun hclosed => by simp [hopen] at hclosed⟩
  · simp only [hfree, if_false]
    exact h.refuse_same (by decide)

omit [DecidableEq L] in
/-- A guard is issued for a transition once nothing else is held. -/
theorem Inv.admitTransition (h : Inv system) (hoperation : system.gate.operation = none)
    (htransition : system.gate.transition = none) :
    Inv (system.admitTransition (system.gate.next fun id state =>
        { state with transition := some id })) ∧
      Moves system (system.admitTransition (system.gate.next fun id state =>
        { state with transition := some id })) := by
  rcases next_cases system.gate (fun id state => { state with transition := some id })
    with ⟨error, closed, hnext, hclosed, herror⟩ | ⟨hopen, hlimit, hnext⟩
  · rw [hnext]
    exact h.refuse closed hclosed herror
  · rw [hnext]
    have htransitions : system.transitions = [] := by
      have hids := h.transition
      rw [htransition] at hids
      exact List.map_eq_nil_iff.mp hids
    refine ⟨{ h with transition := ?_, exclusive := .inl hoperation, unique := ?_,
                     numbered := h.numbered_succ, opened := h.opened.cons _, prepared := ?_ }, ?_⟩
    · simp [OperationSystem.admitTransition, htransitions]
    · exact List.nodup_cons.mpr ⟨h.fresh, h.unique⟩
    · intro id lease hmem
      simp [OperationSystem.admitTransition, htransitions] at hmem
    · exact ⟨fun hclosed => by simp [hopen] at hclosed⟩

theorem Inv.tryBeginTransition (h : Inv system) :
    Inv (step .tryBeginTransition system) ∧ Moves system (step .tryBeginTransition system) := by
  simp only [step, NamespaceOperationState.tryBeginTransition]
  by_cases hfree : system.gate.operation = none ∧ system.gate.transition = none ∧
      system.gate.waiters = 0
  · rw [if_pos hfree]
    exact h.admitTransition hfree.1 hfree.2.1
  · rw [if_neg hfree]
    exact h.refuse_same (by decide)

theorem Inv.registerTransition (h : Inv system) :
    Inv (step .registerTransition system) ∧ Moves system (step .registerTransition system) := by
  simp only [step, NamespaceOperationState.registerTransition]
  by_cases hlimit : system.gate.waiters < usizeMax
  · simp only [if_pos hlimit]
    exact ⟨{ h with waiting := by simp [h.waiting] }, .of_issued rfl rfl⟩
  · simp only [if_neg hlimit]
    exact h.refuse true (fun _ => rfl) fun _ => rfl

/-- A waiting call that finds the gate idle leaves the waiters and enters. -/
theorem Inv.wake (h : Inv system) : Inv (step .wake system) ∧ Moves system (step .wake system) := by
  simp only [step]
  split
  · rename_i hidle
    have hleft : Inv { system with waiting := system.waiting - 1, gate :=
        { system.gate with waiters := system.gate.waiters - 1 } } :=
      { h with waiting := by simp [h.waiting] }
    obtain ⟨hinv, hmoves⟩ := hleft.admitTransition hidle.2.1 hidle.2.2
    exact ⟨hinv, ⟨hmoves.closed⟩⟩
  · exact ⟨h, .refl system⟩

theorem Inv.dropOperation (h : Inv system) :
    Inv (step (.dropOperation id lease) system) ∧
      Moves system (step (.dropOperation id lease) system) := by
  simp only [step]
  split
  · have hmem : (id, lease) ∈ system.operations := List.contains_iff_mem.mp ‹_›
    obtain ⟨hoperation, honly⟩ := h.operation_eq hmem
    have hdrop : system.gate.dropOperation id = { system.gate with operation := none } :=
      if_pos hoperation
    rw [hdrop]
    refine ⟨{ h with operation := ?_, exclusive := .inl rfl, live := ?_ }, .of_issued rfl rfl⟩
    · simp [honly]
    · simp [honly]
  · exact ⟨h, .refl system⟩

/-- A transition guard may go, whatever became of it. -/
theorem Inv.removeTransition (h : Inv system) (hmem : guard ∈ system.transitions) :
    Inv (system.removeTransition guard) ∧ Moves system (system.removeTransition guard) := by
  obtain ⟨htransition, honly, -⟩ := h.transition_eq hmem
  have hdrop : system.gate.dropTransition guard.id = { system.gate with transition := none } :=
    if_pos htransition
  unfold OperationSystem.removeTransition
  rw [hdrop]
  refine ⟨{ h with transition := ?_, exclusive := .inr rfl, prepared := ?_ }, .of_issued rfl rfl⟩
  · simp [honly]
  · intro id lease hguard
    simp [honly] at hguard

theorem Inv.dropTransition (h : Inv system) :
    Inv (step (.dropTransition id) system) ∧ Moves system (step (.dropTransition id) system) := by
  simp only [step]
  split
  · rename_i guard hdrop
    refine h.removeTransition ?_
    unfold dropStage at hdrop
    split at hdrop
    · exact List.mem_of_find?_eq_some hdrop
    · cases hdrop
  · exact ⟨h, .refl system⟩

/-- A guard changes its stage; a lease that is prepared was proved and nothing is active. -/
theorem Inv.restage {before after : TransitionStage L} (h : Inv system)
    (hmem : ⟨id, before⟩ ∈ system.transitions)
    (hafter : ∀ lease, after = .prepared lease →
      system.gate.active = none ∧ (id, lease) ∈ system.verified) :
    Inv (system.restage id before after) := by
  obtain ⟨htransition, honly, -⟩ := h.transition_eq hmem
  have htransitions : (system.restage id before after).transitions = [⟨id, after⟩] := by
    simp [OperationSystem.restage, honly]
  refine { h with transition := ?_, prepared := ?_ }
  · rw [htransitions]
    exact htransition ▸ rfl
  · intro other lease hguard
    rw [htransitions, List.mem_singleton] at hguard
    cases hguard
    exact hafter lease rfl

theorem Inv.beginRecovery (h : Inv system) :
    Inv (step (.beginRecovery id lease) system) ∧
      Moves system (step (.beginRecovery id lease) system) := by
  simp only [step]
  split
  · refine ⟨{ h with checked := fun authority hmem => ?_ }, .of_issued rfl rfl⟩
    rcases List.mem_cons.mp hmem with rfl | hold
    · exact nofun
    · exact h.checked authority hold
  · exact ⟨h, .refl system⟩

theorem Inv.verify {index : Nat} {storage : L} {clean : Bool} (h : Inv system) :
    Inv (step (.verify index storage clean) system) ∧
      Moves system (step (.verify index storage clean) system) := by
  simp only [step]
  split
  · rename_i authority hget
    split
    · refine ⟨{ h with checked := ?_, recovered := ?_, prepared := ?_ }, .of_issued rfl rfl⟩
      · intro other hmem hchecked
        rcases List.mem_or_eq_of_mem_set hmem with hold | rfl
        · exact List.mem_cons_of_mem _ (h.checked other hold hchecked)
        · exact List.mem_cons_self
      · exact fun proof hmem => List.mem_cons_of_mem _ (h.recovered proof hmem)
      · intro id lease hmem
        obtain ⟨hactive, hverified⟩ := h.prepared id lease hmem
        exact ⟨hactive, List.mem_cons_of_mem _ hverified⟩
    · exact ⟨h, .refl system⟩
  · exact ⟨h, .refl system⟩

omit [DecidableEq L] in
theorem Inv.dropAuthority (index : Nat) (h : Inv system) :
    Inv { system with authorities := system.authorities.eraseIdx index } :=
  { h with checked := fun authority hmem => h.checked authority (List.mem_of_mem_eraseIdx hmem) }

/-- The proof that `finish` returns was verified. -/
theorem Inv.finish {index : Nat} (h : Inv system) :
    Inv (step (.finish index) system) ∧ Moves system (step (.finish index) system) := by
  simp only [step]
  split
  · rename_i authority hget
    split
    · rename_i hchecked
      refine ⟨{ h.dropAuthority index with recovered := fun proof hmem => ?_ },
        .of_issued rfl rfl⟩
      rcases List.mem_cons.mp hmem with rfl | hold
      · exact h.checked authority (List.mem_of_getElem? hget) hchecked
      · exact h.recovered proof hold
    · exact ⟨h.dropAuthority index, .of_issued rfl rfl⟩
  · exact ⟨h, .refl system⟩

theorem free_iff {stage : TransitionStage L} (h : system.free id stage = true) :
    ⟨id, stage⟩ ∈ system.transitions := by
  simp only [free, Bool.and_eq_true, List.contains_iff_mem] at h
  exact h.1

omit [DecidableEq L] in
theorem unpublished_iff {gate : NamespaceOperationState L} : gate.unpublished id = true ↔
    gate.closed = false ∧ gate.transition = some id ∧ gate.active = none := by
  simp [NamespaceOperationState.unpublished, and_assoc]

theorem Inv.preparePublication {proof : Nat × L} (h : Inv system) :
    Inv (step (.preparePublication id lease proof) system) ∧
      Moves system (step (.preparePublication id lease proof) system) := by
  simp only [step]
  split
  · rename_i hready
    obtain ⟨hfree, hproof⟩ := hready
    have hmem := free_iff hfree
    have hused : Inv { system with recovered := system.recovered.erase proof } :=
      { h with recovered := fun other hother => h.recovered other (List.mem_of_mem_erase hother) }
    split
    · rename_i hmatches
      obtain ⟨hunpublished, rfl⟩ := hmatches
      refine ⟨hused.restage hmem ?_, .of_issued rfl rfl⟩
      rintro _ ⟨⟩
      exact ⟨(unpublished_iff.mp hunpublished).2.2, h.recovered _ (List.contains_iff_mem.mp hproof)⟩
    · obtain ⟨hinv, hmoves⟩ := hused.removeTransition (show (⟨id, .held⟩ : TransitionGuard L) ∈ _ from hmem)
      exact ⟨hinv, ⟨hmoves.closed⟩⟩
  · exact ⟨h, .refl system⟩

omit [DecidableEq L] in
/-- While a transition guard is held, no operation guard sees the active lease change. -/
theorem Inv.setActive {active : Option L} (h : Inv system) (hmem : guard ∈ system.transitions)
    (hprepared : ∀ lease, guard.stage = .prepared lease → active = none) :
    Inv { system with gate := { system.gate with active := active } } := by
  obtain ⟨-, honly, -, hoperations⟩ := h.transition_eq hmem
  refine { h with live := ?_, prepared := ?_ }
  · simp [hoperations]
  · intro id lease hguard
    have hmem' : ⟨id, .prepared lease⟩ ∈ system.transitions := hguard
    rw [honly, List.mem_singleton] at hmem'
    exact ⟨hprepared lease (by rw [← hmem']), (h.prepared id lease hguard).2⟩

theorem Inv.publish (h : Inv system) :
    Inv (step (.publish id) system) ∧ Moves system (step (.publish id) system) := by
  simp only [step]
  split
  · rename_i other lease hfind
    have hid : other = id := by simpa using List.find?_some hfind
    subst hid
    have hmem := List.mem_of_find?_eq_some hfind
    have hrestaged : Inv (system.restage other (.prepared lease) .published) :=
      h.restage hmem nofun
    have hpublished : ⟨other, .published⟩ ∈
        (system.restage other (.prepared lease) .published).transitions := List.mem_cons_self
    unfold NamespaceOperationState.publish
    split
    · exact ⟨hrestaged, .of_issued rfl rfl⟩
    · exact ⟨hrestaged.setActive hpublished nofun, .of_issued rfl rfl⟩
  · exact ⟨h, .refl system⟩

theorem Inv.retireFlushed (h : Inv system) :
    Inv (step (.retireFlushed id lease) system) ∧
      Moves system (step (.retireFlushed id lease) system) := by
  simp only [step]
  split
  · rename_i hfree
    unfold NamespaceOperationState.retireFlushed
    split
    · exact ⟨h.setActive (free_iff hfree) nofun, .of_issued rfl rfl⟩
    · exact ⟨h, .refl system⟩
  · exact ⟨h, .refl system⟩

theorem Inv.step (event : OperationEvent L) (h : Inv system) :
    Inv (step event system) ∧ Moves system (step event system) := by
  cases event with
  | beginOperation lease => exact h.beginOperation
  | dropOperation id lease => exact h.dropOperation
  | tryBeginTransition => exact h.tryBeginTransition
  | registerTransition => exact h.registerTransition
  | wake => exact h.wake
  | dropTransition id => exact h.dropTransition
  | beginRecovery id lease => exact h.beginRecovery
  | verify index storage clean => exact h.verify
  | finish index => exact h.finish
  | dropAuthority index => exact ⟨h.dropAuthority index, .of_issued rfl rfl⟩
  | preparePublication id lease proof => exact h.preparePublication
  | publish id => exact h.publish
  | retireFlushed id lease => exact h.retireFlushed

end Steps

omit [DecidableEq L] in
theorem inv_start : Inv ({} : OperationSystem L) where
  operation := rfl
  transition := rfl
  exclusive := .inl rfl
  waiting := rfl
  unique := List.nodup_nil
  numbered := nofun
  opened := .slnil
  live := nofun
  exhausted := nofun
  checked := nofun
  recovered := nofun
  prepared := nofun

theorem inv_run (events : List (OperationEvent L)) : Inv (runEvents events) :=
  (run_related Moves.refl (fun _ _ _ => .trans) (fun event _ h => h.step event) inv_start).1

theorem moves_run (before rest : List (OperationEvent L)) :
    Moves (runEvents before) (runEvents (before ++ rest)) := by
  rw [runEvents, runEvents, run_append]
  exact (run_related Moves.refl (fun _ _ _ => .trans) (fun event _ h => h.step event)
    (inv_run before)).2

section Facts

variable {system : OperationSystem L} {id : Nat} {lease : L}

/-- How many guards are held. -/
def held (system : OperationSystem L) : Nat := system.operations.length + system.transitions.length

omit [DecidableEq L] in
theorem Inv.held_le (h : Inv system) : system.held ≤ 1 := by
  have hoperations := congrArg List.length h.operation
  have htransitions := congrArg List.length h.transition
  simp only [List.length_map] at hoperations htransitions
  unfold held
  rcases h.exclusive with hnone | hnone
  · cases hid : system.gate.transition <;> simp_all
  · cases hid : system.gate.operation <;> simp_all

/-- A guard is valid exactly while it is held under its active lease in an open gate. -/
theorem Inv.validate_iff (h : Inv system) (hopened : (id, lease) ∈ system.opened) :
    system.gate.validate id lease = .ok () ↔ (id, lease) ∈ system.operations ∧
      system.gate.closed = false ∧ system.gate.active = some lease := by
  simp only [NamespaceOperationState.validate]
  constructor
  · intro hvalid
    split at hvalid
    · rename_i hcond
      obtain ⟨hclosed, hoperation, hactive⟩ := hcond
      refine ⟨?_, by simpa using hclosed, hactive⟩
      have hid : id ∈ system.operations.map (·.1) := by
        rw [h.operation, hoperation]
        exact List.mem_singleton.mpr rfl
      obtain ⟨⟨other, owner⟩, hguard, rfl⟩ := List.mem_map.mp hid
      -- the ids of the guards are distinct, so this is the guard that was issued
      have hnodup : (system.opened.map (·.1)).Nodup := h.unique.sublist h.opened
      have hsame := List.inj_on_of_nodup_map hnodup (h.live _ hguard).1 hopened rfl
      rwa [← hsame]
    · cases hvalid
  · rintro ⟨hmem, hclosed, hactive⟩
    obtain ⟨hoperation, -⟩ := h.operation_eq hmem
    simp [hclosed, hoperation, hactive]

omit [DecidableEq L] in
theorem admitTransition_frame (result : Except String Nat × NamespaceOperationState L)
    (system : OperationSystem L) : (system.admitTransition result).opened = system.opened ∧
      (system.admitTransition result).gate = result.2 := by
  unfold OperationSystem.admitTransition
  split <;> exact ⟨rfl, rfl⟩

/-- Only `begin_operation` opens an operation. -/
theorem opened_step {event : OperationEvent L} (hevent : ∀ lease, event ≠ .beginOperation lease) :
    (OperationSystem.step event system).opened = system.opened := by
  cases event with
  | beginOperation lease => exact absurd rfl (hevent lease)
  | tryBeginTransition => exact (admitTransition_frame _ _).1
  | wake =>
    simp only [OperationSystem.step]
    split
    · exact (admitTransition_frame _ _).1
    · rfl
  | dropAuthority index => rfl
  | registerTransition | dropOperation id lease | dropTransition id | beginRecovery id lease
  | publish id | retireFlushed id lease =>
    simp only [OperationSystem.step]
    split <;> rfl
  | verify index storage clean | finish index | preparePublication id lease proof =>
    simp only [OperationSystem.step]
    split
    · split <;> rfl
    · rfl

/-- A waiting transition keeps operations out. -/
theorem Inv.not_opened (h : Inv system) (hwaiting : system.waiting ≠ 0)
    (event : OperationEvent L) : (OperationSystem.step event system).opened = system.opened := by
  by_cases hbegin : ∃ lease, event = .beginOperation lease
  · obtain ⟨lease, rfl⟩ := hbegin
    have hwaiters : system.gate.waiters ≠ 0 := h.waiting ▸ hwaiting
    simp [OperationSystem.step, NamespaceOperationState.beginOperation, hwaiters,
      OperationSystem.refuse]
  · exact opened_step fun lease heq => hbegin ⟨lease, heq⟩

omit [DecidableEq L] in
theorem next_active (state : NamespaceOperationState L)
    (use : Nat → NamespaceOperationState L → NamespaceOperationState L)
    (huse : ∀ id state, (use id state).active = state.active) :
    (state.next use).2.active = state.active := by
  unfold NamespaceOperationState.next
  split
  · rfl
  split
  · exact huse _ _
  · rfl

theorem beginOperation_active (state : NamespaceOperationState L) (lease : L) :
    (state.beginOperation lease).2.active = state.active := by
  unfold NamespaceOperationState.beginOperation
  split
  · exact next_active _ _ fun _ _ => rfl
  · rfl

omit [DecidableEq L] in
theorem tryBeginTransition_active (state : NamespaceOperationState L) :
    state.tryBeginTransition.2.active = state.active := by
  unfold NamespaceOperationState.tryBeginTransition
  split
  · exact next_active _ _ fun _ _ => rfl
  · rfl

omit [DecidableEq L] in
theorem registerTransition_active (state : NamespaceOperationState L) :
    state.registerTransition.2.active = state.active := by
  unfold NamespaceOperationState.registerTransition
  split <;> rfl

omit [DecidableEq L] in
theorem dropOperation_active (state : NamespaceOperationState L) (id : Nat) :
    (state.dropOperation id).active = state.active := by
  unfold NamespaceOperationState.dropOperation
  split <;> rfl

theorem removeTransition_active (system : OperationSystem L) (guard : TransitionGuard L) :
    (system.removeTransition guard).gate.active = system.gate.active := by
  simp only [OperationSystem.removeTransition, NamespaceOperationState.dropTransition]
  split <;> rfl

/-- Only a publication and a retirement change the active lease. -/
theorem active_kept {event : OperationEvent L} (hpublish : ∀ id, event ≠ .publish id)
    (hretire : ∀ id lease, event ≠ .retireFlushed id lease) :
    (OperationSystem.step event system).gate.active = system.gate.active := by
  cases event with
  | publish id => exact absurd rfl (hpublish id)
  | retireFlushed id lease => exact absurd rfl (hretire id lease)
  | beginOperation lease =>
    have hactive := beginOperation_active system.gate lease
    simp only [OperationSystem.step]
    split <;> rename_i hresult <;> simpa [hresult, OperationSystem.refuse] using hactive
  | tryBeginTransition =>
    rw [OperationSystem.step, (admitTransition_frame _ _).2, tryBeginTransition_active]
  | wake =>
    simp only [OperationSystem.step]
    split
    · rw [(admitTransition_frame _ _).2]
      exact next_active _ _ fun _ _ => rfl
    · rfl
  | registerTransition =>
    have hactive := registerTransition_active system.gate
    simp only [OperationSystem.step]
    split <;> rename_i hresult <;> simpa [hresult, OperationSystem.refuse] using hactive
  | dropOperation id lease =>
    simp only [OperationSystem.step]
    split
    · exact dropOperation_active _ _
    · rfl
  | dropTransition id =>
    simp only [OperationSystem.step]
    split
    · exact removeTransition_active _ _
    · rfl
  | dropAuthority index => rfl
  | beginRecovery id lease =>
    simp only [OperationSystem.step]
    split <;> rfl
  | verify index storage clean | finish index =>
    simp only [OperationSystem.step]
    split
    · split <;> rfl
    · rfl
  | preparePublication id lease proof =>
    simp only [OperationSystem.step]
    split
    · split
      · rfl
      · exact removeTransition_active _ _
    · rfl

/-- What a step does to the active lease: nothing, or a held transition guard retires it, or
publishes the lease that it proved recovered over none. -/
theorem Inv.active_step (h : Inv system) (event : OperationEvent L) :
    let after := (OperationSystem.step event system).gate.active
    after = system.gate.active ∨ ∃ id, event.transition = some id ∧
      system.gate.transition = some id ∧ (∃ guard ∈ system.transitions, guard.id = id) ∧
      (after = none ∨ system.gate.active = none ∧ ∃ lease, after = some lease ∧
        (id, lease) ∈ system.verified) := by
  by_cases hpublish : ∃ id, event = .publish id
  · obtain ⟨id, rfl⟩ := hpublish
    simp only [OperationSystem.step]
    split
    · rename_i other lease hfind
      have hid : other = id := by simpa using List.find?_some hfind
      subst hid
      have hmem := List.mem_of_find?_eq_some hfind
      obtain ⟨hactive, hverified⟩ := h.prepared _ _ hmem
      simp only [OperationSystem.restage, NamespaceOperationState.publish]
      split
      · exact .inl rfl
      · exact .inr ⟨other, rfl, (h.transition_eq hmem).1, ⟨_, hmem, rfl⟩,
          .inr ⟨hactive, lease, rfl, hverified⟩⟩
    · exact .inl rfl
  by_cases hretire : ∃ id lease, event = .retireFlushed id lease
  · obtain ⟨id, lease, rfl⟩ := hretire
    simp only [OperationSystem.step]
    split
    · rename_i hfree
      have hmem := free_iff hfree
      simp only [NamespaceOperationState.retireFlushed]
      split
      · exact .inr ⟨id, rfl, (h.transition_eq hmem).1, ⟨_, hmem, rfl⟩, .inl rfl⟩
      · exact .inl rfl
    · exact .inl rfl
  · exact .inl (active_kept (fun id heq => hpublish ⟨id, heq⟩)
      fun id lease heq => hretire ⟨id, lease, heq⟩)

end Facts

end OperationSystem

open OperationSystem

/-- The gate holds one guard at most and numbers its guards apart; the active lease changes in
the hands of a transition alone, and guards are valid as long as they are held. -/
theorem namespace_operations_exclusive {L : Type} [DecidableEq L]
    (before rest : List (OperationEvent L)) :
    let system := runEvents before
    let later := runEvents (before ++ rest)
    system.operations.length + system.transitions.length ≤ 1 ∧
    (system.issued.Nodup ∧
      ("namespace authority exhausted" ∈ system.refused → system.gate.closed = true) ∧
      (system.gate.closed = true → later.gate.closed = true ∧ later.issued = system.issued)) ∧
    (∀ event, let after := (step event system).gate.active
      after = system.gate.active ∨ ∃ id, event.transition = some id ∧
        system.gate.transition = some id ∧ (∃ guard ∈ system.transitions, guard.id = id) ∧
        (after = none ∨ system.gate.active = none ∧ ∃ lease, after = some lease ∧
          (id, lease) ∈ system.verified)) ∧
    (∀ id lease, (id, lease) ∈ system.opened →
      (system.gate.validate id lease = .ok () ↔ (id, lease) ∈ system.operations ∧
        system.gate.closed = false ∧ system.gate.active = some lease)) ∧
    (system.waiting ≠ 0 → ∀ event, (step event system).opened = system.opened) := by
  intro system later
  have hinv : Inv system := inv_run before
  have hmoves : Moves system later := moves_run before rest
  exact ⟨hinv.held_le, ⟨hinv.unique, hinv.exhausted, hmoves.closed⟩, hinv.active_step,
    fun id lease => hinv.validate_iff, hinv.not_opened⟩

end ArtForgeStudio.Gates
