import ArtForgeStudio.AccountTransition.Leases

/-! # What each action of a session does to the leases

Most actions narrow: they end a lease somewhere or change a guard. Only the activation of the
writer and the publication put a lease in place.
-/

namespace ArtForgeStudio.AccountTransition

open ArtForgeStudio.Api ArtForgeStudio.ClientState ArtForgeStudio.Concurrency ArtForgeStudio.Gates

/-- A fact about the ticket and the epochs, and one about the switches while no gate is closed. -/
def During (E : Epochs → Prop) (A : View → Prop) (alive : Prop) (view : View) : Prop :=
  E view.epochs ∧ (alive → A view)

/-- The switches while a session is between two states in which they rest. -/
def Moved (switches rest : Switches) (view : View) : Prop :=
  view.switches = switches ∧ view.Rests rest

structure Held (id : Nat) (current : Option NamespaceLease) (epochs : Epochs) : Prop where
  ticket : epochs.ticket = some id
  sequence : epochs.sequence = id
  current : epochs.current = current

/-- The session may activate a lease with this epoch. -/
structure Next (id : Nat) (current : Option NamespaceLease) (epoch : Nat) (epochs : Epochs) : Prop
    extends Held id current epochs where
  room : epoch ≤ id
  past : ∀ lease ∈ epochs.activated, lease.namespaceEpoch < epoch

/-- No candidate is left in the writer. -/
structure Clean (id : Nat) (current : Option NamespaceLease) (epoch : Nat) (epochs : Epochs) : Prop
    extends Next id current epoch epochs where
  clean : epochs.owed = false

structure Newest (id : Nat) (current : Option NamespaceLease) (lease : NamespaceLease)
    (epochs : Epochs) : Prop extends Held id current epochs where
  newest : epochs.activated.head? = some lease
  clean : epochs.owed = false

/-- A session holds the ticket. -/
def Ticketed (E : Epochs → Prop) : Prop := ∀ epochs, E epochs → epochs.ticket ≠ none

theorem Held.ticketed {id : Nat} {current : Option NamespaceLease} : Ticketed (Held id current) :=
  fun _ h => by simp [h.ticket]

theorem Next.ticketed {id epoch : Nat} {current : Option NamespaceLease} :
    Ticketed (Next id current epoch) :=
  fun _ h => by simp [h.ticket]

theorem Clean.ticketed {id epoch : Nat} {current : Option NamespaceLease} :
    Ticketed (Clean id current epoch) :=
  fun _ h => by simp [h.ticket]

theorem Newest.ticketed {id : Nat} {current : Option NamespaceLease} {lease : NamespaceLease} :
    Ticketed (Newest id current lease) :=
  fun _ h => by simp [h.ticket]

/-- No lease is put in place. -/
structure Narrows (before after : View) : Prop where
  epochs : after.epochs = before.epochs
  published : after.switches.published = before.switches.published ∨
    after.switches.published = none
  activity : after.switches.activity = before.switches.activity ∨ after.switches.activity = none

variable {E : Epochs → Prop} {A B : View → Prop} {s r : Switches} {before after : World}

theorem always_of_epochs {alive : Prop} {view next : View} (hepochs : next.epochs = view.epochs)
    (hpublished : next.switches.published = view.switches.published ∨
      next.switches.published = none)
    (hactivity : next.switches.activity = view.switches.activity ∨ next.switches.activity = none)
    (hticket : view.epochs.ticket ≠ none) (halways : view.Always alive)
    (hseparate : alive → next.switches.Separate) : next.Always alive := by
  obtain ⟨hincreasing, hissued, hcurrent, hdebt, hbound, -, -⟩ := halways
  rw [← hepochs] at hticket hincreasing hissued hcurrent hdebt hbound
  refine ⟨hincreasing, hissued, hcurrent, hdebt, ?_, fun _ hnone => absurd hnone hticket, hseparate⟩
  rintro lease (hlease | hlease)
  · obtain hsame | hnone := hpublished
    · exact hbound lease (.inl (hsame ▸ hlease))
    · exact absurd (hnone.symm.trans hlease) nofun
  · obtain hsame | hnone := hactivity
    · exact hbound lease (.inr (hsame ▸ hlease))
    · exact absurd (hnone.symm.trans hlease) nofun

theorem Narrows.always {alive : Prop} {view next : View} (h : Narrows view next)
    (hticket : view.epochs.ticket ≠ none) (halways : view.Always alive)
    (hseparate : alive → next.switches.Separate) : next.Always alive :=
  always_of_epochs h.epochs h.published h.activity hticket halways hseparate

theorem Narrows.rests {view next : View} (h : Narrows view next) (hrests : view.Rests r) :
    next.Rests r := by
  unfold View.Rests
  rw [h.epochs]
  exact hrests

theorem narrow_acts (hticket : Ticketed E) (hlive : after.Live → before.Live)
    (hsound : before.Keeps after) (hnarrows : Narrows before.view after.view)
    (hview : after.Live → before.switches.Separate → A before.view →
      after.switches.Separate ∧ B after.view) :
    leases.Acts (During E A) (During E B) before after := by
  refine ⟨hlive, hsound, fun alive halive halways hduring => ?_⟩
  have hnext (ha : alive) := hview (halive ha) (halways.separate ha) (hduring.2 ha)
  refine ⟨hnarrows.always (hticket _ hduring.1) halways fun ha => (hnext ha).1, ?_,
    fun ha => (hnext ha).2⟩
  show E after.view.epochs
  rw [hnarrows.epochs]
  exact hduring.1

theorem change_judges {update : World → World} (hticket : Ticketed E)
    (hlive : ∀ world, (update world).Live → world.Live)
    (hsound : ∀ world : World, world.Sound → world.Keeps (update world))
    (hnarrows : ∀ world, Narrows world.view (update world).view)
    (hview : ∀ world, world.Sound → (update world).Live → world.switches.Separate → A world.view →
      (update world).switches.Separate ∧ B (update world).view) :
    leases.Judges (During E A) (change update) fun _ => During E B :=
  .act fun _ world hworld => narrow_acts hticket (hlive world) (hsound world hworld)
    (hnarrows world) (hview world hworld)

section Keeps

variable {ε α β : Type} {P : Prop → View → Prop}

/-- A program that leaves the view leaves every assertion. -/
def Keeps (attempt : ExceptT ε Action α) : Prop := ∀ P, leases.Tries P attempt (fun _ => P) P

theorem keeps_act {action : Answer → World → Except ε α × World}
    (h : ∀ answer world, world.Sound → (action answer world).2.view = world.view ∧
      ((action answer world).2.Live → world.Live) ∧ world.Keeps (action answer world).2) :
    Keeps (.mk (.atomic action)) := by
  refine fun P => .act fun answer world hsound => ?_
  obtain ⟨hview, hlive, hafter⟩ := h answer world hsound
  refine .of_view hlive hafter hview fun alive view hP => ?_
  cases (action answer world).1 with
  | ok result => exact hP
  | error error => exact hP

theorem keeps_read (view : Answer → World → Except ε α) : Keeps (.mk (.read view)) :=
  keeps_act fun _ _ hsound => ⟨rfl, id, hsound⟩

theorem keeps_attempt_read (view : World → Except ε α) :
    Keeps (attempt fun world => (view world, world)) :=
  keeps_act fun _ _ hsound => ⟨rfl, id, hsound⟩

/-- A read leaves the view, and its result is one that it can have. -/
theorem read_tries {view : Answer → World → Except ε α} (fact : α → Prop)
    (h : ∀ answer world result, view answer world = .ok result → fact result) :
    leases.Tries P (.mk (.read view)) (fun result alive view => fact result ∧ P alive view) P := by
  refine .act fun answer world hsound => ?_
  cases hview : view answer world with
  | ok result => exact .of_view id hsound rfl fun _ _ hP => ⟨h answer world result hview, hP⟩
  | error error => exact .of_view id hsound rfl fun _ _ => id

theorem keeps_pure (result : α) : Keeps (pure result : ExceptT ε Action α) :=
  fun _ => .pure fun _ _ => id

theorem keeps_throw (error : ε) : Keeps (throw error : ExceptT ε Action α) :=
  fun _ => .throw fun _ _ => id

theorem Keeps.bind {attempt : ExceptT ε Action α} {rest : α → ExceptT ε Action β}
    (h : Keeps attempt) (hrest : ∀ result, Keeps (rest result)) : Keeps (attempt >>= rest) :=
  fun P => (h P).bind fun result => hrest result P

theorem Keeps.lift_run {δ : Type} {attempt : ExceptT δ Action α} (h : Keeps attempt) :
    Keeps (ExceptT.lift attempt.run : ExceptT ε Action (Except δ α)) :=
  fun P => .lift <| (h P).run.mono (fun _ _ => id) fun result _ _ => by cases result <;> exact id

theorem keeps_outside : Keeps outside := keeps_read _

theorem keeps_requireUnpublished (id : Nat) (error : String) : Keeps (requireUnpublished id error) :=
  keeps_attempt_read _

theorem keeps_prepareActivity : Keeps prepareActivity := keeps_attempt_read _

theorem ask_judges : leases.Judges P ask fun _ => P :=
  .act fun _ _ hsound => .of_view id hsound rfl fun _ _ => id

theorem keeps_persistChecked (write : CheckedWrite) : Keeps (persistChecked write) := by
  refine .bind (keeps_act fun answer world hsound => ?_) fun queued => keeps_act fun _ world hsound =>
    ⟨rfl, id, ⟨hsound.writer, hsound.operations, hsound.permits, hsound.past⟩⟩
  have hview : (world.writes (.checked write answer.ok)).view = world.view :=
    (untouched_step hsound.guaranteed rfl).view
  have hsound' := hsound.writes (.checked write answer.ok)
  cases (world.writer.world.checked write answer.ok).1 with
  | ok => exact ⟨hview, id, ⟨hsound'.writer, hsound'.operations, hsound'.permits, hsound'.past⟩⟩
  | error error => exact ⟨hview, id, hsound'⟩

theorem keeps_retryClientStateWrite {write : ExceptT ClientStateWriteError Action Unit}
    (h : Keeps write) : Keeps (retryClientStateWrite write) := by
  refine h.lift_run.bind fun first => ?_
  match first with
  | .ok () => exact keeps_pure ()
  | .error (.localState _) =>
    refine h.lift_run.bind fun second => ?_
    match second with
    | .ok () => exact keeps_pure ()
    | .error error => exact keeps_throw _
  | .error .staleLease | .error .retirementInProgress | .error .authorityExhausted =>
    exact keeps_throw _

/-- A debt that is not the candidate's writer. -/
theorem updateCleanupDebt_candidateWriter {update : CleanupDebt → CleanupDebt}
    (h : ∀ debt, (update debt).candidateWriter = debt.candidateWriter)
    (slot : Option CleanupDebt) :
    (updateCleanupDebt update slot).any (·.candidateWriter) = slot.any (·.candidateWriter) := by
  have hslot : slot.any (·.candidateWriter) = (slot.getD {}).candidateWriter := by
    cases slot <;> rfl
  rw [hslot, ← h]
  unfold updateCleanupDebt
  cases hempty : (update (slot.getD {})).isEmpty
  · simp [hempty]
  · simp [CleanupDebt.isEmpty] at hempty
    simp [CleanupDebt.isEmpty, hempty]

theorem owes_judges {update : CleanupDebt → CleanupDebt}
    (h : ∀ debt, (update debt).candidateWriter = debt.candidateWriter) :
    leases.Judges P (change fun world => world.owes update) fun _ => P := by
  refine .act fun _ world hsound => .of_view id
    ⟨hsound.writer, hsound.operations, hsound.permits, hsound.past⟩ ?_ fun _ _ => id
  show World.view _ = World.view _
  simp [World.view, World.owes, updateCleanupDebt_candidateWriter h, World.epochs, World.switches,
    World.activated]

theorem keeps_cleanup {update : Bool → CleanupDebt → CleanupDebt}
    (h : ∀ failed debt, (update failed debt).candidateWriter = debt.candidateWriter) :
    Keeps (ExceptT.lift (cleanup update) : ExceptT ε Action Bool) := by
  refine fun P => .lift <| ask_judges.bind fun done => ?_
  exact (owes_judges (h _)).bind fun _ => .done fun _ _ => id

end Keeps

section Gates

variable {t : Nat} {lease : NamespaceLease}

theorem dropTransition_judges (hticket : Ticketed E)
    (hA : ∀ view, A view → view.switches.transition = some t) :
    leases.Judges (During E A) (dropTransition t) fun _ => During E fun view =>
      ∃ before, A before ∧ Narrows before view ∧ view.reservations = before.reservations ∧
        view.switches = { before.switches with transition := none } := by
  refine change_judges hticket (fun world => ?_) (fun world h => ⟨h.writer, h.operations, h.permits, h.past⟩)
    (fun world => ?_) fun world _ _ hseparate hmoved => ?_
  · simp only [World.Live, NamespaceOperationState.dropTransition]
    split <;> exact id
  · simp only [NamespaceOperationState.dropTransition]
    split <;> exact ⟨rfl, .inl rfl, .inl rfl⟩
  · have htransition : world.namespaceOperations.transition = some t := hA _ hmoved
    simp only [NamespaceOperationState.dropTransition, htransition, if_true]
    exact ⟨hseparate, world.view, hmoved, ⟨rfl, .inl rfl, .inl rfl⟩, rfl, rfl⟩

theorem dropTransition_switches (hticket : Ticketed E) (htransition : s.transition = some t) :
    leases.Judges (During E fun view => view.switches = s) (dropTransition t) fun _ =>
      During E fun view => view.switches = { s with transition := none } := by
  refine (dropTransition_judges hticket fun view h => h ▸ htransition).mono (fun _ _ => id)
    fun _ _ view h => ⟨h.1, fun ha => ?_⟩
  obtain ⟨before, rfl, -, -, hswitches⟩ := h.2 ha
  exact hswitches

/-- Once a gate is closed nothing is claimed about the switches. -/
theorem closed_acts {A B : View → Prop} (hticket : Ticketed E) (hclosed : ¬after.Live)
    (hsound : before.Keeps after) (hnarrows : Narrows before.view after.view) :
    leases.Acts (During E A) (During E B) before after :=
  narrow_acts hticket (fun hlive => absurd hlive hclosed) hsound hnarrows fun hlive =>
    absurd hlive hclosed

/-- The switches rest once the transition is dropped. -/
def Leaving (transition : Option Nat) (view : View) : Prop :=
  view.switches.transition = transition ∧
    view.Rests { view.switches with transition := none }

theorem leaving_none {view : View} (h : Leaving none view) : view.Settled := by
  obtain ⟨htransition, hrests⟩ := h
  rwa [← htransition] at hrests

theorem Settled.leaving {view next : View} (h : view.Settled) (hnarrows : Narrows view next)
    (hswitches : next.switches = { view.switches with transition := some t }) :
    Leaving (some t) next := by
  have hfree : view.switches.transition = none := by
    obtain hall | ⟨-, -, howed⟩ := h
    · rw [hall]
      rfl
    · rw [howed]
      rfl
  refine ⟨by rw [hswitches], hnarrows.rests ?_⟩
  rw [hswitches, ← hfree]
  exact h

theorem tryBeginTransition_tries (hticket : Ticketed E) :
    leases.Tries (During E View.Settled) tryBeginTransition
      (fun t => During E (Leaving (some t))) (During E View.Settled) := by
  refine .act fun _ world hsound => ?_
  simp only [NamespaceOperationState.tryBeginTransition, admitted]
  by_cases hbusy : world.namespaceOperations.operation = none ∧
      world.namespaceOperations.transition = none ∧ world.namespaceOperations.waiters = 0
  · rw [if_pos hbusy]
    obtain ⟨error, closed, hnext, hclosed, -⟩ | ⟨-, -, hnext⟩ := OperationSystem.next_cases
      world.namespaceOperations (fun id state => { state with transition := some id })
    · rw [hnext]
      refine narrow_acts hticket (fun hlive => ⟨?_, hlive.2⟩)
        ⟨hsound.writer, hsound.operations, hsound.permits, hsound.past⟩ ⟨rfl, .inl rfl, .inl rfl⟩
        fun _ hseparate hsettled => ⟨hseparate, hsettled⟩
      by_contra hnot
      exact absurd (hclosed (by simpa using hnot)) (by simpa using hlive.1)
    · rw [hnext]
      exact narrow_acts hticket id ⟨hsound.writer, hsound.operations, hsound.permits, hsound.past⟩
        ⟨rfl, .inl rfl, .inl rfl⟩ fun _ hseparate hsettled =>
          ⟨hseparate, Settled.leaving hsettled ⟨rfl, .inl rfl, .inl rfl⟩ rfl⟩
  · rw [if_neg hbusy]
    exact narrow_acts hticket id ⟨hsound.writer, hsound.operations, hsound.permits, hsound.past⟩
      ⟨rfl, .inl rfl, .inl rfl⟩ fun _ hseparate hsettled => ⟨hseparate, hsettled⟩

theorem registerTransition_tries (hticket : Ticketed E) :
    leases.Tries (During E (Moved s r)) (attempt fun world =>
        let result := world.namespaceOperations.registerTransition
        admitted result (if result.1.isOk then some .transition else none) world)
      (fun _ => During E (Moved { s with waiters := s.waiters + 1 } r))
      (During E (Moved s r)) := by
  refine .act fun _ world hsound => ?_
  simp only [NamespaceOperationState.registerTransition, admitted]
  by_cases hroom : world.namespaceOperations.waiters < usizeMax
  · simp only [hroom, if_true]
    refine narrow_acts hticket id ⟨hsound.writer, hsound.operations, hsound.permits, hsound.past⟩
      ⟨rfl, .inl rfl, .inl rfl⟩ fun _ hseparate hmoved => ⟨hseparate, ?_⟩
    obtain ⟨rfl, hrests⟩ := hmoved
    exact ⟨rfl, hrests⟩
  · simp only [hroom, if_false]
    exact closed_acts hticket (fun hlive => absurd hlive.1 (by simp))
      ⟨hsound.writer, hsound.operations, hsound.permits, hsound.past⟩ ⟨rfl, .inl rfl, .inl rfl⟩

theorem enterTransition_tries (hticket : Ticketed E) :
    leases.Tries (During E (Moved { s with waiters := s.waiters + 1 } r))
      (attempt fun world => admitted world.namespaceOperations.enterTransition none world)
      (fun t => During E (Moved { s with transition := some t } r)) (During E (Moved s r)) := by
  refine .act fun _ world hsound => ?_
  have hwaiters (h : Moved { s with waiters := s.waiters + 1 } r world.view) :
      { world.switches with waiters := world.namespaceOperations.waiters - 1 } = s ∧
        world.view.Rests r := by
    have hswitches : world.switches = { s with waiters := s.waiters + 1 } := h.1
    have hcount : world.namespaceOperations.waiters = s.waiters + 1 :=
      congrArg Switches.waiters hswitches
    exact ⟨by rw [hswitches, hcount]; rfl, h.2⟩
  simp only [NamespaceOperationState.enterTransition, admitted]
  obtain ⟨error, closed, hnext, hclosed, -⟩ | ⟨-, -, hnext⟩ := OperationSystem.next_cases
    { world.namespaceOperations with waiters := world.namespaceOperations.waiters - 1 }
    (fun id state => { state with transition := some id })
  · rw [hnext]
    refine narrow_acts hticket (fun hlive => ⟨?_, hlive.2⟩)
      ⟨hsound.writer, hsound.operations, hsound.permits, hsound.past⟩ ⟨rfl, .inl rfl, .inl rfl⟩
      fun _ hseparate hmoved => ⟨hseparate, ?_⟩
    · by_contra hnot
      exact absurd (hclosed (by simpa using hnot)) (by simpa using hlive.1)
    · obtain ⟨rfl, hrests⟩ := hwaiters hmoved
      exact ⟨rfl, hrests⟩
  · rw [hnext]
    refine narrow_acts hticket id ⟨hsound.writer, hsound.operations, hsound.permits, hsound.past⟩
      ⟨rfl, .inl rfl, .inl rfl⟩ fun _ hseparate hmoved => ⟨hseparate, ?_⟩
    obtain ⟨rfl, hrests⟩ := hwaiters hmoved
    exact ⟨rfl, hrests⟩

theorem beginTransition_tries (hticket : Ticketed E) :
    leases.Tries (During E (Moved s r)) beginTransition
      (fun t => During E (Moved { s with transition := some t } r)) (During E (Moved s r)) :=
  (registerTransition_tries hticket).bind fun _ => enterTransition_tries hticket

theorem quiesced_acts {result : Except String Unit × ActivityState NamespaceLease}
    {waiting : Option Wait} {world : World} (hticket : Ticketed E) (hsound : world.Sound)
    (hresult : result = (.ok (), { world.activity with quiescing := true }) ∨
      ∃ error, result = (.error error, world.activity)) :
    leases.Acts (During E (Moved s r))
      (Exclusive.after (fun _ => During E (Moved { s with quiescing := true } r))
        (During E (Moved s r)) (quiesced result waiting world).1)
      world (quiesced result waiting world).2 := by
  obtain rfl | ⟨error, rfl⟩ := hresult
  · refine narrow_acts hticket id ⟨hsound.writer, hsound.operations, hsound.permits, hsound.past⟩
      ⟨rfl, .inl rfl, .inl rfl⟩ fun _ _ hmoved => ⟨fun _ _ _ _ _ hquiet => (nomatch hquiet), ?_⟩
    obtain ⟨rfl, hrests⟩ := hmoved
    exact ⟨rfl, hrests⟩
  · exact narrow_acts hticket id ⟨hsound.writer, hsound.operations, hsound.permits, hsound.past⟩
      ⟨rfl, .inl rfl, .inl rfl⟩ fun _ hseparate hmoved => ⟨hseparate, hmoved⟩

theorem tryQuiesce_tries (hticket : Ticketed E) :
    leases.Tries (During E (Moved s r)) (tryQuiesce lease)
      (fun _ => During E (Moved { s with quiescing := true } r)) (During E (Moved s r)) := by
  refine .act fun _ world hsound => quiesced_acts hticket hsound ?_
  unfold ActivityState.tryQuiesce
  split
  · exact .inl rfl
  · exact .inr ⟨_, rfl⟩

theorem beginQuiesce_tries (hticket : Ticketed E) :
    leases.Tries (During E (Moved s r)) (beginQuiesce lease)
      (fun _ => During E (Moved { s with quiescing := true } r)) (During E (Moved s r)) := by
  refine .bind (Q := fun _ => During E (Moved { s with quiescing := true } r))
    (.act fun _ world hsound => quiesced_acts hticket hsound ?_) fun _ => ?_
  · unfold ActivityState.registerQuiesce
    split
    · exact .inl rfl
    · exact .inr ⟨_, rfl⟩
  · exact .act fun _ world hsound => .of_view id
      ⟨hsound.writer, hsound.operations, hsound.permits, hsound.past⟩ rfl fun _ _ => id

theorem dropQuiesced_judges {R : List Reservation → Prop} (hticket : Ticketed E)
    (hactivity : s.activity = some lease) (hseparate : { s with quiescing := false }.Separate) :
    leases.Judges (During E fun view => Moved s r view ∧ R view.reservations) (dropQuiesced lease)
      fun _ => During E fun view =>
        Moved { s with quiescing := false } r view ∧ R view.reservations := by
  have hcases (state : ActivityState NamespaceLease) : state.dropQuiesced lease = state ∨
      state.dropQuiesced lease = { state with quiescing := false } := by
    unfold ActivityState.dropQuiesced
    split
    · exact .inr rfl
    · exact .inl rfl
  refine change_judges hticket (fun world => ?_) (fun world h => ⟨h.writer, h.operations, h.permits, h.past⟩)
    (fun world => ?_) fun world _ hlive _ hmoved => ?_
  · obtain h | h := hcases world.activity <;> simp only [World.Live, h] <;> exact id
  · obtain h | h := hcases world.activity <;> rw [h] <;> exact ⟨rfl, .inl rfl, .inl rfl⟩
  · obtain ⟨⟨rfl, hrests⟩, hreservations⟩ := hmoved
    have hdrop : world.activity.dropQuiesced lease = { world.activity with quiescing := false } := by
      have hlease : world.activity.lease = some lease := hactivity
      have hopen : world.activity.closed = false := by
        obtain h | h := hcases world.activity
        · simpa [World.Live, h] using hlive.2
        · simpa [World.Live, h] using hlive.2
      simp [ActivityState.dropQuiesced, hlease, hopen]
    rw [hdrop]
    exact ⟨hseparate, ⟨rfl, hrests⟩, hreservations⟩

theorem dropQuiesced_moved (hticket : Ticketed E) (hactivity : s.activity = some lease)
    (hseparate : { s with quiescing := false }.Separate) :
    leases.Judges (During E (Moved s r)) (dropQuiesced lease) fun _ =>
      During E (Moved { s with quiescing := false } r) :=
  (dropQuiesced_judges (R := fun _ => True) hticket hactivity hseparate).mono
    (fun _ _ h => ⟨h.1, fun ha => ⟨h.2 ha, trivial⟩⟩) fun _ _ _ h => ⟨h.1, fun ha => (h.2 ha).1⟩

theorem retireQuiesced_judges (hticket : Ticketed E) (hactivity : s.activity = some lease) :
    leases.Judges (During E (Moved s r)) (retireQuiesced lease) fun _ =>
      During E (Moved { s with activity := none, quiescing := false } r) := by
  refine change_judges hticket (fun world => ?_) (fun world h => ⟨h.writer, h.operations, h.permits, h.past⟩)
    (fun world => ?_) fun world _ _ _ hmoved => ?_
  · unfold ActivityState.retire
    split <;> exact id
  · unfold ActivityState.retire
    split
    · exact ⟨rfl, .inl rfl, .inr rfl⟩
    · exact ⟨rfl, .inl rfl, .inl rfl⟩
  · obtain ⟨rfl, hrests⟩ := hmoved
    have hlease : world.activity.lease = some lease := hactivity
    simp only [ActivityState.retire, hlease, if_true]
    exact ⟨fun _ _ _ _ hnone => (nomatch hnone), rfl, hrests⟩

theorem setActiveNamespace_judges {F : Epochs → Prop} {next : Option NamespaceLease}
    (hticket : Ticketed E) (hE : ∀ epochs, E epochs → F { epochs with current := next })
    (hnext : ∀ epochs, E epochs → ∀ lease, next = some lease →
      epochs.activated.head? = some lease ∧ epochs.owed = false) :
    leases.Judges (During E fun view => view.switches = s) (setActiveNamespace next) fun _ =>
      During F fun view => view.switches = s := by
  refine .act fun _ world hsound => ⟨id, ⟨hsound.writer, hsound.operations, hsound.permits, hsound.past⟩,
    fun alive _ halways hduring => ⟨{ halways with current := ?_, debt := ?_, settled := ?_ },
      hE _ hduring.1, hduring.2⟩⟩
  · exact fun lease hlease => (hnext _ hduring.1 lease hlease).1
  · intro howed
    cases next with
    | none => rfl
    | some lease => exact absurd ((hnext _ hduring.1 lease rfl).2.symm.trans howed) nofun
  · exact fun _ hnone => absurd hnone (hticket world.epochs hduring.1)

theorem publish_judges (hticket : Ticketed E)
    (hE : ∀ epochs, E epochs → epochs.activated.head? = some lease) :
    leases.Judges (During E fun view => view.switches = s) (change fun world =>
        { world with namespaceOperations := world.namespaceOperations.publish lease }) fun _ =>
      During E fun view => view.switches = { s with published := some lease } := by
  refine .act fun _ world hsound => ?_
  unfold NamespaceOperationState.publish
  by_cases hclosed : world.namespaceOperations.closed = true
  · simp only [if_pos hclosed]
    refine ⟨id, ⟨hsound.writer, hsound.operations, hsound.permits, hsound.past⟩, fun alive halive halways hduring =>
      ⟨halways, hduring.1, fun ha => ?_⟩⟩
    exact absurd hclosed (by simpa using (halive ha).1)
  · simp only [if_neg hclosed]
    refine ⟨id, ⟨hsound.writer, hsound.operations, hsound.permits, hsound.past⟩, fun alive _ halways hduring =>
      ⟨{ halways with bound := ?_, settled := ?_ }, hduring.1, fun ha => ?_⟩⟩
    · rintro other (hpublished | hactivity)
      · obtain rfl : lease = other := Option.some.inj hpublished
        exact List.mem_of_head? (hE _ hduring.1)
      · exact halways.bound other (.inr hactivity)
    · exact fun _ hnone => absurd hnone (hticket world.epochs hduring.1)
    · rw [← hduring.2 ha]
      rfl

theorem publishActivity_judges (hticket : Ticketed E)
    (hE : ∀ epochs, E epochs → epochs.activated.head? = some lease)
    (hwriter : s.writer = some lease) :
    leases.Judges (During E fun view => view.switches = s) (change fun world =>
        { world with activity := world.activity.publish lease }) fun _ =>
      During E fun view => view.switches = { s with activity := some lease } := by
  refine .act fun _ world hsound => ?_
  unfold ActivityState.publish
  by_cases hclosed : world.activity.closed = true
  · simp only [if_pos hclosed]
    refine ⟨id, ⟨hsound.writer, hsound.operations, hsound.permits, hsound.past⟩, fun alive halive halways hduring =>
      ⟨halways, hduring.1, fun ha => ?_⟩⟩
    exact absurd hclosed (by simpa using (halive ha).2)
  · simp only [if_neg hclosed]
    refine ⟨id, ⟨hsound.writer, hsound.operations, hsound.permits, hsound.past⟩, fun alive _ halways hduring =>
      ⟨{ halways with bound := ?_, settled := ?_, separate := ?_ }, hduring.1, fun ha => ?_⟩⟩
    · rintro other (hpublished | hactivity)
      · exact halways.bound other (.inl hpublished)
      · obtain rfl : lease = other := Option.some.inj hactivity
        exact List.mem_of_head? (hE _ hduring.1)
    · exact fun _ hnone => absurd hnone (hticket world.epochs hduring.1)
    · intro ha a b ha' _ hb _
      have hmine : world.writer.world.pending.active = some lease := by
        rw [← hwriter, ← hduring.2 ha]
        rfl
      exact Option.some.inj (ha'.symm.trans (hmine.trans hb))
    · rw [← hduring.2 ha]
      rfl

end Gates

section Writer

variable {lease : NamespaceLease} {reservation : Reservation} {t : Nat}

/-- The ways of the lock of `flush_for_retirement`. -/
inductive Registered (lease : NamespaceLease) (sent : Bool) (before : ClientState.World) :
    WriteResult → ClientState.World → Prop
  | refused (error : ClientStateWriteError) {after : ClientState.World}
      (herror : ∀ message, error ≠ .localState message) (hsame : Untouched before after) :
      Registered lease sent before (.error error) after
  | reserved {result : WriteResult} {after : ClientState.World}
      (hresult : result = if sent then .ok () else .error localError)
      (hfree : before.pending.retirement = none)
      (hactive : after.pending.active = before.pending.active)
      (hretirement : after.pending.retirement = some after.pending.sequence)
      (hreservations : after.reservations =
        ⟨lease, after.pending.sequence, false⟩ :: before.reservations)
      (hactivated : after.activated = before.activated) :
      Registered lease sent before result after

theorem requireEnqueue_cases (pending : PendingClientState) (lease : NamespaceLease) :
    pending.requireEnqueue lease = .ok () ∨
      ∃ error, pending.requireEnqueue lease = .error error ∧ ∀ message, error ≠ .localState message := by
  simp only [PendingClientState.requireEnqueue, PendingClientState.require,
    PendingClientState.requireUnreserved]
  split
  · simp only [both]
    split
    · exact .inr ⟨_, rfl, fun message heq => by cases heq⟩
    · split
      · exact .inr ⟨_, rfl, fun message heq => by cases heq⟩
      · exact .inl rfl
  · exact .inr ⟨_, rfl, fun message heq => by cases heq⟩

theorem nextSequence_cases (pending : PendingClientState) :
    (∃ sequence, pending.nextSequence = (.ok sequence, { pending with sequence })) ∨
      ∃ closed, pending.nextSequence =
        (.error .authorityExhausted, { pending with authorityExhausted := closed }) := by
  unfold PendingClientState.nextSequence
  by_cases hclosed : pending.authorityExhausted = true
  · exact .inr ⟨true, by rw [if_pos hclosed, ← hclosed]⟩
  · rw [if_neg hclosed]
    cases hnext : Session.checkedAdd1 pending.sequence with
    | some sequence => exact .inl ⟨sequence, rfl⟩
    | none => exact .inr ⟨true, rfl⟩

theorem flushForRetirement_registered (before : ClientState.World) (lease : NamespaceLease)
    (sent : Bool) : Registered lease sent before (before.flushForRetirement lease sent).1
      (before.flushForRetirement lease sent).2 := by
  unfold ClientState.World.flushForRetirement
  obtain hadmits | ⟨error, hrefused, herror⟩ := requireEnqueue_cases before.pending lease
  · have hfree := (ClientState.World.requireEnqueue_admits hadmits).2
    simp only [hadmits, ClientState.World.sequenced]
    obtain ⟨sequence, hnext⟩ | ⟨closed, hnext⟩ := nextSequence_cases before.pending
    · simp only [hnext]
      cases sent with
      | true => exact .reserved rfl hfree rfl rfl rfl rfl
      | false => exact .reserved rfl hfree rfl rfl rfl rfl
    · simp only [hnext]
      exact .refused _ (fun message heq => by cases heq) ⟨rfl, rfl, rfl, rfl⟩
  · simp only [hrefused]
    exact .refused _ herror (.refl before)

/-- A step of the writer that activates nothing narrows. -/
theorem writes_narrows {world : World} {event : ClientState.Event}
    (hactivated : (world.writer.step event).world.activated = world.writer.world.activated) :
    Narrows world.view (world.writes event).view := by
  refine ⟨?_, .inl rfl, .inl rfl⟩
  simp [World.view, World.epochs, World.activated, World.writes, hactivated]

/-- A session holds a reservation of the lease in the writer. -/
def Reserved (reservation : Reservation) (s r : Switches) (view : View) : Prop :=
  Moved { s with retirement := some reservation.generation } r view ∧
    reservation ∈ view.reservations

/-- A reservation of a lease in the writer, and whether its flush was proved. -/
def Proof (lease : NamespaceLease) (flushed : Bool) (reservation : Reservation) : Prop :=
  reservation.lease = lease ∧ reservation.flushed = flushed

theorem registerRetirement_tries (hticket : Ticketed E) :
    leases.Tries (During E (Moved s r)) (registerRetirement lease)
      (fun result alive view => Proof lease false result.1 ∧
        During E (Reserved result.1 s r) alive view)
      (During E (Moved s r)) := by
  refine .act fun answer world hsound => ?_
  have hafter := hsound.writes (.flushForRetirement lease answer.ok)
  have hregistered : Registered lease answer.ok world.writer.world
      (world.writer.world.flushForRetirement lease answer.ok).1
      (world.writes (.flushForRetirement lease answer.ok)).writer.world :=
    flushForRetirement_registered world.writer.world lease answer.ok
  generalize hresult : (world.writer.world.flushForRetirement lease answer.ok).1 = result
    at hregistered
  cases hregistered with
  | refused error herror hsame =>
    cases error with
    | localState message => exact absurd rfl (herror message)
    | _ => exact .of_view id hafter hsame.view fun _ _ => id
  | reserved hresult hfree hactive hretirement hreservations hactivated =>
    subst hresult
    have hmoved : Moved s r world.view → Reserved ⟨lease,
        (world.writes (.flushForRetirement lease answer.ok)).writer.world.pending.sequence, false⟩
        s r (world.writes (.flushForRetirement lease answer.ok)).view := by
      rintro ⟨rfl, hrests⟩
      refine ⟨⟨?_, hrests⟩, ?_⟩
      · show World.switches _ = _
        simp only [World.switches, hactive, hretirement]
        rfl
      · show _ ∈ (world.writes _).writer.world.reservations
        rw [hreservations]
        exact List.mem_cons_self
    have hnarrows := writes_narrows hactivated
    have hseparate : (world.writes (.flushForRetirement lease answer.ok)).switches.Separate :=
      fun a b _ hnone => by cases hretirement.symm.trans hnone
    cases hsent : answer.ok with
    | true =>
      rw [hsent] at hmoved hnarrows hseparate hafter
      refine Exclusive.Acts.given ?_ ⟨rfl, rfl⟩
      exact narrow_acts hticket id ⟨hafter.writer, hafter.operations, hafter.permits, hafter.past⟩ hnarrows
        fun _ _ h => ⟨hseparate, hmoved h⟩
    | false =>
      rw [hsent] at hmoved hnarrows hseparate hafter
      refine Exclusive.Acts.given ?_ ⟨rfl, rfl⟩
      exact narrow_acts hticket id hafter hnarrows fun _ _ h => ⟨hseparate, hmoved h⟩

/-- What a reservation names is still reserved in the writer. -/
theorem Reserved.holds {world : World} (h : Reserved reservation s r world.view)
    (hwriter : s.writer = some reservation.lease) :
    world.writer.world.holds reservation = true := by
  have hactive : world.writer.world.pending.active = s.writer :=
    congrArg Switches.writer h.1.1
  have hretirement : world.writer.world.pending.retirement = some reservation.generation :=
    congrArg Switches.retirement h.1.1
  simp [ClientState.World.holds, hretirement, hactive, hwriter]

theorem dropReservation_cases (world : World) (reservation : Reservation) :
    Narrows world.view (world.writes (.dropReservation reservation)).view := by
  refine writes_narrows ?_
  simp only [ClientState.System.step]
  split
  · simp only [ClientState.World.dropReservation]
    split <;> rfl
  · rfl

theorem dropReservation_judges (hticket : Ticketed E)
    (hwriter : s.writer = some reservation.lease) (hfree : s.retirement = none)
    (hseparate : s.Separate) :
    leases.Judges (During E (Reserved reservation s r)) (dropReservation reservation) fun _ =>
      During E (Moved s r) := by
  refine change_judges hticket (fun _ => id) (fun _ h => h.writes _)
    (fun world => dropReservation_cases world reservation) fun world _ _ _ hreserved => ?_
  have hholds := hreserved.holds hwriter
  have hmem : reservation ∈ world.writer.world.reservations := hreserved.2
  have hswitches : (world.writes (.dropReservation reservation)).switches = s := by
    have hbefore : world.switches = { s with retirement := some reservation.generation } :=
      hreserved.1.1
    have hafter : (world.writes (.dropReservation reservation)).switches =
        { world.switches with retirement := none } := by
      simp [World.writes, ClientState.System.step, hmem, ClientState.World.dropReservation, hholds,
        World.switches, ClientState.World.forget]
    rw [hafter, hbefore, ← hfree]
  exact ⟨hswitches ▸ hseparate, hswitches, hreserved.1.2⟩

theorem dropReservation_proof {flushed : Bool} (hticket : Ticketed E)
    (hwriter : s.writer = some lease) (hfree : s.retirement = none) (hseparate : s.Separate)
    (hproof : Proof lease flushed reservation) :
    leases.Judges (During E (Reserved reservation s r)) (dropReservation reservation) fun _ =>
      During E (Moved s r) :=
  dropReservation_judges hticket (hproof.1 ▸ hwriter) hfree hseparate

/-- The promise of an acknowledged flush. -/
theorem flushed_eq {writer : ClientState.World} {reservation : Reservation} {queued : QueuedWrite}
    (hfind : writer.acknowledged.find? (fun note => note.1 = ⟨reservation.generation,
      .flushForRetirement reservation.lease reservation.generation⟩) = some (queued, .ok ()))
    (hholds : writer.holds reservation = true) : writer.flushed reservation =
      { writer with reservations := { reservation with flushed := true } ::
          (writer.forget reservation).reservations } := by
  simp [ClientState.World.flushed, hfind, hholds]

theorem flushed_narrows (world : World) (reservation : Reservation) :
    Narrows world.view (world.writes (.flushed reservation)).view := by
  refine writes_narrows ?_
  have hdrop : (world.writer.world.dropReservation reservation).activated =
      world.writer.world.activated := by
    simp only [ClientState.World.dropReservation]
    split <;> rfl
  simp only [ClientState.System.step]
  split
  · simp only [ClientState.World.flushed]
    split
    · rfl
    · exact hdrop
    · split
      · rfl
      · exact hdrop
  · rfl

theorem proveFlushed_tries (hticket : Ticketed E) (hwriter : s.writer = some lease)
    (hproof : Proof lease false reservation) :
    leases.Tries (During E (Reserved reservation s r)) (proveFlushed reservation)
      (fun flushed alive view => Proof lease true flushed ∧
        During E (Reserved flushed s r) alive view)
      (During E (Reserved reservation s r)) := by
  refine .act fun _ world hsound => ?_
  have hwrites := hsound.writes (.flushed reservation)
  have hnarrows := flushed_narrows world reservation
  generalize hnote : world.acknowledgement
    ⟨reservation.generation, .flushForRetirement reservation.lease reservation.generation⟩ = note
  match note with
  | none | some (.error _) =>
    exact .of_view id ⟨hsound.writer, hsound.operations, hsound.permits, hsound.past⟩ rfl fun _ _ => id
  | some (.ok ()) =>
    obtain ⟨⟨queued, result⟩, hfind, hresult⟩ := Option.map_eq_some_iff.mp hnote
    obtain rfl : result = .ok () := hresult
    have hflushed (hreserved : Reserved reservation s r world.view) :
        world.writer.world.holds reservation = true ∧
        (world.writes (.flushed reservation)).writer.world =
          { world.writer.world with reservations := { reservation with flushed := true } ::
              (world.writer.world.forget reservation).reservations } := by
      have hholds := hreserved.holds (hproof.1 ▸ hwriter)
      refine ⟨hholds, ?_⟩
      rw [← flushed_eq hfind hholds]
      have hmem : reservation ∈ world.writer.world.reservations := hreserved.2
      simp [World.writes, ClientState.System.step, hmem, hproof.2]
    cases hholds : world.writer.world.holds reservation with
    | false =>
      refine narrow_acts hticket id ⟨hwrites.writer, hwrites.operations, hwrites.permits, hwrites.past⟩ hnarrows
        fun _ _ hreserved => ?_
      cases (hflushed hreserved).1.symm.trans hholds
    | true =>
      refine Exclusive.Acts.given ?_ ⟨hproof.1, rfl⟩
      refine narrow_acts hticket id ⟨hwrites.writer, hwrites.operations, hwrites.permits, hwrites.past⟩ hnarrows
        fun _ hseparate hreserved => ?_
      have hafter := (hflushed hreserved).2
      have hswitches : (world.writes (.flushed reservation)).switches = world.switches := by
        simp only [World.switches, hafter]
        rfl
      have hmem : { reservation with flushed := true } ∈
          (world.writes (.flushed reservation)).writer.world.reservations := by
        rw [hafter]
        exact List.mem_cons_self
      exact ⟨hswitches ▸ hseparate, ⟨hswitches.trans hreserved.1.1, hreserved.1.2⟩, hmem⟩

theorem flushForRetirement_tries (hticket : Ticketed E) (hwriter : s.writer = some lease)
    (hfree : s.retirement = none) (hseparate : s.Separate) :
    leases.Tries (During E (Moved s r)) (flushForRetirement lease)
      (fun flushed alive view => Proof lease true flushed ∧
        During E (Reserved flushed s r) alive view)
      (During E (Moved s r)) := by
  refine (registerRetirement_tries hticket).bind fun ⟨reservation, sent⟩ => .given fun hproof => ?_
  refine .releasing ?_ (dropReservation_proof hticket hwriter hfree hseparate hproof)
  cases sent with
  | true => exact proveFlushed_tries hticket hwriter hproof
  | false => exact .throw fun _ _ => id

theorem retireFlushed_writes {world : World} (hmem : reservation ∈ world.writer.world.reservations)
    (hflushed : reservation.flushed = true) (hholds : world.writer.world.holds reservation = true) :
    (world.writes (.retireFlushed reservation)).switches =
      { world.switches with writer := none, retirement := none } := by
  simp [World.writes, ClientState.System.step, hmem, hflushed, ClientState.World.retireFlushed,
    hholds, World.switches, ClientState.World.forget, PendingClientState.clearPrivate]

theorem retireFlushed_activated (writer : ClientState.System) (reservation : Reservation) :
    (writer.step (.retireFlushed reservation)).world.activated = writer.world.activated := by
  simp only [ClientState.System.step]
  split
  · simp only [ClientState.World.retireFlushed]
    split <;> rfl
  · rfl

/-- The proof is accepted as long as the gates are open. -/
theorem retireFlushed_tries (hticket : Ticketed E) (htransition : s.transition = some t)
    (hpublished : s.published = some lease) (hwriter : s.writer = some lease)
    (hfree : s.retirement = none) (hproof : Proof lease true reservation) :
    leases.Tries (During E (Reserved reservation s r)) (retireFlushed t reservation)
      (fun _ => During E (Moved { s with published := none, writer := none } r))
      (During E fun _ => False) := by
  refine .releasing (F := During E fun _ => False) (.act fun _ world hsound => ?_)
    (change_judges hticket (fun _ => id) (fun _ h => h.writes _)
      (fun world => dropReservation_cases world reservation) fun _ _ _ _ h => h.elim)
  simp only [NamespaceOperationState.retireFlushed]
  by_cases hmatches : (!world.namespaceOperations.closed) = true ∧
      world.namespaceOperations.transition = some t ∧
      world.namespaceOperations.active = some reservation.lease
  · simp only [if_pos hmatches]
    have hwrites := hsound.writes (.retireFlushed reservation)
    have hnarrows := writes_narrows (retireFlushed_activated world.writer reservation)
    refine narrow_acts hticket id ⟨hwrites.writer, hwrites.operations, hwrites.permits, hwrites.past⟩
      ⟨hnarrows.epochs, .inr rfl, .inl rfl⟩ fun _ _ hreserved => ?_
    have hholds := hreserved.holds (hproof.1 ▸ hwriter)
    have hafter := retireFlushed_writes hreserved.2 hproof.2 hholds
    have hbefore : world.switches = { s with retirement := some reservation.generation } :=
      hreserved.1.1
    rw [hbefore] at hafter
    have hswitches : World.switches { world.writes (.retireFlushed reservation) with
        namespaceOperations := { world.namespaceOperations with active := none } } =
        { s with published := none, writer := none } := by
      calc World.switches { world.writes (.retireFlushed reservation) with
            namespaceOperations := { world.namespaceOperations with active := none } }
          = { (world.writes (.retireFlushed reservation)).switches with published := none } := rfl
        _ = { s with published := none, writer := none } := by rw [hafter, ← hfree]
    refine ⟨?_, hswitches, hreserved.1.2⟩
    rw [hswitches]
    exact fun _ _ hnone => by cases hnone
  · simp only [if_neg hmatches]
    refine narrow_acts hticket id ⟨hsound.writer, hsound.operations, hsound.permits, hsound.past⟩
      ⟨rfl, .inl rfl, .inl rfl⟩ fun hlive _ hreserved => absurd ?_ hmatches
    have hbefore : world.switches = { s with retirement := some reservation.generation } :=
      hreserved.1.1
    refine ⟨by simpa using hlive.1, ?_, ?_⟩
    · exact (congrArg Switches.transition hbefore).trans htransition
    · exact (congrArg Switches.published hbefore).trans (hproof.1 ▸ hpublished)

theorem activate_cases (writer : ClientState.World) (lease : NamespaceLease) :
    (∃ error, writer.activate lease = (.error error, writer)) ∨
      ∃ after, writer.activate lease = (.ok (), after) ∧
        after.pending.active = some lease ∧
        after.pending.retirement = writer.pending.retirement ∧
        after.activated.map (·.1) = lease :: writer.activated.map (·.1) := by
  unfold ClientState.World.activate
  cases writer.pending.requireUnreserved with
  | error error => exact .inl ⟨error, rfl⟩
  | ok => exact .inr ⟨_, rfl, rfl, rfl, rfl⟩

/-- An activation comes after all others. -/
theorem writerActivate_tries {ticket : Nat} (hactivity : s.activity = none) :
    leases.Tries (During (Clean ticket none lease.namespaceEpoch) (Moved s r)) (writerActivate lease)
      (fun _ => During (Newest ticket none lease) fun view =>
        view.switches = { s with writer := some lease })
      (During (Clean ticket none lease.namespaceEpoch) (Moved s r)) := by
  refine .act fun _ world hsound => ?_
  have hwrites := hsound.writes (.activate lease)
  have hstep : (world.writes (.activate lease)).writer.world =
    (world.writer.world.activate lease).2 := rfl
  obtain ⟨error, herror⟩ | ⟨after, hafter, hactive, hretirement, hactivated⟩ :=
    activate_cases world.writer.world lease
  · rw [herror] at hstep ⊢
    have hsame : Untouched world.writer.world (world.writer.step (.activate lease)).world := by
      rw [show (world.writer.step (.activate lease)).world = world.writer.world from hstep]
      exact .refl _
    exact .of_view id hwrites hsame.view fun _ _ => id
  · rw [hafter] at hstep ⊢
    refine ⟨id, hwrites, fun alive _ halways hduring => ?_⟩
    obtain ⟨⟨⟨⟨hticket, hsequence, hcurrent⟩, hroom, hpast⟩, hclean⟩, hmoved⟩ := hduring
    have hleases : (world.writes (.activate lease)).activated = lease :: world.activated := by
      show List.map _ (world.writes (.activate lease)).writer.world.activated = _
      rw [hstep]
      exact hactivated
    have hepochs : (world.writes (.activate lease)).view.epochs =
        { world.epochs with activated := lease :: world.activated } := by
      show Epochs.mk _ _ _ _ _ = _
      rw [hleases]
      rfl
    have hswitches (ha : alive) : (world.writes (.activate lease)).view.switches =
        { s with writer := some lease } := by
      rw [← (hmoved ha).1]
      show Switches.mk _ _ _ _ _ _ _ = _
      rw [hstep, hactive, hretirement]
      rfl
    refine ⟨⟨?_, ?_, ?_, ?_, ?_, ?_, ?_⟩, ⟨⟨?_, ?_, ?_⟩, ?_, ?_⟩, hswitches⟩
    case refine_7 =>
      intro ha a b _ _ hb
      have hnone := congrArg Switches.activity (hswitches ha)
      exact absurd (hb.symm.trans (hnone.trans hactivity)) nofun
    all_goals rw [show leases.view (world.writes (.activate lease)) =
      (world.writes (.activate lease)).view from rfl, hepochs]
    · exact List.pairwise_cons.mpr ⟨fun earlier hmem => hpast earlier hmem, halways.increasing⟩
    · exact List.forall_mem_cons.mpr ⟨hroom.trans hsequence.ge, halways.issued⟩
    · exact fun other hother => absurd (hcurrent.symm.trans hother) nofun
    · exact fun _ => hcurrent
    · exact fun other hother => List.mem_cons_of_mem _ (halways.bound other hother)
    · exact fun _ hnone => absurd (hticket.symm.trans hnone) nofun
    · exact hticket
    · exact hsequence
    · exact hcurrent
    · rfl
    · exact hclean

theorem leaving_of_owed {view : View} {transition : Option Nat} (howed : view.epochs.owed = true)
    (hcurrent : view.epochs.current = none) (hswitches : view.switches =
      { Switches.all none with transition := transition, writer := some lease }) :
    Leaving transition view := by
  refine ⟨by rw [hswitches], .inr ⟨howed, hcurrent, ?_⟩⟩
  rw [hswitches]
  rfl

theorem leaving_of_clean {view : View} {transition : Option Nat}
    (hcurrent : view.epochs.current = none)
    (hswitches : view.switches = { Switches.all none with transition := transition }) :
    Leaving transition view := by
  refine ⟨by rw [hswitches], .inl ?_⟩
  rw [hswitches, hcurrent]
  rfl

theorem dropTransition_leaving (hticket : Ticketed E) :
    leases.Judges (During E (Leaving (some t))) (dropTransition t) fun _ =>
      During E View.Settled := by
  refine (dropTransition_judges hticket fun view h => h.1).mono (fun _ _ => id)
    fun _ _ view h => ⟨h.1, fun ha => ?_⟩
  obtain ⟨before, hleaving, hnarrows, -, hswitches⟩ := h.2 ha
  have hrests := hnarrows.rests hleaving.2
  rwa [← hswitches] at hrests

theorem dropPending_none {P : Prop → View → Prop} :
    leases.Judges P (dropPending none) fun _ => P :=
  Exclusive.Judges.bind (Q := fun _ => P) (.done fun _ _ => id) fun _ =>
    ask_judges.bind fun _ => owes_judges fun _ => rfl

theorem deactivate_cases (writer : ClientState.World) (lease : NamespaceLease) :
    (∃ error, writer.deactivate lease = (.error error, writer)) ∨
      ∃ after, writer.deactivate lease = (.ok (), after) ∧ after.pending.active = none ∧
        after.pending.retirement = writer.pending.retirement ∧
        after.activated = writer.activated := by
  unfold ClientState.World.deactivate
  cases writer.pending.requireEnqueue lease with
  | error error => exact .inl ⟨error, rfl⟩
  | ok => exact .inr ⟨_, rfl, rfl, rfl, rfl⟩

theorem owed_candidateWriter (slot : Option CleanupDebt) :
    (updateCleanupDebt (fun debt => { debt with candidateWriter := true }) slot).any
      (·.candidateWriter) = true := by
  simp [updateCleanupDebt, CleanupDebt.isEmpty]

/-- A debt is recorded while nothing is active. -/
theorem always_of_owed {alive : Prop} {view next : View}
    (hepochs : next.epochs = { view.epochs with owed := true })
    (hswitches : next.switches = view.switches) (hcurrent : view.epochs.current = none)
    (hticket : view.epochs.ticket ≠ none) (halways : view.Always alive) : next.Always alive := by
  obtain ⟨hincreasing, hissued, hactive, -, hbound, -, hseparate⟩ := halways
  refine ⟨?_, ?_, ?_, ?_, ?_, ?_, fun ha => hswitches ▸ hseparate ha⟩
  all_goals rw [hepochs]
  · exact hincreasing
  · exact hissued
  · exact hactive
  · exact fun _ => hcurrent
  · rw [hswitches]
    exact hbound
  · exact fun _ hnone => absurd hnone hticket

/-- Either the writer is cleaned up or its debt is recorded. -/
theorem dropPending_some {ticket : Nat} {transition : Option Nat} :
    leases.Judges (During (Newest ticket none lease) fun view => view.switches =
        { Switches.all none with transition := transition, writer := some lease })
      (dropPending (some lease)) fun _ => During (Held ticket none) (Leaving transition) := by
  refine Exclusive.Judges.bind (Q := fun _ => During (Held ticket none) (Leaving transition)) ?_
    fun _ => ask_judges.bind fun _ => owes_judges fun _ => rfl
  refine .act fun _ world hsound => ?_
  have hwrites := hsound.writes (.deactivate lease)
  have hstep : (world.writes (.deactivate lease)).writer.world =
    (world.writer.world.deactivate lease).2 := rfl
  obtain ⟨error, herror⟩ | ⟨after, hafter, hactive, hretirement, hactivated⟩ :=
    deactivate_cases world.writer.world lease
  · rw [herror] at hstep ⊢
    have hsame : Untouched world.writer.world (world.writer.step (.deactivate lease)).world := by
      rw [show (world.writer.step (.deactivate lease)).world = world.writer.world from hstep]
      exact .refl _
    have hswitches := congrArg View.switches hsame.view
    have hepochs : View.epochs (World.view ((world.writes (.deactivate lease)).owes fun debt =>
        { debt with candidateWriter := true })) = { world.view.epochs with owed := true } := by
      calc World.epochs ((world.writes (.deactivate lease)).owes fun debt =>
            { debt with candidateWriter := true })
          = { (world.writes (.deactivate lease)).view.epochs with owed := true } :=
            congrArg (Epochs.mk _ _ _ _) (owed_candidateWriter _)
        _ = { world.epochs with owed := true } := by rw [hsame.view]; rfl
    refine ⟨id, ⟨hwrites.writer, hwrites.operations, hwrites.permits, hwrites.past⟩,
      fun alive _ halways hduring => ?_⟩
    obtain ⟨hnewest, hbefore⟩ := hduring
    have hafter := always_of_owed hepochs hswitches hnewest.current (Newest.ticketed _ hnewest)
      halways
    refine ⟨hafter, ?_, fun ha => leaving_of_owed (congrArg Epochs.owed hepochs)
        ((congrArg Epochs.current hepochs).trans hnewest.current) (hswitches.trans (hbefore ha))⟩
    show Held ticket none (View.epochs (World.view _))
    rw [hepochs]
    exact ⟨hnewest.ticket, hnewest.sequence, hnewest.current⟩
  · rw [hafter] at hstep ⊢
    have hnarrows : Narrows world.view (world.writes (.deactivate lease)).view :=
      writes_narrows (by rw [← hactivated]; exact congrArg ClientState.World.activated hstep)
    have hswitches : (world.writes (.deactivate lease)).switches =
        { world.switches with writer := none } := by
      show Switches.mk _ _ _ _ _ _ _ = _
      rw [hstep, hactive, hretirement]
      rfl
    have hacts : leases.Acts (During (Held ticket none) fun view => view.epochs.current = none ∧
        view.switches = { Switches.all none with transition := transition, writer := some lease })
        (During (Held ticket none) (Leaving transition)) world
        (world.writes (.deactivate lease)) := by
      refine narrow_acts Held.ticketed id hwrites hnarrows fun _ _ hbefore => ⟨?_, ?_⟩
      · exact fun _ _ hnone => absurd ((congrArg Switches.writer hswitches).symm.trans hnone) nofun
      · refine leaving_of_clean ((congrArg Epochs.current hnarrows.epochs).trans hbefore.1) ?_
        show World.switches _ = _
        rw [hswitches, show world.switches = _ from hbefore.2]
        rfl
    exact hacts.mono (fun _ _ h => ⟨h.1.toHeld, fun ha => ⟨h.1.current, h.2 ha⟩⟩) fun _ _ => id

end Writer

end ArtForgeStudio.AccountTransition
