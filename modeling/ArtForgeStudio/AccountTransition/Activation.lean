import ArtForgeStudio.AccountTransition.Steps

/-! # Activations and billing switches

Wherever an activation stops, what it holds is released: the old lease is active as before, or
nothing is, or the new lease is.
-/

namespace ArtForgeStudio.AccountTransition

open ArtForgeStudio.Api ArtForgeStudio.ClientState ArtForgeStudio.Concurrency

def Owns (id : Nat) (epochs : Epochs) : Prop := epochs.ticket = some id

/-- A session that has just begun has not activated anything. -/
def Begun (id : Nat) (epochs : Epochs) : Prop := Next id epochs.current id epochs

theorem Next.begun {id : Nat} {current : Option NamespaceLease} {epochs : Epochs}
    (h : Next id current id epochs) : Begun id epochs := by
  rw [Begun, h.current]
  exact h

/-- The session may drop its ticket. -/
def Over (id : Nat) : Prop → View → Prop := During (Owns id) View.Settled

theorem Owns.ticketed {id : Nat} : Ticketed (Owns id) := fun _ h => by simp [show _ = _ from h]

section Rules

variable {E E' : Epochs → Prop} {A B : View → Prop} {alive : Prop} {view : View}

theorem During.mono (h : During E A alive view) (hE : ∀ epochs, E epochs → E' epochs)
    (hA : E view.epochs → A view → B view) : During E' B alive view :=
  ⟨hE _ h.1, fun ha => hA h.1 (h.2 ha)⟩

end Rules

variable {ticket t : Nat} {lease : NamespaceLease} {c : Option NamespaceLease}

/-- The switches while the transition is held and one lease is active everywhere. -/
def held (t : Nat) (lease : Option NamespaceLease) : Switches :=
  { Switches.all lease with transition := some t }

/-- The switches while the writer alone has the candidate. -/
def candidate (transition : Option Nat) (lease : NamespaceLease) : Switches :=
  { Switches.all none with transition := transition, writer := some lease }

theorem over_of_settled {E : Epochs → Prop} {alive : Prop} {view : View}
    (h : During E View.Settled alive view) (hE : ∀ epochs, E epochs → epochs.ticket = some ticket) :
    Over ticket alive view :=
  h.mono hE fun _ => id

theorem dropTransition_none :
    leases.Judges (During (Clean ticket none ticket) fun view => view.switches = held t none)
      (dropTransition t) fun _ => Over ticket := by
  refine (dropTransition_switches Clean.ticketed rfl).mono (fun _ _ => id) fun _ _ _ h =>
    h.mono (fun _ h => h.ticket) fun hnext hswitches => .inl (hswitches.trans ?_)
  rw [hnext.current]
  rfl

theorem loadCandidate_tries {P : Prop → View → Prop} :
    leases.Tries P (loadCandidate t ticket)
      (fun lease alive view => lease.namespaceEpoch = ticket ∧ P alive view) P := by
  refine .bind (read_tries (fun lease => lease.namespaceEpoch = ticket) ?_) fun lease =>
    .given fun hlease => ?_
  · intro answer world result hresult
    split at hresult
    · exact Except.ok.inj hresult ▸ rfl
    · cases hresult
  refine .bind (read_tries (fun lease => lease.namespaceEpoch = ticket) ?_) fun lease =>
    .given fun hlease => ?_
  · intro answer world result hresult
    split at hresult
    · exact Except.ok.inj hresult ▸ hlease
    · split at hresult
      · exact Except.ok.inj hresult ▸ hlease
      · cases hresult
  refine (keeps_outside P).bind fun _ => (keeps_requireUnpublished _ _ P).bind fun _ =>
    (keeps_outside P).bind fun _ => .pure fun _ _ hP => ⟨hlease, hP⟩

/-- The writer has the candidate, and nothing else has. -/
theorem activate_tries :
    leases.Tries (During (Clean ticket none lease.namespaceEpoch) fun view =>
        view.switches = held t none) (writerActivate lease)
      (fun _ => During (Newest ticket none lease) fun view =>
        view.switches = candidate (some t) lease)
      (During (Clean ticket none lease.namespaceEpoch) fun view => view.switches = held t none) := by
  refine (writerActivate_tries (s := held t none) (r := .all none) rfl).mono ?_
    (fun _ _ _ => id) fun _ _ h => h.mono (fun _ => id) fun _ hmoved => hmoved.1
  exact fun _ _ h => h.mono (fun _ => id) fun hnext hswitches =>
    ⟨hswitches, .inl (by rw [hnext.current])⟩

/-- The part of an activation that can leave the writer with the candidate. -/
theorem activateCandidate_tries (hlease : lease.namespaceEpoch = ticket) :
    leases.Tries (During (Clean ticket none ticket) fun view => view.switches = held t none)
      (activateCandidate t lease)
      (fun prepared alive view => prepared = ⟨lease, some t⟩ ∧
        During (Newest ticket none lease) (fun view => view.switches = candidate (some t) lease)
          alive view)
      (Over ticket) := by
  subst hlease
  refine .bind (Q := fun _ => During (Newest lease.namespaceEpoch none lease) fun view =>
    view.switches = candidate (some t) lease) ?_ fun _ => ?_
  · refine .releasing (F := During (Clean lease.namespaceEpoch none lease.namespaceEpoch)
      fun view => view.switches = held t none) ?_
      (dropTransition_none.bind fun _ => dropPending_none)
    exact (keeps_requireUnpublished _ _ _).bind fun _ => (keeps_prepareActivity _).bind fun _ =>
      activate_tries
  · refine .bind (.releasing (keeps_outside _) ?_) fun _ => .pure fun _ _ h => ⟨rfl, h⟩
    refine (dropTransition_switches Newest.ticketed rfl).bind fun _ =>
      dropPending_some.mono (fun _ _ => id) fun _ _ _ h => h.mono (fun _ h => h.ticket) fun _ =>
        leaving_none

theorem enterNew_tries :
    leases.Tries (During (Clean ticket none ticket) fun view => view.switches = held t none)
      (enterNew t ticket)
      (fun prepared alive view => prepared.transition = some t ∧
        During (Newest ticket none prepared.lease)
          (fun view => view.switches = candidate (some t) prepared.lease) alive view)
      (Over ticket) := by
  refine .bind (.releasing (keeps_outside _) dropTransition_none) fun _ => ?_
  refine .bind (.releasing loadCandidate_tries
    (dropPending_none.bind fun _ => dropTransition_none)) fun lease => .given fun hlease => ?_
  refine (activateCandidate_tries hlease).mono (fun _ _ => id) ?_ fun _ _ => id
  rintro prepared alive view ⟨rfl, h⟩
  exact ⟨rfl, h⟩

/-- The switches while the activity of a lease is quiesced. -/
def quiet (t : Nat) (lease : NamespaceLease) : Switches :=
  { held t (some lease) with quiescing := true }

theorem quiet_separate : (quiet t lease).Separate :=
  fun _ _ _ _ _ hquiet => (nomatch hquiet)

theorem held_separate : (held t c).Separate :=
  fun _ _ ha _ hb _ => Option.some.inj (ha.symm.trans hb)

section Retirement

variable {E : Epochs → Prop} {r : Switches} {reservation : Reservation} {cover : Option RetirementCover}

theorem keeps_ite {α : Type} {condition : Prop} [Decidable condition] {one other : Fallible α}
    (h : Keeps one) (h' : Keeps other) : Keeps (if condition then one else other) := by
  split
  · exact h
  · exact h'

theorem keeps_cover (cover : RetirementCover) (old : NamespaceLease) : Keeps (cover.persist old) :=
  .bind (keeps_ite (keeps_pure ()) (keeps_throw _)) fun _ =>
    .bind (keeps_retryClientStateWrite (keeps_persistChecked _)) fun _ =>
      keeps_retryClientStateWrite (keeps_persistChecked _)

theorem flush_run {ε : Type} (hticket : Ticketed E) :
    leases.Tries (During E (Moved (quiet t lease) r))
      (ExceptT.lift (flushForRetirement lease).run : ExceptT ε Action _)
      (fun result => Exclusive.after (fun flushed alive view => Proof lease true flushed ∧
        During E (Reserved flushed (quiet t lease) r) alive view)
        (During E (Moved (quiet t lease) r)) result)
      (During E (Moved (quiet t lease) r)) :=
  .lift (flushForRetirement_tries hticket rfl rfl quiet_separate).run

theorem flushOld_tries (hticket : Ticketed E) :
    leases.Tries (During E (Moved (quiet t lease) r)) (flushOld lease cover)
      (fun flushed alive view => Proof lease true flushed ∧
        During E (Reserved flushed (quiet t lease) r) alive view)
      (During E (Moved (quiet t lease) r)) := by
  refine (flush_run hticket).bind fun first => ?_
  match first with
  | .ok flushed => exact .pure fun _ _ => id
  | .error (.localState message) =>
    match cover with
    | none => exact .throw fun _ _ => id
    | some cover =>
      refine (keeps_cover cover lease _).bind fun _ => (flush_run hticket).bind fun second => ?_
      match second with
      | .ok flushed => exact .pure fun _ _ => id
      | .error error => exact .throw fun _ _ => id
  | .error .staleLease | .error .retirementInProgress | .error .authorityExhausted =>
    exact .throw fun _ _ => id

theorem retireOld_tries :
    leases.Tries (During (Clean ticket (some lease) ticket) (Moved (held t (some lease)) r))
      (retireOld t lease cover)
      (fun _ => During (Clean ticket none ticket) fun view => view.switches = held t none)
      (During (Clean ticket (some lease) ticket) (Moved (held t (some lease)) r)) := by
  refine (beginQuiesce_tries Clean.ticketed).bind fun _ => ?_
  refine .bind (Q := fun _ => During (Clean ticket (some lease) ticket)
    (Moved { quiet t lease with published := none, writer := none } r)) ?_ fun _ => ?_
  · refine .releasing (F := During (Clean ticket (some lease) ticket) (Moved (quiet t lease) r)) ?_
      (dropQuiesced_moved (s := quiet t lease) Clean.ticketed rfl held_separate)
    refine (flushOld_tries Clean.ticketed).bind fun flushed => .given fun hproof => ?_
    exact (retireFlushed_tries Clean.ticketed rfl rfl rfl rfl hproof).mono (fun _ _ => id)
      (fun _ _ _ => id) fun _ _ h => h.mono (fun _ => id) fun _ => False.elim
  refine .bind (.lift (retireQuiesced_judges Clean.ticketed rfl)) fun _ => ?_
  refine .lift ((setActiveNamespace_judges (s := held t none)
    (E := Clean ticket (some lease) ticket) Clean.ticketed ?_ ?_).mono
    (fun _ _ h => h.mono (fun _ => id) fun _ hmoved => hmoved.1) fun _ _ _ => id)
  · exact fun epochs h => { h with current := rfl }
  · exact fun _ _ _ hnone => (nomatch hnone)

theorem keeps_checkLogout (input : ActivationInput) (old : Option NamespaceLease) :
    Keeps (checkLogout input old) := by
  cases input with
  | logout scope token => exact keeps_ite (keeps_pure ()) (keeps_throw _)
  | _ => exact keeps_pure ()

theorem keeps_settleRetirement (input : ActivationInput) (retired : Bool) :
    Keeps (settleRetirement input retired) := by
  refine .bind (keeps_cleanup fun _ _ => rfl) fun ui => .bind ?_ fun credentials =>
    .bind ?_ fun remote => keeps_ite (keeps_pure ()) (keeps_throw _)
  · exact keeps_ite (keeps_cleanup fun _ _ => rfl) (keeps_pure true)
  · match input with
    | .logout _ (some _) => exact keeps_cleanup fun _ _ => rfl
    | .logout _ none | .login | .resume | .preparedSwitch _ => exact keeps_pure true

theorem leaving_of_held {alive : Prop} {view : View}
    (h : During (Clean ticket c ticket) (fun view => view.switches = held t c) alive view) :
    During (Owns ticket) (Leaving (some t)) alive view := by
  refine h.mono (fun _ h => h.ticket) fun hnext hswitches => ⟨by rw [hswitches]; rfl, .inl ?_⟩
  rw [hswitches, hnext.current]
  rfl

/-- The old lease is gone, or nothing has happened to it. -/
theorem leaveOld_tries (input : ActivationInput) :
    leases.Tries (During (Clean ticket c ticket) (Moved (held t c) (.all c)))
      (leaveOld input t cover)
      (fun _ => During (Clean ticket none ticket) fun view => view.switches = held t none)
      (During (Owns ticket) (Leaving (some t))) := by
  refine .bind (Q := fun old alive view => old = c ∧
    During (Clean ticket c ticket) (Moved (held t c) (.all c)) alive view) ?_ fun old =>
    .given fun hold => ?_
  · exact .act fun _ world hsound => ⟨id, hsound, fun _ _ halways hduring =>
      ⟨halways, hduring.1.current, hduring⟩⟩
  subst hold
  have hfailed : ∀ alive view, During (Clean ticket old ticket) (Moved (held t old) (.all old)) alive view →
      During (Owns ticket) (Leaving (some t)) alive view := fun _ _ h =>
    leaving_of_held (h.mono (fun _ => id) fun _ hmoved => hmoved.1)
  refine .bind ((keeps_checkLogout input old _).mono (fun _ _ => id) (fun _ _ _ => id) hfailed)
    fun _ => .bind (Q := fun _ => During (Clean ticket none ticket) fun view =>
      view.switches = held t none) ?_ fun _ =>
    (keeps_settleRetirement input _ _).mono (fun _ _ => id) (fun _ _ _ => id)
      fun _ _ => leaving_of_held
  cases old with
  | none => exact .pure fun _ _ h => h.mono (fun _ => id) fun _ hmoved => hmoved.1
  | some old => exact retireOld_tries.mono (fun _ _ => id) (fun _ _ _ => id) hfailed

end Retirement

/-- What an activation that may be published leaves to the window. -/
def Prepared (ticket : Nat) (prepared : PreparedActivation) (alive : Prop) (view : View) : Prop :=
  match prepared.transition with
  | some t => During (Newest ticket none prepared.lease)
      (fun view => view.switches = candidate (some t) prepared.lease) alive view
  | none => During (Held ticket (some prepared.lease)) View.Settled alive view

def AfterPreparation (ticket : Nat) : Option PreparedActivation → Prop → View → Prop
  | some prepared => Prepared ticket prepared
  | none => Over ticket

theorem clean_of_settled {alive : Prop} {view : View}
    (h : During (Next ticket c ticket) View.Settled alive view) (hclean : view.epochs.owed = false) :
    During (Clean ticket c ticket) (Moved (.all c) (.all c)) alive view := by
  refine ⟨⟨h.1, hclean⟩, fun ha => ?_⟩
  obtain hall | ⟨howed, -⟩ := h.2 ha
  · rw [h.1.current] at hall
    exact ⟨hall, .inl (by rw [h.1.current])⟩
  · exact absurd (hclean.symm.trans howed) nofun

/-- An activation goes on only when no candidate is left in the writer. -/
theorem checkCleanupDebt_tries (explicitLogin : Bool) :
    leases.Tries (During (Next ticket c ticket) View.Settled) (checkCleanupDebt explicitLogin)
      (fun _ => During (Clean ticket c ticket) (Moved (.all c) (.all c)))
      (During (Next ticket c ticket) View.Settled) := by
  refine .act fun _ world hsound => ⟨id, hsound, fun _ _ halways hduring => ⟨halways, ?_⟩⟩
  cases hdebt : world.cleanupFailure with
  | none => exact clean_of_settled hduring (congrArg (Option.any _) hdebt)
  | some debt =>
    by_cases hrefused : (!explicitLogin || debt.candidateWriter) = true
    · simp only [hrefused, if_true]
      exact hduring
    · simp only [hrefused]
      simp only [Bool.or_eq_true, not_or, Bool.not_eq_true] at hrefused
      exact clean_of_settled hduring ((congrArg (Option.any _) hdebt).trans hrefused.2)

theorem enterNext_tries (input : ActivationInput) :
    leases.Tries (During (Clean ticket none ticket) fun view => view.switches = held t none)
      (enterNext input t ticket) (AfterPreparation ticket) (Over ticket) := by
  have hlogout : leases.Tries (During (Clean ticket none ticket) fun view =>
      view.switches = held t none)
      (ExceptT.lift (dropTransition t) >>= fun _ => pure none : Fallible (Option PreparedActivation))
      (AfterPreparation ticket) (Over ticket) :=
    .bind (.lift dropTransition_none) fun _ => .pure fun _ _ => id
  have henter : leases.Tries (During (Clean ticket none ticket) fun view =>
      view.switches = held t none)
      (enterNew t ticket >>= fun prepared => pure (some prepared))
      (AfterPreparation ticket) (Over ticket) := by
    refine enterNew_tries.bind fun prepared => .pure ?_
    rintro alive view ⟨htransition, h⟩
    simpa [AfterPreparation, Prepared, htransition] using h
  cases input with
  | logout scope token => exact hlogout
  | _ => exact henter

theorem prepareActivation_tries (input : ActivationInput) (cover : Option RetirementCover) :
    leases.Tries (During (Begun ticket) View.Settled) (prepareActivation input ticket cover)
      (AfterPreparation ticket) (Over ticket) := by
  refine .fix (fun view => view.epochs.current) fun c => ?_
  have hsettled : ∀ alive view, During (Next ticket c ticket) View.Settled alive view →
      Over ticket alive view := fun _ _ h => over_of_settled h fun _ h => h.ticket
  refine .mono (P := During (Next ticket c ticket) View.Settled) (F := Over ticket) ?_ ?_
    (fun _ _ _ => id) fun _ _ => id
  · refine .bind ((keeps_outside _).mono (fun _ _ => id) (fun _ _ _ => id) hsettled) fun _ => ?_
    refine .bind ((checkCleanupDebt_tries _).mono (fun _ _ => id) (fun _ _ _ => id) hsettled)
      fun _ => ?_
    refine .bind ((beginTransition_tries Clean.ticketed).mono (fun _ _ => id) (fun _ _ _ => id)
      fun _ _ h => over_of_settled (h.mono (fun _ => id) fun _ hmoved => ?_) fun _ h => h.ticket)
      fun t => ?_
    · rw [View.Settled, hmoved.1]
      exact hmoved.2
    · exact .bind (.releasing (leaveOld_tries input) (dropTransition_leaving Owns.ticketed))
        fun _ => enterNext_tries input
  · rintro alive view ⟨rfl, h⟩
    exact h

theorem prepareBillingSwitch_tries (scope : Api.SessionScope) :
    leases.Tries (During (Begun ticket) View.Settled) (prepareBillingSwitch scope)
      (Prepared ticket) (Over ticket) := by
  have hsettled : ∀ alive view, During (Begun ticket) View.Settled alive view →
      Over ticket alive view := fun _ _ h => over_of_settled h fun _ h => h.ticket
  refine .bind (Q := fun lease => During (Held ticket (some lease)) View.Settled) ?_ fun lease =>
    .bind ((keeps_outside _).mono (fun _ _ => id) (fun _ _ _ => id) fun _ _ h =>
      over_of_settled h fun _ h => h.ticket) fun _ => .pure fun _ _ => id
  refine .act fun _ world hsound => ⟨id, hsound, fun alive _ halways hduring => ⟨halways, ?_⟩⟩
  cases hfilter : world.activeNamespace.filter (scopeMatches · scope) with
  | none => exact hsettled _ _ hduring
  | some lease =>
    have hcurrent : world.activeNamespace = some lease :=
      Option.eq_some_of_filter_eq_some hfilter
    exact ⟨⟨hduring.1.ticket, hduring.1.sequence, hcurrent⟩, hduring.2⟩

theorem prepareActivationWithCover_tries (input : ActivationInput)
    (cover : Option RetirementCover) :
    leases.Tries (During (Begun ticket) View.Settled)
      (prepareActivationWithCover input ticket cover) (AfterPreparation ticket) (Over ticket) := by
  cases input with
  | preparedSwitch scope =>
    exact (prepareBillingSwitch_tries scope).bind fun _ => .pure fun _ _ => id
  | _ => exact prepareActivation_tries _ cover

section Window

variable {prepared : PreparedActivation}

theorem drop_judges :
    leases.Judges (Prepared ticket prepared) prepared.drop fun _ => Over ticket := by
  unfold Prepared PreparedActivation.drop
  cases prepared.transition with
  | none => exact .done fun _ _ h => over_of_settled h fun _ h => h.ticket
  | some t =>
    refine dropPending_some.bind fun _ => (dropTransition_leaving Held.ticketed).mono
      (fun _ _ => id) fun _ _ _ h => over_of_settled h fun _ h => h.ticket

/-- A lease that the writer has is put in place everywhere. -/
theorem publish_candidate :
    leases.Judges (During (Newest ticket none lease) fun view =>
        view.switches = candidate (some t) lease) (PreparedActivation.publish ⟨lease, some t⟩)
      fun _ => During (Newest ticket (some lease) lease) fun view =>
        view.switches = .all (some lease) := by
  refine (publish_judges Newest.ticketed fun _ h => h.newest).bind fun _ => ?_
  refine (dropTransition_switches Newest.ticketed rfl).bind fun _ => ?_
  refine (setActiveNamespace_judges (F := Newest ticket (some lease) lease) Newest.ticketed
    (fun _ h => { h with current := rfl }) ?_).bind fun _ =>
      publishActivity_judges Newest.ticketed (fun _ h => h.newest) rfl
  rintro epochs h _ ⟨⟩
  exact ⟨h.newest, h.clean⟩

theorem publish_same :
    leases.Judges (During (Held ticket (some lease)) View.Settled)
      (setActiveNamespace (some lease)) fun _ => Over ticket := by
  refine .act fun _ world hsound => ⟨id, ⟨hsound.writer, hsound.operations, hsound.permits, hsound.past⟩,
    fun alive _ halways hduring => ?_⟩
  have hcurrent : world.activeNamespace = some lease := hduring.1.current
  have hview : World.view { world with activeNamespace := some lease } = world.view := by
    rw [← hcurrent]
  refine ⟨?_, over_of_settled (E := Held ticket (some lease)) ?_ fun _ h => h.ticket⟩
  · show (World.view { world with activeNamespace := some lease }).Always alive
    rw [hview]
    exact halways
  · show During (Held ticket (some lease)) View.Settled alive
      (World.view { world with activeNamespace := some lease })
    rw [hview]
    exact hduring

theorem publish_judges_prepared :
    leases.Judges (Prepared ticket prepared) prepared.publish fun _ => Over ticket := by
  obtain ⟨lease, transition⟩ := prepared
  cases transition with
  | none => exact publish_same
  | some t =>
    refine publish_candidate.mono (fun _ _ => id) fun _ _ _ h => h.mono (fun _ h => h.ticket)
      fun hnewest hswitches => .inl (hswitches.trans ?_)
    rw [hnewest.current]

theorem apply_judges :
    leases.Judges (Prepared ticket prepared) prepared.apply fun _ => Over ticket := by
  refine ask_judges.bind fun applied => ?_
  split
  · exact publish_judges_prepared
  · exact drop_judges

theorem keeps_retrySelection {write : ExceptT ClientStateWriteError Action Unit}
    (h : Keeps write) : Keeps (retrySelection write) := by
  refine h.lift_run.bind fun first => ?_
  match first with
  | .ok () => exact keeps_pure ()
  | .error _ =>
    refine h.lift_run.bind fun second => ?_
    match second with
    | .ok () => exact keeps_pure ()
    | .error error => exact keeps_throw _

theorem keeps_persist : Keeps prepared.persist :=
  keeps_outside.bind fun _ => (keeps_read _).bind fun _ =>
    (keeps_retryClientStateWrite (keeps_persistChecked _)).bind fun _ => (keeps_read _).bind fun _ =>
      keeps_retrySelection (keeps_persistChecked _)

theorem save_judges :
    leases.Judges (Prepared ticket prepared) prepared.save fun _ => Over ticket := by
  refine (keeps_persist (Prepared ticket prepared)).run.bind fun result => ?_
  match result with
  | .ok () => exact apply_judges
  | .error error => exact drop_judges

theorem conclude_judges :
    leases.Judges (Prepared ticket prepared) prepared.conclude fun _ => Over ticket := by
  refine ask_judges.bind fun models => ?_
  split
  · exact save_judges
  · exact drop_judges

end Window

/-- No session holds the ticket. -/
def Idle (alive : Prop) (view : View) : Prop :=
  view.epochs.ticket = none ∧ (alive → view.Settled)

theorem dropTicket_judges {A : View → Prop} (ending : Ending)
    (hsettled : ∀ view, A view → view.Settled)
    (hended : ∀ view, A view → View.EndedWell { view with ended := some ending }) :
    leases.Judges (During (Owns ticket) A) (dropTicket ticket ending) fun _ => Idle := by
  refine .act fun _ world hsound => ⟨id, ⟨hsound.writer, hsound.operations, hsound.permits, hsound.past⟩,
    fun alive _ halways hduring => ?_⟩
  have hticket : world.admission.active = some ticket := hduring.1
  have hdrop : world.admission.dropTicket ticket = { world.admission with active := none } := by
    simp [AccountTransitionAdmission.dropTicket, hticket]
  simp only [hdrop]
  have hafter (ha : alive) := hsettled world.view (hduring.2 ha)
  exact ⟨⟨halways.increasing, halways.issued, halways.current, halways.debt, halways.bound,
    fun ha _ => ⟨hafter ha, hended world.view (hduring.2 ha)⟩, halways.separate⟩, rfl, hafter⟩

/-- An activation may begin whenever the ticket is free. -/
theorem activationWorker_judges (input : ActivationInput) (cover : Option RetirementCover) :
    leases.Judges (During (Begun ticket) View.Settled) (activationWorker input cover ticket)
      fun _ => Idle := by
  refine (prepareActivationWithCover_tries input cover).run.bind fun result => ?_
  refine Exclusive.Judges.bind (Q := fun _ => Over ticket) ?_ fun _ =>
    dropTicket_judges .activation (fun _ => id) fun _ _ => trivial
  match result with
  | .ok (some prepared) => exact conclude_judges
  | .ok none | .error _ => exact .done fun _ _ => id

end ArtForgeStudio.AccountTransition
