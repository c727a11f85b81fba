import ArtForgeStudio.AccountTransition.Activation
import ArtForgeStudio.Session.Steps

/-! # Directory migrations

Before its durable commit a migration can end only with the old lease active as before; after
it, only with the successor active or with nothing.
-/

namespace ArtForgeStudio.AccountTransition

open ArtForgeStudio.Api ArtForgeStudio.ClientState ArtForgeStudio.Concurrency
open ArtForgeStudio.Session (checkedAdd1 checkedAdd1_some)

variable {ticket t : Nat} {lease next : NamespaceLease} {before : Option NamespaceLease}
  {session : DirectoryMigration}

/-- The epochs of a migration: the next one is the successor's. -/
def Migrating (ticket : Nat) (lease : NamespaceLease) : Epochs → Prop :=
  Clean ticket (some lease) (lease.namespaceEpoch + 1)

/-- The guards of the session are held. -/
def Guarded (ticket : Nat) (session : DirectoryMigration) : Prop → View → Prop :=
  During (Migrating ticket session.lease)
    (Reserved session.flushed (quiet session.transition session.lease)
      (.all (some session.lease)))

/-- A session reserves what it is about to retire. -/
def DirectoryMigration.Proved (session : DirectoryMigration) : Prop :=
  Proof session.lease true session.flushed

/-- The old lease is gone, and no other one came. -/
def Gone (ticket : Nat) : Prop → View → Prop :=
  During (Held ticket none) fun view => view.switches = .all none

theorem Migrating.ticketed : Ticketed (Migrating ticket lease) := Clean.ticketed

/-- The active lease has the largest epoch so far, and the ticket is beyond it. -/
theorem migrating_of_active {alive : Prop} {view : View} (halways : view.Always alive)
    (h : Next ticket before ticket view.epochs) (hcurrent : view.epochs.current = some lease) :
    Migrating ticket lease view.epochs := by
  have hhead := halways.current lease hcurrent
  refine ⟨⟨⟨h.ticket, h.sequence, hcurrent⟩, h.past lease (List.mem_of_head? hhead), ?_⟩, ?_⟩
  · obtain ⟨rest, hactivated⟩ := List.head?_eq_some_iff.mp hhead
    have hincreasing := halways.increasing
    rw [hactivated] at hincreasing ⊢
    intro other hmem
    obtain rfl | hmem := List.mem_cons.mp hmem
    · exact Nat.lt_succ_self _
    · exact Nat.lt_succ_of_lt ((List.pairwise_cons.mp hincreasing).1 other hmem)
  · by_contra howed
    have hnone := halways.debt (by simpa using howed)
    exact absurd (hnone.symm.trans hcurrent) nofun

theorem moved_of_leaving {view : View} (h : Leaving (some t) view)
    (hcurrent : view.epochs.current = some lease) :
    Moved (held t (some lease)) (.all (some lease)) view := by
  obtain ⟨htransition, hrests⟩ := h
  refine ⟨?_, .inl (congrArg Switches.all hcurrent.symm)⟩
  obtain hall | ⟨-, hnone, -⟩ := hrests
  · rw [hcurrent] at hall
    calc view.switches
        = { { view.switches with transition := none } with
            transition := view.switches.transition } := rfl
      _ = held t (some lease) := by rw [hall, htransition]; rfl
  · exact absurd (hnone.symm.trans hcurrent) nofun

theorem leaving_of_moved {c : Option NamespaceLease} {view : View}
    (h : Moved (held t c) (.all c) view) : Leaving (some t) view := by
  obtain ⟨hswitches, hrests⟩ := h
  rw [Leaving, hswitches]
  exact ⟨rfl, hrests⟩

theorem requireActive_tries :
    leases.Tries (During (Next ticket before ticket) (Leaving (some t))) (requireActive lease)
      (fun _ alive view => before = some lease ∧
        During (Migrating ticket lease) (Moved (held t (some lease)) (.all (some lease))) alive view)
      (During (Held ticket before) (Leaving (some t))) := by
  refine .act fun _ world hsound => ⟨id, hsound, fun alive _ halways hduring => ⟨halways, ?_⟩⟩
  by_cases hactive : world.activeNamespace = some lease
  · rw [if_pos hactive]
    refine ⟨hduring.1.current.symm.trans hactive, ?_, fun ha => ?_⟩
    · exact migrating_of_active halways hduring.1 hactive
    · exact moved_of_leaving (hduring.2 ha) hactive
  · rw [if_neg hactive]
    exact hduring.mono (fun _ h => h.toHeld) fun _ => id

theorem flushActive_tries {E : Epochs → Prop} {r : Switches} (hticket : Ticketed E) :
    leases.Tries (During E (Moved (quiet t lease) r)) (flushActive lease)
      (fun flushed alive view => Proof lease true flushed ∧
        During E (Reserved flushed (quiet t lease) r) alive view)
      (During E (Moved (quiet t lease) r)) := by
  refine (flush_run hticket).bind fun result => ?_
  match result with
  | .ok flushed => exact .pure fun _ _ => id
  | .error error => exact .throw fun _ _ => id

theorem reserveActive_tries :
    leases.Tries (During (Next ticket before ticket) (Leaving (some t))) (reserveActive lease)
      (fun flushed alive view => (before = some lease ∧ DirectoryMigration.Proved ⟨lease, t, flushed⟩) ∧
        Guarded ticket ⟨lease, t, flushed⟩ alive view)
      (During (Held ticket before) (Leaving (some t))) := by
  refine requireActive_tries.bind fun _ => .given fun hbefore => ?_
  have hfailed : ∀ alive view, During (Migrating ticket lease)
      (Moved (held t (some lease)) (.all (some lease))) alive view →
      During (Held ticket before) (Leaving (some t)) alive view := fun _ _ h =>
    h.mono (fun _ h => hbefore ▸ h.toHeld) fun _ => leaving_of_moved
  refine .bind ((keeps_outside _).mono (fun _ _ => id) (fun _ _ _ => id) hfailed) fun _ =>
    .bind ((tryQuiesce_tries Migrating.ticketed).mono (fun _ _ => id) (fun _ _ _ => id) hfailed)
      fun _ => ?_
  refine .releasing ((flushActive_tries Migrating.ticketed).mono (fun _ _ => id) ?_ fun _ _ => id) ?_
  · rintro flushed alive view ⟨hproof, h⟩
    exact ⟨⟨hbefore, hproof⟩, h⟩
  · exact (dropQuiesced_moved (s := quiet t lease) Migrating.ticketed rfl held_separate).mono
      (fun _ _ => id) fun _ => hfailed

theorem beginMigration_tries :
    leases.Tries (During (Next ticket before ticket) View.Settled) (beginMigration lease)
      (fun session alive view => (before = some session.lease ∧ session.Proved) ∧
        Guarded ticket session alive view)
      (During (Held ticket before) View.Settled) := by
  refine .bind ((tryBeginTransition_tries Next.ticketed).mono (fun _ _ => id) (fun _ _ _ => id)
    fun _ _ h => h.mono (fun _ h => h.toHeld) fun _ => id) fun t => ?_
  exact .bind (.releasing reserveActive_tries (dropTransition_leaving Held.ticketed)) fun _ =>
    .pure fun _ _ => id

theorem commit_tries {P : Prop → View → Prop} :
    leases.Tries P session.commit
      (fun successor alive view =>
        successor.namespaceEpoch = session.lease.namespaceEpoch + 1 ∧ P alive view) P := by
  refine (keeps_outside P).bind fun _ => ?_
  refine .bind (read_tries (fun successor =>
    successor.namespaceEpoch = session.lease.namespaceEpoch + 1) ?_) fun successor =>
    .given fun hsuccessor => read_tries _ ?_
  · intro answer _ result hresult
    cases hepoch : checkedAdd1 session.lease.namespaceEpoch with
    | none => simp [hepoch] at hresult
    | some epoch =>
      simp only [hepoch, Except.ok.injEq] at hresult
      rw [← hresult]
      exact checkedAdd1_some hepoch
  · intro answer world result hresult
    split at hresult
    · cases hresult
    · split at hresult
      · exact Except.ok.inj hresult ▸ hsuccessor
      · cases hresult

/-- The guards are dropped in turn; the old lease accepts work again. -/
theorem dropUncommitted_judges (hproof : session.Proved) :
    leases.Judges (Guarded ticket session) session.dropUncommitted fun _ =>
      During (Held ticket (some session.lease)) View.Settled := by
  obtain ⟨lease, t, flushed⟩ := session
  refine Exclusive.Judges.bind (dropTransition_judges Migrating.ticketed ?_) fun _ => ?_
  · intro view hreserved
    rw [hreserved.1.1]
    rfl
  refine Exclusive.Judges.bind ((dropQuiesced_judges (R := (flushed ∈ ·)) (r := .all (some lease))
    (s := { Switches.all (some lease) with
      quiescing := true, retirement := some flushed.generation }) Migrating.ticketed rfl ?_).mono
    (fun _ _ h => h.mono (fun _ => id) fun _ => ?_) fun _ _ _ => id) fun _ => ?_
  · exact fun _ _ _ hnone => (nomatch hnone)
  · rintro ⟨previous, ⟨⟨hswitches, hrests⟩, hmem⟩, hnarrows, hreservations, hafter⟩
    refine ⟨⟨?_, hnarrows.rests hrests⟩, hreservations ▸ hmem⟩
    rw [hafter, hswitches]
    rfl
  · refine (dropReservation_proof (s := .all (some lease)) (r := .all (some lease))
      Migrating.ticketed rfl rfl ?_ hproof).mono (fun _ _ => id) fun _ _ _ h =>
        h.mono (fun _ h => h.toHeld) fun _ hmoved => ?_
    · exact held_separate (t := 0)
    · rw [View.Settled, hmoved.1]
      exact hmoved.2

theorem setInactive_judges {s r : Switches} :
    leases.Judges (During (Migrating ticket lease) (Moved s r)) (setActiveNamespace none) fun _ =>
      During (Clean ticket none (lease.namespaceEpoch + 1)) fun view => view.switches = s := by
  refine (setActiveNamespace_judges Migrating.ticketed (fun _ h => { h with current := rfl })
    ?_).mono (fun _ _ h => h.mono (fun _ => id) fun _ hmoved => hmoved.1) fun _ _ _ => id
  exact fun _ _ _ hnone => (nomatch hnone)

theorem retireFlushed_guarded (hproof : session.Proved) :
    leases.Tries (Guarded ticket session) (retireFlushed session.transition session.flushed)
      (fun _ => During (Migrating ticket session.lease) (Moved
        { quiet session.transition session.lease with published := none, writer := none }
        (.all (some session.lease))))
      (During (Migrating ticket session.lease) fun _ => False) :=
  retireFlushed_tries Migrating.ticketed rfl rfl rfl rfl hproof

theorem retireQuiesced_guarded {r : Switches} :
    leases.Judges (During (Migrating ticket lease) (Moved
        { quiet t lease with published := none, writer := none } r)) (retireQuiesced lease) fun _ =>
      During (Migrating ticket lease) (Moved (held t none) r) :=
  retireQuiesced_judges Migrating.ticketed rfl

theorem gone_of_next {epoch : Nat} {alive : Prop} {view : View}
    (h : During (Clean ticket none epoch) (fun view => view.switches = .all none) alive view) :
    Gone ticket alive view :=
  h.mono (fun _ h => h.toHeld) fun _ => id

theorem dropCommitted_judges (hproof : session.Proved) :
    leases.Judges (Guarded ticket session) session.dropCommitted fun _ => Gone ticket := by
  refine (retireFlushed_guarded hproof).run.bind fun result => ?_
  refine ((retireQuiesced_guarded (r := .all (some session.lease))).mono ?_
    fun _ _ _ => id).bind fun _ => setInactive_judges.bind fun _ =>
    (dropTransition_switches Clean.ticketed rfl).mono (fun _ _ => id) fun _ _ _ => gone_of_next
  cases result with
  | ok => exact fun _ _ => id
  | error error => exact fun _ _ h => During.mono (A := fun _ => False) h (fun _ => id) fun _ => False.elim

/-- The old lease is retired everywhere, or the gates are closed. -/
theorem retire_tries (hproof : session.Proved) :
    leases.Tries (Guarded ticket session) session.retire
      (fun _ => During (Clean ticket none (session.lease.namespaceEpoch + 1)) fun view =>
        view.switches = held session.transition none)
      (Gone ticket) := by
  refine .bind (.releasing (retireFlushed_guarded hproof) ?_) fun _ =>
    .bind (.lift retireQuiesced_guarded) fun _ => .lift setInactive_judges
  refine (dropTransition_judges Migrating.ticketed fun _ => False.elim).bind fun _ => ?_
  refine Exclusive.Judges.bind ((retireQuiesced_judges (r := .all none)
    (s := { Switches.all none with activity := some session.lease }) Migrating.ticketed rfl).mono
    (fun _ _ h => h.mono (fun _ => id) ?_) fun _ _ _ => id) fun _ =>
      setInactive_judges.mono (fun _ _ => id) fun _ _ _ => gone_of_next
  rintro - ⟨-, hfalse, -⟩
  exact hfalse.elim

theorem openCandidate_tries {P : Prop → View → Prop} {epoch : Nat}
    (hnext : next.namespaceEpoch = epoch) :
    leases.Tries P (DirectoryMigration.openCandidate next)
      (fun opened alive view => opened.namespaceEpoch = epoch ∧ P alive view) P := by
  refine read_tries _ fun answer _ result hresult => ?_
  split at hresult
  · exact Except.ok.inj hresult ▸ hnext
  · cases hresult

theorem activateSuccessor_tries :
    leases.Tries (During (Clean ticket none next.namespaceEpoch) fun view =>
        view.switches = held session.transition none)
      (session.activateSuccessor next)
      (fun _ => During (Newest ticket none next) fun view =>
        view.switches = candidate (some session.transition) next)
      (During (Clean ticket none next.namespaceEpoch) fun view =>
        view.switches = held session.transition none) :=
  (keeps_outside _).bind fun _ => (keeps_requireUnpublished _ _ _).bind fun _ =>
    (keeps_outside _).bind fun _ => (keeps_requireUnpublished _ _ _).bind fun _ =>
      (keeps_prepareActivity _).bind fun _ => activate_tries

/-- The successor is active everywhere, or nothing is. -/
theorem finish_tries (hproof : session.Proved)
    (hnext : next.namespaceEpoch = session.lease.namespaceEpoch + 1) :
    leases.Tries (Guarded ticket session) (session.finish next) (fun _ => Over ticket)
      (Gone ticket) := by
  refine .bind (.releasing (openCandidate_tries hnext) (dropCommitted_judges hproof)) fun opened =>
    .given fun hopened => (retire_tries hproof).bind fun _ => ?_
  rw [← hopened]
  refine .bind (.releasing activateSuccessor_tries ?_) fun _ => .lift (publish_candidate.mono
    (fun _ _ => id) fun _ _ _ h => h.mono (fun _ h => h.ticket) fun hnewest hswitches => .inl ?_)
  · refine (dropTransition_switches Clean.ticketed rfl).bind fun _ => ?_
    refine (setActiveNamespace_judges Clean.ticketed (fun _ h => { h with current := rfl }) ?_).mono
      (fun _ _ => id) fun _ _ _ => gone_of_next
    exact fun _ _ _ hnone => (nomatch hnone)
  · rw [hswitches, hnewest.current]

/-- A session that ended so may drop its ticket. -/
def Finished (ticket : Nat) (ending : Ending) : Prop → View → Prop :=
  During (Owns ticket) fun view =>
    view.Settled ∧ View.EndedWell { view with ended := some ending }

theorem finished_of_gone {old : NamespaceLease} {alive : Prop} {view : View}
    (h : Gone ticket alive view) : Finished ticket (.unfinished old) alive view := by
  refine h.mono (fun _ h => h.ticket) fun hheld hswitches => ⟨.inl ?_, hheld.current, ?_⟩
  · rw [hswitches, hheld.current]
  · show view.switches.writer = none
    rw [hswitches]
    rfl

theorem finished_of_uncommitted {alive : Prop} {view : View}
    (h : During (Held ticket before) View.Settled alive view) :
    Finished ticket (.uncommitted before) alive view :=
  h.mono (fun _ h => h.ticket) fun hheld hsettled => ⟨hsettled, hheld.current⟩

theorem concludeMigration_judges (hproof : session.Proved)
    (hnext : next.namespaceEpoch = session.lease.namespaceEpoch + 1) :
    leases.Judges (Guarded ticket session) (session.conclude next) (Finished ticket) := by
  refine ask_judges.bind fun copied => ?_
  split
  · refine (finish_tries hproof hnext).run.bind fun result => ?_
    match result with
    | .ok () => exact .done fun _ _ h => h.mono (fun _ => id) fun _ hsettled => ⟨hsettled, trivial⟩
    | .error error => exact .done fun _ _ => finished_of_gone
  · exact (dropCommitted_judges hproof).bind fun _ => .done fun _ _ => finished_of_gone

theorem workMigration_judges :
    ∀ result : Except ApiError DirectoryMigration, leases.Judges
      (Exclusive.after (fun session alive view => (before = some session.lease ∧ session.Proved) ∧
        Guarded ticket session alive view) (During (Held ticket before) View.Settled) result)
      (workMigration before result) (Finished ticket)
  | .error _ => .done fun _ _ => finished_of_uncommitted
  | .ok session => .given fun ⟨hbefore, hproof⟩ => by
    refine (commit_tries (P := Guarded ticket session)).run.bind fun committed => ?_
    match committed with
    | .ok next => exact .given fun hnext => concludeMigration_judges hproof hnext
    | .error error =>
      subst hbefore
      exact (dropUncommitted_judges hproof).bind fun _ => .done fun _ _ => finished_of_uncommitted

/-- A migration may begin whenever the ticket is free. -/
theorem migrationWorker_judges :
    leases.Judges (During (Next ticket before ticket) View.Settled)
      (migrationWorker lease before ticket) fun _ => Idle := by
  refine beginMigration_tries.run.bind fun result => (workMigration_judges result).bind fun ending => ?_
  exact dropTicket_judges ending (fun _ h => h.1) fun _ h => h.2

end ArtForgeStudio.AccountTransition
