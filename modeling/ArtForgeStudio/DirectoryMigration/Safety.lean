import ArtForgeStudio.DirectoryMigration.Copying
import Mathlib.Algebra.Order.BigOperators.Group.List
import Mathlib.Algebra.Order.Ring.Nat

/-! # The batch

What every run of a batch leaves behind, for any answers of the file system, of the progress
callback and of the commit.
-/

namespace ArtForgeStudio.DirectoryMigration

open ArtForgeStudio.Concurrency ArtForgeStudio.Histories

variable {plans : List MigrationPlan} {plan : MigrationPlan} {total completed all copied : Nat}

/-- The counts of a report never exceed the files of the batch. -/
def Fits (all : Nat) (report : MigrationReport) : Prop :=
  report.totalFiles = all ∧ report.copiedFiles + report.failedFiles.length ≤ all

/-- What is left when the batch fails: if it tried to commit, the commit failed. -/
def Stopped (all : Nat) (state : World) : Prop :=
  (∀ reply, ⟨.commit, reply⟩ ∈ state.events → ∃ error, reply = .error error) ∧ Fits all state.own

theorem Counted.fits {report : MigrationReport} (h : Counted all copied report) (hle : copied ≤ all) :
    Fits all report := by
  refine ⟨h.total, ?_⟩
  rw [h.copied, h.failed]
  exact hle

theorem Quiet.stopped {state : World} (h : Quiet all copied state) (hle : copied ≤ all) :
    Stopped all state :=
  ⟨fun _ hmem => absurd rfl (h.1 _ hmem), h.2.fits hle⟩

theorem Working.stopped {state : World} (h : Working total completed all copied state)
    (hle : copied ≤ all) : Stopped all state :=
  h.quiet.stopped hle

/-- The files among the entries. -/
def files (entries : List RetainedEntry) : Nat :=
  (entries.filter (!·.entry.directory)).length

theorem MigrationPlan.files_eq (plan : MigrationPlan) :
    plan.files = DirectoryMigration.files plan.retained.entries := by
  rw [plan.counted, ← plan.captured, List.filter_map, List.length_map]
  rfl

theorem files_cons (source : RetainedEntry) (rest : List RetainedEntry) :
    files (source :: rest) = (if source.entry.directory then 0 else 1) + files rest := by
  unfold files
  rw [List.filter_cons]
  cases source.entry.directory <;> simp [Nat.add_comm]

theorem Counted.copy {report : MigrationReport} (h : Counted all copied report) (entry : Entry) :
    Counted all (copied + if entry.directory then 0 else 1) (countCopied entry report) := by
  unfold countCopied
  split
  · exact h
  · exact ⟨h.total, by rw [← h.copied], h.failed⟩

theorem Counted.fail {report : MigrationReport} (h : Counted all copied report) (entry : Entry)
    (error : IoError) (hle : copied + (if entry.directory then 0 else 1) ≤ all) :
    Fits all (countFailed plan entry error report) := by
  unfold countFailed
  dsimp only
  split
  · exact h.fits (Nat.le_trans (Nat.le_add_right _ _) hle)
  · rename_i hfile
    rw [if_neg hfile] at hle
    refine ⟨h.total, ?_⟩
    simpa [h.copied, h.failed] using hle

theorem grows_copied (plan : MigrationPlan) (pair : RetainedEntry × RetainedEntry) :
    Grows fun events : Events => Copied events plan pair := by
  rintro events later hsub ⟨hentry, file, parent, hreached, hidentity, hmade⟩
  refine ⟨hentry, file, parent, grows_reached _ _ _ _ _ hsub hreached, hsub.subset hidentity, ?_⟩
  by_cases hdir : pair.1.entry.directory = true
  · rw [if_pos hdir] at hmade ⊢
    exact grows_made _ _ _ _ _ hsub hmade
  · rw [if_neg hdir] at hmade ⊢
    exact grows_placed _ _ _ _ _ hsub hmade

/-- The copies of some entries, in their order. -/
structure CopiedAll (plan : MigrationPlan) (entries outputs : List RetainedEntry) (events : Events) :
    Prop where
  length : outputs.length = entries.length
  copied : ∀ pair ∈ entries.zip outputs, Copied events plan pair

theorem grows_copiedAll (plan : MigrationPlan) (entries outputs : List RetainedEntry) :
    Grows (CopiedAll plan entries outputs) :=
  fun _ _ hsub h => ⟨h.length, fun pair hpair => grows_copied _ _ _ _ hsub (h.copied pair hpair)⟩

theorem does_copyEntries (hplan : plan ∈ plans) (entries : List RetainedEntry)
    (hentries : ∀ source ∈ entries, source ∈ plan.retained.entries) (outputs : List RetainedEntry)
    (done copied : Nat) (hle : copied + files entries ≤ all) :
    Steps plans (Working total (completed + min done plan.bytes) all copied)
      (copyEntries plan ⟨completed, total⟩ outputs done entries)
      (fun result state => Working total (completed + plan.bytes) all (copied + files entries) state ∧
        ∃ new, result = outputs ++ new ∧ CopiedAll plan entries new state.events)
      (Stopped all) := by
  induction entries generalizing outputs done copied with
  | nil =>
    refine .pure fun state hworking => ⟨hworking.mono ?_, [], (List.append_nil _).symm, rfl,
      List.forall_mem_nil _⟩
    exact Nat.add_le_add_left (Nat.min_le_right _ _) _
  | cons source rest ih =>
    obtain ⟨hsource, hrest⟩ := List.forall_mem_cons.mp hentries
    rw [files_cons, ← Nat.add_assoc] at hle
    refine Does.bind (does_copyEntry hplan outputs hsource done).run fun result => ?_
    match result with
    | .error error =>
      have hcount : Steps plans (Quiet all copied)
          (ExceptT.lift (report (countFailed plan source.entry error)))
          (fun _ => Stopped all) (Stopped all) := .modifyOwn fun state hquiet =>
        ⟨fun _ hmem => absurd rfl (hquiet.1 _ hmem), hquiet.2.fail source.entry error (by omega)⟩
      exact hcount.bind fun _ => .throw fun _ => id
    | .ok (output, done) =>
      refine Does.bind (Q := fun _ state => Working total (completed + min done plan.bytes) all
        (copied + if source.entry.directory then 0 else 1) state ∧
          Copied state.events plan (source, output)) ?_ fun _ => ?_
      · exact .modifyOwn fun state ⟨⟨hready, hcounted⟩, hcopied⟩ =>
          ⟨⟨hready, hcounted.copy source.entry⟩, hcopied⟩
      · refine ((ih hrest (outputs ++ [output]) done _ hle).keep (grows_copied _ _).add).mono
          (fun _ => id) ?_ fun _ hstate => hstate.1
        rintro result state ⟨⟨hworking, new, hresult, hnew⟩, hcopied⟩
        rw [Nat.add_assoc, ← files_cons] at hworking
        refine ⟨hworking, output :: new, ?_, ?_, ?_⟩
        · rw [hresult, List.append_assoc, List.singleton_append]
        · rw [List.length_cons, List.length_cons, hnew.length]
        · exact List.forall_mem_cons.mpr ⟨hcopied, hnew.copied⟩

theorem does_copyFiles (hplan : plan ∈ plans) (hle : copied + plan.files ≤ all) :
    Steps plans (Working total completed all copied) (copyFiles plan ⟨completed, total⟩)
      (fun outputs state => Working total (completed + plan.bytes) all (copied + plan.files) state ∧
        CopiedAll plan plan.retained.entries outputs state.events) (Stopped all) := by
  have hstopped (state : World) (h : Working total completed all copied state) : Stopped all state :=
    h.stopped (Nat.le_trans (Nat.le_add_right _ _) hle)
  refine ((sees_verifySource plan).check kept_working hstopped).bind fun _ => ?_
  refine ((harmless_checkTargets plan).check kept_working hstopped).bind fun _ => ?_
  rw [plan.files_eq] at hle ⊢
  refine (does_copyEntries hplan plan.retained.entries (fun _ => id) [] 0 copied hle).mono ?_ ?_
    fun _ => id
  · exact fun state hworking => hworking.mono (Nat.le_add_right _ _)
  · rintro _ state ⟨hworking, new, rfl, hnew⟩
    exact ⟨hworking, hnew⟩

/-- The copies of some plans, in their order. -/
structure CopiedPlans (plans : List MigrationPlan) (copied : List (List RetainedEntry))
    (events : Events) : Prop where
  length : copied.length = plans.length
  copied : ∀ pair ∈ plans.zip copied, CopiedAll pair.1 pair.1.retained.entries pair.2 events

theorem does_copyPlans (rest : List MigrationPlan) (hrest : ∀ plan ∈ rest, plan ∈ plans)
    (completed copied : Nat) (hle : copied + (rest.map (·.files)).sum ≤ all) :
    Steps plans (Working total completed all copied) (copyPlans total completed rest)
      (fun outputs state => (∃ completed, Working total completed all
        (copied + (rest.map (·.files)).sum) state) ∧ CopiedPlans rest outputs state.events)
      (Stopped all) := by
  induction rest generalizing completed copied with
  | nil =>
    exact .pure fun state hworking => ⟨⟨completed, hworking⟩, rfl, List.forall_mem_nil _⟩
  | cons plan rest ih =>
    obtain ⟨hplan, hrest⟩ := List.forall_mem_cons.mp hrest
    rw [List.map_cons, List.sum_cons, ← Nat.add_assoc] at hle
    have hfiles : copied + plan.files ≤ all := Nat.le_trans (Nat.le_add_right _ _) hle
    refine Does.bind ((does_copyFiles hplan hfiles).catch fun error => .throw fun _ => id)
      fun outputs => ?_
    split
    · refine Does.bind (((ih hrest _ _ hle).keep (grows_copiedAll _ _ outputs).add).mono
        (fun _ => id) (fun _ _ => id) fun _ hstate => hstate.1) fun copied => .pure ?_
      rintro state ⟨⟨hworking, hcopied⟩, hplan⟩
      rw [Nat.add_assoc] at hworking
      refine ⟨hworking, ?_, ?_⟩
      · rw [List.length_cons, List.length_cons, hcopied.length]
      · exact List.forall_mem_cons.mpr ⟨hplan, hcopied.copied⟩
    · exact .throw fun state hstate => hstate.1.stopped hfiles

theorem MigrationPlan.files_pos {entry : Entry} (hmem : entry ∈ plan.entries)
    (hfile : entry.directory = false) : 0 < plan.files := by
  rw [plan.counted]
  exact List.length_pos_of_mem (List.mem_filter.mpr ⟨hmem, by simp [hfile]⟩)

theorem Counted.unverified {report : MigrationReport} (h : Counted all all report) (error : IoError)
    (hfiles : plan.files ≤ all) : Fits all (countUnverified plan error report) := by
  unfold countUnverified
  split
  · exact h.fits (Nat.le_refl _)
  · split
    · rename_i failure hany
      obtain ⟨-, hany⟩ := Bool.and_eq_true_iff.mp hany
      obtain ⟨entry, hmem, hentry⟩ := List.any_eq_true.mp hany
      obtain ⟨hfile, -⟩ := Bool.and_eq_true_iff.mp hentry
      have hpos := MigrationPlan.files_pos hmem (by simpa using hfile)
      refine ⟨h.total, ?_⟩
      simp only [h.copied, h.failed, List.nil_append, List.length_singleton]
      omega
    · exact h.fits (Nat.le_refl _)

theorem does_verifyPlan {A : Events → Prop} (hA : Grows A) (base : Events) (hfiles : plan.files ≤ all)
    (outputs : List RetainedEntry) :
    Steps plans
      (fun state => Working total completed all all state ∧ Pass (rules plans) base A state.events)
      (verifyPlan plan outputs)
      (fun _ state => Working total completed all all state ∧
        Pass (rules plans) base (fun pass => A pass ∧ Verified pass plan outputs) state.events)
      (Stopped all) := by
  refine (does_pass _ _ _ _ (sees_verifyCopy plan outputs) hA base).catch fun error => ?_
  have hcount : Steps plans (Quiet all all) (ExceptT.lift (report (countUnverified plan error)))
      (fun _ => Stopped all) (Stopped all) := .modifyOwn fun state hquiet =>
    ⟨fun _ hmem => absurd rfl (hquiet.1 _ hmem), hquiet.2.unverified error hfiles⟩
  exact hcount.bind fun _ => .throw fun _ => id

theorem does_verifyPlans {A : Events → Prop} (hA : Grows A) (base : Events)
    (pairs : List (MigrationPlan × List RetainedEntry)) (hfiles : ∀ pair ∈ pairs, pair.1.files ≤ all) :
    Steps plans
      (fun state => Working total completed all all state ∧ Pass (rules plans) base A state.events)
      (pairs.forM fun pair => verifyPlan pair.1 pair.2)
      (fun _ state => Working total completed all all state ∧ Pass (rules plans) base
        (fun pass => A pass ∧ ∀ pair ∈ pairs, Verified pass pair.1 pair.2) state.events)
      (Stopped all) := by
  induction pairs generalizing A with
  | nil =>
    exact .pure fun state ⟨hworking, rest, hevents, hlooks, hA⟩ =>
      ⟨hworking, rest, hevents, hlooks, hA, List.forall_mem_nil _⟩
  | cons pair pairs ih =>
    obtain ⟨hpair, hpairs⟩ := List.forall_mem_cons.mp hfiles
    refine (does_verifyPlan hA base hpair pair.2).bind fun _ =>
      (ih (hA.and (grows_verified _ _)) hpairs).mono (fun _ => id) ?_ fun _ => id
    rintro _ state ⟨hworking, rest, hevents, hlooks, ⟨hA, hverified⟩, hrest⟩
    exact ⟨hworking, rest, hevents, hlooks, hA, List.forall_mem_cons.mpr ⟨hverified, hrest⟩⟩

theorem committable {base events : Events} {copied : List (List RetainedEntry)}
    (hcopied : CopiedPlans plans copied base)
    (hpass : Pass (rules plans) base (fun pass => True ∧
      ∀ pair ∈ plans.zip copied, Verified pass pair.1 pair.2) events) :
    Committable plans events := by
  obtain ⟨pass, rfl, hlooks, -, hverified⟩ := hpass
  exact ⟨base, pass, copied, rfl, hlooks, hcopied.length, fun pair hpair =>
    ⟨(hcopied.copied pair hpair).copied, hverified pair hpair⟩⟩

/-- The commit was made and succeeded. -/
def Committed (all : Nat) (state : World) : Prop :=
  ⟨.commit, .ok ()⟩ ∈ state.events ∧ Fits all state.own

theorem does_commit {base : Events} {copied : List (List RetainedEntry)}
    (hcopied : CopiedPlans plans copied base) :
    Steps plans
      (fun state => Working total completed all all state ∧ Pass (rules plans) base (fun pass =>
        True ∧ ∀ pair ∈ plans.zip copied, Verified pass pair.1 pair.2) state.events)
      (ask .commit) (fun _ => Committed all) (Stopped all) := by
  refine .perform ?_ ?_ ?_
  · exact fun state ⟨hworking, hpass⟩ =>
      ⟨committable hcopied hpass, fun _ hmem => hworking.quiet.1 _ hmem rfl⟩
  · rintro state answer ⟨⟩ - ⟨hworking, -⟩
    exact ⟨List.mem_append_right _ List.mem_cons_self, hworking.2.fits (Nat.le_refl _)⟩
  · rintro state error ⟨hworking, -⟩
    refine ⟨fun reply hmem => ?_, hworking.2.fits (Nat.le_refl _)⟩
    obtain hmem | hmem := List.mem_append.mp hmem
    · exact absurd rfl (hworking.quiet.1 _ hmem)
    · cases List.mem_singleton.mp hmem
      exact ⟨error, rfl⟩

theorem files_le {pair : MigrationPlan × List RetainedEntry} {copied : List (List RetainedEntry)}
    (h : pair ∈ plans.zip copied) : pair.1.files ≤ (plans.map (·.files)).sum :=
  List.le_sum_of_mem (List.mem_map_of_mem (List.of_mem_zip h).1)

theorem does_finish (total completed : Nat) {base : Events} {copied : List (List RetainedEntry)}
    (hcopied : CopiedPlans plans copied base) (annotate : IoError → IoError)
    (hfiles : ∀ pair ∈ plans.zip copied, pair.1.files ≤ all) :
    Steps plans
      (fun state => Working total completed all all state ∧
        Pass (rules plans) base (fun _ => True) state.events)
      (do
        (plans.zip copied).forM fun pair => verifyPlan pair.1 pair.2
        annotated annotate (ask .commit))
      (fun _ => Committed all) (Stopped all) :=
  (does_verifyPlans (.const True) base (plans.zip copied) hfiles).bind fun _ =>
    (does_commit hcopied).catch fun _ => .throw fun _ => id

theorem does_copyAndCommit (hall : (plans.map (·.files)).sum = all) :
    Steps plans (fun state => state.events = [] ∧ Counted all 0 state.own)
      (copyAndCommit plans total) (fun _ => Committed all) (Stopped all) := by
  subst hall
  refine Does.bind (Q := fun _ => Working total 0 (plans.map (·.files)).sum 0) ?_ fun _ => ?_
  · refine .perform ?_ ?_ ?_
    · rintro state ⟨hevents, -⟩
      refine ⟨Nat.zero_le _, fun earlier limit reply hmem => ?_⟩
      rw [hevents] at hmem
      cases hmem
    · rintro ⟨events, own⟩ answer ⟨⟩ - ⟨rfl, hcounted⟩
      exact ⟨List.forall_mem_singleton.mpr ⟨rfl, Nat.zero_le _⟩, hcounted⟩
    · rintro ⟨events, own⟩ error ⟨rfl, hcounted⟩
      exact ⟨fun reply hmem => (by cases List.mem_singleton.mp hmem), hcounted.fits (Nat.zero_le _)⟩
  refine (does_copyPlans plans (fun _ => id) 0 0 (by omega)).bind fun copied => ?_
  refine .fix (fun state => state.events) fun base => ?_
  refine Does.mono (.given fun hcopied : CopiedPlans plans copied base => .exists fun completed =>
    does_finish total completed hcopied _ fun _ => files_le) ?_ (fun _ _ => id) fun _ => id
  rintro state ⟨rfl, ⟨completed, hworking⟩, hcopied⟩
  rw [Nat.zero_add] at hworking
  exact ⟨hcopied, completed, hworking, pass_start _⟩

theorem does_copyBatch :
    Steps plans (fun state => state.events = []) (copyBatchRetainingSourceWithReport plans)
      (fun _ => Committed (plans.map (·.files)).sum) (Stopped (plans.map (·.files)).sum) := by
  refine Does.bind (Q := fun _ state => state.events = [] ∧
    Counted (plans.map (·.files)).sum 0 state.own) ?_ fun _ => ?_
  · exact .modifyOwn fun state hevents => ⟨hevents, rfl, rfl, rfl⟩
  split
  · refine .throw ?_
    rintro ⟨events, own⟩ ⟨rfl, hcounted⟩
    exact ⟨fun reply hmem => (by cases hmem), hcounted.fits (Nat.zero_le _)⟩
  · refine (does_copyAndCommit rfl).catch fun error => ?_
    have hcount : Steps plans (Stopped (plans.map (·.files)).sum)
        (ExceptT.lift (report (countFailure error))) (fun _ => Stopped (plans.map (·.files)).sum)
        (Stopped (plans.map (·.files)).sum) := .modifyOwn fun state hstopped => by
      refine ⟨hstopped.1, ?_⟩
      unfold countFailure
      split <;> exact hstopped.2
    exact hcount.bind fun _ => .throw fun _ => id

/-- Only verified copies are committed, whatever the answers are. -/
theorem copies_verified (plans : List MigrationPlan) (initial : MigrationReport)
    (answers : List Answer) :
    let run := Program.alone answers ⟨[], initial⟩ (copyBatchRetainingSourceWithReport plans).run
    (rules plans).Lawful run.2.events ∧ ∀ result, run.1 = .ret result →
      Fits (plans.map (·.files)).sum run.2.own ∧ match result with
        | .ok _ => ⟨.commit, .ok ()⟩ ∈ run.2.events
        | .error _ => ∀ reply, ⟨.commit, reply⟩ ∈ run.2.events → ∃ error, reply = .error error := by
  intro run
  have hstart : (⟨[], initial⟩ : World).events = [] := rfl
  obtain ⟨hlawful, hresult⟩ := does_copyBatch.alone answers hstart (rules plans).lawful_nil
  refine ⟨hlawful, fun result hret => ?_⟩
  have houtcome := hresult result hret
  cases result with
  | ok result => exact ⟨houtcome.2, houtcome.1⟩
  | error error => exact ⟨houtcome.2, houtcome.1⟩

end ArtForgeStudio.DirectoryMigration
