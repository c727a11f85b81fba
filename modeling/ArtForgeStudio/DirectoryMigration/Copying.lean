import ArtForgeStudio.DirectoryMigration.Looking

/-! # Copying one entry

A name of the destination is replaced at the end of the copy of one entry, with everything that
the replacement rests on in the history.
-/

namespace ArtForgeStudio.DirectoryMigration

open ArtForgeStudio.Concurrency ArtForgeStudio.Histories

variable {plans : List MigrationPlan} {plan : MigrationPlan} {α β : Type}

abbrev Steps (plans : List MigrationPlan) (P : World → Prop) (program : Fallible α)
    (Q : α → World → Prop) (F : World → Prop) : Prop :=
  Does (rules plans) P program Q F

/-- The progress that is reported when so many bytes of the batch are done. -/
def bound (total completed : Nat) : Nat := min (min completed u64Max) total

/-- A call as it may be in the history before the commit. -/
def Fine (total completed count : Nat) : Call → Prop
  | .commit => False
  | .progress done limit => limit = total ∧ done ≤ bound total completed
  | .write file _ => ∃ id < count, file = .opened id
  | _ => True

def Ready (total completed : Nat) (events : Events) : Prop :=
  ∀ event ∈ events, Fine total completed events.length event.call

/-- So many files were copied, and none failed. -/
structure Counted (all copied : Nat) (report : MigrationReport) : Prop where
  total : report.totalFiles = all
  copied : report.copiedFiles = copied
  failed : report.failedFiles = []

def Working (total completed all copied : Nat) (state : World) : Prop :=
  Ready total completed state.events ∧ Counted all copied state.own

/-- What is left when the copy of an entry fails. -/
def Quiet (all copied : Nat) (state : World) : Prop :=
  (∀ event ∈ state.events, event.call ≠ .commit) ∧ Counted all copied state.own

section Working

variable {total completed later count more all copied : Nat} {events : Events} {state : World}

theorem bound_mono (h : completed ≤ later) : bound total completed ≤ bound total later := by
  simp only [bound]
  omega

theorem Fine.mono {call : Call} (h : Fine total completed count call) (hle : completed ≤ later)
    (hcount : count ≤ more) : Fine total later more call := by
  cases call with
  | commit => exact h
  | progress done limit => exact ⟨h.1, Nat.le_trans h.2 (bound_mono hle)⟩
  | write file data =>
    obtain ⟨id, hid, hfile⟩ := h
    exact ⟨id, Nat.lt_of_lt_of_le hid hcount, hfile⟩
  | _ => trivial

theorem fine_looks {call : Call} (h : looks call = true) : Fine total completed count call := by
  cases call with
  | commit | progress | write => cases h
  | _ => trivial

theorem Ready.add {event : Event Call.Value IoError} (h : Ready total completed events)
    (hle : completed ≤ later) (hfine : Fine total later (events.length + 1) event.call) :
    Ready total later (events ++ [event]) := by
  intro other hother
  rw [List.length_append, List.length_singleton]
  obtain hother | hother := List.mem_append.mp hother
  · exact (h other hother).mono hle (Nat.le_succ _)
  · obtain rfl := List.mem_singleton.mp hother
    exact hfine

theorem Working.add {event : Event Call.Value IoError} (h : Working total completed all copied state)
    (hle : completed ≤ later) (hfine : Fine total later (state.events.length + 1) event.call) :
    Working total later all copied (state.add event) :=
  ⟨h.1.add hle hfine, h.2⟩

theorem Working.mono (h : Working total completed all copied state) (hle : completed ≤ later) :
    Working total later all copied state :=
  ⟨fun event hmem => (h.1 event hmem).mono hle (Nat.le_refl _), h.2⟩

theorem Working.quiet (h : Working total completed all copied state) : Quiet all copied state := by
  refine ⟨fun event hmem hcommit => ?_, h.2⟩
  have hfine := h.1 event hmem
  rwa [hcommit] at hfine

theorem kept_working : Kept (rules plans) (Working total completed all copied) :=
  fun _ _ hlooks h => h.add (Nat.le_refl _) (fine_looks hlooks)

/-- A call that failed. -/
theorem Working.failed {call : Call} {error : IoError} (h : Working total completed all copied state)
    (hcall : call ≠ .commit) : Quiet all copied (state.add ⟨call, .error error⟩) := by
  refine ⟨fun event hmem => ?_, h.2⟩
  obtain hmem | hmem := List.mem_append.mp hmem
  · exact h.quiet.1 event hmem
  · obtain rfl := List.mem_singleton.mp hmem
    exact hcall

/-- The fresh handle of the next call. -/
theorem Ready.unwritten (h : Ready total completed events) :
    written (.opened events.length) events = [] := by
  refine List.filterMap_eq_nil_iff.mpr fun event hmem => ?_
  have hfine := h event hmem
  obtain ⟨call, reply⟩ := event
  cases call with
  | write file data =>
    obtain ⟨id, hid, rfl⟩ := hfine
    simp only [ite_eq_right_iff]
    intro heq
    cases heq
    exact absurd hid (Nat.lt_irrefl _)
  | _ => rfl

/-- Looking since a point in the history. -/
theorem does_pass (total completed all copied : Nat) {program : Fallible α}
    {seen : α → Events → Prop} {A : Events → Prop} (h : Sees plans program seen) (hA : Grows A)
    (base : Events) :
    Steps plans
      (fun state => Working total completed all copied state ∧
        Pass (rules plans) base A state.events)
      program
      (fun result state => Working total completed all copied state ∧
        Pass (rules plans) base (fun rest => A rest ∧ seen result rest) state.events)
      (Quiet all copied) :=
  h.pass kept_working hA (fun _ => Working.quiet) base

theorem does_advance {A : Events → Prop} {base done : Nat} (h : completed ≤ base + done)
    (hA : ∀ events event, (∀ file data, event.call ≠ .write file data) → A events →
      A (events ++ [event])) :
    Steps plans (fun state => Working total completed all copied state ∧ A state.events)
      (Progress.advance ⟨base, total⟩ done)
      (fun _ state => Working total (base + done) all copied state ∧ A state.events)
      (Quiet all copied) := by
  refine .perform ?_ ?_ fun state error hstate => hstate.1.failed fun heq => by cases heq
  · refine fun state hstate => ⟨Nat.min_le_right _ _, fun earlier limit reply hmem => ?_⟩
    obtain ⟨hlimit, hearlier⟩ := hstate.1.1 _ hmem
    exact ⟨hlimit, Nat.le_trans hearlier (bound_mono h)⟩
  · exact fun state answer value _ hstate => ⟨hstate.1.add h ⟨rfl, Nat.le_refl _⟩,
      hA _ _ (fun _ _ heq => by cases heq) hstate.2⟩

end Working

section Staging

theorem written_append (file : Handle) (events later : Events) :
    written file (events ++ later) = written file events ++ written file later :=
  List.filterMap_append

theorem written_other {file : Handle} {event : Event Call.Value IoError}
    (h : ∀ data, event.call ≠ .write file data) (events : Events) :
    written file (events ++ [event]) = written file events := by
  rw [written_append, List.append_right_eq_self]
  refine List.filterMap_eq_nil_iff.mpr fun other hmem => ?_
  obtain rfl := List.mem_singleton.mp hmem
  obtain ⟨call, reply⟩ := other
  cases call with
  | write target data =>
    simp only [ite_eq_right_iff]
    rintro rfl
    exact absurd rfl (h data)
  | _ => rfl

theorem looks_other {file : Handle} {call : Call} (h : looks call = true) (data : List UInt8) :
    call ≠ .write file data := by
  rintro rfl
  cases h

theorem written_looks (file : Handle) {events : Events}
    (h : ∀ event ∈ events, looks event.call = true) : written file events = [] := by
  refine List.filterMap_eq_nil_iff.mpr fun event hmem => ?_
  have hlooks := h event hmem
  obtain ⟨call, reply⟩ := event
  cases call with
  | write target data => cases hlooks
  | _ => rfl

/-- What the copy of one file works with. -/
structure Job where
  base : Events
  parent : Handle
  input : Handle
  output : Handle
  temporary : String

namespace Job

variable (job : Job)

/-- The chunks that were written are the bytes that were read. -/
def Filling (chunks : List (List UInt8)) (events : Events) : Prop :=
  ∃ copying, events = job.base ++ copying ∧
    ⟨.staging job.parent, .ok (job.output, job.temporary)⟩ ∈ copying ∧
    written job.output events = chunks.map .ok ∧ Bytes events job.input 0 chunks.flatten

def Complete (events : Events) : Prop :=
  ∃ copying, events = job.base ++ copying ∧
    ⟨.staging job.parent, .ok (job.output, job.temporary)⟩ ∈ copying ∧
    Staged events job.input job.output

/-- The staged file was complete, and then found equal to its source. -/
def Compared (events : Events) : Prop :=
  ∃ copying compared, events = job.base ++ (copying ++ compared) ∧
    ⟨.staging job.parent, .ok (job.output, job.temporary)⟩ ∈ copying ∧
    Staged (job.base ++ copying) job.input job.output ∧ written job.output compared = [] ∧
    Equal compared job.input job.output

variable {job} {chunks : List (List UInt8)} {events : Events} {event : Event Call.Value IoError}

theorem Filling.other (h : job.Filling chunks events)
    (hother : ∀ data, event.call ≠ .write job.output data) :
    job.Filling chunks (events ++ [event]) := by
  obtain ⟨copying, hevents, hstaging, hwritten, hbytes⟩ := h
  refine ⟨copying ++ [event], ?_, List.mem_append_left _ hstaging, ?_, ?_⟩
  · rw [hevents, List.append_assoc]
  · rw [written_other hother, hwritten]
  · exact (grows_bytes _ _ _).add _ _ hbytes

/-- One more chunk. -/
theorem Filling.write {data : List UInt8} (h : job.Filling chunks events)
    (hdata : Bytes events job.input chunks.flatten.length data) :
    job.Filling (chunks ++ [data]) (events ++ [⟨.write job.output data, .ok ()⟩]) := by
  obtain ⟨copying, hevents, hstaging, hwritten, hbytes⟩ := h
  refine ⟨copying ++ [⟨.write job.output data, .ok ()⟩], ?_, List.mem_append_left _ hstaging, ?_, ?_⟩
  · rw [hevents, List.append_assoc]
  · rw [written_append, hwritten, List.map_append]
    simp [written, Except.map]
  · rw [List.flatten_append, List.flatten_singleton]
    refine (grows_bytes _ _ _).add _ _ (hbytes.append ?_)
    rwa [Nat.zero_add]

/-- The end of the input was read. -/
theorem Filling.complete {limit : Nat} {data : { data : List UInt8 // data.length ≤ limit }}
    (h : job.Filling chunks events) (hend : data.val = [])
    (hread : ⟨.readAt job.input chunks.flatten.length limit, .ok data⟩ ∈ events) :
    job.Complete events := by
  obtain ⟨copying, hevents, hstaging, hwritten, hbytes⟩ := h
  refine ⟨copying, hevents, hstaging, chunks, hwritten, fun offset byte hbyte => ?_, limit, data,
    hread, hend⟩
  have hshown := hbytes offset byte hbyte
  rwa [Nat.zero_add] at hshown

theorem Filling.staged (h : job.Filling chunks events) :
    ⟨.staging job.parent, .ok (job.output, job.temporary)⟩ ∈ events := by
  obtain ⟨copying, rfl, hstaging, -⟩ := h
  exact List.mem_append_right _ hstaging

theorem Filling.length_lt (h : job.Filling chunks events) : job.base.length < events.length := by
  obtain ⟨copying, rfl, hstaging, -⟩ := h
  rw [List.length_append]
  exact Nat.lt_add_of_pos_right (List.length_pos_of_mem hstaging)

theorem kept_filling : Kept (rules plans) fun state : World => job.Filling chunks state.events :=
  fun _ _ hlooks h => h.other (looks_other hlooks)

theorem kept_complete : Kept (rules plans) fun state : World => job.Complete state.events := by
  rintro state event hlooks ⟨copying, hevents, hstaging, chunks, hwritten, hbytes, limit, data,
    hread, hend⟩
  refine ⟨copying ++ [event], ?_, List.mem_append_left _ hstaging, chunks, ?_, ?_, limit, data,
    List.mem_append_left _ hread, hend⟩
  · show state.events ++ [event] = _
    rw [hevents, List.append_assoc]
  · exact (written_other (looks_other hlooks) _).trans hwritten
  · exact fun offset byte hbyte => (grows_shown _ _ _).add _ _ (hbytes offset byte hbyte)

end Job

variable {total completed all copied : Nat}

theorem does_write {job : Job} {chunks : List (List UInt8)} {data : List UInt8}
    (houtput : job.output = .opened job.base.length) :
    Steps plans
      (fun state => Working total completed all copied state ∧ job.Filling chunks state.events ∧
        Bytes state.events job.input chunks.flatten.length data)
      (ask (.write job.output data))
      (fun _ state => Working total completed all copied state ∧
        job.Filling (chunks ++ [data]) state.events) (Quiet all copied) := by
  refine .perform ?_ ?_ fun state error hstate => hstate.1.failed fun heq => by cases heq
  · exact fun state hstate => ⟨job.parent, job.temporary, hstate.2.1.staged⟩
  · rintro state answer ⟨⟩ - ⟨hworking, hfilling, hdata⟩
    refine ⟨hworking.add (Nat.le_refl _) ⟨job.base.length, ?_, houtput⟩, hfilling.write hdata⟩
    exact Nat.lt_succ_of_lt hfilling.length_lt

/-- The loop: the invariant is `Filling`, with the offset behind the chunks that were written. -/
theorem does_copyBytes {job : Job} (houtput : job.output = .opened job.base.length)
    (size offset done : Nat) (chunks : List (List UInt8)) (hoffset : offset = chunks.flatten.length) :
    Steps plans
      (fun state => Working total (completed + min done plan.bytes) all copied state ∧
        job.Filling chunks state.events)
      (copyBytes plan ⟨completed, total⟩ job.input job.output size offset done)
      (fun done state => Working total (completed + min done plan.bytes) all copied state ∧
        job.Complete state.events) (Quiet all copied) := by
  induction offset, done using copyBytes.induct job.input size generalizing chunks with
  | case1 offset done ih =>
    subst hoffset
    unfold copyBytes
    have hread : Sees plans (ask (.readAt job.input chunks.flatten.length 131072))
        fun data events => ⟨.readAt _ _ _, .ok data⟩ ∈ events := sees_ask rfl
    refine (hread.does (kept_working.and Job.kept_filling) fun state hstate =>
      hstate.1.quiet).bind fun data => ?_
    split
    · rename_i hend
      exact .pure fun state ⟨⟨hworking, hfilling⟩, hmem⟩ =>
        ⟨hworking, hfilling.complete hend hmem⟩
    rename_i hne
    have hbytes (state : World) (hmem : ⟨.readAt job.input chunks.flatten.length 131072,
        .ok data⟩ ∈ state.events) : Bytes state.events job.input chunks.flatten.length data.val :=
      fun i byte hbyte => ⟨_, _, data, hmem, Nat.le_add_right _ _, by
        rwa [Nat.add_sub_cancel_left]⟩
    refine ((does_write houtput).mono (fun state hstate => ⟨hstate.1.1, hstate.1.2,
      hbytes state hstate.2⟩) (fun _ _ => id) fun _ => id).bind fun _ => ?_
    have hdone : min done plan.bytes ≤ min (done + data.val.length) plan.bytes := by omega
    refine (does_advance (Nat.add_le_add_left hdone _) fun events event hother hfilling =>
      hfilling.other (hother _)).bind fun _ => ?_
    split
    · exact .throw fun state hstate => hstate.1.quiet
    · refine ih data hne ‹_› (chunks ++ [data.val]) ?_
      rw [List.flatten_append, List.flatten_singleton, List.length_append]

theorem does_copyContents {job : Job} (houtput : job.output = .opened job.base.length)
    (source : RetainedEntry) (done : Nat) :
    Steps plans
      (fun state => Working total (completed + min done plan.bytes) all copied state ∧
        job.Filling [] state.events)
      (copyContents plan ⟨completed, total⟩ source job.input job.output done)
      (fun done state => Working total (completed + min done plan.bytes) all copied state ∧
        job.Compared state.events) (Quiet all copied) := by
  have hcomplete (done : Nat) : Kept (rules plans) fun state : World =>
      Working total (completed + min done plan.bytes) all copied state ∧ job.Complete state.events :=
    kept_working.and Job.kept_complete
  refine (Looks.check (sees_stamp job.input) (kept_working.and Job.kept_filling)
    fun state hstate => hstate.1.quiet).bind fun before => ?_
  split
  case isFalse => exact .throw fun state hstate => hstate.1.quiet
  refine (does_copyBytes houtput source.entry.size 0 done [] rfl).bind fun done => ?_
  refine (Looks.check (harmless_ask rfl) (hcomplete done) fun state hstate =>
    hstate.1.quiet).bind fun _ => ?_
  refine (Looks.check (sees_stamp job.input) (hcomplete done) fun state hstate =>
    hstate.1.quiet).bind fun after => ?_
  split
  case isFalse => exact .throw fun state hstate => hstate.1.quiet
  refine .fix (fun state => state.events) fun middle => ?_
  refine Does.mono (.given fun hmiddle : job.Complete middle => (does_pass total
    (completed + min done plan.bytes) all copied (sees_retainedEqual job.input job.output)
    (.const True) middle).bind fun same => ?_) ?_ (fun _ _ => id) fun _ => id
  · split
    · rename_i hsame
      refine .pure fun state ⟨hworking, compared, hevents, hlooks, _, hequal⟩ => ⟨hworking, ?_⟩
      obtain ⟨copying, rfl, hstaging, hstaged⟩ := hmiddle
      rw [List.append_assoc] at hevents
      exact ⟨copying, compared, hevents, hstaging, hstaged, written_looks _ hlooks, hequal hsame⟩
    · exact .throw fun state hstate => hstate.1.quiet
  · rintro state ⟨rfl, hworking, hcomplete⟩
    exact ⟨hcomplete, hworking, pass_start _⟩

end Staging

section Replacing

variable {total completed all copied : Nat}

theorem grows_looked_observed (parent : Handle) (entry : Entry) (found : Option Handle)
    (seen : Option (Identity × Stamp)) :
    Grows fun events : Events => (True ∧ Looked events parent entry found) ∧
      Observed events found seen :=
  ((Grows.const _).and (grows_looked _ _ _)).and (grows_observed _ _)

theorem does_replaceFile {A : Events → Prop} (hA : Grows A) (base : Events)
    {directory : RetainedDirectory} {temporary name : String} (output : Handle)
    (hallows : ∀ events, Pass (rules plans) base A events →
      allows plans events (.rename directory.handle temporary name)) :
    Steps plans
      (fun state => Working total completed all copied state ∧
        Pass (rules plans) base A state.events)
      (directory.replaceFile temporary name output)
      (fun _ state => Working total completed all copied state ∧ ∃ rest,
        state.events = base ++ rest ∧ ⟨.rename directory.handle temporary name, .ok ()⟩ ∈ rest)
      (Quiet all copied) := by
  have hkept : Kept (rules plans) fun state : World => Working total completed all copied state ∧
      Pass (rules plans) base A state.events := kept_working.and (hA.kept_pass base)
  have hquiet (state : World) (h : Working total completed all copied state ∧
      Pass (rules plans) base A state.events) : Quiet all copied state := h.1.quiet
  refine ((harmless_verify directory).check hkept hquiet).bind fun _ => ?_
  refine ((harmless_ask rfl).check hkept hquiet).bind fun _ => ?_
  refine ((harmless_ask rfl).check hkept hquiet).bind fun staged => ?_
  refine ((harmless_ask rfl).check hkept hquiet).bind fun found => ?_
  refine ((harmless_ask rfl).check hkept hquiet).bind fun own => ?_
  split
  · refine .perform (fun state hstate => hallows _ hstate.2) ?_ fun state error hstate =>
      hstate.1.failed fun heq => by cases heq
    rintro state answer ⟨⟩ - ⟨hworking, rest, hevents, -⟩
    refine ⟨hworking.add (Nat.le_refl _) trivial, rest ++ [⟨.rename directory.handle temporary name,
      .ok ()⟩], ?_, List.mem_append_right _ List.mem_cons_self⟩
    show state.events ++ [_] = _
    rw [hevents, List.append_assoc]
  · exact .throw hquiet

/-- What was seen of an entry before it is copied. -/
structure Chosen (plan : MigrationPlan) (source : RetainedEntry) (parent input : Handle)
    (events : Events) : Prop where
  reached : Reached events plan.retained.destination.handle source.entry.relative.dropLast parent
  found : Found events plan.retained.source source.entry source.identity input

theorem replaceable (job : Job) {source : RetainedEntry} {seen : Option (Identity × Stamp)}
    {found : Option Handle} {middle events : Events} (hplan : plan ∈ plans)
    (hsource : source ∈ plan.retained.entries) (hfile : source.entry.directory = false)
    (hchosen : Chosen plan source job.parent job.input job.base)
    (hsaw : Saw job.base job.parent source.entry.fileName seen) (hmiddle : job.Compared middle)
    (hpass : Pass (rules plans) middle (fun events => (True ∧ Looked events job.parent source.entry
      found) ∧ Observed events found seen) events) :
    allows plans events (.rename job.parent job.temporary source.entry.fileName) := by
  obtain ⟨copying, compared, rfl, hstaging, hstaged, hwritten, hequal⟩ := hmiddle
  obtain ⟨relooked, rfl, hlooks, ⟨-, hlooked⟩, hobserved⟩ := hpass
  refine ⟨⟨plan, hplan, _, grows_reached _ _ _ _ _ ?_ hchosen.reached⟩, plan, hplan, source, hsource,
    job.input, job.output, seen, job.base, copying, compared, relooked, ?_, hfile, rfl,
    hchosen.reached, hchosen.found, hsaw, hstaging, hstaged, ?_, hequal, hlooked.saw hfile hobserved⟩
  · rw [List.append_assoc]
    exact List.sublist_append_left _ _
  · rw [List.append_assoc, List.append_assoc]
  · rw [written_append, hwritten, written_looks _ hlooks, List.append_nil]

/-- A staged file that was renamed to a name. -/
def Placed (parent : Handle) (name : String) (file : Handle) (events : Events) : Prop :=
  ∃ temporary, ⟨.staging parent, .ok (file, temporary)⟩ ∈ events ∧
    ⟨.rename parent temporary name, .ok ()⟩ ∈ events

theorem grows_placed (parent : Handle) (name : String) (file : Handle) :
    Grows (Placed parent name file) :=
  .exists fun _ => (grows_mem _).and (grows_mem _)

theorem does_staging {base : Events} (input parent : Handle) (hbelow : Below plans base parent) :
    Steps plans
      (fun state => Working total completed all copied state ∧ state.events = base)
      (ask (.staging parent))
      (fun staged state => staged.1 = .opened base.length ∧
        Working total completed all copied state ∧
        (Job.mk base parent input staged.1 staged.2).Filling [] state.events) (Quiet all copied) := by
  refine .perform ?_ ?_ fun state error hstate => hstate.1.failed fun heq => by cases heq
  · rintro state ⟨-, rfl⟩
    exact hbelow
  · rintro state answer staged hreply ⟨hworking, rfl⟩
    have hstaged : staged.1 = .opened state.events.length := by
      unfold respond at hreply
      split at hreply
      · cases hreply
      · cases hreply
        rfl
    refine ⟨hstaged, hworking.add (Nat.le_refl _) trivial, [⟨.staging parent, .ok staged⟩], rfl,
      List.mem_cons_self, ?_, bytes_nil _ _ _⟩
    show written staged.1 (state.events ++ [_]) = []
    rw [written_other (fun _ heq => by cases heq), hstaged]
    exact hworking.1.unwritten

theorem does_place (hplan : plan ∈ plans) {source : RetainedEntry}
    (hsource : source ∈ plan.retained.entries) (hfile : source.entry.directory = false)
    {base middle : Events} {input output : Handle} {temporary : String} {parent : RetainedDirectory}
    {seen : Option (Identity × Stamp)} (hchosen : Chosen plan source parent.handle input base)
    (hsaw : Saw base parent.handle source.entry.fileName seen)
    (hmiddle : Job.Compared ⟨base, parent.handle, input, output, temporary⟩ middle)
    (found : Option Handle) :
    Steps plans
      (fun state => Working total completed all copied state ∧
        Pass (rules plans) middle (fun events => (True ∧ Looked events parent.handle source.entry
          found) ∧ Observed events found seen) state.events)
      (parent.replaceFile temporary source.entry.fileName output)
      (fun _ state => Working total completed all copied state ∧
        Placed parent.handle source.entry.fileName output state.events) (Quiet all copied) := by
  have hstaging : ⟨.staging parent.handle, .ok (output, temporary)⟩ ∈ middle := by
    obtain ⟨copying, compared, rfl, hstaging, -⟩ := hmiddle
    exact List.mem_append_right _ (List.mem_append_left _ hstaging)
  refine (does_replaceFile (grows_looked_observed _ _ found seen) middle output fun _ hpass =>
    replaceable ⟨base, parent.handle, input, output, temporary⟩ hplan hsource hfile hchosen hsaw
      hmiddle hpass).mono (fun _ => id) ?_ fun _ => id
  rintro _ state ⟨hworking, rest, hevents, hrename⟩
  refine ⟨hworking, temporary, ?_⟩
  rw [hevents]
  exact ⟨List.mem_append_left _ hstaging, List.mem_append_right _ hrename⟩

theorem does_copyFile (hplan : plan ∈ plans) {source : RetainedEntry}
    (hsource : source ∈ plan.retained.entries) (hfile : source.entry.directory = false)
    {base : Events} {input : Handle} {parent : RetainedDirectory}
    {previous : Option (Identity × Stamp)} (hchosen : Chosen plan source parent.handle input base)
    (hsaw : Saw base parent.handle source.entry.fileName previous) (done : Nat) :
    Steps plans
      (fun state => Working total (completed + min done plan.bytes) all copied state ∧
        state.events = base)
      (copyFile plan ⟨completed, total⟩ source input parent previous done)
      (fun result state => Working total (completed + min result.2 plan.bytes) all copied state ∧
        Placed parent.handle source.entry.fileName result.1 state.events) (Quiet all copied) := by
  refine (does_staging input _ ⟨plan, hplan, _, hchosen.reached⟩).bind fun ⟨output, temporary⟩ => ?_
  refine .given fun houtput => ?_
  let job : Job := ⟨base, parent.handle, input, output, temporary⟩
  refine (does_copyContents (show job.output = _ from houtput) source done).bind fun done => ?_
  refine .fix (fun state => state.events) fun middle => ?_
  refine Does.mono (.given fun hmiddle : job.Compared middle => (does_pass total
    (completed + min done plan.bytes) all copied (sees_existing parent source.entry) (.const True)
    middle).bind fun found => ?_) ?_ (fun _ _ => id) fun _ => id
  · refine (does_pass _ _ _ _ (sees_observe found) ((Grows.const _).and (grows_looked _ _ _))
      middle).bind fun current => ?_
    split
    case isFalse => exact .throw fun state hstate => hstate.1.quiet
    rename_i hcurrent
    subst hcurrent
    refine (does_place hplan hsource hfile hchosen hsaw hmiddle found).bind fun _ => ?_
    exact .pure fun _ => id
  · rintro state ⟨rfl, hworking, hcompared⟩
    exact ⟨hcompared, hworking, pass_start _⟩

end Replacing

section Entry

variable {total completed all copied : Nat}

theorem Looked.opened {events : Events} {parent file : Handle} {entry : Entry}
    (hdir : entry.directory = true) (h : Looked events parent entry (some file)) :
    ⟨.child parent entry.fileName true false, .ok file⟩ ∈ events := by
  obtain ⟨relative, directory, size, modified⟩ := entry
  obtain rfl : directory = true := hdir
  exact h

/-- A directory that was opened or created under a name. -/
def Made (parent : Handle) (name : String) (file : Handle) (events : Events) : Prop :=
  ∃ create, ⟨.child parent name true create, .ok file⟩ ∈ events

theorem grows_made (parent : Handle) (name : String) (file : Handle) :
    Grows (Made parent name file) :=
  .exists fun _ => grows_mem _

theorem does_copyDirectory {source : RetainedEntry} (hdir : source.entry.directory = true)
    {parent : RetainedDirectory} {found : Option Handle} {events : Events}
    (hbelow : Below plans events parent.handle)
    (hlooked : Looked events parent.handle source.entry found) :
    Steps plans
      (fun state => Working total completed all copied state ∧ state.events = events)
      (copyDirectory source parent found)
      (fun file state => Working total completed all copied state ∧
        Made parent.handle source.entry.fileName file state.events) (Quiet all copied) := by
  cases found with
  | some file =>
    refine .pure ?_
    rintro state ⟨hworking, rfl⟩
    exact ⟨hworking, false, hlooked.opened hdir⟩
  | none =>
    refine .perform ?_ ?_ fun state error hstate => hstate.1.failed fun heq => by cases heq
    · rintro state ⟨-, rfl⟩ -
      exact hbelow
    · intro state answer file _ hstate
      exact ⟨hstate.1.add (Nat.le_refl _) trivial, true,
        List.mem_append_right _ List.mem_cons_self⟩

theorem sees_retain (source : RetainedEntry) (parent : RetainedDirectory) (output : Handle) :
    Sees plans (retain source parent output) fun copied events =>
      copied.entry = source.entry ∧ ⟨.identity output, .ok copied.identity⟩ ∈ events := by
  have hlast (stamp : Option Stamp) (identity : Identity) : Sees plans
      (pure (⟨source.entry, identity, stamp⟩ : RetainedEntry)) fun copied _ =>
        copied.entry = source.entry ∧ copied.identity = identity := .pure fun _ => ⟨rfl, rfl⟩
  have hidentity (stamp : Option Stamp) : Sees plans (do
      let identity ← ask (.identity output)
      pure (⟨source.entry, identity, stamp⟩ : RetainedEntry)) fun copied events =>
        copied.entry = source.entry ∧ ⟨.identity output, .ok copied.identity⟩ ∈ events := by
    refine ((sees_ask rfl).bind (fun _ => grows_mem _) (hlast stamp)).mono ?_
    rintro copied events ⟨identity, hidentity, hentry, rfl⟩
    exact ⟨hentry, hidentity⟩
  refine sees_after (harmless_ask rfl) fun _ => sees_ite (fun _ => ?_) fun _ => ?_
  · exact sees_after (.pure fun _ => trivial) hidentity
  · exact sees_after (harmless_ask rfl) fun _ => sees_after (.pure fun _ => trivial) hidentity

theorem does_retain {A : Events → Prop} (hA : Grows A) (source : RetainedEntry)
    (parent : RetainedDirectory) (output : Handle) (done : Nat) :
    Steps plans (fun state => Working total completed all copied state ∧ A state.events)
      (do
        let entry ← retain source parent output
        pure (entry, done))
      (fun result state => result.2 = done ∧ Working total completed all copied state ∧
        A state.events ∧ result.1.entry = source.entry ∧
        ⟨.identity output, .ok result.1.identity⟩ ∈ state.events) (Quiet all copied) := by
  refine ((sees_retain source parent output).does (kept_working.and (hA.kept 0))
    fun _ hstate => hstate.1.quiet).bind fun entry => .pure ?_
  rintro state ⟨⟨hworking, hA⟩, hentry, hidentity⟩
  exact ⟨rfl, hworking, hA, hentry, hidentity⟩

/-- The entry when it was looked at, just before its copy. -/
def Inspected (plan : MigrationPlan) (source : RetainedEntry) (parent input : Handle)
    (found : Option Handle) (previous : Option (Identity × Stamp)) (events : Events) : Prop :=
  Chosen plan source parent input events ∧ Looked events parent source.entry found ∧
    Observed events found previous

theorem does_copyEntry (hplan : plan ∈ plans) (outputs : List RetainedEntry)
    {source : RetainedEntry} (hsource : source ∈ plan.retained.entries) (done : Nat) :
    Steps plans (Working total (completed + min done plan.bytes) all copied)
      (copyEntry plan ⟨completed, total⟩ outputs source done)
      (fun result state => Working total (completed + min result.2 plan.bytes) all copied state ∧
        Copied state.events plan (source, result.1)) (Quiet all copied) := by
  refine ((sees_openEntry _ _ source).does kept_working fun _ => Working.quiet).bind fun input => ?_
  refine ((sees_parent _ outputs source.entry.relative).does
    (kept_working.and ((grows_found _ _ _ _).kept 0)) fun _ hstate => hstate.1.quiet).bind
      fun parent => ?_
  have hchosen : Grows fun events : Events =>
      Chosen plan source parent.handle input events :=
    fun _ _ hsub h => ⟨grows_reached _ _ _ _ _ hsub h.reached, grows_found _ _ _ _ _ _ hsub h.found⟩
  refine Does.mono (((harmless_verify parent).check (kept_working.and (hchosen.kept 0))
    fun _ hstate => hstate.1.quiet).bind fun _ => ?_)
      (fun _ ⟨⟨hworking, hfound⟩, hreached⟩ => ⟨hworking, hreached, hfound⟩) (fun _ _ => id) fun _ => id
  refine ((sees_existing parent source.entry).does (kept_working.and (hchosen.kept 0))
    fun _ hstate => hstate.1.quiet).bind fun found => ?_
  refine ((sees_observe found).does ((kept_working.and (hchosen.kept 0)).and
    ((grows_looked _ _ _).kept 0)) fun _ hstate => hstate.1.1.quiet).bind fun previous => ?_
  refine .fix (fun state => state.events) fun base => ?_
  refine Does.mono (.given fun h : Inspected plan source parent.handle input found previous base =>
    ?_) (?_ : ∀ state, _ → _ ∧ (Working total (completed + min done plan.bytes) all copied state ∧
      state.events = base)) (fun _ _ => id) fun _ => id
  · obtain ⟨hchosen, hlooked, hobserved⟩ := h
    have hreached := grows_reached plan.retained.destination.handle
      source.entry.relative.dropLast parent.handle
    split
    · rename_i hdir
      refine (((does_copyDirectory hdir ⟨plan, hplan, _, hchosen.reached⟩ hlooked).keep
        hreached.add).mono (fun state hstate => ⟨hstate, hstate.2 ▸ hchosen.reached⟩)
          (fun _ _ => id) fun _ hstate => hstate.1).bind fun output => ?_
      refine ((does_retain ((grows_made _ _ output).and hreached) source parent output done).mono
        (fun _ ⟨⟨hworking, hmade⟩, hreached⟩ => ⟨hworking, hmade, hreached⟩) ?_ fun _ => id)
      rintro ⟨entry, _⟩ state ⟨rfl, hworking, ⟨hmade, hreached⟩, hentry, hidentity⟩
      refine ⟨hworking, hentry, output, parent.handle, hreached, hidentity, ?_⟩
      rw [if_pos hdir]
      exact hmade
    · rename_i hfile
      refine (((does_copyFile hplan hsource (by simpa using hfile) hchosen
        (hlooked.saw (by simpa using hfile) hobserved) done).keep hreached.add).mono
          (fun state hstate => ⟨hstate, hstate.2 ▸ hchosen.reached⟩)
          (fun _ _ => id) fun _ hstate => hstate.1).bind fun ⟨output, done⟩ => ?_
      refine ((does_retain ((grows_placed _ _ output).and hreached) source parent output done).mono
        (fun _ ⟨⟨hworking, hplaced⟩, hreached⟩ => ⟨hworking, hplaced, hreached⟩) ?_ fun _ => id)
      rintro ⟨entry, _⟩ state ⟨rfl, hworking, ⟨hplaced, hreached⟩, hentry, hidentity⟩
      refine ⟨hworking, hentry, output, parent.handle, hreached, hidentity, ?_⟩
      rw [if_neg hfile]
      exact hplaced
  · rintro state ⟨rfl, ⟨⟨hworking, hchosen⟩, hlooked⟩, hobserved⟩
    exact ⟨⟨hchosen, hlooked, hobserved⟩, hworking, rfl⟩

end Entry

end ArtForgeStudio.DirectoryMigration
