import ArtForgeStudio.DirectoryMigration.Evidence

/-! # What looking programs show

The checks of a migration change nothing. What each of them has established when it succeeds can
be read off the history of its calls.
-/

namespace ArtForgeStudio.DirectoryMigration

open ArtForgeStudio.Concurrency ArtForgeStudio.Histories

variable {plans : List MigrationPlan} {plan : MigrationPlan} {α β : Type}

/-- A program whose calls change nothing. -/
abbrev Sees (plans : List MigrationPlan) (program : Fallible α) (seen : α → Events → Prop) : Prop :=
  Looks (rules plans) program seen

/-- Nothing is claimed about the result. -/
abbrev Harmless (plans : List MigrationPlan) (program : Fallible α) : Prop :=
  Sees plans program fun _ _ => True

theorem sees_ask {call : Call} (h : looks call = true) :
    Sees plans (ask call) fun value events => ⟨call, .ok value⟩ ∈ events :=
  Looks.perform h

theorem harmless_ask {call : Call} (h : looks call = true) : Harmless plans (ask call) :=
  (sees_ask h).mono fun _ _ _ => trivial

theorem harmless_bind {program : Fallible α} {rest : α → Fallible β} (h : Harmless plans program)
    (hrest : ∀ result, Harmless plans (rest result)) : Harmless plans (program >>= rest) :=
  (h.bind (fun _ => .const True) hrest).mono fun _ _ _ => trivial

/-- What comes first is only a check. -/
theorem sees_after {program : Fallible α} {rest : α → Fallible β} {seen : β → Events → Prop}
    (h : Harmless plans program) (hrest : ∀ result, Sees plans (rest result) seen) :
    Sees plans (program >>= rest) seen :=
  (h.bind (fun _ => .const True) hrest).mono fun _ _ h => h.choose_spec.2

theorem sees_ite {condition : Prop} [Decidable condition] {one two : Fallible α}
    {seen : α → Events → Prop} (h : condition → Sees plans one seen)
    (h' : ¬condition → Sees plans two seen) : Sees plans (if condition then one else two) seen := by
  split
  · exact h ‹_›
  · exact h' ‹_›

theorem sees_annotated {program : Fallible α} {seen : α → Events → Prop} (annotate : IoError → IoError)
    (h : Sees plans program seen) : Sees plans (annotated annotate program) seen :=
  h.catch fun _ => .throw

theorem Reached.trans {events : Events} {base parent handle : Handle} {above below : Path}
    (h : Reached events base above parent) (h' : Reached events parent below handle) :
    Reached events base (above ++ below) handle := by
  induction h' with
  | base => rwa [List.append_nil]
  | child hparent hopened ih =>
    rw [← List.append_assoc]
    exact ih.child hopened

theorem grows_reached (base : Handle) (path : Path) (handle : Handle) :
    Grows fun events : Events => Reached events base path handle := by
  intro events later hsub h
  induction h with
  | base => exact .base
  | child hparent hopened ih => exact ih.child (hsub.subset hopened)

theorem grows_found (directory : RetainedDirectory) (entry : Entry) (identity : Identity)
    (file : Handle) : Grows fun events : Events => Found events directory entry identity file :=
  .exists fun _ => (grows_reached _ _ _).and ((grows_mem _).and (grows_mem _))

theorem sees_childDirectory (directory : RetainedDirectory) (name : String) :
    Sees plans (directory.childDirectory name false) fun child events =>
      ⟨.child directory.handle name true false, .ok child.handle⟩ ∈ events := by
  have hrest (child : Handle) : Sees plans
      (pure (⟨directory.path ++ [name], directory.chain, child⟩ : RetainedDirectory))
      fun result _ => result.handle = child := .pure fun _ => rfl
  refine ((sees_ask rfl).bind (fun _ => grows_mem _) hrest).mono ?_
  rintro child events ⟨handle, hopened, rfl⟩
  exact hopened

theorem harmless_descend (names : List String) (directory : RetainedDirectory) :
    Harmless plans (directory.descend names) := by
  induction names generalizing directory with
  | nil => exact .pure fun _ => trivial
  | cons name rest ih =>
    exact harmless_bind ((sees_childDirectory directory name).mono fun _ _ _ => trivial) ih

theorem harmless_sameIdentities (pairs : List (Handle × Handle)) :
    Harmless plans (RetainedDirectory.sameIdentities pairs) := by
  induction pairs with
  | nil => exact .pure fun _ => trivial
  | cons pair rest ih =>
    exact harmless_bind (harmless_ask rfl) fun old => harmless_bind (harmless_ask rfl) fun new =>
      sees_ite (fun _ => ih) fun _ => .throw

theorem harmless_verify (directory : RetainedDirectory) : Harmless plans directory.verify :=
  harmless_bind (harmless_bind (harmless_ask rfl) fun _ => harmless_descend _ _) fun _ =>
    sees_ite (fun _ => harmless_sameIdentities _) fun _ => .throw

theorem sees_parentBelow (entries : List RetainedEntry) (names : List String)
    (directory : RetainedDirectory) (above : Path) :
    Sees plans (parentBelow entries directory above names) fun parent events =>
      Reached events directory.handle names parent.handle := by
  induction names generalizing directory above with
  | nil => exact .pure fun _ => .base
  | cons name rest ih =>
    unfold parentBelow
    split
    · exact .throw
    · refine ((sees_childDirectory directory name).bind (fun _ => grows_mem _) fun child =>
        sees_after (harmless_ask rfl) fun identity => sees_ite (fun _ => ih child _) fun _ =>
          .throw).mono ?_
      rintro parent events ⟨child, hopened, hreached⟩
      exact (Reached.base.child hopened).trans hreached

theorem sees_parent (root : RetainedDirectory) (entries : List RetainedEntry) (relative : Path) :
    Sees plans (parent root entries relative) fun parent events =>
      Reached events root.handle relative.dropLast parent.handle :=
  sees_parentBelow entries _ root []

theorem sees_openEntry (root : RetainedDirectory) (entries : List RetainedEntry)
    (held : RetainedEntry) :
    Sees plans (openEntry root entries held) fun file events =>
      Found events root held.entry held.identity file := by
  have hrest (file : Handle) (identity : Identity) : Sees plans
      (if identity = held.identity then pure file else throw (other "迁移文件身份已变化"))
      fun result _ => result = file ∧ identity = held.identity :=
    sees_ite (fun hsame => .pure fun _ => ⟨rfl, hsame⟩) fun _ => .throw
  refine ((sees_parent root entries held.entry.relative).bind (fun _ => grows_reached _ _ _)
    fun parent => (sees_ask rfl).bind (fun _ => grows_mem _) fun file =>
      (sees_ask rfl).bind (fun _ => grows_mem _) (hrest file)).mono ?_
  rintro _ events ⟨parent, hreached, file, hopened, identity, hidentity, rfl, rfl⟩
  exact ⟨parent.handle, hreached, hopened, hidentity⟩

/-- What opening a name gave. -/
def Looked (events : Events) (parent : Handle) (entry : Entry) : Option Handle → Prop
  | none => ∃ error : IoError, error.kind = .notFound ∧
      ⟨.child parent entry.fileName entry.directory false, .error error⟩ ∈ events
  | some file => ⟨.child parent entry.fileName entry.directory false, .ok file⟩ ∈ events

/-- The identity and the stamp of what was opened. -/
def Observed (events : Events) : Option Handle → Option (Identity × Stamp) → Prop
  | none, seen => seen = none
  | some file, seen => ∃ identity stamp, seen = some (identity, stamp) ∧
      ⟨.identity file, .ok identity⟩ ∈ events ∧ ⟨.stamp file, .ok stamp⟩ ∈ events

theorem grows_looked (parent : Handle) (entry : Entry) :
    ∀ found, Grows fun events : Events => Looked events parent entry found
  | none => .exists fun _ => (Grows.const _).and (grows_mem _)
  | some _ => grows_mem _

theorem grows_observed : ∀ found seen, Grows fun events : Events => Observed events found seen
  | none, _ => .const _
  | some _, _ => .exists fun _ => .exists fun _ => (Grows.const _).and ((grows_mem _).and (grows_mem _))

theorem Looked.saw {events : Events} {parent : Handle} {entry : Entry} {found : Option Handle}
    {seen : Option (Identity × Stamp)} (hfile : entry.directory = false)
    (h : Looked events parent entry found) (h' : Observed events found seen) :
    Saw events parent entry.fileName seen := by
  obtain ⟨relative, directory, size, modified⟩ := entry
  obtain rfl : directory = false := hfile
  cases found with
  | none =>
    obtain rfl : seen = none := h'
    exact h
  | some file =>
    obtain ⟨identity, stamp, rfl, hidentity, hstamp⟩ := h'
    exact ⟨file, h, hidentity, hstamp⟩

theorem sees_existing (parent : RetainedDirectory) (entry : Entry) :
    Sees plans (existing parent entry) fun found events =>
      Looked events parent.handle entry found := by
  have hcall : Sees plans (ExceptT.lift (ask (.child parent.handle entry.fileName
      entry.directory false)).run) fun reply events => ⟨_, reply⟩ ∈ events := Looks.reply rfl
  refine (hcall.bind (fun _ => grows_mem _) fun reply => (?_ : Sees plans _ fun found _ =>
    match found with
    | none => ∃ error : IoError, error.kind = .notFound ∧ reply = .error error
    | some file => reply = .ok file)).mono ?_
  · cases reply with
    | ok file => exact .pure fun _ => rfl
    | error error =>
      exact sees_ite (fun hkind => .pure fun _ => ⟨error, hkind, rfl⟩) fun _ => .throw
  rintro (_ | file) events ⟨reply, hmem, hreply⟩
  · obtain ⟨error, hkind, rfl⟩ := hreply
    exact ⟨error, hkind, hmem⟩
  · subst hreply
    exact hmem

theorem sees_observe (found : Option Handle) :
    Sees plans (observe found) fun seen events => Observed events found seen := by
  cases found with
  | none => exact .pure fun _ => rfl
  | some file =>
    have hrest (identity : Identity) (stamp : Stamp) : Sees plans
        (pure (some (identity, stamp))) fun seen _ => seen = some (identity, stamp) :=
      .pure fun _ => rfl
    refine ((sees_ask rfl).bind (fun _ => grows_mem _) fun identity =>
      (sees_ask rfl).bind (fun _ => grows_mem _) (hrest identity)).mono ?_
    rintro seen events ⟨identity, hidentity, stamp, hstamp, hseen⟩
    exact ⟨identity, stamp, hseen, hidentity, hstamp⟩

theorem harmless_ifFound {program : Fallible α} (h : Harmless plans program) :
    Harmless plans (ifFound program) := by
  refine harmless_bind (h.run.mono fun _ _ _ => trivial) fun reply => ?_
  cases reply with
  | ok result => exact .pure fun _ => trivial
  | error error => exact sees_ite (fun _ => .pure fun _ => trivial) fun _ => .throw

theorem harmless_targetParent (names : List String) (directory : RetainedDirectory) :
    Harmless plans (targetParent directory names) := by
  induction names generalizing directory with
  | nil => exact .pure fun _ => trivial
  | cons name rest ih =>
    refine harmless_bind (harmless_ifFound ((sees_childDirectory directory name).mono
      fun _ _ _ => trivial)) fun found => ?_
    cases found with
    | none => exact .pure fun _ => trivial
    | some child => exact ih child

theorem harmless_checkTarget (destination : RetainedDirectory) (entry : Entry) :
    Harmless plans (checkTarget destination entry) := by
  refine harmless_bind (harmless_targetParent _ _) fun found => ?_
  cases found with
  | none => exact .pure fun _ => trivial
  | some parent =>
    exact harmless_bind (harmless_ifFound (harmless_ask rfl)) fun _ => .pure fun _ => trivial

theorem harmless_checkTargets (plan : MigrationPlan) : Harmless plans (checkTargets plan) :=
  harmless_bind (harmless_verify _) fun _ =>
    harmless_bind ((Looks.forM (fun _ => .const True) _ fun _ _ => harmless_checkTarget _ _).mono
      fun _ _ _ => trivial) fun _ => harmless_verify _

theorem grows_shown (file : Handle) (offset : Nat) (byte : UInt8) :
    Grows fun events : Events => Shown events file offset byte :=
  .exists fun _ => .exists fun _ => .exists fun _ => (grows_mem _).and (.const _)

/-- Bytes that were read from an offset on. -/
def Bytes (events : Events) (file : Handle) (offset : Nat) (bytes : List UInt8) : Prop :=
  ∀ i byte, bytes[i]? = some byte → Shown events file (offset + i) byte

theorem grows_bytes (file : Handle) (offset : Nat) (bytes : List UInt8) :
    Grows fun events : Events => Bytes events file offset bytes :=
  fun _ _ hsub h i byte hbyte => grows_shown _ _ _ _ _ hsub (h i byte hbyte)

theorem bytes_nil (events : Events) (file : Handle) (offset : Nat) : Bytes events file offset [] :=
  fun i byte h => by simp at h

theorem Bytes.append {events : Events} {file : Handle} {offset : Nat} {bytes rest : List UInt8}
    (h : Bytes events file offset bytes) (h' : Bytes events file (offset + bytes.length) rest) :
    Bytes events file offset (bytes ++ rest) := by
  intro i byte hbyte
  by_cases hi : i < bytes.length
  · rw [List.getElem?_append_left hi] at hbyte
    exact h i byte hbyte
  · rw [List.getElem?_append_right (by omega)] at hbyte
    have hrest := h' _ byte hbyte
    rwa [Nat.add_assoc, Nat.add_sub_cancel' (by omega)] at hrest

theorem sees_readAt (file : Handle) (offset limit : Nat) :
    Sees plans (ask (.readAt file offset limit)) fun data events =>
      Bytes events file offset data.val :=
  (sees_ask rfl).mono fun data _ hmem i byte hbyte =>
    ⟨offset, limit, data, hmem, by omega, by rwa [Nat.add_sub_cancel_left]⟩

/-- The bytes that were read before, and newly read ones behind them. -/
def Filled (events : Events) (file : Handle) (offset : Nat) (filled : List UInt8)
    (result : Option (List UInt8)) : Prop :=
  ∀ bytes, result = some bytes →
    ∃ rest, bytes = filled ++ rest ∧ Bytes events file (offset + filled.length) rest

theorem grows_filled (file : Handle) (offset : Nat) (filled : List UInt8)
    (result : Option (List UInt8)) :
    Grows fun events : Events => Filled events file offset filled result := by
  intro events later hsub h bytes heq
  obtain ⟨rest, hbytes, hrest⟩ := h bytes heq
  exact ⟨rest, hbytes, grows_bytes _ _ _ _ _ hsub hrest⟩

theorem sees_fill (file : Handle) (offset count : Nat) (filled : List UInt8) :
    Sees plans (fill file offset count filled) fun result events =>
      Filled events file offset filled result := by
  induction filled using fill.induct file offset count with
  | case1 filled hshort ih =>
    unfold fill
    rw [if_pos hshort]
    refine ((sees_readAt _ _ _).bind (fun _ => grows_bytes _ _ _) fun data => (sees_ite
      (fun _ => .pure fun _ bytes heq => by cases heq) (ih data) : Sees plans _ fun result events =>
        Filled events file offset (filled ++ data.val) result)).mono ?_
    rintro result events ⟨data, hread, hfilled⟩ bytes heq
    obtain ⟨rest, rfl, hrest⟩ := hfilled bytes heq
    rw [List.length_append, ← Nat.add_assoc] at hrest
    exact ⟨data.val ++ rest, List.append_assoc _ _ _, hread.append hrest⟩
  | case2 filled hdone =>
    unfold fill
    rw [if_neg hdone]
    exact .pure fun _ bytes heq => ⟨[], by simpa using heq.symm, bytes_nil _ _ _⟩

/-- The same bytes were read from both files, from an offset up to a length. -/
def Same (events : Events) (left right : Handle) (length offset : Nat) : Prop :=
  ∀ i, offset ≤ i → i < length → ∃ byte, Shown events left i byte ∧ Shown events right i byte

theorem Same.step {events : Events} {left right : Handle} {length offset : Nat} {bytes : List UInt8}
    (hleft : Bytes events left offset bytes) (hright : Bytes events right offset bytes)
    (h : Same events left right length (offset + bytes.length)) :
    Same events left right length offset := by
  intro i hle hlt
  by_cases hi : i < offset + bytes.length
  · have hbound : i - offset < bytes.length := by omega
    have hget : bytes[i - offset]? = some bytes[i - offset] := List.getElem?_eq_getElem hbound
    have hshown := And.intro (hleft _ _ hget) (hright _ _ hget)
    rw [Nat.add_sub_cancel' hle] at hshown
    exact ⟨_, hshown⟩
  · exact h i (by omega) hlt

theorem sees_sameBytes (left right : Handle) (length offset : Nat) :
    Sees plans (sameBytes left right length offset) fun same events =>
      same = true → Same events left right length offset := by
  induction offset using sameBytes.induct left length with
  | case1 offset hlt ih =>
    unfold sameBytes
    rw [if_pos hlt]
    refine ((sees_readAt _ _ _).bind (fun _ => grows_bytes _ _ _) fun data => (?_ :
      Sees plans _ fun same events => same = true → Bytes events right offset data.val ∧
        Same events left right length (offset + data.val.length))).mono ?_
    · refine sees_ite (fun _ => .pure fun _ hsame => by cases hsame) fun hne => ?_
      refine ((sees_fill right offset _ []).bind (fun _ => grows_filled _ _ _ _) fun filled =>
        (?_ : Sees plans _ fun same events => same = true → filled = some data.val ∧
          Same events left right length (offset + data.val.length))).mono ?_
      · cases filled with
        | none => exact .pure fun _ hsame => by cases hsame
        | some filled =>
          exact sees_ite (fun heq => (ih data hne).mono fun _ _ h hsame =>
            ⟨congrArg some heq.symm, h hsame⟩) fun _ => .pure fun _ hsame => by cases hsame
      · rintro same events ⟨filled, hfilled, hrest⟩ hsame
        obtain ⟨heq, hrest⟩ := hrest hsame
        obtain ⟨bytes, hbytes, hright⟩ := hfilled _ heq
        rw [List.nil_append] at hbytes
        exact ⟨hbytes ▸ hright, hrest⟩
    · rintro same events ⟨data, hleft, hrest⟩ hsame
      obtain ⟨hright, hrest⟩ := hrest hsame
      exact .step hleft hright hrest
  | case2 offset hdone =>
    unfold sameBytes
    rw [if_neg hdone]
    exact .pure fun _ _ i hle hlt => absurd (Nat.lt_of_le_of_lt hle hlt) hdone

theorem grows_equal (left right : Handle) :
    Grows fun events : Events => Equal events left right := by
  rintro events later hsub ⟨before, reads, after, leftStamp, rightStamp, hevents, hequal⟩
  exact ⟨before, reads, after, leftStamp, rightStamp, hevents.trans hsub, hequal⟩

theorem sees_stamp (file : Handle) :
    Sees plans (ask (.stamp file)) fun stamp events => ⟨.stamp file, .ok stamp⟩ ∈ events :=
  sees_ask rfl

/-- The last stamps are those of the start. -/
theorem sees_restamped (left right : Handle) (beforeLeft beforeRight : Stamp) :
    Sees plans (do
      let afterLeft ← ask (.stamp left)
      let afterRight ← ask (.stamp right)
      pure (decide (beforeLeft = afterLeft ∧ beforeRight = afterRight))) fun same events =>
        same = true → ⟨.stamp left, .ok beforeLeft⟩ ∈ events ∧
          ⟨.stamp right, .ok beforeRight⟩ ∈ events := by
  have hlast (afterLeft afterRight : Stamp) : Sees plans
      (pure (decide (beforeLeft = afterLeft ∧ beforeRight = afterRight))) fun same _ =>
        same = true → beforeLeft = afterLeft ∧ beforeRight = afterRight :=
    .pure fun _ hsame => of_decide_eq_true hsame
  refine ((sees_stamp left).bind (fun _ => grows_mem _) fun afterLeft =>
    (sees_stamp right).bind (fun _ => grows_mem _) (hlast afterLeft)).mono ?_
  rintro same events ⟨afterLeft, hleft, afterRight, hright, heq⟩ hsame
  obtain ⟨rfl, rfl⟩ := heq hsame
  exact ⟨hleft, hright⟩

theorem sees_retainedEqual (left right : Handle) :
    Sees plans (retainedEqual left right) fun same events =>
      same = true → Equal events left right := by
  unfold retainedEqual
  refine sees_after (harmless_ask rfl) fun _ => sees_after (harmless_ask rfl) fun _ => ?_
  refine ((sees_stamp left).seq fun leftStamp => (sees_stamp right).seq fun rightStamp =>
    (?_ : Sees plans _ fun same events => same = true → leftStamp.length = rightStamp.length ∧
      ∃ reads after, events = reads ++ after ∧ Same reads left right leftStamp.length 0 ∧
        ⟨.stamp left, .ok leftStamp⟩ ∈ after ∧ ⟨.stamp right, .ok rightStamp⟩ ∈ after)).mono ?_
  · refine sees_ite (fun hlength => ?_) fun _ => .pure fun _ hsame => by cases hsame
    refine ((sees_sameBytes left right _ 0).seq fun same => (?_ : Sees plans _ fun result events =>
      result = true → same = true ∧ ⟨.stamp left, .ok leftStamp⟩ ∈ events ∧
        ⟨.stamp right, .ok rightStamp⟩ ∈ events)).mono ?_
    · exact sees_ite (fun hsame => (sees_restamped left right leftStamp rightStamp).mono
        fun _ _ h hresult => ⟨hsame, h hresult⟩) fun _ => .pure fun _ hresult => by cases hresult
    · rintro result events ⟨same, reads, after, hevents, hreads, hafter⟩ hresult
      obtain ⟨hsame, hafter⟩ := hafter hresult
      exact ⟨hlength, reads, after, hevents, hreads hsame, hafter⟩
  · rintro same events ⟨leftStamp, early, late, hevents, hleft, rightStamp, middle, rest, hlate,
      hright, hrest⟩ hsame
    obtain ⟨hlength, reads, after, hreads, hbytes, hafter⟩ := hrest hsame
    refine ⟨early ++ middle, reads, after, leftStamp, rightStamp, ?_,
      ⟨List.mem_append_left _ hleft, List.mem_append_right _ hright⟩, hafter, hlength,
      fun offset hlt => hbytes offset (Nat.zero_le _) hlt⟩
    rw [hevents, hlate, hreads, List.append_assoc]

theorem grows_unchanged (plan : MigrationPlan) (held : RetainedEntry) :
    Grows fun events : Events => Unchanged events plan held := by
  rintro events later hsub ⟨file, hfound, hstamp⟩
  refine ⟨file, grows_found _ _ _ _ _ _ hsub hfound, fun hfile => ?_⟩
  obtain ⟨stamp, hheld, hmem⟩ := hstamp hfile
  exact ⟨stamp, hheld, hsub.subset hmem⟩

theorem sees_verifySourceEntry (plan : MigrationPlan) (held : RetainedEntry) :
    Sees plans (verifySourceEntry plan held) fun _ events => Unchanged events plan held := by
  refine ((sees_annotated _ (sees_openEntry _ _ held)).bind (fun _ => grows_found _ _ _ _)
    fun file => (?_ : Sees plans _ fun _ events => held.entry.directory = false →
      ∃ stamp, held.stamp = some stamp ∧ ⟨.stamp file, .ok stamp⟩ ∈ events)).mono
    fun _ _ h => h
  refine sees_ite (fun hdir => .pure fun _ hfile => by simp [hfile] at hdir) fun _ => ?_
  refine ((sees_annotated _ (sees_stamp file)).bind (fun _ => grows_mem _) fun stamp =>
    (sees_ite (fun heq => .pure fun _ => heq) (fun _ => .throw) :
      Sees plans _ fun _ _ => some stamp = held.stamp)).mono ?_
  rintro _ events ⟨stamp, hmem, heq⟩ -
  exact ⟨stamp, heq.symm, hmem⟩

theorem sees_verifySource (plan : MigrationPlan) :
    Sees plans (verifySource plan) fun _ events =>
      (∀ held ∈ plan.retained.entries, Unchanged events plan held) ∧
      ⟨.scan plan.source, .ok plan.entries⟩ ∈ events := by
  refine sees_after (harmless_verify _) fun _ => sees_after (harmless_verify _) fun _ => ?_
  have hscan : Sees plans (ask (.scan plan.source)) fun current events =>
      ⟨.scan plan.source, .ok current⟩ ∈ events := sees_ask rfl
  refine ((Looks.forM (grows_unchanged plan) _ fun held _ => sees_verifySourceEntry plan held).bind
    (fun _ => ?_) fun _ => hscan.bind (fun _ => grows_mem _) fun current =>
      (sees_ite (fun heq => .pure fun _ => heq) (fun _ => .throw) :
        Sees plans _ fun _ _ => current = plan.entries)).mono ?_
  · exact fun events later hsub h held hheld => grows_unchanged _ _ _ _ hsub (h held hheld)
  · rintro _ events ⟨-, hunchanged, current, hscan, rfl⟩
    exact ⟨hunchanged, hscan⟩

theorem grows_matches (plan : MigrationPlan) (pair : RetainedEntry × RetainedEntry) :
    Grows fun events : Events => Matches events plan pair := by
  rintro events later hsub ⟨input, output, hinput, houtput, hequal⟩
  exact ⟨input, output, grows_found _ _ _ _ _ _ hsub hinput, grows_found _ _ _ _ _ _ hsub houtput,
    fun hfile => grows_equal _ _ _ _ hsub (hequal hfile)⟩

theorem sees_verifyPair (plan : MigrationPlan) (outputs : List RetainedEntry)
    (pair : RetainedEntry × RetainedEntry) :
    Sees plans (verifyPair plan outputs pair) fun _ events => Matches events plan pair := by
  refine sees_annotated _ (((sees_openEntry _ _ pair.1).bind (fun _ => grows_found _ _ _ _)
    fun input => (sees_openEntry _ _ pair.2).bind (fun _ => grows_found _ _ _ _) fun output =>
      (?_ : Sees plans _ fun _ events => pair.2.entry.directory = false →
        Equal events input output)).mono
        fun _ _ ⟨input, hinput, output, h⟩ => ⟨input, output, hinput, h⟩)
  refine sees_ite (fun hdir => (harmless_ask rfl).mono fun _ _ _ hfile => by
    simp [hfile] at hdir) fun _ => ?_
  refine ((sees_retainedEqual input output).bind (fun _ => ?_) fun same =>
    (sees_ite (fun hsame => .pure fun _ => hsame) (fun _ => .throw) :
      Sees plans _ fun _ _ => same = true)).mono ?_
  · exact fun events later hsub h hsame => grows_equal _ _ _ _ hsub (h hsame)
  · rintro _ events ⟨same, hequal, hsame⟩ -
    exact hequal hsame

theorem grows_verified (plan : MigrationPlan) (outputs : List RetainedEntry) :
    Grows fun events : Events => Verified events plan outputs :=
  fun _ _ hsub h => ⟨h.complete, fun held hheld => grows_unchanged _ _ _ _ hsub (h.sources held hheld),
    hsub.subset h.scanned, fun pair hpair => grows_matches _ _ _ _ hsub (h.copies pair hpair)⟩

theorem sees_verifyCopy (plan : MigrationPlan) (outputs : List RetainedEntry) :
    Sees plans (verifyCopy plan outputs) fun _ events => Verified events plan outputs := by
  refine ((sees_verifySource plan).bind (fun _ => ?_) fun _ => (?_ : Sees plans _ fun _ events =>
    outputs.length = plan.retained.entries.length ∧
      ∀ pair ∈ plan.retained.entries.zip outputs, Matches events plan pair)).mono ?_
  · exact .and (fun events later hsub h held hheld => grows_unchanged _ _ _ _ hsub (h held hheld))
      (grows_mem _)
  · refine sees_ite (fun hlength => ?_) fun _ => .throw
    refine ((Looks.forM (grows_matches plan) _ fun pair _ =>
      sees_verifyPair plan outputs pair).bind (fun _ => ?_) fun _ =>
        harmless_bind (harmless_verify _) fun _ => harmless_bind (harmless_verify _) fun _ =>
          harmless_ask rfl).mono ?_
    · exact fun events later hsub h pair hpair => grows_matches _ _ _ _ hsub (h pair hpair)
    · rintro _ events ⟨-, hmatches, -⟩
      exact ⟨hlength, hmatches⟩
  · rintro _ events ⟨-, ⟨hsources, hscanned⟩, hlength, hcopies⟩
    exact ⟨hlength, hsources, hscanned, hcopies⟩

end ArtForgeStudio.DirectoryMigration
