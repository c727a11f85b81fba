import ArtForgeStudio.PromptOptimization.Workers
import ArtForgeStudio.Recovery.RowEdits
import Mathlib.Logic.Function.Basic

/-! # Requests and their rows

In a good state every request that was sent is asked for by its row, at most one row waits for a
job, and a job id comes from an answer to the request of its row.
-/

namespace ArtForgeStudio.PromptOptimization

open ArtForgeStudio.Api ArtForgeStudio.Recovery ArtForgeStudio.KeyedRows ArtForgeStudio.Concurrency
  ArtForgeStudio.Outcome

/-- A row without the flag that the window writes. -/
def core (row : PendingPromptOptimizationRecord) : PendingPromptOptimizationRecord :=
  { row with presentationDismissed := false }

theorem deepRequest_core (row : PendingPromptOptimizationRecord) :
    deepRequest (core row) = deepRequest row := rfl

/-- The request was written ahead: its row asked for it, and no other row waited for a job. -/
structure Sent.Ahead (sent : Sent) : Prop where
  stored : ∃ row, deepTable.lookup sent.document sent.request.key = some row ∧
    deepRequest row = some sent.request
  alone : ∀ row ∈ deepTable.rowsOf sent.document, row.serverJobId = "" →
    row.clientRequestId = sent.request.key

@[ext] structure DeepState where
  row : String → Option PendingPromptOptimizationRecord
  sent : List Sent
  answered : List (String × String)
  accepted : List String

def World.part {user : String} (world : World user) : DeepState where
  row key := (world.row key).map core
  sent := world.sent
  answered := world.answered
  accepted := world.accepted

namespace DeepState

structure Good (v : DeepState) : Prop where
  key : ∀ key row, v.row key = some row → row.clientRequestId = key
  alone : ∀ key other row row', v.row key = some row → v.row other = some row' →
    row.serverJobId = "" → row'.serverJobId = "" → key = other
  sent : ∀ sent ∈ v.sent, sent.Ahead ∧
    ∃ row, v.row sent.request.key = some row ∧ deepRequest row = some sent.request
  answered : ∀ key row, v.row key = some row → row.serverJobId ≠ "" →
    (key, row.serverJobId) ∈ v.answered
  accepted : ∀ id ∈ v.accepted, id ≠ "" ∧ ∃ key row, v.row key = some row ∧ row.serverJobId = id

/-- A row stays, asks for the same, and keeps its job. -/
def Moves (before after : DeepState) : Prop :=
  ∀ key row, before.row key = some row → ∃ later, after.row key = some later ∧
    deepRequest later = deepRequest row ∧ (row.serverJobId ≠ "" → later.serverJobId = row.serverJobId)

variable {u v w : DeepState} {key other id : String}
  {row later record : PendingPromptOptimizationRecord}
  {row? : Option PendingPromptOptimizationRecord} {sent : Sent}

theorem Moves.of_row (h : w.row = v.row) : Moves v w :=
  fun _ row hrow => ⟨row, h ▸ hrow, rfl, fun _ => rfl⟩

theorem Moves.trans (h : Moves u v) (h' : Moves v w) : Moves u w := by
  intro key row hrow
  obtain ⟨middle, hmiddle, hasked, hjob⟩ := h key row hrow
  obtain ⟨later, hlater, hasked', hjob'⟩ := h' key middle hmiddle
  refine ⟨later, hlater, hasked'.trans hasked, fun hne => ?_⟩
  have hsame := hjob hne
  rw [hjob' (hsame ▸ hne), hsame]

def edit (key : String) (row : Option PendingPromptOptimizationRecord) (v : DeepState) : DeepState :=
  { v with row := Function.update v.row key (row.map core) }

theorem edit_same (h : v.row key = Option.map core row?) : v.edit key row? = v := by
  unfold DeepState.edit
  rw [← h, Function.update_eq_self]

theorem edit_self : (v.edit key row?).row key = row?.map core := Function.update_self _ _ _

theorem edit_other (h : other ≠ key) : (v.edit key row?).row other = v.row other :=
  Function.update_of_ne h _ _

theorem row_edit (h : (v.edit key (some later)).row other = some row) :
    other = key ∧ row = core later ∨ other ≠ key ∧ v.row other = some row := by
  by_cases hother : other = key
  · subst hother
    rw [edit_self] at h
    exact .inl ⟨rfl, (Option.some.inj h).symm⟩
  · rw [edit_other hother] at h
    exact .inr ⟨hother, h⟩

/-- A row that asks for the same, with its job or one that the server named for it. -/
theorem Moves.edit (hrow : v.row key = some (core row)) (hasked : deepRequest later = deepRequest row)
    (hjob : later.serverJobId = row.serverJobId ∨ row.serverJobId = "") :
    Moves v (v.edit key (some later)) := by
  intro other found hfound
  by_cases hother : other = key
  · subst hother
    cases hrow.symm.trans hfound
    exact ⟨core later, edit_self, hasked, fun hne => hjob.resolve_right hne⟩
  · exact ⟨found, (edit_other hother).trans hfound, rfl, fun _ => rfl⟩

/-- What was sent is still asked for. -/
theorem Good.asked (h : Good v) (hmoves : Moves v w) : ∀ sent ∈ v.sent, sent.Ahead ∧
    ∃ row, w.row sent.request.key = some row ∧ deepRequest row = some sent.request := by
  intro sent hsent
  obtain ⟨hahead, found, hfound, hrequest⟩ := h.sent sent hsent
  obtain ⟨after, hafter, hsame, -⟩ := hmoves _ found hfound
  exact ⟨hahead, after, hafter, hsame.trans hrequest⟩

theorem Good.named (h : Good v) (hmoves : Moves v w) : ∀ id ∈ v.accepted, id ≠ "" ∧
    ∃ key row, w.row key = some row ∧ row.serverJobId = id := by
  intro id hid
  obtain ⟨hne, other, found, hfound, rfl⟩ := h.accepted id hid
  obtain ⟨after, hafter, -, hkept⟩ := hmoves other found hfound
  exact ⟨hne, other, after, hafter, hkept hne⟩

theorem Good.edit (h : Good v) (hrow : v.row key = some (core row))
    (hkey : later.clientRequestId = row.clientRequestId)
    (hasked : deepRequest later = deepRequest row)
    (hjob : later.serverJobId = row.serverJobId ∨
      row.serverJobId = "" ∧ (key, later.serverJobId) ∈ v.answered) :
    Good (v.edit key (some later)) := by
  have hmoves : Moves v (v.edit key (some later)) :=
    .edit hrow hasked (hjob.imp_right And.left)
  have hwaits : later.serverJobId = "" → row.serverJobId = "" := fun hempty =>
    hjob.elim (fun hsame => hsame ▸ hempty) And.left
  refine ⟨?_, ?_, ?_, ?_, ?_⟩
  · intro other found hfound
    rcases row_edit hfound with ⟨rfl, rfl⟩ | ⟨-, hold⟩
    · exact hkey.trans (h.key other (core row) hrow)
    · exact h.key other found hold
  · intro one other found found' hone hother hempty hempty'
    rcases row_edit hone with ⟨rfl, rfl⟩ | ⟨-, hold⟩
    · rcases row_edit hother with ⟨rfl, rfl⟩ | ⟨-, hold'⟩
      · rfl
      · exact h.alone one other (core row) found' hrow hold' (hwaits hempty) hempty'
    · rcases row_edit hother with ⟨rfl, rfl⟩ | ⟨-, hold'⟩
      · exact h.alone one other found (core row) hold hrow hempty (hwaits hempty')
      · exact h.alone one other found found' hold hold' hempty hempty'
  · exact h.asked hmoves
  · intro other found hfound hne
    rcases row_edit hfound with ⟨rfl, rfl⟩ | ⟨-, hold⟩
    · rcases hjob with hsame | ⟨-, hanswered⟩
      · have hjob' : (core later).serverJobId = row.serverJobId := hsame
        rw [hjob'] at hne ⊢
        exact h.answered other (core row) hrow hne
      · exact hanswered
    · exact h.answered other found hold hne
  · exact h.named hmoves

/-- No row waits for a job. -/
def Resolved (v : DeepState) : Prop := ∀ key row, v.row key = some row → row.serverJobId ≠ ""

/-- The row of a new request, when no other waits. -/
theorem Good.insert (h : Good v) (hnew : v.row key = none) (hresolved : v.Resolved)
    (hkey : record.clientRequestId = key) (hempty : record.serverJobId = "") :
    Good (v.edit key (some record)) ∧ Moves v (v.edit key (some record)) := by
  have hmoves : Moves v (v.edit key (some record)) := by
    intro other found hfound
    have hother : other ≠ key := by
      rintro rfl
      cases hnew.symm.trans hfound
    exact ⟨found, (edit_other hother).trans hfound, rfl, fun _ => rfl⟩
  refine ⟨⟨?_, ?_, ?_, ?_, ?_⟩, hmoves⟩
  · intro other found hfound
    rcases row_edit hfound with ⟨rfl, rfl⟩ | ⟨-, hold⟩
    · exact hkey
    · exact h.key other found hold
  · intro one other found found' hone hother hwaits hwaits'
    rcases row_edit hone with ⟨rfl, rfl⟩ | ⟨-, hold⟩
    · rcases row_edit hother with ⟨rfl, rfl⟩ | ⟨-, hold'⟩
      · rfl
      · exact absurd hwaits' (hresolved other found' hold')
    · exact absurd hwaits (hresolved one found hold)
  · exact h.asked hmoves
  · intro other found hfound hne
    rcases row_edit hfound with ⟨rfl, rfl⟩ | ⟨-, hold⟩
    · exact absurd hempty hne
    · exact h.answered other found hold hne
  · exact h.named hmoves

theorem Good.send (h : Good v) (hahead : sent.Ahead) (hrow : v.row sent.request.key = some row)
    (hrequest : deepRequest row = some sent.request) :
    Good { v with sent := sent :: v.sent } := by
  refine { h with sent := ?_ }
  intro other hother
  rcases List.mem_cons.mp hother with rfl | hold
  · exact ⟨hahead, row, hrow, hrequest⟩
  · exact h.sent other hold

theorem Good.answer (h : Good v) (key id : String) :
    Good { v with answered := (key, id) :: v.answered } :=
  { h with answered := fun other found hfound hne =>
      List.mem_cons_of_mem _ (h.answered other found hfound hne) }

theorem Good.accept (h : Good v) (hne : id ≠ "") (hrow : v.row key = some row)
    (hjob : row.serverJobId = id) : Good { v with accepted := id :: v.accepted } := by
  refine { h with accepted := ?_ }
  intro other hother
  rcases List.mem_cons.mp hother with rfl | hold
  · exact ⟨hne, key, row, hrow, hjob⟩
  · exact h.accepted other hold

end DeepState

open DeepState

section Parts

variable {user : String} {world : World user} {answers : StorageAnswers}
  {authority : UserAuthority user}

/-- An operation edits the row that it names. -/
theorem part_operated (op : DeepOperation) : (world.operated answers authority op).part =
    world.part.edit op.identity.clientRequestId
      ((world.operated answers authority op).row op.identity.clientRequestId) := by
  have hrow : (world.operated answers authority op).part.row = (world.part.edit
      op.identity.clientRequestId
      ((world.operated answers authority op).row op.identity.clientRequestId)).row := by
    funext key
    by_cases hkey : key = op.identity.clientRequestId
    · subst hkey
      rw [edit_self]
      rfl
    · rw [edit_other hkey]
      have hedit := (op.tableResult answers authority.toNamespaceStorageAuthority world.file).edit
      exact congrArg (Option.map core) (hedit.find_other hkey)
  exact DeepState.ext hrow rfl rfl rfl

/-- An upsert fails and leaves the rows, or it stores the record. -/
theorem part_upsert (world : World user) (answers : StorageAnswers) (authority : UserAuthority user)
    (scope : BillingScope) (record : PendingPromptOptimizationRecord) :
    ((DeepOperation.upsert scope record).run answers authority.toNamespaceStorageAuthority
        world.file).1 ≠ .ok true ∧
      (world.operated answers authority (.upsert scope record)).part = world.part ∨
    (world.operated answers authority (.upsert scope record)).part =
      world.part.edit record.clientRequestId (some record) := by
  have hpart : (world.operated answers authority (.upsert scope record)).part =
      world.part.edit record.clientRequestId
        ((world.operated answers authority (.upsert scope record)).row record.clientRequestId) :=
    part_operated (.upsert scope record)
  rcases deepUpsert_cases answers authority.toNamespaceStorageAuthority scope record world.file
    with ⟨failure, hfail⟩ | ⟨next, hpublished, -, hlookup, -⟩
  · have hfile : (world.operated answers authority (.upsert scope record)).file = world.file :=
      congrArg Prod.snd hfail
    have hrow : (world.operated answers authority (.upsert scope record)).row
        record.clientRequestId = world.row record.clientRequestId :=
      congrArg (deepTable.lookup · record.clientRequestId) hfile
    rw [hrow, edit_same rfl] at hpart
    refine .inl ⟨?_, hpart⟩
    simp [DeepOperation.run, upserted, hfail, Except.map]
  · have hfile : (world.operated answers authority (.upsert scope record)).file = some next :=
      congrArg Prod.snd hpublished
    have hrow : (world.operated answers authority (.upsert scope record)).row
        record.clientRequestId = some record :=
      (congrArg (deepTable.lookup · record.clientRequestId) hfile).trans hlookup
    rw [hrow] at hpart
    exact .inr hpart

/-- The other tasks leave the rows. -/
theorem part_besides (op : PromptOperation) :
    (world.besides answers authority op).part = world.part := by
  have hrest := (op.tableResult answers authority.toNamespaceStorageAuthority world.file).rest
  have hdeep := congrArg PromptTaskRecoveryFile.deepOptimizations hrest
  have hrows : deepTable.rowsOf (world.besides answers authority op).file =
      deepTable.rowsOf world.file := hdeep
  unfold World.part World.row RowTable.lookup
  rw [hrows]
  rfl

theorem row_eq_some_iff {key : String} {row : PendingPromptOptimizationRecord} :
    world.row key = some row ↔ row ∈ deepTable.rowsOf world.file ∧ row.clientRequestId = key :=
  find_eq_some_iff (deepTable.uniqueKeys_get world.valid)

end Parts

/-- The rows and the histories of the one worker. -/
def state (user : String) : Parts (World user) Answers Unit DeepState where
  admits _ := True
  part _ := World.part
  good _ := Good
  moves _ := Moves
  moves_refl _ _ := .of_row rfl
  moves_trans _ _ _ _ := .trans

end ArtForgeStudio.PromptOptimization
