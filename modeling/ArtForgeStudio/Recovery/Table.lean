import ArtForgeStudio.Recovery.Mutate

/-! # Operations on one table of a document

The operations of the four kinds of rows differ in their table alone. Each works on the one
row it names: it appends it, replaces it where it stands, or removes it.
-/

namespace ArtForgeStudio.Recovery

open ArtForgeStudio.Api ArtForgeStudio.Outcome ArtForgeStudio.KeyedRows

/-- A list of rows inside a document: its rows stand together among all rows. -/
structure RowTable (D R : Type) [RecoveryEnvelope D] [RecoveryRow R] where
  kind : RowKind
  get : D → List R
  put : List R → D → D
  get_put : ∀ rows document, get (put rows document) = rows
  put_get : ∀ document, put (get document) document = document
  rows_put : ∀ document, ∃ front back, ∀ rows, RecoveryEnvelope.rows (put rows document) =
    front ++ rows.map (fun row => (kind, RowView.of row)) ++ back

/-- `require_…(..)?` in front of a mutation: a failed check leaves the stored document. -/
def requiring {S T : Type} (check : Except Failure Unit) (stored : S)
    (mutation : Except Failure T × S) : Except Failure T × S :=
  match check with
  | .error failure => (.error failure, stored)
  | .ok () => mutation

section Rows

variable {R : Type} [RecoveryRow R]

/-- `exact_index` with the row at it: the only row with this identity. -/
def exactIndex (rows : List R) (expected : RecoveryRecordIdentity) : Option (R × Nat) :=
  match rows.zipIdx.filter (RecoveryRow.identity ·.1 = expected) with
  | [found] => some found
  | _ => none

/-- Answer `Ok(false)` without the exact row; with it, replace it by what `edit` keeps or
remove it. -/
def atExactRow (rows : List R) (expected : RecoveryRecordIdentity)
    (edit : R → Except Failure (Bool × Option R)) : Except Failure (Bool × List R) :=
  match exactIndex rows expected with
  | none => .ok (false, rows)
  | some (row, index) => do
    match ← edit row with
    | (answer, some edited) => pure (answer, rows.set index edited)
    | (answer, none) => pure (answer, rows.eraseIdx index)

def upsertRow (rows : List R) (record : R) : Except Failure (List R) :=
  match rows.zipIdx.find? (clientRequestId ·.1 = clientRequestId record) with
  | some (saved, index) =>
    if RecoveryRow.identity saved = RecoveryRow.identity record then .ok (rows.set index record)
    else .error (.recovery .identityChanged)
  | none => .ok (rows ++ [record])

variable {rows after : List R} {expected : RecoveryRecordIdentity} {row record saved : R}
  {index : Nat} {edit : R → Except Failure (Bool × Option R)} {answer : Bool}

theorem exactIndex_some (h : exactIndex rows expected = some (row, index)) :
    rows[index]? = some row ∧ RecoveryRow.identity row = expected := by
  unfold exactIndex at h
  split at h
  · rename_i found hfilter
    cases h
    have hmem : (row, index) ∈ rows.zipIdx.filter (RecoveryRow.identity ·.1 = expected) := by
      simp [hfilter]
    simpa [List.mem_zipIdx_iff_getElem?] using hmem
  · cases h

/-- The effect of an edit on the row with the expected key and on the list. -/
theorem atExactRow_ok (hunique : UniqueKeys clientRequestId rows)
    (h : atExactRow rows expected edit = .ok (answer, after))
    (hkeep : ∀ row answer edited, edit row = .ok (answer, some edited) →
      clientRequestId edited = clientRequestId row) :
    Edit clientRequestId expected.clientRequestId rows after ∧
      (answer = false ∧ after = rows ∧ exactIndex rows expected = none ∨
        ∃ row edited, find clientRequestId rows expected.clientRequestId = some row ∧
          RecoveryRow.identity row = expected ∧ edit row = .ok (answer, edited) ∧
          find clientRequestId after expected.clientRequestId = edited) := by
  unfold atExactRow at h
  split at h
  · rename_i hexact
    cases h
    exact ⟨.same rows, .inl ⟨rfl, rfl, hexact⟩⟩
  · rename_i row index hexact
    obtain ⟨hget, hidentity⟩ := exactIndex_some hexact
    have hkey : clientRequestId row = expected.clientRequestId :=
      congrArg RecoveryRecordIdentity.clientRequestId hidentity
    have hfind := find_of_getElem? hunique hget hkey
    obtain ⟨⟨edited?, keep⟩, hedit, hresult⟩ := bind_eq_ok.mp h
    cases keep with
    | some edited =>
      cases hresult
      have hedited := (hkeep row _ edited hedit).trans hkey
      exact ⟨edit_set hget hkey hedited, .inr ⟨row, some edited, hfind, hidentity, hedit,
        find_set hunique hget hkey hedited⟩⟩
    | none =>
      cases hresult
      exact ⟨edit_eraseIdx hget hkey, .inr ⟨row, none, hfind, hidentity, hedit,
        find_eraseIdx hunique hget hkey⟩⟩

theorem upsertRow_ok (hunique : UniqueKeys clientRequestId rows)
    (h : upsertRow rows record = .ok after) :
    Edit clientRequestId (clientRequestId record) rows after ∧
      find clientRequestId after (clientRequestId record) = some record ∧
      ∀ saved, find clientRequestId rows (clientRequestId record) = some saved →
        RecoveryRow.identity saved = RecoveryRow.identity record := by
  unfold upsertRow at h
  split at h
  · rename_i saved index hfound
    have hkey : clientRequestId saved = clientRequestId record := by
      simpa using List.find?_some hfound
    have hget := List.mem_zipIdx_iff_getElem?.mp (List.mem_of_find?_eq_some hfound)
    split at h
    · rename_i hidentity
      cases h
      refine ⟨edit_set hget hkey rfl, find_set hunique hget hkey rfl, ?_⟩
      intro other hother
      have heq := (find_of_getElem? hunique hget hkey).symm.trans hother
      exact Option.some.inj heq ▸ hidentity
    · cases h
  · rename_i habsent
    cases h
    have hfresh : find clientRequestId rows (clientRequestId record) = none := by
      rw [find_eq_none_iff]
      intro other hmem hkey
      obtain ⟨i, hi⟩ := List.getElem?_of_mem hmem
      have hnone := List.find?_eq_none.mp habsent (other, i) (List.mem_zipIdx_iff_getElem?.mpr hi)
      exact hnone (by simpa using hkey)
    refine ⟨.insert rows record rfl hfresh, by simp [find_append, hfresh], ?_⟩
    intro saved hsaved
    rw [hfresh] at hsaved
    cases hsaved

end Rows

namespace RowTable

variable {D R : Type} [RecoveryEnvelope D] [RecoveryRow R] (table : RowTable D R)

/-- Run a list operation on the table of a document. -/
def onRows {T : Type} (run : List R → Except Failure (T × List R)) (document : D) :
    Except Failure (T × D) := do
  let (answer, rows) ← run (table.get document)
  pure (answer, table.put rows document)

def upsert (answers : StorageAnswers) (authority : NamespaceStorageAuthority)
    (scope : BillingScope) (record : R) (stored : Option D) : Except Failure Unit × Option D :=
  let identity := RecoveryRow.identity record
  requiring (identity.requireScope authority scope) stored <|
    mutate answers authority (.upsert table.kind identity)
      (fun _ => table.onRows fun rows => (upsertRow rows record).map ((), ·)) stored

def editExact (answers : StorageAnswers) (authority : NamespaceStorageAuthority)
    (permission : MutationPermission) (expected : RecoveryRecordIdentity)
    (edit : R → Except Failure (Bool × Option R)) (stored : Option D) :
    Except Failure Bool × Option D :=
  mutate answers authority permission
    (fun _ => table.onRows fun rows => atExactRow rows expected edit) stored

def remove (answers : StorageAnswers) (authority : NamespaceStorageAuthority)
    (expected : RecoveryRecordIdentity) (stored : Option D) : Except Failure Bool × Option D :=
  requiring (expected.requireAuthority authority true) stored <|
    table.editExact answers authority (.remove table.kind expected) expected
      (fun _ => .ok (true, none)) stored

def rebind (answers : StorageAnswers) (authority : NamespaceStorageAuthority)
    (expected : RecoveryRecordIdentity) (newAuthEpoch : Nat) (stored : Option D) :
    Except Failure Bool × Option D :=
  requiring (expected.requireAuthority authority false) stored <|
  requiring (rejectIf (newAuthEpoch ≠ authority.lease.authEpoch) (.recovery .scopeMismatch)) stored <|
    table.editExact answers authority (.rebind table.kind expected newAuthEpoch) expected
      (fun row => .ok (true, some (RecoveryRow.setAuthEpoch newAuthEpoch row))) stored

/-- The rows of a stored document; an absent file has none. -/
def rowsOf (stored : Option D) : List R := table.get (stored.getD RecoveryEnvelope.empty)

/-- The row that a stored document holds under a key. -/
def lookup (stored : Option D) (key : String) : Option R :=
  find clientRequestId (table.rowsOf stored) key

/-- What an operation on the row `key` leaves: a valid document of `user` that differs in
that row of the table at most. -/
structure OneRow (user key : String) (before after : Option D) : Prop where
  valid : ValidFor user (after.getD RecoveryEnvelope.empty)
  edit : Edit clientRequestId key (table.rowsOf before) (table.rowsOf after)
  rest : after.getD RecoveryEnvelope.empty =
    table.put (table.rowsOf after) (before.getD RecoveryEnvelope.empty)

variable {user key other : String} {before after stored : Option D}

variable {table} in
theorem OneRow.lookup_other (h : table.OneRow user key before after) (hne : other ≠ key) :
    table.lookup after other = table.lookup before other := h.edit.find_other hne

theorem uniqueKeys_get {document : D} (h : ValidFor user document) :
    UniqueKeys clientRequestId (table.get document) := by
  obtain ⟨front, back, hrows⟩ := table.rows_put document
  have hsplit := hrows (table.get document)
  rw [table.put_get] at hsplit
  have hunique := h.unique
  rw [hsplit] at hunique
  simp only [UniqueKeys, identitiesOf, List.map_append, List.map_map] at hunique
  exact (List.nodup_append.mp (List.nodup_append.mp hunique).1).2.1

theorem onRows_ok {T : Type} {run : List R → Except Failure (T × List R)} {document next : D}
    {answer : T} (h : table.onRows run document = .ok (answer, next)) :
    ∃ rows, run (table.get document) = .ok (answer, rows) ∧ next = table.put rows document := by
  obtain ⟨⟨answer', rows⟩, hrun, hresult⟩ := bind_eq_ok.mp h
  cases hresult
  exact ⟨rows, hrun, rfl⟩

/-- A published run over the table changes one row when the run on the list does. -/
theorem oneRow_of_transact (key : String) {T : Type} {authority : NamespaceStorageAuthority}
    {permission : MutationPermission} {run : List R → Except Failure (T × List R)} {next : D}
    {answer : T}
    (h : transact authority permission (table.onRows run) (stored.getD RecoveryEnvelope.empty) =
      .ok (answer, next))
    (hedit : ∀ rows, run (table.rowsOf stored) = .ok (answer, rows) →
      Edit clientRequestId key (table.rowsOf stored) rows) :
    UniqueKeys clientRequestId (table.rowsOf stored) ∧
      run (table.rowsOf stored) = .ok (answer, table.rowsOf (some next)) ∧
      table.OneRow authority.userPublicId key stored (some next) := by
  obtain ⟨hbefore, hover, hafter, -⟩ := transact_ok.mp h
  obtain ⟨rows, hrun, rfl⟩ := table.onRows_ok hover
  have hrows : table.rowsOf (some (table.put rows (stored.getD RecoveryEnvelope.empty))) = rows :=
    table.get_put _ _
  refine ⟨table.uniqueKeys_get hbefore, by rw [hrows]; exact hrun, ?_⟩
  exact { valid := hafter, edit := by rw [hrows]; exact hedit rows hrun,
          rest := by rw [hrows]; rfl }

theorem requiring_cases {S T : Type} (check : Except Failure Unit) (stored : S)
    (mutation : Except Failure T × S) :
    (∃ failure, requiring check stored mutation = (.error failure, stored)) ∨
      check = .ok () ∧ requiring check stored mutation = mutation := by
  cases check with
  | error failure => exact .inl ⟨failure, rfl⟩
  | ok u => exact .inr ⟨rfl, rfl⟩

/-- What an upsert does: nothing, or it leaves the record as the row of its key, which kept
its identity if it was there. -/
theorem upsert_cases (answers : StorageAnswers) (authority : NamespaceStorageAuthority)
    (scope : BillingScope) (record : R) (stored : Option D) :
    (∃ failure, table.upsert answers authority scope record stored = (.error failure, stored)) ∨
    ∃ next, table.upsert answers authority scope record stored = (.ok (), some next) ∧
      (RecoveryRow.identity record).requireScope authority scope = .ok () ∧
      table.OneRow authority.userPublicId (clientRequestId record) stored (some next) ∧
      table.lookup (some next) (clientRequestId record) = some record ∧
      ∀ saved, table.lookup stored (clientRequestId record) = some saved →
        RecoveryRow.identity saved = RecoveryRow.identity record := by
  rcases requiring_cases ((RecoveryRow.identity record).requireScope authority scope) stored
    (mutate answers authority (.upsert table.kind (RecoveryRow.identity record))
      (fun _ => table.onRows fun rows => (upsertRow rows record).map ((), ·)) stored)
    with hfail | ⟨hscope, heq⟩
  · exact .inl hfail
  rcases mutate_cases answers authority (.upsert table.kind (RecoveryRow.identity record))
    (fun _ => table.onRows fun rows => (upsertRow rows record).map ((), ·)) stored
    with ⟨failure, hfail⟩ | ⟨i, answer, next, htransact, hpublished⟩
  · exact .inl ⟨failure, heq.trans hfail⟩
  have hupsert : ∀ rows, (upsertRow (table.rowsOf stored) record).map ((), ·) =
      .ok (answer, rows) → upsertRow (table.rowsOf stored) record = .ok rows := by
    intro rows hmap
    cases hrun : upsertRow (table.rowsOf stored) record with
    | error failure => simp [hrun, Except.map] at hmap
    | ok rows' => simpa [hrun, Except.map] using hmap
  have hunique := table.uniqueKeys_get (transact_ok.mp htransact).1
  obtain ⟨-, hrun, hrow⟩ := table.oneRow_of_transact (clientRequestId record) htransact
    fun rows hmap => (upsertRow_ok hunique (hupsert rows hmap)).1
  obtain ⟨-, hfind, hsame⟩ := upsertRow_ok hunique (hupsert _ hrun)
  exact .inr ⟨next, heq.trans hpublished, hscope, hrow, hfind, hsame⟩

/-- What an edit of the exact row does: nothing, or it answers `false` without that row, or
it leaves what `edit` made of it. -/
theorem editExact_cases (answers : StorageAnswers) (authority : NamespaceStorageAuthority)
    (permission : MutationPermission) (expected : RecoveryRecordIdentity)
    (edit : R → Except Failure (Bool × Option R)) (stored : Option D)
    (hkeep : ∀ row answer edited, edit row = .ok (answer, some edited) →
      clientRequestId edited = clientRequestId row) :
    (∃ failure, table.editExact answers authority permission expected edit stored =
      (.error failure, stored)) ∨
    ∃ answer next, table.editExact answers authority permission expected edit stored =
        (.ok answer, some next) ∧
      table.OneRow authority.userPublicId expected.clientRequestId stored (some next) ∧
      (answer = false ∧ table.rowsOf (some next) = table.rowsOf stored ∧
          exactIndex (table.rowsOf stored) expected = none ∨
        ∃ row edited, table.lookup stored expected.clientRequestId = some row ∧
          RecoveryRow.identity row = expected ∧ edit row = .ok (answer, edited) ∧
          table.lookup (some next) expected.clientRequestId = edited) := by
  rcases mutate_cases answers authority permission
    (fun _ => table.onRows fun rows => atExactRow rows expected edit) stored
    with ⟨failure, hfail⟩ | ⟨i, answer, next, htransact, hpublished⟩
  · exact .inl ⟨failure, hfail⟩
  have hunique := table.uniqueKeys_get (transact_ok.mp htransact).1
  obtain ⟨-, hrun, hrow⟩ := table.oneRow_of_transact expected.clientRequestId htransact
    fun rows hat => (atExactRow_ok hunique hat hkeep).1
  exact .inr ⟨answer, next, hpublished, hrow, (atExactRow_ok hunique hrun hkeep).2⟩

end RowTable

end ArtForgeStudio.Recovery
