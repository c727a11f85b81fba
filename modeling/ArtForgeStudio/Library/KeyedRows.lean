import Mathlib.Data.List.Nodup
import Mathlib.Data.List.Basic

/-! # Lists of rows with unique keys

A document that keeps its rows in a list, one row for a key, is changed by edits that touch
a single row. `Edit` lists those edits; every other row keeps its content and its place.
-/

namespace ArtForgeStudio.KeyedRows

variable {R K : Type*} [DecidableEq K] (key : R → K)

/-- The first row with the key. -/
def find (rows : List R) (k : K) : Option R := rows.find? fun row => key row = k

def UniqueKeys (rows : List R) : Prop := (rows.map key).Nodup

/-- One edit: the rows stay, or the row with key `k` is replaced where it stands, appended,
or removed. -/
inductive Edit (k : K) : List R → List R → Prop
  | same (rows) : Edit k rows rows
  | replace (before after old new) (hold : key old = k) (hnew : key new = k) :
      Edit k (before ++ old :: after) (before ++ new :: after)
  | insert (rows new) (hnew : key new = k) (hfresh : find key rows k = none) :
      Edit k rows (rows ++ [new])
  | remove (before after old) (hold : key old = k) :
      Edit k (before ++ old :: after) (before ++ after)

variable {key} {rows before after : List R} {k other : K} {row old new : R} {i : ℕ}

theorem find_eq_none_iff : find key rows k = none ↔ ∀ row ∈ rows, key row ≠ k := by
  simp [find]

theorem mem_of_find (h : find key rows k = some row) : row ∈ rows :=
  List.mem_of_find?_eq_some h

theorem key_of_find (h : find key rows k = some row) : key row = k := by
  simpa using List.find?_some h

theorem find_append :
    find key (before ++ after) k = (find key before k).or (find key after k) := by
  simp [find, List.find?_append]

@[simp] theorem find_nil : find key ([] : List R) k = none := rfl

@[simp] theorem find_cons :
    find key (row :: rows) k = if key row = k then some row else find key rows k := by
  by_cases h : key row = k <;> simp [find, h]

theorem UniqueKeys.split (h : UniqueKeys key (before ++ old :: after)) :
    find key before (key old) = none ∧ find key after (key old) = none := by
  simp only [UniqueKeys, List.map_append, List.map_cons] at h
  have hout := (List.nodup_middle.mp h)
  simp only [List.nodup_cons, List.mem_append, List.mem_map, not_or, not_exists, not_and] at hout
  exact ⟨find_eq_none_iff.mpr hout.1.1, find_eq_none_iff.mpr hout.1.2⟩

/-- Among unique keys, finding a row and holding it are the same. -/
theorem find_eq_some_iff (hunique : UniqueKeys key rows) :
    find key rows k = some row ↔ row ∈ rows ∧ key row = k := by
  constructor
  · intro h
    exact ⟨mem_of_find h, key_of_find h⟩
  · rintro ⟨hmem, rfl⟩
    obtain ⟨before, after, rfl⟩ := List.append_of_mem hmem
    simp [find_append, hunique.split.1]

theorem Edit.find_other (h : Edit key k rows after) (hne : other ≠ k) :
    find key after other = find key rows other := by
  cases h with
  | same => rfl
  | replace before after old new hold hnew => simp [find_append, hold, hnew, hne.symm]
  | insert rows new hnew hfresh => simp [find_append, hnew, hne.symm]
  | remove before after old hold => simp [find_append, hold, hne.symm]

theorem Edit.unique (h : Edit key k rows after) (hunique : UniqueKeys key rows) :
    UniqueKeys key after := by
  cases h with
  | same => exact hunique
  | replace before after old new hold hnew => simpa [UniqueKeys, hold, hnew] using hunique
  | insert rows new hnew hfresh =>
    have habsent := find_eq_none_iff.mp hfresh
    simp only [UniqueKeys, List.map_append, List.map_cons, List.map_nil, List.nodup_append,
      List.nodup_singleton, true_and, List.mem_map, List.mem_singleton]
    refine ⟨hunique, ?_⟩
    rintro _ ⟨row, hrow, rfl⟩ _ rfl
    rw [hnew]
    exact habsent row hrow
  | remove before after old hold =>
    exact List.Nodup.sublist (by simp) hunique

theorem split_of_getElem? (h : rows[i]? = some old) :
    rows = rows.take i ++ old :: rows.drop (i + 1) ∧ i < rows.length := by
  obtain ⟨hi, rfl⟩ := List.getElem?_eq_some_iff.mp h
  exact ⟨by simp, hi⟩

theorem edit_set (h : rows[i]? = some old) (hold : key old = k) (hnew : key new = k) :
    Edit key k rows (rows.set i new) := by
  obtain ⟨hsplit, hi⟩ := split_of_getElem? h
  rw [List.set_eq_take_append_cons_drop, if_pos hi]
  conv => arg 3; rw [hsplit]
  exact .replace _ _ old new hold hnew

theorem edit_eraseIdx (h : rows[i]? = some old) (hold : key old = k) :
    Edit key k rows (rows.eraseIdx i) := by
  obtain ⟨hsplit, hi⟩ := split_of_getElem? h
  rw [List.eraseIdx_eq_take_drop_succ]
  conv => arg 3; rw [hsplit]
  exact .remove _ _ old hold

theorem find_of_getElem? (hunique : UniqueKeys key rows) (h : rows[i]? = some old)
    (hold : key old = k) : find key rows k = some old :=
  (find_eq_some_iff hunique).mpr ⟨List.mem_of_getElem? h, hold⟩

theorem find_set (hunique : UniqueKeys key rows) (h : rows[i]? = some old) (hold : key old = k)
    (hnew : key new = k) : find key (rows.set i new) k = some new := by
  have hafter := (edit_set h hold hnew).unique hunique
  exact (find_eq_some_iff hafter).mpr
    ⟨List.mem_set (split_of_getElem? h).2 new, hnew⟩

theorem find_eraseIdx (hunique : UniqueKeys key rows) (h : rows[i]? = some old)
    (hold : key old = k) : find key (rows.eraseIdx i) k = none := by
  subst hold
  obtain ⟨hsplit, hi⟩ := split_of_getElem? h
  rw [hsplit] at hunique
  rw [List.eraseIdx_eq_take_drop_succ, find_append, hunique.split.1, hunique.split.2]
  rfl

theorem find_reverse (hunique : UniqueKeys key rows) :
    find key rows.reverse k = find key rows k := by
  have hreverse : UniqueKeys key rows.reverse := by
    simpa [UniqueKeys, List.map_reverse] using hunique
  ext row
  rw [find_eq_some_iff hreverse, find_eq_some_iff hunique, List.mem_reverse]

theorem find_filter (hunique : UniqueKeys key rows) (p : R → Bool) :
    find key (rows.filter p) k = (find key rows k).filter p := by
  have hfilter : UniqueKeys key (rows.filter p) :=
    hunique.sublist (List.filter_sublist.map key)
  ext row
  rw [find_eq_some_iff hfilter, Option.filter_eq_some_iff, find_eq_some_iff hunique,
    List.mem_filter]
  exact and_right_comm

end ArtForgeStudio.KeyedRows
