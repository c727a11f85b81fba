import Mathlib.Data.List.Nodup
import Mathlib.Data.List.Basic
import Mathlib.Order.Lattice

/-! # Tables with a primary key

The rows of a table, no two with one key, and what the statements of SQL do to them: `DELETE`,
`INSERT` with `ON CONFLICT DO UPDATE`, and `SELECT` with `ORDER BY`.
-/

namespace ArtForgeStudio.Tables

structure Table (K V : Type) where
  rows : List (K × V)
  unique : (rows.map Prod.fst).Nodup

variable {K V : Type} [DecidableEq K]

/-- `update` makes the row that is left when there was one with the key. -/
def upsertRows (update : V → V → V) (key : K) (value : V) : List (K × V) → List (K × V)
  | [] => [(key, value)]
  | row :: rows =>
    if row.1 = key then (key, update row.2 value) :: rows
    else row :: upsertRows update key value rows

section Rows

variable {update : V → V → V} {key other : K} {value : V} {rows : List (K × V)}

theorem upsertRows_keys :
    (upsertRows update key value rows).map Prod.fst =
      if key ∈ rows.map Prod.fst then rows.map Prod.fst else rows.map Prod.fst ++ [key] := by
  induction rows with
  | nil => simp [upsertRows]
  | cons row rows ih =>
    by_cases h : row.1 = key
    · simp [upsertRows, h]
    · simp only [upsertRows, if_neg h, List.map_cons, ih, List.mem_cons, Ne.symm h, false_or]
      split <;> simp

theorem upsertRows_nodup (h : (rows.map Prod.fst).Nodup) :
    ((upsertRows update key value rows).map Prod.fst).Nodup := by
  rw [upsertRows_keys]
  split
  · exact h
  · rename_i hkey
    exact List.nodup_append.mpr ⟨h, List.nodup_singleton _, by grind⟩

theorem lookup_cons_eq (row : K × V) (rows : List (K × V)) (key : K) :
    (row :: rows).lookup key = if key = row.1 then some row.2 else rows.lookup key := by
  obtain ⟨head, value⟩ := row
  rw [List.lookup_cons]
  by_cases h : key = head
  · simp [h]
  · simp [h, beq_false_of_ne h]

theorem lookup_upsertRows :
    (upsertRows update key value rows).lookup other =
      if other = key then some ((rows.lookup key).elim value fun old => update old value)
      else rows.lookup other := by
  induction rows with
  | nil => simp [upsertRows, lookup_cons_eq]
  | cons row rows ih =>
    obtain ⟨head, old⟩ := row
    by_cases h : head = key
    · subst h
      by_cases h' : other = head <;> simp [upsertRows, lookup_cons_eq, h']
    · simp only [upsertRows, h, if_false, lookup_cons_eq, ih, Ne.symm h]
      by_cases h' : other = key
      · subst h'
        simp [Ne.symm h]
      · simp [h']

/-- Looking a key up is finding its row. -/
theorem lookup_eq_some (h : (rows.map Prod.fst).Nodup) :
    rows.lookup key = some value ↔ (key, value) ∈ rows := by
  induction rows with
  | nil => simp
  | cons row rows ih =>
    obtain ⟨head, old⟩ := row
    simp only [List.map_cons, List.nodup_cons] at h
    rw [lookup_cons_eq, List.mem_cons, Prod.mk.injEq]
    by_cases hkey : key = head
    · subst hkey
      have hfresh : (key, value) ∉ rows := fun hmem => h.1 (List.mem_map_of_mem hmem)
      rw [if_pos rfl, Option.some_inj]
      exact ⟨fun heq => .inl ⟨rfl, heq.symm⟩, fun hmem => (hmem.resolve_right hfresh).2.symm⟩
    · simp [hkey, ih h.2]

theorem lookup_filter {wanted : K → Bool} :
    (rows.filter fun row => wanted row.1).lookup key =
      if wanted key then rows.lookup key else none := by
  induction rows with
  | nil => simp
  | cons row rows ih =>
    rw [List.filter_cons]
    by_cases h : wanted row.1
    · rw [if_pos h, lookup_cons_eq, lookup_cons_eq, ih]
      by_cases h' : key = row.1 <;> simp [h, h']
    · rw [if_neg h, lookup_cons_eq, ih]
      by_cases h' : key = row.1 <;> simp [h, h']

theorem lookup_eq_find? : rows.lookup key = (rows.find? fun row => row.1 = key).map Prod.snd := by
  induction rows with
  | nil => rfl
  | cons row rows ih =>
    rw [lookup_cons_eq, List.find?_cons, ih]
    by_cases h : row.1 = key
    · simp [h]
    · simp [h, Ne.symm h]

/-- A loop whose steps each set the view of one key: what is seen at a key is what its step set. -/
theorem foldl_view {σ ι A : Type} (view : σ → K → A) (place : ι → K) (set : ι → A)
    {step : σ → ι → σ} (h : ∀ state item key, view (step state item) key =
      if key = place item then set item else view state key)
    {items : List ι} (hitems : (items.map place).Nodup) (state : σ) (key : K) :
    view (items.foldl step state) key =
      ((items.find? fun item => place item = key).map set).getD (view state key) := by
  induction items generalizing state with
  | nil => rfl
  | cons item items ih =>
    simp only [List.map_cons, List.nodup_cons] at hitems
    rw [List.foldl_cons, ih hitems.2, h, List.find?_cons]
    by_cases hkey : place item = key
    · subst hkey
      have hnone : items.find? (fun other => place other = place item) = none := by
        refine List.find?_eq_none.mpr fun other hmem heq => ?_
        exact hitems.1 (of_decide_eq_true heq ▸ List.mem_map_of_mem hmem)
      simp [hnone]
    · simp [hkey, Ne.symm hkey]

end Rows

namespace Table

def empty : Table K V := ⟨[], List.nodup_nil⟩

def get? (table : Table K V) (key : K) : Option V := table.rows.lookup key

def delete (gone : K → Bool) (table : Table K V) : Table K V where
  rows := table.rows.filter fun row => !gone row.1
  unique := table.unique.sublist (List.filter_sublist.map _)

def upsert (update : V → V → V) (key : K) (value : V) (table : Table K V) : Table K V where
  rows := upsertRows update key value table.rows
  unique := upsertRows_nodup table.unique

/-- The rows with a wanted key, in the order of a measure. -/
def select {M : Type} [LinearOrder M] (wanted : K → Bool) (measure : K × V → M)
    (table : Table K V) : List (K × V) :=
  (table.rows.filter fun row => wanted row.1).mergeSort fun a b => measure a ≤ measure b

section Laws

variable {table : Table K V} {update : V → V → V} {key other : K} {value : V}
  {gone wanted : K → Bool}

@[simp] theorem get?_empty (key : K) : (empty : Table K V).get? key = none := rfl

theorem get?_eq_some : table.get? key = some value ↔ (key, value) ∈ table.rows :=
  lookup_eq_some table.unique

@[simp] theorem get?_delete :
    (table.delete gone).get? key = if gone key then none else table.get? key := by
  refine (@lookup_filter K V _ key table.rows fun key => !gone key).trans ?_
  cases gone key <;> rfl

theorem get?_upsert : (table.upsert update key value).get? other =
    if other = key then some ((table.get? key).elim value fun old => update old value)
    else table.get? other :=
  lookup_upsertRows

/-- An update that leaves the new row. -/
theorem get?_upsert_eq (h : ∀ old new, update old new = new) :
    (table.upsert update key value).get? other =
      if other = key then some value else table.get? other := by
  rw [get?_upsert]
  cases table.get? key <;> simp [h]

variable {M : Type} [LinearOrder M] {measure : K × V → M}

theorem mem_select {row : K × V} :
    row ∈ table.select wanted measure ↔ wanted row.1 ∧ table.get? row.1 = some row.2 := by
  rw [select, List.mem_mergeSort, List.mem_filter, get?_eq_some]
  exact and_comm

omit [DecidableEq K] in
theorem select_unique : ((table.select wanted measure).map Prod.fst).Nodup :=
  ((List.mergeSort_perm _ _).map _).nodup_iff.mpr (table.unique.sublist (List.filter_sublist.map _))

/-- What names the wanted keys names the selected rows. -/
theorem select_names {N : Type} (name : K → N)
    (hname : ∀ a b, wanted a → wanted b → name a = name b → a = b) :
    ((table.select wanted measure).map fun row => name row.1).Nodup := by
  have hwanted : ∀ key ∈ (table.select wanted measure).map Prod.fst, wanted key := by
    intro key hkey
    obtain ⟨row, hrow, rfl⟩ := List.mem_map.mp hkey
    exact (mem_select.mp hrow).1
  have hkeys : ((table.select wanted measure).map Prod.fst).Nodup := select_unique
  have hnames := hkeys.map_on fun a ha b hb => hname a b (hwanted a ha) (hwanted b hb)
  rwa [List.map_map] at hnames

omit [DecidableEq K] in
theorem select_sorted :
    (table.select wanted measure).Pairwise fun a b => measure a ≤ measure b := by
  refine (List.pairwise_mergeSort (fun a b c hab hbc => ?_) (fun a b => ?_) _).imp of_decide_eq_true
  · simp only [decide_eq_true_eq] at hab hbc ⊢
    exact le_trans hab hbc
  · simpa using le_total (measure a) (measure b)

/-- A selection is known by its rows, if the order leaves no choice. -/
theorem select_eq (hsorted : items.Pairwise fun a b => measure a < measure b)
    (hitems : ∀ row, row ∈ items ↔ wanted row.1 ∧ table.get? row.1 = some row.2) :
    table.select wanted measure = items := by
  have hmeasures : (items.map measure).Nodup := List.pairwise_map.mpr (hsorted.imp ne_of_lt)
  have hperm : (table.select wanted measure).Perm items :=
    (List.perm_ext_iff_of_nodup (List.Nodup.of_map _ select_unique)
      (List.Nodup.of_map _ hmeasures)).mpr fun row => mem_select.trans (hitems row).symm
  refine List.Perm.eq_of_pairwise (fun a b ha hb hab hba => ?_) select_sorted
    (hsorted.imp le_of_lt) hperm
  exact List.inj_on_of_nodup_map hmeasures (hperm.mem_iff.mp ha) hb (le_antisymm hab hba)

end Laws

end Table

end ArtForgeStudio.Tables
