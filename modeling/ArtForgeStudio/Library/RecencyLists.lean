import Mathlib.Data.List.Nodup
import Mathlib.Data.List.Basic
import Mathlib.Algebra.GroupWithZero.Nat
import Mathlib.Tactic.Common

/-! # Lists in the order of their last use

Every key has one row, and the row used last stands at the end. A bounded list makes room for a
new row from its front: the rows that were used least recently go first, and no more of them go
than the bound asks for.
-/

namespace ArtForgeStudio.RecencyLists

section Rows

variable {K V W : Type} (size : V → ℕ) (limit needed : ℕ)

def total (rows : List (K × V)) : ℕ := (rows.map fun row => size row.2).sum

/-- The oldest rows go until the rest leaves the room that is needed. -/
def makeRoom : List (K × V) → List (K × V)
  | [] => []
  | row :: rest => if total size (row :: rest) + needed ≤ limit then row :: rest else makeRoom rest

/-- The evicted rows are the oldest, as few as give the room, or all if none gives it. -/
structure ShortestEviction (rows evicted kept : List (K × V)) : Prop where
  split : rows = evicted ++ kept
  roomy : total size kept + needed ≤ limit ∨ kept = []
  fewest : ∀ fewer more, rows = fewer ++ more → fewer.length < evicted.length →
    limit < total size more + needed

variable {size limit needed} {row : K × V} {rows evicted kept : List (K × V)}

@[simp] theorem total_nil : total size ([] : List (K × V)) = 0 := rfl

@[simp] theorem total_cons : total size (row :: rows) = size row.2 + total size rows := rfl

@[simp] theorem total_append : total size (rows ++ kept) = total size rows + total size kept := by
  simp [total]

variable (size) in
theorem size_le_total (hmem : row ∈ rows) : size row.2 ≤ total size rows := by
  induction rows with
  | nil => cases hmem
  | cons first rows ih =>
    rw [total_cons]
    rcases List.mem_cons.mp hmem with rfl | hmem
    · exact Nat.le_add_right _ _
    · exact Nat.le_trans (ih hmem) (Nat.le_add_left _ _)

theorem absent_of_nodup (hkeys : ((row :: rows).map (·.1)).Nodup) (value : V) :
    (row.1, value) ∉ rows := by
  intro hmem
  simp only [List.map_cons, List.nodup_cons, List.mem_map, not_exists, not_and] at hkeys
  exact hkeys.1 _ hmem rfl

theorem nodup_of_cons (hkeys : ((row :: rows).map (·.1)).Nodup) : (rows.map (·.1)).Nodup :=
  (List.nodup_cons.mp hkeys).2

theorem makeRoom_eviction (rows : List (K × V)) :
    ∃ evicted, ShortestEviction size limit needed rows evicted (makeRoom size limit needed rows) := by
  induction rows with
  | nil => exact ⟨[], rfl, .inr rfl, fun _ _ _ h => absurd h (Nat.not_lt_zero _)⟩
  | cons row rest ih =>
    unfold makeRoom
    split
    · next hroom => exact ⟨[], rfl, .inl hroom, fun _ _ _ h => absurd h (Nat.not_lt_zero _)⟩
    · next hfull =>
      obtain ⟨evicted, hrest⟩ := ih
      refine ⟨row :: evicted, congrArg (row :: ·) hrest.split, hrest.roomy, ?_⟩
      intro fewer more hsplit hlength
      cases fewer with
      | nil =>
        cases hsplit
        omega
      | cons first fewer =>
        obtain ⟨-, hsplit⟩ := List.cons.inj hsplit
        exact hrest.fewest fewer more hsplit (by simpa using hlength)

theorem makeRoom_of_roomy (h : total size rows + needed ≤ limit) :
    makeRoom size limit needed rows = rows := by
  cases rows with
  | nil => rfl
  | cons row rest => exact if_pos h

theorem makeRoom_of_full (h : limit < total size (row :: rows) + needed) :
    makeRoom size limit needed (row :: rows) = makeRoom size limit needed rows :=
  if_neg (Nat.not_le.mpr h)

theorem total_map (f : W → V) (rows : List (K × W)) :
    total size (rows.map (Prod.map id f)) = total (size ∘ f) rows := by
  simp [total, Function.comp_def]

theorem makeRoom_map (f : W → V) (rows : List (K × W)) :
    makeRoom size limit needed (rows.map (Prod.map id f)) =
      (makeRoom (size ∘ f) limit needed rows).map (Prod.map id f) := by
  induction rows with
  | nil => rfl
  | cons row rows ih =>
    unfold makeRoom
    rw [← total_map f (row :: rows)]
    simp only [List.map_cons]
    split
    · rfl
    · exact ih

end Rows

section Keys

variable {K V W : Type} [DecidableEq K] {size : V → ℕ} {limit : ℕ} {key : K} {value : V}
  {row : K × V} {rows : List (K × V)}

def without (key : K) (rows : List (K × V)) : List (K × V) := rows.filter fun row => row.1 ≠ key

def valueOf (key : K) (rows : List (K × V)) : Option V :=
  (rows.find? fun row => row.1 = key).map (·.2)

/-- A row that is used moves to the end. -/
def touch (key : K) (rows : List (K × V)) : List (K × V) :=
  match valueOf key rows with
  | some value => without key rows ++ [(key, value)]
  | none => rows

variable (size limit) in
/-- A row that is stored replaces the one with its key, and then the others make room. -/
def store (key : K) (value : V) (rows : List (K × V)) : List (K × V) :=
  makeRoom size limit (size value) (without key rows) ++ [(key, value)]

@[simp] theorem without_cons_self : without row.1 (row :: rows) = without row.1 rows := by
  simp [without]

theorem without_cons_of_ne (h : row.1 ≠ key) :
    without key (row :: rows) = row :: without key rows := by
  simp [without, h]

theorem mem_without : row ∈ without key rows ↔ row ∈ rows ∧ row.1 ≠ key := by simp [without]

theorem without_sublist : (without key rows).Sublist rows := List.filter_sublist

theorem not_mem_keys_without : key ∉ (without key rows).map (·.1) := by simp [without]

theorem without_of_absent (h : ∀ value, (key, value) ∉ rows) : without key rows = rows := by
  refine List.filter_eq_self.mpr fun row hmem => decide_eq_true ?_
  rintro rfl
  exact h row.2 hmem

variable (size) in
/-- One row goes with its key. -/
theorem total_without (hkeys : (rows.map (·.1)).Nodup) (hmem : (key, value) ∈ rows) :
    total size (without key rows) + size value = total size rows := by
  induction rows with
  | nil => cases hmem
  | cons row rows ih =>
    rcases List.mem_cons.mp hmem with rfl | hmem
    · have hrest : without key ((key, value) :: rows) = rows :=
        without_cons_self.trans (without_of_absent (absent_of_nodup hkeys))
      rw [hrest, total_cons, Nat.add_comm]
    · have hne : row.1 ≠ key := by
        rintro rfl
        exact absent_of_nodup hkeys value hmem
      rw [without_cons_of_ne hne, total_cons, total_cons, Nat.add_assoc,
        ih (nodup_of_cons hkeys) hmem]

theorem valueOf_eq_some (hkeys : (rows.map (·.1)).Nodup) :
    valueOf key rows = some value ↔ (key, value) ∈ rows := by
  induction rows with
  | nil => simp [valueOf]
  | cons row rows ih =>
    have hrest := ih (nodup_of_cons hkeys)
    unfold valueOf at hrest ⊢
    by_cases hkey : row.1 = key
    · subst hkey
      simp [absent_of_nodup hkeys value, Prod.ext_iff, eq_comm]
    · simp only [List.find?_cons, hkey, decide_false, hrest, List.mem_cons, Prod.ext_iff]
      simp [Ne.symm hkey]

theorem mem_keys_without {other : K} (h : other ≠ key) :
    other ∈ (without key rows).map (·.1) ↔ other ∈ rows.map (·.1) := by
  simp only [List.mem_map, mem_without]
  constructor
  · rintro ⟨row, ⟨hmem, -⟩, rfl⟩
    exact ⟨row, hmem, rfl⟩
  · rintro ⟨row, hmem, rfl⟩
    exact ⟨row, ⟨hmem, h⟩, rfl⟩

theorem valueOf_append_of_ne {other : K} (h : other ≠ key) :
    valueOf other (rows ++ [(key, value)]) = valueOf other rows := by
  simp [valueOf, List.find?_append, Ne.symm h]

theorem without_map (f : W → V) (rows : List (K × W)) :
    without key (rows.map (Prod.map id f)) = (without key rows).map (Prod.map id f) := by
  simp [without, List.filter_map, Function.comp_def]

theorem valueOf_map (f : W → V) (rows : List (K × W)) :
    valueOf key (rows.map (Prod.map id f)) = (valueOf key rows).map f := by
  simp [valueOf, List.find?_map, Function.comp_def]

end Keys

end ArtForgeStudio.RecencyLists
