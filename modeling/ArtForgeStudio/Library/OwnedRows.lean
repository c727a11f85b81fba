import ArtForgeStudio.Library.KeyedRows

/-! # Rows of several owners

A table holds rows of several owners. A change of the rows of one owner leaves those of every
other owner, in their order.
-/

namespace ArtForgeStudio.OwnedRows

open ArtForgeStudio.KeyedRows

variable {R K O : Type*} [DecidableEq O] {key : R → K} {owner : R → O} {rows : List R} {row : R}
  {one other : O} {keep : R → Bool} {change : R → R}

def ofOwner (owner : R → O) (one : O) (rows : List R) : List R := rows.filter fun row => owner row = one

theorem ofOwner_filter (hkeep : ∀ row ∈ rows, owner row = other → keep row = true) :
    ofOwner owner other (rows.filter keep) = ofOwner owner other rows := by
  rw [ofOwner, ofOwner, List.filter_filter]
  refine List.filter_congr fun row hmem => ?_
  by_cases howner : owner row = other
  · simp [howner, hkeep row hmem howner]
  · simp [howner]

theorem ofOwner_map (howner : ∀ row, owner (change row) = owner row)
    (hchange : ∀ row ∈ rows, owner row = other → change row = row) :
    ofOwner owner other (rows.map change) = ofOwner owner other rows := by
  induction rows with
  | nil => rfl
  | cons row rows ih =>
    have hrest := ih fun row hmem => hchange row (List.mem_cons_of_mem _ hmem)
    unfold ofOwner at hrest ⊢
    rw [List.map_cons, List.filter_cons, List.filter_cons, hrest, howner]
    by_cases h : owner row = other
    · rw [hchange row List.mem_cons_self h]
    · simp [h]

theorem ofOwner_concat (hrow : owner row ≠ other) :
    ofOwner owner other (rows ++ [row]) = ofOwner owner other rows := by
  simp [ofOwner, List.filter_append, hrow]

theorem uniqueKeys_filter (h : UniqueKeys key rows) : UniqueKeys key (rows.filter keep) :=
  List.Nodup.sublist (List.filter_sublist.map key) h

theorem uniqueKeys_map (hkey : ∀ row, key (change row) = key row) :
    UniqueKeys key (rows.map change) ↔ UniqueKeys key rows := by
  rw [UniqueKeys, UniqueKeys, List.map_map]
  simp only [Function.comp_def, hkey]

/-- Two rows with one key are one row. -/
theorem eq_of_key {first second : R} (h : UniqueKeys key rows) (hfirst : first ∈ rows)
    (hsecond : second ∈ rows) (hkey : key first = key second) : first = second :=
  List.inj_on_of_nodup_map h hfirst hsecond hkey

/-- The only row that is kept. -/
theorem filter_eq_singleton {row : R} (h : UniqueKeys key rows) (hmem : row ∈ rows)
    (hkeep : keep row = true) (halone : ∀ other ∈ rows, keep other = true → key other = key row) :
    rows.filter keep = [row] := by
  by_contra hne
  have hnodup : (rows.filter keep).Nodup := (List.Nodup.of_map key h).filter keep
  rcases (hnodup.ne_singleton_iff row).mp hne with hnil | ⟨other, hother, hdiffers⟩
  · exact List.filter_eq_nil_iff.mp hnil row hmem hkeep
  · obtain ⟨hin, hkept⟩ := List.mem_filter.mp hother
    exact hdiffers (eq_of_key h hin hmem (halone other hin hkept))

end ArtForgeStudio.OwnedRows
