import Mathlib.Data.List.Basic

/-! # Lists in segments

A separator cuts a list into segments, which put together again are the list. Being a list before
a separator is being a proper beginning in segments.
-/

namespace ArtForgeStudio.Segments

variable {α : Type*} [DecidableEq α] {separator : α} {first second text : List α}
  {segments : List (List α)}

theorem not_mem_of_mem_splitOn {segment : List α} (hsegment : segment ∈ text.splitOn separator) :
    separator ∉ segment := by
  induction text generalizing segment with
  | nil =>
    rw [List.splitOn_nil, List.mem_singleton] at hsegment
    rw [hsegment]
    exact List.not_mem_nil
  | cons c text ih =>
    obtain ⟨head, rest, hsplit⟩ := List.exists_cons_of_ne_nil (List.splitOn_ne_nil separator text)
    rw [List.splitOn_cons_eq_if_modifyHead] at hsegment
    rw [hsplit] at hsegment ih
    split at hsegment
    · rcases List.mem_cons.mp hsegment with rfl | hmem
      · exact List.not_mem_nil
      · exact ih hmem
    · rename_i hc
      rcases List.mem_cons.mp hsegment with rfl | hmem
      · have hhead := ih List.mem_cons_self
        intro hmem
        rcases List.mem_cons.mp hmem with rfl | hmem
        · exact hc (beq_self_eq_true separator)
        · exact hhead hmem
      · exact ih (List.mem_cons_of_mem _ hmem)

/-- Splitting loses only separators. -/
theorem exists_mem_splitOn {c : α} (hc : c ≠ separator) :
    (∃ segment ∈ text.splitOn separator, c ∈ segment) ↔ c ∈ text := by
  induction text with
  | nil => simp
  | cons d text ih =>
    obtain ⟨head, rest, hsplit⟩ := List.exists_cons_of_ne_nil (List.splitOn_ne_nil separator text)
    rw [List.splitOn_cons_eq_if_modifyHead, List.mem_cons, ← ih]
    split
    · rename_i hd
      have hne : c ≠ d := fun h => hc (h.trans (eq_of_beq hd))
      simp [hne]
    · rw [hsplit]
      simp [or_assoc]

omit [DecidableEq α] in
theorem splitOnP_congr {p q : α → Bool} (h : ∀ c ∈ text, p c = q c) :
    text.splitOnP p = text.splitOnP q := by
  induction text with
  | nil => rfl
  | cons d text ih =>
    rw [List.splitOnP_cons_eq_if_modifyHead, List.splitOnP_cons_eq_if_modifyHead,
      ih fun c hc => h c (List.mem_cons_of_mem _ hc), h d List.mem_cons_self]

theorem splitOn_injective (h : first.splitOn separator = second.splitOn separator) :
    first = second := by
  calc first = [separator].intercalate (first.splitOn separator) :=
        (List.intercalate_splitOn separator).symm
    _ = second := by rw [h, List.intercalate_splitOn]

/-- Some of the segments of a list are the segments of what they spell. -/
theorem splitOn_intercalate_of_subset (hsegments : segments ⊆ text.splitOn separator)
    (hne : segments ≠ []) : ([separator].intercalate segments).splitOn separator = segments :=
  List.splitOn_intercalate separator
    (fun _ hmem => not_mem_of_mem_splitOn (hsegments hmem)) hne

/-- A list with a separator behind it begins another one when its segments are a proper
beginning. -/
theorem append_separator_prefix_iff : first ++ [separator] <+: text ↔
    first.splitOn separator <+: text.splitOn separator ∧
      first.splitOn separator ≠ text.splitOn separator := by
  constructor
  · rintro ⟨rest, rfl⟩
    rw [List.append_assoc, List.singleton_append, List.splitOn_append_cons_self]
    refine ⟨List.prefix_append _ _, fun hsame => ?_⟩
    exact List.splitOn_ne_nil separator rest (List.self_eq_append_right.mp hsame)
  · rintro ⟨⟨rest, hrest⟩, hne⟩
    have hrestne : rest ≠ [] := by
      rintro rfl
      exact hne (by rw [← hrest, List.append_nil])
    refine ⟨[separator].intercalate rest, @splitOn_injective α _ separator _ _ ?_⟩
    have hsubset : rest ⊆ text.splitOn separator := by
      rw [← hrest]
      exact List.subset_append_right _ _
    rw [List.append_assoc, List.singleton_append, List.splitOn_append_cons_self,
      splitOn_intercalate_of_subset hsubset hrestne, hrest]

end ArtForgeStudio.Segments
