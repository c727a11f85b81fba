import Mathlib.Order.Bounds.Basic
import Mathlib.Order.MinMax

/-! # Extents

The least and the greatest value that a fold over a list comes by.
-/

namespace ArtForgeStudio.Extents

variable {α β : Type} [LinearOrder α]

theorem isLeast_foldl_min (f : β → α) (first : α) (items : List β) :
    IsLeast {a | a = first ∨ ∃ b ∈ items, f b = a}
      (items.foldl (fun least b => min least (f b)) first) := by
  induction items generalizing first with
  | nil => simp [IsLeast, lowerBounds]
  | cons item items ih =>
    obtain ⟨hmem, hlower⟩ := ih (min first (f item))
    constructor
    · rcases hmem with heq | ⟨b, hb, heq⟩
      · rw [List.foldl_cons, heq]
        rcases min_choice first (f item) with hfirst | hitem
        · exact .inl hfirst
        · exact .inr ⟨item, List.mem_cons_self, hitem.symm⟩
      · exact .inr ⟨b, List.mem_cons_of_mem _ hb, heq⟩
    · have hleast := hlower (.inl rfl)
      rintro a (rfl | ⟨b, hb, rfl⟩)
      · exact hleast.trans (min_le_left _ _)
      · rcases List.mem_cons.mp hb with rfl | hb
        · exact hleast.trans (min_le_right _ _)
        · exact hlower (.inr ⟨b, hb, rfl⟩)

theorem isGreatest_foldl_max (f : β → α) (first : α) (items : List β) :
    IsGreatest {a | a = first ∨ ∃ b ∈ items, f b = a}
      (items.foldl (fun greatest b => max greatest (f b)) first) :=
  isLeast_foldl_min (α := αᵒᵈ) f first items

end ArtForgeStudio.Extents
