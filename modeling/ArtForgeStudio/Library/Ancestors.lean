import ArtForgeStudio.Library.Graphs
import Mathlib.Data.Finset.Card
import Mathlib.Logic.Relator

/-! # Ancestors

What lies above a point, in a relation without cycles or with at most one way up: the last one of
a set, and the first one that is not gone. A way up that ends does not come back.
-/

namespace ArtForgeStudio.Graphs

open Relation

variable {α : Type} {r : α → α → Prop} {gone : α → Prop} {a b c last : α}

theorem no_return (hr : Relator.RightUnique r) (hlast : ∀ b, ¬r last b)
    (h : ReflTransGen r a last) : ¬TransGen r a a := by
  induction h using ReflTransGen.head_induction_on with
  | refl =>
    intro hcycle
    obtain ⟨b, hb, -⟩ := TransGen.head'_iff.mp hcycle
    exact hlast b hb
  | head hab _ ih =>
    intro hcycle
    obtain ⟨b, hb, hback⟩ := TransGen.head'_iff.mp hcycle
    rw [hr hb hab] at hback
    exact ih (TransGen.tail' hback hab)

theorem Acyclic.exists_last (h : Acyclic r) (s : Finset α) (ha : a ∈ s) :
    ∃ b ∈ s, ReflTransGen r a b ∧ ∀ c ∈ s, ¬TransGen r b c := by
  classical
  induction s using Finset.strongInduction generalizing a with
  | H s ih =>
    by_cases hlast : ∀ c ∈ s, ¬TransGen r a c
    · exact ⟨a, ha, .refl, hlast⟩
    · push Not at hlast
      obtain ⟨c, hc, hac⟩ := hlast
      have hne : c ≠ a := by
        rintro rfl
        exact h c hac
      obtain ⟨b, hb, hcb, habove⟩ :=
        ih (s.erase a) (Finset.erase_ssubset ha) (Finset.mem_erase.mpr ⟨hne, hc⟩)
      refine ⟨b, Finset.mem_of_mem_erase hb, hac.to_reflTransGen.trans hcb, fun d hd hbd => ?_⟩
      by_cases hda : d = a
      · subst hda
        exact h d ((hac.trans_left hcb).trans hbd)
      · exact habove d (Finset.mem_erase.mpr ⟨hda, hd⟩) hbd

/-- The first one on the way up that is not gone. -/
inductive Nearest (r : α → α → Prop) (gone : α → Prop) : α → α → Prop
  | here {a : α} (hkept : ¬gone a) : Nearest r gone a a
  | up {a b c : α} (hgone : gone a) (hup : r a b) (h : Nearest r gone b c) : Nearest r gone a c

theorem Nearest.kept (h : Nearest r gone a b) : ¬gone b := by
  induction h with
  | here hkept => exact hkept
  | up _ _ _ ih => exact ih

/-- Past one that is gone there is a single way up. -/
theorem nearest_of_gone (hr : Relator.RightUnique r) (hgone : gone a) (hup : r a b) :
    Nearest r gone a c ↔ Nearest r gone b c := by
  constructor
  · intro h
    cases h with
    | here hkept => exact absurd hgone hkept
    | up _ hother h => exact hr hother hup ▸ h
  · exact .up hgone hup

end ArtForgeStudio.Graphs
