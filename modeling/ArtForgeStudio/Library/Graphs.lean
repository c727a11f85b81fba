import Mathlib.Logic.Relation
import Mathlib.Tactic.Common

/-! # Relations without cycles

How a relation without cycles may be changed so that it still has none: by an edge that closes
no way back, by shortcuts, by a point on its edges, and by a new part that nothing old leads into.
-/

namespace ArtForgeStudio.Graphs

open Relation

variable {α β : Type} {r s q : α → α → Prop} {a b c start finish : α}

/-- Nothing is reached from itself. -/
def Acyclic (r : α → α → Prop) : Prop := ∀ a, ¬TransGen r a a

theorem Acyclic.irrefl (h : Acyclic r) (a : α) : ¬r a a := fun hloop => h a (.single hloop)

theorem Acyclic.of_measure (f : α → Nat) (h : ∀ a b, r a b → f b < f a) : Acyclic r := by
  have hfall : ∀ {a b}, TransGen r a b → f b < f a := by
    intro a b hab
    induction hab with
    | single hab => exact h _ _ hab
    | tail _ hbc ih => exact Nat.lt_trans (h _ _ hbc) ih
  exact fun a hcycle => Nat.lt_irrefl _ (hfall hcycle)

theorem Acyclic.of_transGen (h : Acyclic r) (hsub : ∀ a b, s a b → TransGen r a b) : Acyclic s := by
  have hreach : ∀ {a b}, TransGen s a b → TransGen r a b := by
    intro a b hab
    induction hab with
    | single hab => exact hsub _ _ hab
    | tail _ hbc ih => exact ih.trans (hsub _ _ hbc)
  exact fun a hcycle => h a (hreach hcycle)

theorem Acyclic.mono (h : Acyclic r) (hsub : ∀ a b, s a b → r a b) : Acyclic s :=
  h.of_transGen fun a b hab => .single (hsub a b hab)

theorem Acyclic.comap {t : β → β → Prop} (h : Acyclic t) (f : α → β)
    (hmap : ∀ a b, s a b → t (f a) (f b)) : Acyclic s :=
  fun a hcycle => h (f a) (hcycle.lift f hmap)

theorem transGen_insert (hback : ¬ReflTransGen r finish start)
    (hsub : ∀ a b, s a b → r a b ∨ a = start ∧ b = finish) (h : TransGen s a b) :
    TransGen r a b ∨ ReflTransGen r a start ∧ ReflTransGen r finish b := by
  induction h with
  | single hab =>
    rcases hsub _ _ hab with hold | ⟨rfl, rfl⟩
    · exact .inl (.single hold)
    · exact .inr ⟨.refl, .refl⟩
  | tail _ hbc ih =>
    rcases hsub _ _ hbc with hold | ⟨rfl, rfl⟩
    · exact ih.imp (fun h => h.tail hold) fun h => ⟨h.1, h.2.tail hold⟩
    · rcases ih with h | ⟨-, hround⟩
      · exact .inr ⟨h.to_reflTransGen, .refl⟩
      · exact absurd hround hback

/-- A new edge closes a cycle only if there was a way back. -/
theorem Acyclic.insert (h : Acyclic r) (hback : ¬ReflTransGen r finish start)
    (hsub : ∀ a b, s a b → r a b ∨ a = start ∧ b = finish) : Acyclic s := by
  intro a hcycle
  rcases transGen_insert hback hsub hcycle with hold | ⟨hstart, hfinish⟩
  · exact h a hold
  · exact hback (hfinish.trans hstart)

/-- A fresh point on edges into another one closes no cycle. -/
theorem Acyclic.subdivide (h : Acyclic r) {fresh parent : α} (hparent : parent ≠ fresh)
    (hin : ∀ a, ¬r a fresh) (hout : ∀ b, ¬r fresh b)
    (hsub : ∀ a b, s a b → r a b ∨ (r a parent ∧ b = fresh) ∨ a = fresh ∧ b = parent) :
    Acyclic s := by
  classical
  have hstep : ∀ {a b}, a ≠ fresh → s a b → r a (if b = fresh then parent else b) := by
    intro a b ha hab
    rcases hsub a b hab with hold | ⟨hold, rfl⟩ | ⟨rfl, rfl⟩
    · rwa [if_neg]
      rintro rfl
      exact hin a hold
    · rwa [if_pos rfl]
    · exact absurd rfl ha
  -- A path of the new relation is one of the old relation that passes the fresh point by.
  have hreach : ∀ {a b}, a ≠ fresh → TransGen s a b →
      TransGen r a (if b = fresh then parent else b) := by
    intro a b ha hab
    induction hab with
    | single hab => exact .single (hstep ha hab)
    | @tail b c _ hbc ih =>
      by_cases hb : b = fresh
      · rw [if_pos hb] at ih
        rcases hsub b c hbc with hold | ⟨hold, -⟩ | ⟨-, rfl⟩
        · exact absurd (hb ▸ hold) (hout c)
        · exact absurd (hb ▸ hold) (hout parent)
        · rwa [if_neg hparent]
      · rw [if_neg hb] at ih
        exact ih.tail (hstep hb hbc)
  intro a hcycle
  by_cases ha : a = fresh
  · subst ha
    obtain ⟨b, hab, hba⟩ := TransGen.head'_iff.mp hcycle
    rcases hsub a b hab with hold | ⟨hold, -⟩ | ⟨-, rfl⟩
    · exact hout b hold
    · exact hout parent hold
    · rcases reflTransGen_iff_eq_or_transGen.mp hba with heq | hba
      · exact hparent heq.symm
      · exact h b (by simpa using hreach hparent hba)
  · exact h a (by simpa [ha] using hreach ha hcycle)

/-- A new part may lead into the old one, if nothing old leads into the new part. -/
theorem Acyclic.layers (hold : Acyclic r) (hnew : Acyclic q) (isNew : α → Prop)
    (hs : ∀ a b, s a b → ¬isNew a ∧ ¬isNew b ∧ r a b ∨ isNew a ∧ (isNew b → q a b)) :
    Acyclic s := by
  have hstays : ∀ {a b}, TransGen s a b → ¬isNew a → ¬isNew b ∧ TransGen r a b := by
    intro a b hab ha
    induction hab with
    | single hab =>
      obtain ⟨-, hb, hab⟩ := (hs _ _ hab).resolve_right fun h => ha h.1
      exact ⟨hb, .single hab⟩
    | tail _ hbc ih =>
      obtain ⟨-, hc, hbc⟩ := (hs _ _ hbc).resolve_right fun h => ih.1 h.1
      exact ⟨hc, ih.2.tail hbc⟩
  have hcomes : ∀ {a b}, TransGen s a b → isNew b → isNew a ∧ TransGen q a b := by
    intro a b hab hb
    induction hab with
    | single hab =>
      rcases hs _ _ hab with ⟨-, hnot, -⟩ | ⟨ha, hq⟩
      · exact absurd hb hnot
      · exact ⟨ha, .single (hq hb)⟩
    | tail _ hbc ih =>
      rcases hs _ _ hbc with ⟨-, hnot, -⟩ | ⟨hmiddle, hq⟩
      · exact absurd hb hnot
      · exact ⟨(ih hmiddle).1, (ih hmiddle).2.tail (hq hb)⟩
  intro a hcycle
  by_cases ha : isNew a
  · exact hnew a (hcomes hcycle ha).2
  · exact hold a (hstays hcycle ha).2

/-- A path is cut where it comes back to its start: no edge into the start is needed. -/
theorem reflTransGen_leaving (h : ReflTransGen r a b) :
    ReflTransGen (fun x y => r x y ∧ y ≠ a) a b := by
  induction h with
  | refl => exact .refl
  | @tail _ c _ hbc ih =>
    by_cases hc : c = a
    · subst hc
      exact .refl
    · exact ih.tail ⟨hbc, hc⟩

end ArtForgeStudio.Graphs
