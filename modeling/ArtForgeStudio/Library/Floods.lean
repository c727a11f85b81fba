import Mathlib.Logic.Relation
import Mathlib.Tactic.Common

/-! # Floods

A flood goes along the edges of a relation from where it starts. It handles one point of those
that are pending after the other; what was handled is done. It does not matter in which order the
points are handled and whether a point is pending more than once.
-/

namespace ArtForgeStudio.Floods

open Relation

variable {α : Type*} {start done pending pending' : α → Prop} {edge : α → α → Prop} {a b : α}

def Reached (start : α → Prop) (edge : α → α → Prop) (a : α) : Prop :=
  ∃ s, start s ∧ ReflTransGen edge s a

theorem Reached.tail (h : Reached start edge a) (hedge : edge a b) : Reached start edge b := by
  obtain ⟨s, hs, hreach⟩ := h
  exact ⟨s, hs, hreach.tail hedge⟩

theorem Reached.congr {start' : α → Prop} {edge' : α → α → Prop} (hstart : ∀ a, start a ↔ start' a)
    (hedge : ∀ a b, edge a b ↔ edge' a b) : Reached start edge a ↔ Reached start' edge' a := by
  obtain rfl : start = start' := funext fun a => propext (hstart a)
  obtain rfl : edge = edge' := funext fun a => funext fun b => propext (hedge a b)
  rfl

/-- Only points that are reached are touched, and an edge from a point that is done leads to one
that is done or pending. -/
structure Flood (start : α → Prop) (edge : α → α → Prop) (done pending : α → Prop) : Prop where
  sound : ∀ a, done a ∨ pending a → Reached start edge a
  covers : ∀ a, start a → done a ∨ pending a
  closed : ∀ a b, done a → edge a b → done b ∨ pending b

theorem Flood.initial (h : ∀ a, start a ↔ pending a) : Flood start edge (fun _ => False) pending where
  sound a ha := ⟨a, (h a).mpr (ha.resolve_left id), .refl⟩
  covers a ha := .inr ((h a).mp ha)
  closed _ _ hdone := hdone.elim

/-- One point is handled: its edges lead to points that are done, or pending from now on. -/
theorem Flood.step (h : Flood start edge done pending) (ha : pending a)
    (hnew : ∀ b, pending' b → pending b ∨ edge a b)
    (hkept : ∀ b, pending b → b = a ∨ done b ∨ pending' b)
    (hedges : ∀ b, edge a b → b = a ∨ done b ∨ pending' b) :
    Flood start edge (fun b => b = a ∨ done b) pending' where
  sound b hb := by
    rcases hb with (rfl | hdone) | hpending
    · exact h.sound b (.inr ha)
    · exact h.sound b (.inl hdone)
    · rcases hnew b hpending with hold | hedge
      · exact h.sound b (.inr hold)
      · exact (h.sound a (.inr ha)).tail hedge
  covers b hb := by
    rcases h.covers b hb with hdone | hpending
    · exact .inl (.inr hdone)
    · exact or_assoc.mpr (hkept b hpending)
  closed b c hb hedge := by
    rcases hb with rfl | hdone
    · exact or_assoc.mpr (hedges c hedge)
    · rcases h.closed b c hdone hedge with hdone | hpending
      · exact .inl (.inr hdone)
      · exact or_assoc.mpr (hkept c hpending)

/-- Points that are done need not stay pending. -/
theorem Flood.drop (h : Flood start edge done pending) (hnew : ∀ b, pending' b → pending b)
    (hkept : ∀ b, pending b → done b ∨ pending' b) : Flood start edge done pending' where
  sound b hb := h.sound b (hb.imp_right (hnew b))
  covers b hb := (h.covers b hb).elim .inl (hkept b)
  closed b c hb hedge := (h.closed b c hb hedge).elim .inl (hkept c)

/-- When nothing is pending, exactly what is reached is done. -/
theorem Flood.done_iff (h : Flood start edge done pending) (hend : ∀ a, ¬pending a) (a : α) :
    done a ↔ Reached start edge a := by
  have hdone : ∀ {a}, done a ∨ pending a → done a := fun ha => ha.resolve_right (hend _)
  constructor
  · exact fun ha => h.sound a (.inl ha)
  · rintro ⟨s, hs, hreach⟩
    induction hreach with
    | refl => exact hdone (h.covers s hs)
    | tail _ hedge ih => exact hdone (h.closed _ _ ih hedge)

/-- From a point of a component of a symmetric relation everything in it is reached. -/
theorem reached_iff_of_mem (hsymm : ∀ a b, edge a b → edge b a) (h : ReflTransGen edge a b) (c : α) :
    ReflTransGen edge a c ↔ ReflTransGen edge b c :=
  ⟨(ReflTransGen.mono (fun _ _ hba => hsymm _ _ hba) _ _ h.swap).trans, h.trans⟩

end ArtForgeStudio.Floods
