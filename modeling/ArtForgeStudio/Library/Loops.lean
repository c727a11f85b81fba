import Mathlib.Data.List.Basic
import Mathlib.Data.List.Range
import Mathlib.Tactic.Common

/-! # Loops that may fail

A `for` over numbers or over a list, and a vector that is written in place. A body that fails ends
the loop, and a write behind the end of the vector fails.
-/

namespace ArtForgeStudio.Loops

variable {α S : Type}

def forRange (count : Nat) (body : S → Nat → Option S) (start : S) : Option S :=
  (List.range count).foldlM body start

/-- What the body carries from each number to the next holds at the end, and the loop does not
fail. -/
theorem forRange_rule {count : Nat} {body : S → Nat → Option S} {start : S} (P : Nat → S → Prop)
    (hstart : P 0 start)
    (hbody : ∀ i < count, ∀ state, P i state → ∃ next, body state i = some next ∧ P (i + 1) next) :
    ∃ last, forRange count body start = some last ∧ P count last := by
  unfold forRange
  induction count with
  | zero => exact ⟨start, rfl, hstart⟩
  | succ count ih =>
    obtain ⟨state, hloop, hstate⟩ := ih fun i hi => hbody i (Nat.lt_succ_of_lt hi)
    obtain ⟨next, hnext, hP⟩ := hbody count (Nat.lt_succ_self count) state hstate
    refine ⟨next, ?_, hP⟩
    rw [List.range_succ, List.foldlM_append, hloop]
    simpa using hnext

/-- The same over a list; `P` is about the part of it that was gone through. -/
theorem foldlM_rule {items : List α} {body : S → α → Option S} {start : S} (P : List α → S → Prop)
    (hstart : P [] start)
    (hbody : ∀ gone item state, item ∈ items → P gone state →
      ∃ next, body state item = some next ∧ P (gone ++ [item]) next) :
    ∃ last, items.foldlM body start = some last ∧ P items last := by
  have hrest : ∀ rest gone state, (∀ item ∈ rest, item ∈ items) → P gone state →
      ∃ last, rest.foldlM body state = some last ∧ P (gone ++ rest) last := by
    intro rest
    induction rest with
    | nil => exact fun gone state _ hP => ⟨state, rfl, by simpa using hP⟩
    | cons item rest ih =>
      intro gone state hmem hP
      obtain ⟨next, hnext, hP⟩ := hbody gone item state (hmem item List.mem_cons_self) hP
      obtain ⟨last, hlast, hP⟩ := ih (gone ++ [item]) next
        (fun item hitem => hmem item (List.mem_cons_of_mem _ hitem)) hP
      refine ⟨last, ?_, by simpa using hP⟩
      rw [List.foldlM_cons, hnext]
      exact hlast
  simpa using hrest items [] start (fun _ h => h) hstart

def writeAt (items : List α) (i : Nat) (a : α) : Option (List α) :=
  if i < items.length then some (items.set i a) else none

theorem writeAt_of_lt {items : List α} {i : Nat} (h : i < items.length) (a : α) :
    writeAt items i a = some (items.set i a) := if_pos h

theorem getElem?_set_of_lt {items : List α} {i : Nat} (h : i < items.length) (a : α) (j : Nat) :
    (items.set i a)[j]? = if j = i then some a else items[j]? := by
  rw [List.getElem?_set]
  by_cases hij : j = i
  · subst hij
    simp [h]
  · simp [hij, Ne.symm hij]

theorem exists_getElem? {items : List α} {i : Nat} (h : i < items.length) : ∃ a, items[i]? = some a :=
  ⟨items[i], List.getElem?_eq_getElem h⟩

end ArtForgeStudio.Loops
