import Mathlib.Data.List.Forall2

/-! # Fallible steps

The two guards and the inversion of a sequence of fallible steps.
-/

namespace ArtForgeStudio.Outcome

variable {ε : Type*} {α β : Type} {p : Prop} [Decidable p]

/-- Go on only when `p` holds. -/
def ensure (p : Prop) [Decidable p] (error : ε) : Except ε Unit :=
  if p then .ok () else .error error

/-- Fail when `p` holds. -/
def rejectIf (p : Prop) [Decidable p] (error : ε) : Except ε Unit :=
  if p then .error error else .ok ()

@[simp] theorem ensure_eq_ok {error : ε} {u : Unit} : ensure p error = .ok u ↔ p := by
  unfold ensure
  split <;> simp_all

@[simp] theorem rejectIf_eq_ok {error : ε} {u : Unit} : rejectIf p error = .ok u ↔ ¬p := by
  unfold rejectIf
  split <;> simp_all

theorem ensure_eq_error {error error' : ε} (h : ensure p error = .error error') : error' = error := by
  unfold ensure at h
  split at h
  · contradiction
  · exact (Except.error.inj h).symm

theorem rejectIf_eq_error {error error' : ε} (h : rejectIf p error = .error error') :
    error' = error := by
  unfold rejectIf at h
  split at h
  · exact (Except.error.inj h).symm
  · contradiction

theorem mapError_eq_ok {ε' : Type*} {x : Except ε α} {f : ε → ε'} {a : α} :
    x.mapError f = .ok a ↔ x = .ok a := by
  cases x <;> simp [Except.mapError]

theorem ok_bind (a : α) (f : α → Except ε β) : (Except.ok a >>= f) = f a := rfl

theorem error_bind (error : ε) (f : α → Except ε β) : (Except.error error >>= f) = .error error := rfl

theorem bind_eq_ok {x : Except ε α} {f : α → Except ε β} {b : β} :
    (x >>= f) = .ok b ↔ ∃ a, x = .ok a ∧ f a = .ok b := by
  cases x with
  | error e => simp [bind, Except.bind]
  | ok a => simp [bind, Except.bind]

theorem exists_unit {q : Unit → Prop} : (∃ u, q u) ↔ q () :=
  ⟨fun ⟨_, h⟩ => h, fun h => ⟨(), h⟩⟩

theorem pure_eq_ok {a b : α} : (pure a : Except ε α) = .ok b ↔ a = b := by
  simp [pure, Except.pure]

theorem forM_eq_ok {f : α → Except ε Unit} {items : List α} :
    items.forM f = .ok () ↔ ∀ item ∈ items, f item = .ok () := by
  induction items with
  | nil => simp [pure, Except.pure]
  | cons item items ih =>
    have hcons : (item :: items).forM f = f item >>= fun _ => items.forM f := rfl
    simp only [hcons, bind_eq_ok, exists_unit, ih, List.mem_cons, forall_eq_or_imp]

theorem mapM_eq_ok {f : α → Except ε β} {items : List α} {values : List β} :
    items.mapM f = .ok values ↔ List.Forall₂ (fun item value => f item = .ok value) items values := by
  induction items generalizing values with
  | nil =>
    rw [List.mapM_nil, pure_eq_ok, List.forall₂_nil_left_iff]
    exact eq_comm
  | cons item items ih =>
    simp only [List.mapM_cons, bind_eq_ok, pure_eq_ok, List.forall₂_cons_left_iff, ih]
    constructor
    · rintro ⟨value, hvalue, rest, hrest, rfl⟩
      exact ⟨value, rest, hvalue, hrest, rfl⟩
    · rintro ⟨value, rest, hvalue, hrest, rfl⟩
      exact ⟨value, hvalue, rest, hrest, rfl⟩

theorem exists_of_mem_right {R : α → β → Prop} {items : List α} {values : List β} {value : β}
    (h : List.Forall₂ R items values) (hmem : value ∈ values) : ∃ item ∈ items, R item value := by
  induction h with
  | nil => exact absurd hmem List.not_mem_nil
  | cons hhead _ ih =>
    rcases List.mem_cons.mp hmem with rfl | hrest
    · exact ⟨_, List.mem_cons_self, hhead⟩
    · obtain ⟨item, hitem, hvalue⟩ := ih hrest
      exact ⟨item, List.mem_cons_of_mem _ hitem, hvalue⟩

end ArtForgeStudio.Outcome
