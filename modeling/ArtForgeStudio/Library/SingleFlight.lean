import Mathlib.Data.List.Count
import Mathlib.Order.Defs.LinearOrder

/-! # One at a time

Requests are on their way in a list, from which one is taken, and held, while its answer is met. A
flag that is set when a request of a kind goes out, and unset when its answer is met, keeps two of the
kind from being on their way together.
-/

namespace ArtForgeStudio.SingleFlight

variable {A : Type*} (p : A → Prop) [DecidablePred p]

/-- How many are of the kind, the held one included. -/
def count (held : Option A) (flying : List A) : Nat := (held.toList ++ flying).countP (p ·)

structure Solo (flag : Bool) (held : Option A) (flying : List A) : Prop where
  count_le : count p held flying ≤ 1
  flag_of_pos : 0 < count p none flying → flag = true

variable {p} {flag : Bool} {held : Option A} {flying rest : List A} {a : A}

theorem count_eq : count p held flying = count p held [] + count p none flying := by
  simp [count, List.countP_append]

theorem count_cons_of_not (ha : ¬p a) : count p held (a :: flying) = count p held flying := by
  simp [count, List.countP_append, ha]

theorem count_eq_zero (hheld : ∀ b, held = some b → ¬p b) (hflying : ∀ b ∈ flying, ¬p b) :
    count p held flying = 0 := by
  simp only [count, List.countP_eq_zero, List.mem_append, Option.mem_toList, decide_eq_true_eq]
  rintro b (hb | hb)
  · exact hheld b hb
  · exact hflying b hb

/-- Where the flag is not set, nothing of the kind is on its way. -/
theorem Solo.count_none (h : Solo p false held flying) : count p none flying = 0 := by
  by_contra hne
  exact Bool.noConfusion (h.flag_of_pos (Nat.pos_of_ne_zero hne))

/-- Nor is it while the answer of one of the kind is met. -/
theorem Solo.count_none_of_held (h : Solo p flag (some a) flying) (ha : p a) :
    count p none flying = 0 := by
  have hle := h.count_le
  rw [count_eq] at hle
  have hone : count p (some a) [] = 1 := by simp [count, ha]
  omega

theorem Solo.of_count_none (h : Solo p flag held flying) (hnone : count p none flying = 0)
    (flag' : Bool) : Solo p flag' held flying :=
  ⟨h.count_le, fun hpos => absurd hnone (Nat.ne_of_gt hpos)⟩

theorem Solo.cons_of_not (h : Solo p flag held flying) (ha : ¬p a) :
    Solo p flag held (a :: flying) :=
  ⟨Nat.le_trans (Nat.le_of_eq (count_cons_of_not ha)) h.count_le,
    fun hpos => h.flag_of_pos (by rwa [count_cons_of_not ha] at hpos)⟩

/-- One of the kind goes out, and the flag is set. -/
theorem Solo.cons (h : Solo p false none flying) (a : A) : Solo p true none (a :: flying) := by
  refine ⟨?_, fun _ => rfl⟩
  have hnone := h.count_none
  by_cases ha : p a
  · simp only [count, Option.toList_none, List.nil_append] at hnone ⊢
    have hone := List.countP_cons_of_pos (p := (p ·)) (l := flying) (a := a) (by simpa using ha)
    omega
  · rw [count_cons_of_not ha, hnone]
    exact Nat.zero_le 1

theorem solo_of_forall_not (hheld : ∀ b, held = some b → ¬p b) (hflying : ∀ b ∈ flying, ¬p b) :
    Solo p flag held flying := by
  have hzero : ∀ held : Option A, (∀ b, held = some b → ¬p b) → count p held flying = 0 :=
    fun _ hheld => count_eq_zero hheld hflying
  refine ⟨hzero held hheld ▸ Nat.zero_le 1, fun hpos => ?_⟩
  rw [hzero none (by simp)] at hpos
  exact absurd hpos (Nat.lt_irrefl 0)

/-- One is taken, and with it perhaps others. -/
theorem Solo.take (h : Solo p flag none flying) {q : A → Bool} (ha : a ∈ flying) (hq : q a = false) :
    Solo p flag (some a) (flying.filter q) := by
  obtain ⟨before, after, rfl⟩ := List.append_of_mem ha
  have hrest : (before ++ a :: after).filter q = before.filter q ++ after.filter q := by
    rw [List.filter_append, List.filter_cons_of_neg (by simp [hq])]
  have hcount : ∀ held : Option A, (∀ b, held = some b → b = a) →
      count p held ((before ++ a :: after).filter q) ≤ count p none (before ++ a :: after) := by
    intro held hheld
    have hbefore := (List.filter_sublist (p := q) (l := before)).countP_le (p := (p ·))
    have hafter := (List.filter_sublist (p := q) (l := after)).countP_le (p := (p ·))
    have hone : held.toList.countP (p ·) ≤ [a].countP (p ·) := by
      cases held with
      | none => exact Nat.zero_le _
      | some b =>
        obtain rfl := hheld b rfl
        exact Nat.le_refl _
    rw [hrest, show before ++ a :: after = before ++ ([a] ++ after) from rfl]
    simp only [count, List.countP_append, Option.toList_none, List.countP_nil, Nat.zero_add]
    omega
  exact ⟨Nat.le_trans (hcount _ fun _ heq => (Option.some.inj heq).symm) h.count_le,
    fun hpos => h.flag_of_pos (Nat.lt_of_lt_of_le hpos (hcount none fun _ heq => by contradiction))⟩

theorem Solo.drop (h : Solo p flag held flying) : Solo p flag none flying := by
  refine ⟨?_, h.flag_of_pos⟩
  have hle := h.count_le
  rw [count_eq] at hle
  omega

end ArtForgeStudio.SingleFlight
