import Mathlib.Data.Set.Insert

/-! # Requests that do not interfere

A request is for an item; it is answered, or refused and the state is left as it was. Accepting one
item changes for no other whether it is accepted. Then neither the order of a run nor its
repetitions matter to what is accepted and put out.
-/

namespace ArtForgeStudio.Submissions

variable {R S I α ω ε : Type*}

def submit (step : R → S → Except ε α × S) : List R → S → List (R × Except ε α) × S
  | [], state => ([], state)
  | request :: rest, state =>
    ((request, (step request state).1) :: (submit step rest (step request state).2).1,
      (submit step rest (step request state).2).2)

/-- An accepted item is answered and put out, or put off for now. -/
structure Independent (step : R → S → Except ε α × S) (item : R → I) (items : Set I)
    (putOff : ε → Prop) (sound : S → Prop) (accepts : S → I → Prop) (answer : I → α)
    (outputs : S → Set ω) (output : I → ω) : Prop where
  refused : ∀ request state error, sound state → item request ∈ items →
    (step request state).1 = .error error →
      (step request state).2 = state ∧ (accepts state (item request) → putOff error)
  answered : ∀ request state value, sound state → item request ∈ items →
    (step request state).1 = .ok value →
      value = answer (item request) ∧ accepts state (item request) ∧
        sound (step request state).2 ∧
        outputs (step request state).2 = insert (output (item request)) (outputs state) ∧
        ∀ other ∈ items, accepts (step request state).2 other ↔ accepts state other

variable {step : R → S → Except ε α × S} {item : R → I} {items : Set I} {putOff : ε → Prop}
  {sound : S → Prop} {accepts : S → I → Prop} {answer : I → α} {outputs : S → Set ω}
  {output : I → ω} {requests others : List R} {start : S} {request other : R}
  {result result' : Except ε α}

theorem mem_submit (h : (request, result) ∈ (submit step requests start).1) : request ∈ requests := by
  induction requests generalizing start with
  | nil => cases h
  | cons first rest ih =>
    rcases List.mem_cons.1 h with heq | hmem
    · rw [(Prod.mk.inj heq).1]
      exact List.mem_cons_self
    · exact List.mem_cons_of_mem _ (ih hmem)

/-- A run of requests for the items that puts none off. -/
structure Undelayed (step : R → S → Except ε α × S) (item : R → I) (items : Set I)
    (putOff : ε → Prop) (requests : List R) (start : S) : Prop where
  items : ∀ request ∈ requests, item request ∈ items
  now : ∀ request error, (request, .error error) ∈ (submit step requests start).1 → ¬putOff error

theorem Undelayed.tail (h : Undelayed step item items putOff (request :: requests) start) :
    Undelayed step item items putOff requests (step request start).2 :=
  ⟨fun other hmem => h.items other (List.mem_cons_of_mem _ hmem),
    fun other error hmem => h.now other error (List.mem_cons_of_mem _ hmem)⟩

/-- A request is answered just if its item was accepted at the start. -/
theorem Independent.submit_eq_ok
    (h : Independent step item items putOff sound accepts answer outputs output)
    (hstart : sound start) (hrun : Undelayed step item items putOff requests start)
    (hresult : (request, result) ∈ (submit step requests start).1) (value : α) :
    result = .ok value ↔ accepts start (item request) ∧ value = answer (item request) := by
  induction requests generalizing start with
  | nil => cases hresult
  | cons first rest ih =>
    have hfirst : item first ∈ items := hrun.items first List.mem_cons_self
    cases hstep : (step first start).1 with
    | error error =>
      obtain ⟨hkept, hoff⟩ := h.refused first start error hstart hfirst hstep
      have hnot : ¬accepts start (item first) := by
        intro haccepts
        apply hrun.now first error
        · rw [← hstep]
          exact List.mem_cons_self
        · exact hoff haccepts
      rcases List.mem_cons.1 hresult with heq | hmem
      · obtain ⟨rfl, rfl⟩ := Prod.mk.inj heq
        simp [hstep, hnot]
      · have hrest := hrun.tail
        rw [hkept] at hmem hrest
        exact ih hstart hrest hmem
    | ok answered =>
      obtain ⟨rfl, haccepts, hsound, -, hsame⟩ :=
        h.answered first start answered hstart hfirst hstep
      rcases List.mem_cons.1 hresult with heq | hmem
      · obtain ⟨rfl, rfl⟩ := Prod.mk.inj heq
        simp [hstep, haccepts, eq_comm]
      · rw [ih hsound hrun.tail hmem, hsame _ (hrun.items request (mem_submit hresult))]

theorem Independent.submit_outputs
    (h : Independent step item items putOff sound accepts answer outputs output)
    (hstart : sound start) (hrun : Undelayed step item items putOff requests start) (out : ω) :
    out ∈ outputs (submit step requests start).2 ↔ out ∈ outputs start ∨
      ∃ request ∈ requests, accepts start (item request) ∧ output (item request) = out := by
  induction requests generalizing start with
  | nil => simp [submit]
  | cons first rest ih =>
    have hfirst : item first ∈ items := hrun.items first List.mem_cons_self
    rw [submit]
    cases hstep : (step first start).1 with
    | error error =>
      obtain ⟨hkept, hoff⟩ := h.refused first start error hstart hfirst hstep
      have hnot : ¬accepts start (item first) := by
        intro haccepts
        apply hrun.now first error
        · rw [← hstep]
          exact List.mem_cons_self
        · exact hoff haccepts
      have hrest := hrun.tail
      rw [hkept] at hrest ⊢
      simp [ih hstart hrest, hnot]
    | ok answered =>
      obtain ⟨-, haccepts, hsound, hout, hsame⟩ :=
        h.answered first start answered hstart hfirst hstep
      rw [ih hsound hrun.tail, hout, Set.mem_insert_iff]
      simp only [List.mem_cons, exists_eq_or_imp, haccepts, true_and]
      have hrest : (∃ request ∈ rest, accepts (step first start).2 (item request) ∧
            output (item request) = out) ↔
          ∃ request ∈ rest, accepts start (item request) ∧ output (item request) = out := by
        apply exists_congr
        intro request
        apply and_congr_right
        intro hmem
        rw [hsame _ (hrun.items request (List.mem_cons_of_mem _ hmem))]
      rw [hrest, or_assoc, or_left_comm, eq_comm]

theorem Independent.order_free
    (h : Independent step item items putOff sound accepts answer outputs output)
    (hstart : sound start) (hrun : Undelayed step item items putOff requests start)
    (hother : Undelayed step item items putOff others start)
    (hsame : ∀ i, (∃ request ∈ requests, item request = i) ↔ ∃ other ∈ others, item other = i) :
    (∀ request result other result', (request, result) ∈ (submit step requests start).1 →
      (other, result') ∈ (submit step others start).1 → item request = item other →
        ∀ value, result = .ok value ↔ result' = .ok value) ∧
    outputs (submit step requests start).2 = outputs (submit step others start).2 := by
  constructor
  · intro request result other result' hresult hresult' hitem value
    rw [h.submit_eq_ok hstart hrun hresult, h.submit_eq_ok hstart hother hresult', hitem]
  · ext out
    rw [h.submit_outputs hstart hrun, h.submit_outputs hstart hother]
    apply or_congr_right
    constructor
    · rintro ⟨request, hmem, haccepts, rfl⟩
      obtain ⟨other, hother, heq⟩ := (hsame _).1 ⟨request, hmem, rfl⟩
      exact ⟨other, hother, heq ▸ haccepts, heq ▸ rfl⟩
    · rintro ⟨other, hmem, haccepts, rfl⟩
      obtain ⟨request, hrequest, heq⟩ := (hsame _).2 ⟨other, hmem, rfl⟩
      exact ⟨request, hrequest, heq ▸ haccepts, heq ▸ rfl⟩

end ArtForgeStudio.Submissions
