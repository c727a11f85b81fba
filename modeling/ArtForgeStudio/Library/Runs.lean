import Mathlib.Logic.Basic

/-! # Runs of a deterministic step

A run applies a list of actions in turn. `Throughout` holds a property of every state it
passes, `AtEachStep` one of every action in the state it meets.
-/

namespace ArtForgeStudio.Runs

variable {A S : Type*} (step : A → S → S)

def run (actions : List A) (start : S) : S := actions.foldl (fun state action => step action state) start

def Throughout (P : S → Prop) : List A → S → Prop
  | [], state => P state
  | action :: rest, state => P state ∧ Throughout P rest (step action state)

def AtEachStep (P : A → S → Prop) : List A → S → Prop
  | [], _ => True
  | action :: rest, state => P action state ∧ AtEachStep P rest (step action state)

instance AtEachStep.decidable {P : A → S → Prop} [∀ action state, Decidable (P action state)] :
    ∀ actions start, Decidable (AtEachStep step P actions start)
  | [], _ => .isTrue trivial
  | action :: rest, start => @instDecidableAnd _ _ _ (AtEachStep.decidable rest (step action start))

@[simp] theorem run_nil (start : S) : run step [] start = start := rfl

@[simp] theorem run_cons (action : A) (rest : List A) (start : S) :
    run step (action :: rest) start = run step rest (step action start) := rfl

theorem run_append (actions rest : List A) (start : S) :
    run step (actions ++ rest) start = run step rest (run step actions start) := by
  simp [run, List.foldl_append]

variable {step} {P Q : A → S → Prop} {I : S → Prop} {actions : List A} {start : S}

/-- What every step preserves under its condition holds at the end of a run whose steps meet
the condition. -/
theorem run_invariant (I : S → Prop)
    (hstep : ∀ action state, I state → P action state → I (step action state))
    (hstart : I start) (hrun : AtEachStep step P actions start) : I (run step actions start) := by
  induction actions generalizing start with
  | nil => exact hstart
  | cons action rest ih => exact ih (hstep action start hstart hrun.1) hrun.2

/-- What every step preserves holds at the end of a run, and the end is related to the start as
the end of every step is to its start. -/
theorem run_related {R : S → S → Prop} (hrefl : ∀ state, R state state)
    (htrans : ∀ a b c, R a b → R b c → R a c)
    (hstep : ∀ action state, I state → I (step action state) ∧ R state (step action state))
    (hstart : I start) : I (run step actions start) ∧ R start (run step actions start) := by
  induction actions generalizing start with
  | nil => exact ⟨hstart, hrefl start⟩
  | cons action rest ih =>
    obtain ⟨hnext, hrelated⟩ := hstep action start hstart
    obtain ⟨hend, hrest⟩ := ih hnext
    exact ⟨hend, htrans _ _ _ hrelated hrest⟩

theorem AtEachStep.mono (h : AtEachStep step P actions start)
    (himp : ∀ action ∈ actions, ∀ state, P action state → Q action state) :
    AtEachStep step Q actions start := by
  induction actions generalizing start with
  | nil => trivial
  | cons action rest ih =>
    obtain ⟨hfirst, hrest⟩ := List.forall_mem_cons.mp himp
    exact ⟨hfirst start h.1, ih h.2 hrest⟩

theorem AtEachStep.and (h : AtEachStep step P actions start)
    (h' : AtEachStep step Q actions start) :
    AtEachStep step (fun action state => P action state ∧ Q action state) actions start := by
  induction actions generalizing start with
  | nil => trivial
  | cons action rest ih => exact ⟨⟨h.1, h'.1⟩, ih h.2 h'.2⟩

theorem atEachStep_append {rest : List A} : AtEachStep step P (actions ++ rest) start ↔
    AtEachStep step P actions start ∧ AtEachStep step P rest (run step actions start) := by
  induction actions generalizing start with
  | nil => exact (iff_of_eq (true_and _)).symm
  | cons action actions ih => simp only [List.cons_append, AtEachStep, ih, run_cons, and_assoc]

theorem Throughout.head (h : Throughout step I actions start) : I start := by
  cases actions with
  | nil => exact h
  | cons action rest => exact h.1

theorem Throughout.next (h : Throughout step I actions start) :
    AtEachStep step (fun action state => I (step action state)) actions start := by
  induction actions generalizing start with
  | nil => trivial
  | cons action rest ih => exact ⟨h.2.head, ih h.2⟩

theorem atEachStep_of_forall {C : A → Prop} (h : ∀ action ∈ actions, C action) :
    AtEachStep step (fun action _ => C action) actions start := by
  induction actions generalizing start with
  | nil => trivial
  | cons action rest ih =>
    exact ⟨h action List.mem_cons_self, ih fun a ha => h a (List.mem_cons_of_mem _ ha)⟩

end ArtForgeStudio.Runs
