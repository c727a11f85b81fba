import ArtForgeStudio.Library.Attempts

/-! # One thread that changes a view of the state

One thread at a time changes a view of the state; the others change the rest. A part of the
state may be used up for good, and what depends on it is promised only while it is not.
-/

namespace ArtForgeStudio.Concurrency

variable {σ χ α β ε : Type}

structure Exclusive (σ V : Type) where
  view : σ → V
  /-- what can be used up is left -/
  live : σ → Prop
  /-- what every step does to the whole state -/
  keeps : σ → σ → Prop
  keeps_end : ∀ before after, keeps before after → keeps after after
  keeps_trans : ∀ first second third, keeps first second → keeps second third → keeps first third
  /-- what every step keeps of the view -/
  always : Prop → V → Prop

namespace Exclusive

variable {V : Type} (X : Exclusive σ V)

/-- An assertion is told a proposition under which the state is live. -/
def Says (P : Prop → V → Prop) (state : σ) : Prop :=
  ∀ alive : Prop, (alive → X.live state) → P alive (X.view state)

def Inv (state : σ) : Prop := X.keeps state state ∧ X.Says X.always state

/-- A step of another thread. -/
structure Leaves (before after : σ) : Prop where
  live : X.live after → X.live before
  keeps : X.keeps before after
  inv : X.Inv after
  view : X.view after = X.view before

/-- A step of the thread. -/
structure Takes (before after : σ) : Prop where
  live : X.live after → X.live before
  keeps : X.keeps before after
  inv : X.Inv after

theorem Leaves.refl {state : σ} (h : X.Inv state) : X.Leaves state state := ⟨id, h.1, h, rfl⟩

/-- The discipline of the thread that owns the view. -/
def discipline : Discipline Unit σ χ Unit where
  admits _ _ _ _ := True
  rely _ before after := X.Inv before → X.Leaves before after
  guarantee _ before after := X.Inv before → X.Takes before after
  apart _ _ := False
  rely_refl _ _ := Leaves.refl X
  rely_trans _ _ _ _ h h' hinv :=
    have hfirst := h hinv
    have hsecond := h' hfirst.inv
    ⟨fun hlive => hfirst.live (hsecond.live hlive), X.keeps_trans _ _ _ hfirst.keeps hsecond.keeps,
      hsecond.inv, hsecond.view.trans hfirst.view⟩
  guarantee_rely _ _ _ _ hapart _ := hapart.elim

/-- An assertion about the view in a state that keeps the invariant. -/
def At (P : Prop → V → Prop) (state : σ) : Prop := X.Inv state ∧ X.Says P state

def Judges (P : Prop → V → Prop) (program : Program Unit σ χ α) (Q : α → Prop → V → Prop) : Prop :=
  X.discipline.Triple () (X.At P) program fun result => X.At (Q result)

def Tries (P : Prop → V → Prop) (attempt : ExceptT ε (Program Unit σ χ) α) (Q : α → Prop → V → Prop)
    (F : Prop → V → Prop) : Prop :=
  X.discipline.Attempt () (X.At P) attempt (fun result => X.At (Q result)) fun _ => X.At F

/-- What an action does to the view. -/
structure Acts (P Q : Prop → V → Prop) (before after : σ) : Prop where
  live : X.live after → X.live before
  keeps : X.keeps before after
  view : ∀ alive : Prop, (alive → X.live after) → X.always alive (X.view before) →
    P alive (X.view before) → X.always alive (X.view after) ∧ Q alive (X.view after)

section Rules

variable {X} {P P' F F' : Prop → V → Prop} {Q Q' : α → Prop → V → Prop} {R : β → Prop → V → Prop}
  {program : Program Unit σ χ α} {before after : σ}

theorem at_stable : (X.discipline (χ := χ)).Stable () (X.At P) := by
  intro state later hat hrely
  have hleaves := hrely hat.1
  refine ⟨hleaves.inv, fun alive halive => ?_⟩
  rw [hleaves.view]
  exact hat.2 alive fun h => hleaves.live (halive h)

theorem Acts.takes (h : X.Acts P P' before after) (hat : X.At P before) :
    X.Takes before after ∧ X.At P' after := by
  have hview (alive : Prop) (halive : alive → X.live after) :=
    h.view alive halive (hat.1.2 alive fun ha => h.live (halive ha))
      (hat.2 alive fun ha => h.live (halive ha))
  have hinv : X.Inv after :=
    ⟨X.keeps_end _ _ h.keeps, fun alive halive => (hview alive halive).1⟩
  exact ⟨⟨h.live, h.keeps, hinv⟩, hinv, fun alive halive => (hview alive halive).2⟩

/-- An action that leaves the view. -/
theorem Acts.of_view (hlive : X.live after → X.live before) (hkeeps : X.keeps before after)
    (hview : X.view after = X.view before) (himp : ∀ alive v, P alive v → P' alive v) :
    X.Acts P P' before after := by
  refine ⟨hlive, hkeeps, fun alive _ halways hP => ?_⟩
  rw [hview]
  exact ⟨halways, himp alive _ hP⟩

/-- A fact about constants may be added. -/
theorem Acts.given {fact : Prop} (h : X.Acts P P' before after) (hfact : fact) :
    X.Acts P (fun alive v => fact ∧ P' alive v) before after :=
  ⟨h.live, h.keeps, fun alive halive halways hP =>
    have hview := h.view alive halive halways hP
    ⟨hview.1, hfact, hview.2⟩⟩

theorem Acts.mono (h : X.Acts P P' before after) (hpre : ∀ alive v, F alive v → P alive v)
    (hpost : ∀ alive v, P' alive v → F' alive v) : X.Acts F F' before after :=
  ⟨h.live, h.keeps, fun alive halive halways hF =>
    have hview := h.view alive halive halways (hpre alive _ hF)
    ⟨hview.1, hpost alive _ hview.2⟩⟩

theorem Judges.act {action : χ → σ → α × σ}
    (h : ∀ answer state, X.keeps state state →
      X.Acts P (Q (action answer state).1) state (action answer state).2) :
    X.Judges P (Program.atomic action) Q := by
  refine .atomic at_stable (fun _ => at_stable) fun answer state hat _ => ?_
  obtain ⟨htakes, hafter⟩ := (h answer state hat.1.1).takes hat
  exact ⟨fun _ => htakes, hafter⟩

theorem Judges.done {result : α} (h : ∀ alive v, P alive v → Q result alive v) :
    X.Judges P (pure result : Program Unit σ χ α) Q :=
  .pure at_stable fun _ hat => ⟨hat.1, fun alive halive => h alive _ (hat.2 alive halive)⟩

theorem Judges.bind {rest : α → Program Unit σ χ β} (h : X.Judges P program Q)
    (hrest : ∀ result, X.Judges (Q result) (rest result) R) : X.Judges P (program >>= rest) R :=
  Discipline.Triple.bind h hrest

theorem Judges.mono (h : X.Judges P program Q) (hpre : ∀ alive v, P' alive v → P alive v)
    (hpost : ∀ result alive v, Q result alive v → Q' result alive v) :
    X.Judges P' program Q' :=
  Discipline.Triple.mono h
    (fun _ hat => ⟨hat.1, fun alive halive => hpre alive _ (hat.2 alive halive)⟩)
    fun result _ hat => ⟨hat.1, fun alive halive => hpost result alive _ (hat.2 alive halive)⟩

/-- A fact about constants may be taken out of the precondition. -/
theorem Judges.given {fact : Prop} (h : fact → X.Judges P program Q) :
    X.Judges (fun alive v => fact ∧ P alive v) program Q :=
  fun state hat => h (hat.2 False False.elim).1 state
    ⟨hat.1, fun alive halive => (hat.2 alive halive).2⟩

end Rules

section Attempts

variable {X} {P P' F F' : Prop → V → Prop} {Q Q' : α → Prop → V → Prop} {R : β → Prop → V → Prop}
  {attempt : ExceptT ε (Program Unit σ χ) α} {rest : α → ExceptT ε (Program Unit σ χ) β}

/-- The assertion after an action that may fail. -/
def after (Q : α → Prop → V → Prop) (F : Prop → V → Prop) : Except ε α → Prop → V → Prop
  | .ok result => Q result
  | .error _ => F

theorem Tries.act {action : χ → σ → Except ε α × σ}
    (h : ∀ answer state, X.keeps state state →
      X.Acts P (after Q F (action answer state).1) state (action answer state).2) :
    X.Tries P (.mk (Program.atomic action)) Q F := by
  refine Discipline.Triple.mono (Judges.act h) (fun _ => id) fun result _ hat => ?_
  cases result with
  | ok result => exact hat
  | error error => exact hat

theorem Tries.pure {result : α} (h : ∀ alive v, P alive v → Q result alive v) :
    X.Tries P (pure result : ExceptT ε (Program Unit σ χ) α) Q F :=
  Discipline.Triple.pure (at_stable (X := X) (P := Q result)) fun _ hat =>
    ⟨hat.1, fun alive halive => h alive _ (hat.2 alive halive)⟩

theorem Tries.throw {error : ε} (h : ∀ alive v, P alive v → F alive v) :
    X.Tries P (throw error : ExceptT ε (Program Unit σ χ) α) Q F :=
  Discipline.Triple.pure (at_stable (X := X) (P := F)) fun _ hat =>
    ⟨hat.1, fun alive halive => h alive _ (hat.2 alive halive)⟩

theorem Tries.bind (h : X.Tries P attempt Q F)
    (hrest : ∀ result, X.Tries (Q result) (rest result) R F) :
    X.Tries P (attempt >>= rest) R F :=
  Discipline.Attempt.bind h (fun _ => at_stable) hrest

theorem Tries.lift {program : Program Unit σ χ α} (h : X.Judges P program Q) :
    X.Tries P (ExceptT.lift program : ExceptT ε (Program Unit σ χ) α) Q F :=
  Discipline.Attempt.lift h fun _ => at_stable

theorem Tries.catch {handler : ε → ExceptT ε (Program Unit σ χ) α} (h : X.Tries P attempt Q F)
    (hhandler : ∀ error, X.Tries F (handler error) Q F') :
    X.Tries P (tryCatchThe ε attempt handler) Q F' :=
  Discipline.Attempt.catch h (fun _ => at_stable) hhandler

theorem Tries.releasing {release : Program Unit σ χ Unit} (h : X.Tries P attempt Q F)
    (hrelease : X.Judges F release fun _ => F') :
    X.Tries P (releasing release attempt) Q F' :=
  h.catch fun _ => .bind (.lift hrelease) fun _ => .throw fun _ _ => id

theorem Tries.mono (h : X.Tries P attempt Q F) (hpre : ∀ alive v, P' alive v → P alive v)
    (hok : ∀ result alive v, Q result alive v → Q' result alive v)
    (hfailed : ∀ alive v, F alive v → F' alive v) : X.Tries P' attempt Q' F' :=
  Discipline.Attempt.mono h
    (fun _ hat => ⟨hat.1, fun alive halive => hpre alive _ (hat.2 alive halive)⟩)
    (fun result _ hat => ⟨hat.1, fun alive halive => hok result alive _ (hat.2 alive halive)⟩)
    fun _ _ hat => ⟨hat.1, fun alive halive => hfailed alive _ (hat.2 alive halive)⟩

theorem Tries.given {fact : Prop} (h : fact → X.Tries P attempt Q F) :
    X.Tries (fun alive v => fact ∧ P alive v) attempt Q F :=
  fun state hat => h (hat.2 False False.elim).1 state
    ⟨hat.1, fun alive halive => (hat.2 alive halive).2⟩

/-- What the view has at the start may be fixed. -/
theorem Tries.fix {γ : Type} (part : V → γ)
    (h : ∀ value, X.Tries (fun alive v => part v = value ∧ P alive v) attempt Q F) :
    X.Tries P attempt Q F :=
  fun state hat => h (part (X.view state)) state
    ⟨hat.1, fun alive halive => ⟨rfl, hat.2 alive halive⟩⟩

/-- The outcome of an attempt, for a program that looks at it. -/
theorem Tries.run (h : X.Tries P attempt Q F) : X.Judges P attempt.run (after Q F) := by
  refine Discipline.Triple.mono h (fun _ => id) fun result _ hat => ?_
  cases result with
  | ok result => exact hat
  | error error => exact hat

end Attempts

end Exclusive

end ArtForgeStudio.Concurrency
