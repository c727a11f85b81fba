import ArtForgeStudio.Library.Concurrency

/-! # Programs that may fail

A program may end with an error, and releases what it holds when it does.
-/

namespace ArtForgeStudio.Concurrency

variable {ℓ σ χ α β ε : Type}

namespace Discipline

variable {ι : Type} (D : Discipline ℓ σ χ ι)

/-- The assertion about the outcome of a program that may fail. -/
def Outcome (ok : α → σ → Prop) (failed : ε → σ → Prop) : Except ε α → σ → Prop
  | .ok result => ok result
  | .error error => failed error

def Attempt (own : ι) (P : σ → Prop) (attempt : ExceptT ε (Program ℓ σ χ) α) (ok : α → σ → Prop)
    (failed : ε → σ → Prop) : Prop :=
  D.Triple own P attempt.run (Outcome ok failed)

variable {D} {own : ι} {P P' : σ → Prop} {Q Q' : α → σ → Prop} {R : β → σ → Prop}
  {F F' : ε → σ → Prop} {attempt other : ExceptT ε (Program ℓ σ χ) α}
  {rest : α → ExceptT ε (Program ℓ σ χ) β}

/-- The operator `?`: an error ends the program. -/
theorem Attempt.bind (h : D.Attempt own P attempt Q F) (hfailed : ∀ error, D.Stable own (F error))
    (hrest : ∀ result, D.Attempt own (Q result) (rest result) R F) :
    D.Attempt own P (attempt >>= rest) R F := by
  refine Triple.bind h fun result => ?_
  cases result with
  | error error => exact .pure (hfailed error) fun _ => id
  | ok result => exact hrest result

theorem Attempt.catch {handler : ε → ExceptT ε (Program ℓ σ χ) α} (h : D.Attempt own P attempt Q F)
    (hok : ∀ result, D.Stable own (Q result))
    (hhandler : ∀ error, D.Attempt own (F error) (handler error) Q F') :
    D.Attempt own P (tryCatchThe ε attempt handler) Q F' := by
  refine Triple.bind h fun result => ?_
  cases result with
  | error error => exact hhandler error
  | ok result => exact .pure (hok result) fun _ => id

theorem Attempt.lift {program : Program ℓ σ χ α} (h : D.Triple own P program Q)
    (hok : ∀ result, D.Stable own (Q result)) :
    D.Attempt own P (ExceptT.lift program) Q F := by
  refine Triple.bind h fun result => ?_
  exact .pure (hok result) fun _ => id

theorem Attempt.pure {result : α} (hok : D.Stable own (Q result)) (h : ∀ state, P state → Q result state) :
    D.Attempt own P (Pure.pure result) Q F :=
  Triple.pure (Q := Outcome Q F) hok h

theorem Attempt.throw {error : ε} (hfailed : D.Stable own (F error))
    (h : ∀ state, P state → F error state) :
    D.Attempt own P (MonadExcept.throw error) Q F :=
  Triple.pure (Q := Outcome Q F) hfailed h

theorem Attempt.atomic [Inhabited ℓ] {action : χ → σ → Except ε α × σ} (hpre : D.Stable own P)
    (hok : ∀ result, D.Stable own (Q result)) (hfailed : ∀ error, D.Stable own (F error))
    (h : ∀ answer state, P state → D.admits own default state answer →
      D.guarantee own state (action answer state).2 ∧
        Outcome Q F (action answer state).1 (action answer state).2) :
    D.Attempt own P (.mk (Program.atomic action)) Q F := by
  refine Triple.atomic hpre (fun result => ?_) h
  cases result with
  | error error => exact hfailed error
  | ok result => exact hok result

theorem Attempt.mono (h : D.Attempt own P attempt Q F) (hpre : ∀ state, P' state → P state)
    (hok : ∀ result state, Q result state → Q' result state)
    (hfailed : ∀ error state, F error state → F' error state) :
    D.Attempt own P' attempt Q' F' := by
  refine Triple.mono h hpre fun result => ?_
  cases result with
  | error error => exact hfailed error
  | ok result => exact hok result

end Discipline

/-- What a program holds is released when it fails. -/
def releasing (release : Program ℓ σ χ Unit) (attempt : ExceptT ε (Program ℓ σ χ) α) :
    ExceptT ε (Program ℓ σ χ) α :=
  tryCatchThe ε attempt fun error => do
    ExceptT.lift release
    throw error

end ArtForgeStudio.Concurrency
