import Mathlib.Logic.Basic
import Mathlib.Data.List.Basic

/-! # Threads over a shared state

A program is a tree of atomic actions. Every action gets an answer from outside, reads and
writes the shared state, and other threads act between any two of them; its label says what it
does, for conditions on its answer. `Triple` is the judgement of rely and guarantee over such
programs, `Pool.Sound` what it gives for a pool of threads in an arbitrary order.
-/

namespace ArtForgeStudio.Concurrency

inductive Program (ℓ σ χ α : Type) where
  | ret (result : α)
  | act (label : ℓ) (update : χ → σ → σ) (next : χ → σ → Program ℓ σ χ α)

namespace Program

variable {ℓ σ χ α β : Type}

def bind : Program ℓ σ χ α → (α → Program ℓ σ χ β) → Program ℓ σ χ β
  | ret result, rest => rest result
  | act label update next, rest =>
    act label update fun answer state => (next answer state).bind rest

instance : Monad (Program ℓ σ χ) where
  pure := ret
  bind := bind

/-- One action with a result. -/
def labelled (label : ℓ) (action : χ → σ → α × σ) : Program ℓ σ χ α :=
  act label (fun answer state => (action answer state).2) fun answer state =>
    ret (action answer state).1

def atomic [Inhabited ℓ] (action : χ → σ → α × σ) : Program ℓ σ χ α := labelled default action

/-- An action that only reads. -/
def read [Inhabited ℓ] (view : χ → σ → α) : Program ℓ σ χ α :=
  atomic fun answer state => (view answer state, state)

/-- The next action of a program, if it has not returned. -/
def step (answer : χ) (state : σ) : Program ℓ σ χ α → Program ℓ σ χ α × σ
  | ret result => (ret result, state)
  | act _ update next => (next answer state, update answer state)

/-- What the next action does. -/
def label? : Program ℓ σ χ α → Option ℓ
  | ret _ => none
  | act label _ _ => some label

def finished : Program ℓ σ χ α → Bool
  | ret _ => true
  | act _ _ _ => false

/-- The program run alone on a list of answers. -/
def alone : List χ → σ → Program ℓ σ χ α → Program ℓ σ χ α × σ
  | [], state, program => (program, state)
  | answer :: answers, state, program =>
    let next := program.step answer state
    alone answers next.2 next.1

/-- The program returns after at most so many actions. -/
def Within : Nat → Program ℓ σ χ α → Prop
  | _, ret _ => True
  | 0, act _ _ _ => False
  | count + 1, act _ _ next => ∀ answer state, Within count (next answer state)

theorem within_ret (count : Nat) (result : α) : Within count (ret result : Program ℓ σ χ α) := by
  cases count <;> trivial

theorem within_atomic [Inhabited ℓ] (action : χ → σ → α × σ) :
    Within 1 (atomic action : Program ℓ σ χ α) :=
  fun _ _ => within_ret 0 _

theorem Within.mono {count more : Nat} {program : Program ℓ σ χ α} (h : Within count program)
    (hle : count ≤ more) : Within more program := by
  induction program generalizing count more with
  | ret result => exact within_ret more result
  | act label update next ih =>
    cases count with
    | zero => exact h.elim
    | succ count =>
      cases more with
      | zero => omega
      | succ more => exact fun answer state => ih answer state (h answer state) (by omega)

theorem Within.bind {count : Nat} {program : Program ℓ σ χ α} {rest : α → Program ℓ σ χ β}
    (more : Nat) (h : Within count program) (hrest : ∀ result, Within more (rest result)) :
    Within (count + more) (program >>= rest) := by
  induction program generalizing count with
  | ret result => exact (hrest result).mono (Nat.le_add_left more count)
  | act label update next ih =>
    cases count with
    | zero => exact h.elim
    | succ count =>
      rw [Nat.succ_add]
      exact fun answer state => ih answer state (h answer state)

end Program

/-- What threads of each kind rely on and guarantee, for the answers that matter to them. -/
structure Discipline (ℓ σ χ ι : Type) where
  admits : ι → ℓ → σ → χ → Prop
  rely : ι → σ → σ → Prop
  guarantee : ι → σ → σ → Prop
  apart : ι → ι → Prop
  rely_refl : ∀ own state, rely own state state
  rely_trans : ∀ own a b c, rely own a b → rely own b c → rely own a c
  guarantee_rely : ∀ own other a b, apart own other → guarantee own a b → rely other a b

namespace Discipline

variable {ℓ σ χ ι α β : Type} (D : Discipline ℓ σ χ ι)

/-- From this state, with others acting in between as relied on, every action keeps the
guarantee and the results meet the postcondition. -/
def Safe (own : ι) : Program ℓ σ χ α → (α → σ → Prop) → σ → Prop
  | .ret result, post, state => ∀ later, D.rely own state later → post result later
  | .act label update next, post, state => ∀ later, D.rely own state later → ∀ answer,
      D.admits own label later answer → D.guarantee own later (update answer later) ∧
        Safe own (next answer later) post (update answer later)

/-- An assertion that the other threads preserve. -/
def Stable (own : ι) (P : σ → Prop) : Prop :=
  ∀ state later, P state → D.rely own state later → P later

def Triple (own : ι) (P : σ → Prop) (program : Program ℓ σ χ α) (Q : α → σ → Prop) : Prop :=
  ∀ state, P state → D.Safe own program Q state

section Rules

variable {D} {own : ι} {P P' : σ → Prop} {Q Q' : α → σ → Prop} {R : β → σ → Prop}
  {program : Program ℓ σ χ α} {rest : α → Program ℓ σ χ β}

theorem Safe.rely {state later : σ} (h : D.Safe own program Q state)
    (hrely : D.rely own state later) : D.Safe own program Q later := by
  cases program with
  | ret result => exact fun next hnext => h next (D.rely_trans own _ _ _ hrely hnext)
  | act label update next => exact fun next hnext => h next (D.rely_trans own _ _ _ hrely hnext)

theorem Safe.mono {state : σ} (h : D.Safe own program Q state)
    (himp : ∀ result state, Q result state → Q' result state) : D.Safe own program Q' state := by
  induction program generalizing state with
  | ret result => exact fun later hrely => himp result later (h later hrely)
  | act label update next ih =>
    intro later hrely answer hadmits
    obtain ⟨hguarantee, hnext⟩ := h later hrely answer hadmits
    exact ⟨hguarantee, ih answer later hnext⟩

theorem Safe.bind {state : σ}
    (h : D.Safe own program (fun result => D.Safe own (rest result) R) state) :
    D.Safe own (program >>= rest) R state := by
  induction program generalizing state with
  | ret result => exact h state (D.rely_refl own state)
  | act label update next ih =>
    intro later hrely answer hadmits
    obtain ⟨hguarantee, hnext⟩ := h later hrely answer hadmits
    exact ⟨hguarantee, ih answer later hnext⟩

theorem Triple.bind (h : D.Triple own P program Q)
    (hrest : ∀ result, D.Triple own (Q result) (rest result) R) :
    D.Triple own P (program >>= rest) R :=
  fun state hstate => Safe.bind ((h state hstate).mono fun result later => hrest result later)

theorem Triple.mono (h : D.Triple own P program Q) (hpre : ∀ state, P' state → P state)
    (hpost : ∀ result state, Q result state → Q' result state) : D.Triple own P' program Q' :=
  fun state hstate => (h state (hpre state hstate)).mono hpost

theorem Triple.pure {result : α} (hstable : D.Stable own (Q result))
    (h : ∀ state, P state → Q result state) :
    D.Triple own P (Pure.pure result : Program ℓ σ χ α) Q :=
  fun state hstate later hrely => hstable state later (h state hstate) hrely

theorem Triple.labelled {label : ℓ} {action : χ → σ → α × σ} (hpre : D.Stable own P)
    (hpost : ∀ result, D.Stable own (Q result))
    (h : ∀ answer state, P state → D.admits own label state answer →
      D.guarantee own state (action answer state).2 ∧
        Q (action answer state).1 (action answer state).2) :
    D.Triple own P (Program.labelled label action) Q := by
  intro state hstate later hrely answer hadmits
  obtain ⟨hguarantee, hafter⟩ := h answer later (hpre state later hstate hrely) hadmits
  exact ⟨hguarantee, fun last hlast => hpost _ _ last hafter hlast⟩

theorem Triple.atomic [Inhabited ℓ] {action : χ → σ → α × σ} (hpre : D.Stable own P)
    (hpost : ∀ result, D.Stable own (Q result))
    (h : ∀ answer state, P state → D.admits own default state answer →
      D.guarantee own state (action answer state).2 ∧
        Q (action answer state).1 (action answer state).2) :
    D.Triple own P (Program.atomic action) Q := .labelled hpre hpost h

theorem Triple.ite {c : Prop} [Decidable c] {other : Program ℓ σ χ α}
    (hpos : c → D.Triple own P program Q) (hneg : ¬c → D.Triple own P other Q) :
    D.Triple own P (if c then program else other) Q := by
  split
  · exact hpos ‹_›
  · exact hneg ‹_›

/-- A fact about constants may be taken out of the precondition. -/
theorem Triple.of_and {fact : Prop} (h : fact → D.Triple own P program Q) :
    D.Triple own (fun state => fact ∧ P state) program Q :=
  fun state hstate => h hstate.1 state hstate.2

/-- What neither the thread nor the others touch is there at the end. -/
theorem Safe.frame {state : σ} (hrely : D.Stable own P)
    (hguarantee : ∀ state later, P state → D.guarantee own state later → P later)
    (h : D.Safe own program Q state) (hstate : P state) :
    D.Safe own program (fun result state => Q result state ∧ P state) state := by
  induction program generalizing state with
  | ret result => exact fun later hlater => ⟨h later hlater, hrely state later hstate hlater⟩
  | act label update next ih =>
    intro later hlater answer hadmits
    obtain ⟨hstep, hnext⟩ := h later hlater answer hadmits
    exact ⟨hstep, ih answer later hnext
      (hguarantee later _ (hrely state later hstate hlater) hstep)⟩

theorem Triple.frame (hrely : D.Stable own P')
    (hguarantee : ∀ state later, P' state → D.guarantee own state later → P' later)
    (h : D.Triple own P program Q) :
    D.Triple own (fun state => P state ∧ P' state) program
      fun result state => Q result state ∧ P' state :=
  fun state hstate => (h state hstate.1).frame hrely hguarantee hstate.2

/-- A thread that runs alone keeps what its guarantee keeps, and its result is as promised. -/
theorem Safe.alone {state : σ} {answers : List χ} (h : D.Safe own program Q state)
    (hguarantee : ∀ state later, P state → D.guarantee own state later → P later)
    (hadmits : ∀ answer ∈ answers, ∀ label state, D.admits own label state answer) (hstate : P state) :
    P (Program.alone answers state program).2 ∧
      ∀ result, (Program.alone answers state program).1 = .ret result →
        Q result (Program.alone answers state program).2 := by
  induction answers generalizing state program with
  | nil =>
    refine ⟨hstate, ?_⟩
    rintro result rfl
    exact h state (D.rely_refl own state)
  | cons answer answers ih =>
    obtain ⟨hanswer, hadmits⟩ := List.forall_mem_cons.mp hadmits
    cases program with
    | ret result => exact ih h hadmits hstate
    | act label update next =>
      obtain ⟨hstep, hnext⟩ := h state (D.rely_refl own state) answer (hanswer label state)
      exact ih hnext hadmits (hguarantee _ _ hstate hstep)

end Rules

end Discipline

/-- Threads with what they own; a finished thread stays in the pool. -/
abbrev Pool (ℓ σ χ ι : Type) := List (ι × Program ℓ σ χ Unit)

namespace Pool

variable {ℓ σ χ ι : Type} (D : Discipline ℓ σ χ ι) (Q : ι → σ → Prop)

/-- Every thread of the pool is safe, and no two interfere beyond what they rely on. -/
structure Sound (pool : Pool ℓ σ χ ι) (state : σ) : Prop where
  apart : pool.Pairwise fun a b => D.apart a.1 b.1 ∧ D.apart b.1 a.1
  safe : ∀ thread ∈ pool, D.Safe thread.1 thread.2 (fun _ => Q thread.1) state

variable {D Q} {pool : Pool ℓ σ χ ι} {state later : σ} {own : ι} {program : Program ℓ σ χ Unit}

theorem Sound.nil : Sound D Q ([] : Pool ℓ σ χ ι) state := ⟨.nil, List.forall_mem_nil _⟩

/-- Others may act as every thread relies on. -/
theorem Sound.rely (h : Sound D Q pool state)
    (hrely : ∀ thread ∈ pool, D.rely thread.1 state later) : Sound D Q pool later :=
  ⟨h.apart, fun thread hmem => (h.safe thread hmem).rely (hrely thread hmem)⟩

theorem Sound.spawn (h : Sound D Q pool state)
    (hsafe : D.Safe own program (fun _ => Q own) state)
    (hapart : ∀ thread ∈ pool, D.apart own thread.1 ∧ D.apart thread.1 own) :
    Sound D Q ((own, program) :: pool) state :=
  ⟨.cons hapart h.apart, List.forall_mem_cons.mpr ⟨hsafe, h.safe⟩⟩

theorem Sound.finished (h : Sound D Q pool state)
    (hmem : (own, Program.ret ()) ∈ pool) : Q own state :=
  h.safe _ hmem state (D.rely_refl own state)

/-- A thread may leave the pool. -/
theorem Sound.sublist {rest : Pool ℓ σ χ ι} (h : Sound D Q pool state) (hsub : rest.Sublist pool) :
    Sound D Q rest state :=
  ⟨h.apart.sublist hsub, fun thread hmem => h.safe thread (hsub.subset hmem)⟩

/-- A thread goes on with another program, in a state that the others rely on. -/
theorem Sound.set (h : Sound D Q pool state) {index : Nat} {next : Program ℓ σ χ Unit}
    (hget : pool[index]? = some (own, program)) (hnext : D.Safe own next (fun _ => Q own) later)
    (hrely : ∀ other, D.apart own other → D.rely other state later) :
    Sound D Q (pool.set index (own, next)) later := by
  obtain ⟨hlt, hat⟩ := List.getElem?_eq_some_iff.mp hget
  refine ⟨?_, ?_⟩
  · rw [List.pairwise_iff_getElem]
    intro i j hi hj hij
    have hpair := List.pairwise_iff_getElem.mp h.apart i j (by simpa using hi) (by simpa using hj) hij
    rw [List.getElem_set, List.getElem_set]
    split <;> split
    · omega
    · rename_i hindex _
      subst hindex
      simpa [hat] using hpair
    · rename_i _ hindex
      subst hindex
      simpa [hat] using hpair
    · exact hpair
  · intro thread hthread
    obtain ⟨i, hi, rfl⟩ := List.getElem_of_mem hthread
    rw [List.getElem_set]
    split
    · exact hnext
    · rename_i hne
      have hi' : i < pool.length := by simpa using hi
      refine (h.safe _ (List.getElem_mem hi')).rely (hrely _ ?_)
      have hpairs := List.pairwise_iff_getElem.mp h.apart
      obtain hij | hij := Nat.lt_or_gt_of_ne hne
      · simpa [hat] using (hpairs index i hlt hi' hij).1
      · simpa [hat] using (hpairs i index hi' hlt hij).2

/-- The next action of one thread keeps its guarantee and the safety of all. -/
theorem Sound.step (h : Sound D Q pool state) {index : Nat} {answer : χ}
    (hget : pool[index]? = some (own, program))
    (hadmits : ∀ label, program.label? = some label → D.admits own label state answer)
    (hidle : ∀ state, D.guarantee own state state) :
    D.guarantee own state (program.step answer state).2 ∧
    Sound D Q (pool.set index (own, (program.step answer state).1))
      (program.step answer state).2 := by
  have hthread := h.safe _ (List.mem_of_getElem? hget)
  have hnext : D.guarantee own state (program.step answer state).2 ∧
      D.Safe own (program.step answer state).1 (fun _ => Q own) (program.step answer state).2 := by
    cases program with
    | ret result => exact ⟨hidle state, hthread⟩
    | act label update next => exact hthread state (D.rely_refl own state) answer (hadmits label rfl)
  exact ⟨hnext.1, h.set hget hnext.2 fun other hapart => D.guarantee_rely own other _ _ hapart hnext.1⟩

end Pool

end ArtForgeStudio.Concurrency
