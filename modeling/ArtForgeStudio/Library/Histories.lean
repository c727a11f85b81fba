import ArtForgeStudio.Library.Attempts
import Mathlib.Data.List.Basic

/-! # Programs that leave a history

A program asks the outside by calls, and the outside may answer anything. Every call with its
reply is an event of the history. `Does` judges what a program leaves in the history and which
of its calls were allowed there, `Looks` a program whose calls change nothing outside.
-/

namespace ArtForgeStudio.Histories

open ArtForgeStudio.Concurrency

variable {C : Type} {V : C → Type} {E S χ α β : Type}

structure Event (V : C → Type) (E : Type) where
  call : C
  reply : Except E (V call)

/-- The history, oldest first, and what the program keeps beside it. -/
structure State (V : C → Type) (E S : Type) where
  events : List (Event V E)
  own : S

def State.add (state : State V E S) (event : Event V E) : State V E S :=
  { state with events := state.events ++ [event] }

/-- A call; its reply may depend on how many calls there were. -/
def perform (respond : χ → Nat → (call : C) → Except E (V call)) (call : C) :
    ExceptT E (Program Unit (State V E S) χ) (V call) :=
  .mk (.atomic fun answer state =>
    let reply := respond answer state.events.length call
    (reply, state.add ⟨call, reply⟩))

def modifyOwn (update : S → S) : Program Unit (State V E S) χ Unit :=
  .atomic fun _ state => ((), { state with own := update state.own })

/-- Which calls change nothing, and when a call may be made. -/
structure Rules (V : C → Type) (E : Type) where
  looks : C → Bool
  allows : List (Event V E) → C → Prop
  allows_looks : ∀ events call, looks call = true → allows events call

namespace Rules

variable (R : Rules V E)

def Step (before after : State V E S) : Prop :=
  after.events = before.events ∨
    ∃ event, after.events = before.events ++ [event] ∧ R.allows before.events event.call

/-- Every call was allowed when it was made. -/
def Lawful (events : List (Event V E)) : Prop :=
  ∀ before event after, events = before ++ event :: after → R.allows before event.call

/-- The history belongs to the program alone. -/
def discipline : Discipline Unit (State V E S) χ Unit where
  admits _ _ _ _ := True
  rely _ before after := before = after
  guarantee _ := R.Step
  apart _ _ := False
  rely_refl _ _ := rfl
  rely_trans _ _ _ _ := Eq.trans
  guarantee_rely _ _ _ _ hapart _ := hapart.elim

theorem lawful_nil : R.Lawful [] := fun before event after h => by simp at h

theorem Lawful.add {R : Rules V E} {events : List (Event V E)} (h : R.Lawful events)
    {event : Event V E} (hallows : R.allows events event.call) : R.Lawful (events ++ [event]) := by
  intro before other after heq
  obtain hnil | ⟨after, last, rfl⟩ := List.eq_nil_or_concat after
  · subst hnil
    obtain ⟨rfl, heq⟩ := List.append_inj' heq rfl
    obtain rfl : event = other := by simpa using heq
    exact hallows
  · rw [List.concat_eq_append, ← List.cons_append, ← List.append_assoc] at heq
    exact h before other after (List.append_inj' heq rfl).1

theorem Lawful.step {R : Rules V E} {before after : State V E S} (h : R.Lawful before.events)
    (hstep : R.Step before after) : R.Lawful after.events := by
  obtain hsame | ⟨event, hevents, hallows⟩ := hstep
  · rwa [hsame]
  · rw [hevents]
    exact h.add hallows

end Rules

def Does (R : Rules V E) (P : State V E S → Prop) (program : ExceptT E (Program Unit (State V E S) χ) α)
    (Q : α → State V E S → Prop) (F : State V E S → Prop) : Prop :=
  (R.discipline).Attempt () P program Q fun _ => F

section Does

variable {R : Rules V E} {P P' F F' : State V E S → Prop} {Q Q' : α → State V E S → Prop}
  {B : β → State V E S → Prop} {program : ExceptT E (Program Unit (State V E S) χ) α}
  {rest : α → ExceptT E (Program Unit (State V E S) χ) β}
  {respond : χ → Nat → (call : C) → Except E (V call)} {call : C}

theorem stable (P : State V E S → Prop) : (R.discipline (χ := χ)).Stable () P := by
  rintro state later hP rfl
  exact hP

theorem Does.perform {Q : V call → State V E S → Prop}
    (hallows : ∀ state, P state → R.allows state.events call)
    (hok : ∀ state answer value, respond answer state.events.length call = .ok value → P state →
      Q value (state.add ⟨call, .ok value⟩))
    (hfailed : ∀ state error, P state → F (state.add ⟨call, .error error⟩)) :
    Does R P (perform respond call) Q F := by
  refine .atomic (stable P) (fun _ => stable _) (fun _ => stable F) fun answer state hP _ => ?_
  refine ⟨.inr ⟨_, rfl, hallows state hP⟩, ?_⟩
  cases hreply : respond answer state.events.length call with
  | ok value => exact hok state answer value hreply hP
  | error error => exact hfailed state error hP

theorem Does.modifyOwn {update : S → S} {Q : State V E S → Prop}
    (h : ∀ state, P state → Q { state with own := update state.own }) :
    Does R P (ExceptT.lift (modifyOwn update) : ExceptT E (Program Unit (State V E S) χ) Unit)
      (fun _ => Q) F :=
  .lift (.atomic (stable P) (fun _ => stable _) fun _ state hP _ => ⟨.inl rfl, h state hP⟩)
    fun _ => stable _

theorem Does.pure {result : α} (h : ∀ state, P state → Q result state) :
    Does R P (Pure.pure result : ExceptT E (Program Unit (State V E S) χ) α) Q F :=
  Discipline.Attempt.pure (stable _) h

theorem Does.throw {error : E} (h : ∀ state, P state → F state) :
    Does R P (MonadExcept.throw error : ExceptT E (Program Unit (State V E S) χ) α) Q F :=
  Discipline.Attempt.throw (stable F) h

theorem Does.bind (h : Does R P program Q F) (hrest : ∀ result, Does R (Q result) (rest result) B F) :
    Does R P (program >>= rest) B F :=
  Discipline.Attempt.bind h (fun _ => stable F) hrest

theorem Does.mono (h : Does R P program Q F) (hpre : ∀ state, P' state → P state)
    (hok : ∀ result state, Q result state → Q' result state)
    (hfailed : ∀ state, F state → F' state) : Does R P' program Q' F' :=
  Discipline.Attempt.mono h hpre hok fun _ => hfailed

theorem Does.catch {handler : E → ExceptT E (Program Unit (State V E S) χ) α} (h : Does R P program Q F)
    (hhandler : ∀ error, Does R F (handler error) Q F') :
    Does R P (tryCatchThe E program handler) Q F' :=
  Discipline.Attempt.catch h (fun _ => stable _) hhandler

/-- The outcome is looked at, not passed on. -/
theorem Does.run (h : Does R P program Q F) :
    Does R P (ExceptT.lift program.run : ExceptT E (Program Unit (State V E S) χ) (Except E α))
      (fun result state => match result with
        | .ok result => Q result state
        | .error _ => F state) F' := by
  refine .lift (Discipline.Triple.mono h (fun _ => id) ?_) fun _ => stable _
  rintro (error | result) state hstate <;> exact hstate

/-- Evidence is kept by any program. -/
theorem Does.keep {A : List (Event V E) → Prop} (h : Does R P program Q F)
    (hA : ∀ events event, A events → A (events ++ [event])) :
    Does R (fun state => P state ∧ A state.events) program
      (fun result state => Q result state ∧ A state.events) fun state => F state ∧ A state.events := by
  refine Discipline.Triple.mono (Discipline.Triple.frame (stable _) ?_ h) (fun _ => id) ?_
  · rintro state later hevents (hsame | ⟨event, hadd, -⟩)
    · rwa [hsame]
    · rw [hadd]
      exact hA _ _ hevents
  · rintro (error | result) state hstate <;> exact hstate

theorem Does.exists {γ : Type} {P : γ → State V E S → Prop}
    (h : ∀ value, Does R (P value) program Q F) :
    Does R (fun state => ∃ value, P value state) program Q F :=
  fun state hP => h hP.choose state hP.choose_spec

/-- What the state has at the start may be fixed. -/
theorem Does.fix {γ : Type} (part : State V E S → γ)
    (h : ∀ value, Does R (fun state => part state = value ∧ P state) program Q F) :
    Does R P program Q F :=
  fun state hP => h (part state) state ⟨rfl, hP⟩

theorem Does.given {fact : Prop} (h : fact → Does R P program Q F) :
    Does R (fun state => fact ∧ P state) program Q F :=
  fun state hP => h hP.1 state hP.2

/-- What becomes of a run on a list of answers, whether or not it has come to its end. -/
theorem Does.alone (h : Does R P program Q F) (answers : List χ) {state : State V E S} (hP : P state)
    (hlawful : R.Lawful state.events) :
    let run := Program.alone answers state program.run
    R.Lawful run.2.events ∧ ∀ result, run.1 = .ret result → match result with
      | .ok result => Q result run.2
      | .error _ => F run.2 := by
  obtain ⟨hlawful, hresult⟩ := (h state hP).alone (P := fun state => R.Lawful state.events)
    (fun _ _ hlawful hstep => hlawful.step hstep) (fun answer (_ : answer ∈ answers) _ _ => trivial)
    hlawful
  refine ⟨hlawful, fun result hret => ?_⟩
  have houtcome := hresult result hret
  cases result <;> exact houtcome

end Does

/-- Evidence that is not lost when the history grows. -/
def Grows (seen : List (Event V E) → Prop) : Prop :=
  ∀ events later, events.Sublist later → seen events → seen later

theorem grows_mem (event : Event V E) : Grows fun events => event ∈ events :=
  fun _ _ hsub hmem => hsub.subset hmem

theorem Grows.and {seen other : List (Event V E) → Prop} (h : Grows seen) (h' : Grows other) :
    Grows fun events => seen events ∧ other events :=
  fun events later hsub hseen => ⟨h events later hsub hseen.1, h' events later hsub hseen.2⟩

theorem Grows.exists {γ : Type} {seen : γ → List (Event V E) → Prop} (h : ∀ value, Grows (seen value)) :
    Grows fun events => ∃ value, seen value events :=
  fun events later hsub ⟨value, hseen⟩ => ⟨value, h value events later hsub hseen⟩

theorem Grows.const (fact : Prop) : Grows fun _ : List (Event V E) => fact := fun _ _ _ => id

theorem Grows.add {seen : List (Event V E) → Prop} (h : Grows seen) (events : List (Event V E))
    (event : Event V E) (hseen : seen events) : seen (events ++ [event]) :=
  h _ _ (List.sublist_append_left _ _) hseen

section Looks

variable (R : Rules V E)

/-- An assertion that is kept by calls that change nothing. -/
def Kept (P : State V E S → Prop) : Prop :=
  ∀ state event, R.looks event.call = true → P state → P (state.add event)

/-- Since a point in the history only such calls were made, and they show something. -/
def Pass (base : List (Event V E)) (A : List (Event V E) → Prop) (events : List (Event V E)) : Prop :=
  ∃ rest, events = base ++ rest ∧ (∀ event ∈ rest, R.looks event.call = true) ∧ A rest

/-- Only such calls, and evidence for the result among what they added. -/
def Looks (program : ExceptT E (Program Unit (State V E S) χ) α) (seen : α → List (Event V E) → Prop) :
    Prop :=
  ∀ P n, Kept R P → (∀ state, P state → n ≤ state.events.length) →
    Does R P program (fun result state => P state ∧ seen result (state.events.drop n)) P

variable {R} {P Q F : State V E S → Prop} {program : ExceptT E (Program Unit (State V E S) χ) α}
  {rest : α → ExceptT E (Program Unit (State V E S) χ) β} {seen other : α → List (Event V E) → Prop}
  {found : α → β → List (Event V E) → Prop} {n : Nat}

theorem Kept.and (h : Kept R P) (h' : Kept R Q) : Kept R fun state => P state ∧ Q state :=
  fun state event hlooks hstate =>
    ⟨h state event hlooks hstate.1, h' state event hlooks hstate.2⟩

theorem Grows.kept {seen : List (Event V E) → Prop} (h : Grows seen) (n : Nat) :
    Kept R fun state : State V E S => seen (state.events.drop n) := by
  intro state event _ hseen
  refine h _ _ ?_ hseen
  show (state.events.drop n).Sublist ((state.events ++ [event]).drop n)
  rw [List.drop_append]
  exact List.sublist_append_left _ _

/-- What a prefix of the history shows. -/
theorem kept_early {A : List (Event V E) → Prop} (k : Nat) :
    Kept R fun state : State V E S => k ≤ state.events.length ∧ A (state.events.take k) := by
  rintro state event _ ⟨hle, hA⟩
  refine ⟨Nat.le_trans hle (by simp [State.add]), ?_⟩
  show A ((state.events ++ [event]).take k)
  rwa [List.take_append_of_le_length hle]

theorem Grows.kept_pass {A : List (Event V E) → Prop} (h : Grows A) (base : List (Event V E)) :
    Kept R fun state : State V E S => Pass R base A state.events := by
  rintro state event hlooks ⟨rest, hevents, hrest, hA⟩
  refine ⟨rest ++ [event], ?_, ?_, h.add _ _ hA⟩
  · show state.events ++ [event] = _
    rw [hevents, List.append_assoc]
  · exact List.forall_mem_append.mpr ⟨hrest, List.forall_mem_singleton.mpr hlooks⟩

theorem pass_start (base : List (Event V E)) : Pass R base (fun _ => True) base :=
  ⟨[], (List.append_nil base).symm, List.forall_mem_nil _, trivial⟩

/-- The program as a step of a longer one. -/
theorem Looks.does (h : Looks R program seen) (hP : Kept R P) (hF : ∀ state, P state → F state) :
    Does R P program (fun result state => P state ∧ seen result state.events) F :=
  (h P 0 hP fun _ _ => Nat.zero_le _).mono (fun _ => id) (fun _ _ => id) hF

/-- A check in the middle of a longer program. -/
theorem Looks.check (h : Looks R program seen) (hP : Kept R P) (hF : ∀ state, P state → F state) :
    Does R P program (fun _ => P) F :=
  (h.does hP hF).mono (fun _ => id) (fun _ _ hstate => hstate.1) fun _ => id

/-- The evidence is newer than the point in the history. -/
theorem Looks.pass {A : List (Event V E) → Prop} (h : Looks R program seen) (hP : Kept R P)
    (hA : Grows A) (hF : ∀ state, P state → F state) (base : List (Event V E)) :
    Does R (fun state => P state ∧ Pass R base A state.events) program
      (fun result state => P state ∧ Pass R base (fun rest => A rest ∧ seen result rest) state.events)
      F := by
  refine (h _ base.length (hP.and (hA.kept_pass base)) ?_).mono (fun _ => id) ?_ fun state hstate =>
    hF state hstate.1
  · rintro state ⟨-, rest, hevents, -, -⟩
    rw [hevents, List.length_append]
    exact Nat.le_add_right _ _
  · rintro result state ⟨⟨hP, rest, hevents, hrest, hA⟩, hseen⟩
    rw [hevents, List.drop_left] at hseen
    exact ⟨hP, rest, hevents, hrest, hA, hseen⟩

theorem Looks.perform {respond : χ → Nat → (call : C) → Except E (V call)} {call : C}
    (hlooks : R.looks call = true) :
    Looks (S := S) R (perform respond call) fun value events => ⟨call, .ok value⟩ ∈ events := by
  intro P n hkept hn
  refine .perform (fun _ _ => R.allows_looks _ _ hlooks) (fun state answer value _ hP =>
    ⟨hkept state _ hlooks hP, ?_⟩) fun state _ hP => hkept state _ hlooks hP
  show _ ∈ (state.events ++ [_]).drop n
  rw [List.drop_append_of_le_length (hn state hP)]
  exact List.mem_append_right _ List.mem_cons_self

/-- A call whose error is looked at as well. -/
theorem Looks.reply {respond : χ → Nat → (call : C) → Except E (V call)} {call : C}
    (hlooks : R.looks call = true) :
    Looks (S := S) R (ExceptT.lift (Histories.perform respond call).run) fun reply events =>
      ⟨call, reply⟩ ∈ events := by
  intro P n hkept hn
  have hadd (state : State V E S) (reply : Except E (V call)) (hP : P state) :
      ⟨call, reply⟩ ∈ (state.add ⟨call, reply⟩).events.drop n := by
    show _ ∈ (state.events ++ [_]).drop n
    rw [List.drop_append_of_le_length (hn state hP)]
    exact List.mem_append_right _ List.mem_cons_self
  refine .lift (.atomic (stable P) (fun _ => stable _) fun answer state hP _ =>
    ⟨.inr ⟨_, rfl, R.allows_looks _ _ hlooks⟩, hkept state _ hlooks hP, hadd state _ hP⟩)
    fun _ => stable _

theorem Looks.pure {result : α} (h : ∀ events, seen result events) :
    Looks R (Pure.pure result : ExceptT E (Program Unit (State V E S) χ) α) seen :=
  fun _ _ _ _ => .pure fun _ hP => ⟨hP, h _⟩

theorem Looks.throw {error : E} :
    Looks R (MonadExcept.throw error : ExceptT E (Program Unit (State V E S) χ) α) seen :=
  fun _ _ _ _ => .throw fun _ => id

theorem Looks.mono (h : Looks R program seen)
    (himp : ∀ result events, seen result events → other result events) : Looks R program other :=
  fun P n hkept hn => (h P n hkept hn).mono (fun _ => id)
    (fun result _ hstate => ⟨hstate.1, himp result _ hstate.2⟩) fun _ => id

/-- The evidence of the second program is newer than that of the first. -/
theorem Looks.seq (h : Looks R program seen) (hrest : ∀ result, Looks R (rest result) (found result)) :
    Looks R (program >>= rest) fun last events => ∃ result early late, events = early ++ late ∧
      seen result early ∧ found result last late := by
  intro P n hkept hn
  refine (h P n hkept hn).bind fun result => .fix (fun state => state.events.length) fun k => ?_
  have hprefix := (hrest result _ k (hkept.and (kept_early (A := fun events =>
    n ≤ k ∧ seen result (events.drop n)) k)) fun state hstate => hstate.2.1)
  refine hprefix.mono ?_ ?_ fun _ hstate => hstate.1
  · rintro state ⟨rfl, hP, hseen⟩
    exact ⟨hP, Nat.le_refl _, hn state hP, by rwa [List.take_length]⟩
  · rintro last state ⟨⟨hP, hle, hnk, hseen⟩, hfound⟩
    refine ⟨hP, result, _, _, ?_, hseen, hfound⟩
    have hlength : n ≤ (state.events.take k).length := by
      rw [List.length_take]
      exact Nat.le_min.mpr ⟨hnk, Nat.le_trans hnk hle⟩
    rw [← List.drop_append_of_le_length hlength, List.take_append_drop]

theorem Looks.bind (h : Looks R program seen) (hgrows : ∀ result, Grows (seen result))
    (hrest : ∀ result, Looks R (rest result) (found result)) :
    Looks R (program >>= rest) fun last events => ∃ result, seen result events ∧
      found result last events := by
  intro P n hkept hn
  refine (h P n hkept hn).bind fun result => ?_
  refine (hrest result _ n (hkept.and ((hgrows result).kept n)) fun _ hstate =>
    hn _ hstate.1).mono (fun _ => id) ?_ fun _ hstate => hstate.1
  exact fun last state hstate => ⟨hstate.1.1, result, hstate.1.2, hstate.2⟩

theorem Looks.catch {handler : E → ExceptT E (Program Unit (State V E S) χ) α}
    (h : Looks R program seen) (hhandler : ∀ error, Looks R (handler error) seen) :
    Looks R (tryCatchThe E program handler) seen :=
  fun P n hkept hn => (h P n hkept hn).catch fun error => hhandler error P n hkept hn

theorem Looks.run (h : Looks R program seen) :
    Looks R (ExceptT.lift program.run : ExceptT E (Program Unit (State V E S) χ) (Except E α))
      fun result events => ∀ value, result = .ok value → seen value events := by
  intro P n hkept hn
  refine (h P n hkept hn).run.mono (fun _ => id) ?_ fun _ => id
  rintro (error | result) state hstate
  · exact ⟨hstate, fun value heq => by cases heq⟩
  · exact ⟨hstate.1, fun value heq => by cases heq; exact hstate.2⟩

/-- A loop over a list, with evidence for each of its members. -/
theorem Looks.forM {γ : Type} {action : γ → ExceptT E (Program Unit (State V E S) χ) PUnit}
    {seen : γ → List (Event V E) → Prop} (hgrows : ∀ value, Grows (seen value)) (values : List γ)
    (h : ∀ value ∈ values, Looks R (action value) fun _ => seen value) :
    Looks R (values.forM action) fun _ events => ∀ value ∈ values, seen value events := by
  induction values with
  | nil => exact .pure fun _ => List.forall_mem_nil _
  | cons value values ih =>
    obtain ⟨hvalue, hvalues⟩ := List.forall_mem_cons.mp h
    refine (hvalue.bind (fun _ => hgrows value) fun _ => ih hvalues).mono ?_
    rintro _ events ⟨-, hseen, hrest⟩
    exact List.forall_mem_cons.mpr ⟨hseen, hrest⟩

end Looks

end ArtForgeStudio.Histories
