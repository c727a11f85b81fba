import ArtForgeStudio.Library.Concurrency

/-! # Threads that own a part of the state

Every owner has a part of the state that no other owner changes. The assertions of a thread
speak of its own part alone, so the others keep them: a thread is verified as if it ran
alone, in a part that is good whenever it looks.
-/

namespace ArtForgeStudio.Concurrency

/-- The parts, which of them are good, and how one may change over time. -/
structure Parts (σ χ ι V : Type) where
  admits : χ → Prop
  part : ι → σ → V
  good : ι → V → Prop
  moves : ι → V → V → Prop
  moves_refl : ∀ own v, moves own v v
  moves_trans : ∀ own u v w, moves own u v → moves own v w → moves own u w

namespace Parts

variable {σ χ ι V α β ε : Type} (T : Parts σ χ ι V)

/-- What an action of an owner does to the parts. -/
structure Touches (own : ι) (before after : σ) : Prop where
  others : ∀ other, other ≠ own → T.part other after = T.part other before
  own : T.good own (T.part own before) →
    T.good own (T.part own after) ∧ T.moves own (T.part own before) (T.part own after)

def discipline : Discipline Unit σ χ ι where
  admits _ _ _ := T.admits
  rely own before after := T.part own after = T.part own before
  guarantee := T.Touches
  apart own other := own ≠ other
  rely_refl _ _ := rfl
  rely_trans _ _ _ _ h h' := h'.trans h
  guarantee_rely _ other _ _ hapart h := h.others other hapart.symm

/-- An assertion about a part that is good. -/
def At (own : ι) (P : V → Prop) (state : σ) : Prop :=
  T.good own (T.part own state) ∧ P (T.part own state)

/-- The judgement about a program of an owner. -/
def Judges (own : ι) (P : V → Prop) (program : Program Unit σ χ α) (Q : α → V → Prop) : Prop :=
  T.discipline.Triple own (T.At own P) program fun result => T.At own (Q result)

def AllGood (state : σ) : Prop := ∀ own, T.good own (T.part own state)

def AllMove (before after : σ) : Prop := ∀ own, T.moves own (T.part own before) (T.part own after)

section Rules

variable {T} {own : ι} {P P' : V → Prop} {Q Q' : α → V → Prop} {program : Program Unit σ χ α} {before after : σ}

theorem at_stable : T.discipline.Stable own (T.At own P) := by
  intro state later h hrely
  unfold At
  rwa [show T.part own later = T.part own state from hrely]

theorem Touches.refl : T.Touches own before before :=
  ⟨fun _ _ => rfl, fun h => ⟨h, T.moves_refl own _⟩⟩

/-- An action that every part looks the same after. -/
theorem Touches.of_parts (h : ∀ other, T.part other after = T.part other before) :
    T.Touches own before after := by
  refine ⟨fun other _ => h other, fun hgood => ?_⟩
  rw [h own]
  exact ⟨hgood, T.moves_refl own _⟩

theorem Touches.allGood (h : T.Touches own before after) (hgood : T.AllGood before) :
    T.AllGood after := by
  intro other
  by_cases hother : other = own
  · exact hother ▸ (h.own (hgood own)).1
  · exact (h.others other hother) ▸ hgood other

theorem Touches.allMove (h : T.Touches own before after) (hgood : T.AllGood before) :
    T.AllMove before after := by
  intro other
  by_cases hother : other = own
  · exact hother ▸ (h.own (hgood own)).2
  · exact (h.others other hother) ▸ T.moves_refl other _

theorem Judges.act {action : χ → σ → α × σ}
    (h : ∀ answer state, T.admits answer → T.good own (T.part own state) → P (T.part own state) →
      T.Touches own state (action answer state).2 ∧
        Q (action answer state).1 (T.part own (action answer state).2)) :
    T.Judges own P (Program.atomic action) Q := by
  refine .atomic at_stable (fun _ => at_stable) fun answer state hat hadmits => ?_
  obtain ⟨htouches, hafter⟩ := h answer state hadmits hat.1 hat.2
  exact ⟨htouches, (htouches.own hat.1).1, hafter⟩

theorem Judges.read {view : χ → σ → α}
    (h : ∀ answer state, T.good own (T.part own state) → P (T.part own state) →
      Q (view answer state) (T.part own state)) :
    T.Judges own P (Program.read view) Q :=
  .act fun answer state _ hgood hat => ⟨.refl, h answer state hgood hat⟩

theorem Judges.done {result : α} (h : ∀ v, T.good own v → P v → Q result v) :
    T.Judges own P (pure result : Program Unit σ χ α) Q :=
  .pure at_stable fun _ hat => ⟨hat.1, h _ hat.1 hat.2⟩

theorem Judges.bind {rest : α → Program Unit σ χ β} {R : β → V → Prop} (h : T.Judges own P program Q)
    (hrest : ∀ result, T.Judges own (Q result) (rest result) R) :
    T.Judges own P (program >>= rest) R :=
  Discipline.Triple.bind h hrest

theorem Judges.mono (h : T.Judges own P program Q) (hpre : ∀ v, T.good own v → P' v → P v)
    (hpost : ∀ result v, T.good own v → Q result v → Q' result v) :
    T.Judges own P' program Q' :=
  Discipline.Triple.mono h (fun _ hat => ⟨hat.1, hpre _ hat.1 hat.2⟩)
    fun _ _ hat => ⟨hat.1, hpost _ _ hat.1 hat.2⟩

theorem Judges.weaken (h : T.Judges own P program Q) (hpre : ∀ v, T.good own v → P' v → P v) :
    T.Judges own P' program Q :=
  h.mono hpre fun _ _ _ => id

end Rules

/-- The assertion after a program that may fail. -/
def Ends (ok : α → V → Prop) (failed : ε → V → Prop) : Except ε α → V → Prop
  | .ok result => ok result
  | .error error => failed error

/-- The judgement about a program that may fail. -/
def Tries (own : ι) (P : V → Prop) (attempt : ExceptT ε (Program Unit σ χ) α) (ok : α → V → Prop)
    (failed : ε → V → Prop) : Prop :=
  T.Judges own P attempt.run (Ends ok failed)

section Attempts

variable {T} {own : ι} {P P' : V → Prop} {Q Q' : α → V → Prop} {R : β → V → Prop}
  {F F' : ε → V → Prop} {attempt other : ExceptT ε (Program Unit σ χ) α}
  {rest : α → ExceptT ε (Program Unit σ χ) β}

theorem Tries.act {action : χ → σ → Except ε α × σ}
    (h : ∀ answer state, T.admits answer → T.good own (T.part own state) → P (T.part own state) →
      T.Touches own state (action answer state).2 ∧
        Ends Q F (action answer state).1 (T.part own (action answer state).2)) :
    T.Tries own P (.mk (Program.atomic action)) Q F :=
  Judges.act h

theorem Tries.read {view : χ → σ → Except ε α}
    (h : ∀ answer state, T.good own (T.part own state) → P (T.part own state) →
      Ends Q F (view answer state) (T.part own state)) :
    T.Tries own P (.mk (Program.read view)) Q F :=
  Judges.read h

theorem Tries.pure {result : α} (h : ∀ v, T.good own v → P v → Q result v) :
    T.Tries own P (pure result) Q F :=
  Judges.done h

theorem Tries.throw {error : ε} (h : ∀ v, T.good own v → P v → F error v) :
    T.Tries own P (throw error : ExceptT ε (Program Unit σ χ) α) Q F :=
  Judges.done h

/-- The operator `?`: an error ends the program. -/
theorem Tries.bind (h : T.Tries own P attempt Q F)
    (hrest : ∀ result, T.Tries own (Q result) (rest result) R F) :
    T.Tries own P (attempt >>= rest) R F := by
  refine Judges.bind h fun result => ?_
  cases result with
  | error error => exact .done fun _ _ => id
  | ok result => exact hrest result

/-- What cannot fail, and the outcome of what may fail taken as a value. -/
theorem Tries.lift {program : Program Unit σ χ α} (h : T.Judges own P program Q) :
    T.Tries own P (ExceptT.lift program) Q F := by
  refine Judges.bind h fun result => ?_
  exact .done fun _ _ => id

theorem Tries.catch {handler : ε → ExceptT ε (Program Unit σ χ) α} (h : T.Tries own P attempt Q F)
    (hhandler : ∀ error, T.Tries own (F error) (handler error) Q F') :
    T.Tries own P (tryCatchThe ε attempt handler) Q F' := by
  refine Judges.bind h fun result => ?_
  cases result with
  | error error => exact hhandler error
  | ok result => exact .done fun _ _ => id

theorem Tries.mono (h : T.Tries own P attempt Q F) (hpre : ∀ v, T.good own v → P' v → P v)
    (hok : ∀ result v, T.good own v → Q result v → Q' result v)
    (hfailed : ∀ error v, T.good own v → F error v → F' error v) :
    T.Tries own P' attempt Q' F' := by
  refine Judges.mono h hpre fun result => ?_
  cases result with
  | error error => exact hfailed error
  | ok result => exact hok result

theorem Tries.weaken (h : T.Tries own P attempt Q F)
    (hpre : ∀ v, T.good own v → P' v → P v) : T.Tries own P' attempt Q F :=
  Judges.weaken h hpre

theorem Tries.fails (h : T.Tries own P attempt Q F)
    (hfailed : ∀ error v, T.good own v → F error v → F' error v) :
    T.Tries own P attempt Q F' :=
  h.mono (fun _ _ => id) (fun _ _ _ => id) hfailed

theorem Tries.ite {c : Prop} [Decidable c] (hpos : c → T.Tries own P attempt Q F)
    (hneg : ¬c → T.Tries own P other Q F) :
    T.Tries own P (if c then attempt else other) Q F := by
  split
  · exact hpos ‹_›
  · exact hneg ‹_›

/-- What the precondition implies of constants may be used about the whole program. -/
theorem Tries.given {fact : Prop} (hfact : ∀ v, T.good own v → P v → fact)
    (h : fact → T.Tries own P attempt Q F) : T.Tries own P attempt Q F :=
  fun state hat => h (hfact _ hat.1 hat.2) state hat

end Attempts

end Parts

end ArtForgeStudio.Concurrency
