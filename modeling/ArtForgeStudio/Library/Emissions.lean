import ArtForgeStudio.Library.Outcome

/-! # Programs that send

A program sends items one after the other and may end with an error at any point. Then what it sent
is a beginning of what it was to send; when it ends well, it sent all. What two programs send one
after the other is what the first sends and then what the second does.
-/

namespace ArtForgeStudio.Emissions

variable {S E α β I : Type}

abbrev Program (S E α : Type) : Type := S → Except E α × S

namespace Program

def pure (a : α) : Program S E α := fun s => (.ok a, s)

def bind (program : Program S E α) (next : α → Program S E β) : Program S E β := fun s =>
  match program s with
  | (.ok a, s) => next a s
  | (.error error, s) => (.error error, s)

/-- What the program does when `cleanup` follows its errors. -/
def onError (program : Program S E α) (cleanup : S → S) : Program S E α := fun s =>
  match program s with
  | (.ok a, s) => (.ok a, s)
  | (.error error, s) => (.error error, cleanup s)

instance : Monad (Program S E) where
  pure := pure
  bind := bind

variable {program : Program S E α} {next : α → Program S E β} {cleanup : S → S} {a : α} {error : E}
  {s t : S}

theorem bind_of_ok (h : program s = (.ok a, t)) : (program >>= next) s = next a t := by
  change Program.bind program next s = next a t
  rw [Program.bind, h]

theorem bind_of_error (h : program s = (.error error, t)) :
    (program >>= next) s = (.error error, t) := by
  change Program.bind program next s = (.error error, t)
  rw [Program.bind, h]

theorem onError_of_ok (h : program s = (.ok a, t)) : program.onError cleanup s = (.ok a, t) := by
  rw [Program.onError, h]

theorem onError_of_error (h : program s = (.error error, t)) :
    program.onError cleanup s = (.error error, cleanup t) := by
  rw [Program.onError, h]

end Program

variable {out : S → List I} {Keeps : S → Prop} {items more : List I} {Q Q' : α → Prop} {R : β → Prop}
  {program : Program S E α} {next : α → Program S E β} {a : α} {error : E} {s : S}

/-- The program adds a beginning of `items` to what is out, and all of them when it ends well. -/
structure Sends (out : S → List I) (items : List I) (result : Except E α) (before after : S) :
    Prop where
  sent : ∃ sent, sent <+: items ∧ out after = out before ++ sent
  complete : ∀ a, result = .ok a → out after = out before ++ items

def Emits (out : S → List I) (Keeps : S → Prop) (items : List I) (Q : α → Prop)
    (program : Program S E α) : Prop :=
  ∀ s, Keeps s → Keeps (program s).2 ∧ Sends out items (program s).1 s (program s).2 ∧
    ∀ a, (program s).1 = .ok a → Q a

theorem Emits.pure (h : Q a) : Emits out Keeps [] Q (Pure.pure a : Program S E α) := by
  intro s hs
  refine ⟨hs, ⟨⟨[], List.prefix_rfl, (List.append_nil _).symm⟩, fun _ _ => (List.append_nil _).symm⟩,
    fun b hb => ?_⟩
  exact Except.ok.inj hb ▸ h

/-- A step that sends nothing. -/
theorem Emits.silent (hkeeps : ∀ s, Keeps s → Keeps (program s).2)
    (hout : ∀ s, out (program s).2 = out s) (hQ : ∀ s, Keeps s → ∀ a, (program s).1 = .ok a → Q a) :
    Emits out Keeps [] Q program := by
  intro s hs
  refine ⟨hkeeps s hs, ⟨⟨[], List.prefix_rfl, ?_⟩, fun _ _ => ?_⟩, hQ s hs⟩
  · rw [hout, List.append_nil]
  · rw [hout, List.append_nil]

theorem Emits.bind (h : Emits out Keeps items Q program)
    (hnext : ∀ a, Q a → Emits out Keeps more R (next a)) :
    Emits out Keeps (items ++ more) R (program >>= next) := by
  intro s hs
  have hfirst := h s hs
  cases hrun : program s with
  | mk result after =>
    rw [hrun] at hfirst
    obtain ⟨hkeeps, ⟨⟨sent, hsent, hout⟩, hcomplete⟩, hQ⟩ := hfirst
    cases result with
    | error error =>
      rw [Program.bind_of_error hrun]
      exact ⟨hkeeps, ⟨⟨sent, hsent.trans (List.prefix_append ..), hout⟩, fun _ h => by cases h⟩,
        fun _ h => by cases h⟩
    | ok a =>
      rw [Program.bind_of_ok hrun]
      obtain ⟨hlater, ⟨⟨rest, hrest, hrestout⟩, hall⟩, hR⟩ := hnext a (hQ a rfl) after hkeeps
      refine ⟨hlater, ⟨⟨items ++ rest, ?_, ?_⟩, fun b hb => ?_⟩, hR⟩
      · exact (List.prefix_append_right_inj items).mpr hrest
      · rw [hrestout, hcomplete a rfl, List.append_assoc]
      · rw [hall b hb, hcomplete a rfl, List.append_assoc]

theorem Emits.onError {cleanup : S → S} (h : Emits out Keeps items Q program)
    (hkeeps : ∀ s, Keeps s → Keeps (cleanup s)) (hout : ∀ s, out (cleanup s) = out s) :
    Emits out Keeps items Q (program.onError cleanup) := by
  intro s hs
  have hfirst := h s hs
  cases hrun : program s with
  | mk result after =>
    rw [hrun] at hfirst
    obtain ⟨hafter, ⟨hsent, hcomplete⟩, hQ⟩ := hfirst
    cases result with
    | error error =>
      rw [Program.onError_of_error hrun]
      refine ⟨hkeeps _ hafter, ⟨?_, fun _ h => by cases h⟩, fun _ h => by cases h⟩
      simpa only [hout] using hsent
    | ok a =>
      rw [Program.onError_of_ok hrun]
      exact ⟨hafter, ⟨hsent, hcomplete⟩, hQ⟩

/-- From every state that is ready for `n` turns more than it takes, the program ends well and is
ready for `n` turns. -/
def Finishes (Ready : ℕ → S → Prop) (turns : ℕ) (Q : α → Prop) (program : Program S E α) : Prop :=
  ∀ n s, Ready (n + turns) s → ∃ a, (program s).1 = .ok a ∧ Q a ∧ Ready n (program s).2

variable {Ready : ℕ → S → Prop} {turns later : ℕ}

theorem Finishes.mono {most : ℕ} (h : Finishes Ready turns Q program) (hle : turns ≤ most)
    (hReady : ∀ m n s, m ≤ n → Ready n s → Ready m s) : Finishes Ready most Q program := by
  intro n s hs
  have hsplit : n + most = (n + (most - turns)) + turns := by omega
  obtain ⟨a, ha, hQ, hready⟩ := h (n + (most - turns)) s (hsplit ▸ hs)
  exact ⟨a, ha, hQ, hReady n _ _ (Nat.le_add_right ..) hready⟩

theorem Finishes.pure (h : Q a) : Finishes Ready 0 Q (Pure.pure a : Program S E α) :=
  fun _ _ hs => ⟨a, rfl, h, hs⟩

theorem Finishes.bind (h : Finishes Ready turns Q program)
    (hnext : ∀ a, Q a → Finishes Ready later R (next a)) :
    Finishes Ready (later + turns) R (program >>= next) := by
  intro n s hs
  obtain ⟨a, ha, hQ, hready⟩ := h (n + later) s (by rwa [Nat.add_assoc])
  have hrun : program s = (.ok a, (program s).2) := Prod.ext ha rfl
  rw [Program.bind_of_ok hrun]
  exact hnext a hQ n _ hready

theorem Finishes.onError {cleanup : S → S} (h : Finishes Ready turns Q program) :
    Finishes Ready turns Q (program.onError cleanup) := by
  intro n s hs
  obtain ⟨a, ha, hQ, hready⟩ := h n s hs
  have hrun : program s = (.ok a, (program s).2) := Prod.ext ha rfl
  rw [Program.onError_of_ok hrun]
  exact ⟨a, rfl, hQ, hready⟩

end ArtForgeStudio.Emissions
