import Mathlib.Data.List.Infix
import Mathlib.Logic.Function.Basic

/-! # Chains of prefix rewrites

Paths are lists of components. A relocation replaces the prefix `source` by `destination`, and
a history of relocations is applied in order. `Moved` is the history of directories that move
one at a time to places apart from all current ones.
-/

namespace ArtForgeStudio.Relocations

structure Relocation (α : Type*) where
  source : List α
  destination : List α

/-- Neither path lies in the other. -/
def Apart {α : Type*} (a b : List α) : Prop := ¬a <+: b ∧ ¬b <+: a

variable {α K : Type*}

theorem Apart.symm {a b : List α} (h : Apart a b) : Apart b a := ⟨h.2, h.1⟩

/-- What lies apart from a directory is no prefix of a path in it. -/
theorem Apart.not_prefix_append {a b : List α} (h : Apart a b) (rest : List α) : ¬a <+: b ++ rest := by
  intro hprefix
  rcases List.prefix_or_prefix_of_prefix hprefix (List.prefix_append b rest) with hab | hba
  · exact h.1 hab
  · exact h.2 hba

variable [DecidableEq α]

instance (a b : List α) : Decidable (Apart a b) := inferInstanceAs (Decidable (_ ∧ _))

def Relocation.apply (relocation : Relocation α) (path : List α) : List α :=
  if relocation.source <+: path then relocation.destination ++ path.drop relocation.source.length
  else path

def remap (relocations : List (Relocation α)) (path : List α) : List α :=
  relocations.foldl (fun path relocation => relocation.apply path) path

variable {relocation : Relocation α} {relocations : List (Relocation α)} {path rest : List α}

@[simp] theorem apply_source_append (relocation : Relocation α) (rest : List α) :
    relocation.apply (relocation.source ++ rest) = relocation.destination ++ rest := by
  simp [Relocation.apply]

theorem apply_of_not_prefix (h : ¬relocation.source <+: path) : relocation.apply path = path :=
  if_neg h

@[simp] theorem remap_nil : remap ([] : List (Relocation α)) path = path := rfl

@[simp] theorem remap_concat :
    remap (relocations ++ [relocation]) path = relocation.apply (remap relocations path) := by
  simp [remap]

/-- A path outside all sources stays. -/
theorem remap_of_outside (h : ∀ relocation ∈ relocations, ¬relocation.source <+: path) :
    remap relocations path = path := by
  induction relocations using List.reverseRecOn with
  | nil => rfl
  | append_singleton relocations relocation ih =>
    rw [remap_concat, ih fun other hmem => h other (List.mem_append_left _ hmem)]
    exact apply_of_not_prefix (h relocation (by simp))

variable [DecidableEq K]

/-- Directories moved one at a time, each to a place apart from all current directories. -/
inductive Moved (start : K → List α) : (K → List α) → List (Relocation α) → Prop
  | start : Moved start start []
  | move {current relocations} (h : Moved start current relocations) (kind : K)
      (destination : List α) (hapart : ∀ other, Apart destination (current other)) :
      Moved start (Function.update current kind destination)
        (relocations ++ [⟨current kind, destination⟩])

variable {start current : K → List α}

omit [DecidableEq α] in
/-- The current directories stay apart. -/
theorem Moved.apart (h : Moved start current relocations)
    (hstart : ∀ a b, a ≠ b → Apart (start a) (start b)) :
    ∀ a b, a ≠ b → Apart (current a) (current b) := by
  induction h with
  | start => exact hstart
  | move h kind destination hapart ih =>
    intro a b hne
    by_cases ha : a = kind
    · subst ha
      simpa [Ne.symm hne] using hapart b
    · by_cases hb : b = kind
      · subst hb
        simpa [hne] using (hapart a).symm
      · simpa [ha, hb] using ih a b hne

/-- A path lies outside all sources, or it follows the first source that it lies in: that source
now lies in a current directory, and all between the source and the path moved with it. -/
theorem Moved.follows (h : Moved start current relocations)
    (hstart : ∀ a b, a ≠ b → Apart (start a) (start b)) (path : List α) :
    (∀ relocation ∈ relocations, ¬relocation.source <+: path) ∨
    ∃ relocation ∈ relocations, ∃ rest, path = relocation.source ++ rest ∧
      (∀ part, part <+: rest → remap relocations (relocation.source ++ part) =
        remap relocations relocation.source ++ part) ∧
      ∃ kind, current kind <+: remap relocations relocation.source := by
  induction h with
  | start => exact .inl nofun
  | @move current relocations h kind destination hapart ih =>
    rcases ih with houtside | ⟨first, hmem, rest, rfl, hmoved, owner, hinside⟩
    · by_cases hfires : current kind <+: path
      · obtain ⟨rest, rfl⟩ := hfires
        -- no earlier source is a prefix of the path, so none moved the directory
        have hstays : ∀ part, part <+: rest →
            remap relocations (current kind ++ part) = current kind ++ part := by
          intro part hpart
          refine remap_of_outside fun other hother hprefix => houtside other hother ?_
          exact hprefix.trans ((List.prefix_append_right_inj _).mpr hpart)
        have hsource : remap relocations (current kind) = current kind := by
          simpa using hstays [] (List.nil_prefix)
        refine .inr ⟨⟨current kind, destination⟩, by simp, rest, rfl, fun part hpart => ?_, kind, ?_⟩
        · have hself : Relocation.apply ⟨current kind, destination⟩ (current kind) = destination := by
            simpa using apply_source_append ⟨current kind, destination⟩ []
          rw [remap_concat, remap_concat, hstays part hpart, hsource, hself]
          exact apply_source_append ⟨current kind, destination⟩ part
        · simp [hsource, Relocation.apply]
      · refine .inl fun other hother => ?_
        rcases List.mem_append.mp hother with hold | hnew
        · exact houtside other hold
        · cases List.mem_singleton.mp hnew
          exact hfires
    · refine .inr ⟨first, List.mem_append_left _ hmem, rest, rfl, ?_⟩
      by_cases hfires : current kind <+: remap relocations first.source
      · obtain ⟨inner, hinner⟩ := hfires
        refine ⟨fun part hpart => ?_, kind, ?_⟩
        · rw [remap_concat, remap_concat, hmoved part hpart, ← hinner, List.append_assoc]
          have happly := apply_source_append ⟨current kind, destination⟩
          rw [happly (inner ++ part), happly inner, List.append_assoc]
        · rw [remap_concat, ← hinner, apply_source_append ⟨current kind, destination⟩]
          simp
      · -- the source lies in another directory, so this one is not inside it either
        have hne : owner ≠ kind := by
          rintro rfl
          exact hfires hinside
        have happart := (h.apart hstart owner kind hne).symm
        have hquiet : ∀ part, ¬current kind <+: remap relocations first.source ++ part := by
          intro part
          obtain ⟨inner, hinner⟩ := hinside
          rw [← hinner, List.append_assoc]
          exact happart.not_prefix_append _
        refine ⟨fun part hpart => ?_, owner, ?_⟩
        · rw [remap_concat, remap_concat, hmoved part hpart, apply_of_not_prefix (hquiet part),
            apply_of_not_prefix hfires]
        · rw [remap_concat, apply_of_not_prefix hfires]
          simpa [hne] using hinside

/-- A directory is a fixed point with all that lies in it, as soon as it is one itself and the
sources that lie in it are. -/
theorem Moved.fixed (h : Moved start current relocations)
    (hstart : ∀ a b, a ≠ b → Apart (start a) (start b)) {root : List α}
    (hroot : remap relocations root = root)
    (hsources : ∀ relocation ∈ relocations, root <+: relocation.source →
      remap relocations relocation.source = relocation.source) (rest : List α) :
    remap relocations (root ++ rest) = root ++ rest := by
  rcases h.follows hstart (root ++ rest) with houtside | ⟨first, hmem, tail, htail, hmoved, -⟩
  · exact remap_of_outside houtside
  · have hfixed : remap relocations first.source = first.source := by
      have hprefix : first.source <+: root ++ rest := ⟨tail, htail.symm⟩
      rcases List.prefix_or_prefix_of_prefix (List.prefix_append root rest) hprefix with hin | ⟨part, rfl⟩
      · exact hsources first hmem hin
      · -- the root moved with the source, and it stayed
        rw [List.append_assoc, List.append_cancel_left_eq] at htail
        have hpart := hmoved part ⟨rest, htail⟩
        rw [hroot] at hpart
        exact (List.append_cancel_right hpart).symm
    rw [htail, hmoved tail (List.prefix_refl tail), hfixed]

end ArtForgeStudio.Relocations
