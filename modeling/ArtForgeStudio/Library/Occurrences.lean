import Mathlib.Data.List.Infix
import Mathlib.Data.List.Perm.Lattice
import Mathlib.Data.Nat.Find

/-! # Occurrences in a text

The first place at which a pattern lies in a text, and texts in which several places are replaced at
once. One more place can be replaced in a text in which others were, if they are apart from it.
-/

namespace ArtForgeStudio.Occurrences

section First

variable {α : Type} [DecidableEq α] {pattern content text : List α} {i j : Nat}

/-- The first place at which the pattern lies in the text. -/
def findFirst (pattern text : List α) : Option Nat := text.tails.findIdx? pattern.isPrefixOf

theorem findFirst_eq_some_iff : findFirst pattern text = some i ↔
    i ≤ text.length ∧ pattern <+: text.drop i ∧ ∀ j < i, ¬pattern <+: text.drop j := by
  simp only [findFirst, List.findIdx?_eq_some_iff_getElem, List.getElem_tails,
    List.isPrefixOf_iff_prefix, List.length_tails, Nat.lt_succ_iff]
  exact ⟨fun ⟨hle, hrest⟩ => ⟨hle, hrest⟩, fun ⟨hle, hrest⟩ => ⟨hle, hrest⟩⟩

/-- An occurrence is not before the first one. -/
theorem exists_findFirst_le (h : pattern <+: text.drop j) :
    ∃ i ≤ j, findFirst pattern text = some i := by
  have hoccurs : ∃ i, pattern <+: text.drop i := ⟨j, h⟩
  have hlength : Nat.find hoccurs ≤ text.length := by
    by_contra hbeyond
    have hnil : text.drop (Nat.find hoccurs) = text.drop text.length := by
      rw [List.drop_length, List.drop_of_length_le (Nat.le_of_not_le hbeyond)]
    exact hbeyond (Nat.find_min' hoccurs (hnil ▸ Nat.find_spec hoccurs))
  exact ⟨Nat.find hoccurs, Nat.find_min' hoccurs h, findFirst_eq_some_iff.mpr
    ⟨hlength, Nat.find_spec hoccurs, fun _ hlt => Nat.find_min hoccurs hlt⟩⟩

theorem findFirst_eq_none_iff : findFirst pattern text = none ↔ ∀ i, ¬pattern <+: text.drop i := by
  constructor
  · intro hnone i hprefix
    obtain ⟨first, -, hfirst⟩ := exists_findFirst_le hprefix
    rw [hnone] at hfirst
    contradiction
  · intro hnot
    cases hfirst : findFirst pattern text with
    | none => rfl
    | some i => exact absurd (findFirst_eq_some_iff.mp hfirst).2.1 (hnot i)

/-- The text around the first occurrence. -/
theorem split_of_findFirst (h : findFirst pattern text = some i) :
    text.take i ++ pattern ++ text.drop (i + pattern.length) = text := by
  obtain ⟨-, ⟨right, hright⟩, -⟩ := findFirst_eq_some_iff.mp h
  have hrest : text.drop (i + pattern.length) = right := by
    rw [← List.drop_drop, ← hright, List.drop_left]
  rw [hrest, List.append_assoc, hright, List.take_append_drop]

def replaceFirst (pattern content text : List α) : List α :=
  match findFirst pattern text with
  | some i => text.take i ++ content ++ text.drop (i + pattern.length)
  | none => text

theorem replaceFirst_of_findFirst (h : findFirst pattern text = some i) :
    replaceFirst pattern content text = text.take i ++ content ++ text.drop (i + pattern.length) := by
  rw [replaceFirst, h]

end First

section Spots

variable {α : Type} {text left middle right : List α} {i : Nat}

/-- A part of a text, and what is put in its place. -/
structure Spot (α : Type) where
  start : Nat
  length : Nat
  content : List α

variable {spots others : List (Spot α)} {spot other : Spot α}

def Spot.covers (spot : Spot α) (i : Nat) : Bool := spot.start ≤ i && i < spot.start + spot.length

def Spot.Apart (spot other : Spot α) : Prop :=
  spot.start + spot.length ≤ other.start ∨ other.start + other.length ≤ spot.start

instance (spot other : Spot α) : Decidable (spot.Apart other) :=
  inferInstanceAs (Decidable (_ ∨ _))

/-- Where a spot starts there is its content, and what is covered is left out. -/
def substituteFrom (spots : List (Spot α)) : Nat → List α → List α
  | _, [] => []
  | i, c :: rest => (spots.filter (·.start = i)).flatMap (·.content) ++
      (if spots.any (·.covers i) then [] else [c]) ++ substituteFrom spots (i + 1) rest

def substitute (spots : List (Spot α)) (text : List α) : List α := substituteFrom spots 0 text

theorem substituteFrom_append (spots : List (Spot α)) (i : Nat) (left right : List α) :
    substituteFrom spots i (left ++ right) =
      substituteFrom spots i left ++ substituteFrom spots (i + left.length) right := by
  induction left generalizing i with
  | nil => rfl
  | cons c left ih =>
    have hnext : i + 1 + left.length = i + (left.length + 1) := by omega
    simp only [List.cons_append, substituteFrom, ih, List.length_cons, hnext, List.append_assoc]

theorem substitute_append (spots : List (Spot α)) (left right : List α) :
    substitute spots (left ++ right) =
      substitute spots left ++ substituteFrom spots left.length right := by
  rw [substitute, substituteFrom_append, Nat.zero_add]
  rfl

theorem substituteFrom_congr
    (hstart : ∀ j, i ≤ j → j < i + text.length →
      others.filter (·.start = j) = spots.filter (·.start = j))
    (hcovers : ∀ j, i ≤ j → j < i + text.length →
      others.any (·.covers j) = spots.any (·.covers j)) :
    substituteFrom others i text = substituteFrom spots i text := by
  induction text generalizing i with
  | nil => rfl
  | cons c text ih =>
    rw [List.length_cons] at hstart hcovers
    have hrest := @ih (i + 1) (fun j hle hlt => hstart j (by omega) (by omega))
      (fun j hle hlt => hcovers j (by omega) (by omega))
    rw [substituteFrom, substituteFrom, hstart i (by omega) (by omega),
      hcovers i (by omega) (by omega), hrest]

/-- A text that no spot reaches stays as it is. -/
theorem substituteFrom_free (hfree : ∀ spot ∈ spots, 0 < spot.length ∧
    (spot.start + spot.length ≤ i ∨ i + text.length ≤ spot.start)) :
    substituteFrom spots i text = text := by
  have hnone : substituteFrom spots i text = substituteFrom [] i text := by
    apply substituteFrom_congr
    · intro j hle hlt
      rw [List.filter_nil, List.filter_eq_nil_iff]
      intro spot hspot
      have hspot := hfree spot hspot
      rw [decide_eq_true_eq]
      omega
    · intro j hle hlt
      rw [List.any_nil, List.any_eq_false]
      intro spot hspot
      have hspot := hfree spot hspot
      simp only [Spot.covers, Bool.and_eq_true, decide_eq_true_eq]
      omega
  rw [hnone]
  clear hnone hfree
  induction text generalizing i with
  | nil => rfl
  | cons c text ih => simp [substituteFrom, ih]

/-- Away from a spot the text does not see it. -/
theorem substituteFrom_concat_outside (hpositive : 0 < spot.length)
    (houtside : spot.start + spot.length ≤ i ∨ i + text.length ≤ spot.start) :
    substituteFrom (spots ++ [spot]) i text = substituteFrom spots i text := by
  apply substituteFrom_congr
  · intro j hle hlt
    have hnot : spot.start ≠ j := by omega
    simp [hnot]
  · intro j hle hlt
    have hnot : spot.covers j = false := by
      simp only [Spot.covers, Bool.and_eq_false_iff, decide_eq_false_iff_not]
      omega
    simp [hnot]

/-- The part of the text that a spot covers is replaced by its content. -/
theorem substituteFrom_concat_inside (hlength : text.length = spot.length)
    (hpositive : 0 < spot.length) (hfree : ∀ other ∈ spots, 0 < other.length ∧ other.Apart spot) :
    substituteFrom (spots ++ [spot]) spot.start text = spot.content := by
  have hcovered : ∀ rest i, spot.start < i → i + rest.length ≤ spot.start + spot.length →
      substituteFrom (spots ++ [spot]) i rest = [] := by
    intro rest
    induction rest with
    | nil => exact fun _ _ _ => rfl
    | cons c rest ih =>
      intro i hlt hle
      rw [List.length_cons] at hle
      have hstarts : (spots ++ [spot]).filter (·.start = i) = [] := by
        rw [List.filter_eq_nil_iff]
        intro other hother
        rw [decide_eq_true_eq]
        rcases List.mem_append.mp hother with hother | hother
        · have hother := hfree other hother
          unfold Spot.Apart at hother
          omega
        · rw [List.mem_singleton.mp hother]
          omega
      have hcovers : (spots ++ [spot]).any (·.covers i) := by
        rw [List.any_eq_true]
        refine ⟨spot, by simp, ?_⟩
        simp only [Spot.covers, Bool.and_eq_true, decide_eq_true_eq]
        omega
      rw [substituteFrom, hstarts, if_pos hcovers, ih (i + 1) (by omega) (by omega)]
      rfl
  cases text with
  | nil => simp at hlength; omega
  | cons c rest =>
    rw [List.length_cons] at hlength
    have hstarts : (spots ++ [spot]).filter (·.start = spot.start) = [spot] := by
      have hnone : spots.filter (·.start = spot.start) = [] := by
        rw [List.filter_eq_nil_iff]
        intro other hother
        have hother := hfree other hother
        unfold Spot.Apart at hother
        rw [decide_eq_true_eq]
        omega
      simp [hnone]
    have hcovers : (spots ++ [spot]).any (·.covers spot.start) := by
      rw [List.any_eq_true]
      refine ⟨spot, by simp, ?_⟩
      simp only [Spot.covers, Bool.and_eq_true, decide_eq_true_eq]
      omega
    rw [substituteFrom, hstarts, if_pos hcovers, hcovered rest _ (by omega) (by omega)]
    simp

/-- One more place is replaced: before it and behind it nothing changes. -/
theorem substitute_concat (hleft : left.length = spot.start) (hmiddle : middle.length = spot.length)
    (hpositive : 0 < spot.length) (hfree : ∀ other ∈ spots, 0 < other.length ∧ other.Apart spot) :
    substitute (spots ++ [spot]) (left ++ middle ++ right) = substitute spots left ++ spot.content ++
        substituteFrom spots (left.length + middle.length) right ∧
      substitute spots (left ++ middle ++ right) = substitute spots left ++ middle ++
        substituteFrom spots (left.length + middle.length) right := by
  have hsplit : ∀ spots : List (Spot α), substitute spots (left ++ middle ++ right) =
      substitute spots left ++ substituteFrom spots left.length middle ++
        substituteFrom spots (left.length + middle.length) right := by
    intro spots
    rw [substitute_append, substitute_append, List.length_append]
  constructor
  · have hbefore : substitute (spots ++ [spot]) left = substitute spots left :=
      substituteFrom_concat_outside hpositive (by omega)
    rw [hsplit, hbefore, hleft, substituteFrom_concat_inside hmiddle hpositive hfree,
      substituteFrom_concat_outside hpositive (by omega)]
  · have hstays : substituteFrom spots left.length middle = middle := by
      apply substituteFrom_free
      intro other hother
      have hother := hfree other hother
      unfold Spot.Apart at hother
      exact ⟨hother.1, by omega⟩
    rw [hsplit, hstays]

/-- Places that are apart can be replaced in any order. -/
theorem substitute_perm (hperm : others.Perm spots) (hpositive : ∀ spot ∈ spots, 0 < spot.length)
    (hapart : spots.Pairwise Spot.Apart) (text : List α) :
    substitute others text = substitute spots text := by
  apply substituteFrom_congr
  · intro j _ _
    have hfilter := hperm.filter (·.start = j)
    have hpairs := hapart.sublist (List.filter_sublist (p := (·.start = j)))
    have hmem : ∀ spot ∈ spots.filter (·.start = j), spot.start = j ∧ 0 < spot.length := by
      intro spot hspot
      rw [List.mem_filter, decide_eq_true_eq] at hspot
      exact ⟨hspot.2, hpositive spot hspot.1⟩
    generalize spots.filter (·.start = j) = started at hfilter hpairs hmem ⊢
    match started with
    | [] => exact hfilter.eq_nil
    | [spot] => exact List.perm_singleton.mp hfilter
    | first :: second :: rest =>
      -- two of them would have a place in common
      have hboth := List.rel_of_pairwise_cons hpairs List.mem_cons_self
      have hfirst := hmem first List.mem_cons_self
      have hsecond := hmem second (List.mem_cons_of_mem _ List.mem_cons_self)
      unfold Spot.Apart at hboth
      omega
  · intro j _ _
    exact hperm.any_eq

end Spots

end ArtForgeStudio.Occurrences
