import ArtForgeStudio.Images.Cells
import Mathlib.Data.Nat.Count

/-! # The dilation of a mask

Two passes over prefix sums, first along the rows and then along the columns, set every cell that
lies near a set one.
-/

namespace ArtForgeStudio.Images

open ArtForgeStudio.Loops

/-- `prefix[i + 1] = prefix[i] + u32::from(source[..])` -/
def sumStep (source : List Bool) (index : Nat → Option Nat) (sums : List Nat) (i : Nat) :
    Option (List Nat) := do
  let spot ← index i
  let set ← source[spot]?
  let sum ← sums[i]?
  let sum ← addU32 sum set.toNat
  writeAt sums (i + 1) sum

/-- `target[..] = prefix[end] > prefix[start]` -/
def windowStep (sums : List Nat) (index : Nat → Option Nat) (count radius : Nat)
    (target : List Bool) (i : Nat) : Option (List Bool) := do
  let start := i - radius
  let reach ← addU32 i radius
  let reach ← addU32 reach 1
  let stop := min reach count
  let last ← sums[stop]?
  let first ← sums[start]?
  let spot ← index i
  writeAt target spot (decide (first < last))

/-- One row or one column of a pass: the prefix sums of its cells, then a window around each. -/
def spread (source : List Bool) (index : Nat → Option Nat) (count radius : Nat)
    (target : List Bool) : Option (List Bool) := do
  let sums ← forRange count (sumStep source index) (List.replicate (count + 1) 0)
  forRange count (windowStep sums index count radius) target

def dilateMask (mask : List Bool) (width height radius : Nat) : Option (List Bool) := do
  let horizontal ← forRange height
    (fun horizontal y => spread mask (fun x => cellIndex width x y) width radius horizontal)
    (List.replicate mask.length false)
  forRange width
    (fun result x => spread horizontal (fun y => cellIndex width x y) height radius result)
    (List.replicate mask.length false)

/-- A cell of the image that the mask sets. -/
def SetIn (mask : List Bool) (width height : Nat) (cell : Cell) : Prop :=
  Inside width height cell ∧ mask[place width cell]? = some true

/-- Two numbers differ by at most the radius. -/
def Near (radius a b : Nat) : Prop := a ≤ b + radius ∧ b ≤ a + radius

section Spread

variable {source target : List Bool} {index : Nat → Option Nat} {spot : Nat → Nat}
  {count radius length : Nat}

theorem count_lt_count_iff (p : Nat → Prop) [DecidablePred p] (a b : Nat) :
    Nat.count p a < Nat.count p b ↔ ∃ j, a ≤ j ∧ j < b ∧ p j := by
  constructor
  · intro h
    by_contra hnone
    have hab : a < b := Nat.lt_of_count_lt_count h
    have hrest : Nat.count (fun k => p (a + k)) (b - a) = 0 :=
      Nat.count_iff_forall_not.mpr fun k hk hp => hnone ⟨a + k, by omega, by omega, hp⟩
    have hsplit := Nat.count_add (p := p) a (b - a)
    rw [Nat.add_sub_cancel' hab.le, hrest] at hsplit
    omega
  · rintro ⟨j, haj, hjb, hj⟩
    exact (Nat.count_monotone p haj).trans_lt (Nat.count_strict_mono hj hjb)

/-- The cells that a row or a column goes through. -/
structure Line (index : Nat → Option Nat) (spot : Nat → Nat) (count length : Nat) : Prop where
  index : ∀ i < count, index i = some (spot i)
  lt : ∀ i < count, spot i < length
  inj : ∀ i < count, ∀ j < count, spot i = spot j → i = j

def SetAt (source : List Bool) (spot : Nat → Nat) (i : Nat) : Prop := source[spot i]? = some true

instance : DecidablePred (SetAt source spot) := fun _ => inferInstanceAs (Decidable (_ = _))

theorem forRange_sumStep (h : Line index spot count source.length) (hcount : count < 2 ^ 32) :
    ∃ sums, forRange count (sumStep source index) (List.replicate (count + 1) 0) = some sums ∧
      sums.length = count + 1 ∧
      ∀ i ≤ count, sums[i]? = some (Nat.count (SetAt source spot) i) := by
  apply forRange_rule (fun done (sums : List Nat) => sums.length = count + 1 ∧
    ∀ i ≤ done, sums[i]? = some (Nat.count (SetAt source spot) i))
  · refine ⟨List.length_replicate, fun i hi => ?_⟩
    obtain rfl : i = 0 := by omega
    simp
  · rintro done hdone sums ⟨hlength, hsums⟩
    obtain ⟨set, hset⟩ := exists_getElem? (h.lt done hdone)
    have hnext : Nat.count (SetAt source spot) (done + 1) =
        Nat.count (SetAt source spot) done + set.toNat := by
      rw [Nat.count_succ]
      cases set <;> simp [SetAt, hset]
    have hle : Nat.count (SetAt source spot) (done + 1) ≤ done + 1 := Nat.count_le _
    refine ⟨sums.set (done + 1) (Nat.count (SetAt source spot) (done + 1)), ?_, ?_, ?_⟩
    · rw [sumStep, h.index done hdone]
      simp only [Option.bind_eq_bind, Option.bind_some, hset, hsums done le_rfl]
      rw [addU32_of_lt (by omega), Option.bind_some, writeAt_of_lt (by omega), hnext]
    · rw [List.length_set, hlength]
    · intro i hi
      rw [getElem?_set_of_lt (by omega)]
      by_cases hlast : i = done + 1
      · rw [if_pos hlast, hlast]
      · rw [if_neg hlast]
        exact hsums i (by omega)

/-- A line of a pass writes the cells of the line and no others. -/
structure Spreads (source : List Bool) (spot : Nat → Nat) (count radius : Nat)
    (target result : List Bool) (done : Nat) : Prop where
  length : result.length = target.length
  written : ∀ i < done, result[spot i]? = some true ↔
    ∃ j < count, Near radius i j ∧ SetAt source spot j
  kept : ∀ k, (∀ i < count, k ≠ spot i) → result[k]? = target[k]?

theorem spread_spec (h : Line index spot count source.length)
    (htarget : target.length = source.length) (hcount : count + radius < 2 ^ 32) :
    ∃ result, spread source index count radius target = some result ∧
      Spreads source spot count radius target result count := by
  obtain ⟨sums, hsums, hlength, hvalues⟩ := forRange_sumStep h (by omega)
  rw [spread, hsums]
  apply forRange_rule (fun done result => Spreads source spot count radius target result done)
  · exact ⟨rfl, fun i hi => absurd hi (Nat.not_lt_zero i), fun _ _ => rfl⟩
  · intro done hdone result hresult
    have hlt : spot done < result.length := by
      rw [hresult.length, htarget]
      exact h.lt done hdone
    let near := decide (Nat.count (SetAt source spot) (done - radius)
      < Nat.count (SetAt source spot) (min (done + radius + 1) count))
    refine ⟨result.set (spot done) near, ?_, ?_, ?_, ?_⟩
    · rw [windowStep, addU32_of_lt (by omega)]
      simp only [Option.bind_eq_bind, Option.bind_some]
      rw [addU32_of_lt (by omega), Option.bind_some, hvalues _ (by omega), Option.bind_some,
        hvalues _ (by omega), Option.bind_some, h.index done hdone, Option.bind_some]
      exact writeAt_of_lt hlt near
    · rw [List.length_set, hresult.length]
    · intro i hi
      rw [getElem?_set_of_lt hlt]
      by_cases hlast : i = done
      · subst hlast
        rw [if_pos rfl, Option.some_inj, decide_eq_true_iff, count_lt_count_iff]
        constructor
        · rintro ⟨j, hfrom, hto, hset⟩
          exact ⟨j, by omega, by unfold Near; omega, hset⟩
        · rintro ⟨j, hj, ⟨hfrom, hto⟩, hset⟩
          exact ⟨j, by omega, by omega, hset⟩
      · rw [if_neg fun heq => hlast (h.inj i (by omega) done hdone heq)]
        exact hresult.written i (by omega)
    · intro k hk
      rw [getElem?_set_of_lt hlt, if_neg (hk done hdone)]
      exact hresult.kept k hk

end Spread

section Passes

variable {mask : List Bool} {width height radius : Nat}

theorem row_line (hbound : width * height < 2 ^ 32) {y : Nat} (hy : y < height) :
    Line (fun x => cellIndex width x y) (fun x => place width (x, y)) width (width * height) where
  index _ hx := cellIndex_of_inside hbound ⟨hx, hy⟩
  lt _ hx := place_lt ⟨hx, hy⟩
  inj _ hx _ hx' heq := congrArg Prod.fst (place_inj hx hx' heq)

theorem column_line (hbound : width * height < 2 ^ 32) {x : Nat} (hx : x < width) :
    Line (fun y => cellIndex width x y) (fun y => place width (x, y)) height (width * height) where
  index _ hy := cellIndex_of_inside hbound ⟨hx, hy⟩
  lt _ hy := place_lt ⟨hx, hy⟩
  inj _ _ _ _ heq := congrArg Prod.snd (place_inj hx hx heq)

/-- The lines of a pass do not meet, so each keeps what the ones before it wrote. -/
theorem lines_spec {lines count : Nat} (source : List Bool) {index : Nat → Nat → Option Nat}
    {spot : Nat → Nat → Nat} (hline : ∀ k < lines, Line (index k) (spot k) count source.length)
    (hapart : ∀ k < lines, ∀ i < count, ∀ k' < lines, ∀ i' < count, spot k i = spot k' i' → k = k')
    (hcount : count + radius < 2 ^ 32) :
    ∃ result, forRange lines (fun result k => spread source (index k) count radius result)
        (List.replicate source.length false) = some result ∧
      result.length = source.length ∧
      ∀ k < lines, ∀ i < count, result[spot k i]? = some true ↔
        ∃ j < count, Near radius i j ∧ SetAt source (spot k) j := by
  apply forRange_rule (fun done (result : List Bool) => result.length = source.length ∧
    ∀ k < done, ∀ i < count, result[spot k i]? = some true ↔
      ∃ j < count, Near radius i j ∧ SetAt source (spot k) j)
  · exact ⟨List.length_replicate, fun k hk => absurd hk (Nat.not_lt_zero k)⟩
  · rintro done hdone result ⟨hlength, hwritten⟩
    obtain ⟨next, hnext, hspreads⟩ := spread_spec (hline done hdone) hlength hcount
    refine ⟨next, hnext, hspreads.length.trans hlength, fun k hk i hi => ?_⟩
    by_cases hlast : k = done
    · subst hlast
      exact hspreads.written i hi
    · rw [hspreads.kept _ fun i' hi' heq => hlast (hapart k (by omega) i hi done hdone i' hi' heq)]
      exact hwritten k (by omega) i hi

/-- The dilation sets exactly the cells near a set one, in both coordinates. -/
theorem dilateMask_spec (hmask : mask.length = width * height) (hbound : width * height < 2 ^ 32)
    (hwidth : width + radius < 2 ^ 32) (hheight : height + radius < 2 ^ 32) :
    ∃ result, dilateMask mask width height radius = some result ∧
      result.length = mask.length ∧
      ∀ cell, Inside width height cell → (SetIn result width height cell ↔
        ∃ other, SetIn mask width height other ∧ Near radius cell.1 other.1 ∧
          Near radius cell.2 other.2) := by
  obtain ⟨horizontal, hrows, hlength, hhorizontal⟩ := lines_spec mask
    (fun y hy => hmask ▸ row_line hbound hy)
    (fun y hy x hx y' hy' x' hx' heq => congrArg Prod.snd (place_inj hx hx' heq)) hwidth
  obtain ⟨result, hcolumns, hlength', hresult⟩ := lines_spec horizontal
    (fun x hx => by
      rw [hlength, hmask]
      exact column_line hbound hx)
    (fun x hx y hy x' hx' y' hy' heq => congrArg Prod.fst (place_inj hx hx' heq)) hheight
  refine ⟨result, ?_, hlength'.trans hlength, ?_⟩
  · rw [dilateMask, hrows, ← hlength]
    exact hcolumns
  · rintro ⟨x, y⟩ ⟨hx, hy⟩
    simp only [SetIn, Inside, hx, hy, and_self, true_and]
    rw [hresult x hx y hy]
    constructor
    · rintro ⟨y', hy', hnear, hset⟩
      obtain ⟨x', hx', hnear', hset'⟩ := (hhorizontal y' hy' x hx).mp hset
      exact ⟨(x', y'), ⟨⟨hx', hy'⟩, hset'⟩, hnear', hnear⟩
    · rintro ⟨⟨x', y'⟩, ⟨⟨hx', hy'⟩, hset⟩, hnear', hnear⟩
      exact ⟨y', hy', hnear, (hhorizontal y' hy' x hx).mpr ⟨x', hx', hnear', hset⟩⟩

end Passes

end ArtForgeStudio.Images
