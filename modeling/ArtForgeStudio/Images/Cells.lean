import ArtForgeStudio.Library.Loops
import Mathlib.Tactic.Common
import Mathlib.Algebra.Group.Nat.Defs

/-! # Cells of an image

An image of `width` columns keeps its cells row by row. Coordinates are `u32`; a sum or a product
that leaves `u32` ends the call, as does an index behind the end of a vector, and only
`wrapping_sub` goes round.
-/

namespace ArtForgeStudio.Images

abbrev Cell := Nat × Nat

def addU32 (a b : Nat) : Option Nat := if a + b < 2 ^ 32 then some (a + b) else none

def subU32 (a b : Nat) : Option Nat := if b ≤ a then some (a - b) else none

def mulU32 (a b : Nat) : Option Nat := if a * b < 2 ^ 32 then some (a * b) else none

def wrappingSub (a b : Nat) : Nat := (a + (2 ^ 32 - b)) % 2 ^ 32

/-- `y * width + x` -/
def cellIndex (width x y : Nat) : Option Nat := do
  let row ← mulU32 y width
  addU32 row x

/-- The four neighbours, of which those behind the upper and the left border come out at the
other end of `u32`. -/
def neighbours (x y : Nat) : Option (List Cell) := do
  let right ← addU32 x 1
  let below ← addU32 y 1
  pure [(wrappingSub x 1, y), (right, y), (x, wrappingSub y 1), (x, below)]

/-- Two cells share an edge. -/
def Adjacent (a b : Cell) : Prop :=
  (a.2 = b.2 ∧ (b.1 + 1 = a.1 ∨ a.1 + 1 = b.1)) ∨ (a.1 = b.1 ∧ (b.2 + 1 = a.2 ∨ a.2 + 1 = b.2))

def Inside (width height : Nat) (cell : Cell) : Prop := cell.1 < width ∧ cell.2 < height

/-- Where the vector keeps a cell. -/
def place (width : Nat) (cell : Cell) : Nat := cell.2 * width + cell.1

def cellAt (width index : Nat) : Cell := (index % width, index / width)

theorem Adjacent.symm {a b : Cell} (h : Adjacent a b) : Adjacent b a := by
  unfold Adjacent at *
  omega

section Grid

variable {width height x y index a b : Nat} {cell other : Cell}

theorem addU32_of_lt (h : a + b < 2 ^ 32) : addU32 a b = some (a + b) := if_pos h

theorem subU32_of_le (h : b ≤ a) : subU32 a b = some (a - b) := if_pos h

theorem mulU32_of_lt (h : a * b < 2 ^ 32) : mulU32 a b = some (a * b) := if_pos h

theorem place_lt (h : Inside width height cell) : place width cell < width * height := by
  obtain ⟨hx, hy⟩ := h
  calc cell.2 * width + cell.1 < cell.2 * width + width := by omega
    _ = (cell.2 + 1) * width := (Nat.succ_mul _ _).symm
    _ ≤ height * width := Nat.mul_le_mul_right width hy
    _ = width * height := Nat.mul_comm height width

theorem cellAt_place (h : cell.1 < width) : cellAt width (place width cell) = cell := by
  have hwidth : 0 < width := by omega
  ext
  · simp [cellAt, place, Nat.mod_eq_of_lt h]
  · simp [cellAt, place, Nat.add_comm, Nat.add_mul_div_right _ _ hwidth, Nat.div_eq_of_lt h]

theorem place_cellAt (width index : Nat) : place width (cellAt width index) = index := by
  rw [place, cellAt, Nat.mul_comm]
  exact Nat.div_add_mod index width

theorem inside_cellAt (h : index < width * height) : Inside width height (cellAt width index) := by
  have hwidth : 0 < width := Nat.pos_of_ne_zero fun hzero => by simp [hzero] at h
  exact ⟨Nat.mod_lt index hwidth, Nat.div_lt_of_lt_mul h⟩

theorem place_inj (h : cell.1 < width) (h' : other.1 < width)
    (heq : place width cell = place width other) : cell = other := by
  rw [← cellAt_place h, heq, cellAt_place h']

theorem cellIndex_of_inside (hbound : width * height < 2 ^ 32) (h : Inside width height (x, y)) :
    cellIndex width x y = some (place width (x, y)) := by
  have hlt := place_lt h
  dsimp only [place] at *
  rw [cellIndex, mulU32_of_lt (by omega)]
  exact addU32_of_lt (by omega)

/-- Inside the image the four coordinates are those of the adjacent cells. -/
theorem mem_neighbours (hwidth : width < 2 ^ 32) (hheight : height < 2 ^ 32)
    (h : Inside width height cell) :
    ∃ cells, neighbours cell.1 cell.2 = some cells ∧
      ∀ other, Inside width height other → (other ∈ cells ↔ Adjacent cell other) := by
  obtain ⟨x, y⟩ := cell
  obtain ⟨hx, hy⟩ := h
  dsimp only at hx hy
  refine ⟨[(wrappingSub x 1, y), (x + 1, y), (x, wrappingSub y 1), (x, y + 1)], ?_, ?_⟩
  · rw [neighbours, addU32_of_lt (by omega), addU32_of_lt (by omega)]
    rfl
  · rintro ⟨a, b⟩ ⟨ha, hb⟩
    dsimp only at ha hb
    have hleft : a = wrappingSub x 1 ↔ a + 1 = x := by
      unfold wrappingSub
      omega
    have habove : b = wrappingSub y 1 ↔ b + 1 = y := by
      unfold wrappingSub
      omega
    simp only [List.mem_cons, List.not_mem_nil, or_false, Prod.mk.injEq, hleft, habove, Adjacent]
    omega

end Grid

end ArtForgeStudio.Images
