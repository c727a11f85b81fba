import ArtForgeStudio.Images.Dilation
import ArtForgeStudio.Library.Floods
import Mathlib.Data.Finset.Card
import Mathlib.Order.Bounds.Basic
import Mathlib.Data.List.Forall2

/-! # The components of a mask

A flood from each set cell that no earlier one has come to, with a queue of indices.
-/

namespace ArtForgeStudio.Images

open ArtForgeStudio.Loops ArtForgeStudio.Floods Relation

structure ComponentBounds where
  left : Nat
  top : Nat
  right : Nat
  bottom : Nat
  pixels : Nat
  deriving DecidableEq

/-- The state of one flood. -/
structure Fill where
  visited : List Bool
  queue : List Nat
  bounds : ComponentBounds
  /-- the indices that were popped, which the code does not keep -/
  popped : List Nat

/-- The state between two floods. -/
structure Scan where
  visited : List Bool
  results : List ComponentBounds := []
  popped : List Nat := []

/-- `index as u32 % width` and `index as u32 / width` -/
def coordinates (width index : Nat) : Option Cell :=
  if width = 0 then none else some (cellAt width (index % 2 ^ 32))

def ComponentBounds.cover (bounds : ComponentBounds) (cell : Cell) (pixels : Nat) : ComponentBounds where
  left := min bounds.left cell.1
  top := min bounds.top cell.2
  right := max bounds.right cell.1
  bottom := max bounds.bottom cell.2
  pixels := pixels

section Model

variable (mask : List Bool) (width height : Nat)

/-- One neighbour: it is marked and queued when it is set and was not come to before. -/
def lookAt (state : List Bool × List Nat) (next : Cell) : Option (List Bool × List Nat) :=
  if width ≤ next.1 ∨ height ≤ next.2 then some state
  else do
    let index ← cellIndex width next.1 next.2
    let set ← mask[index]?
    if set then
      let seen ← state.1[index]?
      if seen then some state
      else
        let visited ← writeAt state.1 index true
        some (visited, state.2 ++ [index])
    else some state

/-- The `while` of a flood. -/
def fill : Nat → Fill → Option Fill
  | 0, _ => none
  | fuel + 1, state =>
    match state.queue with
    | [] => some state
    | index :: queue => do
      let cell ← coordinates width index
      let pixels ← addU32 state.bounds.pixels 1
      let cells ← neighbours cell.1 cell.2
      let (visited, queue) ← cells.foldlM (lookAt mask width height) (state.visited, queue)
      fill fuel { visited, queue, bounds := state.bounds.cover cell pixels,
                  popped := state.popped ++ [index] }

/-- One cell of the outer `for`. No flood pops more indices than there are cells. -/
def scanCell (minimumPixels : Nat) (scan : Scan) (start : Nat) : Option Scan := do
  let set ← mask[start]?
  if set then
    let seen ← scan.visited[start]?
    if seen then some scan
    else
      let visited ← writeAt scan.visited start true
      let (x, y) ← coordinates width start
      let filled ← fill mask width height (mask.length + 1)
        { visited, queue := [start], bounds := ⟨x, y, x, y, 0⟩, popped := scan.popped }
      some { visited := filled.visited, popped := filled.popped,
             results := if minimumPixels ≤ filled.bounds.pixels then scan.results ++ [filled.bounds]
               else scan.results }
  else some scan

def scanMask (minimumPixels : Nat) : Option Scan :=
  forRange mask.length (scanCell mask width height minimumPixels)
    { visited := List.replicate mask.length false }

def connectedComponentBounds (minimumPixels : Nat) : Option (List ComponentBounds) :=
  (scanMask mask width height minimumPixels).map (·.results)

end Model

example : connectedComponentBounds [true, true, false, false, true, false, true, false, true] 3 3 1
    = some [⟨0, 0, 1, 1, 3⟩, ⟨0, 2, 0, 2, 1⟩, ⟨2, 2, 2, 2, 1⟩] := by decide

section Components

variable (mask : List Bool) (width height : Nat)

/-- Two set cells share an edge. -/
def Joined (a b : Cell) : Prop := SetIn mask width height a ∧ SetIn mask width height b ∧ Adjacent a b

/-- The set cells that one of them is connected to. -/
def IsComponent (cells : Finset Cell) : Prop :=
  ∃ start, SetIn mask width height start ∧
    ∀ cell, cell ∈ cells ↔ ReflTransGen (Joined mask width height) start cell

/-- The smallest box around the cells, and how many pixels were counted. -/
structure Tight (cells : Set Cell) (pixels : Nat) (bounds : ComponentBounds) : Prop where
  left : IsLeast (Prod.fst '' cells) bounds.left
  top : IsLeast (Prod.snd '' cells) bounds.top
  right : IsGreatest (Prod.fst '' cells) bounds.right
  bottom : IsGreatest (Prod.snd '' cells) bounds.bottom
  pixels : bounds.pixels = pixels

end Components

section Flood

variable {mask visited : List Bool} {width height index : Nat} {queue popped : List Nat}
  {cells gone : List Cell} {cell : Cell} {state : List Bool × List Nat}

theorem coordinates_of_lt (hbound : width * height < 2 ^ 32) (h : index < width * height) :
    coordinates width index = some (cellAt width index) := by
  have hwidth : width ≠ 0 := fun hzero => by simp [hzero] at h
  rw [coordinates, if_neg hwidth, Nat.mod_eq_of_lt (h.trans hbound)]

/-- What looking at some cells does: those of them that are set and were not marked are marked and
queued, each once. -/
structure Looked (mask : List Bool) (width height : Nat) (visited : List Bool) (queue : List Nat)
    (gone : List Cell) (fresh : List Nat) (state : List Bool × List Nat) : Prop where
  queued : state.2 = queue ++ fresh
  nodup : fresh.Nodup
  new : ∀ i ∈ fresh, visited[i]? ≠ some true ∧
    ∃ cell ∈ gone, SetIn mask width height cell ∧ place width cell = i
  length : state.1.length = visited.length
  marked : ∀ i, state.1[i]? = some true ↔ visited[i]? = some true ∨ i ∈ fresh
  seen : ∀ cell ∈ gone, SetIn mask width height cell → state.1[place width cell]? = some true

theorem Looked.weaken {fresh : List Nat} (h : Looked mask width height visited queue gone fresh state)
    (hcell : SetIn mask width height cell → state.1[place width cell]? = some true) :
    Looked mask width height visited queue (gone ++ [cell]) fresh state where
  queued := h.queued
  nodup := h.nodup
  new i hi := by
    obtain ⟨hnew, other, hother, hset⟩ := h.new i hi
    exact ⟨hnew, other, List.mem_append_left _ hother, hset⟩
  length := h.length
  marked := h.marked
  seen other hother := by
    rcases List.mem_append.mp hother with hother | hother
    · exact h.seen other hother
    · rw [List.mem_singleton.mp hother]
      exact hcell

theorem lookAt_spec (hmask : mask.length = width * height) (hbound : width * height < 2 ^ 32)
    (hvisited : visited.length = mask.length) {fresh : List Nat}
    (h : Looked mask width height visited queue gone fresh state) (cell : Cell) :
    ∃ next, lookAt mask width height state cell = some next ∧
      ∃ fresh, Looked mask width height visited queue (gone ++ [cell]) fresh next := by
  rw [lookAt]
  by_cases houtside : width ≤ cell.1 ∨ height ≤ cell.2
  · rw [if_pos houtside]
    exact ⟨state, rfl, fresh, h.weaken fun hset => by
      have := hset.1
      unfold Inside at this
      omega⟩
  · have hinside : Inside width height cell := by
      unfold Inside
      omega
    have hplace := place_lt hinside
    obtain ⟨set, hset⟩ := exists_getElem? (hmask.symm ▸ hplace)
    obtain ⟨seen, hseen⟩ : ∃ seen, state.1[place width cell]? = some seen :=
      exists_getElem? (by rwa [h.length, hvisited, hmask])
    rw [if_neg houtside, cellIndex_of_inside hbound hinside]
    simp only [Option.bind_eq_bind, Option.bind_some, hset, hseen]
    cases set with
    | false =>
      refine ⟨state, rfl, fresh, h.weaken fun hlit => ?_⟩
      rw [hlit.2] at hset
      contradiction
    | true =>
      cases seen with
      | true => exact ⟨state, rfl, fresh, h.weaken fun _ => hseen⟩
      | false =>
        have hlt : place width cell < state.1.length := by rwa [h.length, hvisited, hmask]
        have hnew : place width cell ∉ fresh := fun hmem => by
          rw [(h.marked _).mpr (.inr hmem)] at hseen
          contradiction
        refine ⟨(state.1.set (place width cell) true, state.2 ++ [place width cell]), ?_,
          fresh ++ [place width cell], ?_, ?_, ?_, ?_, ?_, ?_⟩
        · rw [writeAt_of_lt hlt]
          rfl
        · rw [h.queued, List.append_assoc]
        · exact List.nodup_append.mpr ⟨h.nodup, List.nodup_singleton _, by
            rintro i hi j hj rfl
            exact hnew (List.mem_singleton.mp hj ▸ hi)⟩
        · intro i hi
          rcases List.mem_append.mp hi with hi | hi
          · obtain ⟨hold, other, hother, hlit⟩ := h.new i hi
            exact ⟨hold, other, List.mem_append_left _ hother, hlit⟩
          · rw [List.mem_singleton.mp hi]
            refine ⟨fun hold => ?_, cell, List.mem_append_right _ (List.mem_singleton_self _),
              ⟨hinside, hset⟩, rfl⟩
            rw [(h.marked _).mpr (.inl hold)] at hseen
            contradiction
        · rw [List.length_set, h.length]
        · intro i
          rw [getElem?_set_of_lt hlt, List.mem_append, List.mem_singleton]
          by_cases hi : i = place width cell
          · simp [hi]
          · simp [hi, h.marked i]
        · intro other hother hlit
          rw [getElem?_set_of_lt hlt]
          by_cases hi : place width other = place width cell
          · rw [if_pos hi]
          · rw [if_neg hi]
            rcases List.mem_append.mp hother with hother | hother
            · exact h.seen other hother hlit
            · exact absurd (congrArg (place width) (List.mem_singleton.mp hother)) hi

theorem foldlM_lookAt (hmask : mask.length = width * height) (hbound : width * height < 2 ^ 32)
    (hvisited : visited.length = mask.length) (queue : List Nat) (cells : List Cell) :
    ∃ next, cells.foldlM (lookAt mask width height) (visited, queue) = some next ∧
      ∃ fresh, Looked mask width height visited queue cells fresh next := by
  apply foldlM_rule
    (fun gone next => ∃ fresh, Looked mask width height visited queue gone fresh next)
  · exact ⟨[], (List.append_nil _).symm, List.nodup_nil, by simp, rfl, by simp, by simp⟩
  · rintro gone cell state - ⟨fresh, h⟩
    exact lookAt_spec hmask hbound hvisited h cell

/-- The cells whose indices are in the list. -/
def Among (width height : Nat) (indices : List Nat) (cell : Cell) : Prop :=
  Inside width height cell ∧ place width cell ∈ indices

/-- A flood on its way from `start`: `now` lists what it popped, `old` is what earlier floods
marked. -/
structure Filling (mask : List Bool) (width height : Nat) (start : Cell) (old : Nat → Prop)
    (visited : List Bool) (queue : List Nat) (bounds : ComponentBounds) (now : List Nat) :
    Prop where
  length : visited.length = mask.length
  nodup : (now ++ queue).Nodup
  new : ∀ i ∈ now ++ queue, ¬old i ∧ ∃ cell, SetIn mask width height cell ∧ place width cell = i
  marked : ∀ i, visited[i]? = some true ↔ old i ∨ i ∈ now ++ queue
  flood : Flood (· = start) (Joined mask width height) (Among width height now)
    (Among width height queue)
  bounds : Tight (insert start {cell | Among width height now cell}) now.length bounds

theorem among_append {left right : List Nat} :
    Among width height (left ++ right) cell ↔
      Among width height left cell ∨ Among width height right cell := by
  simp only [Among, List.mem_append]
  tauto

theorem among_singleton (h : index < width * height) :
    Among width height [index] cell ↔ cell = cellAt width index := by
  constructor
  · rintro ⟨hinside, hplace⟩
    rw [← List.mem_singleton.mp hplace, cellAt_place hinside.1]
  · rintro rfl
    exact ⟨inside_cellAt h, List.mem_singleton.mpr (place_cellAt width index)⟩

theorem Tight.cover {cells : Set Cell} {pixels : Nat} {bounds : ComponentBounds}
    (h : Tight cells pixels bounds) (cell : Cell) :
    Tight (insert cell cells) (pixels + 1) (bounds.cover cell (bounds.pixels + 1)) where
  left := by
    rw [Set.image_insert_eq, ComponentBounds.cover, min_comm bounds.left]
    exact h.left.insert cell.1
  top := by
    rw [Set.image_insert_eq, ComponentBounds.cover, min_comm bounds.top]
    exact h.top.insert cell.2
  right := by
    rw [Set.image_insert_eq, ComponentBounds.cover, max_comm bounds.right]
    exact h.right.insert cell.1
  bottom := by
    rw [Set.image_insert_eq, ComponentBounds.cover, max_comm bounds.bottom]
    exact h.bottom.insert cell.2
  pixels := congrArg (· + 1) h.pixels

section Pop

variable {start : Cell} {old : Nat → Prop} {bounds : ComponentBounds} {now rest fresh : List Nat}

/-- What is queued lies in the image. -/
theorem Filling.lt (h : Filling mask width height start old visited queue bounds now) {i : Nat}
    (hi : i ∈ now ++ queue) : i < width * height := by
  obtain ⟨-, cell, hset, rfl⟩ := h.new i hi
  exact place_lt hset.1

theorem Filling.setIn (h : Filling mask width height start old visited queue bounds now) {i : Nat}
    (hi : i ∈ now ++ queue) : SetIn mask width height (cellAt width i) := by
  obtain ⟨-, cell, hset, rfl⟩ := h.new i hi
  rwa [cellAt_place hset.1.1]

/-- The first index of the queue is popped and its neighbours are looked at. -/
theorem Filling.pop
    (hold : ∀ a b, Joined mask width height a b → old (place width b) → old (place width a))
    (h : Filling mask width height start old visited (index :: rest) bounds now)
    (hcells : ∀ other, Inside width height other →
      (other ∈ cells ↔ Adjacent (cellAt width index) other))
    (hlooked : Looked mask width height visited rest cells fresh state) :
    Filling mask width height start old state.1 state.2
      (bounds.cover (cellAt width index) (bounds.pixels + 1)) (now ++ [index]) := by
  have hindex : index ∈ now ++ index :: rest := List.mem_append_right _ List.mem_cons_self
  have hlt : index < width * height := h.lt hindex
  have hset : SetIn mask width height (cellAt width index) := h.setIn hindex
  have hsplit : now ++ [index] ++ state.2 = now ++ index :: rest ++ fresh := by
    rw [hlooked.queued]
    simp
  have hnow : ∀ cell, Among width height (now ++ [index]) cell ↔
      cell = cellAt width index ∨ Among width height now cell := fun cell => by
    rw [among_append, among_singleton hlt, or_comm]
  have hrest : ∀ cell, Among width height (index :: rest) cell ↔
      cell = cellAt width index ∨ Among width height rest cell := fun cell => by
    rw [← List.singleton_append, among_append, among_singleton hlt]
  refine ⟨hlooked.length.trans h.length, ?_, ?_, ?_, ?_, ?_⟩
  · rw [hsplit]
    refine List.nodup_append.mpr ⟨h.nodup, hlooked.nodup, ?_⟩
    rintro i hi j hj rfl
    exact (hlooked.new i hj).1 ((h.marked i).mpr (.inr hi))
  · intro i hi
    rw [hsplit] at hi
    rcases List.mem_append.mp hi with hi | hi
    · exact h.new i hi
    · obtain ⟨hnew, cell, -, hcell, hplace⟩ := hlooked.new i hi
      exact ⟨fun hold => hnew ((h.marked i).mpr (.inl hold)), cell, hcell, hplace⟩
  · intro i
    rw [hsplit, hlooked.marked, h.marked, List.mem_append (s := now ++ index :: rest), or_assoc]
  · have hflood : Flood (· = start) (Joined mask width height)
        (fun b => b = cellAt width index ∨ Among width height now b)
        (Among width height (rest ++ fresh)) := by
      refine h.flood.step ((hrest _).mpr (.inl rfl)) ?_ ?_ ?_
      · intro b hb
        rcases among_append.mp hb with hb | ⟨hinside, hb⟩
        · exact .inl ((hrest b).mpr (.inr hb))
        · obtain ⟨-, other, hother, hlit, hplace⟩ := hlooked.new _ hb
          obtain rfl := place_inj hlit.1.1 hinside.1 hplace
          exact .inr ⟨hset, hlit, (hcells other hinside).mp hother⟩
      · intro b hb
        exact ((hrest b).mp hb).imp_right fun hb => .inr (among_append.mpr (.inl hb))
      · rintro b hjoined
        obtain ⟨-, hlit, hadjacent⟩ := hjoined
        have hseen := hlooked.seen b ((hcells b hlit.1).mpr hadjacent) hlit
        rcases (hlooked.marked _).mp hseen with hmarked | hfresh
        · rcases (h.marked _).mp hmarked with hb | hb
          · exact absurd (hold _ b ⟨hset, hlit, hadjacent⟩ hb)
              (by simpa [place_cellAt] using (h.new index hindex).1)
          · rcases List.mem_append.mp hb with hb | hb
            · exact .inr (.inl ⟨hlit.1, hb⟩)
            · exact ((hrest b).mp ⟨hlit.1, hb⟩).imp_right fun hb =>
                .inr (among_append.mpr (.inl hb))
        · exact .inr (.inr (among_append.mpr (.inr ⟨hlit.1, hfresh⟩)))
    rw [hlooked.queued, show Among width height (now ++ [index]) = _ from
      funext fun b => propext (hnow b)]
    exact hflood
  · have hcells : ({cell | Among width height (now ++ [index]) cell} : Set Cell) =
        insert (cellAt width index) {cell | Among width height now cell} := Set.ext hnow
    rw [hcells, Set.insert_comm, List.length_append]
    exact h.bounds.cover _

theorem Filling.length_le (hmask : mask.length = width * height)
    (h : Filling mask width height start old visited queue bounds now) :
    now.length + queue.length ≤ mask.length := by
  have hsub : now ++ queue ⊆ List.range (width * height) := fun i hi =>
    List.mem_range.mpr (h.lt hi)
  have hle := (h.nodup.subperm hsub).length_le
  rwa [List.length_append, List.length_range, ← hmask] at hle

/-- The flood ends before its rounds do, and nothing is queued then. -/
theorem fill_spec (hmask : mask.length = width * height) (hbound : width * height < 2 ^ 32)
    (hwidth : width < 2 ^ 32) (hheight : height < 2 ^ 32)
    (hold : ∀ a b, Joined mask width height a b → old (place width b) → old (place width a))
    {fuel : Nat} (hfuel : mask.length < fuel + now.length) (before : List Nat)
    (h : Filling mask width height start old visited queue bounds now) :
    ∃ filled now', fill mask width height fuel ⟨visited, queue, bounds, before ++ now⟩ = some filled ∧
      filled.popped = before ++ now' ∧
      Filling mask width height start old filled.visited [] filled.bounds now' := by
  induction fuel generalizing visited queue bounds now with
  | zero =>
    have := h.length_le hmask
    omega
  | succ fuel ih =>
    cases queue with
    | nil => exact ⟨_, now, rfl, rfl, h⟩
    | cons index rest =>
      have hindex : index < width * height := h.lt (List.mem_append_right _ List.mem_cons_self)
      have hle := h.length_le hmask
      have hpixels := h.bounds.pixels
      rw [List.length_cons] at hle
      obtain ⟨cells, hcells, hadjacent⟩ := mem_neighbours hwidth hheight (inside_cellAt hindex)
      obtain ⟨state, hstate, fresh, hlooked⟩ := foldlM_lookAt hmask hbound h.length rest cells
      have hpop := h.pop hold hadjacent hlooked
      obtain ⟨filled, now', hfill, hpopped, hfilling⟩ := ih (by
        rw [List.length_append, List.length_singleton]
        omega) hpop
      refine ⟨filled, now', ?_, hpopped, hfilling⟩
      rw [fill]
      simp only [coordinates_of_lt hbound hindex, Option.bind_eq_bind, Option.bind_some, hcells,
        hstate]
      rw [addU32_of_lt (by omega), Option.bind_some, List.append_assoc]
      exact hfill

end Pop

end Flood

section Scan

variable {mask : List Bool} {width height minimumPixels index : Nat} {scan : Scan}
  {components : List (Finset Cell)} {start : Cell} {a b : Cell} {cells : Finset Cell}

theorem Joined.symm (h : Joined mask width height a b) : Joined mask width height b a :=
  ⟨h.2.1, h.1, h.2.2.symm⟩

theorem SetIn.of_reached (h : SetIn mask width height a)
    (hreach : ReflTransGen (Joined mask width height) a b) : SetIn mask width height b := by
  induction hreach with
  | refl => exact h
  | tail _ hjoined => exact hjoined.2.1

theorem IsComponent.setIn (h : IsComponent mask width height cells) (ha : a ∈ cells) :
    SetIn mask width height a := by
  obtain ⟨start, hstart, hcells⟩ := h
  exact hstart.of_reached ((hcells a).mp ha)

/-- Any of its cells tells what a component is. -/
theorem IsComponent.mem_iff (h : IsComponent mask width height cells) (ha : a ∈ cells) (b : Cell) :
    b ∈ cells ↔ ReflTransGen (Joined mask width height) a b := by
  obtain ⟨start, -, hcells⟩ := h
  rw [hcells]
  exact reached_iff_of_mem (fun _ _ => Joined.symm) ((hcells a).mp ha) b

theorem IsComponent.eq {other : Finset Cell} (h : IsComponent mask width height cells)
    (h' : IsComponent mask width height other) (ha : a ∈ cells) (ha' : a ∈ other) : cells = other := by
  ext b
  rw [h.mem_iff ha, h'.mem_iff ha']

/-- The scan has come to the cell `done`: the marked cells are those of the components that were
found, and no set cell before it is left out. -/
structure Scanned (mask : List Bool) (width height minimumPixels : Nat) (done : Nat) (scan : Scan)
    (components : List (Finset Cell)) : Prop where
  length : scan.visited.length = mask.length
  component : ∀ cells ∈ components, IsComponent mask width height cells
  nodup : components.Nodup
  marked : ∀ i, scan.visited[i]? = some true ↔ ∃ cells ∈ components, ∃ cell ∈ cells, place width cell = i
  covered : ∀ i < done, mask[i]? = some true → scan.visited[i]? = some true
  results : List.Forall₂ (fun (cells : Finset Cell) bounds => Tight cells cells.card bounds)
    (components.filter fun cells => minimumPixels ≤ cells.card) scan.results
  popped : scan.popped.Nodup
  visited : ∀ i, i ∈ scan.popped ↔ scan.visited[i]? = some true

/-- The cells of a flood that has ended, as a set. -/
def cellsOf (width : Nat) (now : List Nat) : Finset Cell := (now.map (cellAt width)).toFinset

theorem card_cellsOf {now : List Nat} (h : now.Nodup) : (cellsOf width now).card = now.length := by
  have hinj : Function.Injective (cellAt width) := fun i j heq => by
    rw [← place_cellAt width i, heq, place_cellAt]
  rw [cellsOf, List.toFinset_card_of_nodup (h.map hinj), List.length_map]

theorem mem_cellsOf {now : List Nat} (h : ∀ i ∈ now, i < width * height) :
    a ∈ cellsOf width now ↔ Among width height now a := by
  simp only [cellsOf, List.mem_toFinset, List.mem_map]
  constructor
  · rintro ⟨i, hi, rfl⟩
    exact ⟨inside_cellAt (h i hi), by rwa [place_cellAt]⟩
  · rintro ⟨hinside, hi⟩
    exact ⟨_, hi, cellAt_place hinside.1⟩

section Step

variable {visited : List Bool} {old : Nat → Prop} {bounds : ComponentBounds} {now : List Nat}

theorem Filling.initial (hmask : mask.length = width * height)
    (hvisited : visited.length = mask.length) (hset : mask[index]? = some true)
    (hnew : visited[index]? ≠ some true) :
    Filling mask width height (cellAt width index) (fun i => visited[i]? = some true)
      (visited.set index true) [index]
      ⟨(cellAt width index).1, (cellAt width index).2, (cellAt width index).1,
        (cellAt width index).2, 0⟩ [] := by
  have hlt : index < width * height := by
    rw [← hmask]
    exact (List.getElem?_eq_some_iff.mp hset).1
  have hnone : Among width height [] = fun _ => False :=
    funext fun cell => propext ⟨fun h => List.not_mem_nil h.2, False.elim⟩
  refine ⟨?_, ?_, ?_, ?_, ?_, ?_⟩
  · rw [List.length_set, hvisited]
  · exact List.nodup_singleton index
  · intro i hi
    obtain rfl := List.mem_singleton.mp hi
    exact ⟨hnew, cellAt width i, ⟨inside_cellAt hlt, by rwa [place_cellAt]⟩, place_cellAt width i⟩
  · intro i
    rw [getElem?_set_of_lt (by rwa [hvisited, hmask]), List.nil_append, List.mem_singleton]
    by_cases hi : i = index <;> simp [hi]
  · rw [hnone]
    exact Flood.initial fun cell => (among_singleton hlt).symm
  · rw [hnone]
    constructor <;> simp

theorem Filling.isComponent (h : Filling mask width height start old visited [] bounds now)
    (hstart : SetIn mask width height start) (a : Cell) :
    a ∈ cellsOf width now ↔ ReflTransGen (Joined mask width height) start a := by
  rw [mem_cellsOf fun i hi => h.lt (by simpa using hi),
    h.flood.done_iff (fun cell hcell => List.not_mem_nil hcell.2)]
  constructor
  · rintro ⟨_, rfl, hreach⟩
    exact hreach
  · exact fun hreach => ⟨start, rfl, hreach⟩

theorem Filling.tight (h : Filling mask width height start old visited [] bounds now)
    (hstart : SetIn mask width height start) :
    Tight (cellsOf width now : Set Cell) (cellsOf width now).card bounds := by
  have hnow : now.Nodup := by simpa using h.nodup
  have hcells : insert start {cell | Among width height now cell} = (cellsOf width now : Set Cell) := by
    ext cell
    rw [Set.mem_insert_iff, Set.mem_ofPred_eq, Finset.mem_coe, ← mem_cellsOf fun i hi => h.lt (by simpa using hi)]
    refine or_iff_right_of_imp ?_
    rintro rfl
    exact (h.isComponent hstart cell).mpr .refl
  rw [card_cellsOf hnow, ← hcells]
  exact h.bounds

/-- A flood from a new set cell adds its component. -/
theorem Scanned.flood (hmask : mask.length = width * height) (hbound : width * height < 2 ^ 32)
    (hwidth : width < 2 ^ 32) (hheight : height < 2 ^ 32)
    (h : Scanned mask width height minimumPixels index scan components)
    (hset : mask[index]? = some true) (hnew : scan.visited[index]? ≠ some true) :
    ∃ next components, scanCell mask width height minimumPixels scan index = some next ∧
      Scanned mask width height minimumPixels (index + 1) next components := by
  have hlt : index < width * height := by
    rw [← hmask]
    exact (List.getElem?_eq_some_iff.mp hset).1
  have hstart : SetIn mask width height (cellAt width index) :=
    ⟨inside_cellAt hlt, by rwa [place_cellAt]⟩
  have hold : ∀ a b, Joined mask width height a b →
      scan.visited[place width b]? = some true → scan.visited[place width a]? = some true := by
    intro a b hjoined hb
    obtain ⟨cells, hcells, cell, hcell, hplace⟩ := (h.marked _).mp hb
    have hcomponent := h.component cells hcells
    obtain rfl := place_inj (hcomponent.setIn hcell).1.1 hjoined.2.1.1.1 hplace
    exact (h.marked _).mpr ⟨cells, hcells, a,
      (hcomponent.mem_iff hcell a).mpr (.single hjoined.symm), rfl⟩
  obtain ⟨filled, now, hfill, hpopped, hfilling⟩ := fill_spec hmask hbound hwidth hheight hold
    (Nat.lt_succ_self _) scan.popped (.initial hmask h.length hset hnew)
  have hnow : now.Nodup := by simpa using hfilling.nodup
  have hcells := hfilling.isComponent hstart
  have htight := hfilling.tight hstart
  have hmarked : ∀ i, filled.visited[i]? = some true ↔
      scan.visited[i]? = some true ∨ ∃ cell ∈ cellsOf width now, place width cell = i := by
    intro i
    rw [hfilling.marked, List.append_nil]
    refine or_congr_right ?_
    simp only [cellsOf, List.mem_toFinset, List.mem_map]
    constructor
    · exact fun hi => ⟨_, ⟨i, hi, rfl⟩, place_cellAt width i⟩
    · rintro ⟨_, ⟨j, hj, rfl⟩, rfl⟩
      rwa [place_cellAt]
  have hfresh : cellsOf width now ∉ components := fun hmem =>
    hnew ((h.marked index).mpr ⟨_, hmem, _, (hcells _).mpr .refl, place_cellAt width index⟩)
  obtain ⟨seen, hseen⟩ : ∃ seen, scan.visited[index]? = some seen :=
    exists_getElem? (by rwa [h.length, hmask])
  obtain rfl : seen = false := by
    cases seen with
    | false => rfl
    | true => exact absurd hseen hnew
  refine ⟨{ visited := filled.visited, popped := filled.popped,
            results := if minimumPixels ≤ filled.bounds.pixels then scan.results ++ [filled.bounds]
              else scan.results },
    components ++ [cellsOf width now], ?_, ?_, ?_, ?_, ?_, ?_, ?_, ?_, ?_⟩
  · rw [scanCell, hset]
    simp only [Option.bind_eq_bind, Option.bind_some, hseen]
    rw [writeAt_of_lt (by rwa [h.length, hmask])]
    simp only [Option.bind_some, coordinates_of_lt hbound hlt]
    rw [show scan.popped = scan.popped ++ [] from (List.append_nil _).symm, hfill]
    rfl
  · exact hfilling.length
  · intro cells hmem
    rcases List.mem_append.mp hmem with hmem | hmem
    · exact h.component cells hmem
    · rw [List.mem_singleton.mp hmem]
      exact ⟨_, hstart, hcells⟩
  · refine List.nodup_append.mpr ⟨h.nodup, List.nodup_singleton _, ?_⟩
    rintro cells hmem _ hlast rfl
    exact hfresh (List.mem_singleton.mp hlast ▸ hmem)
  · intro i
    rw [hmarked, h.marked]
    simp only [List.mem_append, List.mem_singleton, or_and_right, exists_or, exists_eq_left]
  · intro i hi hlit
    rcases Nat.lt_succ_iff_lt_or_eq.mp hi with hi | rfl
    · exact (hmarked i).mpr (.inl (h.covered i hi hlit))
    · exact (hmarked i).mpr (.inr ⟨_, (hcells _).mpr .refl, place_cellAt width i⟩)
  · rw [List.filter_append, List.filter_singleton, ← htight.pixels]
    by_cases hminimum : minimumPixels ≤ filled.bounds.pixels
    · simp only [hminimum, decide_true, if_true]
      exact List.rel_append h.results (.cons htight .nil)
    · simp only [hminimum, decide_false, if_false, cond_false, List.append_nil]
      exact h.results
  · rw [hpopped]
    refine List.nodup_append.mpr ⟨h.popped, hnow, ?_⟩
    rintro i hi j hj rfl
    exact (hfilling.new i (List.mem_append_left _ hj)).1 ((h.visited i).mp hi)
  · intro i
    rw [hpopped, List.mem_append, h.visited, hfilling.marked, List.append_nil]

theorem Scanned.step (hmask : mask.length = width * height) (hbound : width * height < 2 ^ 32)
    (hwidth : width < 2 ^ 32) (hheight : height < 2 ^ 32) (hindex : index < mask.length)
    (h : Scanned mask width height minimumPixels index scan components) :
    ∃ next components, scanCell mask width height minimumPixels scan index = some next ∧
      Scanned mask width height minimumPixels (index + 1) next components := by
  obtain ⟨set, hset⟩ := exists_getElem? hindex
  obtain ⟨seen, hseen⟩ := exists_getElem? (h.length.symm ▸ hindex)
  have hstay (hcovered : mask[index]? = some true → scan.visited[index]? = some true) :
      Scanned mask width height minimumPixels (index + 1) scan components :=
    { h with
      covered := fun i hi hlit => by
        rcases Nat.lt_succ_iff_lt_or_eq.mp hi with hi | rfl
        · exact h.covered i hi hlit
        · exact hcovered hlit }
  cases set with
  | false =>
    refine ⟨scan, components, ?_, hstay fun hlit => ?_⟩
    · rw [scanCell, hset]
      rfl
    · rw [hset] at hlit
      contradiction
  | true =>
    cases seen with
    | true =>
      refine ⟨scan, components, ?_, hstay fun _ => hseen⟩
      rw [scanCell, hset]
      simp only [Option.bind_eq_bind, Option.bind_some, hseen]
      rfl
    | false => exact h.flood hmask hbound hwidth hheight hset (by simp [hseen])

end Step

theorem scanMask_spec (minimumPixels : Nat) (hmask : mask.length = width * height) (hbound : width * height < 2 ^ 32)
    (hwidth : width < 2 ^ 32) (hheight : height < 2 ^ 32) :
    ∃ scan, scanMask mask width height minimumPixels = some scan ∧
      ∃ components, Scanned mask width height minimumPixels mask.length scan components := by
  apply forRange_rule
    (fun done scan => ∃ components, Scanned mask width height minimumPixels done scan components)
  · exact ⟨[], by simp, by simp, List.nodup_nil, fun i => by simp [List.getElem?_replicate],
      fun i hi => absurd hi (Nat.not_lt_zero i), by simp, List.nodup_nil,
      fun i => by simp [List.getElem?_replicate]⟩
  · rintro index hindex scan ⟨components, h⟩
    obtain ⟨next, components, hnext, hscanned⟩ := h.step hmask hbound hwidth hheight hindex
    exact ⟨next, hnext, components, hscanned⟩

/-- The segmentation of a mask is exact: the dilation sets the cells near a set one, the bounds are
those of the components that are large enough, each listed once, and no cell is popped twice. -/
theorem segmentation_is_exact (mask : List Bool) (width height radius minimumPixels : Nat)
    (hpositive : 1 ≤ width ∧ 1 ≤ height) (hbound : width * height < 2 ^ 32)
    (hmask : mask.length = width * height)
    (hradius : width - 1 + radius + 1 < 2 ^ 32 ∧ height - 1 + radius + 1 < 2 ^ 32) :
    (∃ result, dilateMask mask width height radius = some result ∧ result.length = mask.length ∧
      ∀ cell, Inside width height cell → (SetIn result width height cell ↔
        ∃ other, SetIn mask width height other ∧ Near radius cell.1 other.1 ∧
          Near radius cell.2 other.2)) ∧
    ∃ results components, connectedComponentBounds mask width height minimumPixels = some results ∧
      components.Nodup ∧
      (∀ cells, cells ∈ components ↔
        IsComponent mask width height cells ∧ minimumPixels ≤ cells.card) ∧
      List.Forall₂ (fun (cells : Finset Cell) bounds => Tight cells cells.card bounds)
        components results ∧
      ∃ scan, scanMask mask width height minimumPixels = some scan ∧ scan.popped.Nodup := by
  refine ⟨dilateMask_spec hmask hbound (by omega) (by omega), ?_⟩
  obtain ⟨scan, hscan, components, h⟩ := scanMask_spec minimumPixels hmask hbound
    (by omega) (by omega)
  refine ⟨scan.results, components.filter fun cells => minimumPixels ≤ cells.card, ?_, h.nodup.filter _, ?_,
    h.results, scan, hscan, h.popped⟩
  · rw [connectedComponentBounds, hscan]
    rfl
  · intro cells
    rw [List.mem_filter, decide_eq_true_iff]
    refine and_congr_left fun _ => ⟨h.component cells, fun hcells => ?_⟩
    obtain ⟨start, hstart, hmem⟩ := hcells
    have hvisited := h.covered (place width start) (hmask ▸ place_lt hstart.1) hstart.2
    obtain ⟨other, hother, cell, hcell, hplace⟩ := (h.marked _).mp hvisited
    have hcomponent := h.component other hother
    obtain rfl := place_inj (hcomponent.setIn hcell).1.1 hstart.1.1 hplace
    rwa [IsComponent.eq ⟨cell, hstart, hmem⟩ hcomponent ((hmem cell).mpr .refl) hcell]

end Scan

/-- Two diagonal cells are two components. -/
theorem segmentation_is_exact_diagonal :
    ∃ results components, connectedComponentBounds [true, false, false, true] 2 2 1 = some results ∧
      components.Nodup ∧
      (∀ cells, cells ∈ components ↔
        IsComponent [true, false, false, true] 2 2 cells ∧ 1 ≤ cells.card) ∧
      List.Forall₂ (fun (cells : Finset Cell) bounds => Tight cells cells.card bounds)
        components results := by
  obtain ⟨results, components, hresults, hnodup, hmem, htight, -⟩ :=
    (segmentation_is_exact [true, false, false, true] 2 2 1 1 (by decide) (by decide) rfl
      (by decide)).2
  exact ⟨results, components, hresults, hnodup, hmem, htight⟩

end ArtForgeStudio.Images
