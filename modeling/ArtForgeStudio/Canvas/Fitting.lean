import ArtForgeStudio.Canvas.Descendants
import ArtForgeStudio.Canvas.Places
import ArtForgeStudio.Library.Ancestors

/-! # Groups around their children

A group takes in its children after the groups among them have done so. One pass leaves every group
exactly around its children, and a second pass finds nothing to change.
-/

namespace ArtForgeStudio.Canvas

open ArtForgeStudio.LocalStore ArtForgeStudio.Graphs Relation

/-- Whether the place of a group differs from the one that its children want. -/
def fitGroupChanges (notes : List CanvasNoteData) (groupId : String) : Bool :=
  let childIds := ((notes.filter (·.parentGroupId = groupId)).map (·.id)).toFinset
  match selectionBounds notes childIds, notes.find? (·.id = groupId) with
  | some bounds, some group =>
    group.x ≠ bounds.x - groupPadding || group.y ≠ bounds.y - groupTopPadding ||
      group.width ≠ bounds.width + groupPadding * 2 ||
      group.height ≠ bounds.height + groupTopPadding + groupPadding
  | _, _ => false

/-- The groups take in their children, the deepest first; and whether anything changed. -/
def fitGroupsToChildrenChanged (notes : List CanvasNoteData) : Bool × List CanvasNoteData :=
  let groups := (notes.filter (·.kind = "group")).map fun note => (note.id, groupDepth notes note.id)
  (groups.mergeSort fun left right => right.2 ≤ left.2).foldl
    (fun found group => (found.1 || fitGroupChanges found.2 group.1, fitGroup found.2 group.1))
    (false, notes)

variable {notes after : List CanvasNoteData} {note group : CanvasNoteData} {id other : String}
  {bounds : CanvasRect} {done : List String}

def childrenOf (notes : List CanvasNoteData) (groupId : String) : List CanvasNoteData :=
  notes.filter (·.parentGroupId = groupId)

def childBounds (notes : List CanvasNoteData) (groupId : String) : Option CanvasRect :=
  selectionBounds notes ((childrenOf notes groupId).map (·.id)).toFinset

/-- Different notes have different identifiers, so the children are found by theirs. -/
theorem filter_childIds (hunique : (notes.map (·.id)).Nodup) (id : String) :
    notes.filter (·.id ∈ ((childrenOf notes id).map (·.id)).toFinset) = childrenOf notes id := by
  apply List.filter_congr
  intro note hnote
  rw [decide_eq_decide]
  simp only [childrenOf, List.mem_toFinset, List.mem_map, List.mem_filter, decide_eq_true_eq]
  constructor
  · rintro ⟨child, ⟨hchild, hparent⟩, hid⟩
    rwa [← List.inj_on_of_nodup_map hunique hchild hnote hid]
  · exact fun hparent => ⟨note, ⟨hnote, hparent⟩, rfl⟩

theorem childBounds_spec (hunique : (notes.map (·.id)).Nodup)
    (h : childBounds notes id = some bounds) : BoundsOf (childrenOf notes id) bounds := by
  rw [← filter_childIds hunique id]
  exact selectionBounds_spec h

/-- The bounds depend on the children alone. -/
theorem childBounds_congr (hunique : (notes.map (·.id)).Nodup) (hafter : (after.map (·.id)).Nodup)
    (h : childrenOf after id = childrenOf notes id) :
    childBounds after id = childBounds notes id := by
  rw [childBounds, childBounds, selectionBounds, selectionBounds, filter_childIds hafter,
    filter_childIds hunique, h]

theorem exists_child (hunique : (notes.map (·.id)).Nodup) (h : childBounds notes id = some bounds) :
    ∃ child ∈ notes, child.parentGroupId = id := by
  obtain ⟨child, hchild, -⟩ := (childBounds_spec hunique h).left.1
  rw [childrenOf, List.mem_filter, decide_eq_true_eq] at hchild
  exact ⟨child, hchild⟩

theorem childBounds_isSome (hnote : note ∈ notes) (hparent : note.parentGroupId = id) :
    (childBounds notes id).isSome := by
  cases hbounds : childBounds notes id with
  | some bounds => rfl
  | none =>
    refine absurd ?_ (selectionBounds_eq_none hbounds note hnote)
    simp only [List.mem_toFinset]
    exact List.mem_map_of_mem (by simp [childrenOf, hnote, hparent])

/-- The group gets the padded bounds. -/
def placeGroup (groupId : String) (bounds : CanvasRect) (note : CanvasNoteData) : CanvasNoteData :=
  if note.id = groupId then { note with
    x := bounds.x - groupPadding, y := bounds.y - groupTopPadding
    width := bounds.width + groupPadding * 2
    height := bounds.height + groupTopPadding + groupPadding } else note

@[simp] theorem placeGroup_id (id : String) (bounds : CanvasRect) (note : CanvasNoteData) :
    (placeGroup id bounds note).id = note.id := by
  unfold placeGroup
  split <;> rfl

@[simp] theorem placeGroup_parent (id : String) (bounds : CanvasRect) (note : CanvasNoteData) :
    (placeGroup id bounds note).parentGroupId = note.parentGroupId := by
  unfold placeGroup
  split <;> rfl

theorem placeGroup_other (h : note.id ≠ id) : placeGroup id bounds note = note := if_neg h

theorem placeGroup_padded (h : note.id = id) : PaddedAround bounds (placeGroup id bounds note) := by
  rw [placeGroup, if_pos h]
  exact ⟨rfl, rfl, rfl, rfl⟩

/-- Where the identifiers differ, the first note with one is the only one. -/
theorem updateFirst_eq_map (hunique : (notes.map (·.id)).Nodup) (id : String)
    (change : CanvasNoteData → CanvasNoteData) :
    updateFirst (·.id = id) change notes =
      notes.map fun note => if note.id = id then change note else note := by
  induction notes with
  | nil => rfl
  | cons note notes ih =>
    simp only [List.map_cons, List.nodup_cons] at hunique
    unfold updateFirst
    by_cases hid : note.id = id
    · have hothers : ∀ other ∈ notes, (if other.id = id then change other else other) = other := by
        intro other hother
        apply if_neg
        intro hsame
        exact hunique.1 (hid.trans hsame.symm ▸ List.mem_map_of_mem hother)
      have hrest := (List.map_congr_left hothers).trans (List.map_id' notes)
      simp [hid, hrest]
    · simp [hid, ih hunique.2]

theorem fitGroup_of_none (h : childBounds notes id = none) : fitGroup notes id = notes := by
  unfold childBounds childrenOf at h
  simp only [fitGroup, h]

theorem fitGroup_of_some (hunique : (notes.map (·.id)).Nodup)
    (h : childBounds notes id = some bounds) : fitGroup notes id = notes.map (placeGroup id bounds) := by
  unfold childBounds childrenOf at h
  simp only [fitGroup, h, updateFirst_eq_map hunique]
  rfl

/-- The notes but for their places and sizes. -/
def unplaced (notes : List CanvasNoteData) : List CanvasNoteData :=
  notes.map fun note => { note with x := 0, y := 0, width := 0, height := 0 }

theorem unplaced_fitGroup (hunique : (notes.map (·.id)).Nodup) (id : String) :
    unplaced (fitGroup notes id) = unplaced notes := by
  cases hbounds : childBounds notes id with
  | none => rw [fitGroup_of_none hbounds]
  | some bounds =>
    rw [fitGroup_of_some hunique hbounds, unplaced, List.map_map]
    apply List.map_congr_left
    intro note _
    dsimp only [Function.comp_apply, placeGroup]
    split <;> rfl

theorem ids_of_unplaced (h : unplaced after = unplaced notes) :
    after.map (·.id) = notes.map (·.id) := by
  have hids := congrArg (List.map (·.id)) h
  simpa [unplaced, Function.comp_def] using hids

theorem mem_of_unplaced (h : unplaced after = unplaced notes) (hnote : note ∈ after) :
    ∃ old ∈ notes, old.id = note.id ∧ old.kind = note.kind ∧
      old.parentGroupId = note.parentGroupId := by
  have hmem : { note with x := 0, y := 0, width := 0, height := 0 } ∈ unplaced notes := by
    rw [← h]
    exact List.mem_map_of_mem hnote
  obtain ⟨old, hold, heq⟩ := List.mem_map.mp hmem
  have hid := congrArg CanvasNoteData.id heq
  have hkind := congrArg CanvasNoteData.kind heq
  have hparent := congrArg CanvasNoteData.parentGroupId heq
  exact ⟨old, hold, hid, hkind, hparent⟩

/-- The group of this identifier is exactly around its children. -/
def Fits (notes : List CanvasNoteData) (id : String) : Prop :=
  ∀ group ∈ notes, group.id = id → ∀ bounds, childBounds notes id = some bounds →
    PaddedAround bounds group

/-- No child of the group has this identifier. -/
def NotInside (notes : List CanvasNoteData) (id groupId : String) : Prop :=
  ∀ child ∈ notes, child.parentGroupId = groupId → child.id ≠ id

theorem childrenOf_placeGroup (h : NotInside notes id other) :
    childrenOf (notes.map (placeGroup id bounds)) other = childrenOf notes other := by
  rw [childrenOf, List.filter_map]
  simp only [Function.comp_def, placeGroup_parent]
  have hsame : ∀ child ∈ childrenOf notes other, placeGroup id bounds child = child := by
    intro child hchild
    rw [childrenOf, List.mem_filter, decide_eq_true_eq] at hchild
    exact placeGroup_other (h child hchild.1 hchild.2)
  exact (List.map_congr_left hsame).trans (List.map_id' _)

theorem placed_unique (hunique : (notes.map (·.id)).Nodup) (id : String) (bounds : CanvasRect) :
    ((notes.map (placeGroup id bounds)).map (·.id)).Nodup := by
  simpa [Function.comp_def] using hunique

theorem fits_fitGroup (hunique : (notes.map (·.id)).Nodup) (hself : NotInside notes id id) :
    Fits (fitGroup notes id) id := by
  cases hbounds : childBounds notes id with
  | none =>
    rw [fitGroup_of_none hbounds]
    intro group _ _ bounds hsome
    rw [hbounds] at hsome
    cases hsome
  | some bounds =>
    rw [fitGroup_of_some hunique hbounds]
    intro group hgroup hid wanted hwanted
    rw [childBounds_congr hunique (placed_unique hunique id bounds) (childrenOf_placeGroup hself),
      hbounds] at hwanted
    cases hwanted
    obtain ⟨note, -, rfl⟩ := List.mem_map.mp hgroup
    exact placeGroup_padded ((placeGroup_id id bounds note).symm.trans hid)

/-- A group that fits goes on to fit when a group is moved that is not among its children. -/
theorem Fits.fitGroup (h : Fits notes other) (hunique : (notes.map (·.id)).Nodup)
    (hother : other ≠ id) (hinside : NotInside notes id other) : Fits (fitGroup notes id) other := by
  cases hbounds : childBounds notes id with
  | none => rwa [fitGroup_of_none hbounds]
  | some bounds =>
    rw [fitGroup_of_some hunique hbounds]
    intro group hgroup hid wanted hwanted
    rw [childBounds_congr hunique (placed_unique hunique id bounds)
      (childrenOf_placeGroup hinside)] at hwanted
    obtain ⟨note, hnote, rfl⟩ := List.mem_map.mp hgroup
    rw [placeGroup_id] at hid
    rw [placeGroup_other (hid.trans_ne hother)]
    exact h note hnote hid wanted hwanted

/-- A group that fits is left as it is. -/
theorem Fits.fitGroup_eq (h : Fits notes id) (hunique : (notes.map (·.id)).Nodup) :
    Canvas.fitGroup notes id = notes ∧ fitGroupChanges notes id = false := by
  have hchanges : fitGroupChanges notes id =
      match childBounds notes id, notes.find? (·.id = id) with
      | some bounds, some group =>
        group.x ≠ bounds.x - groupPadding || group.y ≠ bounds.y - groupTopPadding ||
          group.width ≠ bounds.width + groupPadding * 2 ||
          group.height ≠ bounds.height + groupTopPadding + groupPadding
      | _, _ => false := rfl
  rw [hchanges]
  cases hbounds : childBounds notes id with
  | none => exact ⟨fitGroup_of_none hbounds, rfl⟩
  | some bounds =>
    constructor
    · rw [fitGroup_of_some hunique hbounds]
      have hsame : ∀ note ∈ notes, placeGroup id bounds note = note := by
        intro note hnote
        by_cases hid : note.id = id
        · have hplace := h note hnote hid bounds hbounds
          rw [placeGroup, if_pos hid, ← hplace.left, ← hplace.top, ← hplace.width, ← hplace.height]
        · exact placeGroup_other hid
      exact (List.map_congr_left hsame).trans (List.map_id' notes)
    · cases hgroup : notes.find? (·.id = id) with
      | none => rfl
      | some group =>
        have hid : group.id = id := by simpa using List.find?_some hgroup
        have hplace := h group (List.mem_of_find?_eq_some hgroup) hid bounds hbounds
        simp [hplace.left, hplace.top, hplace.width, hplace.height]

/-- After some groups have taken in their children these groups fit, and what is none of them, or
has no children, is as it was. -/
structure FitState (notes after : List CanvasNoteData) (done : List String) : Prop where
  shape : unplaced after = unplaced notes
  fits : ∀ id ∈ done, Fits after id
  others : ∀ note ∈ notes,
    (note.id ∈ done → ∀ child ∈ notes, child.parentGroupId ≠ note.id) → note ∈ after

theorem NotInside.of_shape (h : NotInside notes id other) (hshape : unplaced after = unplaced notes) :
    NotInside after id other := by
  intro child hchild hparent
  obtain ⟨old, hold, hid, -, hsame⟩ := mem_of_unplaced hshape hchild
  rw [← hid]
  exact h old hold (hsame.trans hparent)

theorem FitState.step (hunique : (notes.map (·.id)).Nodup) (h : FitState notes after done)
    (hself : NotInside notes id id) (hdone : ∀ other ∈ done, NotInside notes id other) :
    FitState notes (fitGroup after id) (done ++ [id]) := by
  have hafter : (after.map (·.id)).Nodup := ids_of_unplaced h.shape ▸ hunique
  constructor
  · rw [unplaced_fitGroup hafter, h.shape]
  · intro other hother
    by_cases hsame : other = id
    · subst hsame
      exact fits_fitGroup hafter (hself.of_shape h.shape)
    · have hmem : other ∈ done := by simpa [hsame] using hother
      exact (h.fits other hmem).fitGroup hafter hsame ((hdone other hmem).of_shape h.shape)
  · intro note hnote hchildless
    have hstays := h.others note hnote fun hmem => hchildless (List.mem_append_left _ hmem)
    cases hbounds : childBounds after id with
    | none => rwa [fitGroup_of_none hbounds]
    | some bounds =>
      rw [fitGroup_of_some hafter hbounds]
      refine List.mem_map.mpr ⟨note, hstays, placeGroup_other fun hid => ?_⟩
      obtain ⟨child, hchild, hparent⟩ := exists_child hafter hbounds
      obtain ⟨old, hold, -, -, hsame⟩ := mem_of_unplaced h.shape hchild
      exact hchildless (by simp [hid]) old hold ((hsame.trans hparent).trans hid.symm)

/-- When no group comes after one that it lies in, all groups fit in the end. -/
theorem FitState.run (hunique : (notes.map (·.id)).Nodup) (order : List String)
    (hself : ∀ id ∈ order, NotInside notes id id)
    (horder : order.Pairwise fun earlier later => NotInside notes later earlier) :
    FitState notes (order.foldl fitGroup notes) order := by
  induction order using List.reverseRecOn with
  | nil => exact ⟨rfl, by simp, fun note hnote _ => hnote⟩
  | append_singleton order id ih =>
    rw [List.pairwise_append] at horder
    have hearlier := ih (fun other hother => hself other (List.mem_append_left _ hother)) horder.1
    rw [List.foldl_append, List.foldl_cons, List.foldl_nil]
    exact hearlier.step hunique (hself id (by simp)) fun other hother =>
      horder.2.2 other hother id (List.mem_singleton_self id)

variable {parents : String → Option String} {current : String} {visited seen : Finset String}
  {fuel depth : Nat}

/-- Fuel that is enough may be more. -/
theorem depthFrom_more (h : depthFrom parents fuel current visited = some depth) :
    depthFrom parents (fuel + 1) current visited = some depth := by
  induction fuel generalizing current visited depth with
  | zero => cases h
  | succ fuel ih =>
    unfold depthFrom at h ⊢
    cases hparent : parents current with
    | none => rwa [hparent] at h
    | some parent =>
      rw [hparent] at h
      dsimp only at h ⊢
      split
      · rename_i hstop
        rwa [if_pos hstop] at h
      · rename_i hgo
        rw [if_neg hgo] at h
        obtain ⟨rest, hrest, rfl⟩ := Option.map_eq_some_iff.mp h
        rw [ih hrest, Option.map_some]

/-- What was passed before makes no difference if it is not met again. -/
theorem depthFrom_visited (hacyclic : Acyclic fun child parent => parents child = some parent)
    (hvisited : ∀ id ∈ visited, ¬TransGen (fun child parent => parents child = some parent) current id)
    (hseen : ∀ id ∈ seen, ¬TransGen (fun child parent => parents child = some parent) current id) :
    depthFrom parents fuel current visited = depthFrom parents fuel current seen := by
  induction fuel generalizing current visited seen with
  | zero => rfl
  | succ fuel ih =>
    unfold depthFrom
    cases hparent : parents current with
    | none => rfl
    | some parent =>
      have hnotVisited : parent ∉ visited := fun hmem => hvisited parent hmem (.single hparent)
      have hnotSeen : parent ∉ seen := fun hmem => hseen parent hmem (.single hparent)
      have hinsert : ∀ set : Finset String,
          (∀ id ∈ set, ¬TransGen (fun child parent => parents child = some parent) current id) →
          ∀ id ∈ insert parent set,
            ¬TransGen (fun child parent => parents child = some parent) parent id := by
        intro set hset id hid
        rcases Finset.mem_insert.mp hid with rfl | hid
        · exact hacyclic id
        · exact fun habove => hset id hid (.head hparent habove)
      simp only [hnotVisited, hnotSeen, or_false]
      rw [ih (hinsert visited hvisited) (hinsert seen hseen)]

theorem acyclic_parentOf (h : GroupForest notes) :
    Acyclic fun child parent => parentOf notes child = some parent :=
  h.acyclic.mono fun _ _ hparent => parentOf_eq_some hparent

/-- A group lies one deeper than the group around it. -/
theorem groupDepth_child (h : GroupForest notes) (hnote : note ∈ notes)
    (hparent : note.parentGroupId ≠ "") :
    groupDepth notes note.id = groupDepth notes note.parentGroupId + 1 := by
  have hchild := groupDepth_eq_some notes note.id
  have houter := groupDepth_eq_some notes note.parentGroupId
  unfold depthFrom at hchild
  simp only [parentOf_of_mem h.unique hnote, hparent, Finset.notMem_empty, or_self, if_false]
    at hchild
  obtain ⟨depth, hdepth, heq⟩ := Option.map_eq_some_iff.mp hchild
  have hfresh : depthFrom (parentOf notes) notes.length note.parentGroupId {note.parentGroupId} =
      depthFrom (parentOf notes) notes.length note.parentGroupId ∅ := by
    apply depthFrom_visited (acyclic_parentOf h)
    · intro id hid
      rw [Finset.mem_singleton.mp hid]
      exact acyclic_parentOf h _
    · simp
  rw [insert_empty_eq, hfresh] at hdepth
  rw [depthFrom_more hdepth] at houter
  cases houter
  exact heq.symm

/-- The groups in the order in which they take in their children. -/
def fitOrder (notes : List CanvasNoteData) : List String :=
  (((notes.filter (·.kind = "group")).map fun note => (note.id, groupDepth notes note.id)).mergeSort
    fun left right => right.2 ≤ left.2).map (·.1)

theorem fitGroupsToChildrenChanged_eq (notes : List CanvasNoteData) :
    fitGroupsToChildrenChanged notes = (fitOrder notes).foldl
      (fun found id => (found.1 || fitGroupChanges found.2 id, fitGroup found.2 id))
      (false, notes) := by
  rw [fitOrder, List.foldl_map]
  rfl

theorem foldl_fitGroup_snd (order : List String) (found : Bool × List CanvasNoteData) :
    (order.foldl (fun found id => (found.1 || fitGroupChanges found.2 id, fitGroup found.2 id))
      found).2 = order.foldl fitGroup found.2 := by
  induction order generalizing found with
  | nil => rfl
  | cons id order ih => exact ih _

/-- Whether anything changed is found out on the way; the notes come out the same. -/
theorem fitGroupsToChildrenChanged_snd (notes : List CanvasNoteData) :
    (fitGroupsToChildrenChanged notes).2 = fitGroupsToChildren notes := by
  have hfit : fitGroupsToChildren notes = (fitOrder notes).foldl fitGroup notes := by
    rw [fitOrder, List.foldl_map]
    rfl
  rw [fitGroupsToChildrenChanged_eq, foldl_fitGroup_snd, hfit]

theorem mem_fitOrder :
    id ∈ fitOrder notes ↔ ∃ group ∈ notes, group.kind = "group" ∧ group.id = id := by
  simp only [fitOrder, List.mem_map, List.mem_mergeSort, List.mem_filter, decide_eq_true_eq]
  constructor
  · rintro ⟨_, ⟨group, ⟨hgroup, hkind⟩, rfl⟩, rfl⟩
    exact ⟨group, hgroup, hkind, rfl⟩
  · rintro ⟨group, hgroup, hkind, rfl⟩
    exact ⟨_, ⟨group, ⟨hgroup, hkind⟩, rfl⟩, rfl⟩

theorem notInside_self (h : GroupForest notes) (id : String) : NotInside notes id id :=
  fun child hchild hparent hid => h.acyclic.irrefl id ⟨child, hchild, hid, hparent⟩

/-- No group comes after one that it lies in. -/
theorem fitOrder_pairwise (h : GroupForest notes)
    (hids : ∀ group ∈ notes, group.kind = "group" → group.id ≠ "") :
    (fitOrder notes).Pairwise fun earlier later => NotInside notes later earlier := by
  rw [fitOrder, List.pairwise_map]
  have hsorted : (((notes.filter (·.kind = "group")).map fun note =>
      (note.id, groupDepth notes note.id)).mergeSort fun left right => right.2 ≤ left.2).Pairwise
        fun left right => decide (right.2 ≤ left.2) = true := by
    apply List.pairwise_mergeSort
    · intro a b c
      simp only [decide_eq_true_eq]
      omega
    · intro a b
      simp only [Bool.or_eq_true, decide_eq_true_eq]
      omega
  refine hsorted.imp_of_mem fun {earlier later} hearlier hlater hdepth => ?_
  simp only [List.mem_mergeSort, List.mem_map, List.mem_filter, decide_eq_true_eq]
    at hearlier hlater
  obtain ⟨outer, ⟨houter, hkind⟩, rfl⟩ := hearlier
  obtain ⟨inner, -, rfl⟩ := hlater
  rintro child hchild hparent hid
  have hdeeper := groupDepth_child h hchild (hparent ▸ hids outer houter hkind)
  simp only [decide_eq_true_eq] at hparent hid hdepth
  rw [hparent, hid] at hdeeper
  omega

/-- Groups that all fit are left as they are. -/
theorem fit_again (hunique : (notes.map (·.id)).Nodup) {order : List String}
    (h : ∀ id ∈ order, Fits notes id) :
    order.foldl (fun found id => (found.1 || fitGroupChanges found.2 id, fitGroup found.2 id))
      (false, notes) = (false, notes) := by
  induction order with
  | nil => rfl
  | cons id order ih =>
    obtain ⟨hnotes, hchanges⟩ := (h id List.mem_cons_self).fitGroup_eq hunique
    rw [List.foldl_cons, hnotes, hchanges, Bool.or_false]
    exact ih fun other hother => h other (List.mem_cons_of_mem _ hother)

/-- One pass leaves every group exactly around its children, hence around all that lies below it,
and a second one changes nothing. -/
theorem fitting_is_exact (h : GroupForest notes)
    (hids : ∀ group ∈ notes, group.kind = "group" → group.id ≠ "") :
    let after := (fitGroupsToChildrenChanged notes).2
    (∀ group ∈ after, group.kind = "group" → (∃ child ∈ after, child.parentGroupId = group.id) →
      ∃ bounds, BoundsOf (childrenOf after group.id) bounds ∧ PaddedAround bounds group) ∧
    (∀ group ∈ after, group.kind = "group" →
      ∀ note, Below after group.id note → Encloses group note) ∧
    (∀ note ∈ notes, (note.kind = "group" → ∀ child ∈ notes, child.parentGroupId ≠ note.id) →
      note ∈ after) ∧
    unplaced after = unplaced notes ∧
    fitGroupsToChildrenChanged after = (false, after) := by
  intro after
  have hstate : FitState notes after (fitOrder notes) := by
    have hrun := FitState.run h.unique (fitOrder notes) (fun id _ => notInside_self h id)
      (fitOrder_pairwise h hids)
    simpa [after, fitGroupsToChildrenChanged_eq, foldl_fitGroup_snd] using hrun
  have hunique : (after.map (·.id)).Nodup := ids_of_unplaced hstate.shape ▸ h.unique
  have hfits : ∀ group ∈ after, group.kind = "group" → Fits after group.id := by
    intro group hgroup hkind
    obtain ⟨old, hold, hid, hsame, -⟩ := mem_of_unplaced hstate.shape hgroup
    exact hstate.fits _ (mem_fitOrder.mpr ⟨old, hold, hsame.trans hkind, hid⟩)
  have hexact : ∀ group ∈ after, group.kind = "group" →
      (∃ child ∈ after, child.parentGroupId = group.id) →
      ∃ bounds, BoundsOf (childrenOf after group.id) bounds ∧ PaddedAround bounds group := by
    rintro group hgroup hkind ⟨child, hchild, hparent⟩
    obtain ⟨bounds, hbounds⟩ := Option.isSome_iff_exists.mp (childBounds_isSome hchild hparent)
    have hplace := hfits group hgroup hkind group hgroup rfl bounds hbounds
    exact ⟨bounds, childBounds_spec hunique hbounds, hplace⟩
  have hencloses : ∀ group ∈ after, group.kind = "group" → ∀ child ∈ after,
      child.parentGroupId = group.id → Encloses group child := by
    intro group hgroup hkind child hchild hparent
    obtain ⟨bounds, hbounds, hplace⟩ := hexact group hgroup hkind ⟨child, hchild, hparent⟩
    exact hplace.encloses hbounds (by simp [childrenOf, hchild, hparent])
  refine ⟨hexact, fun group hgroup hkind note hbelow => ?_, fun note hnote hchildless => ?_,
    hstate.shape, ?_⟩
  · induction hbelow with
    | child hnote hparent => exact hencloses group hgroup hkind _ hnote hparent
    | deeper hinner hinnerKind hnote hparent ih =>
      exact ih.trans (hencloses _ hinner.mem hinnerKind _ hnote hparent)
  · apply hstate.others note hnote
    intro hmem child hchild
    obtain ⟨group, hgroup, hkind, hid⟩ := mem_fitOrder.mp hmem
    cases List.inj_on_of_nodup_map h.unique hgroup hnote hid
    exact hchildless hkind child hchild
  · rw [fitGroupsToChildrenChanged_eq]
    apply fit_again hunique
    intro id hid
    obtain ⟨group, hgroup, hkind, rfl⟩ := mem_fitOrder.mp hid
    exact hfits group hgroup hkind

/-- A note in a group in another group, which may have the empty identifier and a parent that is
not there. -/
def stackedNotes (named : Bool) : List CanvasNoteData :=
  let outer := if named then "outer" else ""
  [{ id := outer, kind := "group", content := "", x := 0, y := 0
     parentGroupId := if named then "" else "missing" },
    { id := "inner", kind := "group", content := "", x := 0, y := 0, parentGroupId := outer },
    { id := "note", content := "", x := 500, y := 500, parentGroupId := "inner" }]

theorem stackedNotes_forest (named : Bool) : GroupForest (stackedNotes named) := by
  let height (id : String) : Nat := if id = "note" then 3 else if id = "inner" then 2 else
    if id = (if named then "outer" else "") then 1 else 0
  apply GroupForest.of_height _ height
  · cases named <;> simp [stackedNotes, height]
  · cases named <;> decide

theorem mergeSort_pair {A : Type} (le : A → A → Bool) (a b : A) :
    [a, b].mergeSort le = if le a b then [a, b] else [b, a] := by
  simp [List.mergeSort, List.MergeSort.Internal.splitInTwo, List.merge]

theorem fitOrder_stacked (named : Bool) :
    fitOrder (stackedNotes named) = if named then ["inner", "outer"] else ["", "inner"] := by
  have hdepths : ((stackedNotes named).filter (·.kind = "group")).map (fun note =>
      (note.id, groupDepth (stackedNotes named) note.id)) =
      [(if named then "outer" else "", if named then 0 else 1),
        ("inner", if named then 1 else 0)] := by
    cases named <;> decide
  rw [fitOrder, hdepths, mergeSort_pair]
  cases named <;> rfl

theorem fitting_is_exact_stacked :
    (fitGroupsToChildrenChanged (stackedNotes true)).1 = true ∧
    fitGroupsToChildrenChanged (fitGroupsToChildrenChanged (stackedNotes true)).2 =
      (false, (fitGroupsToChildrenChanged (stackedNotes true)).2) := by
  refine ⟨?_, (fitting_is_exact (stackedNotes_forest true) (by decide)).2.2.2.2⟩
  rw [fitGroupsToChildrenChanged_eq, fitOrder_stacked]
  decide +kernel

/-- Where the notes are has no part in the order. -/
theorem fitOrder_unplaced (notes : List CanvasNoteData) :
    fitOrder (unplaced notes) = fitOrder notes := by
  have hparents : parentOf (unplaced notes) = parentOf notes := by
    funext id
    simp [parentOf, unplaced, Function.comp_def]
  have hdepth : ∀ id, groupDepth (unplaced notes) id = groupDepth notes id := by
    intro id
    rw [groupDepth, hparents, unplaced, List.length_map, groupDepth]
  simp only [fitOrder, hdepth]
  simp only [unplaced, List.filter_map, List.map_map, Function.comp_def]

/-- A group without an identifier is taken for the top: it fits before the group in it has moved. -/
theorem unnamed_group_fits_twice :
    GroupForest (stackedNotes false) ∧
    (fitGroupsToChildrenChanged (fitGroupsToChildrenChanged (stackedNotes false)).2).1 = true := by
  have hfirst : (fitGroupsToChildrenChanged (stackedNotes false)).2 =
      ["", "inner"].foldl fitGroup (stackedNotes false) := by
    rw [fitGroupsToChildrenChanged_eq, foldl_fitGroup_snd, fitOrder_stacked]
    rfl
  have hshape : unplaced (["", "inner"].foldl fitGroup (stackedNotes false)) =
      unplaced (stackedNotes false) := by decide +kernel
  refine ⟨stackedNotes_forest false, ?_⟩
  rw [hfirst, fitGroupsToChildrenChanged_eq, ← fitOrder_unplaced, hshape, fitOrder_unplaced,
    fitOrder_stacked]
  decide +kernel

end ArtForgeStudio.Canvas
