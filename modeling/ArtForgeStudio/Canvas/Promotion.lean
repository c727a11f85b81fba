import ArtForgeStudio.Canvas.Loading
import Mathlib.Data.List.Forall2

/-! # Notes whose groups go

When a group is removed or dissolved, the notes in it go to the group around it. This is done once
for each note: with several groups in each other it depends on what goes and in which order.
-/

namespace ArtForgeStudio.Canvas

open ArtForgeStudio.LocalStore ArtForgeStudio.Graphs Relation

variable {notes after : List CanvasNoteData} {note group : CanvasNoteData} {removed : Finset String}
  {id : String} {links : List CanvasLinkData}

/-- The notes that are left, in their order, each in the nearest group around it that is left. -/
def Promoted (notes : List CanvasNoteData) (removed : Finset String)
    (after : List CanvasNoteData) : Prop :=
  List.Forall₂ (fun note kept => kept.id = note.id ∧
    Nearest (ParentOf notes) (· ∈ removed) note.parentGroupId kept.parentGroupId)
    (notes.filter (·.id ∉ removed)) after

theorem promoted_map_iff {lift : CanvasNoteData → CanvasNoteData}
    (hid : ∀ note, (lift note).id = note.id) :
    Promoted notes removed ((notes.filter (·.id ∉ removed)).map lift) ↔
      ∀ note ∈ notes, note.id ∉ removed →
        Nearest (ParentOf notes) (· ∈ removed) note.parentGroupId (lift note).parentGroupId := by
  simp [Promoted, hid, List.forall₂_map_right_iff, List.forall₂_same]

/-- No note is left in a group that is gone. -/
theorem Promoted.parent_left (h : Promoted notes removed after) :
    ∀ note ∈ after, note.parentGroupId ∉ removed := by
  unfold Promoted at h
  generalize notes.filter (·.id ∉ removed) = left at h
  induction h with
  | nil => simp
  | cons hnote _ ih =>
    intro note hmem
    rcases List.mem_cons.mp hmem with rfl | hmem
    · exact hnote.2.kept
    · exact ih note hmem

theorem mem_selectedIds (hunique : (notes.map (·.id)).Nodup) (hnote : note ∈ notes) :
    note.id ∈ selectedIds notes ↔ note.selected := by
  simp only [selectedIds, List.mem_toFinset, List.mem_map, List.mem_filter]
  constructor
  · rintro ⟨other, ⟨hother, hselected⟩, hid⟩
    rwa [← List.inj_on_of_nodup_map hunique hother hnote hid]
  · exact fun hselected => ⟨note, ⟨hnote, hselected⟩, rfl⟩

theorem exists_of_mem_selectedIds (h : id ∈ selectedIds notes) : ∃ note ∈ notes, note.id = id := by
  simp only [selectedIds, List.mem_toFinset, List.mem_map, List.mem_filter] at h
  obtain ⟨note, hnote, hid⟩ := h
  exact ⟨note, hnote.1, hid⟩

/-- A note in a removed group goes to where the group was. -/
def promote (notes : List CanvasNoteData) (removed : Finset String) (note : CanvasNoteData) :
    CanvasNoteData :=
  { note with
    parentGroupId := (removedParent notes removed note.parentGroupId).getD note.parentGroupId }

theorem promote_id (notes : List CanvasNoteData) (removed : Finset String) (note : CanvasNoteData) :
    (promote notes removed note).id = note.id := rfl

theorem removeSelection_eq (notes : List CanvasNoteData) (links : List CanvasLinkData) :
    removeSelection notes links = (selectedIds notes,
      (notes.filter (·.id ∉ selectedIds notes)).map (promote notes (selectedIds notes)),
      withoutRemoved (selectedIds notes) links) := by
  simp only [removeSelection, Prod.mk.injEq, true_and, and_true, List.filter_map]
  rfl

theorem removedParent_of_mem (hunique : (notes.map (·.id)).Nodup) (hgroup : group ∈ notes)
    (hkind : group.kind = "group") (hremoved : group.id ∈ removed) :
    removedParent notes removed group.id = some group.parentGroupId := by
  apply lookup_reverse_of_mem (hunique.sublist (List.filter_sublist.map _))
  simp [hgroup, hkind, hremoved]

theorem removedParent_eq_none (hunique : (notes.map (·.id)).Nodup) (hnote : note ∈ notes)
    (h : note.id ∈ removed → note.kind ≠ "group") : removedParent notes removed note.id = none := by
  cases hparent : removedParent notes removed note.id with
  | none => rfl
  | some parent =>
    obtain ⟨other, hother, hid, -⟩ := mem_of_lookup_reverse hparent
    simp only [List.mem_filter, Bool.and_eq_true, decide_eq_true_eq] at hother
    cases List.inj_on_of_nodup_map hunique hother.1 hnote hid
    exact absurd hother.2.2 (h hother.2.1)

theorem removedParent_of_notMem (hid : id ∉ removed) : removedParent notes removed id = none := by
  cases hparent : removedParent notes removed id with
  | none => rfl
  | some parent =>
    obtain ⟨other, hother, rfl, -⟩ := mem_of_lookup_reverse hparent
    simp_all

/-- From a removed note its children get to a note that is left exactly if it is a group and lies in
no removed one. -/
theorem nearest_removedParent_iff (h : GroupForest notes) (hgroup : group ∈ notes)
    (hremoved : group.id ∈ removed) :
    Nearest (ParentOf notes) (· ∈ removed) group.id
        ((removedParent notes removed group.id).getD group.id) ↔
      group.kind = "group" ∧ group.parentGroupId ∉ removed := by
  by_cases hkind : group.kind = "group"
  · rw [removedParent_of_mem h.unique hgroup hkind hremoved, Option.getD_some,
      nearest_of_gone h.parent_unique hremoved ⟨group, hgroup, rfl, rfl⟩]
    constructor
    · exact fun hnearest => ⟨hkind, hnearest.kept⟩
    · exact fun hleft => .here hleft.2
  · rw [removedParent_eq_none h.unique hgroup fun _ => hkind, Option.getD_none]
    simp only [hkind, false_and, iff_false]
    exact fun hnearest => hnearest.kept hremoved

/-- Deletion promotes the notes that are left exactly if each of them that lies in a removed note
lies in a group, and that group in nothing that is removed. -/
theorem deletion_promotes_iff (h : GroupForest notes) (links : List CanvasLinkData) :
    (Promoted notes (selectedIds notes) (removeSelection notes links).2.1 ∧
      (∀ note ∈ (removeSelection notes links).2.1, note.parentGroupId ∉ selectedIds notes) ∧
      outsideGroups (removeSelection notes links).2.1 =
        outsideGroups (notes.filter (·.id ∉ selectedIds notes)) ∧
      (removeSelection notes links).2.2 = links.filter fun link =>
        link.sourceId ∉ selectedIds notes && link.targetId ∉ selectedIds notes) ↔
    ∀ note ∈ notes, note.id ∉ selectedIds notes →
      ∀ parent ∈ notes, parent.id = note.parentGroupId → parent.selected →
        parent.kind = "group" ∧ parent.parentGroupId ∉ selectedIds notes := by
  have hpromoted : Promoted notes (selectedIds notes) (removeSelection notes links).2.1 ↔
      ∀ note ∈ notes, note.id ∉ selectedIds notes →
        ∀ parent ∈ notes, parent.id = note.parentGroupId → parent.selected →
          parent.kind = "group" ∧ parent.parentGroupId ∉ selectedIds notes := by
    rw [removeSelection_eq, promoted_map_iff (promote_id notes (selectedIds notes))]
    refine forall₃_congr fun note hnote hleft => ?_
    constructor
    · rintro hnearest parent hparent hid hselected
      rw [← mem_selectedIds h.unique hparent] at hselected
      rw [← nearest_removedParent_iff h hparent hselected, hid]
      exact hnearest
    · intro hflat
      by_cases hgone : note.parentGroupId ∈ selectedIds notes
      · obtain ⟨parent, hparent, hid⟩ := exists_of_mem_selectedIds hgone
        have hselected : parent.id ∈ selectedIds notes := hid ▸ hgone
        have hgroup := hflat parent hparent hid ((mem_selectedIds h.unique hparent).mp hselected)
        have hnearest := (nearest_removedParent_iff h hparent hselected).mpr hgroup
        rwa [hid] at hnearest
      · rw [promote, removedParent_of_notMem hgone, Option.getD_none]
        exact .here hgone
  constructor
  · exact fun hall => hpromoted.mp hall.1
  · intro hflat
    have hleft := hpromoted.mpr hflat
    refine ⟨hleft, hleft.parent_left, ?_, ?_⟩
    · rw [removeSelection_eq, outsideGroups, List.map_map]
      rfl
    · rfl

/-- A note in a group in another group; the inner group is selected. -/
def nestedNotes (outerSelected : Bool) : List CanvasNoteData :=
  [{ id := "outer", kind := "group", content := "", x := 0, y := 0, selected := outerSelected },
    { id := "inner", kind := "group", content := "", x := 0, y := 0, selected := true
      parentGroupId := "outer" },
    { id := "note", content := "", x := 0, y := 0, parentGroupId := "inner" }]

theorem nestedNotes_forest (outerSelected : Bool) : GroupForest (nestedNotes outerSelected) := by
  let height (id : String) : Nat :=
    if id = "note" then 3 else if id = "inner" then 2 else if id = "outer" then 1 else 0
  apply GroupForest.of_height _ height
  · simp [nestedNotes, height]
  · simp [nestedNotes]

theorem deletion_promotes_nested :
    Promoted (nestedNotes false) (selectedIds (nestedNotes false))
      (removeSelection (nestedNotes false) []).2.1 :=
  ((deletion_promotes_iff (nestedNotes_forest false) []).mpr (by decide +kernel)).1

/-- With both groups deleted the note is left in the outer one. -/
theorem deletion_leaves_removed_parent :
    GroupForest (nestedNotes true) ∧
    (∀ note ∈ nestedNotes true, note.parentGroupId ≠ "" →
      ∃ parent ∈ nestedNotes true, parent.id = note.parentGroupId) ∧
    (removeSelection (nestedNotes true) []).2.1.map (fun note => (note.id, note.parentGroupId)) =
      [("note", "outer")] ∧
    "outer" ∈ selectedIds (nestedNotes true) ∧
    ¬Promoted (nestedNotes true) (selectedIds (nestedNotes true))
      (removeSelection (nestedNotes true) []).2.1 := by
  have hgone : ¬∀ note ∈ (removeSelection (nestedNotes true) []).2.1,
      note.parentGroupId ∉ selectedIds (nestedNotes true) := by decide +kernel
  exact ⟨nestedNotes_forest true, by decide +kernel, by decide +kernel, by decide +kernel,
    fun hpromoted => hgone hpromoted.parent_left⟩

/-- The selected groups, each with what it lies in. -/
def groupParents (notes : List CanvasNoteData) : List (String × String) :=
  (notes.filter isSelectedGroup).map fun note => (note.id, note.parentGroupId)

/-- One note, when the groups are dissolved one after the other. -/
def release (groups : List (String × String)) (note : CanvasNoteData) : CanvasNoteData :=
  groups.foldl (fun note group => if note.parentGroupId = group.1 then
    { note with parentGroupId := group.2, selected := true } else note) note

variable {groups other : List (String × String)} {outer : String}

theorem release_id (groups : List (String × String)) (note : CanvasNoteData) :
    (release groups note).id = note.id := by
  induction groups generalizing note with
  | nil => rfl
  | cons group groups ih =>
    refine (ih _).trans ?_
    dsimp only
    split <;> rfl

theorem foldl_releaseChildren (groups : List (String × String)) (notes : List CanvasNoteData) :
    groups.foldl (fun notes group => releaseChildren group.1 group.2 notes) notes =
      notes.map (release groups) := by
  induction groups generalizing notes with
  | nil => exact (List.map_id notes).symm
  | cons group groups ih =>
    rw [List.foldl_cons, ih, releaseChildren, List.map_map]
    rfl

theorem ungroupSelection_eq (notes : List CanvasNoteData) :
    ungroupSelection notes = (selectedGroupIds notes,
      (notes.filter (·.id ∉ selectedGroupIds notes)).map (release (groupParents notes))) := by
  have hids : ((groupParents notes).map (·.1)).toFinset = selectedGroupIds notes := by
    rw [groupParents, selectedGroupIds, List.map_map]
    rfl
  have hnotes : ungroupSelection notes = (((groupParents notes).map (·.1)).toFinset,
      ((groupParents notes).foldl (fun notes group => releaseChildren group.1 group.2 notes)
        notes).filter (·.id ∉ ((groupParents notes).map (·.1)).toFinset)) := rfl
  rw [hnotes, hids, foldl_releaseChildren, List.filter_map]
  simp only [Function.comp_def, release_id]

theorem release_of_notMem (h : ∀ group ∈ groups, group.1 ≠ note.parentGroupId) :
    release groups note = note := by
  induction groups with
  | nil => rfl
  | cons group groups ih =>
    have hfirst := h group List.mem_cons_self
    have hrest := ih fun other hmem => h other (List.mem_cons_of_mem _ hmem)
    rwa [release, List.foldl_cons, if_neg (Ne.symm hfirst)]

/-- A note in a group goes to where the group lies, if that is not dissolved. -/
theorem release_of_mem (hunique : (groups.map (·.1)).Nodup)
    (hgroup : (note.parentGroupId, outer) ∈ groups) (houter : ∀ group ∈ groups, group.1 ≠ outer) :
    release groups note = { note with parentGroupId := outer, selected := true } := by
  induction groups with
  | nil => cases hgroup
  | cons group groups ih =>
    simp only [List.map_cons, List.nodup_cons] at hunique
    rw [release, List.foldl_cons]
    rcases List.mem_cons.mp hgroup with rfl | hgroup
    · rw [if_pos rfl]
      exact release_of_notMem fun other hmem => houter other (List.mem_cons_of_mem _ hmem)
    · have hother : note.parentGroupId ≠ group.1 := fun heq =>
        hunique.1 (heq ▸ List.mem_map_of_mem hgroup)
      rw [if_neg hother]
      exact ih hunique.2 hgroup fun other hmem => houter other (List.mem_cons_of_mem _ hmem)

/-- In another order the groups release a note to the same place, if none of them is where it goes. -/
theorem release_perm (hperm : other.Perm groups) (hunique : (groups.map (·.1)).Nodup)
    (hflat : ∀ outer, (note.parentGroupId, outer) ∈ groups → ∀ group ∈ groups, group.1 ≠ outer) :
    release other note = release groups note := by
  by_cases hinside : ∃ outer, (note.parentGroupId, outer) ∈ groups
  · obtain ⟨outer, hgroup⟩ := hinside
    rw [release_of_mem hunique hgroup (hflat outer hgroup)]
    apply release_of_mem ((hperm.map _).nodup_iff.mpr hunique) (hperm.mem_iff.mpr hgroup)
    exact fun group hmem => hflat outer hgroup group (hperm.mem_iff.mp hmem)
  · have houtside : ∀ group ∈ groups, group.1 ≠ note.parentGroupId :=
      fun group hmem heq => hinside ⟨group.2, heq ▸ hmem⟩
    rw [release_of_notMem houtside]
    exact release_of_notMem fun group hmem => houtside group (hperm.mem_iff.mp hmem)

theorem mem_groupParents : (id, outer) ∈ groupParents notes ↔
    ∃ group ∈ notes, isSelectedGroup group ∧ group.id = id ∧ group.parentGroupId = outer := by
  simp only [groupParents, List.mem_map, List.mem_filter, Prod.mk.injEq, and_assoc]

theorem groupParents_unique (hunique : (notes.map (·.id)).Nodup) :
    ((groupParents notes).map (·.1)).Nodup := by
  rw [groupParents, List.map_map]
  exact hunique.sublist (List.filter_sublist.map _)

/-- Each selected group that holds a note that is left lies in no selected group. -/
def FlatSelection (notes : List CanvasNoteData) : Prop :=
  ∀ note ∈ notes, ¬isSelectedGroup note → ∀ group ∈ notes, isSelectedGroup group →
    group.id = note.parentGroupId → ∀ outer ∈ notes, isSelectedGroup outer →
      outer.id ≠ group.parentGroupId

theorem FlatSelection.parents (h : FlatSelection notes) (hnote : note ∈ notes)
    (hleft : note.id ∉ selectedGroupIds notes)
    (hgroup : (note.parentGroupId, outer) ∈ groupParents notes) :
    ∀ group ∈ groupParents notes, group.1 ≠ outer := by
  obtain ⟨inner, hinner, hselected, hid, rfl⟩ := mem_groupParents.mp hgroup
  rintro ⟨id, parent⟩ hmem rfl
  obtain ⟨around, haround, haroundSelected, hname, -⟩ := mem_groupParents.mp hmem
  have hnot : ¬isSelectedGroup note := fun hselected =>
    hleft (mem_selectedGroupIds.mpr ⟨note, hnote, hselected, rfl⟩)
  exact h note hnote hnot inner hinner hselected hid around haround haroundSelected hname

theorem FlatSelection.promoted (h : FlatSelection notes) (hunique : (notes.map (·.id)).Nodup) :
    Promoted notes (selectedGroupIds notes) (ungroupSelection notes).2 := by
  rw [ungroupSelection_eq, promoted_map_iff (release_id (groupParents notes))]
  intro note hnote hleft
  by_cases hgone : note.parentGroupId ∈ selectedGroupIds notes
  · obtain ⟨group, hgroup, hselected, hid⟩ := mem_selectedGroupIds.mp hgone
    have hmem : (note.parentGroupId, group.parentGroupId) ∈ groupParents notes :=
      mem_groupParents.mpr ⟨group, hgroup, hselected, hid, rfl⟩
    have hflat := h.parents hnote hleft hmem
    rw [release_of_mem (groupParents_unique hunique) hmem hflat]
    apply Nearest.up hgone ⟨group, hgroup, hid, rfl⟩
    apply Nearest.here
    intro houter
    obtain ⟨outer, houter, houterSelected, hname⟩ := mem_selectedGroupIds.mp houter
    exact hflat _ (mem_groupParents.mpr ⟨outer, houter, houterSelected, rfl, rfl⟩) hname
  · rw [release_of_notMem]
    · exact .here hgone
    · rintro ⟨id, parent⟩ hmem rfl
      obtain ⟨group, hgroup, hselected, hid, -⟩ := mem_groupParents.mp hmem
      exact hgone (mem_selectedGroupIds.mpr ⟨group, hgroup, hselected, hid⟩)

theorem FlatSelection.perm {permuted : List CanvasNoteData} (h : FlatSelection notes)
    (hunique : (notes.map (·.id)).Nodup) (hperm : permuted.Perm notes) :
    (ungroupSelection permuted).2.Perm (ungroupSelection notes).2 := by
  have hids : selectedGroupIds permuted = selectedGroupIds notes := by
    ext id
    simp only [mem_selectedGroupIds, hperm.mem_iff]
  have hgroups : (groupParents permuted).Perm (groupParents notes) := (hperm.filter _).map _
  rw [ungroupSelection_eq, ungroupSelection_eq, hids]
  have hsame : (notes.filter (·.id ∉ selectedGroupIds notes)).map (release (groupParents permuted)) =
      (notes.filter (·.id ∉ selectedGroupIds notes)).map (release (groupParents notes)) := by
    apply List.map_congr_left
    intro note hnote
    simp only [List.mem_filter, decide_eq_true_eq] at hnote
    exact release_perm hgroups (groupParents_unique hunique) fun outer hgroup =>
      h.parents hnote.1 hnote.2 hgroup
  rw [← hsame]
  exact (hperm.filter _).map _

/-- Dissolved from the outside in, a group leaves its notes in a group that is gone. -/
theorem release_outer_first (h : GroupForest notes) {outer : CanvasNoteData}
    (hgroup : group ∈ notes) (hselected : isSelectedGroup group) (hid : group.id = note.parentGroupId)
    (houter : outer ∈ notes) (houterSelected : isSelectedGroup outer)
    (hname : outer.id = group.parentGroupId) :
    (release (groupParents (outer :: notes.erase outer)) note).parentGroupId = outer.id := by
  have hperm : (outer :: notes.erase outer).Perm notes := (List.perm_cons_erase houter).symm
  have hunique := (hperm.map (·.id)).nodup_iff.mpr h.unique
  have hother : outer.id ≠ group.id := by
    intro heq
    exact h.acyclic.irrefl group.id ⟨group, hgroup, rfl, hname.symm.trans heq⟩
  have hinner : (note.parentGroupId, outer.id) ∈ groupParents (notes.erase outer) := by
    apply mem_groupParents.mpr
    refine ⟨group, ?_, hselected, hid, hname.symm⟩
    rcases List.mem_cons.mp (hperm.mem_iff.mpr hgroup) with rfl | hmem
    · exact absurd rfl hother
    · exact hmem
  have hgone : ∀ rest ∈ groupParents (notes.erase outer), rest.1 ≠ outer.id := by
    rintro ⟨id, parent⟩ hmem rfl
    obtain ⟨rest, hrest, -, hrestId, -⟩ := mem_groupParents.mp hmem
    rw [List.map_cons, List.nodup_cons] at hunique
    exact hunique.1 (hrestId ▸ List.mem_map_of_mem hrest)
  rw [List.map_cons, List.nodup_cons] at hunique
  have hparents : groupParents (outer :: notes.erase outer) =
      (outer.id, outer.parentGroupId) :: groupParents (notes.erase outer) := by
    simp [groupParents, houterSelected]
  rw [hparents, release, List.foldl_cons, if_neg fun heq => hother (heq.symm.trans hid.symm)]
  exact congrArg CanvasNoteData.parentGroupId
    (release_of_mem (groupParents_unique hunique.2) hinner hgone)

/-- Dissolution works, in every order of the notes, exactly if no note is left in a selected group
that lies in a selected group. -/
theorem ungrouping_promotes_iff (h : GroupForest notes) :
    ((ungroupSelection notes).1 = selectedGroupIds notes ∧
      Promoted notes (selectedGroupIds notes) (ungroupSelection notes).2 ∧
      ∀ permuted : List CanvasNoteData, permuted.Perm notes →
        (ungroupSelection permuted).2.Perm (ungroupSelection notes).2) ↔
    FlatSelection notes := by
  constructor
  · rintro ⟨-, hpromoted, hperm⟩ note hnote hleft group hgroup hselected hid outer houter
      houterSelected hname
    let permuted := outer :: notes.erase outer
    have hreordered : permuted.Perm notes := (List.perm_cons_erase houter).symm
    have hwrong := release_outer_first h hgroup hselected hid houter houterSelected hname
    have hstays : release (groupParents permuted) note ∈ (ungroupSelection permuted).2 := by
      rw [ungroupSelection_eq]
      apply List.mem_map_of_mem
      rw [List.mem_filter, decide_eq_true_eq, mem_selectedGroupIds]
      refine ⟨hreordered.mem_iff.mpr hnote, ?_⟩
      rintro ⟨other, hother, hotherSelected, hsame⟩
      cases List.inj_on_of_nodup_map h.unique (hreordered.mem_iff.mp hother) hnote hsame
      exact hleft hotherSelected
    have hparent := hpromoted.parent_left _ ((hperm permuted hreordered).mem_iff.mp hstays)
    rw [hwrong] at hparent
    exact hparent (mem_selectedGroupIds.mpr ⟨outer, houter, houterSelected, rfl⟩)
  · intro hflat
    exact ⟨by rw [ungroupSelection_eq], hflat.promoted h.unique,
      fun permuted hperm => hflat.perm h.unique hperm⟩

theorem ungrouping_promotes_nested :
    Promoted (nestedNotes false) (selectedGroupIds (nestedNotes false))
      (ungroupSelection (nestedNotes false)).2 := by
  have hflat : FlatSelection (nestedNotes false) := by
    unfold FlatSelection
    decide +kernel
  exact ((ungrouping_promotes_iff (nestedNotes_forest false)).mpr hflat).2.1

/-- With both groups dissolved, the outer one first, the note is left in the outer one. -/
theorem ungrouping_leaves_removed_parent :
    GroupForest (nestedNotes true) ∧
    (∀ note ∈ nestedNotes true, note.parentGroupId ≠ "" →
      ∃ parent ∈ nestedNotes true, parent.id = note.parentGroupId) ∧
    (ungroupSelection (nestedNotes true)).2.map (fun note => (note.id, note.parentGroupId)) =
      [("note", "outer")] ∧
    "outer" ∈ selectedGroupIds (nestedNotes true) ∧
    (ungroupSelection (nestedNotes true).reverse).2.map
      (fun note => (note.id, note.parentGroupId)) = [("note", "")] ∧
    ¬Promoted (nestedNotes true) (selectedGroupIds (nestedNotes true))
      (ungroupSelection (nestedNotes true)).2 := by
  have hgone : ¬∀ note ∈ (ungroupSelection (nestedNotes true)).2,
      note.parentGroupId ∉ selectedGroupIds (nestedNotes true) := by decide +kernel
  exact ⟨nestedNotes_forest true, by decide +kernel, by decide +kernel, by decide +kernel,
    by decide +kernel, fun hpromoted => hgone hpromoted.parent_left⟩

end ArtForgeStudio.Canvas
