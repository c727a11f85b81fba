import ArtForgeStudio.Canvas.Callbacks
import ArtForgeStudio.Canvas.Fitting
import ArtForgeStudio.Canvas.Promotion

/-! # One note goes

The removal of a note is written three times: for the note alone, for a selection, and for a group
that is dissolved. All of them leave the same notes, and the first two the same links.
-/

namespace ArtForgeStudio.Canvas

open ArtForgeStudio.LocalStore ArtForgeStudio.Graphs Relation

variable {notes after : List CanvasNoteData} {note group : CanvasNoteData} {id other : String}
  {removed : Finset String}

def selectOnly (id : String) (notes : List CanvasNoteData) : List CanvasNoteData :=
  notes.map fun note => { note with selected := decide (note.id = id) }

def unselected (notes : List CanvasNoteData) : List CanvasNoteData :=
  notes.map fun note => { note with selected := false }

/-- A note lies in a group of the canvas, or in none. -/
structure LieInGroups (notes : List CanvasNoteData) : Prop where
  present : ∀ note ∈ notes, note.parentGroupId ≠ "" → ∃ group ∈ notes, group.id = note.parentGroupId
  group : ∀ note ∈ notes, ∀ group ∈ notes, group.id = note.parentGroupId → group.kind = "group"

def BothEnds (notes : List CanvasNoteData) (link : CanvasLinkData) : Prop :=
  link.sourceId ∈ notes.map (·.id) ∧ link.targetId ∈ notes.map (·.id)

/-- The notes that are left when one goes; those that lay in it lie where it lay. -/
def leftNotes (notes : List CanvasNoteData) (id : String) : List CanvasNoteData :=
  (notes.filter (·.id ∉ ({id} : Finset String))).map (promote notes {id})

def groupOf (notes : List CanvasNoteData) (id : String) : Option CanvasNoteData :=
  notes.find? fun note => note.id = id && note.kind = "group"

theorem groupOf_eq_some (h : groupOf notes id = some group) :
    group ∈ notes ∧ group.id = id ∧ group.kind = "group" := by
  have hfound := List.find?_some h
  simp only [Bool.and_eq_true, decide_eq_true_eq] at hfound
  exact ⟨List.mem_of_find?_eq_some h, hfound⟩

theorem groupOf_eq_none (h : groupOf notes id = none) :
    ∀ note ∈ notes, note.id = id → note.kind ≠ "group" := by
  intro note hnote hid
  have hnot := List.find?_eq_none.mp h note hnote
  simpa [hid] using hnot

/-- Where one group goes, only what lies in it is released. -/
theorem promote_of_group (hunique : (notes.map (·.id)).Nodup) (hgroup : groupOf notes id = some group)
    (note : CanvasNoteData) :
    promote notes {id} note =
      if note.parentGroupId = id then { note with parentGroupId := group.parentGroupId }
      else note := by
  obtain ⟨hmem, rfl, hkind⟩ := groupOf_eq_some hgroup
  split
  · next hinside =>
    rw [promote, hinside, removedParent_of_mem hunique hmem hkind (Finset.mem_singleton_self _)]
    rfl
  · next houtside =>
    rw [promote, removedParent_of_notMem (by simpa using houtside)]
    rfl

/-- Nothing lies in a note that is not a group, as far as the removal is concerned. -/
theorem promote_of_none (hgroup : groupOf notes id = none) (note : CanvasNoteData) :
    promote notes {id} note = note := by
  cases hparent : removedParent notes {id} note.parentGroupId with
  | none =>
    rw [promote, hparent]
    rfl
  | some parent =>
    obtain ⟨lost, hlost, -, -⟩ := mem_of_lookup_reverse hparent
    simp only [List.mem_filter, Finset.mem_singleton, Bool.and_eq_true, decide_eq_true_eq] at hlost
    exact absurd hlost.2.2 (groupOf_eq_none hgroup lost hlost.1 hlost.2.1)

theorem leftNotes_of_group (hunique : (notes.map (·.id)).Nodup)
    (hgroup : groupOf notes id = some group) :
    leftNotes notes id = (notes.map fun (note : CanvasNoteData) =>
      if note.parentGroupId = id then { note with parentGroupId := group.parentGroupId }
      else note).filter (·.id ≠ id) := by
  rw [leftNotes, funext (promote_of_group hunique hgroup), List.filter_map]
  congr 1
  apply List.filter_congr
  intro note _
  dsimp only [Function.comp_apply]
  split <;> simp

theorem leftNotes_of_none (hgroup : groupOf notes id = none) :
    leftNotes notes id = notes.filter (·.id ≠ id) := by
  rw [leftNotes, funext (promote_of_none hgroup)]
  simp

/-- The callback of the source releases the notes first and then takes the one away. -/
theorem removeCanvasNode_eq (app : CanvasApp) (hunique : (app.store.canvasNotes.map (·.id)).Nodup)
    (hid : id ∈ app.store.canvasNotes.map (·.id)) :
    app.removeCanvasNode id = app.edit (fitGroupsToChildren (leftNotes app.store.canvasNotes id))
      (withoutRemoved {id} app.store.canvasLinks) := by
  have hpresent : app.store.canvasNotes.any (·.id = id) := by
    simpa [List.any_eq_true] using hid
  have hlinks : withoutRemoved {id} app.store.canvasLinks =
      app.store.canvasLinks.filter fun link => link.sourceId ≠ id && link.targetId ≠ id := by
    simp [withoutRemoved]
  unfold CanvasApp.removeCanvasNode
  rw [if_pos hpresent, hlinks]
  split
  · next group hgroup => rw [leftNotes_of_group hunique hgroup]
  · next hgroup => rw [leftNotes_of_none hgroup]

theorem selectedIds_selectOnly (hid : id ∈ notes.map (·.id)) :
    selectedIds (selectOnly id notes) = {id} := by
  obtain ⟨note, hnote, rfl⟩ := List.mem_map.mp hid
  ext other
  simp only [selectedIds, selectOnly, List.mem_toFinset, List.mem_map, List.mem_filter,
    Finset.mem_singleton]
  constructor
  · rintro ⟨_, ⟨⟨other, -, rfl⟩, hselected⟩, rfl⟩
    simpa using hselected
  · rintro rfl
    exact ⟨_, ⟨⟨note, hnote, rfl⟩, by simp⟩, rfl⟩

theorem promote_selectOnly (id : String) (notes : List CanvasNoteData) (removed : Finset String) :
    promote (selectOnly id notes) removed = promote notes removed := by
  funext note
  simp only [promote, removedParent, selectOnly, List.filter_map, List.map_map]
  rfl

/-- The selection of the note alone leaves the same notes, each selected or not. -/
theorem unselected_removeSelection (hid : id ∈ notes.map (·.id)) (links : List CanvasLinkData) :
    unselected (removeSelection (selectOnly id notes) links).2.1 =
      unselected (leftNotes notes id) := by
  rw [removeSelection_eq, selectedIds_selectOnly hid, promote_selectOnly]
  simp only [unselected, leftNotes, selectOnly, List.filter_map, List.map_map]
  rfl

/-- The dissolution of a group leaves the same notes, and selects those that lay in it. -/
theorem unselected_ungroupNode (hunique : (notes.map (·.id)).Nodup)
    (hgroup : groupOf notes id = some group) :
    ungroupNode notes id = (true, (releaseChildren id group.parentGroupId notes).filter (·.id ≠ id)) ∧
      unselected (ungroupNode notes id).2 = unselected (leftNotes notes id) := by
  have hungroup : ungroupNode notes id =
      (true, (releaseChildren id group.parentGroupId notes).filter (·.id ≠ id)) := by
    unfold ungroupNode
    split
    · next hnone => exact absurd (hnone.symm.trans hgroup) nofun
    · next found hfound => rw [Option.some.inj (hfound.symm.trans hgroup)]
  refine ⟨hungroup, ?_⟩
  rw [hungroup, leftNotes_of_group hunique hgroup]
  simp only [unselected, releaseChildren, List.filter_map, List.map_map]
  have hids : ∀ note ∈ notes, ((fun note : CanvasNoteData => decide (note.id ≠ id)) ∘ fun note =>
      if note.parentGroupId = id then
        { note with parentGroupId := group.parentGroupId, selected := true } else note) note =
      ((fun note : CanvasNoteData => decide (note.id ≠ id)) ∘ fun note =>
      if note.parentGroupId = id then
        { note with parentGroupId := group.parentGroupId } else note) note := by
    intro note _
    dsimp only [Function.comp_apply]
    split <;> rfl
  rw [List.filter_congr hids]
  apply List.map_congr_left
  intro note _
  dsimp only [Function.comp_apply]
  split <;> rfl

theorem unplaced_foldl_fitGroup (groups : List String) (hunique : (notes.map (·.id)).Nodup) :
    unplaced (groups.foldl fitGroup notes) = unplaced notes := by
  induction groups generalizing notes with
  | nil => rfl
  | cons group groups ih =>
    have hfitted := unplaced_fitGroup hunique group
    rw [List.foldl_cons, ih (by rwa [ids_of_unplaced hfitted]), hfitted]

theorem unplaced_fitGroupsToChildren (hunique : (notes.map (·.id)).Nodup) :
    unplaced (fitGroupsToChildren notes) = unplaced notes := by
  rw [← fitGroupsToChildrenChanged_snd, fitGroupsToChildrenChanged_eq, foldl_fitGroup_snd]
  exact unplaced_foldl_fitGroup _ hunique

theorem Promoted.of_unplaced {fitted : List CanvasNoteData} (h : Promoted notes removed after)
    (hsame : unplaced fitted = unplaced after) : Promoted notes removed fitted := by
  have hplaces : ∀ after, Promoted notes removed (unplaced after) ↔ Promoted notes removed after := by
    intro after
    simp only [Promoted, unplaced, List.forall₂_map_right_iff]
  rw [← hplaces, hsame, hplaces]
  exact h

/-- Without cycles the group itself is not what it lies in. -/
theorem leftNotes_promoted (h : GroupForest notes) (hgroups : LieInGroups notes)
    (hid : id ∈ notes.map (·.id)) : Promoted notes {id} (leftNotes notes id) := by
  obtain ⟨gone, hgone, rfl⟩ := List.mem_map.mp hid
  rw [leftNotes, promoted_map_iff (promote_id notes {gone.id})]
  intro note hnote _
  by_cases hinside : gone.id = note.parentGroupId
  · have hkind := hgroups.group note hnote gone hgone hinside
    have hself : gone.parentGroupId ∉ ({gone.id} : Finset String) := by
      rw [Finset.mem_singleton]
      intro heq
      exact h.acyclic.irrefl gone.id ⟨gone, hgone, rfl, heq⟩
    have hgoes : gone.id ∈ ({gone.id} : Finset String) := Finset.mem_singleton_self _
    have hnearest := (nearest_removedParent_iff h hgone hgoes).mpr ⟨hkind, hself⟩
    rw [promote, ← hinside]
    exact hnearest
  · have hkept : note.parentGroupId ∉ ({gone.id} : Finset String) := by simpa using Ne.symm hinside
    rw [promote, removedParent_of_notMem hkept, Option.getD_none]
    exact .here hkept

/-- What a note that is left lies in was there before and is left. -/
theorem exists_of_leftNotes (hgroups : LieInGroups notes) (hforest : GroupForest notes)
    (hid : id ∈ notes.map (·.id)) (hnote : note ∈ leftNotes notes id) :
    note.parentGroupId ≠ id ∧ ∃ old ∈ notes, old.parentGroupId = note.parentGroupId := by
  have hkept := (leftNotes_promoted hforest hgroups hid).parent_left note hnote
  refine ⟨by simpa using hkept, ?_⟩
  obtain ⟨old, hold, rfl⟩ := List.mem_map.mp hnote
  rw [promote]
  cases hparent : removedParent notes {id} old.parentGroupId with
  | none => exact ⟨old, List.mem_of_mem_filter hold, rfl⟩
  | some parent =>
    obtain ⟨lost, hlost, -, hplace⟩ := mem_of_lookup_reverse hparent
    exact ⟨lost, List.mem_of_mem_filter hlost, hplace⟩

theorem LieInGroups.leftNotes (hgroups : LieInGroups notes) (hforest : GroupForest notes)
    (hid : id ∈ notes.map (·.id)) : LieInGroups (leftNotes notes id) := by
  constructor
  · intro note hnote hplaced
    obtain ⟨hkept, old, hold, hsame⟩ := exists_of_leftNotes hgroups hforest hid hnote
    obtain ⟨group, hgroup, hname⟩ := hgroups.present old hold (hsame.trans_ne hplaced)
    refine ⟨promote notes {id} group, ?_, hname.trans hsame⟩
    apply List.mem_map_of_mem
    simpa [hgroup, hname, hsame] using hkept
  · intro note hnote group hgroup hname
    obtain ⟨-, old, hold, hsame⟩ := exists_of_leftNotes hgroups hforest hid hnote
    obtain ⟨before, hbefore, rfl⟩ := List.mem_map.mp hgroup
    exact hgroups.group old hold before (List.mem_of_mem_filter hbefore) (hname.trans hsame.symm)

theorem LieInGroups.of_unplaced (h : LieInGroups notes) (hsame : unplaced after = unplaced notes) :
    LieInGroups after := by
  constructor
  · intro note hnote hplaced
    obtain ⟨old, hold, -, -, hparent⟩ := mem_of_unplaced hsame hnote
    obtain ⟨group, hgroup, hname⟩ := h.present old hold (hparent.trans_ne hplaced)
    obtain ⟨later, hlater, hid, -, -⟩ := mem_of_unplaced hsame.symm hgroup
    exact ⟨later, hlater, hid.trans (hname.trans hparent)⟩
  · intro note hnote group hgroup hname
    obtain ⟨old, hold, -, -, hparent⟩ := mem_of_unplaced hsame hnote
    obtain ⟨before, hbefore, hid, hkind, -⟩ := mem_of_unplaced hsame hgroup
    rw [← hkind]
    exact h.group old hold before hbefore (hid.trans (hname.trans hparent.symm))

/-- What the removal of a note leaves: the same as that of a selection, and as the dissolution of a
group, up to what is selected and to the places of the groups. -/
structure RemovesNode (app : CanvasApp) (id : String) (left : List CanvasNoteData) : Prop where
  fitted : (app.removeCanvasNode id).store.canvasNotes = fitGroupsToChildren left
  selection : unselected left =
    unselected (removeSelection (selectOnly id app.store.canvasNotes) app.store.canvasLinks).2.1
  links : (app.removeCanvasNode id).store.canvasLinks =
    (removeSelection (selectOnly id app.store.canvasNotes) app.store.canvasLinks).2.2
  dissolution : ∀ group ∈ app.store.canvasNotes, group.id = id → group.kind = "group" →
    (ungroupNode app.store.canvasNotes id).1 ∧
      unselected left = unselected (ungroupNode app.store.canvasNotes id).2
  promoted : Promoted app.store.canvasNotes {id} (app.removeCanvasNode id).store.canvasNotes
  placed : LieInGroups (app.removeCanvasNode id).store.canvasNotes
  ends : ∀ link ∈ (app.removeCanvasNode id).store.canvasLinks, BothEnds app.store.canvasNotes link →
    BothEnds (app.removeCanvasNode id).store.canvasNotes link

/-- The three ways to remove a note agree. -/
theorem removals_of_a_node_agree (app : CanvasApp) (h : GroupForest app.store.canvasNotes)
    (hgroups : LieInGroups app.store.canvasNotes) (hid : id ∈ app.store.canvasNotes.map (·.id)) :
    ∃ left, RemovesNode app id left := by
  have hremove := removeCanvasNode_eq app h.unique hid
  have hleft : (leftNotes app.store.canvasNotes id).map (·.id) =
      (app.store.canvasNotes.filter (·.id ∉ ({id} : Finset String))).map (·.id) := by
    rw [leftNotes, List.map_map]
    rfl
  have hunique : ((leftNotes app.store.canvasNotes id).map (·.id)).Nodup := by
    rw [hleft]
    exact h.unique.sublist (List.filter_sublist.map _)
  have hplaces := unplaced_fitGroupsToChildren hunique
  refine ⟨leftNotes app.store.canvasNotes id, ?_, ?_, ?_, ?_, ?_, ?_, ?_⟩
  · rw [hremove]
    rfl
  · exact (unselected_removeSelection hid _).symm
  · rw [hremove, removeSelection_eq, selectedIds_selectOnly hid]
    rfl
  · intro group hgroup hname hkind
    cases hfound : groupOf app.store.canvasNotes id with
    | none => exact absurd hkind (groupOf_eq_none hfound group hgroup hname)
    | some found =>
      obtain ⟨hungroup, hsame⟩ := unselected_ungroupNode h.unique hfound
      exact ⟨by rw [hungroup], hsame.symm⟩
  · rw [hremove]
    exact (leftNotes_promoted h hgroups hid).of_unplaced hplaces
  · rw [hremove]
    exact (hgroups.leftNotes h hid).of_unplaced hplaces
  · intro link hlink hends
    rw [hremove] at hlink ⊢
    have hids : (fitGroupsToChildren (leftNotes app.store.canvasNotes id)).map (·.id) =
        (app.store.canvasNotes.filter (·.id ∉ ({id} : Finset String))).map (·.id) :=
      (ids_of_unplaced hplaces).trans hleft
    have hkept : link.sourceId ≠ id ∧ link.targetId ≠ id := by
      have hfilter : link ∈ withoutRemoved {id} app.store.canvasLinks := hlink
      simpa [withoutRemoved] using (List.mem_filter.mp hfilter).2
    show BothEnds (fitGroupsToChildren (leftNotes app.store.canvasNotes id)) link
    rw [BothEnds, hids]
    simp only [List.mem_map, List.mem_filter, BothEnds] at hends ⊢
    obtain ⟨⟨source, hsource, hsourceId⟩, target, htarget, htargetId⟩ := hends
    refine ⟨⟨source, ⟨hsource, ?_⟩, hsourceId⟩, target, ⟨htarget, ?_⟩, htargetId⟩
    · simpa [hsourceId] using hkept.1
    · simpa [htargetId] using hkept.2

def linkedGroup : CanvasApp :=
  { store :=
      { canvasNotes := [{ id := "group", kind := "group", content := "", x := 0, y := 0 },
          { id := "note", content := "", x := 0, y := 0, parentGroupId := "group" }]
        canvasLinks := [{ id := "lost", sourceId := "gone", targetId := "note" }] } }

theorem linkedGroup_sound : GroupForest linkedGroup.store.canvasNotes ∧
    LieInGroups linkedGroup.store.canvasNotes := by
  let height (id : String) : Nat := if id = "note" then 2 else if id = "group" then 1 else 0
  refine ⟨GroupForest.of_height ?_ height ?_, ?_, ?_⟩
  · simp [linkedGroup]
  · simp [linkedGroup, height]
  · simp [linkedGroup]
  · simp [linkedGroup]

theorem removals_of_a_group_agree : ∃ left, RemovesNode linkedGroup "group" left :=
  removals_of_a_node_agree linkedGroup linkedGroup_sound.1 linkedGroup_sound.2 (by decide)

/-- The link to a note that was not there before is left as it is. -/
theorem removal_leaves_lost_link :
    GroupForest linkedGroup.store.canvasNotes ∧ LieInGroups linkedGroup.store.canvasNotes ∧
      "group" ∈ linkedGroup.store.canvasNotes.map (·.id) ∧
      ¬ ∀ link ∈ (linkedGroup.removeCanvasNode "group").store.canvasLinks,
        BothEnds (linkedGroup.removeCanvasNode "group").store.canvasNotes link := by
  refine ⟨linkedGroup_sound.1, linkedGroup_sound.2, by decide, ?_⟩
  unfold BothEnds
  decide +kernel

end ArtForgeStudio.Canvas
