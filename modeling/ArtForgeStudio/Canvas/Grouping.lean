import ArtForgeStudio.Canvas.Descendants
import ArtForgeStudio.Canvas.Places
import ArtForgeStudio.Canvas.Promotion

/-! # Grouping a selection

The new group takes its place from the first note of the expanded selection in the list. It wraps
what was selected exactly if that note is one of the topmost selected ones.
-/

namespace ArtForgeStudio.Canvas

open ArtForgeStudio.LocalStore ArtForgeStudio.Graphs Relation

/-- A selected note that lies in no selected group, at any depth. -/
structure Topmost (notes : List CanvasNoteData) (note : CanvasNoteData) : Prop where
  mem : note ∈ notes
  selected : note.selected
  outside : ∀ group ∈ notes, isSelectedGroup group → ¬TransGen (ParentOf notes) note.id group.id

/-- A new group in the parent holds the topmost selected notes, and reaches around all that is
selected. -/
structure Wrapped (notes : List CanvasNoteData) (parent groupId : String)
    (after : List CanvasNoteData) : Prop where
  group : ∃ group ∈ after, group.id = groupId ∧ group.kind = "group" ∧
    group.parentGroupId = parent ∧ ∀ note, Expanded notes note → Encloses group note
  inside : ∀ note ∈ after, note.parentGroupId = groupId ↔ ∃ top, Topmost notes top ∧ top.id = note.id
  others : ∀ note ∈ notes, ¬Topmost notes note →
    ∃ kept ∈ after, kept.id = note.id ∧ kept.parentGroupId = note.parentGroupId

variable {notes : List CanvasNoteData} {note first : CanvasNoteData} {parent groupId : String}

theorem Topmost.expanded (h : Topmost notes note) : Expanded notes note := ⟨h.mem, .inl h.selected⟩

/-- What is selected, but not topmost, lies in a topmost group. -/
theorem Expanded.exists_topmost (hforest : GroupForest notes) (h : Expanded notes note)
    (hnot : ¬Topmost notes note) :
    ∃ top, Topmost notes top ∧ TransGen (ParentOf notes) note.id top.id := by
  have hinside : ∃ group ∈ notes, isSelectedGroup group ∧
      TransGen (ParentOf notes) note.id group.id := by
    by_cases hselected : note.selected
    · by_contra hnone
      push Not at hnone
      exact hnot ⟨h.mem, hselected, hnone⟩
    · obtain ⟨group, hgroup, hchosen, hbelow⟩ := h.chosen.resolve_left hselected
      exact ⟨group, hgroup, hchosen, hbelow.reaches⟩
  obtain ⟨group, hgroup, hchosen, hreaches⟩ := hinside
  have hmem : group.id ∈ selectedGroupIds notes :=
    mem_selectedGroupIds.mpr ⟨group, hgroup, hchosen, rfl⟩
  obtain ⟨id, hid, habove, hlast⟩ := hforest.acyclic.exists_last (selectedGroupIds notes) hmem
  obtain ⟨top, htop, htopChosen, rfl⟩ := mem_selectedGroupIds.mp hid
  refine ⟨top, ⟨htop, ?_, fun other hother hotherChosen => ?_⟩, hreaches.trans_left habove⟩
  · simp only [isSelectedGroup, Bool.and_eq_true] at htopChosen
    exact htopChosen.1
  · exact hlast other.id (mem_selectedGroupIds.mpr ⟨other, hother, hotherChosen, rfl⟩)

/-- When all topmost notes lie in one place, nothing else that is selected lies there. -/
theorem Expanded.topmost_of_parent (hforest : GroupForest notes)
    (hparent : ∀ top, Topmost notes top → top.parentGroupId = parent) (h : Expanded notes note)
    (hnote : note.parentGroupId = parent) : Topmost notes note := by
  by_contra hnot
  obtain ⟨top, htop, hreaches⟩ := h.exists_topmost hforest hnot
  obtain ⟨id, ⟨other, hother, hid, hname⟩, habove⟩ := TransGen.head'_iff.mp hreaches
  cases List.inj_on_of_nodup_map hforest.unique hother h.mem hid
  rw [← hname, hnote] at habove
  exact hforest.acyclic parent
    (TransGen.tail' habove ⟨top, htop.mem, rfl, hparent top htop⟩)

theorem find_expanded (hunique : (notes.map (·.id)).Nodup) :
    notes.find? (·.id ∈ expandedSelectionIds notes) = some first ↔
      ∃ before rest, notes = before ++ first :: rest ∧
        (∀ note ∈ before, ¬Expanded notes note) ∧ Expanded notes first := by
  rw [List.find?_eq_some_iff_append]
  constructor
  · rintro ⟨hfirst, before, rest, hnotes, hbefore⟩
    have hmem : first ∈ notes := by simp [hnotes]
    refine ⟨before, rest, hnotes, fun note hnote hexpanded => ?_, ?_⟩
    · have hnotePresent : note ∈ notes := by simp [hnotes, hnote]
      have hnot := hbefore note hnote
      simp [id_mem_expandedSelectionIds_iff hunique hnotePresent, hexpanded] at hnot
    · rwa [decide_eq_true_eq, id_mem_expandedSelectionIds_iff hunique hmem] at hfirst
  · rintro ⟨before, rest, hnotes, hbefore, hfirst⟩
    refine ⟨?_, before, rest, hnotes, fun note hnote => ?_⟩
    · rwa [decide_eq_true_eq, id_mem_expandedSelectionIds_iff hunique hfirst.mem]
    · have hnotePresent : note ∈ notes := by simp [hnotes, hnote]
      simp [id_mem_expandedSelectionIds_iff hunique hnotePresent, hbefore note hnote]

/-- The new group stands last, around what is selected and where the first selected note stood. -/
theorem groupSelection_eq (hunique : (notes.map (·.id)).Nodup) (groupId : String) (english : Bool)
    (hfirst : notes.find? (·.id ∈ expandedSelectionIds notes) = some first) :
    ∃ group, group.id = groupId ∧ group.kind = "group" ∧
      group.parentGroupId = first.parentGroupId ∧
      (∀ note, Expanded notes note → Encloses group note) ∧
      groupSelection groupId notes english = (some groupId, notes.map
        (moveInto (expandedSelectionIds notes) first.parentGroupId groupId) ++ [group]) := by
  unfold groupSelection
  dsimp only
  cases hbounds : selectionBounds notes (expandedSelectionIds notes) with
  | none =>
    have hnone := selectionBounds_eq_none hbounds first (List.mem_of_find?_eq_some hfirst)
    simpa [hnone] using List.find?_some hfirst
  | some bounds =>
    rw [hfirst]
    refine ⟨_, ?id, ?kind, ?place, fun note hexpanded => ?_, rfl⟩
    case id => rfl
    case kind => rfl
    case place => rfl
    have hbounded := selectionBounds_spec hbounds
    refine PaddedAround.encloses ⟨rfl, rfl, rfl, rfl⟩ hbounded ?_
    rw [List.mem_filter, decide_eq_true_eq, id_mem_expandedSelectionIds_iff hunique hexpanded.mem]
    exact ⟨hexpanded.mem, hexpanded⟩

theorem moveInto_parent (hunique : (notes.map (·.id)).Nodup) (parent groupId : String)
    (hnote : note ∈ notes) :
    (Expanded notes note ∧ note.parentGroupId = parent →
      (moveInto (expandedSelectionIds notes) parent groupId note).parentGroupId = groupId) ∧
    (¬(Expanded notes note ∧ note.parentGroupId = parent) →
      moveInto (expandedSelectionIds notes) parent groupId note = note) := by
  rw [← id_mem_expandedSelectionIds_iff hunique hnote]
  unfold moveInto
  split <;> simp_all

/-- In the place of the topmost notes the group wraps them. -/
theorem groupSelection_wrapped (h : GroupForest notes) (hfresh : FreshNote groupId notes)
    (hparent : ∀ top, Topmost notes top → top.parentGroupId = parent) (english : Bool)
    (hfirst : notes.find? (·.id ∈ expandedSelectionIds notes) = some first)
    (htop : Topmost notes first) :
    Wrapped notes parent groupId (groupSelection groupId notes english).2 := by
  obtain ⟨group, hid, hkind, hplace, hencloses, heq⟩ :=
    groupSelection_eq h.unique groupId english hfirst
  rw [hparent first htop] at hplace heq
  have hmoves : ∀ note ∈ notes, Expanded notes note ∧ note.parentGroupId = parent ↔
      Topmost notes note := fun note _ =>
    ⟨fun hmoved => hmoved.1.topmost_of_parent h hparent hmoved.2,
      fun htop => ⟨htop.expanded, hparent note htop⟩⟩
  rw [heq]
  constructor
  · exact ⟨group, by simp, hid, hkind, hplace, hencloses⟩
  · intro after hafter
    rcases List.mem_append.mp hafter with hafter | hafter
    · obtain ⟨note, hnote, rfl⟩ := List.mem_map.mp hafter
      have hmove := moveInto_parent h.unique parent groupId hnote
      rw [hmoves note hnote] at hmove
      rw [moveInto_id]
      constructor
      · intro hinside
        by_contra hnot
        have hstays : ¬Topmost notes note := fun htop => hnot ⟨note, htop, rfl⟩
        rw [hmove.2 hstays] at hinside
        exact hfresh.parent note hnote hinside
      · rintro ⟨top, htop, hsame⟩
        cases List.inj_on_of_nodup_map h.unique htop.mem hnote hsame
        exact hmove.1 htop
    · cases List.mem_singleton.mp hafter
      constructor
      · intro hinside
        rw [hplace, ← hparent first htop] at hinside
        exact absurd hinside (hfresh.parent first htop.mem)
      · rintro ⟨top, htop, hsame⟩
        exact absurd (hsame.trans hid) (hfresh.note top htop.mem)
  · intro note hnote hnot
    have hmove := moveInto_parent h.unique parent groupId hnote
    rw [hmoves note hnote] at hmove
    exact ⟨note, List.mem_append_left _ (List.mem_map.mpr ⟨note, hnote, hmove.2 hnot⟩), rfl, rfl⟩

/-- Grouping wraps the topmost notes, which lie in one place, exactly if the first selected note of
the list is one of them. -/
theorem grouping_wraps_iff (h : GroupForest notes) (hfresh : FreshNote groupId notes)
    (hsome : ∃ note ∈ notes, note.selected)
    (hparent : ∀ top, Topmost notes top → top.parentGroupId = parent) (english : Bool) :
    ((groupSelection groupId notes english).1 = some groupId ∧
      Wrapped notes parent groupId (groupSelection groupId notes english).2) ↔
    ∃ before first rest, notes = before ++ first :: rest ∧
      (∀ note ∈ before, ¬Expanded notes note) ∧ Topmost notes first := by
  constructor
  · rintro ⟨-, hwrapped⟩
    obtain ⟨note, hnote, hselected⟩ := hsome
    have hmem := (id_mem_expandedSelectionIds_iff h.unique hnote).mpr ⟨hnote, .inl hselected⟩
    obtain ⟨first, hfirst⟩ :
        ∃ first, notes.find? (·.id ∈ expandedSelectionIds notes) = some first := by
      rw [← Option.isSome_iff_exists, List.find?_isSome]
      exact ⟨note, hnote, decide_eq_true hmem⟩
    obtain ⟨before, rest, hnotes, hbefore, hexpanded⟩ := (find_expanded h.unique).mp hfirst
    obtain ⟨group, hid, -, hplace, -, heq⟩ :=
      groupSelection_eq h.unique groupId english hfirst
    obtain ⟨new, hnew, hnewId, -, hnewPlace, -⟩ := hwrapped.group
    rw [heq] at hnew
    have hfirstPlace : first.parentGroupId = parent := by
      rcases List.mem_append.mp hnew with hold | hlast
      · obtain ⟨old, hmem, rfl⟩ := List.mem_map.mp hold
        rw [moveInto_id] at hnewId
        exact absurd hnewId (hfresh.note old hmem)
      · cases List.mem_singleton.mp hlast
        exact hplace.symm.trans hnewPlace
    exact ⟨before, first, rest, hnotes, hbefore,
      hexpanded.topmost_of_parent h hparent hfirstPlace⟩
  · rintro ⟨before, first, rest, hnotes, hbefore, htop⟩
    have hfirst := (find_expanded h.unique).mpr ⟨before, rest, hnotes, hbefore, htop.expanded⟩
    obtain ⟨group, -, -, -, -, heq⟩ := groupSelection_eq h.unique groupId english hfirst
    exact ⟨by rw [heq], groupSelection_wrapped h hfresh hparent english hfirst htop⟩

def groupAndChild (groupFirst : Bool) : List CanvasNoteData :=
  let group : CanvasNoteData :=
    { id := "group", kind := "group", content := "", x := 0, y := 0, selected := true }
  let child : CanvasNoteData :=
    { id := "child", content := "", x := 0, y := 0, parentGroupId := "group" }
  if groupFirst then [group, child] else [child, group]

theorem groupAndChild_forest (groupFirst : Bool) : GroupForest (groupAndChild groupFirst) := by
  let height (id : String) : Nat := if id = "child" then 2 else if id = "group" then 1 else 0
  apply GroupForest.of_height _ height
  · cases groupFirst <;> simp [groupAndChild, height]
  · cases groupFirst <;> decide

theorem groupAndChild_topmost (groupFirst : Bool) (top : CanvasNoteData) :
    Topmost (groupAndChild groupFirst) top ↔ top ∈ groupAndChild groupFirst ∧ top.selected := by
  have hselected : ∀ note ∈ groupAndChild groupFirst, note.selected → note.id = "group" := by
    cases groupFirst <;> decide
  constructor
  · exact fun htop => ⟨htop.mem, htop.selected⟩
  · rintro ⟨htop, hchosen⟩
    refine ⟨htop, hchosen, fun group hgroup hgroupChosen hreaches => ?_⟩
    simp only [isSelectedGroup, Bool.and_eq_true] at hgroupChosen
    rw [hselected top htop hchosen, hselected group hgroup hgroupChosen.1] at hreaches
    exact (groupAndChild_forest groupFirst).acyclic _ hreaches

theorem groupAndChild_parent (groupFirst : Bool) (top : CanvasNoteData)
    (htop : Topmost (groupAndChild groupFirst) top) : top.parentGroupId = "" := by
  have hall : ∀ note ∈ groupAndChild groupFirst, note.selected → note.parentGroupId = "" := by
    cases groupFirst <;> decide
  exact hall top htop.mem htop.selected

theorem grouping_wraps_group_first :
    Wrapped (groupAndChild true) "" "new" (groupSelection "new" (groupAndChild true) true).2 := by
  have hfirst : ∃ before first rest, groupAndChild true = before ++ first :: rest ∧
      (∀ note ∈ before, ¬Expanded (groupAndChild true) note) ∧
        Topmost (groupAndChild true) first :=
    ⟨[], _, _, rfl, by simp, (groupAndChild_topmost true _).mpr (by decide)⟩
  have hfresh : FreshNote "new" (groupAndChild true) := ⟨by decide, by decide, by decide⟩
  exact ((grouping_wraps_iff (groupAndChild_forest true) hfresh (by decide)
    (groupAndChild_parent true) true).mpr hfirst).2

/-- With the child first in the list the new group lands in the group that it should hold. -/
theorem grouping_lands_inside :
    GroupForest (groupAndChild false) ∧ FreshNote "new" (groupAndChild false) ∧
    (∀ top, Topmost (groupAndChild false) top → top.parentGroupId = "") ∧
    (groupSelection "new" (groupAndChild false) true).2.map
      (fun note => (note.id, note.parentGroupId)) =
      [("child", "new"), ("group", ""), ("new", "group")] ∧
    ¬Wrapped (groupAndChild false) "" "new" (groupSelection "new" (groupAndChild false) true).2 := by
  have hwrong : ¬∃ group ∈ (groupSelection "new" (groupAndChild false) true).2,
      group.id = "new" ∧ group.parentGroupId = "" := by decide +kernel
  refine ⟨groupAndChild_forest false, ⟨by decide, by decide, by decide⟩,
    groupAndChild_parent false, by decide +kernel, fun hwrapped => ?_⟩
  obtain ⟨group, hgroup, hid, -, hplace, -⟩ := hwrapped.group
  exact hwrong ⟨group, hgroup, hid, hplace⟩

end ArtForgeStudio.Canvas
