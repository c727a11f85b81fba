import ArtForgeStudio.Canvas.Groups

/-! # What lies in a group

The search below a group finds the notes in it and in the groups in it, at any depth, and no others.
-/

namespace ArtForgeStudio.Canvas

open ArtForgeStudio.LocalStore ArtForgeStudio.Graphs Relation

/-- A note in the group, or in a group that lies below it. -/
inductive Below (notes : List CanvasNoteData) (groupId : String) : CanvasNoteData → Prop
  | child {note : CanvasNoteData} (hnote : note ∈ notes) (hparent : note.parentGroupId = groupId) :
      Below notes groupId note
  | deeper {group note : CanvasNoteData} (hgroup : Below notes groupId group)
      (hkind : group.kind = "group") (hnote : note ∈ notes)
      (hparent : note.parentGroupId = group.id) : Below notes groupId note

variable {notes children : List CanvasNoteData} {note child : CanvasNoteData}
  {id groupId parentId : String} {found : List String × Finset String}
  {pending : List String} {result last : Finset String} {fuel : Nat}

theorem Below.mem (h : Below notes groupId note) : note ∈ notes := by
  cases h with
  | child hnote => exact hnote
  | deeper _ _ hnote => exact hnote

theorem Below.reaches (h : Below notes groupId note) :
    TransGen (ParentOf notes) note.id groupId := by
  induction h with
  | child hnote hparent => exact .single ⟨_, hnote, rfl, hparent⟩
  | deeper _ _ hnote hparent ih => exact .head ⟨_, hnote, rfl, hparent⟩ ih

/-- All children are found. -/
theorem mem_foldl_descend : id ∈ (children.foldl descend found).2 ↔
    id ∈ found.2 ∨ ∃ child ∈ children, child.id = id := by
  induction children generalizing found with
  | nil => simp
  | cons child children ih =>
    rw [List.foldl_cons, ih]
    unfold descend
    by_cases hseen : child.id ∈ found.2
    · simp only [if_pos hseen, List.exists_mem_cons_iff]
      constructor
      · exact Or.imp_right .inr
      · rintro (hold | rfl | hrest)
        · exact .inl hold
        · exact .inl hseen
        · exact .inr hrest
    · simp only [if_neg hseen, Finset.mem_insert, List.exists_mem_cons_iff]
      tauto

/-- What is looked into next: what was, and children that are groups. -/
theorem mem_pending_descend (h : id ∈ (children.foldl descend found).1) :
    id ∈ found.1 ∨ ∃ child ∈ children, child.kind = "group" ∧ child.id = id := by
  induction children generalizing found with
  | nil => exact .inl h
  | cons child children ih =>
    rw [List.foldl_cons] at h
    rcases ih h with hold | ⟨other, hother, hkind, hid⟩
    · unfold descend at hold
      split at hold
      · exact .inl hold
      · split at hold
        · rename_i hkind
          rcases List.mem_cons.mp hold with rfl | hold
          · exact .inr ⟨child, List.mem_cons_self, hkind, rfl⟩
          · exact .inl hold
        · exact .inl hold
    · exact .inr ⟨other, List.mem_cons_of_mem _ hother, hkind, hid⟩

theorem pending_subset_descend : found.1 ⊆ (children.foldl descend found).1 := by
  induction children generalizing found with
  | nil => exact List.Subset.refl _
  | cons child children ih =>
    refine List.Subset.trans ?_ (@ih (descend found child))
    unfold descend
    split
    · exact List.Subset.refl _
    · split
      · exact List.subset_cons_self _ _
      · exact List.Subset.refl _

/-- A group that is found for the first time is looked into. -/
theorem group_pending_descend (hunique : (children.map (·.id)).Nodup) (hchild : child ∈ children)
    (hkind : child.kind = "group") (hnew : child.id ∉ found.2) :
    child.id ∈ (children.foldl descend found).1 := by
  induction children generalizing found with
  | nil => cases hchild
  | cons first children ih =>
    simp only [List.map_cons, List.nodup_cons] at hunique
    rw [List.foldl_cons]
    rcases List.mem_cons.mp hchild with rfl | hchild
    · apply pending_subset_descend
      simp [descend, hnew, hkind]
    · apply ih hunique.2 hchild
      have hother : child.id ≠ first.id := fun heq =>
        hunique.1 (heq ▸ List.mem_map_of_mem hchild)
      unfold descend
      split
      · exact hnew
      · simp [hother, hnew]

/-- What is found lies below the group, and what lies below it is found or in a group to be looked
into. -/
structure Explored (notes : List CanvasNoteData) (groupId : String) (pending : List String)
    (result : Finset String) : Prop where
  groups : ∀ id ∈ pending, id = groupId ∨
    ∃ group, Below notes groupId group ∧ group.kind = "group" ∧ group.id = id
  sound : ∀ id ∈ result, ∃ note, Below notes groupId note ∧ note.id = id
  direct : ∀ note ∈ notes, note.parentGroupId = groupId →
    note.id ∈ result ∨ note.parentGroupId ∈ pending
  deeper : ∀ group ∈ notes, group.kind = "group" → group.id ∈ result →
    ∀ note ∈ notes, note.parentGroupId = group.id →
      note.id ∈ result ∨ note.parentGroupId ∈ pending

theorem Explored.start (notes : List CanvasNoteData) (groupId : String) :
    Explored notes groupId [groupId] ∅ where
  groups _ hid := .inl (List.mem_singleton.mp hid)
  sound id hid := absurd hid (Finset.notMem_empty id)
  direct _ _ hparent := .inr (List.mem_singleton.mpr hparent)
  deeper _ _ _ hid := absurd hid (Finset.notMem_empty _)

/-- Looking into one group. -/
theorem Explored.step (hunique : (notes.map (·.id)).Nodup)
    (h : Explored notes groupId (parentId :: pending) result) :
    Explored notes groupId
      ((notes.filter (·.parentGroupId = parentId)).foldl descend (pending, result)).1
      ((notes.filter (·.parentGroupId = parentId)).foldl descend (pending, result)).2 := by
  have hbelow : ∀ child ∈ notes.filter (·.parentGroupId = parentId), Below notes groupId child := by
    intro child hchild
    rw [List.mem_filter, decide_eq_true_eq] at hchild
    rcases h.groups parentId List.mem_cons_self with rfl | ⟨group, hgroup, hkind, rfl⟩
    · exact .child hchild.1 hchild.2
    · exact .deeper hgroup hkind hchild.1 hchild.2
  -- A note whose parent was to be looked into is found now, or its parent still is.
  have hkept : ∀ note ∈ notes, note.id ∈ result ∨ note.parentGroupId ∈ parentId :: pending →
      note.id ∈ ((notes.filter (·.parentGroupId = parentId)).foldl descend (pending, result)).2 ∨
        note.parentGroupId ∈
          ((notes.filter (·.parentGroupId = parentId)).foldl descend (pending, result)).1 := by
    rintro note hnote (hold | hwaiting)
    · exact .inl (mem_foldl_descend.mpr (.inl hold))
    · rcases List.mem_cons.mp hwaiting with hparent | hwaiting
      · exact .inl (mem_foldl_descend.mpr (.inr ⟨note, by simp [hnote, hparent], rfl⟩))
      · exact .inr (pending_subset_descend hwaiting)
  constructor
  · intro id hid
    rcases mem_pending_descend hid with hold | ⟨child, hchild, hkind, rfl⟩
    · exact h.groups id (List.mem_cons_of_mem _ hold)
    · exact .inr ⟨child, hbelow child hchild, hkind, rfl⟩
  · intro id hid
    rcases mem_foldl_descend.mp hid with hold | ⟨child, hchild, rfl⟩
    · exact h.sound id hold
    · exact ⟨child, hbelow child hchild, rfl⟩
  · exact fun note hnote hparent => hkept note hnote (h.direct note hnote hparent)
  · intro group hgroup hkind hid note hnote hparent
    by_cases hold : group.id ∈ result
    · exact hkept note hnote (h.deeper group hgroup hkind hold note hnote hparent)
    · obtain ⟨child, hchild, hsame⟩ := (mem_foldl_descend.mp hid).resolve_left hold
      have hmem := List.mem_of_mem_filter hchild
      cases List.inj_on_of_nodup_map hunique hmem hgroup hsame
      rw [hparent]
      have hchildren : ((notes.filter (·.parentGroupId = parentId)).map (·.id)).Nodup :=
        hunique.sublist (List.filter_sublist.map _)
      exact .inr (group_pending_descend hchildren hchild hkind hold)

theorem Explored.run (hunique : (notes.map (·.id)).Nodup) (h : Explored notes groupId pending result)
    (hlast : descendantsFrom notes fuel pending result = some last) :
    Explored notes groupId [] last := by
  induction fuel generalizing pending result with
  | zero =>
    cases pending with
    | nil =>
      cases hlast
      exact h
    | cons parentId pending => cases hlast
  | succ fuel ih =>
    cases pending with
    | nil =>
      cases hlast
      exact h
    | cons parentId pending => exact ih (h.step hunique) hlast

/-- What lies below the group is found, and nothing else. -/
theorem mem_descendantIds_iff (hunique : (notes.map (·.id)).Nodup) :
    id ∈ descendantIds notes groupId ↔ ∃ note, Below notes groupId note ∧ note.id = id := by
  have hexplored := (Explored.start notes groupId).run hunique (descendantIds_eq_some notes groupId)
  constructor
  · exact hexplored.sound id
  · rintro ⟨note, hbelow, rfl⟩
    induction hbelow with
    | child hnote hparent =>
      exact (hexplored.direct _ hnote hparent).resolve_right List.not_mem_nil
    | deeper hgroup hkind hnote hparent ih =>
      exact (hexplored.deeper _ hgroup.mem hkind ih _ hnote hparent).resolve_right List.not_mem_nil

/-- A selected note, or one below a selected group. -/
structure Expanded (notes : List CanvasNoteData) (note : CanvasNoteData) : Prop where
  mem : note ∈ notes
  chosen : note.selected ∨ ∃ group ∈ notes, isSelectedGroup group ∧ Below notes group.id note

theorem mem_foldl_union {groupIds : List String} {below : String → Finset String} :
    id ∈ groupIds.foldl (fun ids groupId => ids ∪ below groupId) result ↔
      id ∈ result ∨ ∃ groupId ∈ groupIds, id ∈ below groupId := by
  induction groupIds generalizing result with
  | nil => simp
  | cons groupId groupIds ih =>
    rw [List.foldl_cons, ih, Finset.mem_union, List.exists_mem_cons_iff, or_assoc]

theorem mem_expandedSelectionIds_iff (hunique : (notes.map (·.id)).Nodup) :
    id ∈ expandedSelectionIds notes ↔ ∃ note, Expanded notes note ∧ note.id = id := by
  rw [expandedSelectionIds, mem_foldl_union]
  simp only [selectedIds, List.mem_toFinset, List.mem_map, List.mem_filter,
    mem_descendantIds_iff hunique]
  constructor
  · rintro (⟨note, ⟨hnote, hselected⟩, hid⟩ | ⟨_, ⟨group, ⟨hgroup, hchosen⟩, rfl⟩, note, hbelow, hid⟩)
    · exact ⟨note, ⟨hnote, .inl hselected⟩, hid⟩
    · exact ⟨note, ⟨hbelow.mem, .inr ⟨group, hgroup, hchosen, hbelow⟩⟩, hid⟩
  · rintro ⟨note, ⟨hnote, hselected | ⟨group, hgroup, hchosen, hbelow⟩⟩, hid⟩
    · exact .inl ⟨note, ⟨hnote, hselected⟩, hid⟩
    · exact .inr ⟨group.id, ⟨group, ⟨hgroup, hchosen⟩, rfl⟩, note, hbelow, hid⟩

theorem id_mem_expandedSelectionIds_iff (hunique : (notes.map (·.id)).Nodup) (hnote : note ∈ notes) :
    note.id ∈ expandedSelectionIds notes ↔ Expanded notes note := by
  rw [mem_expandedSelectionIds_iff hunique]
  constructor
  · rintro ⟨other, hother, hid⟩
    rwa [← List.inj_on_of_nodup_map hunique hother.mem hnote hid]
  · exact fun hexpanded => ⟨note, hexpanded, rfl⟩

end ArtForgeStudio.Canvas
