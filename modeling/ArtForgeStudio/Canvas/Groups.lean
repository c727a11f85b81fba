import ArtForgeStudio.Canvas.Links
import Mathlib.Logic.Relator

/-! # The groups of the canvas

A note names the group that it lies in. Groups are nested, and no operation makes a group lie in
itself.
-/

namespace ArtForgeStudio.Canvas

open ArtForgeStudio.LocalStore ArtForgeStudio.Graphs Relation

/-- A note names the group that it lies in. -/
def ParentOf (notes : List CanvasNoteData) (child parent : String) : Prop :=
  ∃ note ∈ notes, note.id = child ∧ note.parentGroupId = parent

structure GroupForest (notes : List CanvasNoteData) : Prop where
  unique : (notes.map (·.id)).Nodup
  acyclic : Acyclic (ParentOf notes)

/-- Every note is higher than the group that it lies in. -/
theorem GroupForest.of_height {notes : List CanvasNoteData} (hunique : (notes.map (·.id)).Nodup)
    (height : String → Nat)
    (hheight : ∀ note ∈ notes, height note.parentGroupId < height note.id) :
    GroupForest notes := by
  refine ⟨hunique, Acyclic.of_measure height ?_⟩
  rintro _ _ ⟨note, hnote, rfl, rfl⟩
  exact hheight note hnote

theorem GroupForest.parent_unique {notes : List CanvasNoteData} (h : GroupForest notes) :
    Relator.RightUnique (ParentOf notes) := by
  rintro _ _ _ ⟨first, hfirst, rfl, rfl⟩ ⟨second, hsecond, hid, rfl⟩
  rw [List.inj_on_of_nodup_map h.unique hfirst hsecond hid.symm]

def isSelectedGroup (note : CanvasNoteData) : Bool := note.selected && note.kind = "group"

def selectedGroupIds (notes : List CanvasNoteData) : Finset String :=
  ((notes.filter isSelectedGroup).map (·.id)).toFinset

theorem mem_selectedGroupIds {notes : List CanvasNoteData} {id : String} :
    id ∈ selectedGroupIds notes ↔ ∃ group ∈ notes, isSelectedGroup group ∧ group.id = id := by
  simp only [selectedGroupIds, List.mem_toFinset, List.mem_map, List.mem_filter, and_assoc]

section Descendants

variable {notes children : List CanvasNoteData} {child : CanvasNoteData} {result : Finset String}
  {found : List String × Finset String} {pending : List String} {fuel : Nat}

/-- The notes that are not found yet. -/
def unseen (notes : List CanvasNoteData) (result : Finset String) : List CanvasNoteData :=
  notes.filter (·.id ∉ result)

theorem unseen_insert_lt (hchild : child ∈ notes) (hnew : child.id ∉ result) :
    (unseen notes (insert child.id result)).length < (unseen notes result).length :=
  unvisited_lt (·.id) hchild hnew

/-- A group is looked into once, and there are no more groups than notes. -/
theorem descend_le (hchild : child ∈ notes) :
    (descend found child).1.length + (unseen notes (descend found child).2).length ≤
      found.1.length + (unseen notes found.2).length := by
  unfold descend
  split
  · exact Nat.le_refl _
  · rename_i hnew
    have hlt := unseen_insert_lt hchild hnew
    dsimp only
    split <;> simp <;> omega

theorem foldl_descend_le (hchildren : ∀ child ∈ children, child ∈ notes) :
    (children.foldl descend found).1.length +
        (unseen notes (children.foldl descend found).2).length ≤
      found.1.length + (unseen notes found.2).length := by
  induction children generalizing found with
  | nil => exact Nat.le_refl _
  | cons child children ih =>
    have hrest := @ih (descend found child) fun other hmem => hchildren other (List.mem_cons_of_mem _ hmem)
    have hfirst := @descend_le notes child found (hchildren child List.mem_cons_self)
    exact hrest.trans hfirst

theorem descendantsFrom_isSome (hfuel : pending.length + (unseen notes result).length ≤ fuel) :
    (descendantsFrom notes fuel pending result).isSome := by
  induction fuel generalizing pending result with
  | zero =>
    cases pending with
    | nil => simp [descendantsFrom]
    | cons parentId pending => simp at hfuel
  | succ fuel ih =>
    cases pending with
    | nil => simp [descendantsFrom]
    | cons parentId pending =>
      have hfound := @foldl_descend_le notes (notes.filter (·.parentGroupId = parentId))
        (pending, result) fun child hchild => List.mem_of_mem_filter hchild
      refine ih (hfound.trans ?_)
      show pending.length + (unseen notes result).length ≤ fuel
      simp only [List.length_cons] at hfuel
      omega

/-- Looking below a group finds all there is to find. -/
theorem descendantIds_eq_some (notes : List CanvasNoteData) (groupId : String) :
    descendantsFrom notes (notes.length + 1) [groupId] ∅ = some (descendantIds notes groupId) := by
  have hsome : (descendantsFrom notes (notes.length + 1) [groupId] ∅).isSome := by
    refine descendantsFrom_isSome ?_
    have hle : (unseen notes ∅).length ≤ notes.length := List.length_filter_le _ _
    simp only [List.length_singleton]
    omega
  obtain ⟨found, hfound⟩ := Option.isSome_iff_exists.mp hsome
  rw [descendantIds, hfound]
  rfl

end Descendants

section Operations

variable {notes after : List CanvasNoteData} {groupId parentId : String}

theorem GroupForest.filter (h : GroupForest notes) (kept : CanvasNoteData → Bool) :
    GroupForest (notes.filter kept) where
  unique := h.unique.sublist (List.filter_sublist.map _)
  acyclic := h.acyclic.mono fun _ _ ⟨note, hnote, hends⟩ =>
    ⟨note, List.mem_of_mem_filter hnote, hends⟩

/-- The notes keep their identifiers, and every note lies in what its group lay in. -/
structure Lifted (notes after : List CanvasNoteData) : Prop where
  ids : after.map (·.id) = notes.map (·.id)
  parents : ∀ a b, ParentOf after a b → TransGen (ParentOf notes) a b

theorem Lifted.refl (notes : List CanvasNoteData) : Lifted notes notes :=
  ⟨rfl, fun _ _ h => .single h⟩

theorem GroupForest.lifted (h : GroupForest notes) (hlifted : Lifted notes after) :
    GroupForest after :=
  ⟨hlifted.ids ▸ h.unique, h.acyclic.of_transGen hlifted.parents⟩

/-- Notes that are changed one by one, with their parents as before or lifted. -/
theorem Lifted.map (h : Lifted notes after) (change : CanvasNoteData → CanvasNoteData)
    (hid : ∀ note, (change note).id = note.id)
    (hparent : ∀ note ∈ after, (change note).parentGroupId = note.parentGroupId ∨
      TransGen (ParentOf notes) note.parentGroupId (change note).parentGroupId) :
    Lifted notes (after.map change) where
  ids := by
    rw [← h.ids, List.map_map]
    exact List.map_congr_left fun note _ => hid note
  parents a b := by
    rintro ⟨_, hchanged, rfl, rfl⟩
    obtain ⟨note, hnote, rfl⟩ := List.mem_map.mp hchanged
    have hold := h.parents note.id note.parentGroupId ⟨note, hnote, rfl, rfl⟩
    rw [hid]
    rcases hparent note hnote with hsame | hlifted
    · rwa [hsame]
    · exact hold.trans hlifted

theorem Lifted.releaseChildren (h : Lifted notes after) (hgroup : ParentOf notes groupId parentId) :
    Lifted notes (releaseChildren groupId parentId after) := by
  refine h.map _ (fun note => ?_) fun note _ => ?_
  · split <;> rfl
  · split
    · rename_i hchild
      rw [hchild]
      exact .inr (.single hgroup)
    · exact .inl rfl

theorem Lifted.releaseAll {groups : List (String × String)} (h : Lifted notes after)
    (hgroups : ∀ group ∈ groups, ParentOf notes group.1 group.2) :
    Lifted notes (groups.foldl
      (fun notes group => Canvas.releaseChildren group.1 group.2 notes) after) := by
  induction groups generalizing after with
  | nil => exact h
  | cons group groups ih =>
    exact ih (h.releaseChildren (hgroups group List.mem_cons_self)) fun other hmem =>
      hgroups other (List.mem_cons_of_mem _ hmem)

theorem GroupForest.ungroupSelection (h : GroupForest notes) :
    GroupForest (ungroupSelection notes).2 := by
  refine (h.lifted ((Lifted.refl notes).releaseAll fun group hgroup => ?_)).filter _
  obtain ⟨note, hnote, rfl⟩ := List.mem_map.mp hgroup
  exact ⟨note, List.mem_of_mem_filter hnote, rfl, rfl⟩

theorem GroupForest.ungroupNode (h : GroupForest notes) (groupId : String) :
    GroupForest (ungroupNode notes groupId).2 := by
  unfold Canvas.ungroupNode
  split
  · exact h
  · rename_i group hgroup
    have hfound := List.find?_some hgroup
    have hparent : ParentOf notes groupId group.parentGroupId :=
      ⟨group, List.mem_of_find?_eq_some hgroup, by simp_all, rfl⟩
    exact (h.lifted ((Lifted.refl notes).releaseChildren hparent)).filter _

/-- The parent of a removed group is the one that a note with its identifier names. -/
theorem removedParent_eq_some {removed : Finset String}
    (h : removedParent notes removed groupId = some parentId) : ParentOf notes groupId parentId := by
  obtain ⟨note, hnote, hid, hparent⟩ := mem_of_lookup_reverse h
  exact ⟨note, List.mem_of_mem_filter hnote, hid, hparent⟩

theorem GroupForest.removeSelection (h : GroupForest notes) (links : List CanvasLinkData) :
    GroupForest (removeSelection notes links).2.1 := by
  let lift (note : CanvasNoteData) : CanvasNoteData := { note with
    parentGroupId :=
      (removedParent notes (selectedIds notes) note.parentGroupId).getD note.parentGroupId }
  refine (h.lifted ((Lifted.refl notes).map lift (fun _ => rfl) fun note _ => ?_)).filter _
  dsimp only [lift]
  cases hparent : removedParent notes (selectedIds notes) note.parentGroupId with
  | none => exact .inl rfl
  | some parentId => exact .inr (.single (removedParent_eq_some hparent))

theorem GroupForest.removeGroup (h : GroupForest notes) (links : List CanvasLinkData)
    (groupId : String) : GroupForest (removeGroupWithDescendants notes links groupId).2.1 := by
  unfold removeGroupWithDescendants
  split
  · exact h.filter _
  · exact h

/-- A new identifier: not empty, of no note, and of no group that a note names. -/
structure FreshNote (id : String) (notes : List CanvasNoteData) : Prop where
  nonempty : id ≠ ""
  note : ∀ note ∈ notes, note.id ≠ id
  parent : ∀ note ∈ notes, note.parentGroupId ≠ id

theorem moveInto_id (ids : Finset String) (parentGroupId groupId : String) (note : CanvasNoteData) :
    (moveInto ids parentGroupId groupId note).id = note.id := by
  unfold moveInto
  split <;> rfl

/-- The new group stands between its notes and what they lay in. -/
theorem GroupForest.groupSelection (h : GroupForest notes) (hfresh : FreshNote groupId notes)
    (english : Bool) : GroupForest (groupSelection groupId notes english).2 := by
  unfold Canvas.groupSelection
  dsimp only
  split
  · exact h
  · rename_i bounds hbounds
    generalize hids : expandedSelectionIds notes = ids
    generalize hparent : ((notes.find? (·.id ∈ ids)).map (·.parentGroupId)).getD "" = parentGroupId
    have hother : parentGroupId ≠ groupId := by
      rw [← hparent]
      cases hfind : notes.find? (·.id ∈ ids) with
      | none => exact Ne.symm hfresh.nonempty
      | some note => exact hfresh.parent note (List.mem_of_find?_eq_some hfind)
    refine ⟨?_, h.acyclic.subdivide hother ?_ ?_ fun a b => ?_⟩
    · rw [List.map_append, List.map_map]
      have hmoved : notes.map ((·.id) ∘ moveInto ids parentGroupId groupId) = notes.map (·.id) :=
        List.map_congr_left fun note _ => moveInto_id ids parentGroupId groupId note
      rw [hmoved]
      refine List.nodup_append.mpr ⟨h.unique, List.nodup_singleton _, fun a ha b hb => ?_⟩
      obtain ⟨note, hnote, rfl⟩ := List.mem_map.mp ha
      cases List.mem_singleton.mp hb
      exact hfresh.note note hnote
    · rintro a ⟨note, hnote, -, hinside⟩
      exact hfresh.parent note hnote hinside
    · rintro b ⟨note, hnote, hnamed, -⟩
      exact hfresh.note note hnote hnamed
    · rintro ⟨_, hmember, rfl, rfl⟩
      rcases List.mem_append.mp hmember with hmember | hmember
      · obtain ⟨note, hnote, rfl⟩ := List.mem_map.mp hmember
        unfold moveInto
        split
        · rename_i hmoved
          exact .inr (.inl ⟨⟨note, hnote, rfl, hmoved.2⟩, rfl⟩)
        · exact .inl ⟨note, hnote, rfl, rfl⟩
      · cases List.mem_singleton.mp hmember
        exact .inr (.inr ⟨rfl, rfl⟩)

/-- Notes that differ in nothing but their selection. -/
def SameButSelected (notes after : List CanvasNoteData) : Prop :=
  clearSelection after = clearSelection notes

theorem mem_of_same (hsame : SameButSelected notes after) {note : CanvasNoteData}
    (hnote : note ∈ after) :
    ∃ old ∈ notes, old.id = note.id ∧ old.parentGroupId = note.parentGroupId := by
  have hmem : { note with selected := false } ∈ clearSelection notes := by
    rw [← hsame]
    exact List.mem_map_of_mem hnote
  obtain ⟨old, hold, heq⟩ := List.mem_map.mp hmem
  have hid := congrArg CanvasNoteData.id heq
  have hparent := congrArg CanvasNoteData.parentGroupId heq
  exact ⟨old, hold, hid, hparent⟩

theorem GroupForest.select (h : GroupForest notes) (hsame : SameButSelected notes after) :
    GroupForest after where
  unique := by
    have hids := congrArg (List.map CanvasNoteData.id) hsame
    simp only [clearSelection, List.map_map, Function.comp_def] at hids
    exact hids ▸ h.unique
  acyclic := h.acyclic.mono fun a b => by
    rintro ⟨note, hnote, rfl, rfl⟩
    obtain ⟨old, hold, hid, hparent⟩ := mem_of_same hsame hnote
    exact ⟨old, hold, hid, hparent⟩

end Operations

section Copies

variable {uuids : Nat → String} {clipboard : CanvasClipboard} {controller : CanvasController}
  {notes : List CanvasNoteData}

theorem idMap_of_mem {note : CanvasNoteData} (hnote : note ∈ clipboard.notes) :
    ∃ n, clipboard.idMap uuids note.id = some (uuids n) := by
  obtain ⟨n, hn⟩ := List.mem_iff_getElem?.mp hnote
  have hmem : (note.id, uuids n) ∈
      (clipboard.notes.zipIdx.map fun item => (item.1.id, uuids item.2)).reverse :=
    List.mem_reverse.mpr (List.mem_map.mpr ⟨(note, n), List.mk_mem_zipIdx_iff_getElem?.mpr hn, rfl⟩)
  have hsome : (clipboard.idMap uuids note.id).isSome :=
    List.lookup_isSome_iff.mpr ⟨_, hmem, beq_self_eq_true _⟩
  obtain ⟨new, hnew⟩ := Option.isSome_iff_exists.mp hsome
  obtain ⟨item, -, -, rfl⟩ := idMap_eq_some hnew
  exact ⟨item.2, hnew⟩

theorem pasteClipboard_unique (h : (controller.clipboard.notes.map (·.id)).Nodup)
    (huuids : Function.Injective uuids) (offsetX offsetY : Rat) :
    ((controller.pasteClipboard uuids offsetX offsetY).1.map (·.id)).Nodup := by
  have hids : (controller.pasteClipboard uuids offsetX offsetY).1.map (·.id) =
      (controller.clipboard.notes.map (·.id)).map fun id =>
        (controller.clipboard.idMap uuids id).getD "" := by
    simp [CanvasController.pasteClipboard]
  rw [hids]
  refine h.map_on fun a ha b hb heq => ?_
  obtain ⟨first, hfirst, rfl⟩ := List.mem_map.mp ha
  obtain ⟨second, hsecond, rfl⟩ := List.mem_map.mp hb
  obtain ⟨i, hi⟩ := @idMap_of_mem uuids _ _ hfirst
  obtain ⟨j, hj⟩ := @idMap_of_mem uuids _ _ hsecond
  rw [hi, hj, Option.getD_some, Option.getD_some] at heq
  rw [heq] at hi
  rw [← originalId_idMap huuids hi, ← originalId_idMap huuids hj]

/-- Identifiers that no note has and no note names, no two the same. -/
structure FreshNotes (uuids : Nat → String) (notes : List CanvasNoteData) : Prop where
  injective : Function.Injective uuids
  fresh : ∀ n, FreshNote (uuids n) notes

/-- The copies keep the nesting among them, and lie outside all groups that were not copied. -/
theorem GroupForest.paste (h : GroupForest notes) (hcopied : GroupForest controller.clipboard.notes)
    (huuids : FreshNotes uuids notes) (offsetX offsetY : Rat) :
    GroupForest (notes ++ (controller.pasteClipboard uuids offsetX offsetY).1) where
  unique := by
    rw [List.map_append]
    refine List.nodup_append.mpr ⟨h.unique,
      pasteClipboard_unique hcopied.unique huuids.injective offsetX offsetY, fun a ha b hb => ?_⟩
    obtain ⟨old, hold, rfl⟩ := List.mem_map.mp ha
    obtain ⟨new, hnew, rfl⟩ := List.mem_map.mp hb
    obtain ⟨original, horiginal, rfl⟩ := List.mem_map.mp hnew
    obtain ⟨n, hn⟩ := @idMap_of_mem uuids _ _ horiginal
    dsimp only
    rw [hn]
    exact (huuids.fresh n).note old hold
  acyclic := by
    -- The nesting of the copies is that of their originals.
    let copied (a b : String) : Prop := ∃ note ∈ controller.clipboard.notes,
      controller.clipboard.idMap uuids note.id = some a ∧
        controller.clipboard.idMap uuids note.parentGroupId = some b
    have hcopies : Acyclic copied := by
      refine hcopied.acyclic.comap (originalId uuids controller.clipboard) fun a b => ?_
      rintro ⟨note, hnote, ha, hb⟩
      exact ⟨note, hnote, (originalId_idMap huuids.injective ha).symm,
        (originalId_idMap huuids.injective hb).symm⟩
    refine h.acyclic.layers hcopies (fun id => ∃ n, id = uuids n) fun a b => ?_
    rintro ⟨note, hmember, rfl, rfl⟩
    rcases List.mem_append.mp hmember with hold | hnew
    · exact .inl ⟨fun ⟨n, hn⟩ => (huuids.fresh n).note note hold hn,
        fun ⟨n, hn⟩ => (huuids.fresh n).parent note hold hn, note, hold, rfl, rfl⟩
    · obtain ⟨original, horiginal, rfl⟩ := List.mem_map.mp hnew
      obtain ⟨n, hn⟩ := @idMap_of_mem uuids _ _ horiginal
      dsimp only
      rw [hn]
      refine .inr ⟨⟨n, rfl⟩, fun ⟨m, hm⟩ => ⟨original, horiginal, hn, ?_⟩⟩
      cases hparent : controller.clipboard.idMap uuids original.parentGroupId with
      | some parent => rfl
      | none =>
        rw [hparent] at hm
        exact absurd hm.symm (huuids.fresh m).nonempty

end Copies

structure NoteState where
  notes : List CanvasNoteData
  controller : CanvasController := {}

/-- One operation, with whatever links are on the canvas. -/
inductive NoteStep (state : NoteState) : NoteState → Prop
  | group (groupId : String) (hfresh : FreshNote groupId state.notes) (english : Bool) :
      NoteStep state { state with notes := (groupSelection groupId state.notes english).2 }
  | ungroupSelection : NoteStep state { state with notes := (ungroupSelection state.notes).2 }
  | ungroupNode (groupId : String) :
      NoteStep state { state with notes := (ungroupNode state.notes groupId).2 }
  | removeSelection (links : List CanvasLinkData) :
      NoteStep state { state with notes := (removeSelection state.notes links).2.1 }
  | removeGroup (links : List CanvasLinkData) (groupId : String) :
      NoteStep state
        { state with notes := (removeGroupWithDescendants state.notes links groupId).2.1 }
  | select (notes : List CanvasNoteData) (hsame : SameButSelected state.notes notes) :
      NoteStep state { state with notes := notes }
  | copy (links : List CanvasLinkData) :
      NoteStep state { state with controller := state.controller.copySelection state.notes links }
  | paste (uuids : Nat → String) (huuids : FreshNotes uuids state.notes) (offsetX offsetY : Rat) :
      NoteStep state { state with
        notes := state.notes ++ (state.controller.pasteClipboard uuids offsetX offsetY).1 }

structure NoteInvariant (state : NoteState) : Prop where
  notes : GroupForest state.notes
  copied : GroupForest state.controller.clipboard.notes

theorem NoteInvariant.step {state next : NoteState} (h : NoteInvariant state)
    (hstep : NoteStep state next) : NoteInvariant next := by
  cases hstep with
  | group groupId hfresh english => exact ⟨h.notes.groupSelection hfresh english, h.copied⟩
  | ungroupSelection => exact ⟨h.notes.ungroupSelection, h.copied⟩
  | ungroupNode groupId => exact ⟨h.notes.ungroupNode groupId, h.copied⟩
  | removeSelection links => exact ⟨h.notes.removeSelection links, h.copied⟩
  | removeGroup links groupId => exact ⟨h.notes.removeGroup links groupId, h.copied⟩
  | select notes hsame => exact ⟨h.notes.select hsame, h.copied⟩
  | copy links => exact ⟨h.notes, h.notes.filter _⟩
  | paste uuids huuids offsetX offsetY =>
    exact ⟨h.notes.paste h.copied huuids offsetX offsetY, h.copied⟩

/-- In every run identifiers stay unique and no note comes to lie in itself. -/
theorem groups_stay_acyclic {start last : NoteState} (hnotes : GroupForest start.notes)
    (hclipboard : GroupForest start.controller.clipboard.notes)
    (hrun : ReflTransGen NoteStep start last) :
    (last.notes.map (·.id)).Nodup ∧ ∀ id, ¬TransGen (ParentOf last.notes) id id := by
  have hinvariant : NoteInvariant last := by
    induction hrun with
    | refl => exact ⟨hnotes, hclipboard⟩
    | tail _ hstep ih => exact ih.step hstep
  exact ⟨hinvariant.notes.unique, hinvariant.notes.acyclic⟩

theorem groups_stay_acyclic_grouped :
    let note (id : String) : CanvasNoteData := { id := id, content := "", x := 0, y := 0, selected := true }
    let notes := (groupSelection "g" [note "a", note "b"] true).2
    (notes.map (·.id)).Nodup ∧ ∀ id, ¬TransGen (ParentOf notes) id id := by
  intro note notes
  have hnotes : GroupForest [note "a", note "b"] := by
    refine ⟨by decide, fun a hcycle => ?_⟩
    obtain ⟨_, ⟨first, hfirst, hnamed, -⟩, -⟩ := TransGen.head'_iff.mp hcycle
    obtain ⟨_, -, last, hlast, -, hparent⟩ := TransGen.tail'_iff.mp hcycle
    have hroot : ∀ root ∈ [note "a", note "b"], root.parentGroupId = "" ∧ root.id ≠ "" := by decide
    exact (hroot first hfirst).2 (hnamed.trans (hparent.symm.trans (hroot last hlast).1))
  have hfresh : FreshNote "g" [note "a", note "b"] := ⟨by decide, by decide, by decide⟩
  have hempty : GroupForest [] := hnotes.filter fun _ => false
  have hrun : ReflTransGen NoteStep ⟨[note "a", note "b"], {}⟩ ⟨notes, {}⟩ :=
    .single (.group "g" hfresh true)
  exact groups_stay_acyclic hnotes hempty hrun

end ArtForgeStudio.Canvas
