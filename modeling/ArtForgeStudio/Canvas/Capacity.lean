import ArtForgeStudio.Canvas.Callbacks
import ArtForgeStudio.Canvas.Groups

/-! # The capacity of the canvas

No canvas that comes of an empty one has too many notes or links, and its links end at notes that
are there. No note has two inputs, so there are no more links than notes; that is why a
reconnection may go without counting the links.
-/

namespace ArtForgeStudio.Canvas

open ArtForgeStudio.Codecs ArtForgeStudio.LocalStore ArtForgeStudio.Outcome Relation

/-- A note is there that links may end at. -/
def IsEnd (notes : List CanvasNoteData) (id : String) : Prop :=
  ∃ note ∈ notes, note.id = id ∧ note.kind ≠ "group"

structure LinkedNotes (notes : List CanvasNoteData) (links : List CanvasLinkData) : Prop where
  unique : (notes.map (·.id)).Nodup
  source : ∀ link ∈ links, IsEnd notes link.sourceId
  target : ∀ link ∈ links, IsEnd notes link.targetId
  oneInput : (links.map (·.targetId)).Nodup

section Linked

variable {notes after added : List CanvasNoteData} {links new : List CanvasLinkData}
  {id source target linkId : String}

theorem isLinkEnd_iff : isLinkEnd notes id = true ↔ IsEnd notes id := by
  simp [isLinkEnd, IsEnd]

theorem IsEnd.of_outline (h : IsEnd notes id) (hsame : outline after = outline notes) :
    IsEnd after id := by
  obtain ⟨note, hnote, rfl, hkind⟩ := h
  have hmem : (note.id, note.kind) ∈ outline after := by
    rw [hsame]
    exact List.mem_map_of_mem hnote
  obtain ⟨other, hother, heq⟩ := List.mem_map.mp hmem
  obtain ⟨hid, hsame⟩ := Prod.mk.inj heq
  exact ⟨other, hother, hid, hsame ▸ hkind⟩

theorem IsEnd.append_left (h : IsEnd notes id) (added : List CanvasNoteData) :
    IsEnd (notes ++ added) id := by
  obtain ⟨note, hnote, hend⟩ := h
  exact ⟨note, List.mem_append_left _ hnote, hend⟩

theorem IsEnd.append_right (h : IsEnd added id) (notes : List CanvasNoteData) :
    IsEnd (notes ++ added) id := by
  obtain ⟨note, hnote, hend⟩ := h
  exact ⟨note, List.mem_append_right _ hnote, hend⟩

theorem outline_fst (notes : List CanvasNoteData) : (outline notes).map (·.1) = notes.map (·.id) := by
  simp [outline]

/-- Only identifiers and kinds count. -/
theorem LinkedNotes.of_outline (h : LinkedNotes notes links) (hsame : outline after = outline notes) :
    LinkedNotes after links where
  unique := by
    rw [← outline_fst, hsame, outline_fst]
    exact h.unique
  source link hlink := (h.source link hlink).of_outline hsame
  target link hlink := (h.target link hlink).of_outline hsame
  oneInput := h.oneInput

/-- There are no more links than notes. -/
theorem LinkedNotes.links_le (h : LinkedNotes notes links) : links.length ≤ notes.length := by
  have hsubset : links.map (·.targetId) ⊆ notes.map (·.id) := by
    intro id hid
    obtain ⟨link, hlink, rfl⟩ := List.mem_map.mp hid
    obtain ⟨note, hnote, heq, -⟩ := h.target link hlink
    exact List.mem_map.mpr ⟨note, hnote, heq⟩
  simpa using (h.oneInput.subperm hsubset).length_le

theorem LinkedNotes.eq_of_id (h : LinkedNotes notes links) {note other : CanvasNoteData}
    (hnote : note ∈ notes) (hother : other ∈ notes) (hid : note.id = other.id) : note = other :=
  List.inj_on_of_nodup_map h.unique hnote hother hid

/-- Notes and links may go, if no link stays without its ends. -/
theorem LinkedNotes.keep (h : LinkedNotes notes links) (keptNote : CanvasNoteData → Bool)
    (keptLink : CanvasLinkData → Bool)
    (hkept : ∀ link ∈ links, keptLink link → ∀ note ∈ notes, note.kind ≠ "group" →
      note.id = link.sourceId ∨ note.id = link.targetId → keptNote note) :
    LinkedNotes (notes.filter keptNote) (links.filter keptLink) where
  unique := h.unique.sublist (List.filter_sublist.map _)
  source link hlink := by
    obtain ⟨hlink, hstays⟩ := List.mem_filter.mp hlink
    obtain ⟨note, hnote, hid, hkind⟩ := h.source link hlink
    have hkeep := hkept link hlink hstays note hnote hkind (.inl hid)
    exact ⟨note, List.mem_filter.mpr ⟨hnote, hkeep⟩, hid, hkind⟩
  target link hlink := by
    obtain ⟨hlink, hstays⟩ := List.mem_filter.mp hlink
    obtain ⟨note, hnote, hid, hkind⟩ := h.target link hlink
    have hkeep := hkept link hlink hstays note hnote hkind (.inr hid)
    exact ⟨note, List.mem_filter.mpr ⟨hnote, hkeep⟩, hid, hkind⟩
  oneInput := h.oneInput.sublist (List.filter_sublist.map _)

/-- Notes that links do not name may go. -/
theorem LinkedNotes.without (h : LinkedNotes notes links) (removed : Finset String) :
    LinkedNotes (notes.filter (·.id ∉ removed)) (withoutRemoved removed links) := by
  refine h.keep _ _ fun link _ hlink note _ _ hid => ?_
  simp only [Bool.and_eq_true, decide_eq_true_eq] at hlink ⊢
  rcases hid with hid | hid
  · exact hid ▸ hlink.1
  · exact hid ▸ hlink.2

/-- Groups may go: no link ends at one. -/
theorem LinkedNotes.withoutGroups (h : LinkedNotes notes links) (removed : Finset String)
    (hgroups : ∀ id ∈ removed, (id, "group") ∈ outline notes) :
    LinkedNotes (notes.filter (·.id ∉ removed)) links := by
  have hkeep := h.keep (·.id ∉ removed) (fun _ => true) fun link _ _ note hnote hkind _ => by
    refine decide_eq_true fun hmem => hkind ?_
    obtain ⟨group, hgroup, heq⟩ := List.mem_map.mp (hgroups note.id hmem)
    obtain ⟨hid, hsame⟩ := Prod.mk.inj heq
    rwa [h.eq_of_id hnote hgroup hid.symm]
  simpa using hkeep

theorem LinkedNotes.append (h : LinkedNotes notes links) (hadded : LinkedNotes added new)
    (hnew : ∀ note ∈ notes, ∀ other ∈ added, note.id ≠ other.id) :
    LinkedNotes (notes ++ added) (links ++ new) where
  unique := by
    rw [List.map_append]
    refine List.nodup_append.mpr ⟨h.unique, hadded.unique, fun a ha b hb => ?_⟩
    obtain ⟨note, hnote, rfl⟩ := List.mem_map.mp ha
    obtain ⟨other, hother, rfl⟩ := List.mem_map.mp hb
    exact hnew note hnote other hother
  source link hlink := by
    rcases List.mem_append.mp hlink with hlink | hlink
    · exact (h.source link hlink).append_left added
    · exact (hadded.source link hlink).append_right notes
  target link hlink := by
    rcases List.mem_append.mp hlink with hlink | hlink
    · exact (h.target link hlink).append_left added
    · exact (hadded.target link hlink).append_right notes
  oneInput := by
    rw [List.map_append]
    refine List.nodup_append.mpr ⟨h.oneInput, hadded.oneInput, fun a ha b hb => ?_⟩
    obtain ⟨link, hlink, rfl⟩ := List.mem_map.mp ha
    obtain ⟨other, hother, rfl⟩ := List.mem_map.mp hb
    obtain ⟨note, hnote, hid, -⟩ := h.target link hlink
    obtain ⟨copy, hcopy, hcopied, -⟩ := hadded.target other hother
    rw [← hid, ← hcopied]
    exact hnew note hnote copy hcopy

/-- Notes without links are added. -/
theorem LinkedNotes.addNotes (h : LinkedNotes notes links) (hunique : (added.map (·.id)).Nodup)
    (hnew : ∀ note ∈ notes, ∀ other ∈ added, note.id ≠ other.id) :
    LinkedNotes (notes ++ added) links := by
  have hadded : LinkedNotes added [] := ⟨hunique, by simp, by simp, by simp⟩
  simpa using h.append hadded hnew

/-- The link takes the place of the one that led to its target. -/
theorem LinkedNotes.connect (h : LinkedNotes notes links) (hsource : IsEnd notes source)
    (htarget : IsEnd notes target) (linkId : String) (flowReversed : Bool) :
    LinkedNotes notes (connectNodesWithFlow linkId links source target flowReversed).2 := by
  unfold connectNodesWithFlow
  split
  · exact h
  · refine ⟨h.unique, fun link hlink => ?_, fun link hlink => ?_, ?_⟩
    · rcases List.mem_append.mp hlink with hlink | hlink
      · exact h.source link (List.mem_of_mem_filter hlink)
      · cases List.mem_singleton.mp hlink
        exact hsource
    · rcases List.mem_append.mp hlink with hlink | hlink
      · exact h.target link (List.mem_of_mem_filter hlink)
      · cases List.mem_singleton.mp hlink
        exact htarget
    · rw [List.map_append, List.map_singleton]
      refine List.nodup_append.mpr ⟨h.oneInput.sublist (List.filter_sublist.map _),
        List.nodup_singleton _, fun a ha b hb => ?_⟩
      obtain ⟨link, hlink, rfl⟩ := List.mem_map.mp ha
      cases List.mem_singleton.mp hb
      simpa using List.of_mem_filter hlink

/-- What is copied has the ends of its links. -/
theorem LinkedNotes.copy (h : LinkedNotes notes links) (controller : CanvasController) :
    LinkedNotes (controller.copySelection notes links).clipboard.notes
      (controller.copySelection notes links).clipboard.links := by
  refine h.keep _ _ fun link _ hlink note _ _ hid => ?_
  simp only [Bool.and_eq_true, decide_eq_true_eq] at hlink ⊢
  rcases hid with hid | hid
  · exact hid ▸ hlink.1
  · exact hid ▸ hlink.2

end Linked

section Copies

variable {uuids : Nat → String} {controller : CanvasController} {id new : String}

theorem IsEnd.paste (h : IsEnd controller.clipboard.notes id)
    (hnew : controller.clipboard.idMap uuids id = some new) (offsetX offsetY : Rat) :
    IsEnd (controller.pasteClipboard uuids offsetX offsetY).1 new := by
  obtain ⟨note, hnote, rfl, hkind⟩ := h
  exact ⟨_, List.mem_map_of_mem hnote, by rw [hnew]; rfl, hkind⟩

/-- The copies of linked notes are linked among themselves. -/
theorem LinkedNotes.paste
    (h : LinkedNotes controller.clipboard.notes controller.clipboard.links)
    (huuids : Function.Injective uuids) (offsetX offsetY : Rat) :
    LinkedNotes (controller.pasteClipboard uuids offsetX offsetY).1
      (controller.pasteClipboard uuids offsetX offsetY).2 where
  unique := pasteClipboard_unique h.unique huuids offsetX offsetY
  source link hlink := by
    obtain ⟨original, horiginal, hsource, -⟩ := mem_pasteClipboard_links hlink
    exact (h.source original horiginal).paste hsource offsetX offsetY
  target link hlink := by
    obtain ⟨original, horiginal, -, htarget⟩ := mem_pasteClipboard_links hlink
    exact (h.target original horiginal).paste htarget offsetX offsetY
  oneInput := pasteClipboard_oneInput h.oneInput huuids offsetX offsetY

theorem pasteClipboard_id {offsetX offsetY : Rat} {note : CanvasNoteData}
    (hnote : note ∈ (controller.pasteClipboard uuids offsetX offsetY).1) : ∃ n, note.id = uuids n := by
  obtain ⟨original, horiginal, rfl⟩ := List.mem_map.mp hnote
  obtain ⟨n, hn⟩ := @idMap_of_mem uuids _ _ horiginal
  exact ⟨n, by rw [hn]; rfl⟩

end Copies

section Groups

variable {notes : List CanvasNoteData}

theorem outline_releaseChildren (groupId parentId : String) (notes : List CanvasNoteData) :
    outline (releaseChildren groupId parentId notes) = outline notes := by
  refine outline_map fun note => ?_
  split <;> exact ⟨rfl, rfl⟩

theorem outline_releaseAll (groups : List (String × String)) (notes : List CanvasNoteData) :
    outline (groups.foldl (fun notes group => releaseChildren group.1 group.2 notes) notes) =
      outline notes := by
  induction groups generalizing notes with
  | nil => rfl
  | cons group groups ih => exact (ih _).trans (outline_releaseChildren group.1 group.2 notes)

theorem outline_moveInto (ids : Finset String) (parentGroupId groupId : String)
    (notes : List CanvasNoteData) :
    outline (notes.map (moveInto ids parentGroupId groupId)) = outline notes := by
  refine outline_map fun note => ?_
  unfold moveInto
  split <;> exact ⟨rfl, rfl⟩

theorem outline_append (notes added : List CanvasNoteData) :
    outline (notes ++ added) = outline notes ++ outline added :=
  List.map_append

/-- A new group is one note more. -/
theorem outline_groupSelection {after : List CanvasNoteData} {groupId created : String}
    {english : Bool} (h : groupSelection groupId notes english = (some created, after)) :
    outline after = outline notes ++ [(groupId, "group")] := by
  unfold groupSelection at h
  dsimp only at h
  split at h
  · cases (Prod.mk.inj h).1
  · obtain rfl := (Prod.mk.inj h).2
    rw [outline_append, outline_moveInto]
    rfl

theorem groupSelection_none {after : List CanvasNoteData} {groupId : String} {english : Bool}
    (h : groupSelection groupId notes english = (none, after)) : after = notes := by
  unfold groupSelection at h
  dsimp only at h
  split at h
  · exact (Prod.mk.inj h).2.symm
  · cases (Prod.mk.inj h).1

end Groups

structure SoundCanvas (notes : List CanvasNoteData) (links : List CanvasLinkData) : Prop where
  linked : LinkedNotes notes links
  room : notes.length ≤ maxCanvasNodes

section Sound

variable {notes after added : List CanvasNoteData} {links : List CanvasLinkData} {id : String}

theorem soundCanvas_nil : SoundCanvas [] [] :=
  ⟨⟨by simp, by simp, by simp, by simp⟩, by simp⟩

theorem SoundCanvas.of_outline (h : SoundCanvas notes links) (hsame : outline after = outline notes) :
    SoundCanvas after links := by
  have hlength := congrArg List.length hsame
  simp only [outline, List.length_map] at hlength
  exact ⟨h.linked.of_outline hsame, hlength ▸ h.room⟩

theorem SoundCanvas.clearSelection (h : SoundCanvas notes links) :
    SoundCanvas (clearSelection notes) links :=
  h.of_outline (outline_clearSelection notes)

theorem SoundCanvas.fitGroups (h : SoundCanvas notes links) :
    SoundCanvas (fitGroupsToChildren notes) links :=
  h.of_outline (outline_fitGroupsToChildren notes)

/-- Links are made between notes that are there. -/
theorem SoundCanvas.connect (h : SoundCanvas notes links) {source target : String}
    (hsource : IsEnd notes source) (htarget : IsEnd notes target) (linkId : String)
    (flowReversed : Bool) :
    SoundCanvas notes (connectNodesWithFlow linkId links source target flowReversed).2 :=
  ⟨h.linked.connect hsource htarget linkId flowReversed, h.room⟩

theorem SoundCanvas.addNotes (h : SoundCanvas notes links) (hunique : (added.map (·.id)).Nodup)
    (hnew : ∀ note ∈ notes, ∀ other ∈ added, note.id ≠ other.id)
    (hroom : notes.length + added.length ≤ maxCanvasNodes) : SoundCanvas (notes ++ added) links :=
  ⟨h.linked.addNotes hunique hnew, by simpa using hroom⟩

theorem SoundCanvas.addNote (h : SoundCanvas notes links) {note : CanvasNoteData}
    (hnew : ∀ other ∈ notes, other.id ≠ note.id) (hroom : notes.length < maxCanvasNodes) :
    SoundCanvas (notes ++ [note]) links :=
  h.addNotes (by simp) (by simpa using hnew) hroom

theorem SoundCanvas.without (h : SoundCanvas notes links) (removed : Finset String) :
    SoundCanvas (notes.filter (·.id ∉ removed)) (withoutRemoved removed links) :=
  ⟨h.linked.without removed, (List.length_filter_le _ _).trans h.room⟩

theorem SoundCanvas.withoutGroups (h : SoundCanvas notes links) (removed : Finset String)
    (hgroups : ∀ id ∈ removed, (id, "group") ∈ outline notes) :
    SoundCanvas (notes.filter (·.id ∉ removed)) links :=
  ⟨h.linked.withoutGroups removed hgroups, (List.length_filter_le _ _).trans h.room⟩

theorem SoundCanvas.ungroupSelection (h : SoundCanvas notes links) :
    SoundCanvas (ungroupSelection notes).2 links := by
  unfold Canvas.ungroupSelection
  extract_lets groups removed released
  have hsame : outline released = outline notes := outline_releaseAll groups notes
  have hreleased : SoundCanvas released links := h.of_outline hsame
  refine hreleased.withoutGroups removed fun id hid => ?_
  rw [hsame]
  obtain ⟨group, hgroup, rfl⟩ := List.mem_map.mp (List.mem_toFinset.mp hid)
  obtain ⟨note, hnote, rfl⟩ := List.mem_map.mp hgroup
  obtain ⟨hnote, hselected⟩ := List.mem_filter.mp hnote
  have hkind : note.kind = "group" := by
    simp only [Bool.and_eq_true, decide_eq_true_eq] at hselected
    exact hselected.2
  exact List.mem_map.mpr ⟨note, hnote, by rw [hkind]⟩

theorem SoundCanvas.ungroupNode (h : SoundCanvas notes links) {after : List CanvasNoteData}
    (hungroup : ungroupNode notes id = (true, after)) : SoundCanvas after links := by
  unfold Canvas.ungroupNode at hungroup
  split at hungroup
  · cases (Prod.mk.inj hungroup).1
  · rename_i group hfind
    obtain rfl := (Prod.mk.inj hungroup).2
    have hreleased := h.of_outline (outline_releaseChildren id group.parentGroupId notes)
    have hgroup := List.find?_some hfind
    simp only [Bool.and_eq_true, decide_eq_true_eq] at hgroup
    have hwithout := hreleased.withoutGroups {id} fun other hother => by
      rw [outline_releaseChildren, Finset.mem_singleton.mp hother]
      exact List.mem_map.mpr ⟨group, List.mem_of_find?_eq_some hfind, by rw [hgroup.1, hgroup.2]⟩
    simpa using hwithout

theorem SoundCanvas.removeSelection (h : SoundCanvas notes links) :
    SoundCanvas (removeSelection notes links).2.1 (removeSelection notes links).2.2 := by
  let lift (note : CanvasNoteData) : CanvasNoteData := { note with
    parentGroupId :=
      (removedParent notes (selectedIds notes) note.parentGroupId).getD note.parentGroupId }
  have hlifted := h.of_outline (@outline_map notes lift fun _ => ⟨rfl, rfl⟩)
  exact hlifted.without (selectedIds notes)

theorem SoundCanvas.removeGroup (h : SoundCanvas notes links) (groupId : String) :
    SoundCanvas (removeGroupWithDescendants notes links groupId).2.1
      (removeGroupWithDescendants notes links groupId).2.2 := by
  unfold removeGroupWithDescendants
  split
  · exact h.without _
  · exact h

theorem connectNodes_connected {linkId source target newId newTarget : String}
    {replaced : Option String} {links connected : List CanvasLinkData} {flowReversed : Bool}
    (h : connectNodesWithFlow linkId links source target flowReversed =
      (.connected newId newTarget replaced, connected)) :
    connected = (connectNodesWithFlow linkId links source target flowReversed).2 := by
  rw [h]

/-- The note of a result, linked from its source. -/
theorem SoundCanvas.addOutput (h : SoundCanvas notes links) {prepared : PreparedNamespaceDelivery}
    {source : CanvasNoteData} {nodeId linkId : String} {connected : List CanvasLinkData}
    (hroom : notes.length < maxCanvasNodes) (hnew : ∀ note ∈ notes, note.id ≠ nodeId)
    (hsource : IsEnd notes prepared.canvasSourceNodeId)
    (hadded : addCanvasOutput prepared source nodeId linkId notes links = .ok (after, connected)) :
    SoundCanvas after connected := by
  unfold addCanvasOutput at hadded
  extract_lets node desired place at hadded
  have hnode : node.id = nodeId ∧ node.kind = "image" := fitImageNode_outline _ _ _
  split at hadded
  · rename_i connected hconnected
    obtain ⟨rfl, rfl⟩ := Prod.mk.inj (Except.ok.inj hadded)
    obtain rfl := connectNodes_connected hconnected
    refine (h.addNote ?_ hroom).connect (hsource.append_left _) ?_ _ _
    · exact hnode.1 ▸ hnew
    · refine ⟨_, List.mem_append_right _ List.mem_cons_self, hnode.1, ?_⟩
      rw [show ({ node with x := place.1, y := place.2 } : CanvasNoteData).kind = "image" from hnode.2]
      decide
  · cases hadded

end Sound

/-- The notes and the links of a workspace, the active one or one in the map. -/
inductive Store.Holds (store : Store) : List CanvasNoteData → List CanvasLinkData → Prop
  | active : Store.Holds store store.canvasNotes store.canvasLinks
  | stored {id : String} {workspace : CanvasWorkspaceData}
      (h : store.canvasWorkspaces[id]? = some workspace) :
      Store.Holds store workspace.notes workspace.links

def SoundWorkspaces (workspaces : BTreeMap CanvasWorkspaceData) : Prop :=
  ∀ (id : String) workspace, workspaces[id]? = some workspace →
    SoundCanvas workspace.notes workspace.links

structure SoundStore (store : Store) : Prop where
  active : SoundCanvas store.canvasNotes store.canvasLinks
  stored : SoundWorkspaces store.canvasWorkspaces

section Stores

variable {workspaces : BTreeMap CanvasWorkspaceData} {store : Store}
  {notes : List CanvasNoteData} {links : List CanvasLinkData}

/-- A workspace that is not there is empty. -/
theorem SoundWorkspaces.get (h : SoundWorkspaces workspaces) (id : String) :
    SoundCanvas ((workspaces[id]?).getD {}).notes ((workspaces[id]?).getD {}).links := by
  cases hworkspace : workspaces[id]? with
  | none => exact soundCanvas_nil
  | some workspace => exact h id workspace hworkspace

theorem SoundWorkspaces.insert (h : SoundWorkspaces workspaces) (id : String)
    {workspace : CanvasWorkspaceData} (hworkspace : SoundCanvas workspace.notes workspace.links) :
    SoundWorkspaces (workspaces.insert id workspace) := by
  intro other found hfound
  rw [Std.ExtTreeMap.getElem?_insert] at hfound
  split at hfound
  · cases hfound
    exact hworkspace
  · exact h other found hfound

theorem SoundStore.holds (h : SoundStore store) (hholds : store.Holds notes links) :
    SoundCanvas notes links := by
  cases hholds with
  | active => exact h.active
  | stored hstored => exact h.stored _ _ hstored

theorem SoundStore.setActive (h : SoundStore store) (hcanvas : SoundCanvas notes links) :
    SoundStore { store with canvasNotes := notes, canvasLinks := links } :=
  ⟨hcanvas, h.stored⟩

/-- A switch puts the active canvas away and takes another one out. -/
theorem SoundStore.switch (h : SoundStore store) (prompt target : String) :
    SoundStore (switchCanvasWorkspace store prompt target).2 := by
  have hsaved : SoundWorkspaces (store.savedWorkspaces prompt) := h.stored.insert _ h.active
  have htarget := (hsaved.get (normalizeCanvasWorkspaceId target)).clearSelection
  exact ⟨htarget, hsaved.insert _ htarget⟩

theorem SoundStore.canvas (h : SoundStore store) (id : String) :
    SoundCanvas (store.canvas id).1 (store.canvas id).2 := by
  unfold Store.canvas
  split
  · exact h.active
  · exact h.stored.get id

theorem SoundStore.setCanvas (h : SoundStore store) (id : String) (hcanvas : SoundCanvas notes links) :
    SoundStore (store.setCanvas id notes links) := by
  unfold Store.setCanvas
  split
  · exact h.setActive hcanvas
  · exact ⟨h.active, h.stored.insert id hcanvas⟩

theorem SoundStore.withAssets (h : SoundStore store) (assets : List AssetData) :
    SoundStore { store with assets := assets } :=
  ⟨h.active, h.stored⟩

end Stores

/-- An identifier that no note of the store has. -/
def NewId (store : Store) (id : String) : Prop :=
  ∀ notes links, store.Holds notes links → ∀ note ∈ notes, note.id ≠ id

theorem NewId.canvas {store : Store} {id : String} (h : NewId store id) (workspace : String) :
    ∀ note ∈ (store.canvas workspace).1, note.id ≠ id := by
  unfold Store.canvas
  split
  · exact h _ _ .active
  · cases hworkspace : store.canvasWorkspaces[workspace]? with
    | none => simp
    | some found => exact h _ _ (.stored hworkspace)

structure NewIds (store : Store) (uuids : Nat → String) : Prop where
  injective : Function.Injective uuids
  new : ∀ n, NewId store (uuids n)

/-- The canvases are sound, and so are those that an undo or a redo brings back. -/
structure SoundApp (app : CanvasApp) : Prop where
  store : SoundStore app.store
  undone : ∀ snapshot ∈ app.history.undoStack, SoundCanvas snapshot.notes snapshot.links
  redone : ∀ snapshot ∈ app.history.redoStack, SoundCanvas snapshot.notes snapshot.links
  copied : LinkedNotes app.history.clipboard.notes app.history.clipboard.links

namespace SoundApp

variable {app : CanvasApp} {notes added : List CanvasNoteData} {links : List CanvasLinkData}
  {uuids : Nat → String} {note : CanvasNoteData} {english : Bool}

theorem active (h : SoundApp app) : SoundCanvas app.store.canvasNotes app.store.canvasLinks :=
  h.store.active

/-- A new identifier is not on the active canvas, whatever is selected there. -/
theorem not_active (hnew : NewId app.store note.id) :
    ∀ other ∈ clearSelection app.store.canvasNotes, other.id ≠ note.id := by
  intro other hother
  obtain ⟨old, hold, rfl⟩ := List.mem_map.mp hother
  exact hnew _ _ .active old hold

theorem edit (h : SoundApp app) (hcanvas : SoundCanvas notes links) : SoundApp (app.edit notes links) where
  store := h.store.setActive hcanvas
  undone snapshot hmem := by
    have hrecorded : snapshot ∈ app.history.undoStack ++ [app.canvasSnapshot] := by
      simp only [CanvasApp.edit, CanvasController.record] at hmem
      split at hmem
      · exact List.mem_of_mem_drop hmem
      · exact hmem
    rcases List.mem_append.mp hrecorded with hold | hlast
    · exact h.undone snapshot hold
    · cases List.mem_singleton.mp hlast
      exact h.active
  redone := by simp [CanvasApp.edit, CanvasController.record]
  copied := h.copied

theorem select (h : SoundApp app) (hsame : outline notes = outline app.store.canvasNotes) :
    SoundApp (app.select notes) :=
  ⟨h.store.setActive (h.active.of_outline hsame), h.undone, h.redone, h.copied⟩

theorem addNote (h : SoundApp app) (hnew : NewId app.store note.id) : SoundApp (app.addNote note) := by
  unfold CanvasApp.addNote
  split
  · exact h
  · rename_i hroom
    exact h.edit (h.active.clearSelection.addNote (not_active hnew) (by simpa [clearSelection] using hroom))

theorem selectCanvasNode (h : SoundApp app) (id : String) (toggle : Bool) :
    SoundApp (app.selectCanvasNode id toggle) := by
  refine h.select (Eq.trans (outline_updateFirst _ fun note _ _ => ?_) ?_)
  · exact ⟨rfl, rfl⟩
  · split
    · rfl
    · exact outline_clearSelection _

theorem selectCanvasRect (h : SoundApp app) (x1 y1 x2 y2 : Rat) (additive : Bool) :
    SoundApp (app.selectCanvasRect x1 y1 x2 y2 additive) := by
  refine h.select ((outline_map fun note => ?_).trans ?_)
  · split <;> exact ⟨rfl, rfl⟩
  · split
    · rfl
    · exact outline_clearSelection _

theorem clearCanvasSelection (h : SoundApp app) : SoundApp app.clearCanvasSelection :=
  h.select (outline_clearSelection _)

theorem selectAllCanvasNodes (h : SoundApp app) : SoundApp app.selectAllCanvasNodes :=
  h.select (outline_map fun _ => ⟨rfl, rfl⟩)

theorem addCanvasNode (h : SoundApp app) (hnew : NewIds app.store uuids) (kind : String)
    (centerX centerY : Rat) : SoundApp (app.addCanvasNode uuids english kind centerX centerY) :=
  h.addNote (hnew.new 0)

theorem createCanvasGenerationSource (h : SoundApp app) (hnew : NewIds app.store uuids)
    (prompt : String) (centerX centerY : Rat) :
    SoundApp (app.createCanvasGenerationSource uuids english prompt centerX centerY) := by
  unfold CanvasApp.createCanvasGenerationSource
  split
  · exact h
  · exact h.addNote (hnew.new 0)

theorem updateCanvasNode (h : SoundApp app) (id content : String) (x y : Rat) :
    SoundApp (app.updateCanvasNode id content x y) := by
  unfold CanvasApp.updateCanvasNode
  split
  · exact h
  · split
    · exact h
    · exact h.edit (h.active.of_outline (outline_updateFirst _ fun _ _ _ => ⟨rfl, rfl⟩))

theorem moveCanvasSelection (h : SoundApp app) (dx dy : Rat) :
    SoundApp (app.moveCanvasSelection dx dy) := by
  unfold CanvasApp.moveCanvasSelection
  split
  · exact h
  · refine h.edit (h.active.of_outline (outline_map fun note => ?_)).fitGroups
    split <;> exact ⟨rfl, rfl⟩

theorem copyCanvasSelection (h : SoundApp app) : SoundApp app.copyCanvasSelection :=
  ⟨h.store, h.undone, h.redone, h.active.linked.copy app.history⟩

theorem insertCopies (h : SoundApp app) {copies : List CanvasNoteData × List CanvasLinkData}
    (hcopies : LinkedNotes copies.1 copies.2) (hnew : ∀ note ∈ copies.1, NewId app.store note.id) :
    SoundApp (app.insertCopies copies) := by
  unfold CanvasApp.insertCopies
  dsimp only
  split
  · exact h
  · split
    · exact h
    · rename_i hroom
      refine h.edit (SoundCanvas.fitGroups ⟨h.active.clearSelection.linked.append hcopies ?_, ?_⟩)
      · intro other hother note hnote
        obtain ⟨old, hold, rfl⟩ := List.mem_map.mp hother
        exact hnew note hnote _ _ .active old hold
      · simp only [clearSelection, List.length_append, List.length_map]
        omega

theorem insertPasted (h : SoundApp app) (hnew : NewIds app.store uuids) (offsetX offsetY : Rat) :
    SoundApp (app.insertCopies (app.history.pasteClipboard uuids offsetX offsetY)) := by
  refine h.insertCopies (h.copied.paste hnew.injective offsetX offsetY) fun note hnote => ?_
  obtain ⟨n, hn⟩ := pasteClipboard_id hnote
  exact hn ▸ hnew.new n

theorem pasteCanvasSelection (h : SoundApp app) (hnew : NewIds app.store uuids)
    (offsetX offsetY : Rat) : SoundApp (app.pasteCanvasSelection uuids offsetX offsetY) :=
  h.insertPasted hnew _ _

theorem duplicateCanvasSelection (h : SoundApp app) (hnew : NewIds app.store uuids) :
    SoundApp (app.duplicateCanvasSelection uuids) :=
  h.copyCanvasSelection.insertPasted hnew _ _

theorem pasteCanvasContent (h : SoundApp app) (hnew : NewIds app.store uuids)
    (content : PastedContent) (centerX centerY : Rat) :
    SoundApp (app.pasteCanvasContent uuids english content centerX centerY) := by
  cases content with
  | selection => exact h.pasteCanvasSelection hnew 24 24
  | text text => exact h.addNote (hnew.new 0)
  | image => exact h

theorem groupCanvasSelection (h : SoundApp app) (hnew : NewIds app.store uuids)
    (centerX centerY : Rat) :
    SoundApp (app.groupCanvasSelection uuids english centerX centerY) := by
  unfold CanvasApp.groupCanvasSelection
  dsimp only
  split
  · exact h
  · rename_i hroom
    -- Either way one group is added.
    let group : CanvasNoteData := { id := uuids 0, kind := "group", content := "", x := 0, y := 0 }
    have hadded : SoundCanvas (app.store.canvasNotes ++ [group]) app.store.canvasLinks :=
      h.active.addNote (hnew.new 0 _ _ .active) (Nat.lt_of_not_le hroom)
    refine h.edit (hadded.of_outline ?_).fitGroups
    rw [outline_append]
    split
    · rename_i hgrouped
      exact outline_groupSelection hgrouped
    · rename_i hgrouped
      rw [outline_append, outline_clearSelection, groupSelection_none hgrouped]
      rfl

theorem ungroupCanvasNode (h : SoundApp app) (id : String) : SoundApp (app.ungroupCanvasNode id) := by
  unfold CanvasApp.ungroupCanvasNode
  split
  · rename_i notes hungroup
    exact h.edit (h.active.ungroupNode hungroup).fitGroups
  · exact h

theorem ungroupCanvasSelection (h : SoundApp app) : SoundApp app.ungroupCanvasSelection := by
  unfold CanvasApp.ungroupCanvasSelection
  split
  · exact h.edit h.active.ungroupSelection.fitGroups
  · exact h

theorem removeCanvasSelection (h : SoundApp app) : SoundApp app.removeCanvasSelection := by
  unfold CanvasApp.removeCanvasSelection
  split
  · exact h
  · exact h.edit h.active.removeSelection.fitGroups

theorem removeCanvasGroupWithChildren (h : SoundApp app) (id : String) :
    SoundApp (app.removeCanvasGroupWithChildren id) := by
  unfold CanvasApp.removeCanvasGroupWithChildren
  dsimp only
  split
  · exact h
  · exact h.edit (h.active.removeGroup id).fitGroups

theorem removeCanvasNode (h : SoundApp app) (id : String) : SoundApp (app.removeCanvasNode id) := by
  unfold CanvasApp.removeCanvasNode
  dsimp only
  split
  · have hreleased : ∀ released, outline released = outline app.store.canvasNotes →
        SoundCanvas (released.filter (·.id ≠ id))
          (app.store.canvasLinks.filter fun link => link.sourceId ≠ id && link.targetId ≠ id) := by
      intro released hsame
      simpa [withoutRemoved] using (h.active.of_outline hsame).without {id}
    refine h.edit (hreleased _ ?_).fitGroups
    split
    · refine outline_map fun note => ?_
      split <;> exact ⟨rfl, rfl⟩
    · rfl
  · exact h

theorem mem_of_nearer {best : Option (Rat × String)} {places : List (Rat × String)}
    {found : Rat × String} (h : places.foldl nearer best = some found) :
    best = some found ∨ found ∈ places := by
  induction places generalizing best with
  | nil => exact .inl h
  | cons place places ih =>
    rcases ih h with hbest | hmem
    · have hnearer : best = some found ∨ place = found := by
        unfold nearer at hbest
        split at hbest
        · split at hbest
          · exact .inr (Option.some.inj hbest)
          · exact .inl hbest
        · exact .inr (Option.some.inj hbest)
      exact hnearer.imp_right fun (heq : place = found) => heq ▸ List.mem_cons_self
    · exact .inr (List.mem_cons_of_mem _ hmem)

/-- What a pointer hits is a note that is there. -/
theorem isEnd_of_nearest {p : CanvasNoteData → Bool} {reach : CanvasNoteData → Option Rat}
    {notes : List CanvasNoteData} {id : String}
    (h : nearest ((notes.filter fun note => p note && note.kind ≠ "group").filterMap fun note =>
      (reach note).map (·, note.id)) = some id) : IsEnd notes id := by
  obtain ⟨place, hnearest, rfl⟩ := Option.map_eq_some_iff.mp h
  have hplace := (mem_of_nearer hnearest).resolve_left (by simp)
  obtain ⟨note, hnote, hreach⟩ := List.mem_filterMap.mp hplace
  obtain ⟨distance, -, rfl⟩ := Option.map_eq_some_iff.mp hreach
  obtain ⟨hnote, hkind⟩ := List.mem_filter.mp hnote
  simp only [Bool.and_eq_true, decide_eq_true_eq] at hkind
  exact ⟨note, hnote, rfl, hkind.2⟩

theorem isEnd_targetAtInput {sourceId targetId : String} {x y tolerance : Rat}
    (h : targetAtInput notes sourceId x y tolerance = some targetId) : IsEnd notes targetId :=
  isEnd_of_nearest h

theorem isEnd_sourceAtOutput {sourceId targetId : String} {x y tolerance : Rat}
    (h : sourceAtOutput notes targetId x y tolerance = some sourceId) : IsEnd notes sourceId :=
  isEnd_of_nearest h

theorem addConnectedCanvasNode (h : SoundApp app) (hnew : NewIds app.store uuids)
    (kind sourceId : String) (x y : Rat) :
    SoundApp (app.addConnectedCanvasNode uuids english kind sourceId x y) := by
  unfold CanvasApp.addConnectedCanvasNode
  dsimp only
  split
  · exact h
  · rename_i hchecked
    simp only [not_or, Bool.not_eq_true', Bool.not_eq_false, Nat.not_le, isLinkEnd_iff] at hchecked
    obtain ⟨hroom, -, hsource⟩ := hchecked
    split
    · rename_i connected hconnected
      obtain rfl := connectNodes_connected hconnected
      have hkind : ¬(if kind = "image" ∨ kind = "video" then kind else "text") = "group" := by
        split
        · rename_i hnamed
          rcases hnamed with rfl | rfl <;> decide
        · decide
      have hend := (hsource.of_outline (outline_clearSelection _)).append_left
      exact h.edit ((h.active.clearSelection.addNote (not_active (hnew.new 0))
        (by simpa [clearSelection] using hroom)).connect
        (hend _) ⟨_, List.mem_append_right _ List.mem_cons_self, rfl, hkind⟩ _ _)
    · exact h.clearCanvasSelection

theorem finishCanvasLink (h : SoundApp app) (sourceId : String) (x y tolerance : Rat) :
    SoundApp (app.finishCanvasLink uuids sourceId x y tolerance).2 := by
  unfold CanvasApp.finishCanvasLink
  dsimp only
  split
  · exact h
  · rename_i hsource
    split
    · exact h
    · rename_i targetId htarget
      split
      · exact h
      · split
        · rename_i connected hconnected
          obtain rfl := connectNodes_connected hconnected
          refine h.edit (h.active.connect (isLinkEnd_iff.mp (by simpa using hsource)) ?_ _ _)
          exact isEnd_targetAtInput htarget
        · exact h

/-- The links are not counted: there are fewer than the notes allow. -/
theorem finishCanvasReconnect (h : SoundApp app) {targetId : String}
    (htarget : IsEnd app.store.canvasNotes targetId) (x y tolerance : Rat) :
    SoundApp (app.finishCanvasReconnect uuids targetId x y tolerance).2 := by
  unfold CanvasApp.finishCanvasReconnect
  dsimp only
  split
  · exact h
  · rename_i sourceId hsource
    split
    · rename_i connected hconnected
      obtain rfl := connectNodes_connected hconnected
      exact h.edit (h.active.connect (isEnd_sourceAtOutput hsource) htarget _ _)
    · exact h

theorem removeCanvasLink (h : SoundApp app) (id : String) : SoundApp (app.removeCanvasLink id) := by
  unfold CanvasApp.removeCanvasLink
  split
  · refine h.edit ⟨?_, h.active.room⟩
    simpa using h.active.linked.keep (fun _ => true) (·.id ≠ id) fun _ _ _ _ _ _ _ => rfl
  · exact h

theorem importCanvasImage (h : SoundApp app) (image : PreparedCanvasImage)
    (target : CanvasImageImportTarget)
    (hnew : ∀ id centerX centerY, target = .new id centerX centerY → NewId app.store id) :
    SoundApp (app.importCanvasImage image target) := by
  cases target with
  | existing id originalPath =>
    unfold CanvasApp.importCanvasImage
    dsimp only
    split
    · refine h.edit (h.active.of_outline (outline_updateFirst _ fun note _ _ => ?_))
      exact fitImageNode_outline _ _ _
    · exact h
  | new id centerX centerY =>
    refine h.addNote ?_
    rw [(fitImageNode_outline _ _ _).1]
    exact hnew id centerX centerY rfl

/-- The links from one source to many notes. -/
theorem connectAll {source : String} (created : List (String × Nat)) (linkId : Nat → String)
    (h : SoundCanvas notes links) (hsource : IsEnd notes source)
    (hcreated : ∀ item ∈ created, IsEnd notes item.1) :
    SoundCanvas notes (created.foldl (fun links item =>
      (connectNodes (linkId item.2) links source item.1).2) links) := by
  induction created generalizing links with
  | nil => exact h
  | cons item created ih =>
    exact ih (h.connect hsource (hcreated item List.mem_cons_self) _ _) fun other hother =>
      hcreated other (List.mem_cons_of_mem _ hother)

theorem addBoardImages (h : SoundApp app) {source : CanvasSplitSource} {images : List CanvasNoteData}
    (hunique : (images.map (·.id)).Nodup) (hnew : ∀ image ∈ images, NewId app.store image.id)
    (hkind : ∀ image ∈ images, image.kind ≠ "group") :
    SoundApp (app.addBoardImages uuids source images) := by
  unfold CanvasApp.addBoardImages
  dsimp only
  split
  · exact h
  · rename_i hchecked
    simp only [not_or, Bool.not_eq_true', Bool.not_eq_false] at hchecked
    obtain ⟨hsource, hroom, -⟩ := hchecked
    have hadded : SoundCanvas (clearSelection app.store.canvasNotes ++ images) app.store.canvasLinks := by
      refine h.active.clearSelection.addNotes hunique (fun note hnote image himage => ?_) ?_
      · exact not_active (hnew image himage) note hnote
      · simpa [clearSelection] using hroom
    refine h.edit (connectAll _ (fun n => uuids (images.length + n)) hadded ?_ fun item hitem => ?_)
    · obtain ⟨note, hnote, hcurrent⟩ := List.any_eq_true.mp hsource
      simp only [isImageKind, Bool.and_eq_true, decide_eq_true_eq, Bool.or_eq_true] at hcurrent
      have hend : IsEnd app.store.canvasNotes source.id := by
        refine ⟨note, hnote, hcurrent.1.1, fun hgroup => ?_⟩
        rcases hcurrent.2 with himage | himage <;> simp [himage] at hgroup
      exact (hend.of_outline (outline_clearSelection _)).append_left _
    · obtain ⟨image, himage, heq⟩ := List.mem_map.mp (List.fst_mem_of_mem_zipIdx hitem)
      exact ⟨image, List.mem_append_right _ himage, heq, hkind image himage⟩

/-- The images that came of one source, by their numbers. -/
theorem addNumbered (h : SoundApp app) (hnew : NewIds app.store uuids) {A : Type} (items : List A)
    {source : CanvasSplitSource} (image : A × Nat → CanvasNoteData)
    (himage : ∀ item, (image item).id = uuids item.2 ∧ (image item).kind = "board-image") :
    SoundApp (app.addBoardImages uuids source (items.zipIdx.map image)) := by
  have hids : (items.zipIdx.map image).map (·.id) = (List.range' 0 items.length).map uuids := by
    rw [List.map_map, ← List.zipIdx_map_snd 0 items, List.map_map]
    exact List.map_congr_left fun item _ => (himage item).1
  refine h.addBoardImages ?_ (fun note hnote => ?_) fun note hnote => ?_
  · rw [hids]
    exact (List.nodup_range' : (List.range' 0 items.length).Nodup).map hnew.injective
  · obtain ⟨item, -, rfl⟩ := List.mem_map.mp hnote
    rw [(himage item).1]
    exact hnew.new item.2
  · obtain ⟨item, -, rfl⟩ := List.mem_map.mp hnote
    rw [(himage item).2]
    decide

theorem extractCanvasElements (h : SoundApp app) (hnew : NewIds app.store uuids)
    (source : CanvasSplitSource) (elements : List CanvasExtractedElement) :
    SoundApp (app.extractCanvasElements uuids source elements) := by
  refine h.addNumbered hnew elements _ fun item => ?_
  exact fitImageNode_outline _ _ _

theorem splitCanvasImage (h : SoundApp app) (hnew : NewIds app.store uuids)
    (source : CanvasSplitSource) (rows columns : Nat) (tiles : List CanvasSplitTile) :
    SoundApp (app.splitCanvasImage uuids source rows columns tiles) :=
  h.addNumbered hnew tiles _ fun _ => ⟨rfl, rfl⟩

theorem openCanvasWorkspace (h : SoundApp app) (workspaceId : String) :
    SoundApp (app.openCanvasWorkspace workspaceId) := by
  refine ⟨h.store.switch _ _, ?_, ?_, ?_⟩
  · simp [CanvasApp.openCanvasWorkspace]
  · simp [CanvasApp.openCanvasWorkspace]
  · exact soundCanvas_nil.linked

theorem viewerImageNote_id (id : String) (notes : List CanvasNoteData) (image : PreparedCanvasImage) :
    (CanvasApp.viewerImageNote id notes image).id = id := by
  unfold CanvasApp.viewerImageNote
  dsimp only
  split <;> exact (fitImageNode_outline _ _ _).1

/-- The capacity that was checked is that of the workspace that becomes the active one. -/
theorem importViewerImage (h : SoundApp app) (hnew : NewIds app.store uuids)
    (targetWorkspace : String) (image : PreparedCanvasImage) :
    SoundApp (app.importViewerImage uuids targetWorkspace image) := by
  unfold CanvasApp.importViewerImage
  extract_lets workspace switched notes
  split
  · exact h
  · rename_i hroom
    have hswitched : SoundStore switched.2 := h.store.switch app.canvasWorkflowPrompt workspace
    have hnotes := switchCanvasWorkspace_notes app.store app.canvasWorkflowPrompt workspace
    have hnormal : normalizeCanvasWorkspaceId workspace = workspace :=
      normalizeCanvasWorkspaceId_idem targetWorkspace
    rw [hnormal] at hnotes
    change switched.2.canvasNotes = _ at hnotes
    clear_value switched
    refine ⟨⟨hswitched.active.clearSelection.addNote ?_ ?_, hswitched.stored⟩,
      h.undone, h.redone, h.copied⟩
    · intro other hother
      rw [hnotes] at hother
      simp only [clearSelection, List.mem_map] at hother
      obtain ⟨_, ⟨note, hnote, rfl⟩, rfl⟩ := hother
      rw [viewerImageNote_id]
      exact (hnew.new 0).canvas _ note hnote
    · simpa [hnotes, clearSelection] using hroom

theorem deliver (h : SoundApp app) {prepared : PreparedNamespaceDelivery}
    (hsource : ∀ target, deliveryTarget app.store prepared.canvasSourceNodeId = .ok target →
      IsEnd (app.store.canvas target).1 prepared.canvasSourceNodeId)
    (loadingNodeId linkId : String) : SoundApp (app.deliver prepared loadingNodeId linkId) := by
  unfold CanvasApp.deliver
  split
  · rename_i id next hstaged
    suffices hnext : SoundStore next from ⟨hnext, h.undone, h.redone, h.copied⟩
    rcases stageCanvasNamespaceDelivery_cases hstaged with
      rfl | ⟨target, notes, links, assets, htarget, rfl, hwritten⟩
    · exact h.store
    · have hcanvas : SoundCanvas notes links := by
        rcases hwritten with ⟨hsame, hlinks⟩ | ⟨hroom, hfresh, source, hadded⟩
        · rw [hlinks]
          exact (h.store.canvas target).of_outline hsame
        · exact (h.store.canvas target).addOutput hroom hfresh (hsource target htarget) hadded
      exact (h.store.setCanvas target hcanvas).withAssets assets
  · exact h

theorem undoCanvas (h : SoundApp app) : SoundApp app.undoCanvas := by
  unfold CanvasApp.undoCanvas
  split
  · rename_i previous history hundo
    obtain ⟨last, hlast, heq⟩ := Option.map_eq_some_iff.mp hundo
    cases heq
    refine ⟨h.store.setActive (h.undone _ (List.mem_of_getLast? hlast)), fun snapshot hmem => ?_,
      fun snapshot hmem => ?_, h.copied⟩
    · exact h.undone snapshot (List.mem_of_mem_dropLast hmem)
    · rcases List.mem_append.mp hmem with hmem | hmem
      · exact h.redone snapshot hmem
      · cases List.mem_singleton.mp hmem
        exact h.active
  · exact h

theorem redoCanvas (h : SoundApp app) : SoundApp app.redoCanvas := by
  unfold CanvasApp.redoCanvas
  split
  · rename_i next history hredo
    obtain ⟨last, hlast, heq⟩ := Option.map_eq_some_iff.mp hredo
    cases heq
    refine ⟨h.store.setActive (h.redone _ (List.mem_of_getLast? hlast)), fun snapshot hmem => ?_,
      fun snapshot hmem => ?_, h.copied⟩
    · rcases List.mem_append.mp hmem with hmem | hmem
      · exact h.undone snapshot hmem
      · cases List.mem_singleton.mp hmem
        exact h.active
    · exact h.redone snapshot (List.mem_of_mem_dropLast hmem)
  · exact h

end SoundApp

/-- One callback. A link end that is asked for is a note that is no group; the other callbacks look
for themselves. -/
inductive CanvasStep (app : CanvasApp) : CanvasApp → Prop
  | selectCanvasNode (id : String) (toggle : Bool) : CanvasStep app (app.selectCanvasNode id toggle)
  | selectCanvasRect (x1 y1 x2 y2 : Rat) (additive : Bool) :
      CanvasStep app (app.selectCanvasRect x1 y1 x2 y2 additive)
  | clearCanvasSelection : CanvasStep app app.clearCanvasSelection
  | selectAllCanvasNodes : CanvasStep app app.selectAllCanvasNodes
  | addCanvasNode {uuids : Nat → String} (hnew : NewIds app.store uuids) (english : Bool)
      (kind : String) (centerX centerY : Rat) :
      CanvasStep app (app.addCanvasNode uuids english kind centerX centerY)
  | createCanvasGenerationSource {uuids : Nat → String} (hnew : NewIds app.store uuids)
      (english : Bool) (prompt : String) (centerX centerY : Rat) :
      CanvasStep app (app.createCanvasGenerationSource uuids english prompt centerX centerY)
  | updateCanvasNode (id content : String) (x y : Rat) :
      CanvasStep app (app.updateCanvasNode id content x y)
  | moveCanvasSelection (dx dy : Rat) : CanvasStep app (app.moveCanvasSelection dx dy)
  | copyCanvasSelection : CanvasStep app app.copyCanvasSelection
  | pasteCanvasSelection {uuids : Nat → String} (hnew : NewIds app.store uuids)
      (offsetX offsetY : Rat) : CanvasStep app (app.pasteCanvasSelection uuids offsetX offsetY)
  | duplicateCanvasSelection {uuids : Nat → String} (hnew : NewIds app.store uuids) :
      CanvasStep app (app.duplicateCanvasSelection uuids)
  | pasteCanvasContent {uuids : Nat → String} (hnew : NewIds app.store uuids) (english : Bool)
      (content : PastedContent) (centerX centerY : Rat) :
      CanvasStep app (app.pasteCanvasContent uuids english content centerX centerY)
  | groupCanvasSelection {uuids : Nat → String} (hnew : NewIds app.store uuids) (english : Bool)
      (centerX centerY : Rat) :
      CanvasStep app (app.groupCanvasSelection uuids english centerX centerY)
  | ungroupCanvasNode (id : String) : CanvasStep app (app.ungroupCanvasNode id)
  | ungroupCanvasSelection : CanvasStep app app.ungroupCanvasSelection
  | removeCanvasSelection : CanvasStep app app.removeCanvasSelection
  | removeCanvasGroupWithChildren (id : String) :
      CanvasStep app (app.removeCanvasGroupWithChildren id)
  | removeCanvasNode (id : String) : CanvasStep app (app.removeCanvasNode id)
  | addConnectedCanvasNode {uuids : Nat → String} (hnew : NewIds app.store uuids) (english : Bool)
      (kind sourceId : String) (x y : Rat) :
      CanvasStep app (app.addConnectedCanvasNode uuids english kind sourceId x y)
  | finishCanvasLink (uuids : Nat → String) (sourceId : String) (x y tolerance : Rat) :
      CanvasStep app (app.finishCanvasLink uuids sourceId x y tolerance).2
  | finishCanvasReconnect (uuids : Nat → String) {targetId : String}
      (htarget : IsEnd app.store.canvasNotes targetId) (x y tolerance : Rat) :
      CanvasStep app (app.finishCanvasReconnect uuids targetId x y tolerance).2
  | removeCanvasLink (id : String) : CanvasStep app (app.removeCanvasLink id)
  | importCanvasImage (image : PreparedCanvasImage) (target : CanvasImageImportTarget)
      (hnew : ∀ id centerX centerY, target = .new id centerX centerY → NewId app.store id) :
      CanvasStep app (app.importCanvasImage image target)
  | extractCanvasElements {uuids : Nat → String} (hnew : NewIds app.store uuids)
      (source : CanvasSplitSource) (elements : List CanvasExtractedElement) :
      CanvasStep app (app.extractCanvasElements uuids source elements)
  | splitCanvasImage {uuids : Nat → String} (hnew : NewIds app.store uuids)
      (source : CanvasSplitSource) (rows columns : Nat) (tiles : List CanvasSplitTile) :
      CanvasStep app (app.splitCanvasImage uuids source rows columns tiles)
  | openCanvasWorkspace (workspaceId : String) : CanvasStep app (app.openCanvasWorkspace workspaceId)
  | importViewerImage {uuids : Nat → String} (hnew : NewIds app.store uuids)
      (targetWorkspace : String) (image : PreparedCanvasImage) :
      CanvasStep app (app.importViewerImage uuids targetWorkspace image)
  | deliver {prepared : PreparedNamespaceDelivery}
      (hsource : ∀ target, deliveryTarget app.store prepared.canvasSourceNodeId = .ok target →
        IsEnd (app.store.canvas target).1 prepared.canvasSourceNodeId)
      (loadingNodeId linkId : String) : CanvasStep app (app.deliver prepared loadingNodeId linkId)
  | undoCanvas : CanvasStep app app.undoCanvas
  | redoCanvas : CanvasStep app app.redoCanvas

theorem SoundApp.step {app next : CanvasApp} (h : SoundApp app) (hstep : CanvasStep app next) :
    SoundApp next := by
  cases hstep with
  | selectCanvasNode id toggle => exact h.selectCanvasNode id toggle
  | selectCanvasRect x1 y1 x2 y2 additive => exact h.selectCanvasRect x1 y1 x2 y2 additive
  | clearCanvasSelection => exact h.clearCanvasSelection
  | selectAllCanvasNodes => exact h.selectAllCanvasNodes
  | addCanvasNode hnew english kind centerX centerY => exact h.addCanvasNode hnew kind centerX centerY
  | createCanvasGenerationSource hnew english prompt centerX centerY =>
    exact h.createCanvasGenerationSource hnew prompt centerX centerY
  | updateCanvasNode id content x y => exact h.updateCanvasNode id content x y
  | moveCanvasSelection dx dy => exact h.moveCanvasSelection dx dy
  | copyCanvasSelection => exact h.copyCanvasSelection
  | pasteCanvasSelection hnew offsetX offsetY => exact h.pasteCanvasSelection hnew offsetX offsetY
  | duplicateCanvasSelection hnew => exact h.duplicateCanvasSelection hnew
  | pasteCanvasContent hnew english content centerX centerY =>
    exact h.pasteCanvasContent hnew content centerX centerY
  | groupCanvasSelection hnew english centerX centerY =>
    exact h.groupCanvasSelection hnew centerX centerY
  | ungroupCanvasNode id => exact h.ungroupCanvasNode id
  | ungroupCanvasSelection => exact h.ungroupCanvasSelection
  | removeCanvasSelection => exact h.removeCanvasSelection
  | removeCanvasGroupWithChildren id => exact h.removeCanvasGroupWithChildren id
  | removeCanvasNode id => exact h.removeCanvasNode id
  | addConnectedCanvasNode hnew english kind sourceId x y =>
    exact h.addConnectedCanvasNode hnew kind sourceId x y
  | finishCanvasLink uuids sourceId x y tolerance => exact h.finishCanvasLink sourceId x y tolerance
  | finishCanvasReconnect uuids htarget x y tolerance =>
    exact h.finishCanvasReconnect htarget x y tolerance
  | removeCanvasLink id => exact h.removeCanvasLink id
  | importCanvasImage image target hnew => exact h.importCanvasImage image target hnew
  | extractCanvasElements hnew source elements => exact h.extractCanvasElements hnew source elements
  | splitCanvasImage hnew source rows columns tiles =>
    exact h.splitCanvasImage hnew source rows columns tiles
  | openCanvasWorkspace workspaceId => exact h.openCanvasWorkspace workspaceId
  | importViewerImage hnew targetWorkspace image => exact h.importViewerImage hnew targetWorkspace image
  | deliver hsource loadingNodeId linkId => exact h.deliver hsource loadingNodeId linkId
  | undoCanvas => exact h.undoCanvas
  | redoCanvas => exact h.redoCanvas

theorem SoundApp.run {start app : CanvasApp} (h : SoundApp start)
    (hrun : ReflTransGen CanvasStep start app) : SoundApp app := by
  induction hrun with
  | refl => exact h
  | tail _ hstep ih => exact ih.step hstep

/-- Nothing is on the canvas, in another workspace, in the history or in the clipboard. -/
structure EmptyCanvas (app : CanvasApp) : Prop where
  notes : app.store.canvasNotes = []
  links : app.store.canvasLinks = []
  workspaces : app.store.canvasWorkspaces = ∅
  history : app.history = {}

theorem EmptyCanvas.sound {app : CanvasApp} (h : EmptyCanvas app) : SoundApp app where
  store := by
    refine ⟨?_, fun id workspace hworkspace => ?_⟩
    · rw [h.notes, h.links]
      exact soundCanvas_nil
    · simp [h.workspaces] at hworkspace
  undone := by simp [h.history]
  redone := by simp [h.history]
  copied := by
    rw [h.history]
    exact soundCanvas_nil.linked

/-- Whatever is done to an empty canvas, no workspace comes to have more than two hundred notes or
four hundred links, or a link that ends at no note or at a group. -/
theorem canvas_within_capacity {start app : CanvasApp} (hstart : EmptyCanvas start)
    (hrun : ReflTransGen CanvasStep start app) {notes : List CanvasNoteData}
    {links : List CanvasLinkData} (hcanvas : app.store.Holds notes links) :
    notes.length ≤ 200 ∧ links.length ≤ 400 ∧
      ∀ link ∈ links, IsEnd notes link.sourceId ∧ IsEnd notes link.targetId := by
  have hnotes := (hstart.sound.run hrun).store.holds hcanvas
  have hroom : notes.length ≤ 200 := hnotes.room
  have hlinks := hnotes.linked.links_le
  exact ⟨hroom, by omega, fun link hlink =>
    ⟨hnotes.linked.source link hlink, hnotes.linked.target link hlink⟩⟩

/-- Two notes are made, and a link is drawn back from the second to the first. -/
theorem canvas_within_capacity_reconnected :
    let ids (first : Char) (n : Nat) := String.ofList (first :: List.replicate n 'x')
    let notes := (({} : CanvasApp).addCanvasNode (ids 'a') true "text" 0 0).addCanvasNode (ids 'b')
      true "text" 500 0
    let app := (notes.finishCanvasReconnect (ids 'l') "b" 160 0 8).2
    app.store.canvasLinks.map (·.sourceId) = ["a"] ∧ app.store.canvasNotes.length ≤ 200 ∧
      app.store.canvasLinks.length ≤ 400 ∧ ∀ link ∈ app.store.canvasLinks,
        IsEnd app.store.canvasNotes link.sourceId ∧ IsEnd app.store.canvasNotes link.targetId := by
  intro ids notes app
  have hinjective : ∀ first, Function.Injective (ids first) := by
    intro first m n heq
    simpa [ids] using congrArg (fun id : String => id.toList.length) heq
  have hfirst : NewIds ({} : CanvasApp).store (ids 'a') := by
    refine ⟨hinjective 'a', fun n held links hheld => ?_⟩
    rcases hheld with _ | @⟨id, workspace, hstored⟩
    · simp
    · simp at hstored
  have hsecond : NewIds (({} : CanvasApp).addCanvasNode (ids 'a') true "text" 0 0).store (ids 'b') := by
    refine ⟨hinjective 'b', fun n held links hheld note hnote heq => ?_⟩
    rcases hheld with _ | @⟨id, workspace, hstored⟩
    · have hid : note.id = "a" := by
        have hall : ∀ note ∈ (({} : CanvasApp).addCanvasNode (ids 'a') true "text" 0 0).store.canvasNotes,
            note.id = "a" := by decide +kernel
        exact hall note hnote
      have hlist := congrArg String.toList (hid.symm.trans heq)
      simp [ids] at hlist
    · change (∅ : BTreeMap CanvasWorkspaceData)[id]? = some workspace at hstored
      simp at hstored
  have htarget : IsEnd notes.store.canvasNotes "b" := isLinkEnd_iff.mp (by decide +kernel)
  have hrun : ReflTransGen CanvasStep {} app :=
    .tail (.tail (.single (.addCanvasNode hfirst true "text" 0 0))
      (.addCanvasNode hsecond true "text" 500 0)) (.finishCanvasReconnect (ids 'l') htarget 160 0 8)
  have hlinks : app.store.canvasLinks.map (·.sourceId) = ["a"] := by decide +kernel
  exact ⟨hlinks, canvas_within_capacity ⟨rfl, rfl, rfl, rfl⟩ hrun .active⟩

end ArtForgeStudio.Canvas
