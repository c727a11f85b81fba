import ArtForgeStudio.Canvas.Links
import ArtForgeStudio.Canvas.Workspaces

/-! # Where an output goes

The workspace of a source is the only one that has it, once. An output fills the source or is a note
of its own, linked from the source; all other notes and links stay as they are.
-/

namespace ArtForgeStudio.Canvas

open ArtForgeStudio.Api ArtForgeStudio.Codecs ArtForgeStudio.LocalStore ArtForgeStudio.Outcome
  Relation

variable {store : Store} {target id sourceId : String} {notes after : List CanvasNoteData}
  {links linked : List CanvasLinkData}

theorem canvas_setCanvas (store : Store) (target : String) (notes : List CanvasNoteData)
    (links : List CanvasLinkData) (id : String) :
    (store.setCanvas target notes links).canvas id =
      if id = target then (notes, links) else store.canvas id := by
  unfold Store.setCanvas Store.canvas
  by_cases htarget : target = normalizeCanvasWorkspaceId store.activeCanvasWorkspaceId
  · rw [if_pos htarget]
    by_cases hid : id = target
    · simp [hid, htarget]
    · have hother : id ≠ normalizeCanvasWorkspaceId store.activeCanvasWorkspaceId := htarget ▸ hid
      simp [hid, hother]
  · rw [if_neg htarget]
    by_cases hid : id = target
    · simp [hid, htarget]
    · simp [hid, Std.ExtTreeMap.getElem?_insert, Ne.symm hid]

/-- The number of notes with the identifier in a workspace. -/
def Store.sources (store : Store) (sourceId workspaceId : String) : Nat :=
  (store.canvas workspaceId).1.countP (·.id = sourceId)

theorem mem_inactive {workspace : String × CanvasWorkspaceData} :
    workspace ∈ store.inactive ↔ store.canvasWorkspaces[workspace.1]? = some workspace.2 ∧
      workspace.1 ≠ normalizeCanvasWorkspaceId store.activeCanvasWorkspaceId := by
  obtain ⟨id, data⟩ := workspace
  simp [Store.inactive, Std.ExtTreeMap.mem_toList_iff_getElem?_eq_some]

theorem sources_inactive {workspace : String × CanvasWorkspaceData}
    (h : workspace ∈ store.inactive) :
    store.sources sourceId workspace.1 = workspace.2.notes.countP (·.id = sourceId) := by
  obtain ⟨hworkspace, hother⟩ := mem_inactive.1 h
  simp [Store.sources, Store.canvas, hother, hworkspace]

theorem sources_active :
    store.sources sourceId (normalizeCanvasWorkspaceId store.activeCanvasWorkspaceId) =
      store.canvasNotes.countP (·.id = sourceId) := by
  simp [Store.sources, Store.canvas]

/-- A workspace that has notes is the active one, or is in the map. -/
theorem workspace_cases (store : Store) (id : String) :
    id = normalizeCanvasWorkspaceId store.activeCanvasWorkspaceId ∨
      (∃ workspace, (id, workspace) ∈ store.inactive) ∨
        ∀ sourceId, store.sources sourceId id = 0 := by
  by_cases hactive : id = normalizeCanvasWorkspaceId store.activeCanvasWorkspaceId
  · exact .inl hactive
  · right
    cases hworkspace : store.canvasWorkspaces[id]? with
    | some workspace => exact .inl ⟨workspace, mem_inactive.2 ⟨hworkspace, hactive⟩⟩
    | none =>
      right
      intro sourceId
      simp [Store.sources, Store.canvas, hactive, hworkspace]

/-- The workspaces in which the source is found once. -/
def candidates (store : Store) (sourceId : String) : List String :=
  (if store.canvasNotes.countP (·.id = sourceId) = 1 then
      [normalizeCanvasWorkspaceId store.activeCanvasWorkspaceId] else []) ++
    (store.inactive.filter fun workspace => workspace.2.notes.countP (·.id = sourceId) = 1).map (·.1)

theorem mem_candidates : id ∈ candidates store sourceId ↔ store.sources sourceId id = 1 := by
  unfold candidates
  constructor
  · intro h
    rcases List.mem_append.1 h with h | h
    · split at h
      · next hone =>
        rw [List.mem_singleton.1 h, sources_active]
        exact hone
      · cases h
    · obtain ⟨workspace, hmem, rfl⟩ := List.mem_map.1 h
      obtain ⟨hmem, hone⟩ := List.mem_filter.1 hmem
      rw [sources_inactive hmem]
      simpa using hone
  · intro h
    rcases workspace_cases store id with rfl | ⟨workspace, hmem⟩ | hnone
    · rw [sources_active] at h
      simp [h]
    · rw [sources_inactive hmem] at h
      apply List.mem_append_right
      exact List.mem_map.2 ⟨_, List.mem_filter.2 ⟨hmem, by simpa using h⟩, rfl⟩
    · simp [hnone] at h

theorem candidates_nodup : (candidates store sourceId).Nodup := by
  have hkeys : (store.inactive.map (·.1)).Nodup := by
    have hall : (store.canvasWorkspaces.toList.map (·.1)).Nodup := by
      rw [List.Nodup, List.pairwise_map]
      exact Std.ExtTreeMap.distinct_keys_toList.imp fun hne heq => hne (by simp [heq])
    exact hall.sublist (List.filter_sublist.map _)
  unfold candidates
  rw [List.nodup_append]
  refine ⟨by split <;> simp, hkeys.sublist (List.filter_sublist.map _), ?_⟩
  intro id hid other hother
  obtain ⟨workspace, hmem, rfl⟩ := List.mem_map.1 hother
  obtain ⟨-, hinactive⟩ := mem_inactive.1 (List.mem_of_mem_filter hmem)
  split at hid
  · rw [List.mem_singleton.1 hid]
    exact hinactive.symm
  · cases hid

theorem eq_singleton_iff_of_nodup {A : Type} {items : List A} {item : A} (h : items.Nodup) :
    items = [item] ↔ ∀ other, other ∈ items ↔ other = item := by
  constructor
  · rintro rfl
    simp
  · intro hall
    apply List.perm_singleton.1
    rw [List.perm_ext_iff_of_nodup h (List.nodup_singleton item)]
    simpa using hall

theorem sources_le_one_iff : (∀ id, store.sources sourceId id ≤ 1) ↔
    store.canvasNotes.countP (·.id = sourceId) ≤ 1 ∧
      ∀ workspace ∈ store.inactive, workspace.2.notes.countP (·.id = sourceId) ≤ 1 := by
  constructor
  · intro h
    refine ⟨?_, fun workspace hmem => ?_⟩
    · rw [← sources_active]
      exact h _
    · rw [← sources_inactive hmem]
      exact h workspace.1
  · rintro ⟨hactive, hinactive⟩ id
    rcases workspace_cases store id with rfl | ⟨workspace, hmem⟩ | hnone
    · rw [sources_active]
      exact hactive
    · rw [sources_inactive hmem]
      exact hinactive _ hmem
    · rw [hnone]
      exact Nat.zero_le 1

/-- The target is the only workspace with the source, and no workspace has it twice. -/
theorem deliveryTarget_eq_ok :
    deliveryTarget store sourceId = .ok target ↔ (∀ id, store.sources sourceId id ≤ 1) ∧
      ∀ id, store.sources sourceId id = 1 ↔ id = target := by
  have htarget : deliveryTarget store sourceId = .ok target ↔
      (∀ id, store.sources sourceId id ≤ 1) ∧ candidates store sourceId = [target] := by
    rw [sources_le_one_iff]
    unfold deliveryTarget
    simp only [bind_eq_ok, exists_unit, ensure_eq_ok, forM_eq_ok, and_assoc]
    refine and_congr_right fun _ => and_congr_right fun _ => ?_
    split
    · next other hother =>
      rw [show candidates store sourceId = [other] from hother]
      simp
    · next hother =>
      constructor
      · intro herror
        cases herror
      · intro hcandidates
        exact (hother target hcandidates).elim
  rw [htarget, eq_singleton_iff_of_nodup candidates_nodup]
  simp only [mem_candidates]

theorem updateFirst_of_mem {A : Type} {p : A → Bool} {item : A} {items : List A} (change : A → A)
    (hmem : item ∈ items) (hp : p item = true) :
    ∃ before first rest, items = before ++ first :: rest ∧ p first = true ∧
      updateFirst p change items = before ++ change first :: rest := by
  induction items with
  | nil => cases hmem
  | cons first items ih =>
    by_cases hfirst : p first = true
    · exact ⟨[], first, items, rfl, hfirst, by simp [updateFirst, hfirst]⟩
    · have hrest : item ∈ items := by
        rcases List.mem_cons.1 hmem with rfl | hrest
        · exact absurd hp hfirst
        · exact hrest
      obtain ⟨before, found, rest, hitems, hfound, hupdate⟩ := ih hrest
      refine ⟨first :: before, found, rest, by simp [hitems], hfound, ?_⟩
      simp [updateFirst, hfirst, hupdate]

/-- An output in the notes and links of its workspace: it fills the source that waits for it, or is
a new note with a link from the source. -/
inductive Placement (linkId sourceId nodeId path : String) : List CanvasNoteData →
    List CanvasLinkData → List CanvasNoteData → List CanvasLinkData → Prop
  | filled {before rest : List CanvasNoteData} {old new : CanvasNoteData}
      {links : List CanvasLinkData} (hold : isPlaceholder sourceId old = true)
      (hid : new.id = sourceId) (hkind : new.kind = "image") (hpath : new.imagePath = path) :
      Placement linkId sourceId nodeId path (before ++ old :: rest) links
        (before ++ new :: rest) links
  | added {notes : List CanvasNoteData} {links : List CanvasLinkData} {node : CanvasNoteData}
      (hid : node.id = nodeId) (hkind : node.kind = "image") (hpath : node.imagePath = path)
      (hallowed : connectionAllowed links sourceId nodeId = true)
      (hnotes : notes.length < maxCanvasNodes) (hlinks : links.length < maxCanvasLinks) :
      Placement linkId sourceId nodeId path notes links (notes ++ [node])
        (connectNodes linkId links sourceId nodeId).2

section Placement

variable {linkId nodeId path : String}

/-- What is asked of other notes is answered as before. -/
theorem Placement.filter_notes (h : Placement linkId sourceId nodeId path notes links after linked)
    {q : CanvasNoteData → Bool} (hq : ∀ note, note.id = sourceId ∨ note.id = nodeId →
      note.imagePath = path ∨ trimIsEmpty note.imagePath = true → q note = false) :
    after.filter q = notes.filter q := by
  cases h with
  | @filled before rest old new links hold hid hkind hpath =>
    simp only [isPlaceholder, Bool.and_eq_true, decide_eq_true_eq] at hold
    have hold := hq old (.inl hold.1.1) (.inr hold.2)
    have hnew := hq new (.inl hid) (.inl hpath)
    simp [hold, hnew]
  | @added notes links node hid hkind hpath hallowed hnotes hlinks =>
    have hnode := hq node (.inr hid) (.inl hpath)
    simp [hnode]

theorem Placement.count (h : Placement linkId sourceId nodeId path notes links after linked)
    {id : String} (hid : id ≠ nodeId) : after.countP (·.id = id) = notes.countP (·.id = id) := by
  cases h with
  | @filled before rest old new links hold hnew hkind hpath =>
    simp only [isPlaceholder, Bool.and_eq_true, decide_eq_true_eq] at hold
    simp [List.countP_cons, hnew, hold.1.1]
  | @added notes links node hnode hkind hpath hallowed hnotes hlinks =>
    simp [hnode, Ne.symm hid]

/-- Links to other notes stay. -/
theorem Placement.filter_links (h : Placement linkId sourceId nodeId path notes links after linked)
    {q : CanvasLinkData → Bool} (hq : ∀ link, link.targetId = nodeId → q link = false) :
    linked.filter q = links.filter q := by
  cases h with
  | filled => rfl
  | @added notes links node hid hkind hpath hallowed hnotes hlinks =>
    simp only [connectNodes, connectNodesWithFlow, hallowed]
    simp only [Bool.not_true, Bool.false_eq_true, if_false, List.filter_append, List.filter_filter]
    rw [List.filter_cons_of_neg (by simp [hq]), List.filter_nil, List.append_nil]
    apply List.filter_congr
    intro link hlink
    by_cases hlast : link.targetId = nodeId
    · simp [hq link hlast]
    · simp [hlast]

/-- The output is found in one note: in the source, or in a note that is linked from it. -/
theorem Placement.output (h : Placement linkId sourceId nodeId path notes links after linked)
    (hfresh : ∀ note ∈ notes, note.id ≠ nodeId ∧ note.imagePath ≠ path) :
    ∃ note, after.filter (fun note => note.kind = "image" && note.imagePath = path &&
        (note.id = nodeId || note.id = sourceId)) = [note] ∧ (note.id = nodeId →
      (linked.any fun link => link.sourceId = sourceId && link.targetId = nodeId) = true) := by
  have hnone : ∀ others : List CanvasNoteData, (∀ note ∈ others, note ∈ notes) →
      others.filter (fun note => note.kind = "image" && note.imagePath = path &&
        (note.id = nodeId || note.id = sourceId)) = [] := by
    intro others hothers
    rw [List.filter_eq_nil_iff]
    intro note hnote
    simp [(hfresh note (hothers note hnote)).2]
  cases h with
  | @filled before rest old new links hold hid hkind hpath =>
    have hother : sourceId ≠ nodeId := by
      simp only [isPlaceholder, Bool.and_eq_true, decide_eq_true_eq] at hold
      rw [← hold.1.1]
      exact (hfresh old (by simp)).1
    refine ⟨new, ?_, fun hnode => absurd (hid.symm.trans hnode) hother⟩
    rw [List.filter_append, hnone before (by simp +contextual), List.filter_cons_of_pos
      (by simp [hid, hkind, hpath]), hnone rest (by simp +contextual), List.nil_append]
  | @added notes links node hid hkind hpath hallowed hnotes hlinks =>
    refine ⟨node, ?_, fun _ => ?_⟩
    · rw [List.filter_append, hnone notes fun _ hnote => hnote]
      simp [hid, hkind, hpath]
    · simp [connectNodes, connectNodesWithFlow, hallowed]

theorem Placement.capacity (h : Placement linkId sourceId nodeId path notes links after linked)
    (hnotes : notes.length ≤ maxCanvasNodes) (hlinks : links.length ≤ maxCanvasLinks) :
    after.length ≤ maxCanvasNodes ∧ linked.length ≤ maxCanvasLinks := by
  cases h with
  | filled => exact ⟨by simpa using hnotes, hlinks⟩
  | @added notes links node hid hkind hpath hallowed hroom hlinkRoom =>
    have hkept := List.length_filter_le (fun link => link.targetId ≠ nodeId) links
    simp only [connectNodes, connectNodesWithFlow, hallowed, Bool.not_true, Bool.false_eq_true,
      if_false, List.length_append, List.length_singleton]
    omega

theorem Placement.linkGraph (h : Placement linkId sourceId nodeId path notes links after linked)
    (hgraph : LinkGraph links) : LinkGraph linked := by
  cases h with
  | filled => exact hgraph
  | added => exact hgraph.connect linkId sourceId nodeId false

/-- The links lead from notes to notes. -/
def LinksJoin (notes : List CanvasNoteData) (links : List CanvasLinkData) : Prop :=
  ∀ link ∈ links, (∃ note ∈ notes, note.id = link.sourceId) ∧ ∃ note ∈ notes, note.id = link.targetId

theorem Placement.linksJoin (h : Placement linkId sourceId nodeId path notes links after linked)
    (hsource : ∃ note ∈ notes, note.id = sourceId) (hjoin : LinksJoin notes links) :
    LinksJoin after linked := by
  cases h with
  | @filled before rest old new links hold hid hkind hpath =>
    simp only [isPlaceholder, Bool.and_eq_true, decide_eq_true_eq] at hold
    have hsame : ∀ id, (∃ note ∈ before ++ old :: rest, note.id = id) →
        ∃ note ∈ before ++ new :: rest, note.id = id := by
      rintro id ⟨note, hnote, rfl⟩
      simp only [List.mem_append, List.mem_cons] at hnote ⊢
      rcases hnote with hnote | rfl | hnote
      · exact ⟨note, .inl hnote, rfl⟩
      · exact ⟨new, .inr (.inl rfl), hid.trans hold.1.1.symm⟩
      · exact ⟨note, .inr (.inr hnote), rfl⟩
    intro link hlink
    exact (hjoin link hlink).imp (hsame _) (hsame _)
  | @added notes links node hid hkind hpath hallowed hroom hlinkRoom =>
    have hmore : ∀ id, (∃ note ∈ notes, note.id = id) → ∃ note ∈ notes ++ [node], note.id = id := by
      rintro id ⟨note, hnote, rfl⟩
      exact ⟨note, List.mem_append_left _ hnote, rfl⟩
    intro link hlink
    simp only [connectNodes, connectNodesWithFlow, hallowed, Bool.not_true, Bool.false_eq_true,
      if_false, List.mem_append, List.mem_singleton] at hlink
    rcases hlink with hlink | rfl
    · exact (hjoin link (List.mem_of_mem_filter hlink)).imp (hmore _) (hmore _)
    · exact ⟨hmore _ hsource, node, by simp, hid⟩

theorem fitImageNode_imagePath (note : CanvasNoteData) (imageWidth imageHeight : Rat) :
    (fitImageNodeToIntrinsicAspect note imageWidth imageHeight).imagePath = note.imagePath := by
  unfold fitImageNodeToIntrinsicAspect
  split
  · rfl
  · extract_lets baseHeight size wide full
    split <;> rfl

theorem placement_of_update (links : List CanvasLinkData) (linkId nodeId : String)
    {old new : CanvasNoteData} (hmem : old ∈ notes) (hold : isPlaceholder sourceId old = true)
    (hid : new.id = sourceId) (hkind : new.kind = "image") (hpath : new.imagePath = path) :
    Placement linkId sourceId nodeId path notes links
      (updateFirst (isPlaceholder sourceId) (fun _ => new) notes) links := by
  obtain ⟨before, first, rest, rfl, hfirst, hupdate⟩ := updateFirst_of_mem (fun _ => new) hmem hold
  rw [hupdate]
  exact .filled hfirst hid hkind hpath

theorem placement_of_replace {loadingNodeId : String} {imageWidth imageHeight : Rat}
    (links : List CanvasLinkData) (linkId nodeId : String)
    (h : replaceCanvasGenerationPlaceholder notes sourceId loadingNodeId path imageWidth imageHeight
      0 = some after) : Placement linkId sourceId nodeId path notes links after links := by
  unfold replaceCanvasGenerationPlaceholder at h
  split at h
  · cases h
  · obtain ⟨source, hsource, rfl⟩ := Option.map_eq_some_iff.1 h
    have hplaceholder := List.find?_some hsource
    obtain ⟨hid, hkind⟩ := fitImageNode_outline { source with
      content := "", imagePath := path, width := 340, height := 250, selected := false }
      imageWidth imageHeight
    apply placement_of_update links linkId nodeId (List.mem_of_find?_eq_some hsource) hplaceholder
    · simp only [isPlaceholder, Bool.and_eq_true, decide_eq_true_eq] at hplaceholder
      exact hid.trans hplaceholder.1.1
    · simp only [isPlaceholder, Bool.and_eq_true, decide_eq_true_eq] at hplaceholder
      exact hkind.trans hplaceholder.1.2
    · exact fitImageNode_imagePath _ _ _

theorem allowed_of_add {prepared : PreparedNamespaceDelivery} {source : CanvasNoteData}
    {added : List CanvasNoteData × List CanvasLinkData}
    (h : addCanvasOutput prepared source nodeId linkId notes links = .ok added) :
    connectionAllowed links prepared.canvasSourceNodeId nodeId = true := by
  unfold addCanvasOutput at h
  extract_lets node desired place at h
  by_contra hrefused
  rw [Bool.not_eq_true] at hrefused
  simp only [connectNodes, connectNodesWithFlow, hrefused, Bool.not_false, if_true, reduceCtorEq] at h

theorem add_of_allowed {prepared : PreparedNamespaceDelivery} (source : CanvasNoteData)
    (hallowed : connectionAllowed links prepared.canvasSourceNodeId nodeId = true) :
    ∃ added, addCanvasOutput prepared source nodeId linkId notes links = .ok added := by
  unfold addCanvasOutput
  extract_lets node desired place
  simp only [connectNodes, connectNodesWithFlow, hallowed, Bool.not_true, Bool.false_eq_true,
    if_false]
  exact ⟨_, rfl⟩

theorem placement_of_add {prepared : PreparedNamespaceDelivery} {source : CanvasNoteData}
    (hnotes : notes.length < maxCanvasNodes) (hlinks : links.length < maxCanvasLinks)
    (h : addCanvasOutput prepared source nodeId linkId notes links = .ok (after, linked)) :
    Placement linkId prepared.canvasSourceNodeId nodeId prepared.sourcePath notes links after
      linked := by
  have hallowed := allowed_of_add h
  unfold addCanvasOutput at h
  extract_lets node desired place at h
  split at h
  · rename_i connected hconnected
    cases h
    have hlinked := congrArg Prod.snd hconnected
    dsimp only at hlinked
    subst hlinked
    obtain ⟨hid, hkind⟩ := fitImageNode_outline _ _ _
    exact Placement.added hid hkind (fitImageNode_imagePath _ _ _) hallowed hnotes hlinks
  · cases h

end Placement

/-- A link to a note that no link touches is made. -/
theorem connectionAllowed_of_fresh {nodeId : String} (hjoin : LinksJoin notes links)
    (hsource : ∃ note ∈ notes, note.id = sourceId) (hfresh : ∀ note ∈ notes, note.id ≠ nodeId) :
    connectionAllowed links sourceId nodeId = true := by
  rw [connectionAllowed_iff]
  refine ⟨?_, ?_, ?_⟩
  · obtain ⟨note, hnote, rfl⟩ := hsource
    exact hfresh note hnote
  · rintro ⟨link, hlink, -, hlast⟩
    obtain ⟨note, hnote, hid⟩ := (hjoin link hlink).2
    exact hfresh note hnote (hid.trans hlast)
  · intro hpath
    rcases ReflTransGen.cases_head hpath with heq | ⟨next, ⟨link, hlink, hfirst, -⟩, -⟩
    · obtain ⟨note, hnote, hid⟩ := hsource
      exact hfresh note hnote (hid.trans heq.symm)
    · obtain ⟨note, hnote, hid⟩ := (hjoin link (List.mem_of_mem_filter hlink)).1
      exact hfresh note hnote (hid.trans hfirst)

end ArtForgeStudio.Canvas
