import ArtForgeStudio.Canvas.Operations
import ArtForgeStudio.Library.Graphs
import Mathlib.Data.List.Nodup

/-! # The links of the canvas

No note is linked to itself, none has two inputs, and no path of links comes back to its start.
-/

namespace ArtForgeStudio.Canvas

open ArtForgeStudio.LocalStore ArtForgeStudio.Graphs Relation

def Linked (links : List CanvasLinkData) (source target : String) : Prop :=
  ∃ link ∈ links, link.sourceId = source ∧ link.targetId = target

structure LinkGraph (links : List CanvasLinkData) : Prop where
  noSelfLoop : ∀ link ∈ links, link.sourceId ≠ link.targetId
  oneInput : (links.map (·.targetId)).Nodup
  acyclic : Acyclic (Linked links)

section Search

variable {links : List CanvasLinkData} {start target : String} {fuel : Nat}
  {pending : List String} {visited : Finset String}

/-- The links that the search may still follow. -/
def openLinks (links : List CanvasLinkData) (visited : Finset String) : List CanvasLinkData :=
  links.filter (·.sourceId ∉ visited)

theorem openLinks_insert {nodeId : String} (hnode : nodeId ∉ visited) :
    (openLinks links visited).length = (links.filter (·.sourceId = nodeId)).length +
      (openLinks links (insert nodeId visited)).length := by
  induction links with
  | nil => rfl
  | cons link links ih =>
    simp only [openLinks, List.filter_cons] at ih ⊢
    by_cases hlink : link.sourceId = nodeId
    · simp_all [Finset.mem_insert]
      omega
    · by_cases hvisited : link.sourceId ∈ visited <;> simp_all [Finset.mem_insert]
      omega

/-- The fuel is enough: every link is followed once. -/
theorem linkReachesFrom_isSome (hfuel : pending.length + (openLinks links visited).length ≤ fuel) :
    (linkReachesFrom links target fuel pending visited).isSome := by
  induction fuel generalizing pending visited with
  | zero =>
    cases pending with
    | nil => simp [linkReachesFrom]
    | cons nodeId pending => simp at hfuel
  | succ fuel ih =>
    cases pending with
    | nil => simp [linkReachesFrom]
    | cons nodeId pending =>
      unfold linkReachesFrom
      split
      · rfl
      · split
        · exact ih (by simp_all; omega)
        · rename_i hnode
          have hopen := @openLinks_insert links visited nodeId hnode
          refine ih ?_
          simp_all
          omega

/-- What the search has seen: nothing visited is the target, and all that it leads to is visited
or pending. -/
structure Searched (links : List CanvasLinkData) (start target : String) (pending : List String)
    (visited : Finset String) : Prop where
  seen : start ∈ visited ∨ start ∈ pending
  missed : target ∉ visited
  closed : ∀ a b, a ∈ visited → Linked links a b → b ∈ visited ∨ b ∈ pending
  reached : ∀ a ∈ pending, ReflTransGen (Linked links) start a

theorem Searched.visit {nodeId : String} (h : Searched links start target (nodeId :: pending) visited)
    (hmissed : nodeId ≠ target) : Searched links start target
      (((links.filter (·.sourceId = nodeId)).map (·.targetId)).reverse ++ pending)
      (insert nodeId visited) := by
  have hnext : ∀ b, Linked links nodeId b ↔
      b ∈ ((links.filter (·.sourceId = nodeId)).map (·.targetId)).reverse := by
    simp [Linked, and_assoc]
  refine ⟨?_, ?_, ?_, ?_⟩
  · have hseen := h.seen
    simp only [List.mem_cons] at hseen
    simp only [Finset.mem_insert, List.mem_append]
    tauto
  · simp [h.missed, Ne.symm hmissed]
  · intro a b ha hab
    rcases Finset.mem_insert.mp ha with rfl | ha
    · exact .inr (List.mem_append_left _ ((hnext b).mp hab))
    · have hclosed := h.closed a b ha hab
      simp only [List.mem_cons] at hclosed
      simp only [Finset.mem_insert, List.mem_append]
      tauto
  · intro a ha
    rcases List.mem_append.mp ha with ha | ha
    · exact (h.reached nodeId List.mem_cons_self).tail ((hnext a).mpr ha)
    · exact h.reached a (List.mem_cons_of_mem _ ha)

theorem Searched.skip {nodeId : String} (h : Searched links start target (nodeId :: pending) visited)
    (hvisited : nodeId ∈ visited) : Searched links start target pending visited := by
  refine ⟨?_, h.missed, fun a b ha hab => ?_, fun a ha => h.reached a (List.mem_cons_of_mem _ ha)⟩
  · rcases h.seen with hseen | hseen
    · exact .inl hseen
    · rcases List.mem_cons.mp hseen with rfl | hseen
      · exact .inl hvisited
      · exact .inr hseen
  · rcases h.closed a b ha hab with hclosed | hclosed
    · exact .inl hclosed
    · rcases List.mem_cons.mp hclosed with rfl | hclosed
      · exact .inl hvisited
      · exact .inr hclosed

theorem Searched.finished (h : Searched links start target [] visited) :
    ¬ReflTransGen (Linked links) start target := by
  have hvisited : ∀ {a}, ReflTransGen (Linked links) start a → a ∈ visited := by
    intro a ha
    induction ha with
    | refl => exact h.seen.resolve_right List.not_mem_nil
    | tail _ hbc ih => exact (h.closed _ _ ih hbc).resolve_right List.not_mem_nil
  exact fun hreach => h.missed (hvisited hreach)

theorem linkReachesFrom_eq_some (h : Searched links start target pending visited) {found : Bool}
    (hfound : linkReachesFrom links target fuel pending visited = some found) :
    found = true ↔ ReflTransGen (Linked links) start target := by
  induction fuel generalizing pending visited with
  | zero =>
    cases pending with
    | nil =>
      cases hfound
      simpa using h.finished
    | cons nodeId pending => cases hfound
  | succ fuel ih =>
    cases pending with
    | nil =>
      cases hfound
      simpa using h.finished
    | cons nodeId pending =>
      unfold linkReachesFrom at hfound
      split at hfound
      · rename_i htarget
        cases hfound
        subst htarget
        simpa using h.reached nodeId List.mem_cons_self
      · rename_i htarget
        split at hfound
        · rename_i hvisited
          exact ih (h.skip hvisited) hfound
        · exact ih (h.visit htarget) hfound

theorem Searched.initial (links : List CanvasLinkData) (start target : String) :
    Searched links start target [start] ∅ :=
  ⟨.inr List.mem_cons_self, by simp, by simp, by simp [ReflTransGen.refl]⟩

/-- The search finds out whether a path of links leads to the target. -/
theorem linkReaches_iff : linkReaches links start target = true ↔
    ReflTransGen (Linked links) start target := by
  have hstart := Searched.initial links start target
  obtain ⟨found, hfound⟩ := Option.isSome_iff_exists.mp
    (@linkReachesFrom_isSome links target (links.length + 1) [start] ∅
      (by simp [openLinks]; omega))
  rw [linkReaches, hfound]
  exact linkReachesFrom_eq_some hstart hfound

/-- A connection that is allowed joins different notes and closes no cycle. -/
theorem connectionAllowed_iff : connectionAllowed links start target = true ↔
    start ≠ target ∧ ¬Linked links start target ∧
      ¬ReflTransGen (Linked (links.filter fun link => link.targetId ≠ target)) target start := by
  unfold connectionAllowed
  rw [← linkReaches_iff]
  split
  · rename_i h
    simp only [Bool.false_eq_true, false_iff]
    rintro ⟨hne, hlinked, -⟩
    rcases h with h | h
    · exact hne h
    · exact hlinked (by simpa [Linked] using h)
  · rename_i h
    simp_all [Linked]

theorem linked_filter {a b : String} :
    Linked (links.filter fun link => link.targetId ≠ target) a b ↔ Linked links a b ∧ b ≠ target := by
  simp only [Linked, List.mem_filter, decide_eq_true_eq]
  constructor
  · rintro ⟨link, ⟨hlink, hkept⟩, rfl, rfl⟩
    exact ⟨⟨link, hlink, rfl, rfl⟩, hkept⟩
  · rintro ⟨⟨link, hlink, rfl, rfl⟩, hkept⟩
    exact ⟨link, ⟨hlink, hkept⟩, rfl, rfl⟩

/-- No path from a note needs the links into it. -/
theorem reaches_without_inputs {finish : String} :
    ReflTransGen (Linked (links.filter fun link => link.targetId ≠ target)) target finish ↔
      ReflTransGen (Linked links) target finish := by
  constructor
  · intro hreach
    exact ReflTransGen.mono (fun _ _ hab => (linked_filter.mp hab).1) _ _ hreach
  · intro hreach
    exact ReflTransGen.mono (fun _ _ hab => linked_filter.mpr hab) _ _ (reflTransGen_leaving hreach)

end Search

/-- Whatever the links are, the search ends with the answer that the paths give, and a connection
is allowed between different notes that are not connected yet and have no path back. -/
theorem connections_are_decided_by_paths (links : List CanvasLinkData) :
    (∀ start target more, linkReachesFrom links target (links.length + 1 + more) [start] ∅ =
      some (linkReaches links start target)) ∧
    (∀ start target, linkReaches links start target = true ↔
      ReflTransGen (Linked links) start target) ∧
    (∀ source target, linkReaches (links.filter fun link => link.targetId ≠ target) target source =
      linkReaches links target source) ∧
    ∀ source target, connectionAllowed links source target = true ↔ source ≠ target ∧
      ¬Linked links source target ∧ ¬ReflTransGen (Linked links) target source := by
  refine ⟨?_, ?_, ?_, ?_⟩
  · intro start target more
    have hstart := Searched.initial links start target
    obtain ⟨found, hfound⟩ := Option.isSome_iff_exists.mp
      (@linkReachesFrom_isSome links target (links.length + 1 + more) [start] ∅
        (by simp [openLinks]; omega))
    rw [hfound, Option.some.injEq, Bool.eq_iff_iff, linkReachesFrom_eq_some hstart hfound,
      linkReaches_iff]
  · intro start target
    exact linkReaches_iff
  · intro source target
    rw [Bool.eq_iff_iff, linkReaches_iff, linkReaches_iff, reaches_without_inputs]
  · intro source target
    rw [connectionAllowed_iff, reaches_without_inputs]

section Operations

variable {links : List CanvasLinkData} {source target linkId : String} {flowReversed : Bool}

theorem LinkGraph.filter (h : LinkGraph links) (kept : CanvasLinkData → Bool) :
    LinkGraph (links.filter kept) where
  noSelfLoop link hlink := h.noSelfLoop link (List.mem_of_mem_filter hlink)
  oneInput := h.oneInput.sublist (List.filter_sublist.map _)
  acyclic := h.acyclic.mono fun _ _ ⟨link, hlink, hends⟩ =>
    ⟨link, List.mem_of_mem_filter hlink, hends⟩

theorem connectNodesWithFlow_rejected {replaced : List CanvasLinkData}
    (h : connectNodesWithFlow linkId links source target flowReversed = (.rejected, replaced)) :
    replaced = links := by
  unfold connectNodesWithFlow at h
  split at h
  · exact (Prod.mk.inj h).2.symm
  · cases (Prod.mk.inj h).1

/-- The graph stays one whether or not the connection is made. -/
theorem LinkGraph.connect (h : LinkGraph links) (linkId source target : String)
    (flowReversed : Bool) :
    LinkGraph (connectNodesWithFlow linkId links source target flowReversed).2 := by
  unfold connectNodesWithFlow
  split
  · exact h
  · rename_i hallowed
    obtain ⟨hne, -, hback⟩ := connectionAllowed_iff.mp (by simpa using hallowed)
    have hkept := h.filter fun link => link.targetId ≠ target
    refine ⟨?_, ?_, ?_⟩
    · intro link hlink
      rcases List.mem_append.mp hlink with hlink | hlink
      · exact hkept.noSelfLoop link hlink
      · cases List.mem_singleton.mp hlink
        exact hne
    · rw [List.map_append, List.map_singleton]
      refine List.nodup_append.mpr ⟨hkept.oneInput, List.nodup_singleton _, ?_⟩
      intro other hother fresh hfresh
      obtain ⟨link, hlink, rfl⟩ := List.mem_map.mp hother
      obtain rfl := List.mem_singleton.mp hfresh
      simpa using List.of_mem_filter hlink
    · refine hkept.acyclic.insert hback fun a b => ?_
      rintro ⟨link, hlink, rfl, rfl⟩
      rcases List.mem_append.mp hlink with hlink | hlink
      · exact .inl ⟨link, hlink, rfl, rfl⟩
      · cases List.mem_singleton.mp hlink
        exact .inr ⟨rfl, rfl⟩

end Operations

section Copies

variable {uuids : Nat → String} {clipboard : CanvasClipboard} {controller : CanvasController}
  {id other new : String}

theorem idMap_eq_some (h : clipboard.idMap uuids id = some new) :
    ∃ item ∈ clipboard.notes.zipIdx, item.1.id = id ∧ uuids item.2 = new :=
  mem_of_lookup_reverse h

/-- The note whose copy has the identifier. -/
noncomputable def originalId (uuids : Nat → String) (clipboard : CanvasClipboard) (new : String) :
    String :=
  ((clipboard.notes[Function.invFun uuids new]?).map (·.id)).getD ""

theorem originalId_idMap (huuids : Function.Injective uuids)
    (h : clipboard.idMap uuids id = some new) : originalId uuids clipboard new = id := by
  obtain ⟨item, hitem, rfl, rfl⟩ := idMap_eq_some h
  rw [originalId, Function.leftInverse_invFun huuids item.2, List.mem_zipIdx_iff_getElem?.mp hitem]
  rfl

/-- A pasted link is the copy of one link between two copied notes. -/
theorem mem_pasteClipboard_links {offsetX offsetY : Rat} {link : CanvasLinkData}
    (h : link ∈ (controller.pasteClipboard uuids offsetX offsetY).2) :
    ∃ original ∈ controller.clipboard.links,
      controller.clipboard.idMap uuids original.sourceId = some link.sourceId ∧
      controller.clipboard.idMap uuids original.targetId = some link.targetId := by
  obtain ⟨item, hitem, hlink⟩ := List.mem_filterMap.mp h
  simp only [Option.bind_eq_bind, Option.bind_eq_some_iff] at hlink
  obtain ⟨source, hsource, target, htarget, hlink⟩ := hlink
  cases hlink
  exact ⟨item.1, List.fst_mem_of_mem_zipIdx hitem, hsource, htarget⟩

theorem pasteClipboard_oneInput (h : (controller.clipboard.links.map (·.targetId)).Nodup)
    (huuids : Function.Injective uuids) (offsetX offsetY : Rat) :
    ((controller.pasteClipboard uuids offsetX offsetY).2.map (·.targetId)).Nodup := by
  have hinputs : (controller.clipboard.links.zipIdx.map fun item => item.1.targetId).Nodup := by
    have hfst := List.zipIdx_map_fst 0 controller.clipboard.links
    have hmap := h
    rw [← hfst, List.map_map] at hmap
    exact hmap
  refine List.pairwise_map.mpr (List.pairwise_filterMap.mpr ?_)
  refine (List.pairwise_map.mp hinputs).imp fun {a b} hne first hfirst second hsecond heq => ?_
  simp only [Option.bind_eq_bind, Option.bind_eq_some_iff] at hfirst hsecond
  obtain ⟨_, -, target, htarget, hfirst⟩ := hfirst
  obtain ⟨_, -, other, hother, hsecond⟩ := hsecond
  cases hfirst
  cases hsecond
  refine hne ?_
  rw [← originalId_idMap huuids htarget, ← originalId_idMap huuids hother]
  exact congrArg _ heq

theorem LinkGraph.paste (h : LinkGraph controller.clipboard.links)
    (huuids : Function.Injective uuids) (offsetX offsetY : Rat) :
    LinkGraph (controller.pasteClipboard uuids offsetX offsetY).2 where
  noSelfLoop link hlink heq := by
    obtain ⟨original, horiginal, hsource, htarget⟩ := mem_pasteClipboard_links hlink
    refine h.noSelfLoop original horiginal ?_
    rw [← originalId_idMap huuids hsource, ← originalId_idMap huuids htarget, heq]
  oneInput := pasteClipboard_oneInput h.oneInput huuids offsetX offsetY
  acyclic := by
    refine h.acyclic.comap (originalId uuids controller.clipboard) fun a b => ?_
    rintro ⟨link, hlink, rfl, rfl⟩
    obtain ⟨original, horiginal, hsource, htarget⟩ := mem_pasteClipboard_links hlink
    exact ⟨original, horiginal, (originalId_idMap huuids hsource).symm,
      (originalId_idMap huuids htarget).symm⟩

/-- New identifiers: no two are the same, and none ends a link. -/
structure FreshEnds (uuids : Nat → String) (links : List CanvasLinkData) : Prop where
  injective : Function.Injective uuids
  source : ∀ n, ∀ link ∈ links, link.sourceId ≠ uuids n
  target : ∀ n, ∀ link ∈ links, link.targetId ≠ uuids n

theorem LinkGraph.append {links pasted : List CanvasLinkData} (h : LinkGraph links)
    (hpasted : LinkGraph pasted) (huuids : FreshEnds uuids links)
    (hends : ∀ link ∈ pasted, ∃ i j, link.sourceId = uuids i ∧ link.targetId = uuids j) :
    LinkGraph (links ++ pasted) where
  noSelfLoop link hlink :=
    (List.mem_append.mp hlink).elim (h.noSelfLoop link) (hpasted.noSelfLoop link)
  oneInput := by
    rw [List.map_append]
    refine List.nodup_append.mpr ⟨h.oneInput, hpasted.oneInput, fun a ha b hb => ?_⟩
    obtain ⟨old, hold, rfl⟩ := List.mem_map.mp ha
    obtain ⟨new, hnew, rfl⟩ := List.mem_map.mp hb
    obtain ⟨i, j, -, htarget⟩ := hends new hnew
    rw [htarget]
    exact huuids.target j old hold
  acyclic := by
    refine h.acyclic.layers hpasted.acyclic (fun id => ∃ n, id = uuids n) fun a b => ?_
    rintro ⟨link, hlink, rfl, rfl⟩
    rcases List.mem_append.mp hlink with hlink | hlink
    · exact .inl ⟨fun ⟨n, hn⟩ => huuids.source n link hlink hn,
        fun ⟨n, hn⟩ => huuids.target n link hlink hn, link, hlink, rfl, rfl⟩
    · obtain ⟨i, j, hsource, -⟩ := hends link hlink
      exact .inr ⟨⟨i, hsource⟩, fun _ => ⟨link, hlink, rfl, rfl⟩⟩

end Copies

structure LinkState where
  links : List CanvasLinkData
  controller : CanvasController := {}

/-- One operation, with whatever notes are on the canvas. -/
inductive LinkStep (state : LinkState) : LinkState → Prop
  | connect (linkId source target : String) (flowReversed : Bool) : LinkStep state
      { state with links := (connectNodesWithFlow linkId state.links source target flowReversed).2 }
  | copy (notes : List CanvasNoteData) : LinkStep state
      { state with controller := state.controller.copySelection notes state.links }
  | paste (uuids : Nat → String) (huuids : FreshEnds uuids state.links) (offsetX offsetY : Rat) :
      LinkStep state { state with
        links := state.links ++ (state.controller.pasteClipboard uuids offsetX offsetY).2 }
  | removeSelection (notes : List CanvasNoteData) : LinkStep state
      { state with links := (removeSelection notes state.links).2.2 }
  | removeGroup (notes : List CanvasNoteData) (groupId : String) : LinkStep state
      { state with links := (removeGroupWithDescendants notes state.links groupId).2.2 }

structure LinkInvariant (state : LinkState) : Prop where
  links : LinkGraph state.links
  copied : LinkGraph state.controller.clipboard.links

theorem LinkInvariant.step {state next : LinkState} (h : LinkInvariant state)
    (hstep : LinkStep state next) : LinkInvariant next := by
  cases hstep with
  | connect linkId source target flowReversed =>
    exact ⟨h.links.connect linkId source target flowReversed, h.copied⟩
  | copy notes => exact ⟨h.links, h.links.filter _⟩
  | paste uuids huuids offsetX offsetY =>
    refine ⟨h.links.append (h.copied.paste huuids.injective offsetX offsetY) huuids ?_, h.copied⟩
    intro link hlink
    obtain ⟨original, -, hsource, htarget⟩ := mem_pasteClipboard_links hlink
    obtain ⟨source, -, -, hsource⟩ := idMap_eq_some hsource
    obtain ⟨target, -, -, htarget⟩ := idMap_eq_some htarget
    exact ⟨source.2, target.2, hsource.symm, htarget.symm⟩
  | removeSelection notes => exact ⟨h.links.filter _, h.copied⟩
  | removeGroup notes groupId =>
    refine ⟨?_, h.copied⟩
    unfold removeGroupWithDescendants
    split
    · exact h.links.filter _
    · exact h.links

/-- The links stay a graph in every run, and a rejected connection changes none. -/
theorem links_stay_acyclic {start last : LinkState} (hlinks : LinkGraph start.links)
    (hclipboard : LinkGraph start.controller.clipboard.links)
    (hrun : ReflTransGen LinkStep start last) :
    LinkGraph last.links ∧
      ∀ linkId source target flowReversed links,
        connectNodesWithFlow linkId last.links source target flowReversed = (.rejected, links) →
          links = last.links := by
  refine ⟨?_, fun _ _ _ _ _ hrejected => connectNodesWithFlow_rejected hrejected⟩
  have hinvariant : LinkInvariant last := by
    induction hrun with
    | refl => exact ⟨hlinks, hclipboard⟩
    | tail _ hstep ih => exact ih.step hstep
  exact hinvariant.links

theorem links_stay_acyclic_replaced :
    LinkGraph [{ id := "2", sourceId := "c", targetId := "b", flowReversed := true }] := by
  have hnil : LinkGraph [] := by
    refine ⟨by simp, by simp, fun a hcycle => ?_⟩
    obtain ⟨b, ⟨link, hlink, -⟩, -⟩ := TransGen.head'_iff.mp hcycle
    cases hlink
  have hfirst : (connectNodesWithFlow "1" [] "a" "b" false).2 =
      [{ id := "1", sourceId := "a", targetId := "b" }] := by decide +kernel
  have hsecond : (connectNodesWithFlow "2" [{ id := "1", sourceId := "a", targetId := "b" }] "c" "b"
      true).2 = [{ id := "2", sourceId := "c", targetId := "b", flowReversed := true }] := by
    decide +kernel
  have hrun : ReflTransGen LinkStep ⟨[], {}⟩
      ⟨(connectNodesWithFlow "2" (connectNodesWithFlow "1" [] "a" "b" false).2 "c" "b" true).2, {}⟩ :=
    .tail (.single (.connect "1" "a" "b" false)) (.connect "2" "c" "b" true)
  have hgraph := (links_stay_acyclic hnil hnil hrun).1
  rwa [hfirst, hsecond] at hgraph

end ArtForgeStudio.Canvas
