import ArtForgeStudio.Canvas.Outputs
import ArtForgeStudio.Deliveries.Once

/-! # Outputs of canvases and videos

The image of a canvas stands among the assets and in the one workspace of its source; a video has
an entry of its own. Both are staged once, as the assets of the gallery are.
-/

namespace ArtForgeStudio.Deliveries

open ArtForgeStudio.Api ArtForgeStudio.Codecs ArtForgeStudio.LocalStore ArtForgeStudio.Outcome
  ArtForgeStudio.Recovery
open ArtForgeStudio.Canvas (Placement LinkGraph LinksJoin deliveryTarget deliveryNodeId)

section Canvases

variable {store next : Store Retained} {prepared : PreparedNamespaceDelivery}
  {target id : String} {staged : Bool} {assets : List AssetData} {notes after : List CanvasNoteData}
  {links linked : List CanvasLinkData}

def Store.canvas (store : Store Retained) (id : String) : List CanvasNoteData × List CanvasLinkData :=
  store.canvasStore.canvas id

theorem canvasStore_setCanvas (store : Store Retained) (target : String)
    (notes : List CanvasNoteData) (links : List CanvasLinkData) :
    (store.setCanvas target notes links).canvasStore =
      store.canvasStore.setCanvas target notes links := by
  unfold Store.setCanvas Canvas.Store.setCanvas
  dsimp only
  split <;> rfl

theorem canvas_placed (store : Store Retained) (target : String) (notes : List CanvasNoteData)
    (links : List CanvasLinkData) (assets : List AssetData) (id : String) :
    Store.canvas { store.setCanvas target notes links with assets := assets } id =
      if id = target then (notes, links) else store.canvas id := by
  have hcanvas : Store.canvas { store.setCanvas target notes links with assets := assets } id =
      (store.setCanvas target notes links).canvasStore.canvas id := rfl
  rw [hcanvas, canvasStore_setCanvas, Canvas.canvas_setCanvas]
  rfl

/-- The target is the only workspace with the source, which is there once. -/
theorem target_iff : deliveryTarget store.canvasStore id = .ok target ↔
    (∀ workspace, (store.canvas workspace).1.countP (·.id = id) ≤ 1) ∧
      ∀ workspace, (store.canvas workspace).1.countP (·.id = id) = 1 ↔ workspace = target :=
  Canvas.deliveryTarget_eq_ok

theorem source_mem (h : deliveryTarget store.canvasStore id = .ok target) :
    ∃ note ∈ (store.canvas target).1, note.id = id := by
  have hone := ((target_iff.1 h).2 target).2 rfl
  have hpos : 0 < (store.canvas target).1.countP (·.id = id) := by omega
  simpa using List.countP_pos_iff.1 hpos

def outputNodeId (prepared : PreparedNamespaceDelivery) : String := deliveryNodeId prepared.onCanvas

/-- The note holds the output. -/
def isOutput (prepared : PreparedNamespaceDelivery) (note : CanvasNoteData) : Bool :=
  note.kind = "image" && note.imagePath = prepared.sourcePath &&
    (note.id = outputNodeId prepared || note.id = prepared.record.canvasSourceNodeId)

/-- The asset says of the delivery what it said when it was made. -/
structure IsCanvasAsset (prepared : PreparedNamespaceDelivery) (asset : AssetData) : Prop where
  path : asset.sourcePath = prepared.sourcePath
  category : asset.category = "other"
  origin : asset.origin = canvasOrigin prepared
  conversationId : asset.conversationId = prepared.record.conversationId
  model : asset.model = prepared.record.modelCode
  recoverable : asset.deliveryRecoverable = false
  downloading : asset.deliveryDownloading = false

/-- What is found in one note of the canvas, linked from the source if it is a note of its own. -/
def OutputOnce (prepared : PreparedNamespaceDelivery) (notes : List CanvasNoteData)
    (links : List CanvasLinkData) : Prop :=
  ∃ note, notes.filter (isOutput prepared) = [note] ∧
    (note.id = outputNodeId prepared → (links.any fun link =>
      link.sourceId = prepared.record.canvasSourceNodeId &&
        link.targetId = outputNodeId prepared) = true)

theorem checkStagedOutput_eq_ok {asset : AssetData} :
    Canvas.checkStagedOutput prepared.onCanvas (canvasOrigin prepared)
        (deliveryNodeId prepared.onCanvas) asset.onCanvas notes links = .ok () ↔
      IsCanvasAsset prepared asset ∧ OutputOnce prepared notes links := by
  unfold Canvas.checkStagedOutput
  simp only [bind_eq_ok, exists_unit, ensure_eq_ok]
  apply and_congr
  · constructor
    · rintro ⟨hpath, hcategory, horigin, hconversation, hmodel, hrecoverable, hdownloading⟩
      exact ⟨hpath, hcategory, horigin, hconversation, hmodel, hrecoverable, hdownloading⟩
    · rintro ⟨hpath, hcategory, horigin, hconversation, hmodel, hrecoverable, hdownloading⟩
      exact ⟨hpath, hcategory, horigin, hconversation, hmodel, hrecoverable, hdownloading⟩
  · unfold OutputOnce
    split
    · next found hfound =>
      rw [show notes.filter (isOutput prepared) = [found] from hfound, ensure_eq_ok]
      constructor
      · exact fun hlinked => ⟨found, rfl, hlinked⟩
      · rintro ⟨_, hnote, hlinked⟩
        cases hnote
        exact hlinked
    · next hother =>
      constructor
      · intro herror
        cases herror
      · rintro ⟨note, hnote, -⟩
        exact (hother note hnote).elim

theorem canvasStep_true :
    canvasStep prepared assets notes links = .ok true ↔ ∃ asset rest, assets = asset :: rest ∧
      IsCanvasAsset prepared asset ∧ OutputOnce prepared notes links := by
  unfold canvasStep
  cases assets with
  | nil => simp only [bind_eq_ok, pure_eq_ok, Bool.false_eq_true, and_false, exists_false,
      reduceCtorEq, false_and]
  | cons asset rest =>
    simp only [bind_eq_ok, exists_unit, pure_eq_ok, and_true, checkStagedOutput_eq_ok]
    simp

theorem canvasStep_false :
    canvasStep prepared assets notes links = .ok false ↔ assets = [] ∧
      ∀ note ∈ notes, note.id ≠ outputNodeId prepared ∧ note.imagePath ≠ prepared.sourcePath := by
  unfold canvasStep
  cases assets with
  | nil =>
    simp only [bind_eq_ok, exists_unit, rejectIf_eq_ok, pure_eq_ok, and_true, true_and]
    simp [outputNodeId]
  | cons asset rest =>
    simp only [bind_eq_ok, pure_eq_ok, Bool.true_eq_false, and_false, exists_false, reduceCtorEq,
      false_and]

/-- What a delivery for a canvas asks of the store before it is looked for there. -/
structure CanvasReady (store : Store Retained) (prepared : PreparedNamespaceDelivery)
    (target : String) : Prop where
  taskType : prepared.record.taskType = "image_generation"
  named : prepared.record.canvasSourceNodeId ≠ ""
  noFailedCard : prepared.confirmation.failedAssetId = none
  target : deliveryTarget store.canvasStore prepared.record.canvasSourceNodeId = .ok target
  noCard : ∀ item ∈ store.generations,
    item.id ≠ prepared.confirmation.fileId ∧ item.sourcePath ≠ prepared.sourcePath
  path : ∀ item ∈ store.assets, item.sourcePath = prepared.sourcePath →
    item.id = prepared.confirmation.fileId
  one : (store.assets.filter (·.id = prepared.confirmation.fileId)).length ≤ 1

theorem checkCanvasNamespaceDelivery_eq_ok :
    checkCanvasNamespaceDelivery store prepared = .ok (target, staged) ↔
      CanvasReady store prepared target ∧
        canvasStep prepared (store.assets.filter (·.id = prepared.confirmation.fileId))
          (store.canvas target).1 (store.canvas target).2 = .ok staged := by
  unfold checkCanvasNamespaceDelivery
  simp only [bind_eq_ok, exists_unit, ensure_eq_ok, rejectIf_eq_ok, path_iff, pure_eq_ok,
    Prod.mk.injEq]
  constructor
  · rintro ⟨⟨htask, hnamed, hfailed⟩, _, htarget, -, hcards, hpath, hone, _, hstep, rfl, rfl⟩
    exact ⟨⟨htask, hnamed, hfailed, htarget, by simpa [not_or] using hcards, hpath, hone⟩, hstep⟩
  · rintro ⟨⟨htask, hnamed, hfailed, htarget, hcards, hpath, hone⟩, hstep⟩
    refine ⟨⟨htask, hnamed, hfailed⟩, _, htarget, ?_, ?_, hpath, hone, _, hstep, rfl, rfl⟩
    · simpa [Store.canvas] using source_mem htarget
    · simpa [not_or] using hcards

/-- The delivery is among the assets and on the canvas of its source. -/
structure OnCanvas (store : Store Retained) (prepared : PreparedNamespaceDelivery)
    (target : String) : Prop where
  ready : CanvasReady store prepared target
  asset : ∃ asset, store.assets.filter (·.id = prepared.confirmation.fileId) = [asset] ∧
    IsCanvasAsset prepared asset
  output : OutputOnce prepared (store.canvas target).1 (store.canvas target).2

theorem onCanvas_iff :
    checkCanvasNamespaceDelivery store prepared = .ok (target, true) ↔
      OnCanvas store prepared target := by
  rw [checkCanvasNamespaceDelivery_eq_ok, canvasStep_true]
  constructor
  · rintro ⟨hready, asset, rest, hassets, hasset, houtput⟩
    exact ⟨hready, ⟨asset, eq_singleton hassets hready.one, hasset⟩, houtput⟩
  · rintro ⟨hready, ⟨asset, hassets, hasset⟩, houtput⟩
    exact ⟨hready, asset, [], hassets, hasset, houtput⟩

theorem placeCanvasOutput_eq {source : CanvasNoteData} (loadingNodeId linkId : String)
    (hfind : (store.canvas target).1.find? (·.id = prepared.record.canvasSourceNodeId) =
      some source) :
    placeCanvasOutput store prepared target loadingNodeId linkId =
      if (loadingNodeId = prepared.record.canvasSourceNodeId && source.kind = "image" &&
            trimIsEmpty source.imagePath) = true ∨
          (store.canvas target).1.length < Canvas.maxCanvasNodes ∧
            (store.canvas target).2.length < Canvas.maxCanvasLinks then
        match Canvas.replaceCanvasGenerationPlaceholder (store.canvas target).1
            prepared.record.canvasSourceNodeId loadingNodeId prepared.sourcePath
            prepared.dimensions.1.toNat prepared.dimensions.2.toNat 0 with
        | some notes => .ok (notes, (store.canvas target).2)
        | none => Canvas.addCanvasOutput prepared.onCanvas source (outputNodeId prepared) linkId
            (store.canvas target).1 (store.canvas target).2
      else .error "Canvas capacity reached" := by
  unfold placeCanvasOutput ensure
  simp only [← show store.canvas target = store.canvasStore.canvas target from rfl, hfind]
  split <;> rfl

/-- A delivery that is placed, refused for its link, or put off for want of room. -/
theorem placeCanvasOutput_cases (loadingNodeId linkId : String)
    (hsource : ∃ note ∈ (store.canvas target).1, note.id = prepared.record.canvasSourceNodeId) :
    (∃ notes links,
      placeCanvasOutput store prepared target loadingNodeId linkId = .ok (notes, links) ∧
        Placement linkId prepared.record.canvasSourceNodeId (outputNodeId prepared)
          prepared.sourcePath (store.canvas target).1 (store.canvas target).2 notes links) ∨
    ∃ message, placeCanvasOutput store prepared target loadingNodeId linkId = .error message ∧
      (message = "Canvas capacity reached" ∨ Canvas.connectionAllowed (store.canvas target).2
        prepared.record.canvasSourceNodeId (outputNodeId prepared) = false) := by
  have hfind :
      ((store.canvas target).1.find? (·.id = prepared.record.canvasSourceNodeId)).isSome := by
    simpa using hsource
  obtain ⟨source, hfind⟩ := Option.isSome_iff_exists.1 hfind
  have hid : source.id = prepared.record.canvasSourceNodeId := by simpa using List.find?_some hfind
  rw [placeCanvasOutput_eq loadingNodeId linkId hfind]
  split
  · next hroom =>
    split
    · next notes hreplaced =>
      exact .inl ⟨notes, _, rfl, Canvas.placement_of_replace _ _ _ hreplaced⟩
    · next hkept =>
      -- A source that waits would have been filled, so there is room.
      have hroom : (store.canvas target).1.length < Canvas.maxCanvasNodes ∧
          (store.canvas target).2.length < Canvas.maxCanvasLinks := by
        apply hroom.resolve_left
        intro hwaits
        simp only [Bool.and_eq_true, decide_eq_true_eq] at hwaits
        obtain ⟨⟨hloading, hkind⟩, hblank⟩ := hwaits
        have hsome := @Canvas.replacePlaceholder_isSome prepared.sourcePath _ source
          prepared.dimensions.1.toNat prepared.dimensions.2.toNat (List.mem_of_find?_eq_some hfind)
          (by simp [Canvas.isPlaceholder, hkind, hblank])
        rw [hloading] at hkept
        rw [hid, hkept] at hsome
        cases hsome
      cases hadded : Canvas.addCanvasOutput prepared.onCanvas source (outputNodeId prepared) linkId
          (store.canvas target).1 (store.canvas target).2 with
      | ok added =>
        exact .inl ⟨added.1, added.2, rfl, Canvas.placement_of_add hroom.1 hroom.2 hadded⟩
      | error message =>
        right
        refine ⟨message, rfl, .inr ?_⟩
        by_contra hallowed
        rw [Bool.not_eq_false] at hallowed
        have hallowed : Canvas.connectionAllowed (store.canvas target).2
          prepared.onCanvas.canvasSourceNodeId (outputNodeId prepared) = true := hallowed
        obtain ⟨added, hok⟩ := Canvas.add_of_allowed source hallowed
        rw [hadded] at hok
        cases hok
  · exact .inr ⟨_, rfl, .inl rfl⟩

/-- A delivery that was new: its output is placed on the canvas of its source, and its asset is
put in front. -/
structure Placed (store next : Store Retained) (prepared : PreparedNamespaceDelivery)
    (target : String) : Prop where
  ready : CanvasReady store prepared target
  absent : store.assets.filter (·.id = prepared.confirmation.fileId) = []
  fresh : ∀ note ∈ (store.canvas target).1,
    note.id ≠ outputNodeId prepared ∧ note.imagePath ≠ prepared.sourcePath
  output : ∃ linkId, Placement linkId prepared.record.canvasSourceNodeId (outputNodeId prepared)
    prepared.sourcePath (store.canvas target).1 (store.canvas target).2 (next.canvas target).1
    (next.canvas target).2
  elsewhere : ∀ id, id ≠ target → next.canvas id = store.canvas id
  asset : ∃ asset, next.assets = asset :: store.assets ∧
    asset.id = prepared.confirmation.fileId ∧ IsCanvasAsset prepared asset
  generations : next.generations = store.generations
  notifications : next.notifications = store.notifications
  videos : next.others.videoOutputs = store.others.videoOutputs

/-- Other notes are counted as before, in every workspace. -/
theorem Placed.count (h : Placed store next prepared target) (hid : id ≠ outputNodeId prepared)
    (workspace : String) : (next.canvas workspace).1.countP (·.id = id) =
      (store.canvas workspace).1.countP (·.id = id) := by
  by_cases hworkspace : workspace = target
  · obtain ⟨linkId, hplaced⟩ := h.output
    rw [hworkspace]
    exact hplaced.count hid
  · rw [h.elsewhere workspace hworkspace]

theorem Placed.target_iff (h : Placed store next prepared target) (hid : id ≠ outputNodeId prepared)
    (other : String) :
    deliveryTarget next.canvasStore id = .ok other ↔
      deliveryTarget store.canvasStore id = .ok other := by
  simp only [Deliveries.target_iff, h.count hid]

theorem Placed.source_ne (h : Placed store next prepared target) :
    prepared.record.canvasSourceNodeId ≠ outputNodeId prepared := by
  obtain ⟨note, hnote, hid⟩ := source_mem h.ready.target
  rw [← hid]
  exact (h.fresh note hnote).1

theorem Placed.onCanvas (h : Placed store next prepared target) : OnCanvas next prepared target := by
  obtain ⟨asset, hassets, hid, hasset⟩ := h.asset
  have hfound : next.assets.filter (·.id = prepared.confirmation.fileId) = [asset] := by
    rw [hassets]
    exact filter_cons_only (decide_eq_true hid) h.absent
  refine ⟨⟨h.ready.taskType, h.ready.named, h.ready.noFailedCard, ?_, ?_, ?_, ?_⟩,
    ⟨asset, hfound, hasset⟩, ?_⟩
  · exact (h.target_iff h.source_ne target).2 h.ready.target
  · rw [h.generations]
    exact h.ready.noCard
  · intro item hitem hpath
    rw [hassets] at hitem
    rcases List.mem_cons.1 hitem with rfl | hold
    · exact hid
    · exact h.ready.path item hold hpath
  · simp [hfound]
  · obtain ⟨linkId, hplaced⟩ := h.output
    exact hplaced.output h.fresh

theorem placed_of_placement {linkId : String} (time : String)
    (hready : CanvasReady store prepared target)
    (habsent : store.assets.filter (·.id = prepared.confirmation.fileId) = [])
    (hfresh : ∀ note ∈ (store.canvas target).1,
      note.id ≠ outputNodeId prepared ∧ note.imagePath ≠ prepared.sourcePath)
    (hplaced : Placement linkId prepared.record.canvasSourceNodeId (outputNodeId prepared)
      prepared.sourcePath (store.canvas target).1 (store.canvas target).2 notes links) :
    Placed store { store.setCanvas target notes links with
      assets := canvasAsset prepared time :: store.assets } prepared target where
  ready := hready
  absent := habsent
  fresh := hfresh
  output := by
    rw [canvas_placed, if_pos rfl]
    exact ⟨linkId, hplaced⟩
  elsewhere id hid := by rw [canvas_placed, if_neg hid]
  asset := ⟨canvasAsset prepared time, rfl, rfl, ⟨rfl, rfl, rfl, rfl, rfl, rfl, rfl⟩⟩
  generations := by simp only [Store.setCanvas]
  notifications := by simp only [Store.setCanvas]
  videos := by simp only [Store.setCanvas]

/-- The delivery can be staged, if there is room for it. -/
def AcceptedOnCanvas (store : Store Retained) (prepared : PreparedNamespaceDelivery) : Prop :=
  ∃ target staged, checkCanvasNamespaceDelivery store prepared = .ok (target, staged)

/-- What is refused changes nothing, and could not be staged but for room or a stray link; what is
staged is among the assets and on the canvas. -/
theorem stageCanvasNamespaceDelivery_cases (store : Store Retained)
    (prepared : PreparedNamespaceDelivery) (time loadingNodeId linkId : String) :
    (∃ message, stageCanvasNamespaceDelivery store prepared time loadingNodeId linkId =
        (.error (.refused message), store) ∧
      (AcceptedOnCanvas store prepared → message = "Canvas capacity reached" ∨
        ∃ target, CanvasReady store prepared target ∧
          (∀ note ∈ (store.canvas target).1, note.id ≠ outputNodeId prepared) ∧
          Canvas.connectionAllowed (store.canvas target).2 prepared.record.canvasSourceNodeId
            (outputNodeId prepared) = false)) ∨
    (stageCanvasNamespaceDelivery store prepared time loadingNodeId linkId).1 =
        .ok prepared.confirmation.fileId ∧
      AcceptedOnCanvas store prepared ∧ ∃ target,
        OnCanvas (stageCanvasNamespaceDelivery store prepared time loadingNodeId linkId).2 prepared
          target ∧
        ((stageCanvasNamespaceDelivery store prepared time loadingNodeId linkId).2 = store ∨
          Placed store (stageCanvasNamespaceDelivery store prepared time loadingNodeId linkId).2
            prepared target) := by
  cases hcheck : checkCanvasNamespaceDelivery store prepared with
  | error message =>
    left
    refine ⟨message, by simp only [stageCanvasNamespaceDelivery, hcheck], ?_⟩
    rintro ⟨target, staged, hok⟩
    rw [hcheck] at hok
    cases hok
  | ok checked =>
    obtain ⟨target, staged⟩ := checked
    have haccepted : AcceptedOnCanvas store prepared := ⟨target, staged, hcheck⟩
    cases staged with
    | true =>
      right
      simp only [stageCanvasNamespaceDelivery, hcheck]
      exact ⟨trivial, haccepted, target, onCanvas_iff.1 hcheck, .inl trivial⟩
    | false =>
      obtain ⟨hready, hstep⟩ := checkCanvasNamespaceDelivery_eq_ok.1 hcheck
      obtain ⟨habsent, hfresh⟩ := canvasStep_false.1 hstep
      rcases placeCanvasOutput_cases loadingNodeId linkId (source_mem hready.target) with
        ⟨notes, links, hplace, hplaced⟩ | ⟨message, hplace, hreason⟩
      · right
        have hnext : Placed store (stageCanvasNamespaceDelivery store prepared time loadingNodeId
            linkId).2 prepared target := by
          simp only [stageCanvasNamespaceDelivery, hcheck, hplace]
          exact placed_of_placement time hready habsent hfresh hplaced
        refine ⟨?_, haccepted, target, hnext.onCanvas, .inr hnext⟩
        simp only [stageCanvasNamespaceDelivery, hcheck, hplace]
      · left
        refine ⟨message, by simp only [stageCanvasNamespaceDelivery, hcheck, hplace], fun _ => ?_⟩
        rcases hreason with hfull | hstray
        · exact .inl hfull
        · exact .inr ⟨target, hready, fun note hnote => (hfresh note hnote).1, hstray⟩

/-- An output that is there is staged again without any change. -/
theorem OnCanvas.again (h : OnCanvas store prepared target) (time loadingNodeId linkId : String) :
    stageCanvasNamespaceDelivery store prepared time loadingNodeId linkId =
      (.ok prepared.confirmation.fileId, store) := by
  simp only [stageCanvasNamespaceDelivery, onCanvas_iff.2 h]

/-- A staged delivery as the canvases see it. -/
def canvasAnswer : Except StagingError String × Store Retained → Except String (String × Canvas.Store)
  | (.ok id, next) => .ok (id, next.canvasStore)
  | (.error (.refused message), _) => .error message

theorem assets_canvasStore (store : Store Retained) :
    store.canvasStore.assets = store.assets.map AssetData.onCanvas := rfl

theorem canvasStore_withAssets (store : Store Retained) (assets : List AssetData) :
    Store.canvasStore { store with assets := assets } =
      { store.canvasStore with assets := assets.map AssetData.onCanvas } := rfl

theorem canvasStore_placed (store : Store Retained) (target : String) (notes : List CanvasNoteData)
    (links : List CanvasLinkData) (asset : AssetData) :
    Store.canvasStore { store.setCanvas target notes links with assets := asset :: store.assets } =
      { store.canvasStore.setCanvas target notes links with
        assets := asset.onCanvas :: store.canvasStore.assets } := by
  rw [canvasStore_withAssets, canvasStore_setCanvas, assets_canvasStore, List.map_cons]

/-- The canvas of the store answers what the store answers. -/
theorem canvasAnswer_eq (store : Store Retained) (prepared : PreparedNamespaceDelivery)
    (time loadingNodeId linkId : String) :
    canvasAnswer (stageCanvasNamespaceDelivery store prepared time loadingNodeId linkId) = (do
      let (target, staged) ← checkCanvasNamespaceDelivery store prepared
      match staged with
      | true => pure (prepared.confirmation.fileId, store.canvasStore)
      | false =>
        let (notes, links) ← placeCanvasOutput store prepared target loadingNodeId linkId
        pure (prepared.confirmation.fileId, { store.canvasStore.setCanvas target notes links with
          assets := (canvasAsset prepared time).onCanvas :: store.canvasStore.assets })) := by
  unfold stageCanvasNamespaceDelivery
  cases checkCanvasNamespaceDelivery store prepared with
  | error message => rfl
  | ok checked =>
    obtain ⟨target, staged⟩ := checked
    cases staged with
    | true => rfl
    | false =>
      cases hplace : placeCanvasOutput store prepared target loadingNodeId linkId with
      | error message =>
        simp only [bind, Except.bind, hplace]
        rfl
      | ok placed =>
        simp only [bind, Except.bind, hplace, canvasAnswer, canvasStore_placed]
        rfl

theorem cards_onCanvas (store : Store Retained) (prepared : PreparedNamespaceDelivery) :
    store.canvasStore.generations.any (fun asset =>
        asset.id = prepared.onCanvas.fileId || asset.sourcePath = prepared.onCanvas.sourcePath) =
      store.generations.any fun asset =>
        asset.id = prepared.confirmation.fileId || asset.sourcePath = prepared.sourcePath := by
  simp only [Store.canvasStore, List.any_map]
  rfl

theorem paths_onCanvas (store : Store Retained) (prepared : PreparedNamespaceDelivery) :
    store.canvasStore.assets.any (fun asset =>
        asset.sourcePath = prepared.onCanvas.sourcePath && asset.id ≠ prepared.onCanvas.fileId) =
      store.assets.any fun asset =>
        asset.sourcePath = prepared.sourcePath && asset.id ≠ prepared.confirmation.fileId := by
  simp only [Store.canvasStore, List.any_map]
  rfl

theorem filter_onCanvas (store : Store Retained) (prepared : PreparedNamespaceDelivery) :
    store.canvasStore.assets.filter (·.id = prepared.onCanvas.fileId) =
      (store.assets.filter (·.id = prepared.confirmation.fileId)).map AssetData.onCanvas := by
  simp only [Store.canvasStore, List.filter_map]
  rfl

/-- The model of the canvases alone stages what is staged in the store. -/
theorem stageCanvasNamespaceDelivery_canvasStore (store : Store Retained)
    (prepared : PreparedNamespaceDelivery) (time loadingNodeId linkId : String) :
    Canvas.stageCanvasNamespaceDelivery store.canvasStore prepared.onCanvas loadingNodeId linkId =
      canvasAnswer (stageCanvasNamespaceDelivery store prepared time loadingNodeId linkId) := by
  rw [canvasAnswer_eq]
  unfold Canvas.stageCanvasNamespaceDelivery checkCanvasNamespaceDelivery
  simp only [bind_assoc]
  refine bind_congr fun _ => bind_congr fun target => ?_
  cases hsource : (store.canvas target).1.find? (·.id = prepared.record.canvasSourceNodeId) with
  | none =>
    have hnone : ¬(store.canvasStore.canvas target).1.any
        (·.id = prepared.record.canvasSourceNodeId) := by
      simpa [Store.canvas] using hsource
    have hsource : (store.canvasStore.canvas target).1.find?
        (·.id = prepared.onCanvas.canvasSourceNodeId) = none := hsource
    simp only [hsource, ensure, if_neg hnone]
    rfl
  | some source =>
    have hsome : (store.canvasStore.canvas target).1.any
        (·.id = prepared.record.canvasSourceNodeId) := by
      simpa using ⟨source, List.mem_of_find?_eq_some hsource, by simpa using List.find?_some hsource⟩
    have hfind : (store.canvasStore.canvas target).1.find?
        (·.id = prepared.onCanvas.canvasSourceNodeId) = some source := hsource
    rw [cards_onCanvas, paths_onCanvas]
    simp only [hfind, filter_onCanvas, ensure, if_pos hsome, List.length_map]
    refine bind_congr fun _ => bind_congr fun _ => bind_congr fun _ => ?_
    generalize store.assets.filter (·.id = prepared.confirmation.fileId) = found
    cases found with
    | cons asset rest =>
      simp only [List.map_cons, canvasStep, bind_assoc, pure_bind]
      exact bind_congr fun _ => rfl
    | nil =>
      simp only [List.map_nil, canvasStep, bind_assoc, pure_bind]
      refine bind_congr fun _ => ?_
      rw [placeCanvasOutput_eq loadingNodeId linkId hsource]
      by_cases hroom : (loadingNodeId = prepared.record.canvasSourceNodeId && source.kind = "image" &&
          trimIsEmpty source.imagePath) = true ∨
        (store.canvas target).1.length < Canvas.maxCanvasNodes ∧
          (store.canvas target).2.length < Canvas.maxCanvasLinks
      · rw [if_pos hroom]
        split
        · obtain ⟨filled, hfilled⟩ : ∃ filled, Canvas.replaceCanvasGenerationPlaceholder
              (store.canvasStore.canvas target).1 prepared.onCanvas.canvasSourceNodeId loadingNodeId
              prepared.onCanvas.sourcePath prepared.onCanvas.width prepared.onCanvas.height 0 =
                filled := ⟨_, rfl⟩
          have hsame : Canvas.replaceCanvasGenerationPlaceholder (store.canvas target).1
            prepared.record.canvasSourceNodeId loadingNodeId prepared.sourcePath
            prepared.dimensions.1.toNat prepared.dimensions.2.toNat 0 = filled := hfilled
          simp only [hfilled, hsame]
          cases filled <;> rfl
        · next hfull => exact absurd hroom hfull
      · rw [if_neg hroom]
        split
        · next hfree => exact absurd hfree hroom
        · rfl

end Canvases

section Videos

variable {store next : Store Retained} {prepared : PreparedNamespaceVideoDelivery}

def videoKey (prepared : PreparedNamespaceVideoDelivery) : String :=
  prepared.confirmation.taskId ++ ":" ++ prepared.confirmation.fileId

theorem videoOutput_key (prepared : PreparedNamespaceVideoDelivery) (time : String) :
    (videoOutput prepared time).key = videoKey prepared := rfl

/-- What two outputs of one delivery must agree on does not depend on the time. -/
theorem sameVideo_time (existing : SavedVideoOutput) (time other : String) :
    sameVideo existing (videoOutput prepared time) =
      sameVideo existing (videoOutput prepared other) :=
  rfl

/-- The delivery can be staged. -/
structure AcceptedVideo (store : Store Retained) (prepared : PreparedNamespaceVideoDelivery) :
    Prop where
  taskType : prepared.record.taskType = "image_to_video" ∨
    prepared.record.taskType = "video_generation"
  requested : prepared.record.videoRequest.isSome = true
  noFailedCard : prepared.confirmation.failedAssetId = none
  path : ∀ (key : String) (output : SavedVideoOutput), store.others.videoOutputs[key]? = some output →
    output.sourcePath = prepared.sourcePath → key = videoKey prepared
  same : ∀ output : SavedVideoOutput, store.others.videoOutputs[videoKey prepared]? = some output →
    sameVideo output (videoOutput prepared "") = true

theorem checkVideoDelivery_eq_ok (time : String) :
    checkVideoDelivery store prepared (videoOutput prepared time) = .ok () ↔
      AcceptedVideo store prepared := by
  have hpath : ¬(store.others.videoOutputs.toList.any fun entry =>
        entry.1 ≠ (videoOutput prepared time).key &&
          entry.2.sourcePath = (videoOutput prepared time).sourcePath) = true ↔
      ∀ (key : String) (output : SavedVideoOutput), store.others.videoOutputs[key]? = some output →
        output.sourcePath = prepared.sourcePath → key = videoKey prepared := by
    simp only [List.any_eq_true, Prod.exists, Std.ExtTreeMap.mem_toList_iff_getElem?_eq_some,
      Bool.and_eq_true, decide_eq_true_eq, videoOutput_key]
    grind [videoOutput]
  unfold checkVideoDelivery
  simp only [bind_eq_ok, exists_unit, ensure_eq_ok, rejectIf_eq_ok, hpath]
  split
  · next existing hexisting =>
    rw [ensure_eq_ok, sameVideo_time existing time ""]
    rw [videoOutput_key] at hexisting
    constructor
    · rintro ⟨⟨htask, hrequested, hfailed⟩, hpath, hvideo⟩
      exact ⟨htask, hrequested, hfailed, hpath, by simpa [hexisting] using hvideo⟩
    · rintro ⟨htask, hrequested, hfailed, hpath, hvideo⟩
      exact ⟨⟨htask, hrequested, hfailed⟩, hpath, hvideo existing hexisting⟩
  · next hnone =>
    rw [videoOutput_key] at hnone
    constructor
    · rintro ⟨⟨htask, hrequested, hfailed⟩, hpath, -⟩
      exact ⟨htask, hrequested, hfailed, hpath, by simp [hnone]⟩
    · rintro ⟨htask, hrequested, hfailed, hpath, -⟩
      exact ⟨⟨htask, hrequested, hfailed⟩, hpath, rfl⟩

/-- A staged video has one entry, and its file has no other. -/
structure VideoStaged (store next : Store Retained) (prepared : PreparedNamespaceVideoDelivery) :
    Prop where
  accepted : AcceptedVideo next prepared
  entry : ∃ output, next.others.videoOutputs[videoKey prepared]? = some output ∧
    output.sourcePath = prepared.sourcePath
  elsewhere : ∀ key : String, key ≠ videoKey prepared →
    next.others.videoOutputs[key]? = store.others.videoOutputs[key]?
  kept : store.others.videoOutputs[videoKey prepared]? ≠ none → next = store
  assets : next.assets = store.assets
  generations : next.generations = store.generations
  notifications : next.notifications = store.notifications
  canvas : ∀ id, next.canvas id = store.canvas id

theorem insertIfNew_eq_self {V : Type} {entries : BTreeMap V} {key : String} {value : V}
    (h : entries[key]? ≠ none) : entries.insertIfNew key value = entries := by
  have hmem : key ∈ entries := by
    rw [Std.ExtTreeMap.mem_iff_isSome_getElem?]
    exact Option.isSome_iff_ne_none.2 h
  apply Std.ExtTreeMap.ext_getElem?
  intro other
  rw [Std.ExtTreeMap.getElem?_insertIfNew, if_neg (by rintro ⟨-, hnot⟩; exact hnot hmem)]

theorem getElem?_insertIfNew {V : Type} (entries : BTreeMap V) (key : String) (value : V)
    (other : String) : (entries.insertIfNew key value)[other]? =
      if other = key then some ((entries[key]?).getD value) else entries[other]? := by
  by_cases hother : other = key
  · subst hother
    rw [if_pos rfl]
    cases hentry : entries[other]? with
    | none =>
      have hnot : other ∉ entries := by simp [Std.ExtTreeMap.mem_iff_isSome_getElem?, hentry]
      rw [Std.ExtTreeMap.getElem?_insertIfNew, if_pos ⟨Std.ReflCmp.compare_self, hnot⟩]
      rfl
    | some found =>
      rw [insertIfNew_eq_self (by simp [hentry]), hentry]
      rfl
  · rw [if_neg hother, Std.ExtTreeMap.getElem?_insertIfNew, if_neg]
    rintro ⟨heq, -⟩
    exact hother (Std.LawfulEqCmp.eq_of_compare heq).symm

theorem VideoStaged.of_accepted (h : AcceptedVideo store prepared) (time : String) :
    VideoStaged store { store with
      others := { store.others with
        videoOutputs := store.others.videoOutputs.insertIfNew (videoKey prepared)
          (videoOutput prepared time) } } prepared := by
  let output := (store.others.videoOutputs[videoKey prepared]?).getD (videoOutput prepared time)
  have hsame : sameVideo output (videoOutput prepared "") = true := by
    cases hentry : store.others.videoOutputs[videoKey prepared]? with
    | none => simp [output, hentry, sameVideo, videoOutput]
    | some found =>
      simp only [output, hentry, Option.getD_some]
      exact h.same found hentry
  have hfile : output.sourcePath = prepared.sourcePath := by
    simp only [sameVideo, Bool.and_eq_true, decide_eq_true_eq] at hsame
    exact hsame.2
  constructor
  · refine ⟨h.taskType, h.requested, h.noFailedCard, ?_, ?_⟩
    · intro key found hfound hpath
      dsimp only at hfound
      rw [getElem?_insertIfNew] at hfound
      split at hfound
      · assumption
      · exact h.path key found hfound hpath
    · intro found hfound
      dsimp only at hfound
      rw [getElem?_insertIfNew, if_pos rfl] at hfound
      cases hfound
      exact hsame
  · refine ⟨output, ?_, hfile⟩
    dsimp only
    rw [getElem?_insertIfNew, if_pos rfl]
  · intro key hkey
    dsimp only
    rw [getElem?_insertIfNew, if_neg hkey]
  · intro hentry
    rw [insertIfNew_eq_self hentry]
  · rfl
  · rfl
  · rfl
  · exact fun _ => rfl

/-- What cannot be staged is refused and changes nothing; what can be is staged. -/
theorem stageVideoDelivery_cases (store : Store Retained)
    (prepared : PreparedNamespaceVideoDelivery) (time : String) :
    (¬AcceptedVideo store prepared ∧
      ∃ error, stageVideoDelivery store prepared time = (.error error, store)) ∨
    AcceptedVideo store prepared ∧
      (stageVideoDelivery store prepared time).1 = .ok (videoKey prepared) ∧
      VideoStaged store (stageVideoDelivery store prepared time).2 prepared := by
  cases hcheck : checkVideoDelivery store prepared (videoOutput prepared time) with
  | error message =>
    left
    constructor
    · intro haccepted
      rw [(checkVideoDelivery_eq_ok time).2 haccepted] at hcheck
      cases hcheck
    · exact ⟨.refused message, by simp only [stageVideoDelivery, hcheck]⟩
  | ok checked =>
    right
    have haccepted := (checkVideoDelivery_eq_ok time).1 hcheck
    refine ⟨haccepted, ?_⟩
    simp only [stageVideoDelivery, hcheck]
    exact ⟨rfl, .of_accepted haccepted time⟩

/-- A video that is there is staged again without any change. -/
theorem VideoStaged.again (h : VideoStaged store next prepared) (time : String) :
    stageVideoDelivery next prepared time = (.ok (videoKey prepared), next) := by
  obtain ⟨output, hentry, -⟩ := h.entry
  rcases stageVideoDelivery_cases next prepared time with ⟨hnot, -⟩ | ⟨-, hok, hstaged⟩
  · exact absurd h.accepted hnot
  · have hkept := hstaged.kept (by simp [hentry])
    exact Prod.ext hok hkept

end Videos

end ArtForgeStudio.Deliveries
