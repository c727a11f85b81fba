import ArtForgeStudio.Deliveries.Orders

/-! # Runs of deliveries

A staged delivery is in the store once, where it belongs, and is staged again without any change.
In a store whose links join notes of their own workspace, deliveries that are apart may be staged in
any order: the same ones succeed, and the same outputs are in the store.
-/

namespace ArtForgeStudio.Deliveries

open ArtForgeStudio.Api ArtForgeStudio.Codecs ArtForgeStudio.LocalStore ArtForgeStudio.Outcome
  ArtForgeStudio.Recovery ArtForgeStudio.Submissions
open ArtForgeStudio.Canvas (Placement LinkGraph LinksJoin deliveryTarget deliveryNodeId)

variable {store next : Store Retained} {delivery other : Delivery}

/-- The output of a canvas is among the assets once, and in the only workspace of its source. -/
structure CanvasSettled (prepared : PreparedNamespaceDelivery) (target : String)
    (store next : Store Retained) : Prop where
  asset : ∃ asset, next.assets.filter (·.id = prepared.confirmation.fileId) = [asset] ∧
    asset.sourcePath = prepared.sourcePath
  path : ∀ item ∈ next.assets ++ next.generations, item.sourcePath = prepared.sourcePath →
    item.id = prepared.confirmation.fileId
  source : ∀ id, (next.canvas id).1.countP (·.id = prepared.record.canvasSourceNodeId) =
    if id = target then 1 else 0
  output : OutputOnce prepared (next.canvas target).1 (next.canvas target).2
  elsewhere : ∀ id, id ≠ target → next.canvas id = store.canvas id
  capacity : (store.canvas target).1.length ≤ Canvas.maxCanvasNodes →
    (store.canvas target).2.length ≤ Canvas.maxCanvasLinks →
      (next.canvas target).1.length ≤ Canvas.maxCanvasNodes ∧
        (next.canvas target).2.length ≤ Canvas.maxCanvasLinks
  links : LinkGraph (store.canvas target).2 → LinkGraph (next.canvas target).2

/-- A video has one entry, which alone has its path. -/
structure VideoSettled (prepared : PreparedNamespaceVideoDelivery) (next : Store Retained) :
    Prop where
  entry : ∃ output, next.others.videoOutputs[videoKey prepared]? = some output ∧
    output.sourcePath = prepared.sourcePath
  path : ∀ (key : String) (output : SavedVideoOutput), next.others.videoOutputs[key]? = some output →
    output.sourcePath = prepared.sourcePath → key = videoKey prepared

/-- The delivery is in the store, once. -/
def Delivery.settled (store next : Store Retained) : Delivery → Prop
  | .image prepared =>
    ∃ tool, toolbox prepared.record.taskType = .ok tool ∧ InGallery next prepared tool
  | .canvas prepared => ∃ target, CanvasSettled prepared target store next
  | .video prepared => VideoSettled prepared next

theorem OnCanvas.settled {prepared : PreparedNamespaceDelivery} {target : String}
    (h : OnCanvas next prepared target) (hnext : next = store ∨ Placed store next prepared target) :
    CanvasSettled prepared target store next where
  asset := by
    obtain ⟨asset, hfound, hasset⟩ := h.asset
    exact ⟨asset, hfound, hasset.path⟩
  path := by
    intro item hitem hpath
    rcases List.mem_append.1 hitem with hasset | hcard
    · exact h.ready.path item hasset hpath
    · exact absurd hpath (h.ready.noCard item hcard).2
  source := by
    obtain ⟨hone, honly⟩ := target_iff.1 h.ready.target
    intro id
    by_cases hid : id = target
    · rw [if_pos hid]
      exact (honly id).2 hid
    · rw [if_neg hid]
      have hle := hone id
      have hne := mt (honly id).1 hid
      omega
  output := h.output
  elsewhere := by
    intro id hid
    rcases hnext with rfl | hplaced
    · rfl
    · exact hplaced.elsewhere id hid
  capacity := by
    intro hnotes hlinks
    rcases hnext with rfl | hplaced
    · exact ⟨hnotes, hlinks⟩
    · obtain ⟨linkId, houtput⟩ := hplaced.output
      exact houtput.capacity hnotes hlinks
  links := by
    intro hgraph
    rcases hnext with rfl | hplaced
    · exact hgraph
    · obtain ⟨linkId, houtput⟩ := hplaced.output
      exact houtput.linkGraph hgraph

theorem Delivery.settled_of_staged (h : delivery.staged store next) :
    delivery.settled store next := by
  cases delivery with
  | image prepared =>
    obtain ⟨tool, htool, -, hgallery⟩ := h.inGallery
    exact ⟨tool, htool, hgallery⟩
  | canvas prepared =>
    obtain ⟨target, honcanvas, hnext⟩ := h
    exact ⟨target, honcanvas.settled hnext⟩
  | video prepared => exact ⟨h.entry, h.accepted.path⟩

/-- A staged delivery can be staged, and is staged again without any change. -/
theorem StagingRequest.again (fileStem : String → Option String) (request : StagingRequest)
    (h : request.delivery.staged store next) :
    request.delivery.accepted next ∧
      request.stage fileStem next = (.ok request.delivery.outputId, next) := by
  obtain ⟨delivery, time, loadingNodeId, linkId⟩ := request
  cases delivery with
  | image prepared =>
    obtain ⟨haccepted, hagain⟩ := Staged.again h
    exact ⟨haccepted, hagain fileStem time⟩
  | canvas prepared =>
    obtain ⟨target, honcanvas, -⟩ := h
    exact ⟨⟨target, true, onCanvas_iff.2 honcanvas⟩, honcanvas.again time loadingNodeId linkId⟩
  | video prepared => exact ⟨h.accepted, VideoStaged.again h time⟩

/-- The links of every workspace lead from notes to notes of that workspace. -/
def LinksInside (store : Store Retained) : Prop :=
  ∀ id, LinksJoin (store.canvas id).1 (store.canvas id).2

/-- What is refused changes nothing, and could not be staged but for room if no link is astray. -/
theorem StagingRequest.stage_cases (fileStem : String → Option String) (request : StagingRequest)
    (store : Store Retained) :
    (∃ error, request.stage fileStem store = (.error error, store) ∧ (LinksInside store →
      request.delivery.accepted store → error = .refused "Canvas capacity reached")) ∨
    (request.stage fileStem store).1 = .ok request.delivery.outputId ∧
      request.delivery.accepted store ∧
      request.delivery.staged store (request.stage fileStem store).2 := by
  obtain ⟨delivery, time, loadingNodeId, linkId⟩ := request
  cases delivery with
  | image prepared =>
    rcases stageNamespaceDelivery_cases fileStem prepared time store with
      ⟨hnot, error, heq⟩ | ⟨haccepted, hok, hstaged⟩
    · exact .inl ⟨error, heq, fun _ haccepted => absurd haccepted hnot⟩
    · exact .inr ⟨hok, haccepted, hstaged⟩
  | canvas prepared =>
    rcases stageCanvasNamespaceDelivery_cases store prepared time loadingNodeId linkId with
      ⟨message, heq, hreason⟩ | ⟨hok, haccepted, hstaged⟩
    · left
      refine ⟨.refused message, heq, fun hinside haccepted => ?_⟩
      rcases hreason haccepted with rfl | ⟨target, hready, hfresh, hstray⟩
      · rfl
      · rw [Canvas.connectionAllowed_of_fresh (hinside target) (source_mem hready.target) hfresh]
          at hstray
        cases hstray
    · exact .inr ⟨hok, haccepted, hstaged⟩
  | video prepared =>
    rcases stageVideoDelivery_cases store prepared time with
      ⟨hnot, error, heq⟩ | ⟨haccepted, hok, hstaged⟩
    · exact .inl ⟨error, heq, fun _ haccepted => absurd haccepted hnot⟩
    · exact .inr ⟨hok, haccepted, hstaged⟩

theorem LinksInside.kept (h : LinksInside store) (hstaged : delivery.staged store next) :
    LinksInside next := by
  cases delivery with
  | image prepared =>
    intro id
    rw [canvas_of_others hstaged.others]
    exact h id
  | canvas prepared =>
    obtain ⟨target, -, rfl | hplaced⟩ := hstaged
    · exact h
    · intro id
      by_cases hid : id = target
      · obtain ⟨linkId, houtput⟩ := hplaced.output
        rw [hid]
        exact houtput.linksJoin (source_mem hplaced.ready.target) (h target)
      · rw [hplaced.elsewhere id hid]
        exact h id
  | video prepared =>
    intro id
    rw [hstaged.canvas]
    exact h id

/-- The identifiers and paths of assets and videos. -/
def outputs (store : Store Retained) : Set (String × String) :=
  {output | (∃ asset ∈ store.assets, (asset.id, asset.sourcePath) = output) ∨
    ∃ (key : String) (video : SavedVideoOutput),
      store.others.videoOutputs[key]? = some video ∧ (key, video.sourcePath) = output}

def Delivery.output (delivery : Delivery) : String × String :=
  (delivery.outputId, delivery.proof.sourcePath)

theorem output_mem (h : delivery.staged store next) : delivery.output ∈ outputs next := by
  have hasset : ∀ {id path : String} {asset : AssetData},
      next.assets.filter (·.id = id) = [asset] → asset.sourcePath = path →
        (id, path) ∈ outputs next := by
    rintro id path asset hfound rfl
    have hmem : asset ∈ next.assets.filter (·.id = id) := by simp [hfound]
    obtain ⟨hmem, hid⟩ := List.mem_filter.1 hmem
    exact .inl ⟨asset, hmem, by rw [of_decide_eq_true hid]⟩
  cases delivery with
  | image prepared =>
    obtain ⟨tool, -, -, hgallery⟩ := h.inGallery
    obtain ⟨asset, hfound, hpath, -⟩ := hgallery.asset
    exact hasset hfound hpath
  | canvas prepared =>
    obtain ⟨target, honcanvas, -⟩ := h
    obtain ⟨asset, hfound, hstaged⟩ := honcanvas.asset
    exact hasset hfound hstaged.path
  | video prepared =>
    obtain ⟨video, hvideo, hpath⟩ := h.entry
    exact .inr ⟨_, video, hvideo, Prod.ext rfl hpath⟩

theorem outputs_of_staged (h : delivery.staged store next) :
    outputs next = insert delivery.output (outputs store) := by
  by_cases hnew : next = store
  · rw [← hnew, Set.insert_eq_of_mem (output_mem h)]
  by_cases hasset : delivery.isAsset = true
  · obtain ⟨-, asset, hassets, hid, hpath⟩ := (Delivery.asset_of_staged h hasset).resolve_left hnew
    have hvideos := Delivery.videos_of_staged h hasset
    have houtput : (asset.id, asset.sourcePath) = delivery.output := Prod.ext hid hpath
    ext output
    rw [Set.mem_insert_iff, eq_comm]
    simp only [outputs, hassets, hvideos, Set.mem_ofPred_eq, List.mem_cons, exists_eq_or_imp, houtput,
      or_assoc]
  · cases delivery with
    | image prepared => exact absurd rfl hasset
    | canvas prepared => exact absurd rfl hasset
    | video prepared =>
      have hassets : next.assets = store.assets := VideoStaged.assets h
      have habsent : store.others.videoOutputs[videoKey prepared]? = none := by
        by_contra hentry
        exact hnew (VideoStaged.kept h hentry)
      ext output
      constructor
      · rintro (⟨asset, hmem, rfl⟩ | ⟨key, video, hvideo, rfl⟩)
        · exact .inr (.inl ⟨asset, hassets ▸ hmem, rfl⟩)
        · by_cases hkey : key = videoKey prepared
          · obtain ⟨found, hfound, hpath⟩ := VideoStaged.entry h
            rw [hkey, hfound] at hvideo
            cases hvideo
            exact .inl (Prod.ext hkey hpath)
          · exact .inr (.inr ⟨key, video, (VideoStaged.elsewhere h key hkey).symm.trans hvideo, rfl⟩)
      · rintro (rfl | ⟨asset, hmem, rfl⟩ | ⟨key, video, hvideo, rfl⟩)
        · exact output_mem h
        · exact .inl ⟨asset, hassets.symm ▸ hmem, rfl⟩
        · have hkey : key ≠ videoKey prepared := by
            rintro rfl
            rw [habsent] at hvideo
            cases hvideo
          exact .inr ⟨key, video, (VideoStaged.elsewhere h key hkey).trans hvideo, rfl⟩

theorem staging_independent (fileStem : String → Option String) {deliveries : Set Delivery}
    (hapart : deliveries.Pairwise Delivery.Apart) :
    Independent (StagingRequest.stage fileStem) StagingRequest.delivery deliveries
      (fun error => error = .refused "Canvas capacity reached") LinksInside
      (fun store delivery => delivery.accepted store) Delivery.outputId outputs Delivery.output := by
  constructor
  · intro request store error hinside hmem herror
    rcases request.stage_cases fileStem store with ⟨error', heq, hreason⟩ | ⟨hok, -, -⟩
    · rw [heq] at herror ⊢
      cases herror
      exact ⟨rfl, hreason hinside⟩
    · rw [hok] at herror
      cases herror
  · intro request store value hinside hmem hvalue
    rcases request.stage_cases fileStem store with ⟨error, heq, -⟩ | ⟨hok, haccepted, hstaged⟩
    · rw [heq] at hvalue
      cases hvalue
    · rw [hok] at hvalue
      cases hvalue
      refine ⟨rfl, haccepted, hinside.kept hstaged, outputs_of_staged hstaged, fun other hother => ?_⟩
      by_cases hsame : request.delivery = other
      · rw [← hsame]
        exact iff_of_true (request.again fileStem hstaged).1 haccepted
      · exact Delivery.accepted_iff hstaged haccepted (hapart hmem hother hsame)
          (hapart hother hmem (Ne.symm hsame))

/-- A run that stages deliveries of a set and never finds a canvas full. -/
abbrev Timely (fileStem : String → Option String) (deliveries : Set Delivery)
    (requests : List StagingRequest) (store : Store Retained) : Prop :=
  Undelayed (StagingRequest.stage fileStem) StagingRequest.delivery deliveries
    (fun error => error = .refused "Canvas capacity reached") requests store

/-- What is refused changes nothing. What is staged is in the store once, where it belongs, and is
staged again without any change. Deliveries that are apart may be staged in any order, and more than
once: the same ones are staged, and the same outputs are left. -/
theorem staging_in_any_order (fileStem : String → Option String) :
    (∀ (request : StagingRequest) (store : Store Retained),
      (∃ error, request.stage fileStem store = (.error error, store)) ∨
      (request.stage fileStem store).1 = .ok request.delivery.outputId ∧
        request.delivery.settled store (request.stage fileStem store).2 ∧
        ∀ again : StagingRequest, again.delivery = request.delivery →
          again.stage fileStem (request.stage fileStem store).2 =
            (.ok request.delivery.outputId, (request.stage fileStem store).2)) ∧
    ∀ (deliveries : Set Delivery) (requests others : List StagingRequest) (store : Store Retained),
      deliveries.Pairwise Delivery.Apart → LinksInside store →
      Timely fileStem deliveries requests store → Timely fileStem deliveries others store →
      (∀ delivery, (∃ request ∈ requests, request.delivery = delivery) ↔
        ∃ other ∈ others, other.delivery = delivery) →
      (∀ request result other result',
        (request, result) ∈ (submit (StagingRequest.stage fileStem) requests store).1 →
        (other, result') ∈ (submit (StagingRequest.stage fileStem) others store).1 →
          request.delivery = other.delivery → ∀ id, result = .ok id ↔ result' = .ok id) ∧
      outputs (submit (StagingRequest.stage fileStem) requests store).2 =
        outputs (submit (StagingRequest.stage fileStem) others store).2 := by
  constructor
  · intro request store
    rcases request.stage_cases fileStem store with ⟨error, heq, -⟩ | ⟨hok, -, hstaged⟩
    · exact .inl ⟨error, heq⟩
    · right
      refine ⟨hok, Delivery.settled_of_staged hstaged, fun again hagain => ?_⟩
      rw [← hagain] at hstaged ⊢
      exact (again.again fileStem hstaged).2
  · intro deliveries requests others store hapart hinside hrequests hothers hsame
    exact (staging_independent fileStem hapart).order_free hinside hrequests hothers hsame

section Orders

def deliveredFile (clientRequestId taskType canvasSourceNodeId fileId : String)
    (failedAssetId : Option String) (h : canonicalUuid fileId = true) :
    PreparedNamespaceDelivery where
  record := {
    clientRequestId := clientRequestId
    ownerUserId := "0a000000-0000-0000-0000-000000000001"
    billingAccountGroupId := "0b000000-0000-0000-0000-000000000002"
    authEpoch := 1
    localTaskId := "local"
    rawPrompt := "a tree"
    generationPrompt := "a tree"
    taskType := taskType
    category := "image"
    mode := "text"
    ratio := "1:1"
    quality := "2K"
    modelCode := "model"
    conversationId := "conversation"
    count := 1
    createConversation := false
    canvasSourceNodeId := canvasSourceNodeId }
  confirmation := {
    clientRequestId := clientRequestId
    itemIndex := 0
    taskId := "task"
    fileId := fileId
    sha256 := "sum"
    sizeBytes := 1
    failedAssetId := failedAssetId }
  sourcePath := "/files/" ++ fileId ++ ".png"
  canonical := h
  named := ⟨"/files/", ".png", rfl⟩
  dimensions := (64, 64)

def firstFile (taskType source : String) (failed : Option String) : PreparedNamespaceDelivery :=
  deliveredFile "first" taskType source "0c000000-0000-0000-0000-000000000001" failed (by decide)

def secondFile (taskType source : String) (failed : Option String) : PreparedNamespaceDelivery :=
  deliveredFile "second" taskType source "0c000000-0000-0000-0000-000000000002" failed (by decide)

def stagedNow (delivery : Delivery) : StagingRequest := ⟨delivery, "now", "", "link"⟩

def failedCard (prepared : PreparedNamespaceDelivery) : AssetData :=
  { canvasAsset prepared "now" with
    id := "card"
    category := "image"
    sourcePath := "failed"
    deliveryRecoverable := true }

def storeOf (cards : List AssetData) (sources : List String) (links : List (String × String)) :
    Store Retained where
  assets := []
  generations := cards
  notifications := []
  dismissedPromptHistory := ∅
  others := {
    canvasNotes := sources.map fun id => { id := id, content := "", x := 0, y := 0 }
    canvasLinks := links.map fun link => ⟨link.1 ++ link.2, link.1, link.2, false⟩ }

/-- Which requests of a run are answered. -/
def answered (deliveries : List Delivery) (store : Store Retained) : List Bool :=
  (submit (StagingRequest.stage fun _ => none) (deliveries.map stagedNow) store).1.map (·.2.isOk)

/-- The order matters to deliveries for one failed card, to an output that is made from another
one, and to outputs whose links would close a cycle with links that are there already. -/
theorem staging_order_matters :
    (let first := Delivery.image (firstFile "image_generation" "" (some "card"))
     let second := Delivery.image (secondFile "image_generation" "" (some "card"))
     let store := storeOf [failedCard (firstFile "image_generation" "" (some "card"))] [] []
     answered [first, second] store = [true, false] ∧
       answered [second, first] store = [true, false]) ∧
    (let first := Delivery.canvas (firstFile "image_generation" "source" none)
     let second := Delivery.canvas (secondFile "image_generation" "delivery-first-0" none)
     let store := storeOf [] ["source"] []
     answered [first, second] store = [true, true] ∧
       answered [second, first] store = [false, true]) ∧
    (let first := Delivery.canvas (firstFile "image_generation" "a" none)
     let second := Delivery.canvas (secondFile "image_generation" "b" none)
     let store := storeOf [] ["a", "b"] [("delivery-first-0", "b"), ("delivery-second-0", "a")]
     answered [first, second] store = [true, false] ∧
       answered [second, first] store = [true, false]) := by
  decide +kernel

theorem timely_of_answered {deliveries : Set Delivery} (run : List Delivery) (store : Store Retained)
    (hrun : ∀ delivery ∈ run, delivery ∈ deliveries) (hall : (answered run store).all id = true) :
    Timely (fun _ => none) deliveries (run.map stagedNow) store := by
  constructor
  · intro request hrequest
    obtain ⟨delivery, hdelivery, rfl⟩ := List.mem_map.1 hrequest
    exact hrun delivery hdelivery
  · intro request error hmem
    simp only [answered, List.all_map, List.all_eq_true] at hall
    cases hall _ hmem

def imageRequest : StagingRequest := stagedNow (.image (firstFile "image_generation" "" none))

def canvasRequest : StagingRequest :=
  stagedNow (.canvas (secondFile "image_generation" "source" none))

theorem staging_in_any_order_twice :
    outputs (submit (StagingRequest.stage fun _ => none) [imageRequest, canvasRequest, imageRequest]
        (storeOf [] ["source"] [])).2 =
      outputs (submit (StagingRequest.stage fun _ => none) [canvasRequest, imageRequest]
        (storeOf [] ["source"] [])).2 := by
  have hapart : Set.Pairwise {imageRequest.delivery, canvasRequest.delivery} Delivery.Apart := by
    rw [Set.pairwise_pair]
    intro _
    constructor
    · refine ⟨by decide, by decide, .inl (by decide), ?_, ?_⟩
      · intro id hid
        cases hid
      · intro prepared output himage
        cases himage
    · refine ⟨by decide, by decide, .inl (by decide), ?_, ?_⟩
      · intro id hid
        cases hid
      · intro prepared output hcanvas himage
        cases himage
  have hinside : LinksInside (storeOf [] ["source"] []) := by
    intro id link hlink
    have hnone : ((storeOf [] ["source"] []).canvas id).2 = [] := by
      simp [storeOf, Store.canvas, Store.canvasStore, Canvas.Store.canvas, apply_ite Prod.snd]
    rw [hnone] at hlink
    cases hlink
  refine ((staging_in_any_order fun _ => none).2 {imageRequest.delivery, canvasRequest.delivery}
    [imageRequest, canvasRequest, imageRequest] [canvasRequest, imageRequest] _ hapart hinside
    ?_ ?_ ?_).2
  · exact timely_of_answered [imageRequest.delivery, canvasRequest.delivery, imageRequest.delivery] _
      (by simp) (by decide +kernel)
  · exact timely_of_answered [canvasRequest.delivery, imageRequest.delivery] _ (by simp)
      (by decide +kernel)
  · intro delivery
    simp only [List.mem_cons, List.not_mem_nil, or_false, exists_eq_or_imp, exists_eq_left]
    tauto

end Orders

end ArtForgeStudio.Deliveries
