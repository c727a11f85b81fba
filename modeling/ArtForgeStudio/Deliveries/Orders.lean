import ArtForgeStudio.Deliveries.Outputs
import ArtForgeStudio.Library.Submissions

/-! # The order of deliveries

Deliveries of different files, paths and items do not stand in each other's way, unless they are for
one failed card, or one is for a canvas note that another one makes. So they may be staged in any
order and repeated.
-/

namespace ArtForgeStudio.Deliveries

open ArtForgeStudio.Api ArtForgeStudio.Codecs ArtForgeStudio.LocalStore ArtForgeStudio.Outcome
  ArtForgeStudio.Recovery ArtForgeStudio.Submissions
open ArtForgeStudio.Canvas (Placement LinkGraph LinksJoin deliveryTarget deliveryNodeId)

inductive Delivery where
  | image (prepared : PreparedNamespaceDelivery)
  | canvas (prepared : PreparedNamespaceDelivery)
  | video (prepared : PreparedNamespaceVideoDelivery)

namespace Delivery

def proof : Delivery → NamespaceDeliveryProof
  | image prepared => prepared.toNamespaceDeliveryProof
  | canvas prepared => prepared.toNamespaceDeliveryProof
  | video prepared => prepared.toNamespaceDeliveryProof

/-- The identifier of what is put out, as staging returns it. -/
def outputId : Delivery → String
  | image prepared => prepared.assetId
  | canvas prepared => prepared.confirmation.fileId
  | video prepared => videoKey prepared

def accepted (store : Store Retained) : Delivery → Prop
  | image prepared => Accepted store prepared
  | canvas prepared => AcceptedOnCanvas store prepared
  | video prepared => AcceptedVideo store prepared

/-- Different files, paths, items and failed cards, and no note that the other one makes. -/
structure Apart (delivery other : Delivery) : Prop where
  file : delivery.proof.confirmation.fileId ≠ other.proof.confirmation.fileId
  path : delivery.proof.sourcePath ≠ other.proof.sourcePath
  item : delivery.proof.record.clientRequestId ≠ other.proof.record.clientRequestId ∨
    delivery.proof.confirmation.itemIndex ≠ other.proof.confirmation.itemIndex
  card : ∀ id, delivery.proof.confirmation.failedAssetId = some id →
    other.proof.confirmation.failedAssetId ≠ some id
  source : ∀ prepared output, delivery = canvas prepared → other = canvas output →
    prepared.record.canvasSourceNodeId ≠ outputNodeId output

end Delivery

/-- A delivery as it is staged: the time, the note that waits for a result, and the identifier of a
new link. -/
structure StagingRequest where
  delivery : Delivery
  time : String
  loadingNodeId : String
  linkId : String

def StagingRequest.stage (fileStem : String → Option String) (request : StagingRequest)
    (store : Store Retained) : Except StagingError String × Store Retained :=
  match request.delivery with
  | .image prepared => stageNamespaceDelivery fileStem prepared request.time store
  | .canvas prepared =>
    stageCanvasNamespaceDelivery store prepared request.time request.loadingNodeId request.linkId
  | .video prepared => stageVideoDelivery store prepared request.time

theorem last_separator {A : Type} {separator : A} {first rest other others : List A}
    (h : first ++ separator :: rest = other ++ separator :: others) (hrest : separator ∉ rest)
    (hothers : separator ∉ others) : first = other ∧ rest = others := by
  rcases List.append_eq_append_iff.1 h with ⟨middle, hother, heq⟩ | ⟨middle, hfirst, heq⟩
  · cases middle with
    | nil => exact ⟨by simpa using hother.symm, (List.cons.inj heq).2⟩
    | cons c middle =>
      obtain ⟨rfl, rfl⟩ := List.cons.inj heq
      exact absurd (by simp) hrest
  · cases middle with
    | nil => exact ⟨by simpa using hfirst, (List.cons.inj heq).2.symm⟩
    | cons c middle =>
      obtain ⟨rfl, rfl⟩ := List.cons.inj heq
      exact absurd (by simp) hothers

theorem colon_not_mem {value : String} (h : canonicalUuid value = true) : ':' ∉ value.toList := by
  intro hc
  rcases char_of_canonicalUuid h hc with heq | hhex
  · exact absurd heq (by decide)
  · exact absurd hhex (by decide)

/-- A key names its file after its last colon. -/
theorem fileId_of_videoKey {prepared other : PreparedNamespaceVideoDelivery}
    (h : videoKey prepared = videoKey other) :
    prepared.confirmation.fileId = other.confirmation.fileId := by
  have hchars := congrArg String.toList h
  simp only [videoKey, String.toList_append, List.append_assoc] at hchars
  have hkeys := last_separator hchars (colon_not_mem prepared.canonical)
    (colon_not_mem other.canonical)
  exact String.toList_injective hkeys.2

theorem hyphen_not_mem (n : Nat) : '-' ∉ (toString n).toList := by
  rw [Nat.toString_eq_repr, Nat.toList_repr]
  intro hc
  have hdigit := Nat.isDigit_of_mem_toDigits (by decide) (by decide) hc
  cases hdigit

theorem decimal_injective {n m : Nat} (h : (toString n).toList = (toString m).toList) : n = m := by
  simp only [Nat.toString_eq_repr, Nat.toList_repr] at h
  have hvalue := congrArg (fun digits => Nat.ofDigitChars 10 digits 0) h
  simpa using hvalue

/-- A note names its item after its last hyphen. -/
theorem item_of_outputNodeId {prepared other : PreparedNamespaceDelivery}
    (h : outputNodeId prepared = outputNodeId other) :
    prepared.record.clientRequestId = other.record.clientRequestId ∧
      prepared.confirmation.itemIndex = other.confirmation.itemIndex := by
  have hchars := congrArg String.toList h
  simp only [outputNodeId, deliveryNodeId, PreparedNamespaceDelivery.onCanvas,
    String.toList_append] at hchars
  have hsplit : prepared.record.clientRequestId.toList ++
        '-' :: (toString prepared.confirmation.itemIndex).toList =
      other.record.clientRequestId.toList ++
        '-' :: (toString other.confirmation.itemIndex).toList := by
    simpa using hchars
  obtain ⟨hrequest, hindex⟩ := last_separator hsplit (hyphen_not_mem _) (hyphen_not_mem _)
  constructor
  · exact String.toList_injective hrequest
  · exact decimal_injective hindex

theorem forall_of_filter_eq {A : Type} {items others : List A} {q : A → Bool}
    (h : items.filter q = others.filter q) :
    (∀ item ∈ items, q item = false) ↔ ∀ item ∈ others, q item = false := by
  simp only [← Bool.not_eq_true, ← List.filter_eq_nil_iff, h]

/-- The store says the same of an item, of its path and of its notification. -/
structure SameItem {Others : Type} (id path notification : String) (store next : Store Others) :
    Prop where
  assets : next.assets.filter (·.id = id) = store.assets.filter (·.id = id)
  generations : next.generations.filter (·.id = id) = store.generations.filter (·.id = id)
  notifications : next.notifications.filter (·.id = notification) =
    store.notifications.filter (·.id = notification)
  assetPaths : next.assets.filter (·.sourcePath = path) = store.assets.filter (·.sourcePath = path)
  cardPaths : next.generations.filter (·.sourcePath = path) =
    store.generations.filter (·.sourcePath = path)

section Views

variable {Others : Type} {id path notification otherId otherPath otherNotification : String}
  {prepared other : PreparedNamespaceDelivery} {target : String}

theorem Beside.sameItem {store next : Store Others} (h : Beside id path notification store next)
    (hid : id ≠ otherId) (hpath : path ≠ otherPath) (hwaits : otherPath ≠ "failed")
    (hnotification : notification ≠ otherNotification) :
    SameItem otherId otherPath otherNotification store next where
  assets := by
    apply h.assets
    intro item hitem hfile
    simp [hitem, hid]
  generations := by
    apply h.generations
    intro item hitem hfile
    simp [hitem, hid]
  notifications := by
    apply h.notifications
    intro item hitem
    simp [hitem, hnotification]
  assetPaths := by
    apply h.assets
    intro item hitem hfile
    simp [hfile, hpath]
  cardPaths := by
    apply h.generations
    rintro item hitem (hfile | hfile)
    · simp [hfile, hpath]
    · simp [hfile, Ne.symm hwaits]

theorem mem_of_filter_eq {A : Type} {items others : List A} {p : A → Prop} [DecidablePred p]
    (h : items.filter (fun item => p item) = others.filter fun item => p item) (item : A) :
    (item ∈ items ∧ p item) ↔ item ∈ others ∧ p item := by
  simpa using congrArg (item ∈ ·) h

theorem SameItem.paths {store next : Store Others} (h : SameItem id path notification store next) :
    (∀ item ∈ next.assets ++ next.generations, item.sourcePath = path → item.id = id) ↔
      ∀ item ∈ store.assets ++ store.generations, item.sourcePath = path → item.id = id := by
  simp only [List.mem_append, ← and_imp, or_and_right, mem_of_filter_eq h.assetPaths,
    mem_of_filter_eq h.cardPaths]

theorem accepted_congr {store next : Store Others}
    (h : SameItem prepared.assetId prepared.sourcePath prepared.notificationId store next) :
    Accepted next prepared ↔ Accepted store prepared := by
  unfold Accepted
  simp only [checkNamespaceDelivery_eq_ok, h.paths, h.assets, h.generations, h.notifications]

/-- The canvases say the same of the source and of the output of a delivery. -/
structure SameCanvas (prepared : PreparedNamespaceDelivery) (store next : Store Retained) : Prop where
  target : ∀ target,
    deliveryTarget next.canvasStore prepared.record.canvasSourceNodeId = .ok target ↔
      deliveryTarget store.canvasStore prepared.record.canvasSourceNodeId = .ok target
  output : ∀ id, (next.canvas id).1.filter (isOutput prepared) =
    (store.canvas id).1.filter (isOutput prepared)
  fresh : ∀ id, (next.canvas id).1.filter (fun note =>
      note.id = outputNodeId prepared || note.imagePath = prepared.sourcePath) =
    (store.canvas id).1.filter fun note =>
      note.id = outputNodeId prepared || note.imagePath = prepared.sourcePath
  links : ∀ id, (next.canvas id).2.filter (·.targetId = outputNodeId prepared) =
    (store.canvas id).2.filter (·.targetId = outputNodeId prepared)

variable {store next : Store Retained}

theorem canvas_of_others (h : next.others = store.others) (id : String) :
    next.canvas id = store.canvas id := by
  cases store
  cases next
  cases h
  rfl

theorem SameCanvas.of_canvas (h : ∀ id, next.canvas id = store.canvas id) :
    SameCanvas prepared store next where
  target := by simp only [target_iff, h, implies_true]
  output := by simp only [h, implies_true]
  fresh := by simp only [h, implies_true]
  links := by simp only [h, implies_true]

/-- The output of a delivery is neither the source nor the output of another one. -/
theorem Placed.sameCanvas (h : Placed store next prepared target)
    (hnode : outputNodeId prepared ≠ outputNodeId other)
    (hpath : prepared.sourcePath ≠ other.sourcePath)
    (hsource : prepared.record.canvasSourceNodeId ≠ outputNodeId other)
    (hother : other.record.canvasSourceNodeId ≠ outputNodeId prepared) :
    SameCanvas other store next := by
  have htext : ∀ note : CanvasNoteData, note.imagePath = prepared.sourcePath ∨
      trimIsEmpty note.imagePath = true → note.imagePath ≠ other.sourcePath := by
    rintro note (hfile | hblank) heq
    · exact hpath (hfile.symm.trans heq)
    · rw [heq, other.path_text] at hblank
      cases hblank
  obtain ⟨linkId, hplaced⟩ := h.output
  refine ⟨fun target => h.target_iff hother target, ?_, ?_, ?_⟩
  · intro id
    by_cases hid : id = target
    · rw [hid]
      apply hplaced.filter_notes
      intro note hnote hfile
      simp [isOutput, htext note hfile]
    · rw [h.elsewhere id hid]
  · intro id
    by_cases hid : id = target
    · rw [hid]
      apply hplaced.filter_notes
      rintro note (hnote | hnote) hfile
      · simp [hnote, hsource, htext note hfile]
      · simp [hnote, hnode, htext note hfile]
    · rw [h.elsewhere id hid]
  · intro id
    by_cases hid : id = target
    · rw [hid]
      apply hplaced.filter_links
      intro link hlink
      simp [hlink, hnode]
    · rw [h.elsewhere id hid]

theorem canvasReady_congr
    (h : SameItem prepared.confirmation.fileId prepared.sourcePath notification store next)
    (hcanvas : SameCanvas prepared store next) :
    CanvasReady next prepared target ↔ CanvasReady store prepared target := by
  have hcards : (∀ item ∈ next.generations,
        item.id ≠ prepared.confirmation.fileId ∧ item.sourcePath ≠ prepared.sourcePath) ↔
      ∀ item ∈ store.generations,
        item.id ≠ prepared.confirmation.fileId ∧ item.sourcePath ≠ prepared.sourcePath := by
    have hids := forall_of_filter_eq h.generations
    have hpaths := forall_of_filter_eq h.cardPaths
    simp only [decide_eq_false_iff_not] at hids hpaths
    simp only [forall_and, hids, hpaths]
  have hassets : (∀ item ∈ next.assets, item.sourcePath = prepared.sourcePath →
        item.id = prepared.confirmation.fileId) ↔
      ∀ item ∈ store.assets, item.sourcePath = prepared.sourcePath →
        item.id = prepared.confirmation.fileId := by
    simp only [← and_imp, mem_of_filter_eq h.assetPaths]
  constructor
  · rintro ⟨htask, hnamed, hfailed, htarget, hcard, hpath, hone⟩
    exact ⟨htask, hnamed, hfailed, (hcanvas.target target).1 htarget, hcards.1 hcard,
      hassets.1 hpath, h.assets ▸ hone⟩
  · rintro ⟨htask, hnamed, hfailed, htarget, hcard, hpath, hone⟩
    exact ⟨htask, hnamed, hfailed, (hcanvas.target target).2 htarget, hcards.2 hcard,
      hassets.2 hpath, h.assets.symm ▸ hone⟩

theorem canvasStep_congr (h : SameCanvas prepared store next) (assets : List AssetData)
    (staged : Bool) :
    canvasStep prepared assets (next.canvas target).1 (next.canvas target).2 = .ok staged ↔
      canvasStep prepared assets (store.canvas target).1 (store.canvas target).2 = .ok staged := by
  cases staged with
  | true =>
    have hlink : ∀ links : List CanvasLinkData, (links.any fun link =>
          link.sourceId = prepared.record.canvasSourceNodeId &&
            link.targetId = outputNodeId prepared) =
        (links.filter (·.targetId = outputNodeId prepared)).any
          (·.sourceId = prepared.record.canvasSourceNodeId) := by
      intro links
      simp [List.any_filter, Bool.and_comm]
    simp only [canvasStep_true, OutputOnce, h.output, hlink, h.links]
  | false =>
    have hfresh := forall_of_filter_eq (h.fresh target)
    simp only [Bool.or_eq_false_iff, decide_eq_false_iff_not] at hfresh
    simp only [canvasStep_false, ne_eq, hfresh]

theorem acceptedOnCanvas_congr
    (h : SameItem prepared.confirmation.fileId prepared.sourcePath notification store next)
    (hcanvas : SameCanvas prepared store next) :
    AcceptedOnCanvas next prepared ↔ AcceptedOnCanvas store prepared := by
  unfold AcceptedOnCanvas
  simp only [checkCanvasNamespaceDelivery_eq_ok, canvasReady_congr h hcanvas, h.assets,
    canvasStep_congr hcanvas]

end Views

/-- The store has the asset of an item with its path; else it has a card just if one failed. -/
structure Consistent {Others : Type} (id path : String) (failed : Option String)
    (store : Store Others) : Prop where
  path : ∀ asset ∈ store.assets, asset.id = id → asset.sourcePath = path
  card : (∀ asset ∈ store.assets, asset.id ≠ id) →
    (failed = none ↔ ∀ card ∈ store.generations, card.id ≠ id)

theorem filter_id_eq_nil {items : List AssetData} {id : String} :
    items.filter (·.id = id) = [] ↔ ∀ item ∈ items, item.id ≠ id := by
  simp [List.filter_eq_nil_iff]

theorem mem_of_filter_id {items : List AssetData} {id : String} {asset item : AssetData}
    (h : items.filter (·.id = id) = [asset]) (hmem : item ∈ items) (hid : item.id = id) :
    item = asset := by
  have hfound : item ∈ items.filter (·.id = id) := List.mem_filter.2 ⟨hmem, decide_eq_true hid⟩
  simpa [h] using hfound

theorem Accepted.consistent {Others : Type} {store : Store Others}
    {prepared : PreparedNamespaceDelivery} (h : Accepted store prepared) :
    Consistent prepared.assetId prepared.sourcePath prepared.confirmation.failedAssetId store := by
  obtain ⟨tool, step, hcheck, -⟩ := h
  obtain ⟨-, -, ⟨-, hcards⟩, -, hstep⟩ := checkNamespaceDelivery_eq_ok.1 hcheck
  by_cases hstaged : step = .staged
  · subst hstaged
    obtain ⟨found, hfound, hpath, -⟩ := (InGallery.of_check hcheck).asset
    constructor
    · intro asset hasset hid
      rw [mem_of_filter_id hfound hasset hid]
      exact hpath
    · intro hnone
      rw [filter_id_eq_nil.2 hnone] at hfound
      cases hfound
  · obtain ⟨hassets, -, hcases⟩ := galleryStep_fresh hstep hcards hstaged
    constructor
    · intro asset hasset hid
      exact absurd hid (filter_id_eq_nil.1 hassets asset hasset)
    · intro hnone
      rw [← filter_id_eq_nil]
      rcases hcases with ⟨hfailed, hgenerations, -⟩ | ⟨failed, hfailed, hgenerations, -, -⟩
      · simp [hfailed, hgenerations]
      · simp [hfailed, hgenerations]

theorem AcceptedOnCanvas.consistent {store : Store Retained} {prepared : PreparedNamespaceDelivery}
    (h : AcceptedOnCanvas store prepared) : Consistent prepared.confirmation.fileId
      prepared.sourcePath prepared.confirmation.failedAssetId store := by
  obtain ⟨target, staged, hcheck⟩ := h
  obtain ⟨hready, hstep⟩ := checkCanvasNamespaceDelivery_eq_ok.1 hcheck
  constructor
  · intro asset hasset hid
    cases staged with
    | true =>
      obtain ⟨found, hfound, hstaged⟩ := (onCanvas_iff.1 hcheck).asset
      rw [mem_of_filter_id hfound hasset hid]
      exact hstaged.path
    | false => exact absurd hid (filter_id_eq_nil.1 (canvasStep_false.1 hstep).1 asset hasset)
  · intro hnone
    simp only [hready.noFailedCard, true_iff]
    exact fun card hcard => (hready.noCard card hcard).1

namespace Delivery

variable {store next : Store Retained} {delivery other : Delivery}

/-- The delivery is put among the assets. -/
def isAsset : Delivery → Bool
  | image _ | canvas _ => true
  | video _ => false

/-- A delivery was staged: what is in the store then, and what was changed. -/
def staged (store next : Store Retained) : Delivery → Prop
  | image prepared => Staged store next prepared
  | canvas prepared =>
    ∃ target, OnCanvas next prepared target ∧ (next = store ∨ Placed store next prepared target)
  | video prepared => VideoStaged store next prepared

def notificationId (delivery : Delivery) : String := "delivery-" ++ delivery.proof.confirmation.fileId

theorem Apart.notification (h : Apart delivery other) :
    delivery.notificationId ≠ other.notificationId := by
  intro heq
  exact h.file ((String.append_right_inj _).1 heq)

theorem outputId_of_accepted (h : delivery.accepted store) (hasset : delivery.isAsset = true) :
    delivery.outputId = delivery.proof.confirmation.failedAssetId.getD
      delivery.proof.confirmation.fileId := by
  cases delivery with
  | image prepared => rfl
  | canvas prepared =>
    obtain ⟨target, found, hcheck⟩ := h
    have hfailed := (checkCanvasNamespaceDelivery_eq_ok.1 hcheck).1.noFailedCard
    simp [outputId, proof, hfailed]
  | video prepared => cases hasset

theorem consistent_of_accepted (h : delivery.accepted store) (hasset : delivery.isAsset = true) :
    Consistent delivery.outputId delivery.proof.sourcePath
      delivery.proof.confirmation.failedAssetId store := by
  cases delivery with
  | image prepared => exact Accepted.consistent h
  | canvas prepared => exact AcceptedOnCanvas.consistent h
  | video prepared => cases hasset

/-- A new asset has an identifier that no asset had. -/
theorem asset_of_staged (h : delivery.staged store next) (hasset : delivery.isAsset = true) :
    next = store ∨ (∀ asset ∈ store.assets, asset.id ≠ delivery.outputId) ∧ ∃ asset,
      next.assets = asset :: store.assets ∧ asset.id = delivery.outputId ∧
        asset.sourcePath = delivery.proof.sourcePath := by
  cases delivery with
  | image prepared =>
    rcases h.assets with heq | ⟨asset, hassets, hid, hpath⟩
    · exact .inl heq
    · right
      refine ⟨?_, asset, hassets, hid, hpath⟩
      obtain ⟨tool, -, -, hgallery⟩ := h.inGallery
      obtain ⟨found, hfound, -⟩ := hgallery.asset
      simp only [hassets, List.filter_cons, hid, decide_true, if_true] at hfound
      exact filter_id_eq_nil.1 (List.cons.inj hfound).2
  | canvas prepared =>
    obtain ⟨target, -, heq | hplaced⟩ := h
    · exact .inl heq
    · obtain ⟨asset, hassets, hid, hstaged⟩ := hplaced.asset
      exact .inr ⟨filter_id_eq_nil.1 hplaced.absent, asset, hassets, hid, hstaged.path⟩
  | video prepared => cases hasset

theorem beside_of_staged (h : delivery.staged store next) (hasset : delivery.isAsset = true) :
    Beside delivery.outputId delivery.proof.sourcePath delivery.notificationId store next := by
  cases delivery with
  | image prepared => exact h.beside
  | canvas prepared =>
    obtain ⟨target, -, rfl | hplaced⟩ := h
    · exact .refl _ _ _ _
    · obtain ⟨asset, hassets, hid, hstaged⟩ := hplaced.asset
      refine ⟨?_, ?_, ?_⟩
      · intro q hq
        rw [hassets]
        exact filter_cons_false (hq asset hid hstaged.path)
      · intro q _
        rw [hplaced.generations]
      · intro q _
        rw [hplaced.notifications]
  | video prepared => cases hasset

theorem videos_of_staged (h : delivery.staged store next) (hasset : delivery.isAsset = true) :
    next.others.videoOutputs = store.others.videoOutputs := by
  cases delivery with
  | image prepared => exact congrArg Retained.videoOutputs h.others
  | canvas prepared =>
    obtain ⟨target, -, rfl | hplaced⟩ := h
    · rfl
    · exact hplaced.videos
  | video prepared => cases hasset

theorem sameCanvas_of_staged {prepared : PreparedNamespaceDelivery}
    (h : delivery.staged store next) (hapart : Apart delivery (canvas prepared))
    (hother : Apart (canvas prepared) delivery) : SameCanvas prepared store next := by
  cases delivery with
  | image output =>
    apply SameCanvas.of_canvas
    exact canvas_of_others h.others
  | canvas output =>
    obtain ⟨target, -, rfl | hplaced⟩ := h
    · exact .of_canvas fun _ => rfl
    · apply hplaced.sameCanvas
      · intro heq
        obtain ⟨hrequest, hindex⟩ := item_of_outputNodeId heq
        rcases hapart.item with hne | hne
        · exact hne hrequest
        · exact hne hindex
      · exact hapart.path
      · exact hapart.source _ _ rfl rfl
      · exact hother.source _ _ rfl rfl
  | video output => exact .of_canvas h.canvas

/-- Two assets of one identifier cannot both be staged, in either order. -/
theorem refused_of_staged (h : delivery.staged store next) (haccepts : delivery.accepted store)
    (hapart : Apart delivery other) (hasset : delivery.isAsset = true)
    (hother : other.isAsset = true) (hid : delivery.outputId = other.outputId)
    (hnew : next ≠ store) : ¬other.accepted next ∧ ¬other.accepted store := by
  obtain ⟨habsent, asset, hassets, hsame, hpath⟩ := (asset_of_staged h hasset).resolve_left hnew
  constructor
  · intro haccepted
    have hfile := (consistent_of_accepted haccepted hother).path asset (by simp [hassets])
      (hsame.trans hid)
    exact hapart.path (hpath.symm.trans hfile)
  · intro haccepted
    have hcard := (consistent_of_accepted haccepts hasset).card habsent
    rw [hid] at habsent hcard
    have hothercard := (consistent_of_accepted haccepted hother).card habsent
    rw [outputId_of_accepted haccepts hasset, outputId_of_accepted haccepted hother] at hid
    cases hfailed : delivery.proof.confirmation.failedAssetId with
    | none =>
      have hnone := hothercard.2 (hcard.1 hfailed)
      rw [hfailed, hnone] at hid
      exact hapart.file hid
    | some id =>
      cases hwaits : other.proof.confirmation.failedAssetId with
      | none =>
        rw [hcard.2 (hothercard.1 hwaits)] at hfailed
        cases hfailed
      | some otherId =>
        rw [hfailed, hwaits] at hid
        exact hapart.card id hfailed (hwaits.trans (congrArg some hid.symm))

theorem sameItem_of_staged (h : delivery.staged store next) (hapart : Apart delivery other)
    (hid : delivery.isAsset = true → delivery.outputId ≠ other.outputId) :
    SameItem other.outputId other.proof.sourcePath other.notificationId store next := by
  by_cases hasset : delivery.isAsset = true
  · exact (beside_of_staged h hasset).sameItem (hid hasset) hapart.path other.proof.path_ne_failed
      hapart.notification
  · cases delivery with
    | image prepared => exact absurd rfl hasset
    | canvas prepared => exact absurd rfl hasset
    | video prepared =>
      have hassets : next.assets = store.assets := h.assets
      have hgenerations : next.generations = store.generations := h.generations
      have hnotifications : next.notifications = store.notifications := h.notifications
      constructor <;> simp only [hassets, hgenerations, hnotifications]

theorem acceptedVideo_congr {prepared output : PreparedNamespaceVideoDelivery}
    (h : VideoStaged store next output) (hapart : Apart (video output) (video prepared)) :
    AcceptedVideo next prepared ↔ AcceptedVideo store prepared := by
  have hkey : videoKey prepared ≠ videoKey output := by
    intro heq
    exact hapart.file (fileId_of_videoKey heq).symm
  by_cases hentry : store.others.videoOutputs[videoKey output]? = none
  · have hsame := h.elsewhere (videoKey prepared) hkey
    obtain ⟨found, hfound, hfile⟩ := h.entry
    constructor
    · rintro ⟨htask, hrequested, hfailed, hpath, hvideo⟩
      refine ⟨htask, hrequested, hfailed, fun key existing hexisting => ?_, hsame ▸ hvideo⟩
      by_cases hother : key = videoKey output
      · rw [hother, hentry] at hexisting
        cases hexisting
      · exact hpath key existing ((h.elsewhere key hother).trans hexisting)
    · rintro ⟨htask, hrequested, hfailed, hpath, hvideo⟩
      refine ⟨htask, hrequested, hfailed, fun key existing hexisting hsamePath => ?_,
        hsame.symm ▸ hvideo⟩
      by_cases hother : key = videoKey output
      · rw [hother, hfound] at hexisting
        cases hexisting
        exact absurd (hfile.symm.trans hsamePath) hapart.path
      · exact hpath key existing ((h.elsewhere key hother).symm.trans hexisting) hsamePath
  · rw [h.kept hentry]

theorem acceptedVideo_of_videos {prepared : PreparedNamespaceVideoDelivery}
    (h : next.others.videoOutputs = store.others.videoOutputs) :
    AcceptedVideo next prepared ↔ AcceptedVideo store prepared := by
  constructor
  · rintro ⟨htask, hrequested, hfailed, hpath, hvideo⟩
    exact ⟨htask, hrequested, hfailed, h ▸ hpath, h ▸ hvideo⟩
  · rintro ⟨htask, hrequested, hfailed, hpath, hvideo⟩
    exact ⟨htask, hrequested, hfailed, h ▸ hpath, h ▸ hvideo⟩

/-- Staging a delivery changes for no other whether it can be staged. -/
theorem accepted_iff (h : delivery.staged store next) (haccepts : delivery.accepted store)
    (hapart : Apart delivery other) (hother : Apart other delivery) :
    other.accepted next ↔ other.accepted store := by
  by_cases hnew : next = store
  · rw [hnew]
  by_cases hassets : delivery.isAsset = true ∧ other.isAsset = true
  · obtain ⟨hasset, hotherAsset⟩ := hassets
    by_cases hid : delivery.outputId = other.outputId
    · obtain ⟨hnext, hstore⟩ := refused_of_staged h haccepts hapart hasset hotherAsset hid hnew
      exact iff_of_false hnext hstore
    · have hsame := sameItem_of_staged h hapart fun _ => hid
      cases other with
      | image prepared => exact accepted_congr hsame
      | canvas prepared =>
        exact acceptedOnCanvas_congr hsame (sameCanvas_of_staged h hapart hother)
      | video prepared => cases hotherAsset
  · cases other with
    | video prepared =>
      cases delivery with
      | image output => exact acceptedVideo_of_videos (videos_of_staged h rfl)
      | canvas output => exact acceptedVideo_of_videos (videos_of_staged h rfl)
      | video output => exact acceptedVideo_congr h hapart
    | image prepared =>
      exact accepted_congr (sameItem_of_staged h hapart fun hasset => absurd ⟨hasset, rfl⟩ hassets)
    | canvas prepared =>
      exact acceptedOnCanvas_congr
        (sameItem_of_staged h hapart fun hasset => absurd ⟨hasset, rfl⟩ hassets)
        (sameCanvas_of_staged h hapart hother)

end Delivery

end ArtForgeStudio.Deliveries
