import ArtForgeStudio.Deliveries.Staging

/-! # A delivery is staged once

What is refused changes nothing. What is staged stands in the store once, with its file, and is
found there when it is staged again. What the store says of others is not changed.
-/

namespace ArtForgeStudio.Deliveries

open ArtForgeStudio.Api ArtForgeStudio.Codecs ArtForgeStudio.LocalStore ArtForgeStudio.Outcome
  ArtForgeStudio.Recovery

theorem length_of_canonicalUuid {value : String} (h : canonicalUuid value = true) :
    value.toList.length = 36 := by
  simp only [canonicalUuid, Bool.and_eq_true, beq_iff_eq] at h
  exact h.1

/-- A UUID is of hexadecimal digits and hyphens. -/
theorem char_of_canonicalUuid {value : String} (h : canonicalUuid value = true) {c : Char}
    (hc : c ∈ value.toList) : c = '-' ∨ isLowerHex c = true := by
  simp only [canonicalUuid, Bool.and_eq_true, List.all_eq_true] at h
  obtain ⟨n, hn⟩ := List.mem_iff_getElem?.1 hc
  have hchar := h.2 (c, n) (by simpa [List.mk_mem_zipIdx_iff_getElem?] using hn)
  split at hchar
  · exact .inl (by simpa using hchar)
  · exact .inr hchar

theorem not_white_of_hex {c : Char} (h : c = '-' ∨ isLowerHex c = true) : isWhiteSpace c = false := by
  rcases h with rfl | h
  · decide
  · have hrange : 48 ≤ c.toNat ∧ c.toNat ≤ 102 := by
      simp only [isLowerHex, Bool.or_eq_true, Bool.and_eq_true, decide_eq_true_eq] at h
      rcases h with h | ⟨hlow, hhigh⟩
      · have hdigit : 48 ≤ c.toNat ∧ c.toNat ≤ 57 := Char.isDigit_iff_toNat.1 h
        omega
      · have hlow : 97 ≤ c.toNat := hlow
        have hhigh : c.toNat ≤ 102 := hhigh
        omega
    simp only [isWhiteSpace]
    simp
    omega

namespace NamespaceDeliveryProof

variable (prepared : NamespaceDeliveryProof)

theorem fileId_text : trimIsEmpty prepared.confirmation.fileId = false := by
  have hlength := length_of_canonicalUuid prepared.canonical
  obtain ⟨c, rest, hc⟩ := List.exists_cons_of_length_pos (l := prepared.confirmation.fileId.toList)
    (by omega)
  have hmem : c ∈ prepared.confirmation.fileId.toList := by simp [hc]
  have hwhite := not_white_of_hex (char_of_canonicalUuid prepared.canonical hmem)
  simp [trimIsEmpty, hc, hwhite]

theorem path_text : trimIsEmpty prepared.sourcePath = false := by
  obtain ⟨folder, ending, hpath⟩ := prepared.named
  have hfile := prepared.fileId_text
  simp only [trimIsEmpty, List.all_eq_false] at hfile ⊢
  obtain ⟨c, hc, hwhite⟩ := hfile
  exact ⟨c, by simp [hpath, hc], hwhite⟩

/-- The path of a file is longer than the mark of a failed card. -/
theorem path_ne_failed : prepared.sourcePath ≠ "failed" := by
  intro heq
  obtain ⟨folder, ending, hpath⟩ := prepared.named
  have hlength := congrArg (fun path => path.toList.length) (hpath.symm.trans heq)
  have huuid := length_of_canonicalUuid prepared.canonical
  simp at hlength huuid
  omega

end NamespaceDeliveryProof

/-- Only assets of the delivery, its failed card and its notification are put in or taken out. -/
structure Beside {Others : Type} (id path notification : String) (store next : Store Others) :
    Prop where
  assets : ∀ q : AssetData → Bool, (∀ item, item.id = id → item.sourcePath = path → q item = false) →
    next.assets.filter q = store.assets.filter q
  generations : ∀ q : AssetData → Bool, (∀ item, item.id = id →
      item.sourcePath = path ∨ item.sourcePath = "failed" → q item = false) →
    next.generations.filter q = store.generations.filter q
  notifications : ∀ q : NotificationData → Bool, (∀ item, item.id = notification → q item = false) →
    next.notifications.filter q = store.notifications.filter q

section Gallery

variable {Others : Type} {store next : Store Others} {prepared : PreparedNamespaceDelivery}
  {tool : Option (String × String)} {step : GalleryStep} {assets generations : List AssetData}
  {notifications : List NotificationData} {asset : AssetData}

theorem Beside.refl (id path notification : String) (store : Store Others) :
    Beside id path notification store store :=
  ⟨fun _ _ => rfl, fun _ _ => rfl, fun _ _ => rfl⟩

theorem path_iff {items : List AssetData} {path id : String} :
    ¬(items.any fun item => item.sourcePath = path && item.id ≠ id) ↔
      ∀ item ∈ items, item.sourcePath = path → item.id = id := by
  simp

theorem checkNamespaceDelivery_eq_ok :
    checkNamespaceDelivery store prepared = .ok (tool, step) ↔
      toolbox prepared.record.taskType = .ok tool ∧
        (tool = none ∨ prepared.confirmation.failedAssetId = none) ∧
        ((store.assets.filter (·.id = prepared.assetId)).length ≤ 1 ∧
          (store.generations.filter (·.id = prepared.assetId)).length ≤ 1) ∧
        (∀ item ∈ store.assets ++ store.generations, item.sourcePath = prepared.sourcePath →
          item.id = prepared.assetId) ∧
        galleryStep prepared tool (store.generations.filter (·.id = prepared.assetId))
          (store.notifications.filter (·.id = prepared.notificationId))
          (store.assets.filter (·.id = prepared.assetId)) = .ok step := by
  unfold checkNamespaceDelivery
  simp only [bind_eq_ok, exists_unit, ensure_eq_ok, rejectIf_eq_ok, path_iff, pure_eq_ok,
    Prod.mk.injEq]
  constructor
  · rintro ⟨_, htool, hfailed, hone, hpath, _, hstep, rfl, rfl⟩
    exact ⟨htool, hfailed, hone, hpath, hstep⟩
  · rintro ⟨htool, hfailed, hone, hpath, hstep⟩
    exact ⟨_, htool, hfailed, hone, hpath, _, hstep, rfl, rfl⟩

theorem checkStagedCard_eq_ok :
    checkStagedCard prepared tool generations asset = .ok () ↔
      (∀ origin name, tool = some (origin, name) →
        generations = [] ∧ asset.category = "other" ∧ asset.origin = origin) ∧
      (tool = none → ∃ card rest, generations = card :: rest ∧
        card.sourcePath = prepared.sourcePath ∧ card.deliveryRecoverable = false ∧
        card.deliveryDownloading = false) := by
  unfold checkStagedCard
  cases tool with
  | some tool => simp [Prod.ext_iff]
  | none => cases generations <;> simp

theorem eq_singleton {A : Type} {items rest : List A} {item : A} (h : items = item :: rest)
    (hone : items.length ≤ 1) : items = [item] := by
  cases rest with
  | nil => exact h
  | cons => simp [h] at hone

/-- A new delivery has a failed card that waits for it, or none at all. -/
theorem checkFreshDelivery_cases
    (h : checkFreshDelivery prepared generations notifications = .ok step)
    (hcards : generations.length ≤ 1) :
    notifications = [] ∧
      (prepared.confirmation.failedAssetId = none ∧ generations = [] ∧ step = .adds ∨
        ∃ failed, prepared.confirmation.failedAssetId ≠ none ∧ generations = [failed] ∧
          failed.sourcePath = "failed" ∧ step = .replaces failed) := by
  simp only [checkFreshDelivery, bind_eq_ok, exists_unit, ensure_eq_ok] at h
  obtain ⟨hnotifications, h⟩ := h
  refine ⟨hnotifications, ?_⟩
  split at h
  · rename_i id hfailed
    split at h
    · rename_i failed rest
      simp only [bind_eq_ok, exists_unit, ensure_eq_ok, pure_eq_ok] at h
      exact .inr ⟨failed, by simp [hfailed], eq_singleton rfl hcards, h.1.1, h.2.symm⟩
    · cases h
  · rename_i hfailed
    simp only [bind_eq_ok, exists_unit, ensure_eq_ok, pure_eq_ok] at h
    exact .inl ⟨hfailed, h.1, h.2.symm⟩

/-- Nothing is there of a delivery that is not staged yet. -/
theorem galleryStep_fresh
    (h : galleryStep prepared tool generations notifications assets = .ok step)
    (hcards : generations.length ≤ 1) (hstep : step ≠ .staged) :
    assets = [] ∧ notifications = [] ∧
      (prepared.confirmation.failedAssetId = none ∧ generations = [] ∧ step = .adds ∨
        ∃ failed, prepared.confirmation.failedAssetId ≠ none ∧ generations = [failed] ∧
          failed.sourcePath = "failed" ∧ step = .replaces failed) := by
  unfold galleryStep at h
  split at h
  · simp only [checkStagedDelivery, bind_eq_ok, pure_eq_ok] at h
    obtain ⟨-, -, -, -, -, -, rfl⟩ := h
    exact absurd rfl hstep
  · exact ⟨rfl, checkFreshDelivery_cases h hcards⟩

/-- The delivery is in the gallery once, with its card unless a tool made it, and its success is
said once. -/
structure InGallery (store : Store Others) (prepared : PreparedNamespaceDelivery)
    (tool : Option (String × String)) : Prop where
  asset : ∃ asset, store.assets.filter (·.id = prepared.assetId) = [asset] ∧
    asset.sourcePath = prepared.sourcePath ∧ asset.deliveryRecoverable = false ∧
    asset.deliveryDownloading = false ∧
    ∀ origin name, tool = some (origin, name) → asset.category = "other" ∧ asset.origin = origin
  noCard : tool ≠ none → store.generations.filter (·.id = prepared.assetId) = []
  card : tool = none → ∃ card, store.generations.filter (·.id = prepared.assetId) = [card] ∧
    card.sourcePath = prepared.sourcePath ∧ card.deliveryRecoverable = false ∧
    card.deliveryDownloading = false
  path : ∀ item ∈ store.assets ++ store.generations, item.sourcePath = prepared.sourcePath →
    item.id = prepared.assetId
  notification : ∃ notification, store.notifications.filter (·.id = prepared.notificationId) =
    [notification] ∧ notification.success = true

theorem InGallery.of_check (h : checkNamespaceDelivery store prepared = .ok (tool, .staged)) :
    InGallery store prepared tool := by
  obtain ⟨-, -, ⟨hone, hcards⟩, hpath, hstep⟩ := checkNamespaceDelivery_eq_ok.1 h
  unfold galleryStep at hstep
  split at hstep
  · rename_i asset rest hassets
    simp only [checkStagedDelivery, bind_eq_ok, exists_unit, ensure_eq_ok, checkStagedCard_eq_ok]
      at hstep
    obtain ⟨hasset, ⟨hother, hcard⟩, ⟨hnotification, hsuccess⟩, -⟩ := hstep
    refine ⟨⟨asset, eq_singleton hassets hone, hasset.1, hasset.2.1, hasset.2.2, ?_⟩, ?_, ?_,
      hpath, ?_⟩
    · intro origin name htool
      exact (hother origin name htool).2
    · intro htool
      obtain ⟨⟨origin, name⟩, htool⟩ := Option.ne_none_iff_exists'.1 htool
      exact (hother origin name htool).1
    · intro htool
      obtain ⟨card, rest, hcard, hstaged⟩ := hcard htool
      exact ⟨card, eq_singleton hcard hcards, hstaged⟩
    · obtain ⟨notification, hnotification⟩ := List.length_eq_one_iff.1 hnotification
      rw [hnotification] at hsuccess
      exact ⟨notification, hnotification, by simpa using hsuccess⟩
  · obtain ⟨-, ⟨-, -, hadds⟩ | ⟨failed, -, -, -, hreplaces⟩⟩ := checkFreshDelivery_cases hstep hcards
    · cases hadds
    · cases hreplaces

theorem InGallery.check (h : InGallery store prepared tool)
    (htool : toolbox prepared.record.taskType = .ok tool)
    (hfailed : tool = none ∨ prepared.confirmation.failedAssetId = none) :
    checkNamespaceDelivery store prepared = .ok (tool, .staged) := by
  obtain ⟨asset, hasset, hpath, hrecoverable, hdownloading, hother⟩ := h.asset
  obtain ⟨notification, hnotification, hsuccess⟩ := h.notification
  rw [checkNamespaceDelivery_eq_ok]
  refine ⟨htool, hfailed, ⟨by simp [hasset], ?_⟩, h.path, ?_⟩
  · by_cases hnone : tool = none
    · obtain ⟨card, hcard, -⟩ := h.card hnone
      simp [hcard]
    · simp [h.noCard hnone]
  · simp only [galleryStep, hasset, checkStagedDelivery, bind_eq_ok, exists_unit, ensure_eq_ok,
      checkStagedCard_eq_ok, hnotification, pure_eq_ok]
    refine ⟨⟨hpath, hrecoverable, hdownloading⟩, ⟨?_, ?_⟩, by simp [hsuccess], trivial⟩
    · intro origin name htool
      exact ⟨h.noCard (by simp [htool]), hother origin name htool⟩
    · intro hnone
      obtain ⟨card, hcard, hstaged⟩ := h.card hnone
      exact ⟨card, [], hcard, hstaged⟩

/-- The delivery can be staged; a blank failed card is never replaced. -/
def Accepted (store : Store Others) (prepared : PreparedNamespaceDelivery) : Prop :=
  ∃ tool step, checkNamespaceDelivery store prepared = .ok (tool, step) ∧
    (step ≠ .staged → trimIsEmpty prepared.assetId = false)

/-- A staged delivery: it is in the gallery, and nothing else was touched. -/
structure Staged (store next : Store Others) (prepared : PreparedNamespaceDelivery) : Prop where
  inGallery : ∃ tool, toolbox prepared.record.taskType = .ok tool ∧
    (tool = none ∨ prepared.confirmation.failedAssetId = none) ∧ InGallery next prepared tool
  beside : Beside prepared.assetId prepared.sourcePath prepared.notificationId store next
  others : next.others = store.others
  assets : next = store ∨ ∃ asset, next.assets = asset :: store.assets ∧
    asset.id = prepared.assetId ∧ asset.sourcePath = prepared.sourcePath

theorem filter_cons_false {A : Type} {q : A → Bool} {item : A} {items : List A} (h : q item = false) :
    (item :: items).filter q = items.filter q := by
  simp [h]

theorem beside_adds (item : AssetData) (notification : NotificationData) (dismissed : BTreeSet)
    (isCard : Bool) (store : Store Others) :
    Beside item.id item.sourcePath notification.id store { store with
      assets := item :: store.assets
      generations := if isCard then item :: store.generations else store.generations
      notifications := notification :: store.notifications
      dismissedPromptHistory := dismissed } := by
  refine ⟨?_, ?_, ?_⟩
  · intro q hq
    exact filter_cons_false (hq item rfl rfl)
  · intro q hq
    cases isCard
    · rfl
    · exact filter_cons_false (hq item rfl (.inl rfl))
  · intro q hq
    exact filter_cons_false (hq notification rfl)

/-- What was looked for and not found is found once when it is put in. -/
theorem filter_cons_only {A : Type} {q : A → Bool} {item : A} {items : List A} (h : q item = true)
    (hnone : items.filter q = []) : (item :: items).filter q = [item] := by
  simp [h, hnone]

theorem Staged.of_adds (fileStem : String → Option String) (time : String)
    (h : checkNamespaceDelivery store prepared = .ok (tool, .adds)) :
    (stageNamespaceDelivery fileStem prepared time store).1 = .ok prepared.assetId ∧
      Staged store (stageNamespaceDelivery fileStem prepared time store).2 prepared := by
  obtain ⟨htool, hfailed, ⟨hone, hcards⟩, hpath, hstep⟩ := checkNamespaceDelivery_eq_ok.1 h
  obtain ⟨hassets, hnotifications, hgenerations⟩ := galleryStep_fresh hstep hcards (by simp)
  have hgenerations : store.generations.filter (·.id = prepared.assetId) = [] := by
    rcases hgenerations with ⟨-, hnone, -⟩ | ⟨failed, -, -, -, hreplaces⟩
    · exact hnone
    · cases hreplaces
  let item := deliveredAsset fileStem prepared tool time
  let notification := deliveryNotification fileStem prepared tool time
  simp only [stageNamespaceDelivery, h]
  refine ⟨trivial, ?_, ?_, rfl, ?_⟩
  · refine ⟨tool, htool, hfailed, ?_, ?_, ?_, ?_, ?_⟩
    · refine ⟨item, filter_cons_only (decide_eq_true rfl) hassets, rfl, rfl, rfl, ?_⟩
      rintro origin name rfl
      exact ⟨rfl, rfl⟩
    · intro hsome
      cases tool with
      | none => exact absurd rfl hsome
      | some tool => exact hgenerations
    · rintro rfl
      exact ⟨item, filter_cons_only (decide_eq_true rfl) hgenerations, rfl, rfl, rfl⟩
    · intro other hother hsame
      have hcases : other = item ∨ other ∈ store.assets ++ store.generations := by
        cases tool <;> simp at hother ⊢ <;> tauto
      rcases hcases with rfl | hold
      · rfl
      · exact hpath other hold hsame
    · exact ⟨notification, filter_cons_only (decide_eq_true rfl) hnotifications, rfl⟩
  · exact beside_adds item notification _ tool.isNone store
  · exact .inr ⟨item, rfl, rfl, rfl⟩

/-- The card that is found alone is found alone with its place. -/
theorem zipIdx_filter_singleton {A : Type} {items : List A} {q : A → Bool} {item : A}
    (h : items.filter q = [item]) :
    ∃ n, (items.zipIdx.filter fun entry => q entry.1) = [(item, n)] := by
  have hmap : (items.zipIdx.filter fun entry => q entry.1).map Prod.fst = [item] := by
    rw [← h, ← List.zipIdx_map_fst 0 items, List.filter_map, List.zipIdx_map_fst]
    rfl
  obtain ⟨entry, hentry, rfl⟩ := List.map_eq_singleton_iff.1 hmap
  exact ⟨entry.2, hentry⟩

/-- A card that is alone and waits is replaced, unless its identifier is blank. -/
theorem replaceFailedDeliveryAsset_eq_ok {id : String} {failed : AssetData}
    (completed : AssetData) (notification : NotificationData) (hid : trimIsEmpty id = false)
    (hsame : completed.id = id)
    (hfailed : completed.sourcePath ≠ "failed") (htext : trimIsEmpty completed.sourcePath = false)
    (hassets : store.assets.filter (·.id = id) = [])
    (hcards : store.generations.filter (·.id = id) = [failed])
    (hwaits : failed.sourcePath = "failed") :
    (replaceFailedDeliveryAssetWith store id completed notification
      fun _ => (.ok () : Except Empty Unit)).1 = .ok () := by
  obtain ⟨n, hcard⟩ := zipIdx_filter_singleton hcards
  have habsent : store.assets.any (·.id = id) = false := by
    rw [List.filter_eq_nil_iff] at hassets
    simpa using hassets
  unfold replaceFailedDeliveryAssetWith
  rw [if_neg (by simp [hid, hsame, hfailed, htext])]
  simp [hcard, hwaits, habsent]

/-- Replacing the card touches nothing else. -/
theorem Replaced.beside {id : String} {completed : AssetData} {notification : NotificationData}
    (h : Replaced store id completed notification next) (hid : completed.id = id) :
    Beside id completed.sourcePath notification.id store next := by
  obtain ⟨before, card, rest, hold, hcard, hwaits, -, hnew⟩ := h.card
  refine ⟨?_, ?_, ?_⟩
  · intro q hq
    rw [h.assets]
    exact filter_cons_false (hq completed hid rfl)
  · intro q hq
    rw [hold, hnew, List.filter_append, List.filter_append,
      filter_cons_false (hq card hcard (.inr hwaits)),
      filter_cons_false (hq completed hid (.inl rfl))]
  · intro q hq
    rw [h.notifications]
    exact filter_cons_false (hq notification rfl)

theorem InGallery.of_replaced {completed : AssetData} {notification : NotificationData}
    (h : Replaced store prepared.assetId completed notification next)
    (hid : completed.id = prepared.assetId) (hfile : completed.sourcePath = prepared.sourcePath)
    (hrecoverable : completed.deliveryRecoverable = false)
    (hdownloading : completed.deliveryDownloading = false)
    (hname : notification.id = prepared.notificationId) (hsuccess : notification.success = true)
    (hnotifications : store.notifications.filter (·.id = prepared.notificationId) = [])
    (hpath : ∀ item ∈ store.assets ++ store.generations, item.sourcePath = prepared.sourcePath →
      item.id = prepared.assetId) : InGallery next prepared none := by
  obtain ⟨before, card, rest, hold, hcard, -, hothers, hnew⟩ := h.card
  have hassets : store.assets.filter (·.id = prepared.assetId) = [] := by
    rw [List.filter_eq_nil_iff]
    simpa using h.absent
  have hcards : next.generations.filter (·.id = prepared.assetId) = [completed] := by
    have hbefore : before.filter (·.id = prepared.assetId) = [] := by
      rw [List.filter_eq_nil_iff]
      intro item hitem
      simpa using hothers item (List.mem_append_left _ hitem)
    have hrest : rest.filter (·.id = prepared.assetId) = [] := by
      rw [List.filter_eq_nil_iff]
      intro item hitem
      simpa using hothers item (List.mem_append_right _ hitem)
    rw [hnew, List.filter_append, hbefore, List.filter_cons_of_pos (by simpa using hid), hrest]
    rfl
  refine ⟨⟨completed, ?_, hfile, hrecoverable, hdownloading, by simp⟩, by simp, ?_, ?_,
    notification, ?_, hsuccess⟩
  · rw [h.assets]
    exact filter_cons_only (decide_eq_true hid) hassets
  · exact fun _ => ⟨completed, hcards, hfile, hrecoverable, hdownloading⟩
  · intro item hitem hsame
    have hcases : item = completed ∨ item ∈ store.assets ++ store.generations := by
      rw [h.assets, hnew] at hitem
      rw [hold]
      simp only [List.mem_append, List.mem_cons] at hitem ⊢
      tauto
    rcases hcases with rfl | hold
    · exact hid
    · exact hpath item hold hsame
  · rw [h.notifications]
    exact filter_cons_only (decide_eq_true hname) hnotifications

theorem Staged.of_replaces (fileStem : String → Option String) (time : String) {failed : AssetData}
    (h : checkNamespaceDelivery store prepared = .ok (tool, .replaces failed))
    (htext : trimIsEmpty prepared.assetId = false) :
    (stageNamespaceDelivery fileStem prepared time store).1 = .ok prepared.assetId ∧
      Staged store (stageNamespaceDelivery fileStem prepared time store).2 prepared := by
  obtain ⟨htool, hfailed, ⟨hone, hcards⟩, hpath, hstep⟩ := checkNamespaceDelivery_eq_ok.1 h
  obtain ⟨hassets, hnotifications, hgenerations⟩ := galleryStep_fresh hstep hcards (by simp)
  obtain ⟨hwants, hcard, hwaits⟩ : prepared.confirmation.failedAssetId ≠ none ∧
      store.generations.filter (·.id = prepared.assetId) = [failed] ∧
      failed.sourcePath = "failed" := by
    rcases hgenerations with ⟨-, -, hadds⟩ | ⟨card, hwants, hcard, hwaits, hsame⟩
    · cases hadds
    · cases hsame
      exact ⟨hwants, hcard, hwaits⟩
  obtain rfl := hfailed.resolve_right hwants
  have hid : failed.id = prepared.assetId := by
    have hmem : failed ∈ store.generations.filter (·.id = prepared.assetId) := by simp [hcard]
    simpa using List.of_mem_filter hmem
  let completed := completedCard prepared time failed
  let notification := { deliveryNotification fileStem prepared none time with
    title := "图片下载完成：" ++ shortText completed.prompt 24 }
  have hok := replaceFailedDeliveryAsset_eq_ok completed notification htext hid
    prepared.path_ne_failed prepared.path_text hassets hcard hwaits
  rcases replaceFailedDeliveryAsset_cases store prepared.assetId completed notification
      (fun _ => (.ok () : Except Empty Unit)) with ⟨error, heq⟩ | ⟨after, heq, -, hreplaced⟩
  · rw [heq] at hok
    cases hok
  · simp only [stageNamespaceDelivery, h, completed, notification] at heq ⊢
    rw [heq]
    refine ⟨rfl, ⟨none, htool, .inl rfl, ?_⟩, hreplaced.beside hid, hreplaced.others, ?_⟩
    · exact InGallery.of_replaced hreplaced hid rfl rfl rfl rfl rfl hnotifications hpath
    · exact .inr ⟨completed, hreplaced.assets, hid, rfl⟩

theorem assetId_text (h : prepared.confirmation.failedAssetId = none) :
    trimIsEmpty prepared.assetId = false := by
  rw [PreparedNamespaceDelivery.assetId, h]
  exact prepared.fileId_text

/-- What cannot be staged is refused and changes nothing; what can be is staged. -/
theorem stageNamespaceDelivery_cases (fileStem : String → Option String)
    (prepared : PreparedNamespaceDelivery) (time : String) (store : Store Others) :
    (¬Accepted store prepared ∧
      ∃ error, stageNamespaceDelivery fileStem prepared time store = (.error error, store)) ∨
    Accepted store prepared ∧
      (stageNamespaceDelivery fileStem prepared time store).1 = .ok prepared.assetId ∧
      Staged store (stageNamespaceDelivery fileStem prepared time store).2 prepared := by
  cases hcheck : checkNamespaceDelivery store prepared with
  | error message =>
    left
    constructor
    · rintro ⟨tool, step, hok, -⟩
      rw [hcheck] at hok
      cases hok
    · exact ⟨.refused message, by simp only [stageNamespaceDelivery, hcheck]⟩
  | ok checked =>
    obtain ⟨tool, step⟩ := checked
    cases step with
    | staged =>
      right
      obtain ⟨htool, hfailed, -⟩ := checkNamespaceDelivery_eq_ok.1 hcheck
      refine ⟨⟨tool, .staged, hcheck, fun hstep => absurd rfl hstep⟩, ?_⟩
      simp only [stageNamespaceDelivery, hcheck]
      exact ⟨trivial, ⟨tool, htool, hfailed, .of_check hcheck⟩, .refl _ _ _ _, rfl, .inl rfl⟩
    | adds =>
      right
      obtain ⟨-, -, ⟨-, hcards⟩, -, hstep⟩ := checkNamespaceDelivery_eq_ok.1 hcheck
      obtain ⟨-, -, ⟨hfailed, -, -⟩ | ⟨failed, -, -, -, hreplaces⟩⟩ :=
        galleryStep_fresh hstep hcards (by simp)
      · exact ⟨⟨tool, .adds, hcheck, fun _ => assetId_text hfailed⟩,
          Staged.of_adds fileStem time hcheck⟩
      · cases hreplaces
    | replaces failed =>
      by_cases htext : trimIsEmpty prepared.assetId = true
      · left
        constructor
        · rintro ⟨other, step, hok, hnamed⟩
          rw [hcheck] at hok
          cases hok
          rw [hnamed (by simp)] at htext
          cases htext
        · refine ⟨.refused "failed delivery replacement metadata is invalid", ?_⟩
          simp [stageNamespaceDelivery, hcheck, replaceFailedDeliveryAssetWith, htext]
      · right
        rw [Bool.not_eq_true] at htext
        exact ⟨⟨tool, .replaces failed, hcheck, fun _ => htext⟩,
          Staged.of_replaces fileStem time hcheck htext⟩

/-- A delivery that is in the gallery is staged again without any change. -/
theorem Staged.again (h : Staged store next prepared) :
    Accepted next prepared ∧ ∀ fileStem time,
      stageNamespaceDelivery fileStem prepared time next = (.ok prepared.assetId, next) := by
  obtain ⟨tool, htool, hfailed, hstaged⟩ := h.inGallery
  have hcheck := hstaged.check htool hfailed
  refine ⟨⟨tool, .staged, hcheck, fun hstep => absurd rfl hstep⟩, fun fileStem time => ?_⟩
  simp only [stageNamespaceDelivery, hcheck]

end Gallery

end ArtForgeStudio.Deliveries
