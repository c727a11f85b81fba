import ArtForgeStudio.Api.Wire
import ArtForgeStudio.LocalStore.Data

/-! # Assets that are delivered

A generated asset is put into the store and saved. When the save fails, what was put in is taken out
again, piece by piece. What else is in the store is read by the save only.
-/

namespace ArtForgeStudio.Deliveries

open ArtForgeStudio.Api ArtForgeStudio.Codecs ArtForgeStudio.LocalStore

structure AssetData where
  id : String
  conversationId : String
  title : String
  category : String
  kind : String
  time : String
  prompt : String
  ratio : String
  quality : String
  model : String
  origin : String
  width : Int
  height : Int
  sourcePath : String
  referencePaths : List String
  cutoutDone : Bool
  removeBlackDone : Bool
  upscaleDone : Bool
  isNew : Bool
  deliveryRecoverable : Bool
  deliveryDownloading : Bool
  deriving DecidableEq

structure Store (Others : Type) where
  assets : List AssetData
  generations : List AssetData
  notifications : List NotificationData
  dismissedPromptHistory : BTreeSet
  others : Others

variable {Others Error : Type}

def promptHistoryKey (category prompt : String) : String := category ++ "\x1f" ++ trim prompt

def revealPromptHistoryEntry (dismissed : BTreeSet) (prompt : String) : BTreeSet :=
  dismissed.erase (trim prompt)

def revealPromptHistoryForCategory (dismissed : BTreeSet) (category prompt : String) : BTreeSet :=
  revealPromptHistoryEntry (dismissed.erase (promptHistoryKey category prompt)) prompt

/-- A prompt that is put back if it was dismissed before. -/
def restoreDismissed (wasDismissed : Bool) (key : String) (dismissed : BTreeSet) : BTreeSet :=
  if wasDismissed then dismissed.insert key else dismissed

def removeFrontAssetIfMatches (items : List AssetData) (expectedId : String) : List AssetData :=
  match items with
  | [] => []
  | item :: rest => if item.id = expectedId then rest else items

def removeFrontNotificationIfMatches (items : List NotificationData) (expectedId : String) :
    List NotificationData :=
  match items with
  | [] => []
  | item :: rest => if item.id = expectedId then rest else items

def revealedPrompt (revealPrompt : Option String) : Option String :=
  (revealPrompt.map trim).filter fun prompt => prompt ≠ ""

/-- The store with the asset, as it is given to the save. -/
def pendingAsset (store : Store Others) (item : AssetData) (notification : NotificationData)
    (includeInGenerations : Bool) (revealPrompt : Option String) : Store Others :=
  { store with
    assets := item :: store.assets
    generations := if includeInGenerations then item :: store.generations else store.generations
    notifications := notification :: store.notifications
    dismissedPromptHistory := match revealedPrompt revealPrompt with
      | some prompt =>
        revealPromptHistoryForCategory store.dismissedPromptHistory item.category prompt
      | none => store.dismissedPromptHistory }

def persistGeneratedAssetWith (store : Store Others) (item : AssetData)
    (notification : NotificationData) (includeInGenerations : Bool) (revealPrompt : Option String)
    (persist : Store Others → Except Error Unit) : Except Error Unit × Store Others :=
  let pending := pendingAsset store item notification includeInGenerations revealPrompt
  match persist pending with
  | .ok () => (.ok (), pending)
  | .error error => (.error error,
      { pending with
        assets := removeFrontAssetIfMatches pending.assets item.id
        generations := if includeInGenerations then
          removeFrontAssetIfMatches pending.generations item.id else pending.generations
        notifications := removeFrontNotificationIfMatches pending.notifications notification.id
        dismissedPromptHistory := match revealedPrompt revealPrompt with
          | some prompt =>
            restoreDismissed
              (store.dismissedPromptHistory.contains (promptHistoryKey item.category prompt))
              (promptHistoryKey item.category prompt)
              (restoreDismissed (store.dismissedPromptHistory.contains prompt) prompt
                pending.dismissedPromptHistory)
          | none => pending.dismissedPromptHistory })

inductive ReplaceError (Error : Type) where
  | refused (message : String)
  | persist (error : Error)

def replaceFailedDeliveryAssetWith (store : Store Others) (failedAssetId : String)
    (completedAsset : AssetData) (notification : NotificationData)
    (persist : Store Others → Except Error Unit) : Except (ReplaceError Error) Unit × Store Others :=
  if trimIsEmpty failedAssetId ∨ completedAsset.id ≠ failedAssetId ∨
      completedAsset.sourcePath = "failed" ∨ trimIsEmpty completedAsset.sourcePath then
    (.error (.refused "failed delivery replacement metadata is invalid"), store)
  else
    match store.generations.zipIdx.filter fun card => card.1.id = failedAssetId with
    | [(failedCard, generationIndex)] =>
      if failedCard.sourcePath ≠ "failed" ∨ store.assets.any fun item => item.id = failedAssetId then
        (.error (.refused "failed delivery card cannot be replaced safely"), store)
      else
        let pending : Store Others := { store with
          assets := completedAsset :: store.assets
          generations := store.generations.set generationIndex completedAsset
          notifications := notification :: store.notifications }
        match persist pending with
        | .ok () => (.ok (), pending)
        | .error error => (.error (.persist error),
            { pending with
              assets := removeFrontAssetIfMatches pending.assets failedAssetId
              generations := pending.generations.set generationIndex failedCard
              notifications :=
                removeFrontNotificationIfMatches pending.notifications notification.id })
    | _ => (.error (.refused "failed delivery card is missing or ambiguous"), store)

variable {store : Store Others} {item completedAsset : AssetData} {notification : NotificationData}
  {failedAssetId : String} {persist : Store Others → Except Error Unit}

/-- What was taken out of the set in both forms is put back in both forms. -/
theorem restore_revealed (dismissed : BTreeSet) (category prompt : String)
    (hprompt : trim prompt = prompt) :
    restoreDismissed (dismissed.contains (promptHistoryKey category prompt))
      (promptHistoryKey category prompt)
      (restoreDismissed (dismissed.contains prompt) prompt
        (revealPromptHistoryForCategory dismissed category prompt)) = dismissed := by
  apply Std.ExtTreeSet.ext_mem
  intro key
  simp only [restoreDismissed, revealPromptHistoryForCategory, revealPromptHistoryEntry, hprompt,
    Std.ExtTreeSet.contains_iff_mem]
  split <;> split <;>
    simp only [Std.ExtTreeSet.mem_insert, Std.ExtTreeSet.mem_erase, ne_eq] <;> grind

theorem trim_revealedPrompt {revealPrompt : Option String} {prompt : String}
    (h : revealedPrompt revealPrompt = some prompt) : trim prompt = prompt := by
  obtain ⟨hprompt, -⟩ := Option.filter_eq_some_iff.mp h
  obtain ⟨text, -, rfl⟩ := Option.map_eq_some_iff.mp hprompt
  exact trim_trim text

/-- A save that fails leaves the store as it was; one that does not has put in the asset. -/
theorem persistGeneratedAsset_eq (store : Store Others) (item : AssetData)
    (notification : NotificationData) (includeInGenerations : Bool) (revealPrompt : Option String)
    (persist : Store Others → Except Error Unit) :
    persistGeneratedAssetWith store item notification includeInGenerations revealPrompt persist =
      match persist (pendingAsset store item notification includeInGenerations revealPrompt) with
      | .ok () =>
        (.ok (), pendingAsset store item notification includeInGenerations revealPrompt)
      | .error error => (.error error, store) := by
  unfold persistGeneratedAssetWith
  dsimp only
  split
  · rfl
  · rename_i error _
    have hdismissed : (match revealedPrompt revealPrompt with
        | some prompt =>
          restoreDismissed
            (store.dismissedPromptHistory.contains (promptHistoryKey item.category prompt))
            (promptHistoryKey item.category prompt)
            (restoreDismissed (store.dismissedPromptHistory.contains prompt) prompt
              (pendingAsset store item notification includeInGenerations
                revealPrompt).dismissedPromptHistory)
        | none => (pendingAsset store item notification includeInGenerations
            revealPrompt).dismissedPromptHistory) = store.dismissedPromptHistory := by
      unfold pendingAsset
      cases hprompt : revealedPrompt revealPrompt with
      | none => rfl
      | some prompt => exact restore_revealed _ _ _ (trim_revealedPrompt hprompt)
    rw [hdismissed]
    cases includeInGenerations <;>
      simp [pendingAsset, removeFrontAssetIfMatches, removeFrontNotificationIfMatches]

/-- The asset is put in front, once, with its notification. The prompt that is shown again is
dismissed no more, for all categories or for its own; every other one is as it was. -/
structure Added (store : Store Others) (item : AssetData) (notification : NotificationData)
    (includeInGenerations : Bool) (revealPrompt : Option String) (after : Store Others) : Prop where
  assets : after.assets = item :: store.assets
  generations : after.generations =
    if includeInGenerations then item :: store.generations else store.generations
  notifications : after.notifications = notification :: store.notifications
  dismissed : ∀ key, key ∈ after.dismissedPromptHistory ↔ key ∈ store.dismissedPromptHistory ∧
    ∀ prompt, revealPrompt = some prompt → trim prompt ≠ "" →
      key ≠ trim prompt ∧ key ≠ item.category ++ "\x1f" ++ trim prompt
  others : after.others = store.others

theorem added_pendingAsset (store : Store Others) (item : AssetData)
    (notification : NotificationData) (includeInGenerations : Bool) (revealPrompt : Option String) :
    Added store item notification includeInGenerations revealPrompt
      (pendingAsset store item notification includeInGenerations revealPrompt) := by
  refine ⟨rfl, rfl, rfl, fun key => ?_, rfl⟩
  unfold pendingAsset
  cases hprompt : revealedPrompt revealPrompt with
  | none =>
    have hnone : ∀ prompt, revealPrompt = some prompt → trim prompt = "" := by
      rintro prompt rfl
      simpa [revealedPrompt] using hprompt
    grind
  | some prompt =>
    obtain ⟨text, rfl, rfl, hshown⟩ : ∃ text, revealPrompt = some text ∧ trim text = prompt ∧
        trim text ≠ "" := by
      cases revealPrompt with
      | none => simp [revealedPrompt] at hprompt
      | some text =>
        obtain ⟨hsome, hshown⟩ := Option.filter_eq_some_iff.mp hprompt
        cases hsome
        exact ⟨text, rfl, rfl, by simpa using hshown⟩
    simp only [revealPromptHistoryForCategory, revealPromptHistoryEntry, promptHistoryKey,
      trim_trim, Std.ExtTreeSet.mem_erase, ne_eq, Option.some.injEq, forall_eq']
    grind

/-- The only card with the identifier is replaced, and the asset is put in once. -/
structure Replaced (store : Store Others) (failedAssetId : String) (completedAsset : AssetData)
    (notification : NotificationData) (after : Store Others) : Prop where
  card : ∃ before failedCard rest, store.generations = before ++ failedCard :: rest ∧
    failedCard.id = failedAssetId ∧ failedCard.sourcePath = "failed" ∧
    (∀ item ∈ before ++ rest, item.id ≠ failedAssetId) ∧
    after.generations = before ++ completedAsset :: rest
  absent : ∀ item ∈ store.assets, item.id ≠ failedAssetId
  assets : after.assets = completedAsset :: store.assets
  notifications : after.notifications = notification :: store.notifications
  dismissed : after.dismissedPromptHistory = store.dismissedPromptHistory
  others : after.others = store.others

/-- The only element that a filter finds, and where it is. -/
theorem zipIdx_filter_eq_singleton {A : Type} {items : List A} (p : A → Bool) {found : A}
    {index : Nat} (start : Nat)
    (h : (items.zipIdx start).filter (fun entry => p entry.1) = [(found, index)]) :
    ∃ before rest, items = before ++ found :: rest ∧ index = start + before.length ∧ p found ∧
      ∀ other ∈ before ++ rest, ¬p other := by
  induction items generalizing start with
  | nil => simp at h
  | cons item items ih =>
    rw [List.zipIdx_cons, List.filter_cons] at h
    by_cases hitem : p item
    · rw [if_pos hitem, List.cons.injEq, List.filter_eq_nil_iff] at h
      obtain ⟨heq, hrest⟩ := h
      cases heq
      refine ⟨[], items, rfl, rfl, hitem, fun other hother => ?_⟩
      rw [List.nil_append] at hother
      obtain ⟨n, hn⟩ := List.mem_iff_getElem?.mp hother
      have hmem : (other, index + 1 + n) ∈ items.zipIdx (index + 1) := by
        simp [List.mk_mem_zipIdx_iff_le_and_getElem?_sub, hn]
      exact hrest _ hmem
    · rw [if_neg hitem] at h
      obtain ⟨before, rest, hitems, hindex, hfound, hothers⟩ := ih (start + 1) h
      refine ⟨item :: before, rest, by rw [hitems, List.cons_append], ?_, hfound, ?_⟩
      · rw [hindex, List.length_cons]
        omega
      · simpa [hitem] using hothers

theorem set_middle {A : Type} (before rest : List A) (old new : A) :
    (before ++ old :: rest).set before.length new = before ++ new :: rest := by
  simp

/-- The card is replaced, or the store is left as it was. -/
theorem replaceFailedDeliveryAsset_cases (store : Store Others) (failedAssetId : String)
    (completedAsset : AssetData) (notification : NotificationData)
    (persist : Store Others → Except Error Unit) :
    (∃ error, replaceFailedDeliveryAssetWith store failedAssetId completedAsset notification persist =
      (.error error, store)) ∨
    ∃ after, replaceFailedDeliveryAssetWith store failedAssetId completedAsset notification persist =
      (.ok (), after) ∧ persist after = .ok () ∧
        Replaced store failedAssetId completedAsset notification after := by
  unfold replaceFailedDeliveryAssetWith
  split
  · exact .inl ⟨_, rfl⟩
  · rename_i hvalid
    have hsame : completedAsset.id = failedAssetId := by
      by_contra hother
      exact hvalid (.inr (.inl hother))
    split
    · rename_i failedCard index hcards
      obtain ⟨before, rest, hgenerations, hindex, hid, hothers⟩ :=
        zipIdx_filter_eq_singleton (fun item : AssetData => item.id = failedAssetId) 0 hcards
      rw [Nat.zero_add] at hindex
      split
      · exact .inl ⟨_, rfl⟩
      · rename_i hsafe
        simp only [not_or, not_not, List.any_eq_true, decide_eq_true_eq, not_exists, not_and]
          at hsafe
        subst hindex
        simp only [hgenerations, set_middle]
        split
        · rename_i hsaved
          have hid : failedCard.id = failedAssetId := by simpa using hid
          have hothers : ∀ item ∈ before ++ rest, item.id ≠ failedAssetId := by simpa using hothers
          exact .inr ⟨_, rfl, hsaved,
            ⟨before, failedCard, rest, hgenerations, hid, hsafe.1, hothers, rfl⟩,
            hsafe.2, rfl, rfl, rfl, rfl⟩
        · rename_i error _
          refine .inl ⟨.persist error, ?_⟩
          simp [removeFrontAssetIfMatches, removeFrontNotificationIfMatches, hsame, ← hgenerations]
    · exact .inl ⟨_, rfl⟩

/-- A save that fails, for a new asset or a replaced card, leaves the store exactly as it was; one
that does not has put the asset in front, once, and changed what it says and nothing else. -/
theorem failed_saves_roll_back (store : Store Others) (item : AssetData)
    (notification : NotificationData) (includeInGenerations : Bool) (revealPrompt : Option String)
    (failedAssetId : String) (persist : Store Others → Except Error Unit) :
    (∃ pending, Added store item notification includeInGenerations revealPrompt pending ∧
      (∀ error, persist pending = .error error →
        persistGeneratedAssetWith store item notification includeInGenerations revealPrompt persist =
          (.error error, store)) ∧
      (persist pending = .ok () →
        persistGeneratedAssetWith store item notification includeInGenerations revealPrompt persist =
          (.ok (), pending))) ∧
    (∀ error,
      (replaceFailedDeliveryAssetWith store failedAssetId item notification persist).1 =
        .error error →
      (replaceFailedDeliveryAssetWith store failedAssetId item notification persist).2 = store) ∧
    ((replaceFailedDeliveryAssetWith store failedAssetId item notification persist).1 = .ok () →
      Replaced store failedAssetId item notification
        (replaceFailedDeliveryAssetWith store failedAssetId item notification persist).2) := by
  have hreplaced := replaceFailedDeliveryAsset_cases store failedAssetId item notification persist
  rw [persistGeneratedAsset_eq]
  refine ⟨⟨_, added_pendingAsset store item notification includeInGenerations revealPrompt,
    fun error herror => by rw [herror], fun hsaved => by rw [hsaved]⟩, ?_, ?_⟩
  · intro error herror
    rcases hreplaced with ⟨other, heq⟩ | ⟨after, heq, -, -⟩
    · rw [heq]
    · rw [heq] at herror
      cases herror
  · intro hsaved
    rcases hreplaced with ⟨error, heq⟩ | ⟨after, heq, -, hafter⟩
    · rw [heq] at hsaved
      cases hsaved
    · rw [heq]
      exact hafter

end ArtForgeStudio.Deliveries
