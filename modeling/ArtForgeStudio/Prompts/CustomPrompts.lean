import ArtForgeStudio.Api.Wire
import ArtForgeStudio.LocalStore.Data
import Mathlib.Data.List.Nodup

/-! # The user's own prompts

The store keeps the prompts that the user wrote, and by their texts when they were written, what
belongs to them, and in which categories they are selected. When a text is changed, all of these
are to follow it. The selections do not: the old text is taken out of them before the step that
would put the new one in its place.
-/

namespace ArtForgeStudio.Prompts

open ArtForgeStudio.Api ArtForgeStudio.LocalStore ArtForgeStudio.Codecs

/-- What the store keeps of the prompts that the user wrote. -/
structure Store where
  customPrompts : List String := []
  selectedCustomPrompts : BTreeMap BTreeSet := ∅
  customPromptTimes : BTreeMap String := ∅
  customPromptProfiles : BTreeMap CustomPromptProfile := ∅

def maxCustomPrompts : Nat := 100

inductive SaveCustomPromptResult where
  | saved
  | empty
  | duplicate
  | missing
  deriving DecidableEq

def resolveCategory (selected : String) : String :=
  match selected with
  | "character" | "scene" | "ui" | "effect" => selected
  | _ => "character"

theorem resolveCategory_resolved (category : String) :
    resolveCategory (resolveCategory category) = resolveCategory category := by
  fun_cases resolveCategory category <;> rfl

def customPromptSelectedForCategory (store : Store) (category prompt : String) : Bool :=
  match store.selectedCustomPrompts[resolveCategory category]? with
  | some selected => selected.contains prompt
  | none => false

/-- What is not retained is no longer selected; the rest goes to the categories that there are. -/
def normalizeSelectedCustomPrompts (selectedByCategory : BTreeMap BTreeSet)
    (retainedPrompts : List String) : BTreeMap BTreeSet :=
  selectedByCategory.toList.foldl (fun normalized entry =>
    let selected := entry.2.filter retainedPrompts.contains
    if selected.isEmpty then normalized
    else normalized.alter (resolveCategory entry.1) fun known => some ((known.getD ∅) ∪ selected)) ∅

/-- The prompts beyond the last are dropped, and with them all that is known of them. -/
def retainCustomPrompts (store : Store) (prompt timestamp : String) : Store :=
  let retained := store.customPrompts.take maxCustomPrompts
  { store with
    customPrompts := retained
    selectedCustomPrompts := normalizeSelectedCustomPrompts store.selectedCustomPrompts retained
    customPromptTimes := (store.customPromptTimes.insert prompt timestamp).filter fun item _ =>
      retained.contains item }

def saveCustomPromptToStore (store : Store) (original raw timestamp : String) :
    SaveCustomPromptResult × Store :=
  let prompt := trim raw
  let original := trim original
  if prompt = "" then (.empty, store)
  else if store.customPrompts.any fun item => item = prompt && item ≠ original then
    (.duplicate, store)
  else if original = "" then
    (.saved, retainCustomPrompts { store with customPrompts := prompt :: store.customPrompts }
      prompt timestamp)
  else match store.customPrompts.findIdx? (· = original) with
    | none => (.missing, store)
    | some index => (.saved, retainCustomPrompts { store with
        customPrompts := store.customPrompts.set index prompt
        customPromptTimes := store.customPromptTimes.erase original } prompt timestamp)

def saveCustomPromptProfile (store : Store) (original prompt : String)
    (profile : CustomPromptProfile) : Store :=
  let original := trim original
  let prompt := trim prompt
  let others := if original ≠ "" ∧ original ≠ prompt then store.customPromptProfiles.erase original
    else store.customPromptProfiles
  { store with
    customPromptProfiles := (others.insert prompt profile).filter fun item _ =>
      store.customPrompts.contains item }

def replaceSelectedCustomPrompt (store : Store) (originalPrompt replacementPrompt : String) :
    Store :=
  { store with
    selectedCustomPrompts := store.selectedCustomPrompts.map fun _ selected =>
      if selected.contains originalPrompt then
        (selected.erase originalPrompt).insert replacementPrompt
      else selected }

/-- The steps of a save, as the editor makes them. -/
def startCustomPromptSave (store : Store) (original raw timestamp : String)
    (profile : CustomPromptProfile) : SaveCustomPromptResult × Store :=
  let effectiveOriginal := trim original
  match saveCustomPromptToStore store effectiveOriginal raw timestamp with
  | (.saved, saved) =>
    let profiled := saveCustomPromptProfile saved effectiveOriginal raw profile
    (.saved, if effectiveOriginal = "" then profiled
      else replaceSelectedCustomPrompt profiled effectiveOriginal (trim raw))
  | refused => refused

def InSelection (selected : BTreeMap BTreeSet) (category prompt : String) : Prop :=
  ∃ prompts, selected[category]? = some prompts ∧ prompt ∈ prompts

/-- What holds of the user's prompts. -/
structure SoundPrompts (store : Store) : Prop where
  distinct : store.customPrompts.Nodup
  trimmed : ∀ prompt ∈ store.customPrompts, trim prompt = prompt
  nonempty : ∀ prompt ∈ store.customPrompts, prompt ≠ ""
  atMost : store.customPrompts.length ≤ maxCustomPrompts
  times : ∀ prompt, prompt ∈ store.customPromptTimes → prompt ∈ store.customPrompts
  profiles : ∀ prompt, prompt ∈ store.customPromptProfiles → prompt ∈ store.customPrompts
  selected : ∀ category prompt, InSelection store.selectedCustomPrompts category prompt →
    prompt ∈ store.customPrompts

/-- A new prompt comes first, and a changed one stays where it was. -/
def placedPrompts (prompts : List String) (original prompt : String) : List String :=
  if original = "" then (prompt :: prompts).take maxCustomPrompts
  else prompts.map fun item => if item = original then prompt else item

/-- The other prompts keep all that is known of them, and the selections of the original are those
of the prompt. -/
structure KeepsSelections (store after : Store) (original prompt : String) : Prop where
  sound : SoundPrompts after
  positions : after.customPrompts = placedPrompts store.customPrompts original prompt
  times : ∀ other ∈ after.customPrompts, other ≠ prompt →
    after.customPromptTimes[other]? = store.customPromptTimes[other]?
  profiles : ∀ other ∈ after.customPrompts, other ≠ prompt →
    after.customPromptProfiles[other]? = store.customPromptProfiles[other]?
  selections : ∀ other ∈ after.customPrompts, other ≠ prompt → ∀ category,
    customPromptSelectedForCategory after category other =
      customPromptSelectedForCategory store category other
  edited : ∀ category, customPromptSelectedForCategory after category prompt =
    customPromptSelectedForCategory store category original

/-- The save of an empty prompt, of one that is there, and in place of one that is not there. -/
def Refused (store : Store) (original prompt : String) : Prop :=
  prompt = "" ∨ (prompt ∈ store.customPrompts ∧ prompt ≠ original) ∨
    (original ≠ "" ∧ original ∉ store.customPrompts)

section Selections

variable {store : Store} {selected : BTreeMap BTreeSet} {category prompt original : String}
  {retained : List String}

theorem selectedForCategory_iff : customPromptSelectedForCategory store category prompt ↔
    InSelection store.selectedCustomPrompts (resolveCategory category) prompt := by
  unfold customPromptSelectedForCategory InSelection
  cases store.selectedCustomPrompts[resolveCategory category]? with
  | none => simp
  | some prompts => simp [Std.ExtTreeSet.contains_iff_mem]

/-- One entry of the map is added to what is selected. -/
def addSelected (retained : List String) (normalized : BTreeMap BTreeSet)
    (entry : String × BTreeSet) : BTreeMap BTreeSet :=
  let selected := entry.2.filter retained.contains
  if selected.isEmpty then normalized
  else normalized.alter (resolveCategory entry.1) fun known => some ((known.getD ∅) ∪ selected)

theorem inSelection_addSelected (retained : List String) (normalized : BTreeMap BTreeSet)
    (entry : String × BTreeSet) :
    InSelection (addSelected retained normalized entry) category prompt ↔
      InSelection normalized category prompt ∨
        resolveCategory entry.1 = category ∧ prompt ∈ entry.2 ∧ prompt ∈ retained := by
  have hfilter : prompt ∈ entry.2.filter retained.contains ↔
      prompt ∈ entry.2 ∧ prompt ∈ retained := by simp
  unfold addSelected
  dsimp only
  split
  · next hempty =>
    rw [Std.ExtTreeSet.isEmpty_iff] at hempty
    rw [hempty] at hfilter
    simp only [Std.ExtTreeSet.not_mem_empty, false_iff] at hfilter
    simp [hfilter]
  · unfold InSelection
    rw [Std.ExtTreeMap.getElem?_alter]
    by_cases hcategory : resolveCategory entry.1 = category
    · subst hcategory
      simp only [Std.compare_self, if_true, Option.some.injEq, exists_eq_left',
        Std.ExtTreeSet.mem_union_iff, hfilter, true_and]
      cases normalized[resolveCategory entry.1]? with
      | none => simp
      | some known => simp
    · simp [hcategory]

/-- What is selected after the normalization: what is retained, in the categories that there are. -/
theorem inSelection_normalize :
    InSelection (normalizeSelectedCustomPrompts selected retained) category prompt ↔
      prompt ∈ retained ∧
        ∃ known, resolveCategory known = category ∧ InSelection selected known prompt := by
  have hfold : ∀ (entries : List (String × BTreeSet)) (normalized : BTreeMap BTreeSet),
      InSelection (entries.foldl (addSelected retained) normalized) category prompt ↔
        InSelection normalized category prompt ∨ ∃ entry ∈ entries,
          resolveCategory entry.1 = category ∧ prompt ∈ entry.2 ∧ prompt ∈ retained := by
    intro entries
    induction entries with
    | nil => simp
    | cons entry entries ih =>
      intro normalized
      rw [List.foldl_cons, ih, inSelection_addSelected, or_assoc, List.exists_mem_cons_iff]
  have hempty : ¬InSelection ∅ category prompt := by simp [InSelection]
  have hmem : ∀ known prompts, (known, prompts) ∈ selected.toList ↔ selected[known]? = some prompts :=
    fun known prompts => Std.ExtTreeMap.mem_toList_iff_getElem?_eq_some
  refine (hfold selected.toList ∅).trans ?_
  rw [or_iff_right hempty]
  simp only [InSelection, Prod.exists, hmem]
  constructor
  · rintro ⟨known, prompts, hprompts, hknown, hprompt, hretained⟩
    exact ⟨hretained, known, hknown, prompts, hprompts, hprompt⟩
  · rintro ⟨hretained, known, hknown, prompts, hprompts, hprompt⟩
    exact ⟨known, prompts, hprompts, hknown, hprompt, hretained⟩

/-- A prompt that is selected nowhere is replaced nowhere. -/
theorem replaceSelected_eq
    (h : ∀ category, InSelection store.selectedCustomPrompts category original → original = prompt) :
    replaceSelectedCustomPrompt store original prompt = store := by
  have hsame : (store.selectedCustomPrompts.map fun _ selected =>
      if selected.contains original then (selected.erase original).insert prompt else selected) =
        store.selectedCustomPrompts := by
    apply Std.ExtTreeMap.ext_getElem?
    intro category
    rw [Std.ExtTreeMap.getElem?_map]
    cases hprompts : store.selectedCustomPrompts[category]? with
    | none => rfl
    | some prompts =>
      rw [Option.map_some, Option.some.injEq]
      split
      · next hcontains =>
        have hmem : original ∈ prompts := Std.ExtTreeSet.contains_iff_mem.mp hcontains
        cases h category ⟨prompts, hprompts, hmem⟩
        apply Std.ExtTreeSet.ext_mem
        intro other
        by_cases hother : prompt = other
        · simp [← hother, hmem]
        · simp [hother]
      · rfl
  rw [replaceSelectedCustomPrompt, hsame]

end Selections

section Places

variable {store : Store} {prompts : List String} {original prompt raw timestamp : String}
  {index : Nat} {profile : CustomPromptProfile}

theorem set_eq_placed (hdistinct : prompts.Nodup) (horiginal : original ≠ "")
    (hindex : prompts.findIdx? (· = original) = some index) :
    prompts.set index prompt = placedPrompts prompts original prompt := by
  obtain ⟨hlt, hfound, -⟩ := List.findIdx?_eq_some_iff_getElem.mp hindex
  rw [decide_eq_true_eq] at hfound
  rw [placedPrompts, if_neg horiginal]
  apply List.ext_getElem (by simp)
  intro i hi _
  rw [List.length_set] at hi
  rw [List.getElem_set, List.getElem_map]
  by_cases heq : index = i
  · subst heq
    rw [if_pos rfl, if_pos hfound]
  · have hother : prompts[i] ≠ original := by
      rw [← hfound]
      exact fun hsame => heq ((hdistinct.getElem_inj_iff.mp hsame).symm)
    rw [if_neg heq, if_neg hother]

/-- A prompt that is not refused is new, or the original. -/
theorem new_of_not_refused (h : ¬Refused store original prompt)
    (hmem : prompt ∈ store.customPrompts) : prompt = original := by
  by_contra hne
  exact h (.inr (.inl ⟨hmem, hne⟩))

theorem mem_placed (h : ¬Refused store original prompt) :
    prompt ∈ placedPrompts store.customPrompts original prompt := by
  unfold placedPrompts
  split
  · exact List.mem_cons_self
  · next horiginal =>
    have hmem : original ∈ store.customPrompts := by
      by_contra hnot
      exact h (.inr (.inr ⟨horiginal, hnot⟩))
    exact List.mem_map.mpr ⟨original, hmem, if_pos rfl⟩

/-- The others were there, and are not the original. -/
theorem other_of_mem_placed {other : String} (hsound : SoundPrompts store)
    (hother : other ∈ placedPrompts store.customPrompts original prompt) (hne : other ≠ prompt) :
    other ∈ store.customPrompts ∧ other ≠ original := by
  unfold placedPrompts at hother
  split at hother
  · next horiginal =>
    have hmem := (List.mem_cons.mp (List.mem_of_mem_take hother)).resolve_left hne
    exact ⟨hmem, fun heq => hsound.nonempty other hmem (heq.trans horiginal)⟩
  · obtain ⟨item, hitem, heq⟩ := List.mem_map.mp hother
    split at heq
    · exact absurd heq.symm hne
    · next hnot => exact heq ▸ ⟨hitem, hnot⟩

theorem placed_distinct (hsound : SoundPrompts store) (h : ¬Refused store original prompt) :
    (placedPrompts store.customPrompts original prompt).Nodup := by
  unfold placedPrompts
  split
  · next horiginal =>
    have hnew : prompt ∉ store.customPrompts := fun hmem =>
      hsound.nonempty prompt hmem ((new_of_not_refused h hmem).trans horiginal)
    exact (List.nodup_cons.mpr ⟨hnew, hsound.distinct⟩).sublist (List.take_sublist _ _)
  · refine List.Nodup.map_on ?_ hsound.distinct
    intro first hfirst second hsecond heq
    split at heq <;> split at heq
    · next hone htwo => exact hone.trans htwo.symm
    · next hone _ => exact hone.trans ((new_of_not_refused h (heq ▸ hsecond)).symm.trans heq)
    · next _ htwo => exact (heq.trans (new_of_not_refused h (heq ▸ hfirst))).trans htwo.symm
    · exact heq

theorem placed_atMost (hsound : SoundPrompts store) :
    (placedPrompts store.customPrompts original prompt).length ≤ maxCustomPrompts := by
  unfold placedPrompts
  split
  · exact List.length_take_le _ _
  · rw [List.length_map]
    exact hsound.atMost

/-- The store after a save that is not refused. -/
def savedPrompts (store : Store) (original prompt timestamp : String)
    (profile : CustomPromptProfile) : Store :=
  let placed := placedPrompts store.customPrompts original prompt
  { customPrompts := placed
    selectedCustomPrompts := normalizeSelectedCustomPrompts store.selectedCustomPrompts placed
    customPromptTimes := ((if original = "" then store.customPromptTimes
      else store.customPromptTimes.erase original).insert prompt timestamp).filter fun item _ =>
        placed.contains item
    customPromptProfiles := ((if original ≠ "" ∧ original ≠ prompt then
      store.customPromptProfiles.erase original
      else store.customPromptProfiles).insert prompt profile).filter fun item _ =>
        placed.contains item }

theorem saveCustomPromptToStore_refused
    (h : Refused store (trim original) (trim raw)) :
    (saveCustomPromptToStore store original raw timestamp).1 ≠ .saved ∧
      (saveCustomPromptToStore store original raw timestamp).2 = store := by
  unfold saveCustomPromptToStore
  dsimp only
  split
  · exact ⟨nofun, rfl⟩
  · next hprompt =>
    split
    · exact ⟨nofun, rfl⟩
    · next hnew =>
      have hdifferent : trim raw ∈ store.customPrompts → trim raw = trim original := by
        intro hmem
        by_contra hne
        exact hnew (List.any_eq_true.mpr ⟨_, hmem, by simpa using hne⟩)
      have hmissing : trim original ≠ "" ∧ trim original ∉ store.customPrompts := by
        rcases h with h | h | h
        · exact absurd h hprompt
        · exact absurd (hdifferent h.1) h.2
        · exact h
      rw [if_neg hmissing.1]
      have hnone : store.customPrompts.findIdx? (· = trim original) = none := by
        rw [List.findIdx?_eq_none_iff]
        intro item hitem
        rw [decide_eq_false_iff_not]
        exact fun heq => hmissing.2 (heq ▸ hitem)
      rw [hnone]
      exact ⟨nofun, rfl⟩

theorem saveCustomPromptToStore_saved (hsound : SoundPrompts store)
    (h : ¬Refused store (trim original) (trim raw)) :
    saveCustomPromptToStore store original raw timestamp =
      (.saved, { savedPrompts store (trim original) (trim raw) timestamp profile with
        customPromptProfiles := store.customPromptProfiles }) := by
  have hprompt : trim raw ≠ "" := fun hempty => h (.inl hempty)
  have hnew : ¬store.customPrompts.any fun item => item = trim raw && item ≠ trim original := by
    intro hany
    obtain ⟨item, hitem, heq⟩ := List.any_eq_true.mp hany
    simp only [Bool.and_eq_true, decide_eq_true_eq] at heq
    rw [heq.1] at hitem heq
    exact heq.2 (new_of_not_refused h hitem)
  unfold saveCustomPromptToStore
  dsimp only
  rw [if_neg hprompt, if_neg hnew]
  split
  · next horiginal =>
    rw [retainCustomPrompts, savedPrompts, placedPrompts, if_pos horiginal, if_pos horiginal]
  · next horiginal =>
    cases hindex : store.customPrompts.findIdx? (· = trim original) with
    | none =>
      have hmem : trim original ∈ store.customPrompts := by
        by_contra hnot
        exact h (.inr (.inr ⟨horiginal, hnot⟩))
      rw [List.findIdx?_eq_none_iff] at hindex
      simpa using hindex _ hmem
    | some index =>
      let placed := placedPrompts store.customPrompts (trim original) (trim raw)
      have hplaced : store.customPrompts.set index (trim raw) = placed :=
        set_eq_placed hsound.distinct horiginal hindex
      have htake : placed.take maxCustomPrompts = placed :=
        List.take_of_length_le (placed_atMost hsound)
      dsimp only
      rw [retainCustomPrompts, savedPrompts, if_neg horiginal]
      dsimp only
      rw [hplaced, htake]

/-- The last step changes nothing: the original is selected nowhere any more. -/
theorem startCustomPromptSave_saved (hsound : SoundPrompts store)
    (h : ¬Refused store (trim original) (trim raw)) :
    startCustomPromptSave store original raw timestamp profile =
      (.saved, savedPrompts store (trim original) (trim raw) timestamp profile) := by
  have hsaved := @saveCustomPromptToStore_saved store (trim original) raw timestamp profile hsound
    (by rwa [trim_trim])
  rw [trim_trim] at hsaved
  have hprofiled : saveCustomPromptProfile { savedPrompts store (trim original) (trim raw) timestamp
      profile with customPromptProfiles := store.customPromptProfiles } (trim original) raw profile =
        savedPrompts store (trim original) (trim raw) timestamp profile := by
    rw [saveCustomPromptProfile, trim_trim]
    rfl
  have hreplaced : replaceSelectedCustomPrompt
      (savedPrompts store (trim original) (trim raw) timestamp profile) (trim original) (trim raw) =
        savedPrompts store (trim original) (trim raw) timestamp profile := by
    apply replaceSelected_eq
    intro category hselected
    by_contra hne
    have hplaced := (inSelection_normalize.mp hselected).1
    exact (other_of_mem_placed hsound hplaced hne).2 rfl
  unfold startCustomPromptSave
  dsimp only
  rw [hsaved]
  dsimp only
  rw [hprofiled, hreplaced, ite_self]

theorem startCustomPromptSave_refused (h : Refused store (trim original) (trim raw)) :
    (startCustomPromptSave store original raw timestamp profile).1 ≠ .saved ∧
      (startCustomPromptSave store original raw timestamp profile).2 = store := by
  have hrefused := @saveCustomPromptToStore_refused store (trim original) raw timestamp
    (by rwa [trim_trim])
  unfold startCustomPromptSave
  dsimp only
  split
  · next saved heq =>
    rw [heq] at hrefused
    exact absurd rfl hrefused.1
  · exact hrefused

end Places

section Saves

variable {store : Store} {original prompt raw timestamp other category : String}
  {profile : CustomPromptProfile}

/-- What is kept of the selections is found where the store looks for it. -/
def WellFiled (store : Store) (kept : List String) : Prop :=
  ∀ category prompt, InSelection store.selectedCustomPrompts category prompt → prompt ∈ kept →
    customPromptSelectedForCategory store category prompt

theorem savedPrompts_sound (hsound : SoundPrompts store) (h : ¬Refused store original prompt)
    (htrim : trim prompt = prompt) :
    SoundPrompts (savedPrompts store original prompt timestamp profile) where
  distinct := placed_distinct hsound h
  trimmed other hother := by
    by_cases hne : other = prompt
    · rw [hne, htrim]
    · exact hsound.trimmed other (other_of_mem_placed hsound hother hne).1
  nonempty other hother := by
    by_cases hne : other = prompt
    · exact hne ▸ fun hempty => h (.inl hempty)
    · exact hsound.nonempty other (other_of_mem_placed hsound hother hne).1
  atMost := placed_atMost hsound
  times other hother := by
    obtain ⟨_, hkept⟩ := Std.ExtTreeMap.mem_filter.mp hother
    rw [Std.ExtTreeMap.getKey_eq] at hkept
    exact List.contains_iff_mem.mp hkept
  profiles other hother := by
    obtain ⟨_, hkept⟩ := Std.ExtTreeMap.mem_filter.mp hother
    rw [Std.ExtTreeMap.getKey_eq] at hkept
    exact List.contains_iff_mem.mp hkept
  selected category other hother := (inSelection_normalize.mp hother).1

/-- An entry of another prompt outlasts the save. -/
theorem getElem?_saved {V : Type} {map : BTreeMap V} {value : V} {kept : List String}
    (hkept : other ∈ kept) (hne : other ≠ prompt) :
    ((map.insert prompt value).filter fun item _ => kept.contains item)[other]? = map[other]? := by
  rw [Std.ExtTreeMap.getElem?_filter', Std.ExtTreeMap.getElem?_insert]
  have hkey : compare prompt other ≠ .eq := fun heq => hne (Std.LawfulEqCmp.eq_of_compare heq).symm
  rw [if_neg hkey]
  cases map[other]? with
  | none => rfl
  | some found => simp [hkept]

theorem getElem?_erased {V : Type} (map : BTreeMap V) (hne : other ≠ original) :
    (map.erase original)[other]? = map[other]? := by
  have hkey : compare original other ≠ .eq := fun heq => hne (Std.LawfulEqCmp.eq_of_compare heq).symm
  rw [Std.ExtTreeMap.getElem?_erase, if_neg hkey]

theorem selected_savedPrompts (hother : other ∈ placedPrompts store.customPrompts original prompt) :
    customPromptSelectedForCategory (savedPrompts store original prompt timestamp profile) category
        other ↔
      ∃ known, resolveCategory known = resolveCategory category ∧
        InSelection store.selectedCustomPrompts known other := by
  rw [selectedForCategory_iff]
  exact inSelection_normalize.trans (and_iff_right hother)

theorem selected_of_wellFiled
    (hfiled : WellFiled store (placedPrompts store.customPrompts original prompt))
    (hother : other ∈ placedPrompts store.customPrompts original prompt) (category : String) :
    customPromptSelectedForCategory (savedPrompts store original prompt timestamp profile) category
        other = customPromptSelectedForCategory store category other := by
  rw [Bool.eq_iff_iff, selected_savedPrompts hother, selectedForCategory_iff]
  constructor
  · rintro ⟨known, hknown, hselected⟩
    rw [← hknown, ← selectedForCategory_iff]
    exact hfiled known other hselected hother
  · exact fun hselected => ⟨_, resolveCategory_resolved category, hselected⟩

/-- A changed prompt comes out selected nowhere. -/
theorem not_selected_changed (hsound : SoundPrompts store) (h : ¬Refused store original prompt)
    (hchanged : prompt ≠ original) (category : String) :
    customPromptSelectedForCategory (savedPrompts store original prompt timestamp profile) category
      prompt = false := by
  rw [Bool.eq_false_iff, ne_eq, selected_savedPrompts (mem_placed h)]
  rintro ⟨known, -, hselected⟩
  exact hchanged (new_of_not_refused h (hsound.selected known prompt hselected))

theorem savedPrompts_keeps_iff (hsound : SoundPrompts store) (h : ¬Refused store original prompt)
    (htrim : trim prompt = prompt) :
    KeepsSelections store (savedPrompts store original prompt timestamp profile) original prompt ↔
      WellFiled store (placedPrompts store.customPrompts original prompt) ∧
        (prompt = original ∨
          ∀ category, ¬customPromptSelectedForCategory store category original) := by
  constructor
  · intro hkeeps
    constructor
    · intro category other hselected hother
      have hafter : customPromptSelectedForCategory
          (savedPrompts store original prompt timestamp profile) category other :=
        (selected_savedPrompts hother).mpr ⟨category, rfl, hselected⟩
      by_cases hne : other = prompt
      · subst hne
        have hsame := new_of_not_refused h (hsound.selected category other hselected)
        rw [hkeeps.edited, ← hsame] at hafter
        exact hafter
      · rwa [hkeeps.selections other hother hne] at hafter
    · by_contra hboth
      push Not at hboth
      obtain ⟨category, hselected⟩ := hboth.2
      rw [← hkeeps.edited, not_selected_changed hsound h hboth.1] at hselected
      contradiction
  · rintro ⟨hfiled, hedited⟩
    refine ⟨savedPrompts_sound hsound h htrim, rfl, ?_, ?_, ?_, ?_⟩
    · intro other hother hne
      refine (getElem?_saved hother hne).trans ?_
      split
      · rfl
      · exact getElem?_erased _ (other_of_mem_placed hsound hother hne).2
    · intro other hother hne
      refine (getElem?_saved hother hne).trans ?_
      split
      · exact getElem?_erased _ (other_of_mem_placed hsound hother hne).2
      · rfl
    · exact fun other hother _ category => selected_of_wellFiled hfiled hother category
    · intro category
      by_cases hchanged : prompt = original
      · subst hchanged
        exact selected_of_wellFiled hfiled (mem_placed h) category
      · have hnowhere := hedited.resolve_left hchanged category
        rw [not_selected_changed hsound h hchanged, Bool.eq_false_iff.mpr hnowhere]

/-- The save of a changed prompt keeps the selections exactly if the prompt was selected nowhere, and
nothing that is kept is filed in a category that there is not. -/
theorem editing_keeps_the_selection_iff (hsound : SoundPrompts store)
    (original raw timestamp : String) (profile : CustomPromptProfile) :
    ((startCustomPromptSave store original raw timestamp profile).1 ≠ .saved →
        (startCustomPromptSave store original raw timestamp profile).2 = store) ∧
      ((startCustomPromptSave store original raw timestamp profile).1 = .saved →
        KeepsSelections store (startCustomPromptSave store original raw timestamp profile).2
          (trim original) (trim raw)) ↔
    Refused store (trim original) (trim raw) ∨
      WellFiled store (placedPrompts store.customPrompts (trim original) (trim raw)) ∧
        (trim raw = trim original ∨
          ∀ category, ¬customPromptSelectedForCategory store category (trim original)) := by
  by_cases h : Refused store (trim original) (trim raw)
  · obtain ⟨hresult, hsame⟩ := @startCustomPromptSave_refused store original raw timestamp profile h
    simp only [h, true_or, iff_true]
    exact ⟨fun _ => hsame, fun hsaved => absurd hsaved hresult⟩
  · have hkeeps := @savedPrompts_keeps_iff store (trim original) (trim raw) timestamp profile hsound h
      (trim_trim raw)
    rw [startCustomPromptSave_saved hsound h, ← hkeeps]
    simp only [ne_eq, not_true_eq_false, false_implies, true_and, forall_const, h, false_or]

end Saves

/-- A store with two prompts, one of which is selected. -/
def twoPrompts (selected : String) : Store :=
  { customPrompts := ["b", "a"]
    selectedCustomPrompts := (∅ : BTreeMap BTreeSet).insert "ui" {selected} }

theorem inSelection_twoPrompts {selected category prompt : String} :
    InSelection (twoPrompts selected).selectedCustomPrompts category prompt ↔
      category = "ui" ∧ prompt = selected := by
  simp only [InSelection, twoPrompts, Std.ExtTreeMap.getElem?_insert]
  split
  · rename_i hcategory
    simp only [Std.compare_eq_iff_eq] at hcategory
    simp [← hcategory, eq_comm (a := prompt)]
  · rename_i hcategory
    simp only [Std.compare_eq_iff_eq] at hcategory
    simp [Ne.symm hcategory]

theorem twoPrompts_sound {selected : String} (h : selected ∈ ["b", "a"]) :
    SoundPrompts (twoPrompts selected) where
  distinct := by simp [twoPrompts]
  trimmed := by
    have htrim : trim "a" = "a" ∧ trim "b" = "b" := by decide
    simp [twoPrompts, htrim]
  nonempty := by simp [twoPrompts]
  atMost := by simp [twoPrompts, maxCustomPrompts]
  times := by simp [twoPrompts]
  profiles := by simp [twoPrompts]
  selected category prompt hselected := by
    rw [(inSelection_twoPrompts.mp hselected).2]
    exact h

/-- One prompt is selected, and the other one is changed. -/
theorem editing_keeps_other_selections :
    let edited := (startCustomPromptSave (twoPrompts "b") "a" "c" "" {}).2
    customPromptSelectedForCategory edited "ui" "b" ∧
      KeepsSelections (twoPrompts "b") edited (trim "a") (trim "c") := by
  have hsaved : (startCustomPromptSave (twoPrompts "b") "a" "c" "" {}).1 = .saved := by
    decide +kernel
  refine ⟨by decide +kernel, ((editing_keeps_the_selection_iff (twoPrompts_sound (by simp)) "a" "c" ""
    {}).mpr (.inr ⟨fun category prompt hselected _ => ?_, .inr fun category hselected => ?_⟩)).2 hsaved⟩
  · obtain ⟨rfl, rfl⟩ := inSelection_twoPrompts.mp hselected
    decide
  · rw [selectedForCategory_iff] at hselected
    exact absurd (inSelection_twoPrompts.mp hselected).2 (by decide)

/-- The prompt is selected, and after its change it is not. -/
theorem editing_loses_the_selection :
    SoundPrompts (twoPrompts "a") ∧
      (startCustomPromptSave (twoPrompts "a") "a" "c" "" {}).1 = .saved ∧
      ¬KeepsSelections (twoPrompts "a") (startCustomPromptSave (twoPrompts "a") "a" "c" "" {}).2
        (trim "a") (trim "c") := by
  refine ⟨twoPrompts_sound (by simp), by decide +kernel, fun hkeeps => ?_⟩
  have hedited := hkeeps.edited "ui"
  revert hedited
  decide +kernel

end ArtForgeStudio.Prompts
