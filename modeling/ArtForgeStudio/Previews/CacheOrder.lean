import ArtForgeStudio.Previews.MemoryCache
import ArtForgeStudio.Library.Runs
import Mathlib.Tactic.Common

/-! # The preview images in the order of their last use

The stamps of the entries put them in the order of a list that every use moves to the end. An
image that is added makes the least recently used go, and no more of them than the limit asks for.
-/

namespace ArtForgeStudio.Previews

open ArtForgeStudio.RecencyLists ArtForgeStudio.Runs

namespace MemoryEntry

variable {Image : Type}

/-- What is left of an entry without its stamp. -/
def content (entry : MemoryEntry Image) : Image × Nat := (entry.image, entry.bytes)

end MemoryEntry

section Order

variable {Image : Type} {cache : PreviewMemoryCache Image}
  {used : List (String × MemoryEntry Image)} {row : String × MemoryEntry Image}

/-- The entries in the order of their stamps. -/
structure InUse (cache : PreviewMemoryCache Image) (used : List (String × MemoryEntry Image)) :
    Prop where
  keys : (used.map (·.1)).Nodup
  entries : ∀ key entry, cache.entries[key]? = some entry ↔ (key, entry) ∈ used
  bytes : cache.bytes = total MemoryEntry.bytes used
  ordered : used.Pairwise fun a b => a.2.lastUsed < b.2.lastUsed
  stamped : ∀ row ∈ used, row.2.lastUsed ≤ cache.clock

theorem InUse.initial : InUse ({} : PreviewMemoryCache Image) [] where
  keys := List.nodup_nil
  entries := by simp
  bytes := rfl
  ordered := List.Pairwise.nil
  stamped := by simp

theorem InUse.perm (h : InUse cache used) : cache.entries.toList.Perm used := by
  have hkeys : (cache.entries.toList.map (·.1)).Nodup := by
    rw [Std.ExtTreeMap.map_fst_toList_eq_keys]
    exact Std.ExtTreeMap.nodup_keys
  refine (List.perm_ext_iff_of_nodup (List.Nodup.of_map _ hkeys) (List.Nodup.of_map _ h.keys)).mpr ?_
  rintro ⟨key, entry⟩
  rw [Std.ExtTreeMap.mem_toList_iff_getElem?_eq_some, h.entries]

theorem InUse.size (h : InUse cache used) : cache.entries.size = used.length := by
  rw [← Std.ExtTreeMap.length_toList, h.perm.length_eq]

theorem InUse.sum (h : InUse cache used) :
    cache.bytes = (cache.entries.toList.map fun entry => entry.2.bytes).sum := by
  rw [h.bytes, total]
  exact ((h.perm.map _).sum_nat).symm

theorem InUse.lookup (h : InUse cache used) (key : String) :
    (cache.entries[key]?).map MemoryEntry.content =
      valueOf key (used.map (Prod.map id MemoryEntry.content)) := by
  rw [valueOf_map]
  congr 1
  ext entry
  rw [h.entries, valueOf_eq_some h.keys]

/-- The entry with the oldest stamp is the first in the order. -/
theorem InUse.oldestKey (h : InUse cache (row :: used)) : cache.oldestKey = some row.1 := by
  unfold PreviewMemoryCache.oldestKey
  have hmem : row ∈ cache.entries.toList := h.perm.mem_iff.mpr List.mem_cons_self
  cases hleast : cache.entries.toList.argmin fun entry => entry.2.lastUsed with
  | none =>
    rw [List.argmin_eq_none] at hleast
    rw [hleast] at hmem
    cases hmem
  | some least =>
    have hle : least.2.lastUsed ≤ row.2.lastUsed :=
      List.le_of_mem_argmin (f := fun entry => entry.2.lastUsed) hmem hleast
    rcases List.mem_cons.mp (h.perm.mem_iff.mp (List.argmin_mem hleast)) with rfl | hrest
    · rfl
    · have hlater := List.rel_of_pairwise_cons h.ordered hrest
      omega

theorem InUse.tick (h : InUse cache used) (hclock : cache.clock < u64Max) :
    InUse cache.tick used ∧ cache.tick.clock = cache.clock + 1 := by
  have htick : cache.tick.clock = cache.clock + 1 := Nat.min_eq_left hclock
  refine ⟨⟨h.keys, h.entries, h.bytes, h.ordered, fun row hrow => ?_⟩, htick⟩
  rw [htick]
  exact Nat.le_succ_of_le (h.stamped row hrow)

/-- What is used now comes last. -/
theorem InUse.stamp (h : InUse cache used) (key : String) (image : Image) (bytes sum : Nat)
    (hsum : sum = total MemoryEntry.bytes (without key used) + bytes)
    (hlater : ∀ row ∈ used, row.2.lastUsed < cache.clock) :
    InUse (PreviewMemoryCache.stamp { cache with bytes := sum } key image bytes)
      (without key used ++ [(key, { image, bytes, lastUsed := cache.clock })]) where
  keys := by
    rw [List.map_append, List.nodup_append_comm]
    exact List.nodup_cons.mpr ⟨not_mem_keys_without, h.keys.sublist (without_sublist.map _)⟩
  entries other entry := by
    simp only [PreviewMemoryCache.stamp, Std.ExtTreeMap.getElem?_insert,
      List.mem_append, mem_without, List.mem_singleton, Prod.mk.injEq]
    by_cases hkey : key = other
    · subst hkey
      simp [eq_comm]
    · simp [hkey, Ne.symm hkey, h.entries]
  bytes := by simp [PreviewMemoryCache.stamp, hsum]
  ordered := by
    rw [List.pairwise_append]
    refine ⟨h.ordered.sublist without_sublist, List.pairwise_singleton _ _, ?_⟩
    intro row hrow last hlast
    rw [List.mem_singleton.mp hlast]
    exact hlater row (mem_without.mp hrow).1
  stamped := by
    intro row hrow
    rcases List.mem_append.mp hrow with hrow | hrow
    · exact Nat.le_of_lt (hlater row (mem_without.mp hrow).1)
    · rw [List.mem_singleton.mp hrow]
      exact Nat.le_refl _

theorem InUse.get (h : InUse cache used) (hclock : cache.clock < u64Max) (key : String) :
    ∃ next, InUse (cache.get key).2 next ∧ (cache.get key).2.clock ≤ cache.clock + 1 ∧
      (cache.get key).1 = (valueOf key (used.map (Prod.map id MemoryEntry.content))).map (·.1) ∧
      next.map (Prod.map id MemoryEntry.content) =
        touch key (used.map (Prod.map id MemoryEntry.content)) := by
  unfold PreviewMemoryCache.get touch
  rw [← h.lookup]
  cases hentry : cache.entries[key]? with
  | none => exact ⟨used, h, Nat.le_succ _, rfl, rfl⟩
  | some entry =>
    obtain ⟨htick, hnow⟩ := h.tick hclock
    have htotal := total_without MemoryEntry.bytes h.keys ((h.entries key entry).mp hentry)
    have hstamp := htick.stamp key entry.image entry.bytes cache.bytes (by rw [htotal, h.bytes])
      fun row hrow => by
        rw [hnow]
        exact Nat.lt_succ_of_le (h.stamped row hrow)
    refine ⟨_, hstamp, Nat.le_of_eq hnow, rfl, ?_⟩
    simp [without_map, MemoryEntry.content]

end Order

/-- The subtraction is the one of numbers wherever that one stays above zero. -/
def Exact {m : Type → Type} [Monad m] (subtract : Nat → Nat → m Nat) : Prop :=
  ∀ a b, b ≤ a → subtract a b = pure (a - b)

theorem exact_saturatingSub : Exact saturatingSub := fun _ _ _ => rfl

theorem exact_checkedSub : Exact checkedSub := fun _ _ h => if_pos h

/-- Every exact subtraction leads the call to the result. -/
def Gives {A : Type} (call : ∀ {m : Type → Type} [Monad m], (Nat → Nat → m Nat) → m A) (result : A) :
    Prop :=
  ∀ {m : Type → Type} [Monad m] [LawfulMonad m] {subtract : Nat → Nat → m Nat},
    Exact subtract → call subtract = pure result

section Subtractions

variable {Image : Type} {cache : PreviewMemoryCache Image}
  {used others : List (String × MemoryEntry Image)} {newest : String × MemoryEntry Image}
  {usizeMax : Nat}

theorem InUse.removeEntry (h : InUse cache used) (key : String) :
    ∃ next, Gives (fun subtract => cache.removeEntry subtract key) next ∧
      InUse next (without key used) ∧ next.clock = cache.clock := by
  unfold PreviewMemoryCache.removeEntry
  cases hentry : cache.entries[key]? with
  | none =>
    have habsent : ∀ entry, (key, entry) ∉ used := fun entry hmem => by
      rw [(h.entries key entry).mpr hmem] at hentry
      cases hentry
    refine ⟨cache, fun _ => rfl, ?_, rfl⟩
    rw [without_of_absent habsent]
    exact h
  | some removed =>
    have hmem := (h.entries key removed).mp hentry
    have htotal := total_without MemoryEntry.bytes h.keys hmem
    have hle : removed.bytes ≤ cache.bytes := by
      rw [h.bytes]
      exact size_le_total MemoryEntry.bytes hmem
    refine ⟨{ cache with entries := cache.entries.erase key, bytes := cache.bytes - removed.bytes },
      fun hexact => by simp [hexact _ _ hle], ⟨?_, ?_, ?_, ?_, ?_⟩, rfl⟩
    · exact h.keys.sublist (without_sublist.map _)
    · intro other entry
      rw [Std.ExtTreeMap.getElem?_erase, mem_without]
      by_cases hkey : key = other
      · subst hkey
        simp
      · simp [hkey, Ne.symm hkey, h.entries]
    · rw [← h.bytes] at htotal
      exact Nat.sub_eq_of_eq_add htotal.symm
    · exact h.ordered.sublist without_sublist
    · exact fun row hrow => h.stamped row (mem_without.mp hrow).1

/-- The loop removes the others from the oldest on, and the newest entry stays. -/
theorem InUse.evict (h : InUse cache (others ++ [newest])) {turns : Nat}
    (hturns : others.length ≤ turns) :
    ∃ next, Gives (fun subtract => PreviewMemoryCache.evict subtract turns cache) next ∧
      next.clock = cache.clock ∧ InUse next
        (makeRoom MemoryEntry.bytes memoryCacheLimitBytes newest.2.bytes others ++ [newest]) := by
  have hbytes : cache.bytes = total MemoryEntry.bytes others + newest.2.bytes := by
    rw [h.bytes]
    simp
  have hsize : cache.entries.size = others.length + 1 := by
    rw [h.size]
    simp
  induction others generalizing cache turns with
  | nil =>
    cases turns with
    | zero => exact ⟨cache, fun _ => rfl, rfl, h⟩
    | succ turns => exact ⟨cache, fun _ => if_neg (by simp [hsize]), rfl, h⟩
  | cons row others ih =>
    obtain ⟨turns, rfl⟩ : ∃ rest, turns = rest + 1 := ⟨turns - 1, by simp at hturns; omega⟩
    unfold PreviewMemoryCache.evict
    by_cases hroom : total MemoryEntry.bytes (row :: others) + newest.2.bytes ≤ memoryCacheLimitBytes
    · refine ⟨cache, fun _ => if_neg (by omega), rfl, ?_⟩
      rw [makeRoom_of_roomy hroom]
      exact h
    · obtain ⟨next, hremove, hnext, hclock⟩ := h.removeEntry row.1
      have hrest : without row.1 (row :: others ++ [newest]) = others ++ [newest] := by
        rw [List.cons_append, without_cons_self]
        exact without_of_absent (absent_of_nodup h.keys)
      rw [hrest] at hnext
      obtain ⟨last, hevict, hlast, hkept⟩ := ih hnext (by simp at hturns; omega)
        (by rw [hnext.bytes]; simp) (by rw [hnext.size]; simp)
      refine ⟨last, ?_, hlast.trans hclock, ?_⟩
      · intro m _ _ subtract hexact
        beta_reduce
        rw [if_pos ⟨by omega, by simp [hsize]⟩, h.oldestKey]
        simp only [hremove hexact, pure_bind]
        exact hevict hexact
      · rw [makeRoom_of_full (Nat.lt_of_not_le hroom)]
        exact hkept

theorem InUse.insert (h : InUse cache used) (hclock : cache.clock < u64Max) (key : String)
    (image : Image) {bytes : Nat}
    (hfits : total MemoryEntry.bytes (without key used) + bytes ≤ usizeMax) :
    ∃ next after, Gives (fun subtract => cache.insert subtract usizeMax key image bytes) next ∧
      next.clock = cache.clock + 1 ∧ InUse next after ∧
      after.map (Prod.map id MemoryEntry.content) = store (·.2) memoryCacheLimitBytes key
        (image, bytes) (used.map (Prod.map id MemoryEntry.content)) := by
  obtain ⟨htick, hnow⟩ := h.tick hclock
  obtain ⟨cleared, hremove, hcleared, hsame⟩ := htick.removeEntry key
  have hgone : without key (without key used) = without key used :=
    without_of_absent fun entry hmem => (mem_without.mp hmem).2 rfl
  have hsum : saturatingAdd usizeMax cleared.bytes bytes =
      total MemoryEntry.bytes (without key (without key used)) + bytes := by
    rw [hgone, saturatingAdd, hcleared.bytes, Nat.min_eq_left hfits]
  have hstamp := hcleared.stamp key image bytes _ hsum fun row hrow => by
    rw [hsame, hnow]
    exact Nat.lt_succ_of_le (h.stamped row (mem_without.mp hrow).1)
  rw [hgone] at hstamp
  have hturns := hstamp.size
  rw [List.length_append] at hturns
  obtain ⟨next, hevict, hlast, hkept⟩ := hstamp.evict
    (Nat.le_trans (Nat.le_add_right _ _) (Nat.le_of_eq hturns.symm))
  refine ⟨next, _, ?_, hlast.trans (hsame.trans hnow), hkept, ?_⟩
  · intro m _ _ subtract hexact
    unfold PreviewMemoryCache.insert
    simp only [hremove hexact, pure_bind]
    exact hevict hexact
  · rw [store, without_map, makeRoom_map]
    simp [MemoryEntry.content, Function.comp_def]

theorem InUse.remove (h : InUse cache used) (keys : List String) :
    ∃ next after, Gives (fun subtract => cache.remove subtract keys) next ∧
      next.clock = cache.clock ∧ InUse next after ∧ after.map (Prod.map id MemoryEntry.content) =
        keys.foldl (fun rows key => without key rows)
          (used.map (Prod.map id MemoryEntry.content)) := by
  unfold PreviewMemoryCache.remove
  induction keys generalizing cache used with
  | nil => exact ⟨cache, used, fun _ => rfl, rfl, h, rfl⟩
  | cons key keys ih =>
    obtain ⟨next, hremove, hnext, hclock⟩ := h.removeEntry key
    obtain ⟨last, after, hrest, hlast, hafter, hrows⟩ := ih hnext
    refine ⟨last, after, ?_, hlast.trans hclock, hafter, ?_⟩
    · intro m _ _ subtract hexact
      simp only [List.foldlM_cons, hremove hexact, pure_bind]
      exact hrest hexact
    · rw [hrows, List.foldl_cons, without_map]

theorem inUse_clear : InUse cache.clear [] where
  keys := List.nodup_nil
  entries := by simp [PreviewMemoryCache.clear]
  bytes := rfl
  ordered := List.Pairwise.nil
  stamped := by simp

end Subtractions

section Calls

variable {Image : Type}

/-- What a call of `insert` has to leave behind: the image, and of the others as many of the last
used as there is room for. -/
structure Inserted (cache next : PreviewMemoryCache Image) (rows : ImageRows Image) (key : String)
    (image : Image) (bytes : Nat) : Prop where
  bounded : next.bytes ≤ memoryCacheLimitBytes ∨ next.entries.size = 1
  present : (next.entries[key]?).map MemoryEntry.content = some (image, bytes)
  evicted : ∃ evicted kept, ShortestEviction (·.2) memoryCacheLimitBytes bytes (without key rows)
    evicted kept ∧ ∀ other, other ≠ key →
      (next.entries[other]?).map MemoryEntry.content = valueOf other kept ∧
        (other ∈ evicted.map (·.1) ↔ other ∈ cache.entries ∧ other ∉ next.entries)

/-- A call on the cache does what it does on the list of the images. -/
structure Served (usizeMax : Nat) (action : CacheAction Image)
    (state : PreviewMemoryCache Image × ImageRows Image) : Prop where
  unsaturated : serveWith checkedSub usizeMax state.1 action = some (serve usizeMax state.1 action)
  output : (serve usizeMax state.1 action).1 = (useImages state.2 action).1
  entries : ∀ key, ((serve usizeMax state.1 action).2.entries[key]?).map MemoryEntry.content =
    valueOf key (useImages state.2 action).2
  bytes : (serve usizeMax state.1 action).2.bytes =
    ((serve usizeMax state.1 action).2.entries.toList.map fun entry => entry.2.bytes).sum
  inserted : ∀ key image bytes, action = .insert key image bytes →
    Inserted state.1 (serve usizeMax state.1 action).2 state.2 key image bytes

/-- The sizes of the images that are present together fit `usize`. -/
def SizesFit (usizeMax : Nat) : CacheAction Image → ImageRows Image → Prop
  | .insert key _ bytes, rows => total (·.2) (without key rows) + bytes ≤ usizeMax
  | _, _ => True

def serveBoth (usizeMax : Nat) (action : CacheAction Image)
    (state : PreviewMemoryCache Image × ImageRows Image) :
    PreviewMemoryCache Image × ImageRows Image :=
  ((serve usizeMax state.1 action).2, (useImages state.2 action).2)

variable {cache next : PreviewMemoryCache Image} {used after : List (String × MemoryEntry Image)}
  {rows : ImageRows Image} {usizeMax : Nat} {action : CacheAction Image}

/-- The invariant: the images in the order of their stamps are the ones of the list. -/
def Follows (cache : PreviewMemoryCache Image) (rows : ImageRows Image) : Prop :=
  ∃ used, InUse cache used ∧ used.map (Prod.map id MemoryEntry.content) = rows

theorem Follows.lookup (h : Follows cache rows) (key : String) :
    (cache.entries[key]?).map MemoryEntry.content = valueOf key rows := by
  obtain ⟨used, hused, rfl⟩ := h
  exact hused.lookup key

theorem Follows.keys (h : Follows cache rows) : (rows.map (·.1)).Nodup := by
  obtain ⟨used, hused, rfl⟩ := h
  simpa [Function.comp_def] using hused.keys

theorem Follows.mem (h : Follows cache rows) (key : String) :
    key ∈ cache.entries ↔ key ∈ rows.map (·.1) := by
  obtain ⟨used, hused, rfl⟩ := h
  rw [← Std.ExtTreeMap.isSome_getElem?_iff_mem, Option.isSome_iff_exists]
  simp [hused.entries]

theorem Follows.bytes (h : Follows cache rows) : cache.bytes = total (·.2) rows := by
  obtain ⟨used, hused, rfl⟩ := h
  rw [hused.bytes, total_map]
  rfl

theorem Follows.size (h : Follows cache rows) : cache.entries.size = rows.length := by
  obtain ⟨used, hused, rfl⟩ := h
  rw [hused.size, List.length_map]

theorem Follows.step (h : Follows cache rows) (hclock : cache.clock < u64Max)
    (hfits : SizesFit usizeMax action rows) :
    ∃ next, Gives (fun subtract => serveWith subtract usizeMax cache action)
        ((useImages rows action).1, next) ∧
      Follows next (useImages rows action).2 ∧ next.clock ≤ cache.clock + 1 := by
  obtain ⟨used, hused, rfl⟩ := h
  cases action with
  | get key =>
    obtain ⟨after, hafter, hnow, houtput, hrows⟩ := hused.get hclock key
    refine ⟨(cache.get key).2, fun _ => ?_, ⟨after, hafter, hrows⟩, hnow⟩
    rw [useImages, ← houtput]
    rfl
  | insert key image bytes =>
    have hroom : total MemoryEntry.bytes (without key used) + bytes ≤ usizeMax := by
      rw [SizesFit, without_map, total_map] at hfits
      exact hfits
    obtain ⟨next, after, hinsert, hnow, hafter, hrows⟩ := hused.insert hclock key image hroom
    refine ⟨next, fun hexact => ?_, ⟨after, hafter, hrows⟩, Nat.le_of_eq hnow⟩
    simp [serveWith, hinsert hexact, useImages]
  | remove keys =>
    obtain ⟨next, after, hremove, hnow, hafter, hrows⟩ := hused.remove keys
    refine ⟨next, fun hexact => ?_, ⟨after, hafter, hrows⟩, Nat.le_succ_of_le (Nat.le_of_eq hnow)⟩
    simp [serveWith, hremove hexact, useImages]
  | clear => exact ⟨cache.clear, fun _ => rfl, ⟨[], inUse_clear, rfl⟩, Nat.le_succ _⟩

theorem Follows.inserted (h : Follows cache rows) {key : String} {image : Image} {bytes : Nat}
    (hnext : Follows next (store (·.2) memoryCacheLimitBytes key (image, bytes) rows)) :
    Inserted cache next rows key image bytes := by
  unfold store at hnext
  obtain ⟨evicted, heviction⟩ : ∃ evicted, ShortestEviction (·.2) memoryCacheLimitBytes bytes
      (without key rows) evicted (makeRoom (·.2) memoryCacheLimitBytes bytes (without key rows)) :=
    makeRoom_eviction _
  generalize makeRoom (·.2) memoryCacheLimitBytes bytes (without key rows) = kept at hnext heviction
  have hkeys : ((without key rows).map (·.1)).Nodup := h.keys.sublist (without_sublist.map _)
  rw [heviction.split, List.map_append] at hkeys
  refine ⟨?_, ?_, evicted, kept, heviction, fun other hother => ⟨?_, ?_⟩⟩
  · rw [hnext.bytes, hnext.size]
    refine heviction.roomy.imp (fun hroom => by simpa using hroom) fun hnone => ?_
    rw [hnone]
    rfl
  · rw [hnext.lookup, valueOf_eq_some hnext.keys]
    simp
  · rw [hnext.lookup, valueOf_append_of_ne hother]
  · have hrows : other ∈ (without key rows).map (·.1) ↔ other ∈ rows.map (·.1) :=
      mem_keys_without hother
    rw [h.mem, hnext.mem, ← hrows, heviction.split, List.map_append, List.map_append]
    have hapart := List.disjoint_of_nodup_append hkeys
    simp only [List.mem_append, List.map_cons, List.map_nil, List.mem_singleton, hother, or_false]
    constructor
    · exact fun hgone => ⟨.inl hgone, fun hkept => hapart hgone hkept⟩
    · rintro ⟨hgone | hkept, hmissing⟩
      · exact hgone
      · exact absurd hkept hmissing

theorem Follows.sum (h : Follows cache rows) :
    cache.bytes = (cache.entries.toList.map fun entry => entry.2.bytes).sum := by
  obtain ⟨used, hused, -⟩ := h
  exact hused.sum

/-- One call. -/
theorem Follows.served (h : Follows cache rows) (hclock : cache.clock < u64Max)
    (hfits : SizesFit usizeMax action rows) : Served usizeMax action (cache, rows) ∧
      Follows (serve usizeMax cache action).2 (useImages rows action).2 ∧
      (serve usizeMax cache action).2.clock ≤ cache.clock + 1 := by
  obtain ⟨next, hgives, hnext, hnow⟩ := h.step hclock hfits
  have hserve : serve usizeMax cache action = ((useImages rows action).1, next) :=
    hgives exact_saturatingSub
  rw [hserve]
  refine ⟨⟨?_, ?_, ?_, ?_, ?_⟩, hnext, hnow⟩
  · rw [hserve]
    exact hgives exact_checkedSub
  · rw [hserve]
  · rw [hserve]
    exact hnext.lookup
  · rw [hserve]
    exact hnext.sum
  · rintro key image bytes rfl
    rw [hserve]
    exact h.inserted hnext

theorem Follows.run {actions : List (CacheAction Image)} (h : Follows cache rows)
    (hcount : cache.clock + actions.length ≤ u64Max)
    (hfits : AtEachStep (fun action rows => (useImages rows action).2) (SizesFit usizeMax) actions
      rows) : AtEachStep (serveBoth usizeMax) (Served usizeMax) actions (cache, rows) := by
  induction actions generalizing cache rows with
  | nil => trivial
  | cons action actions ih =>
    rw [List.length_cons] at hcount
    obtain ⟨hserved, hnext, hnow⟩ := h.served (by omega) hfits.1
    exact ⟨hserved, ih hnext (Nat.le_trans (Nat.add_le_add_right hnow _) (by omega)) hfits.2⟩

/-- Over every run of fewer than 2 ^ 64 calls whose images fit `usize`, the cache is the list of
the images in the order of their last use. -/
theorem preview_memory_cache_is_a_bounded_lru (usizeMax : Nat) (actions : List (CacheAction Image))
    (hcount : actions.length < 2 ^ 64)
    (hfits : AtEachStep (fun action rows => (useImages rows action).2) (SizesFit usizeMax) actions
      []) :
    AtEachStep (serveBoth usizeMax) (Served usizeMax) actions ({}, []) := by
  have hinitial : Follows ({} : PreviewMemoryCache Image) [] := ⟨[], InUse.initial, rfl⟩
  refine hinitial.run ?_ hfits
  rw [Nat.zero_add, u64Max]
  omega

/-- The third image takes the place of the second, which was used before the first. -/
theorem preview_memory_cache_evicts_the_oldest :
    AtEachStep (serveBoth (2 ^ 64 - 1)) (Served (2 ^ 64 - 1))
      [.insert "first" () 60000000, .insert "second" () 30000000, .get "first",
        .insert "third" () 40000000, .remove ["first"], .clear] ({}, []) :=
  preview_memory_cache_is_a_bounded_lru _ _ (by decide) (by
    simp [AtEachStep, SizesFit, useImages, store, touch, valueOf, without, makeRoom,
      memoryCacheLimitBytes])

end Calls

end ArtForgeStudio.Previews
