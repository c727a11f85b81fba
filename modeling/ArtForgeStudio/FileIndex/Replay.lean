import ArtForgeStudio.FileIndex.Rebind
import Mathlib.Data.List.Find

/-! # Replaying a migration

The items of a migration are about different rows, so their effects commute. A run of the items
succeeds when no copy has an identity that a row of the user still has by then.
-/

namespace ArtForgeStudio.FileIndex

open ArtForgeStudio.Outcome ArtForgeStudio.KeyedRows ArtForgeStudio.OwnedRows
  ArtForgeStudio.Directories

section Effects

variable {user : String} {item other : Item} {index next : Index} {row : ManagedFileRow}
  {after : StableFileIdentity}

theorem fate_self (h : row.nameKey = item.nameKey user) : item.fate user row =
    item.2.after.map fun after => rebound after item.2.bytes row := if_pos h

theorem files_effect : (item.effect user index).files = index.files.filterMap (item.fate user) := rfl

theorem references_effect : (item.effect user index).references =
    index.references.filter fun row => !item.removes user index row.fileId := rfl

theorem previews_effect : (item.effect user index).previews = index.previews.filter fun row =>
    !item.removes user index row.sourceFileId && !item.removes user index row.previewFileId &&
      !(row.userPublicId = user && item.replaces user index row.sourceFileId) := rfl

theorem index_ext (hfiles : index.files = next.files) (hreferences : index.references = next.references)
    (hpreviews : index.previews = next.previews) : index = next := by
  cases index
  cases next
  subst hfiles hreferences hpreviews
  rfl

theorem mem_effect : row ∈ (item.effect user index).files ↔
    ∃ old ∈ index.files, item.fate user old = some row := by
  rw [files_effect, List.mem_filterMap]

theorem mem_effect_of_ne (hrow : row ∈ index.files) (hne : row.nameKey ≠ item.nameKey user) :
    row ∈ (item.effect user index).files :=
  mem_effect.mpr ⟨row, hrow, fate_of_ne hne⟩

/-- Another item's row stays. -/
theorem row_effect (hne : other.nameKey user ≠ item.nameKey user) :
    item.row user (other.effect user index) = item.row user index := by
  have hmatch : ∀ row ∈ index.files, ((other.fate user row).any fun row =>
      row.nameKey = item.nameKey user) = decide (row.nameKey = item.nameKey user) := by
    intro row _
    by_cases h : row.nameKey = item.nameKey user
    · rw [fate_of_ne (h ▸ hne.symm)]
      rfl
    · cases hfate : other.fate user row with
      | none => simp [h]
      | some image => simp [h, (nameKey_of_fate hfate).1]
  rw [Item.row, files_effect, List.find?_filterMap, List.find?_congr hmatch]
  cases hfound : item.row user index with
  | none => exact congrArg (Option.bind · _) hfound
  | some row =>
    have hname : row.nameKey = item.nameKey user := by simpa using List.find?_some hfound
    refine (congrArg (Option.bind · _) hfound).trans ?_
    exact fate_of_ne (hname ▸ hne.symm)

/-- What the item leaves of its row. -/
theorem row_effect_self : item.row user (item.effect user index) =
    (item.row user index).bind (item.fate user) := by
  rw [Item.row, files_effect, List.find?_filterMap]
  cases hafter : item.2.after with
  | none =>
    have hgone : ∀ row ∈ index.files, ¬((item.fate user row).any fun row =>
        row.nameKey = item.nameKey user) := by
      intro row _
      by_cases h : row.nameKey = item.nameKey user
      · simp [fate_self h, hafter]
      · simp [fate_of_ne h, h]
    rw [List.find?_eq_none.mpr hgone]
    cases hfound : item.row user index with
    | none => rfl
    | some row =>
      have hname : row.nameKey = item.nameKey user := by simpa using List.find?_some hfound
      simp [fate_self hname, hafter]
  | some after =>
    have hmatch : ∀ row ∈ index.files, ((item.fate user row).any fun row =>
        row.nameKey = item.nameKey user) = decide (row.nameKey = item.nameKey user) := by
      intro row _
      by_cases h : row.nameKey = item.nameKey user
      · simp [fate_self h, hafter, h]
      · simp [fate_of_ne h, h]
    rw [List.find?_congr hmatch]
    rfl

theorem removes_effect (hne : other.nameKey user ≠ item.nameKey user) :
    item.removes user (other.effect user index) = item.removes user index := by
  funext id
  rw [Item.removes, Item.removes, row_effect hne]

theorem replaces_effect (hne : other.nameKey user ≠ item.nameKey user) :
    item.replaces user (other.effect user index) = item.replaces user index := by
  funext id
  simp only [Item.replaces, row_effect hne]

theorem fate_comm (hne : other.nameKey user ≠ item.nameKey user) :
    (item.fate user row).bind (other.fate user) = (other.fate user row).bind (item.fate user) := by
  by_cases hitem : row.nameKey = item.nameKey user
  · have hother : row.nameKey ≠ other.nameKey user := hitem ▸ hne.symm
    rw [fate_of_ne hother, Option.bind_some]
    cases hfate : item.fate user row with
    | none => rfl
    | some image => exact fate_of_ne ((nameKey_of_fate hfate).1 ▸ hother)
  · rw [fate_of_ne hitem, Option.bind_some]
    cases hfate : other.fate user row with
    | none => rfl
    | some image => exact (fate_of_ne ((nameKey_of_fate hfate).1 ▸ hitem)).symm

/-- Items about different rows commute. -/
theorem effect_comm (hne : other.nameKey user ≠ item.nameKey user) :
    other.effect user (item.effect user index) = item.effect user (other.effect user index) := by
  refine index_ext ?_ ?_ ?_
  · rw [files_effect, files_effect, files_effect, files_effect, List.filterMap_filterMap,
      List.filterMap_filterMap]
    exact List.filterMap_congr fun row _ => fate_comm hne
  · simp only [references_effect, List.filter_filter, removes_effect hne, removes_effect hne.symm]
    exact List.filter_congr fun _ _ => Bool.and_comm _ _
  · simp only [previews_effect, List.filter_filter, removes_effect hne, removes_effect hne.symm,
      replaces_effect hne, replaces_effect hne.symm]
    exact List.filter_congr fun _ _ => Bool.and_comm _ _

/-- A free item keeps the constraints. -/
theorem constrained_effect (hindex : index.Constrained) (hprepared : item.Prepared user index)
    (hfree : item.Free user index) : (item.effect user index).Constrained := by
  obtain ⟨row, hrow, hname, -⟩ := hprepared
  cases hafter : item.2.after with
  | none =>
    have hfiles : (item.effect user index).files = _ :=
      files_effect.trans (filterMap_fate_of_none hafter)
    constructor
    · rw [hfiles]
      exact ⟨uniqueKeys_filter hindex.unique.1, uniqueKeys_filter hindex.unique.2.1,
        uniqueKeys_filter hindex.unique.2.2⟩
    · intro other hother
      rw [hfiles] at hother
      exact hindex.checked other (List.mem_of_mem_filter hother)
  | some after =>
    have hfiles : (item.effect user index).files = _ :=
      files_effect.trans (filterMap_fate_of_some hafter)
    constructor
    · rw [hfiles]
      exact (uniqueFiles_rebound hindex.unique hrow hname).mpr (hfree after hafter).2
    · intro other hother
      rw [hfiles] at hother
      obtain ⟨old, hold, rfl⟩ := List.mem_map.mp hother
      split
      · exact check_rebound (hindex.checked old hold) (Int.natCast_nonneg _)
      · exact hindex.checked old hold

theorem prepared_effect (hne : other.nameKey user ≠ item.nameKey user)
    (hprepared : item.Prepared user index) : item.Prepared user (other.effect user index) := by
  obtain ⟨row, hrow, hname, hidentity, hrecord⟩ := hprepared
  exact ⟨row, mem_effect_of_ne hrow (hname ▸ hne.symm), hname, hidentity, hrecord⟩

/-- The item's row is as the item leaves it. -/
def Item.Settled (user : String) (item : Item) (index : Index) : Prop :=
  (∃ key, ManagedFileKey.new item.1 item.2.path = .ok key) ∧
  match item.2.after with
  | none => item.row user index = none
  | some after => item.2.bytes < 0x8000000000000000 ∧ ∃ row record,
      item.row user index = some row ∧ rebound after item.2.bytes row = row ∧ mapFile row = .ok record

theorem mapFile_rebound {record : ManagedFileRecord} {bytes : Int} (hbytes : 0 ≤ bytes)
    (h : mapFile row = .ok record) : ∃ image, mapFile (rebound after bytes row) = .ok image := by
  simp only [mapFile, bind_eq_ok, pure_eq_ok] at h ⊢
  obtain ⟨key, hkey, -, -, owner, howner, -, -, -⟩ := h
  refine ⟨_, key, hkey, bytes.toNat, if_pos hbytes, owner, howner, after, ?_, rfl⟩
  exact mapError_eq_ok.mpr (fromStorageBytes_toStorageBytes after)

theorem settled_effect (hindex : index.Constrained) (hprepared : item.Prepared user index)
    (hfree : item.Free user index) : item.Settled user (item.effect user index) := by
  obtain ⟨row, -, key, hfound, -, -, -, hkey, -⟩ := queryKey_item hindex.unique hprepared
  obtain ⟨hrow, hname⟩ := (row_eq_some hindex.unique).mp hfound
  refine ⟨⟨key, hkey⟩, ?_⟩
  rw [row_effect_self, hfound, Option.bind_some, fate_self hname]
  cases hafter : item.2.after with
  | none => rfl
  | some after =>
    obtain ⟨same, hsame, hsameName, -, record, hrecord⟩ := hprepared
    obtain rfl := eq_of_key hindex.unique.2.1 hsame hrow (hsameName.trans hname.symm)
    obtain ⟨image, himage⟩ := @mapFile_rebound _ after _ _ (Int.natCast_nonneg item.2.bytes) hrecord
    exact ⟨(hfree after hafter).1, _, image, rfl, rfl, himage⟩

theorem settled_of_ne (hne : other.nameKey user ≠ item.nameKey user)
    (hsettled : item.Settled user index) : item.Settled user (other.effect user index) := by
  unfold Item.Settled at hsettled ⊢
  rwa [row_effect hne]

/-- An item that is done is replayed as nothing. -/
theorem rebindEntry_settled (hindex : index.Constrained) (hsettled : item.Settled user index) :
    rebindEntry user item.1 index item.2 = .ok index := by
  obtain ⟨⟨key, hkey⟩, hrow⟩ := hsettled
  obtain ⟨hkeyArea, hkeyPath⟩ := ManagedFileKey.new_eq_ok.mp hkey
  have hquery : index.queryKey user key = decoded mapFile (item.row user index) := by
    rw [Index.queryKey, hkeyArea, hkeyPath]
    rfl
  have hentry : rebindEntry user item.1 index item.2 =
      (decoded mapFile (item.row user index) >>= fun record => match item.2.after with
        | none => removeMissing user item.2 record index
        | some after => rebindCopied user item.2 after record index) := by
    rw [rebindEntry, hkey, ← hquery]
    rfl
  rw [hentry]
  cases hafter : item.2.after with
  | none =>
    rw [hafter] at hrow
    rw [hrow]
    rfl
  | some after =>
    rw [hafter] at hrow
    obtain ⟨hbytes, row, record, hfound, hsame, hrecord⟩ := hrow
    have hmap : decoded mapFile (item.row user index) = .ok (some record) := by
      rw [hfound, decoded, hrecord]
      rfl
    obtain ⟨hid, -, -, -, hstored⟩ := mapFile_ok hrecord
    have hidentity : record.physicalIdentity = after := by
      refine toStorageBytes_injective (hstored.trans ?_)
      exact congrArg ManagedFileRow.physicalIdentity hsame.symm
    obtain ⟨hrow, hname⟩ := (row_eq_some hindex.unique).mp hfound
    have hstoredIdentity : row.physicalIdentity = after.toStorageBytes :=
      (congrArg ManagedFileRow.physicalIdentity hsame).symm
    have hfree : ∀ other ∈ index.files, other.userPublicId = user →
        other.nameKey ≠ item.nameKey user → other.physicalIdentity ≠ after.toStorageBytes := by
      intro other hother huser hotherName hotherIdentity
      refine hotherName (eq_of_key hindex.unique.2.2 hother hrow ?_ ▸ hname)
      exact Prod.ext (huser.trans (congrArg Prod.fst hname).symm)
        (hotherIdentity.trans hstoredIdentity.symm)
    have hfiles : (index.files.map fun other => if other.nameKey = item.nameKey user then
        rebound after item.2.bytes other else other) = index.files := by
      refine (List.map_congr_left (g := id) fun other hother => ?_).trans (List.map_id _)
      split
      · rename_i hotherName
        rw [eq_of_key hindex.unique.2.1 hother hrow (hotherName.trans hname.symm), hsame, id]
      · rfl
    have hupdate : index.updateFile user row.id (rebound after item.2.bytes) = .ok index := by
      refine (updateFile_row hindex hfound after (Int.natCast_nonneg _) index.previews).mpr ⟨hfree, ?_⟩
      rw [hfiles]
    rw [hmap]
    change rebindCopied user item.2 after (some record) index = .ok index
    simp only [rebindCopied, expected, bind_eq_ok, exists_unit, ensure_eq_ok, toSqlI64_eq_ok]
    refine ⟨record, rfl, .inr hidentity, item.2.bytes, ⟨hbytes, rfl⟩, ?_⟩
    rw [if_neg (not_not.mpr hidentity), hid]
    exact hupdate

end Effects

/-- The items in a row, in one transaction or in several. -/
def replayItems (user : String) (items : List Item) (index : Index) : Except FileIndexError Index :=
  items.foldlM (fun index item => rebindEntry user item.1 index item.2) index

/-- The identity of a copy is not stored for a later item, nor for a row that no item is about. -/
structure Clearance (user : String) (items : List Item) (index : Index) : Prop where
  sizes : ∀ item ∈ items, item.2.after.isSome → item.2.bytes < 0x8000000000000000
  outside : ∀ item ∈ items, ∀ after, item.2.after = some after → ∀ row ∈ index.files,
    row.userPublicId = user → (∀ other ∈ items, row.nameKey ≠ other.nameKey user) →
    row.physicalIdentity ≠ after.toStorageBytes
  stale : items.Pairwise fun item later => item.2.after ≠ some later.2.before
  copies : items.Pairwise fun item later => ∀ after, item.2.after = some after →
    later.2.after ≠ some after

/-- The items are about different rows, all as they were prepared. -/
structure Ready (user : String) (items : List Item) (index : Index) : Prop where
  constrained : index.Constrained
  prepared : ∀ item ∈ items, item.Prepared user index
  names : (items.map (Item.nameKey user)).Nodup

section Runs

variable {user : String} {item other : Item} {items : List Item} {index next final : Index}

theorem Ready.ne (h : Ready user (item :: items) index) (hother : other ∈ items) :
    item.nameKey user ≠ other.nameKey user := by
  have hnames := h.names
  rw [List.map_cons, List.nodup_cons] at hnames
  intro hsame
  exact hnames.1 (hsame ▸ List.mem_map_of_mem hother)

theorem Ready.tail (h : Ready user (item :: items) index) (hfree : item.Free user index) :
    Ready user items (item.effect user index) where
  constrained := constrained_effect h.constrained (h.prepared item List.mem_cons_self) hfree
  prepared other hother :=
    prepared_effect (h.ne hother) (h.prepared other (List.mem_cons_of_mem _ hother))
  names := (List.nodup_cons.mp h.names).2

theorem Clearance.free (h : Clearance user (item :: items) index)
    (hready : Ready user (item :: items) index) : item.Free user index := by
  intro after hafter
  refine ⟨h.sizes item List.mem_cons_self (by simp [hafter]), fun row hrow huser hname => ?_⟩
  by_cases hlater : ∃ other ∈ items, row.nameKey = other.nameKey user
  · obtain ⟨other, hother, hotherName⟩ := hlater
    obtain ⟨same, hsame, hsameName, hidentity, -⟩ :=
      hready.prepared other (List.mem_cons_of_mem _ hother)
    obtain rfl := eq_of_key hready.constrained.unique.2.1 hsame hrow (hsameName.trans hotherName.symm)
    have hstale := (List.pairwise_cons.mp h.stale).1 other hother
    rw [hidentity]
    intro hstored
    exact hstale (hafter.trans (congrArg some (toStorageBytes_injective hstored).symm))
  · refine h.outside item List.mem_cons_self after hafter row hrow huser fun other hother => ?_
    rcases List.mem_cons.mp hother with rfl | hlaterItem
    · exact hname
    · exact fun hsame => hlater ⟨other, hlaterItem, hsame⟩

theorem Clearance.tail (h : Clearance user (item :: items) index) :
    Clearance user items (item.effect user index) where
  sizes other hother := h.sizes other (List.mem_cons_of_mem _ hother)
  stale := (List.pairwise_cons.mp h.stale).2
  copies := (List.pairwise_cons.mp h.copies).2
  outside other hother after hafter row hrow huser hunnamed := by
    obtain ⟨old, hold, hfate⟩ := mem_effect.mp hrow
    by_cases hname : old.nameKey = item.nameKey user
    · rw [fate_self hname] at hfate
      obtain ⟨copy, hcopy, rfl⟩ := Option.map_eq_some_iff.mp hfate
      have hne := (List.pairwise_cons.mp h.copies).1 other hother copy hcopy
      intro hstored
      exact hne (hafter.trans (congrArg some (toStorageBytes_injective hstored).symm))
    · rw [fate_of_ne hname] at hfate
      obtain rfl := Option.some.inj hfate
      refine h.outside other (List.mem_cons_of_mem _ hother) after hafter old hold huser ?_
      intro another hanother
      rcases List.mem_cons.mp hanother with rfl | hrest
      · exact hname
      · exact hunnamed another hrest

theorem clearance_cons (hready : Ready user (item :: items) index) :
    Clearance user (item :: items) index ↔
      item.Free user index ∧ Clearance user items (item.effect user index) := by
  refine ⟨fun h => ⟨h.free hready, h.tail⟩, fun ⟨hfree, hrest⟩ => ⟨?_, ?_, ?_, ?_⟩⟩
  · intro other hother hsome
    rcases List.mem_cons.mp hother with rfl | hlater
    · obtain ⟨after, hafter⟩ := Option.isSome_iff_exists.mp hsome
      exact (hfree after hafter).1
    · exact hrest.sizes other hlater hsome
  · intro other hother after hafter row hrow huser hunnamed
    have hname := hunnamed item List.mem_cons_self
    rcases List.mem_cons.mp hother with rfl | hlater
    · exact (hfree after hafter).2 row hrow huser hname
    · exact hrest.outside other hlater after hafter row (mem_effect_of_ne hrow hname) huser
        fun another hanother => hunnamed another (List.mem_cons_of_mem _ hanother)
  · refine List.pairwise_cons.mpr ⟨fun later hlater hsame => ?_, hrest.stale⟩
    obtain ⟨row, hrow, hname, hidentity, -⟩ := hready.prepared later (List.mem_cons_of_mem _ hlater)
    have hother : row.nameKey ≠ item.nameKey user := hname ▸ (hready.ne hlater).symm
    exact (hfree _ hsame).2 row hrow (congrArg Prod.fst hname) hother hidentity
  · refine List.pairwise_cons.mpr ⟨fun later hlater after hafter hsame => ?_, hrest.copies⟩
    -- The row of the item has the identity now, and no later item is about that row.
    obtain ⟨row, hrow, hname, -⟩ := hready.prepared item List.mem_cons_self
    have himage : rebound after item.2.bytes row ∈ (item.effect user index).files := by
      refine mem_effect.mpr ⟨row, hrow, ?_⟩
      rw [fate_self hname, hafter]
      rfl
    refine hrest.outside later hlater after hsame _ himage (congrArg Prod.fst hname) ?_ rfl
    intro another hanother
    exact hname ▸ hready.ne hanother

/-- A run comes to its end exactly when it is clear, and then every item has had its effect. -/
theorem replayItems_iff (hready : Ready user items index) :
    replayItems user items index = .ok final ↔
      Clearance user items index ∧ final = items.foldl (Item.effect user) index := by
  induction items generalizing index with
  | nil =>
    rw [replayItems, List.foldlM_nil, pure_eq_ok, List.foldl_nil, and_iff_right]
    · exact eq_comm
    · exact ⟨by simp, by simp, List.Pairwise.nil, List.Pairwise.nil⟩
  | cons item items ih =>
    have hstep : ∀ next, rebindEntry user item.1 index item.2 = .ok next ↔
        item.Free user index ∧ next = item.effect user index :=
      fun _ => rebindEntry_iff hready.constrained (hready.prepared item List.mem_cons_self)
    simp only [replayItems, List.foldlM_cons, bind_eq_ok, hstep, List.foldl_cons]
    rw [clearance_cons hready]
    constructor
    · rintro ⟨next, ⟨hfree, rfl⟩, hrest⟩
      obtain ⟨hclear, hfinal⟩ := (ih (hready.tail hfree)).mp hrest
      exact ⟨⟨hfree, hclear⟩, hfinal⟩
    · rintro ⟨⟨hfree, hclear⟩, hfinal⟩
      exact ⟨_, ⟨hfree, rfl⟩, (ih (hready.tail hfree)).mpr ⟨hclear, hfinal⟩⟩

/-- The effects of a run do not depend on its order. -/
theorem foldl_effect_perm {others : List Item} (hnames : (items.map (Item.nameKey user)).Nodup)
    (hperm : items.Perm others) : items.foldl (Item.effect user) index =
      others.foldl (Item.effect user) index := by
  refine hperm.foldl_eq' (fun one hone other hother index => ?_) index
  by_cases hsame : one.nameKey user = other.nameKey user
  · rw [List.inj_on_of_nodup_map hnames hone hother hsame]
  · exact effect_comm (Ne.symm hsame)

theorem settled_foldl (hne : ∀ other ∈ items, item.nameKey user ≠ other.nameKey user)
    (hsettled : item.Settled user index) :
    item.Settled user (items.foldl (Item.effect user) index) := by
  induction items generalizing index with
  | nil => exact hsettled
  | cons other items ih =>
    refine ih (fun another hanother => hne another (List.mem_cons_of_mem _ hanother)) ?_
    exact settled_of_ne (hne other List.mem_cons_self).symm hsettled

/-- After a run every item is done. -/
theorem settled_of_replayItems (hready : Ready user items index)
    (h : replayItems user items index = .ok final) :
    final.Constrained ∧ ∀ item ∈ items, item.Settled user final := by
  induction items generalizing index with
  | nil =>
    obtain rfl := pure_eq_ok.mp h
    exact ⟨hready.constrained, fun _ hitem => absurd hitem List.not_mem_nil⟩
  | cons item items ih =>
    obtain ⟨hclear, rfl⟩ := (replayItems_iff hready).mp h
    obtain ⟨hfree, hrest⟩ := (clearance_cons hready).mp hclear
    have hnext := hready.tail hfree
    obtain ⟨hconstrained, hlater⟩ := ih hnext ((replayItems_iff hnext).mpr ⟨hrest, rfl⟩)
    refine ⟨hconstrained, fun other hother => ?_⟩
    rcases List.mem_cons.mp hother with rfl | hrestItem
    · rw [List.foldl_cons]
      refine settled_foldl (fun another hanother => hready.ne hanother) ?_
      exact settled_effect hready.constrained (hready.prepared other List.mem_cons_self) hfree
    · exact hlater other hrestItem

/-- Items that are done are replayed as nothing. -/
theorem replayItems_settled (hindex : index.Constrained)
    (hsettled : ∀ item ∈ items, item.Settled user index) :
    replayItems user items index = .ok index := by
  induction items with
  | nil => rfl
  | cons item items ih =>
    rw [replayItems, List.foldlM_cons, rebindEntry_settled hindex (hsettled item List.mem_cons_self)]
    exact ih fun other hother => hsettled other (List.mem_cons_of_mem _ hother)

end Runs

end ArtForgeStudio.FileIndex
