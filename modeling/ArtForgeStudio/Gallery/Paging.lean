import ArtForgeStudio.Gallery.Models
import Mathlib.Data.List.Forall2

/-! # A gallery that is extended page by page

What is appended to the models that show a list shows the longer list, and what was shown stays as
it is, with its pictures. Page by page the models become those of a list that is built at once.
-/

namespace ArtForgeStudio.Gallery

open ArtForgeStudio.Deliveries ArtForgeStudio.Stretches

section Rows

variable {A B : Type} {R : A → B → Prop} {S : A → A → Prop} {agrees : A → B → Bool}
  {model next last : Model A} {rows kept more : List A} {expected : List B}

/-- The model has a row for each expected item, and no other. -/
def RowsAgree (R : A → B → Prop) (model : Model A) (expected : List B) : Prop :=
  model.rowCount = expected.length ∧
    ∀ row item, expected[row]? = some item → ∃ shown, model.rowData row = some shown ∧ R shown item

/-- Every row that was there is still there. -/
def KeepsRows (S : A → A → Prop) (model next : Model A) : Prop :=
  model.rowCount ≤ next.rowCount ∧ ∀ row before, row < model.rowCount →
    model.rowData row = some before → ∃ after, next.rowData row = some after ∧ S before after

theorem rowsMatch_iff : rowsMatch agrees model expected = true ↔
    RowsAgree (fun row item => agrees row item = true) model expected := by
  simp only [rowsMatch, RowsAgree, Bool.and_eq_true, decide_eq_true_eq, List.all_eq_true,
    Option.any_eq_true, Prod.forall, List.mem_zipIdx_iff_getElem?]
  exact and_congr_right fun _ => forall_comm

theorem rowsAgree_vecModel :
    RowsAgree R (.vecModel rows) expected ↔ List.Forall₂ R rows expected := by
  rw [List.forall₂_iff_get]
  simp only [RowsAgree, Model.rowCount, Model.rowData]
  refine and_congr_right fun hlength => ?_
  constructor
  · intro h row hrow hitem
    obtain ⟨shown, hshown, hagrees⟩ := h row _ (List.getElem?_eq_getElem hitem)
    rw [List.getElem?_eq_getElem hrow] at hshown
    cases hshown
    exact hagrees
  · intro h row item hitem
    obtain ⟨hbound, rfl⟩ := List.getElem?_eq_some_iff.mp hitem
    have hrow : row < rows.length := hlength ▸ hbound
    exact ⟨rows[row], List.getElem?_eq_getElem hrow, h row hrow hbound⟩

theorem KeepsRows.refl (hrefl : ∀ row, S row row) (model : Model A) : KeepsRows S model model :=
  ⟨Nat.le_refl _, fun _ before _ hbefore => ⟨before, hbefore, hrefl before⟩⟩

theorem KeepsRows.trans (htrans : ∀ a b c, S a b → S b c → S a c) (h : KeepsRows S model next)
    (hlast : KeepsRows S next last) : KeepsRows S model last := by
  refine ⟨h.1.trans hlast.1, fun row before hrow hbefore => ?_⟩
  obtain ⟨middle, hmiddle, hfirst⟩ := h.2 row before hrow hbefore
  obtain ⟨after, hafter, hsecond⟩ := hlast.2 row middle (Nat.lt_of_lt_of_le hrow h.1) hmiddle
  exact ⟨after, hafter, htrans _ _ _ hfirst hsecond⟩

theorem keepsRows_append (h : List.Forall₂ S rows kept) (more : List A) :
    KeepsRows S (.vecModel rows) (.vecModel (kept ++ more)) := by
  obtain ⟨hlength, hrows⟩ := List.forall₂_iff_get.mp h
  refine ⟨by simp [Model.rowCount, hlength], fun row before hrow hbefore => ?_⟩
  obtain ⟨hrow, rfl⟩ := List.getElem?_eq_some_iff.mp hbefore
  have hkept : row < kept.length := hlength ▸ hrow
  refine ⟨kept[row], ?_, hrows row hrow hkept⟩
  simp [Model.rowData, List.getElem?_append_left hkept]

theorem forall₂_concat_left {last : A} (h : List.Forall₂ R (rows ++ [last]) expected) :
    ∃ before item, expected = before ++ [item] ∧ List.Forall₂ R rows before ∧ R last item := by
  induction rows generalizing expected with
  | nil =>
    cases h with
    | cons hlast hnil =>
      cases hnil
      exact ⟨[], _, rfl, .nil, hlast⟩
  | cons row rows ih =>
    cases h with
    | cons hrow hrows =>
      obtain ⟨before, item, rfl, hbefore, hlast⟩ := ih hrows
      exact ⟨_ :: before, item, rfl, .cons hrow hbefore, hlast⟩

end Rows

section Shown

variable {Image Date : Type} [DecidableEq Date] {platform : Platform Image Date} {today : Date}
  {language : String} {models next last : GalleryModels Image}
  {existing appended : List AssetData} {groupRows : List (AssetGroup Image)}
  {stretches : List (String × List AssetData)}

/-- The view is the one of the asset, whatever its picture. -/
structure ViewOf (view : AssetItem Image) (data : AssetData) : Prop where
  id : view.id = data.id
  sourcePath : view.sourcePath = data.sourcePath
  time : view.time = data.time
  width : view.width = data.width
  height : view.height = data.height

structure GroupOf (group : AssetGroup Image) (stretch : String × List AssetData) : Prop where
  title : group.title = stretch.1
  items : RowsAgree ViewOf group.items stretch.2

variable (platform today language) in
/-- The flat model shows the list row by row, and the groups show its date groups. -/
structure Shows (models : GalleryModels Image) (data : List AssetData) : Prop where
  flat : RowsAgree ViewOf models.flat data
  groups : ∀ groups, models.groups = some groups →
    RowsAgree GroupOf groups (groupedGalleryData platform today language data)

/-- All models can be added to. -/
structure Growable (models : GalleryModels Image) : Prop where
  flat : ∃ rows, models.flat = .vecModel rows
  groups : ∀ groups, models.groups = some groups →
    ∃ groupRows : List (AssetGroup Image), groups = .vecModel groupRows ∧
      ∀ group ∈ groupRows, ∃ rows, group.items = .vecModel rows

/-- A group that may have got more items. -/
structure GroupKept (group kept : AssetGroup Image) : Prop where
  title : kept.title = group.title
  items : KeepsRows Eq group.items kept.items

/-- What was shown is still there, unchanged. -/
structure Keeps (models next : GalleryModels Image) : Prop where
  flat : KeepsRows Eq models.flat next.flat
  grouped : next.groups.isSome = models.groups.isSome
  groups : ∀ groups kept, models.groups = some groups → next.groups = some kept →
    KeepsRows GroupKept groups kept

theorem galleryViewMatchesData_iff {view : AssetItem Image} {data : AssetData} :
    galleryViewMatchesData view data = true ↔ ViewOf view data := by
  simp only [galleryViewMatchesData, Bool.and_eq_true, decide_eq_true_eq]
  constructor
  · rintro ⟨⟨⟨⟨hid, hpath⟩, htime⟩, hwidth⟩, hheight⟩
    exact ⟨hid, hpath, htime, hwidth, hheight⟩
  · rintro ⟨hid, hpath, htime, hwidth, hheight⟩
    exact ⟨⟨⟨⟨hid, hpath⟩, htime⟩, hwidth⟩, hheight⟩

theorem rowsMatch_views {model : Model (AssetItem Image)} {data : List AssetData} :
    rowsMatch galleryViewMatchesData model data = true ↔ RowsAgree ViewOf model data := by
  simp only [rowsMatch_iff, galleryViewMatchesData_iff]

theorem galleryModelsMatchPrefix_iff :
    galleryModelsMatchPrefix platform today language models existing = true ↔
      Shows platform today language models existing := by
  have hgroup : ∀ (group : AssetGroup Image) (entry : String × List AssetData),
      (group.title = entry.1 && rowsMatch galleryViewMatchesData group.items entry.2) = true ↔
        GroupOf group entry := by
    intro group entry
    rw [Bool.and_eq_true, decide_eq_true_eq, rowsMatch_views]
    exact ⟨fun h => ⟨h.1, h.2⟩, fun h => ⟨h.1, h.2⟩⟩
  unfold galleryModelsMatchPrefix
  rw [Bool.and_eq_true, rowsMatch_views]
  split
  · next hnone =>
    constructor
    · rintro ⟨hflat, -⟩
      exact ⟨hflat, fun groups hgroups => by rw [hnone] at hgroups; cases hgroups⟩
    · exact fun h => ⟨h.flat, rfl⟩
  · next groups hsome =>
    simp only [rowsMatch_iff, hgroup]
    constructor
    · rintro ⟨hflat, hgroups⟩
      refine ⟨hflat, fun found hfound => ?_⟩
      rw [hsome] at hfound
      cases hfound
      exact hgroups
    · exact fun h => ⟨h.flat, h.groups groups hsome⟩

omit [DecidableEq Date] in
theorem forall₂_metadata (items : List AssetData) :
    List.Forall₂ ViewOf (items.map (toAssetViewMetadata platform)) items := by
  rw [List.forall₂_map_left_iff]
  exact List.forall₂_same.mpr fun asset _ => ⟨rfl, rfl, rfl, rfl, rfl⟩

variable (platform) in
/-- The group of a stretch, without pictures. -/
def groupOf (stretch : String × List AssetData) : AssetGroup Image where
  title := stretch.1
  items := .vecModel (stretch.2.map (toAssetViewMetadata platform))

/-- The groups of a list are those of its stretches. -/
theorem groupAssetViewsWithPreviews_eq (items : List AssetData) :
    groupAssetViewsWithPreviews platform today language (fun _ _ => none) items =
      (groupedGalleryData platform today language items).map (groupOf platform) := by
  rw [groupAssetViewsWithPreviews, cut_eq_map, groupedGalleryData, List.map_map]
  rfl

omit [DecidableEq Date] in
theorem forall₂_groupOf (stretches : List (String × List AssetData)) :
    List.Forall₂ GroupOf (stretches.map (groupOf platform)) stretches := by
  rw [List.forall₂_map_left_iff]
  exact List.forall₂_same.mpr fun stretch _ =>
    ⟨rfl, rowsAgree_vecModel.mpr (forall₂_metadata stretch.2)⟩

theorem groupedGalleryData_append (existing appended : List AssetData) :
    groupedGalleryData platform today language (existing ++ appended) =
      join (groupedGalleryData platform today language existing)
        (groupedGalleryData platform today language appended) :=
  cut_append existing appended

end Shown

section Page

variable {Image Date : Type} [DecidableEq Date] {platform : Platform Image Date} {today : Date}
  {language : String} {models next : GalleryModels Image} {existing appended : List AssetData}
  {result : Bool × GalleryModels Image}

variable (platform today language) in
/-- What a call can do. -/
inductive Appending (models : GalleryModels Image) (existing appended : List AssetData) :
    Bool × GalleryModels Image → Prop
  | refused (hwhy : Shows platform today language models existing → ¬ Growable models) :
      Appending models existing appended (false, models)
  | nothing (hshows : Shows platform today language models existing) (hnil : appended = []) :
      Appending models existing appended (true, models)
  | flat (hshows : Shows platform today language models existing) (rows : List (AssetItem Image))
      (hflat : models.flat = .vecModel rows) (hgroups : models.groups = none) :
      Appending models existing appended
        (true, { flat := .vecModel (rows ++ appended.map (toAssetViewMetadata platform)),
                 groups := none })
  | merged (hshows : Shows platform today language models existing) (rows : List (AssetItem Image))
      (hflat : models.flat = .vecModel rows) (front : List (AssetGroup Image)) (title : String)
      (tailItems : List (AssetItem Image))
      (hgroups : models.groups =
        some (.vecModel (front ++ [{ title, items := .vecModel tailItems }])))
      (more : List AssetData) (rest : List (String × List AssetData))
      (hfirst : groupedGalleryData platform today language appended = (title, more) :: rest) :
      Appending models existing appended
        (true, { flat := .vecModel (rows ++ appended.map (toAssetViewMetadata platform)),
                 groups := some (.vecModel (front ++ [{
                   title, items := .vecModel (tailItems ++ more.map (toAssetViewMetadata platform))
                 }] ++ rest.map (groupOf platform))) })
  | separate (hshows : Shows platform today language models existing)
      (rows : List (AssetItem Image)) (hflat : models.flat = .vecModel rows)
      (groupRows : List (AssetGroup Image)) (hgroups : models.groups = some (.vecModel groupRows))
      (hapart : ∀ tail first, groupRows.getLast? = some tail →
        (groupedGalleryData platform today language appended).head? = some first →
        first.1 ≠ tail.title) :
      Appending models existing appended
        (true, { flat := .vecModel (rows ++ appended.map (toAssetViewMetadata platform)),
                 groups := some (.vecModel (groupRows ++
                   (groupedGalleryData platform today language appended).map (groupOf platform))) })

theorem lastRow_vecModel {A : Type} (rows : List A) : lastRow (.vecModel rows) = rows.getLast? := by
  rcases List.eq_nil_or_concat rows with rfl | ⟨front, last, rfl⟩
  · rfl
  · simp [lastRow, Model.rowCount, Model.rowData]

variable (platform today language) in
theorem tryAppendGalleryModels_appending (models : GalleryModels Image)
    (existing appended : List AssetData) :
    Appending platform today language models existing appended
      (tryAppendGalleryModels platform today language models existing appended) := by
  unfold tryAppendGalleryModels
  split
  · next hmatch =>
    refine .refused fun hshows => ?_
    rw [galleryModelsMatchPrefix_iff.mpr hshows] at hmatch
    cases hmatch
  · next hmatch =>
    have hshows : Shows platform today language models existing :=
      galleryModelsMatchPrefix_iff.mp (by simpa using hmatch)
    split
    · next hnil => exact .nothing hshows (List.isEmpty_iff.mp hnil)
    · split
      · next hother =>
        refine .refused fun _ hgrowable => ?_
        obtain ⟨rows, hrows⟩ := hgrowable.flat
        rw [hother] at hrows
        cases hrows
      · next rows hflat =>
        dsimp only
        split
        · next hnone => exact .flat hshows rows hflat hnone
        · next hother =>
          refine .refused fun _ hgrowable => ?_
          obtain ⟨groupRows, hrows, -⟩ := hgrowable.groups _ hother
          cases hrows
        · next groupRows hgroups =>
          rw [groupAssetViewsWithPreviews_eq, lastRow_vecModel]
          split
          · next tail first rest htail hfirst =>
            obtain ⟨hlast, htitle⟩ := Option.filter_eq_some_iff.mp htail
            obtain ⟨front, rfl⟩ := List.getLast?_eq_some_iff.mp hlast
            obtain ⟨⟨title, more⟩, left, hgrouped, rfl, rfl⟩ := List.map_eq_cons_iff.mp hfirst
            split
            · next hother =>
              refine .refused fun _ hgrowable => ?_
              obtain ⟨groupRows, hrows, hitems⟩ := hgrowable.groups _ hgroups
              cases hrows
              obtain ⟨tailItems, htailItems⟩ := hitems tail (by simp)
              rw [hother] at htailItems
              cases htailItems
            · next tailItems hitems =>
              obtain ⟨tailTitle, items⟩ := tail
              cases hitems
              have hsame : title = tailTitle := by simpa [hgrouped, groupOf] using htitle
              subst hsame
              rw [List.dropLast_concat]
              exact .merged hshows rows hflat front title tailItems hgroups more left hgrouped
          · next hother =>
            refine .separate hshows rows hflat groupRows hgroups ?_
            intro tail first htail hfirst hsame
            obtain ⟨rest, hgrouped⟩ := List.head?_eq_some_iff.mp hfirst
            refine hother tail (groupOf platform first) (rest.map (groupOf platform)) ?_ ?_
            · rw [Option.filter_eq_some_iff]
              exact ⟨htail, by simpa [hgrouped, groupOf] using hsame⟩
            · rw [hgrouped, List.map_cons]

omit [DecidableEq Date] in
theorem GroupOf.extend {title : String} {tailItems : List (AssetItem Image)}
    {stretch : String × List AssetData}
    (h : GroupOf { title, items := .vecModel tailItems } stretch) (more : List AssetData) :
    GroupOf { title, items := .vecModel (tailItems ++ more.map (toAssetViewMetadata platform)) }
      (stretch.1, stretch.2 ++ more) := by
  refine ⟨h.title, rowsAgree_vecModel.mpr ?_⟩
  exact List.rel_append (rowsAgree_vecModel.mp h.items) (forall₂_metadata more)

/-- The groups of the page continue the groups of the list. -/
theorem Appending.shows
    (h : Appending platform today language models existing appended (true, next)) :
    Shows platform today language next (existing ++ appended) := by
  have hflat : ∀ {rows}, Shows platform today language models existing →
      models.flat = .vecModel rows → RowsAgree ViewOf
        (.vecModel (rows ++ appended.map (toAssetViewMetadata platform))) (existing ++ appended) := by
    intro rows hshows hrows
    have hexisting := hshows.flat
    rw [hrows, rowsAgree_vecModel] at hexisting
    exact rowsAgree_vecModel.mpr (List.rel_append hexisting (forall₂_metadata appended))
  cases h with
  | nothing hshows hnil =>
    subst hnil
    rw [List.append_nil]
    exact hshows
  | flat hshows rows hrows hgroups => exact ⟨hflat hshows hrows, by simp⟩
  | merged hshows rows hrows front title tailItems hgroups more rest hfirst =>
    refine ⟨hflat hshows hrows, fun groups hfound => ?_⟩
    cases hfound
    have hexisting := rowsAgree_vecModel.mp (hshows.groups _ hgroups)
    obtain ⟨before, stretch, hbefore, hfront, htail⟩ := forall₂_concat_left hexisting
    obtain ⟨label, items⟩ := stretch
    have hlabel : label = title := htail.title.symm
    subst hlabel
    rw [groupedGalleryData_append, hbefore, hfirst, join_concat_cons, if_pos rfl, List.append_assoc]
    refine rowsAgree_vecModel.mpr (List.rel_append hfront ?_)
    exact .cons (htail.extend more) (forall₂_groupOf rest)
  | separate hshows rows hrows groupRows hgroups hapart =>
    refine ⟨hflat hshows hrows, fun groups hfound => ?_⟩
    cases hfound
    have hexisting := rowsAgree_vecModel.mp (hshows.groups _ hgroups)
    have hjoin : join (groupedGalleryData platform today language existing)
        (groupedGalleryData platform today language appended) =
          groupedGalleryData platform today language existing ++
            groupedGalleryData platform today language appended := by
      refine join_of_apart fun before after hbefore hafter hsame => ?_
      obtain ⟨front, hfront⟩ := List.getLast?_eq_some_iff.mp hbefore
      rw [hfront] at hexisting
      obtain ⟨rows, tail, rfl, -, htail⟩ := forall₂_concat_left hexisting.flip
      exact hapart tail after (by simp) hafter (by rw [htail.title, hsame])
    rw [groupedGalleryData_append, hjoin]
    exact rowsAgree_vecModel.mpr (List.rel_append hexisting (forall₂_groupOf _))

omit [DecidableEq Date] in
theorem GroupKept.refl (group : AssetGroup Image) : GroupKept group group :=
  ⟨rfl, KeepsRows.refl (fun _ => rfl) group.items⟩

theorem Keeps.refl (models : GalleryModels Image) : Keeps models models := by
  refine ⟨KeepsRows.refl (fun _ => rfl) _, rfl, fun groups kept hgroups hkept => ?_⟩
  rw [hgroups] at hkept
  cases hkept
  exact KeepsRows.refl GroupKept.refl groups

theorem Appending.keeps (h : Appending platform today language models existing appended result) :
    Keeps models result.2 := by
  have hflat : ∀ {rows}, models.flat = .vecModel rows → KeepsRows Eq models.flat
      (.vecModel (rows ++ appended.map (toAssetViewMetadata platform))) := by
    intro rows hrows
    rw [hrows]
    exact keepsRows_append (List.forall₂_same.mpr fun _ _ => rfl) _
  cases h with
  | refused => exact Keeps.refl models
  | nothing => exact Keeps.refl models
  | flat hshows rows hrows hgroups => exact ⟨hflat hrows, by simp [hgroups], by simp⟩
  | merged hshows rows hrows front title tailItems hgroups more rest hfirst =>
    refine ⟨hflat hrows, by simp [hgroups], fun groups kept hfound hkept => ?_⟩
    rw [hgroups] at hfound
    cases hfound
    cases hkept
    refine keepsRows_append (List.rel_append (List.forall₂_same.mpr fun group _ => .refl group) ?_) _
    exact .cons ⟨rfl, keepsRows_append (List.forall₂_same.mpr fun _ _ => rfl) _⟩ .nil
  | separate hshows rows hrows groupRows hgroups hapart =>
    refine ⟨hflat hrows, by simp [hgroups], fun groups kept hfound hkept => ?_⟩
    rw [hgroups] at hfound
    cases hfound
    cases hkept
    exact keepsRows_append (List.forall₂_same.mpr fun group _ => .refl group) _

theorem Appending.growable
    (h : Appending platform today language models existing appended (true, next))
    (hgrowable : Growable models) : Growable next := by
  have hgroupOf : ∀ (stretches : List (String × List AssetData)),
      ∀ group ∈ stretches.map (groupOf platform), ∃ rows, group.items = .vecModel rows := by
    intro stretches group hgroup
    obtain ⟨stretch, -, rfl⟩ := List.mem_map.mp hgroup
    exact ⟨_, rfl⟩
  cases h with
  | nothing => exact hgrowable
  | flat => exact ⟨⟨_, rfl⟩, by simp⟩
  | merged hshows rows hrows front title tailItems hgroups more rest hfirst =>
    refine ⟨⟨_, rfl⟩, fun groups hfound => ?_⟩
    cases hfound
    obtain ⟨groupRows, hrows, hitems⟩ := hgrowable.groups _ hgroups
    cases hrows
    refine ⟨_, rfl, fun group hgroup => ?_⟩
    rcases List.mem_append.mp hgroup with hgroup | hrest
    · rcases List.mem_append.mp hgroup with hfront | htail
      · exact hitems group (List.mem_append_left _ hfront)
      · rw [List.mem_singleton.mp htail]
        exact ⟨_, rfl⟩
    · exact hgroupOf rest group hrest
  | separate hshows rows hrows groupRows hgroups hapart =>
    refine ⟨⟨_, rfl⟩, fun groups hfound => ?_⟩
    cases hfound
    obtain ⟨groupRows, hrows, hitems⟩ := hgrowable.groups _ hgroups
    cases hrows
    refine ⟨_, rfl, fun group hgroup => ?_⟩
    rcases List.mem_append.mp hgroup with hold | hnew
    · exact hitems group hold
    · exact hgroupOf _ group hnew

theorem Appending.succeeds (h : Appending platform today language models existing appended result)
    (hshows : Shows platform today language models existing) (hgrowable : Growable models) :
    result.1 = true := by
  cases h with
  | refused hwhy => exact absurd hgrowable (hwhy hshows)
  | nothing => rfl
  | flat => rfl
  | merged => rfl
  | separate => rfl

theorem Appending.unchanged
    (h : Appending platform today language models existing appended (false, next)) :
    next = models := by
  cases h
  rfl

end Page

section Pages

variable {Image Date : Type} [DecidableEq Date] {platform : Platform Image Date} {today : Date}
  {language : String} {models next last : GalleryModels Image}
  {existing appended page : List AssetData} {pages : List (List AssetData)} {grouped : Bool}

theorem Keeps.trans (h : Keeps models next) (hlast : Keeps next last) : Keeps models last := by
  refine ⟨h.flat.trans (fun _ _ _ => Eq.trans) hlast.flat, hlast.grouped.trans h.grouped, ?_⟩
  intro groups kept hgroups hkept
  have hsome : next.groups.isSome = true := by simp [h.grouped, hgroups]
  obtain ⟨middle, hmiddle⟩ := Option.isSome_iff_exists.mp hsome
  refine (h.groups groups middle hgroups hmiddle).trans ?_ (hlast.groups middle kept hmiddle hkept)
  intro first second third hfirst hsecond
  exact ⟨hsecond.title.trans hfirst.title, hfirst.items.trans (fun _ _ _ => Eq.trans) hsecond.items⟩

theorem appendPages_cons : appendPages platform today language models existing (page :: pages) =
    if (tryAppendGalleryModels platform today language models existing page).1 then
      appendPages platform today language
        (tryAppendGalleryModels platform today language models existing page).2
        (existing ++ page) pages
    else (false, (tryAppendGalleryModels platform today language models existing page).2) := rfl

variable (platform today language) in
theorem appendPages_keeps (models : GalleryModels Image) (existing : List AssetData)
    (pages : List (List AssetData)) :
    Keeps models (appendPages platform today language models existing pages).2 := by
  induction pages generalizing models existing with
  | nil => exact Keeps.refl models
  | cons page pages ih =>
    have hstep := tryAppendGalleryModels_appending platform today language models existing page
    rw [appendPages_cons]
    split
    · exact hstep.keeps.trans (ih _ _)
    · exact hstep.keeps

/-- A page that is taken, and the run of the others. -/
theorem appendPages_cons_eq_true
    (h : appendPages platform today language models existing (page :: pages) = (true, last)) :
    ∃ next, Appending platform today language models existing page (true, next) ∧
      appendPages platform today language next (existing ++ page) pages = (true, last) := by
  have hstep := tryAppendGalleryModels_appending platform today language models existing page
  rw [appendPages_cons] at h
  rcases htry : tryAppendGalleryModels platform today language models existing page with
    ⟨success, next⟩
  rw [htry] at h hstep
  cases success with
  | false => cases h
  | true => exact ⟨next, hstep, h⟩

/-- After the last page the models show the first list and all pages. -/
theorem appendPages_shows (hshows : Shows platform today language models existing)
    (h : appendPages platform today language models existing pages = (true, last)) :
    Shows platform today language last (existing ++ pages.flatten) := by
  induction pages generalizing models existing with
  | nil =>
    cases h
    rw [List.flatten_nil, List.append_nil]
    exact hshows
  | cons page pages ih =>
    obtain ⟨next, hpage, hrest⟩ := appendPages_cons_eq_true h
    rw [List.flatten_cons, ← List.append_assoc]
    exact ih hpage.shows hrest

theorem appendPages_succeeds (hshows : Shows platform today language models existing)
    (hgrowable : Growable models) (pages : List (List AssetData)) :
    (appendPages platform today language models existing pages).1 = true := by
  induction pages generalizing models existing with
  | nil => rfl
  | cons page pages ih =>
    have hstep := tryAppendGalleryModels_appending platform today language models existing page
    rw [appendPages_cons, if_pos (hstep.succeeds hshows hgrowable)]
    rcases htry : tryAppendGalleryModels platform today language models existing page with
      ⟨success, next⟩
    rw [htry] at hstep
    cases hstep.succeeds hshows hgrowable
    exact ih hstep.shows (hstep.growable hgrowable)

theorem buildGallery_true (items : List AssetData) :
    buildGallery platform today language true items =
      { flat := .vecModel (items.map (toAssetViewMetadata platform)),
        groups := some (.vecModel
          ((groupedGalleryData platform today language items).map (groupOf platform))) } := by
  rw [← groupAssetViewsWithPreviews_eq]
  rfl

theorem shows_buildGallery (grouped : Bool) (items : List AssetData) :
    Shows platform today language (buildGallery platform today language grouped items) items := by
  refine ⟨rowsAgree_vecModel.mpr (forall₂_metadata items), fun groups hgroups => ?_⟩
  cases grouped with
  | false => cases hgroups
  | true =>
    rw [buildGallery_true] at hgroups
    cases hgroups
    exact rowsAgree_vecModel.mpr (forall₂_groupOf _)

theorem growable_buildGallery (grouped : Bool) (items : List AssetData) :
    Growable (buildGallery platform today language grouped items) := by
  refine ⟨⟨_, rfl⟩, fun groups hgroups => ?_⟩
  cases grouped with
  | false => cases hgroups
  | true =>
    rw [buildGallery_true] at hgroups
    cases hgroups
    refine ⟨_, rfl, fun group hgroup => ?_⟩
    obtain ⟨stretch, -, rfl⟩ := List.mem_map.mp hgroup
    exact ⟨_, rfl⟩

/-- A page more on built models gives the models built for the longer list. -/
theorem Appending.eq_buildGallery
    (h : Appending platform today language (buildGallery platform today language grouped existing)
      existing appended (true, next)) :
    next = buildGallery platform today language grouped (existing ++ appended) := by
  cases grouped with
  | false =>
    cases h with
    | nothing hshows hnil => rw [hnil, List.append_nil]
    | flat hshows rows hrows hgroups =>
      cases hrows
      rw [← List.map_append]
      rfl
    | merged hshows rows hrows front title tailItems hgroups => cases hgroups
    | separate hshows rows hrows groupRows hgroups => cases hgroups
  | true =>
    rw [buildGallery_true] at h ⊢
    cases h with
    | nothing hshows hnil => rw [hnil, List.append_nil]
    | flat hshows rows hrows hgroups => cases hgroups
    | merged hshows rows hrows front title tailItems hgroups more rest hfirst =>
      cases hrows
      have hfront := Model.vecModel.inj (Option.some.inj hgroups)
      obtain ⟨before, final, hbefore, rfl, hfinal⟩ := List.map_eq_append_iff.mp hfront
      obtain ⟨⟨label, items⟩, rfl, htail⟩ := List.map_eq_singleton_iff.mp hfinal
      cases htail
      rw [groupedGalleryData_append, hbefore, hfirst, join_concat_cons, if_pos rfl]
      simp [groupOf]
    | separate hshows rows hrows groupRows hgroups hapart =>
      cases hrows
      cases hgroups
      rw [groupedGalleryData_append, join_of_apart, List.map_append, List.map_append]
      intro before after hbefore hafter hsame
      refine hapart (groupOf platform before) after ?_ hafter hsame.symm
      rw [List.getLast?_map, hbefore, Option.map_some]

theorem appendPages_buildGallery (grouped : Bool) (first : List AssetData)
    (pages : List (List AssetData)) :
    appendPages platform today language (buildGallery platform today language grouped first) first
      pages = (true, buildGallery platform today language grouped (first ++ pages.flatten)) := by
  induction pages generalizing first with
  | nil => rw [List.flatten_nil, List.append_nil, appendPages]
  | cons page pages ih =>
    have hstep := tryAppendGalleryModels_appending platform today language
      (buildGallery platform today language grouped first) first page
    have hsuccess := hstep.succeeds (shows_buildGallery grouped first)
      (growable_buildGallery grouped first)
    rw [appendPages_cons, if_pos hsuccess, List.flatten_cons, ← List.append_assoc, ← ih]
    rcases htry : tryAppendGalleryModels platform today language
      (buildGallery platform today language grouped first) first page with ⟨success, next⟩
    rw [htry] at hstep hsuccess
    cases hsuccess
    rw [hstep.eq_buildGallery]

/-- Adding page by page and building at once give the same gallery. -/
theorem incremental_paging_equals_a_rebuild (platform : Platform Image Date) (today : Date)
    (language : String) :
    (∀ models next existing appended,
      tryAppendGalleryModels platform today language models existing appended = (true, next) →
        Shows platform today language next (existing ++ appended) ∧ Keeps models next) ∧
    (∀ models next existing appended,
      tryAppendGalleryModels platform today language models existing appended = (false, next) →
        next = models) ∧
    (∀ models last existing page pages,
      appendPages platform today language models existing (page :: pages) = (true, last) →
        Shows platform today language last (existing ++ (page :: pages).flatten) ∧
          Keeps models last) ∧
    (∀ models existing pages, Shows platform today language models existing → Growable models →
      ∃ last, appendPages platform today language models existing pages = (true, last) ∧
        Shows platform today language last (existing ++ pages.flatten) ∧ Keeps models last) ∧
    ∀ grouped first pages,
      appendPages platform today language (buildGallery platform today language grouped first)
        first pages =
          (true, buildGallery platform today language grouped (first ++ pages.flatten)) := by
  refine ⟨fun models next existing appended h => ?_, fun models next existing appended h => ?_,
    fun models last existing page pages h => ?_, fun models existing pages hshows hgrowable => ?_,
    appendPages_buildGallery⟩
  · have hstep := tryAppendGalleryModels_appending platform today language models existing appended
    rw [h] at hstep
    exact ⟨hstep.shows, hstep.keeps⟩
  · have hstep := tryAppendGalleryModels_appending platform today language models existing appended
    rw [h] at hstep
    exact hstep.unchanged
  · have hkeeps := appendPages_keeps platform today language models existing (page :: pages)
    obtain ⟨next, hpage, hrest⟩ := appendPages_cons_eq_true h
    rw [h] at hkeeps
    rw [List.flatten_cons, ← List.append_assoc]
    exact ⟨appendPages_shows hpage.shows hrest, hkeeps⟩
  · have hsuccess := appendPages_succeeds hshows hgrowable pages
    have hkeeps := appendPages_keeps platform today language models existing pages
    rcases h : appendPages platform today language models existing pages with ⟨success, last⟩
    rw [h] at hsuccess hkeeps
    cases hsuccess
    exact ⟨last, rfl, appendPages_shows hshows h, hkeeps⟩

end Pages

end ArtForgeStudio.Gallery
