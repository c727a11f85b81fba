import ArtForgeStudio.Canvas.Descendants
import Mathlib.Data.Set.Function

/-! # Copies of a selection

A pasted copy has the shape of the expanded selection, under new identifiers, and leads nowhere
outside itself.
-/

namespace ArtForgeStudio.Canvas

open ArtForgeStudio.LocalStore

/-- Identifiers that nothing on the canvas has, no two the same. -/
structure FreshIds (uuids : Nat → String) (notes : List CanvasNoteData)
    (links : List CanvasLinkData) : Prop where
  injective : Function.Injective uuids
  note : ∀ n, ∀ note ∈ notes, note.id ≠ uuids n
  link : ∀ n, ∀ link ∈ links, link.id ≠ uuids n

/-- The copy of a note, when the notes of the identifiers are renamed and moved. -/
def copyOf (rename : String → String) (ids : Finset String) (offsetX offsetY : Rat)
    (note : CanvasNoteData) : CanvasNoteData :=
  { note with
    id := rename note.id
    parentGroupId := if note.parentGroupId ∈ ids then rename note.parentGroupId else ""
    x := note.x + offsetX, y := note.y + offsetY, selected := true }

structure LinkCopy (rename : String → String) (link copy : CanvasLinkData) : Prop where
  source : copy.sourceId = rename link.sourceId
  target : copy.targetId = rename link.targetId
  flow : copy.flowReversed = link.flowReversed

variable {uuids : Nat → String} {notes : List CanvasNoteData} {links : List CanvasLinkData}
  {controller : CanvasController} {clipboard : CanvasClipboard} {id : String}

theorem mem_copied_ids (hunique : (notes.map (·.id)).Nodup) (controller : CanvasController)
    (links : List CanvasLinkData) :
    id ∈ expandedSelectionIds notes ↔
      ∃ note ∈ (controller.copySelection notes links).clipboard.notes, note.id = id := by
  simp only [CanvasController.copySelection, List.mem_filter, decide_eq_true_eq]
  constructor
  · intro hid
    obtain ⟨note, hexpanded, rfl⟩ := (mem_expandedSelectionIds_iff hunique).mp hid
    exact ⟨note, ⟨hexpanded.mem, hid⟩, rfl⟩
  · rintro ⟨note, ⟨-, hid⟩, rfl⟩
    exact hid

theorem idMap_eq_none (h : ∀ note ∈ clipboard.notes, note.id ≠ id) :
    clipboard.idMap uuids id = none := by
  cases hnew : clipboard.idMap uuids id with
  | none => rfl
  | some new =>
    obtain ⟨item, hitem, hid, -⟩ := idMap_eq_some hnew
    exact absurd hid (h item.1 (List.fst_mem_of_mem_zipIdx hitem))

theorem idMap_copied (hunique : (notes.map (·.id)).Nodup) (uuids : Nat → String)
    (controller : CanvasController) (links : List CanvasLinkData) (id : String) :
    (id ∈ expandedSelectionIds notes ∧
      ∃ n, (controller.copySelection notes links).clipboard.idMap uuids id = some (uuids n)) ∨
    (id ∉ expandedSelectionIds notes ∧
      (controller.copySelection notes links).clipboard.idMap uuids id = none) := by
  by_cases hid : id ∈ expandedSelectionIds notes
  · obtain ⟨note, hnote, rfl⟩ := (mem_copied_ids hunique controller links).mp hid
    exact .inl ⟨hid, idMap_of_mem hnote⟩
  · refine .inr ⟨hid, idMap_eq_none fun note hnote heq => hid ?_⟩
    exact (mem_copied_ids hunique controller links).mpr ⟨note, hnote, heq⟩

/-- A filter that keeps everything changes the elements one by one. -/
theorem forall₂_filterMap_zipIdx {A B : Type} {R : A → B → Prop} {items : List A}
    {change : A × Nat → Option B}
    (h : ∀ item ∈ items, ∀ n, ∃ new, change (item, n) = some new ∧ R item new) (start : Nat) :
    List.Forall₂ R items ((items.zipIdx start).filterMap change) := by
  induction items generalizing start with
  | nil => exact .nil
  | cons item items ih =>
    obtain ⟨new, hnew, hrelated⟩ := h item List.mem_cons_self start
    rw [List.zipIdx_cons, List.filterMap_cons_some hnew]
    exact .cons hrelated (ih (fun other hother => h other (List.mem_cons_of_mem _ hother)) _)

theorem pasted_links (hunique : (notes.map (·.id)).Nodup) (uuids : Nat → String)
    (controller : CanvasController) (links : List CanvasLinkData) (offsetX offsetY : Rat) :
    List.Forall₂ (LinkCopy fun id =>
        ((controller.copySelection notes links).clipboard.idMap uuids id).getD "")
      (links.filter fun link =>
        link.sourceId ∈ expandedSelectionIds notes && link.targetId ∈ expandedSelectionIds notes)
      ((controller.copySelection notes links).pasteClipboard uuids offsetX offsetY).2 := by
  apply forall₂_filterMap_zipIdx
  intro link hlink n
  simp only [List.mem_filter, Bool.and_eq_true, decide_eq_true_eq] at hlink
  obtain ⟨-, i, hsource⟩ := (idMap_copied hunique uuids controller links link.sourceId).resolve_right
    fun hnot => hnot.1 hlink.2.1
  obtain ⟨-, j, htarget⟩ := (idMap_copied hunique uuids controller links link.targetId).resolve_right
    fun hnot => hnot.1 hlink.2.2
  refine ⟨{ id := uuids ((controller.copySelection notes links).clipboard.notes.length + n)
            sourceId := uuids i, targetId := uuids j, flowReversed := link.flowReversed },
    by simp [hsource, htarget], ?_, ?_, rfl⟩
  · simp [hsource]
  · simp [htarget]

theorem pasted_link_ids {offsetX offsetY : Rat} {copy : CanvasLinkData}
    (h : copy ∈ (controller.pasteClipboard uuids offsetX offsetY).2) :
    (∃ n, uuids n = copy.id) ∧ (∃ n, uuids n = copy.sourceId) ∧ ∃ n, uuids n = copy.targetId := by
  obtain ⟨item, -, hlink⟩ := List.mem_filterMap.mp h
  simp only [Option.bind_eq_bind, Option.bind_eq_some_iff] at hlink
  obtain ⟨source, hsource, target, htarget, hlink⟩ := hlink
  cases hlink
  obtain ⟨first, -, -, hfirst⟩ := idMap_eq_some hsource
  obtain ⟨second, -, -, hsecond⟩ := idMap_eq_some htarget
  exact ⟨⟨_, rfl⟩, ⟨_, hfirst⟩, ⟨_, hsecond⟩⟩

/-- The pasted notes and links, by the renaming that makes them from the expanded selection. -/
structure IsomorphicCopy (notes : List CanvasNoteData) (links : List CanvasLinkData)
    (rename : String → String) (offsetX offsetY : Rat)
    (pasted : List CanvasNoteData × List CanvasLinkData) : Prop where
  bijection : Set.BijOn rename {id | ∃ note, Expanded notes note ∧ note.id = id}
    {id | ∃ copy ∈ pasted.1, copy.id = id}
  noteCopies : pasted.1 = (notes.filter (·.id ∈ expandedSelectionIds notes)).map
    (copyOf rename (expandedSelectionIds notes) offsetX offsetY)
  linkCopies : List.Forall₂ (LinkCopy rename)
    (links.filter fun link =>
      link.sourceId ∈ expandedSelectionIds notes && link.targetId ∈ expandedSelectionIds notes)
    pasted.2
  unique : (pasted.1.map (·.id)).Nodup

/-- Nothing that was pasted has or names an identifier that was on the canvas before. -/
structure SelfContained (notes : List CanvasNoteData) (links : List CanvasLinkData)
    (pasted : List CanvasNoteData × List CanvasLinkData) : Prop where
  noteCopies : ∀ copy ∈ pasted.1, ∀ note ∈ notes,
    copy.id ≠ note.id ∧ (copy.parentGroupId ≠ "" → copy.parentGroupId ≠ note.id)
  linkCopies : ∀ copy ∈ pasted.2,
    (∀ note ∈ notes, copy.sourceId ≠ note.id ∧ copy.targetId ≠ note.id) ∧
    ∀ link ∈ links, copy.id ≠ link.id

/-- Copied and pasted, the expanded selection is there a second time, apart from the first. -/
theorem copies_are_isomorphic (hunique : (notes.map (·.id)).Nodup)
    (hfresh : FreshIds uuids notes links) (controller : CanvasController) (offsetX offsetY : Rat) :
    (∀ id, id ∈ expandedSelectionIds notes ↔ ∃ note, Expanded notes note ∧ note.id = id) ∧
    (∃ rename, IsomorphicCopy notes links rename offsetX offsetY
      ((controller.copySelection notes links).pasteClipboard uuids offsetX offsetY)) ∧
    SelfContained notes links
      ((controller.copySelection notes links).pasteClipboard uuids offsetX offsetY) := by
  let copied := controller.copySelection notes links
  let rename (id : String) : String := (copied.clipboard.idMap uuids id).getD ""
  have hnew : ∀ id ∈ expandedSelectionIds notes,
      ∃ n, copied.clipboard.idMap uuids id = some (uuids n) :=
    fun id hid => ((idMap_copied hunique uuids controller links id).resolve_right
      fun hnot => hnot.1 hid).2
  have hold : ∀ id, id ∉ expandedSelectionIds notes → copied.clipboard.idMap uuids id = none :=
    fun id hid => ((idMap_copied hunique uuids controller links id).resolve_left
      fun hin => hid hin.1).2
  have hnotes : (copied.pasteClipboard uuids offsetX offsetY).1 =
      (notes.filter (·.id ∈ expandedSelectionIds notes)).map
        (copyOf rename (expandedSelectionIds notes) offsetX offsetY) := by
    apply List.map_congr_left
    intro note _
    by_cases hinside : note.parentGroupId ∈ expandedSelectionIds notes
    · simp [copyOf, hinside, rename]
    · simp [copyOf, hinside, hold note.parentGroupId hinside, rename]
  have hlinks := pasted_links hunique uuids controller links offsetX offsetY
  have hids : (copied.clipboard.notes.map (·.id)).Nodup := hunique.sublist (List.filter_sublist.map _)
  have hinjective : Set.InjOn rename {id | ∃ note, Expanded notes note ∧ note.id = id} := by
    intro first hfirst second hsecond heq
    obtain ⟨i, hi⟩ := hnew first ((mem_expandedSelectionIds_iff hunique).mpr hfirst)
    obtain ⟨j, hj⟩ := hnew second ((mem_expandedSelectionIds_iff hunique).mpr hsecond)
    simp only [rename, hi, hj, Option.getD_some] at heq
    rw [heq] at hi
    rw [← originalId_idMap hfresh.injective hi, originalId_idMap hfresh.injective hj]
  refine ⟨fun id => mem_expandedSelectionIds_iff hunique, ⟨rename, ⟨?_, hinjective, ?_⟩, hnotes,
    hlinks, pasteClipboard_unique hids hfresh.injective offsetX offsetY⟩, ?_, ?_⟩
  · rintro _ ⟨note, hexpanded, rfl⟩
    have hid := (id_mem_expandedSelectionIds_iff hunique hexpanded.mem).mpr hexpanded
    refine ⟨copyOf rename (expandedSelectionIds notes) offsetX offsetY note, ?_, rfl⟩
    rw [hnotes]
    exact List.mem_map_of_mem (by simp [hexpanded.mem, hid])
  · rintro _ ⟨copy, hcopy, rfl⟩
    rw [hnotes] at hcopy
    obtain ⟨note, hnote, rfl⟩ := List.mem_map.mp hcopy
    rw [List.mem_filter, decide_eq_true_eq] at hnote
    exact ⟨note.id, (mem_expandedSelectionIds_iff hunique).mp hnote.2, rfl⟩
  · intro copy hcopy note hnote
    rw [hnotes] at hcopy
    obtain ⟨original, horiginal, rfl⟩ := List.mem_map.mp hcopy
    rw [List.mem_filter, decide_eq_true_eq] at horiginal
    have hfar : ∀ id ∈ expandedSelectionIds notes, rename id ≠ note.id := by
      intro id hid
      obtain ⟨n, hn⟩ := hnew id hid
      simp only [rename, hn, Option.getD_some]
      exact (hfresh.note n note hnote).symm
    refine ⟨hfar _ horiginal.2, fun hnamed => ?_⟩
    by_cases hinside : original.parentGroupId ∈ expandedSelectionIds notes
    · simpa [copyOf, hinside] using hfar _ hinside
    · simp [copyOf, hinside] at hnamed
  · intro copy hcopy
    obtain ⟨⟨n, hn⟩, ⟨i, hi⟩, ⟨j, hj⟩⟩ := pasted_link_ids hcopy
    rw [← hn, ← hi, ← hj]
    exact ⟨fun note hnote => ⟨(hfresh.note i note hnote).symm, (hfresh.note j note hnote).symm⟩,
      fun link hlink => (hfresh.link n link hlink).symm⟩

def groupedNotes : List CanvasNoteData :=
  [{ id := "group", kind := "group", content := "", x := 0, y := 0, selected := true },
    { id := "first", content := "", x := 40, y := 80, parentGroupId := "group" },
    { id := "second", content := "", x := 400, y := 80, parentGroupId := "group" }]

def groupedLinks : List CanvasLinkData :=
  [{ id := "link", sourceId := "first", targetId := "second" }]

def pastedGroup : List CanvasNoteData × List CanvasLinkData :=
  (({} : CanvasController).copySelection groupedNotes groupedLinks).pasteClipboard
    (fun n => String.ofList ('x' :: List.replicate n 'x')) 10 20

theorem copies_are_isomorphic_group :
    (∃ rename, IsomorphicCopy groupedNotes groupedLinks rename 10 20 pastedGroup) ∧
    pastedGroup.1.length = 3 ∧ pastedGroup.2.length = 1 := by
  have hfresh : FreshIds (fun n => String.ofList ('x' :: List.replicate n 'x'))
      groupedNotes groupedLinks := by
    refine ⟨fun m n heq => ?_, fun n note hnote heq => ?_, fun n link hlink heq => ?_⟩
    · simpa using congrArg (fun id : String => id.toList.length) heq
    · have hid : ∀ note ∈ groupedNotes, note.id.toList.head? ≠ some 'x' := by decide
      exact hid note hnote (by rw [heq, String.toList_ofList, List.head?_cons])
    · have hid : ∀ link ∈ groupedLinks, link.id.toList.head? ≠ some 'x' := by decide
      exact hid link hlink (by rw [heq, String.toList_ofList, List.head?_cons])
  exact ⟨(copies_are_isomorphic (by decide) hfresh {} 10 20).2.1, by decide +kernel,
    by decide +kernel⟩

/-- Every copy is selected, though of the originals only the group is. -/
theorem copies_are_selected : (groupedNotes.map (·.id)).Nodup ∧
    ¬∃ rename : String → String, ∀ note, Expanded groupedNotes note →
      ∃ copy ∈ pastedGroup.1, copy.id = rename note.id ∧ copy.selected = note.selected := by
  refine ⟨by decide, fun ⟨rename, hcopies⟩ => ?_⟩
  let child : CanvasNoteData :=
    { id := "first", content := "", x := 40, y := 80, parentGroupId := "group" }
  have hmem : child ∈ groupedNotes := by simp [groupedNotes, child]
  have hexpanded : Expanded groupedNotes child :=
    ⟨hmem, .inr ⟨_, List.mem_cons_self, rfl, .child hmem rfl⟩⟩
  have hselected : ∀ copy ∈ pastedGroup.1, copy.selected = true := by decide +kernel
  obtain ⟨copy, hcopy, -, hsame⟩ := hcopies child hexpanded
  exact absurd ((hselected copy hcopy).symm.trans hsame) (by decide)

end ArtForgeStudio.Canvas
