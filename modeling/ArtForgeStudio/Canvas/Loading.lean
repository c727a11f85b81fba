import ArtForgeStudio.Canvas.Groups
import ArtForgeStudio.Canvas.Geometry
import ArtForgeStudio.Library.Ancestors

/-! # The groups of a canvas that is loaded

Stored notes may name groups that are not there, or groups that lie in each other. Loading takes
such notes out of their groups, and changes nothing else.
-/

namespace ArtForgeStudio.Canvas

open ArtForgeStudio.LocalStore ArtForgeStudio.Graphs Relation

/-- From a group to the one around it: all of them are there, and the last one lies in none. -/
inductive GroupChain (notes : List CanvasNoteData) : String → Prop
  | outside : GroupChain notes ""
  | inside {group : CanvasNoteData} (hgroup : group ∈ notes) (hkind : group.kind = "group")
      (h : GroupChain notes group.parentGroupId) : GroupChain notes group.id

/-- The notes but for the groups that they lie in. -/
def outsideGroups (notes : List CanvasNoteData) : List CanvasNoteData :=
  notes.map fun note => { note with parentGroupId := "" }

def inKnownGroup (notes : List CanvasNoteData) (note : CanvasNoteData) : CanvasNoteData :=
  if note.parentGroupId = note.id ∨
      note.parentGroupId ∉ (notes.filter (·.kind = "group")).map (·.id) then
    { note with parentGroupId := "" } else note

def outOfCycle (notes : List CanvasNoteData) (note : CanvasNoteData) : CanvasNoteData :=
  if (comesBack (parentOf notes) (notes.length + 1) note.parentGroupId {note.id}).getD false then
    { note with parentGroupId := "" } else note

theorem normalizeCanvasGroups_eq (notes : List CanvasNoteData) :
    normalizeCanvasGroups notes =
      (notes.map (inKnownGroup notes)).map (outOfCycle (notes.map (inKnownGroup notes))) :=
  rfl

/-- One step up, as the search takes it. -/
def Up (parents : String → Option String) (child parent : String) : Prop :=
  child ≠ "" ∧ (parents child).getD "" = parent

variable {notes : List CanvasNoteData} {note : CanvasNoteData} {parents : String → Option String}
  {id current : String} {visited : Finset String} {fuel : Nat} {found : Bool}

theorem up_unique (parents : String → Option String) : Relator.RightUnique (Up parents) :=
  fun _ _ _ hfirst hsecond => hfirst.2.symm.trans hsecond.2

theorem not_up_empty (parents : String → Option String) (id : String) : ¬Up parents "" id :=
  fun hup => hup.1 rfl

/-- The search comes back exactly when the way up does not end. -/
theorem comesBack_eq_false_iff (hfound : comesBack parents fuel current visited = some found)
    (hvisited : ∀ id ∈ visited, id = "" ∨ TransGen (Up parents) id current) :
    found = false ↔ ReflTransGen (Up parents) current "" := by
  induction fuel generalizing current visited with
  | zero => cases hfound
  | succ fuel ih =>
    unfold comesBack at hfound
    by_cases htop : current = ""
    · subst htop
      simp only [if_true, Option.some.injEq] at hfound
      simp [← hfound, ReflTransGen.refl]
    · have hup : Up parents current ((parents current).getD "") := ⟨htop, rfl⟩
      rw [if_neg htop] at hfound
      by_cases hseen : current ∈ visited
      · rw [if_pos hseen, Option.some.injEq] at hfound
        have hcycle := (hvisited current hseen).resolve_left htop
        simp only [← hfound, Bool.true_eq_false, false_iff]
        exact fun hends => no_return (up_unique parents) (not_up_empty parents) hends hcycle
      · rw [if_neg hseen] at hfound
        have hnext := ih hfound fun id hid => by
          rcases Finset.mem_insert.mp hid with rfl | hid
          · exact .inr (.single hup)
          · exact (hvisited id hid).imp_right fun h => h.tail hup
        rw [hnext]
        constructor
        · exact .head hup
        · intro hends
          obtain heq | ⟨next, hnext, hends⟩ := ReflTransGen.cases_head hends
          · exact absurd heq htop
          · rwa [hnext.2]

theorem outOfCycle_cases (hunique : (notes.map (·.id)).Nodup) (hnote : note ∈ notes) :
    ReflTransGen (Up (parentOf notes)) note.parentGroupId "" ∧ outOfCycle notes note = note ∨
      ¬ReflTransGen (Up (parentOf notes)) note.parentGroupId "" ∧
        outOfCycle notes note = { note with parentGroupId := "" } := by
  obtain ⟨found, hfound⟩ := comesBack_eq_some hnote note.parentGroupId
  have hiff : found = false ↔ ReflTransGen (Up (parentOf notes)) note.parentGroupId "" := by
    apply comesBack_eq_false_iff hfound
    intro id hid
    cases Finset.mem_singleton.mp hid
    by_cases hempty : note.id = ""
    · exact .inl hempty
    · exact .inr (.single ⟨hempty, by simp [parentOf_of_mem hunique hnote]⟩)
  cases found with
  | false => exact .inl ⟨hiff.mp rfl, by simp [outOfCycle, hfound]⟩
  | true => exact .inr ⟨fun hends => by simpa using hiff.mpr hends, by simp [outOfCycle, hfound]⟩

@[simp] theorem inKnownGroup_id (notes : List CanvasNoteData) (note : CanvasNoteData) :
    (inKnownGroup notes note).id = note.id := by
  unfold inKnownGroup
  split <;> rfl

@[simp] theorem inKnownGroup_kind (notes : List CanvasNoteData) (note : CanvasNoteData) :
    (inKnownGroup notes note).kind = note.kind := by
  unfold inKnownGroup
  split <;> rfl

@[simp] theorem outOfCycle_id (notes : List CanvasNoteData) (note : CanvasNoteData) :
    (outOfCycle notes note).id = note.id := by
  unfold outOfCycle
  split <;> rfl

theorem outsideGroups_map {change : CanvasNoteData → CanvasNoteData}
    (h : ∀ note, change note = note ∨ change note = { note with parentGroupId := "" }) :
    outsideGroups (notes.map change) = outsideGroups notes := by
  simp only [outsideGroups, List.map_map]
  apply List.map_congr_left
  intro note _
  rcases h note with heq | heq <;> simp [heq]

theorem outsideGroups_normalize (notes : List CanvasNoteData) :
    outsideGroups (normalizeCanvasGroups notes) = outsideGroups notes := by
  rw [normalizeCanvasGroups_eq, outsideGroups_map fun note => ?_, outsideGroups_map fun note => ?_]
  · unfold inKnownGroup
    split <;> simp
  · unfold outOfCycle
    split <;> simp

theorem normalizeCanvasGroups_ids (notes : List CanvasNoteData) :
    (normalizeCanvasGroups notes).map (·.id) = notes.map (·.id) := by
  have hids := congrArg (List.map (·.id)) (outsideGroups_normalize notes)
  simpa [outsideGroups, Function.comp_def] using hids

/-- No note in a chain that ends lies in itself. -/
theorem GroupChain.not_self (hunique : (notes.map (·.id)).Nodup) (h : GroupChain notes id)
    (hnote : note ∈ notes) (hid : note.id = id) (hself : note.parentGroupId = id) : id = "" := by
  induction h with
  | outside => rfl
  | @inside group hgroup hkind h ih =>
    cases List.inj_on_of_nodup_map hunique hnote hgroup hid
    rw [← hself]
    exact ih hself.symm rfl

/-- A way up through known groups ends if the groups are all there. -/
theorem GroupChain.ends (hunique : (notes.map (·.id)).Nodup) (h : GroupChain notes id) :
    ReflTransGen (Up (parentOf (notes.map (inKnownGroup notes)))) id "" := by
  induction h with
  | outside => exact .refl
  | @inside group hgroup hkind h ih =>
    by_cases hempty : group.id = ""
    · rw [hempty]
    · have hids : ((notes.map (inKnownGroup notes)).map (·.id)).Nodup := by
        simpa [Function.comp_def] using hunique
      have hparent := parentOf_of_mem hids (List.mem_map_of_mem hgroup)
      rw [inKnownGroup_id] at hparent
      refine .head ⟨hempty, by rw [hparent, Option.getD_some]⟩ ?_
      unfold inKnownGroup
      split
      · exact .refl
      · exact ih

theorem GroupChain.known (hunique : (notes.map (·.id)).Nodup) (hnote : note ∈ notes)
    (h : GroupChain notes note.parentGroupId) : inKnownGroup notes note = note := by
  unfold inKnownGroup
  split
  · rename_i hunknown
    have hempty : note.parentGroupId = "" := by
      rcases hunknown with hself | hmissing
      · exact h.not_self hunique hnote hself.symm rfl
      · generalize hparent : note.parentGroupId = parent at h hmissing
        cases h with
        | outside => rfl
        | inside hgroup hkind _ =>
          refine absurd (List.mem_map_of_mem (List.mem_filter.mpr ⟨hgroup, ?_⟩)) hmissing
          simpa using hkind
    rw [← hempty]
  · rfl

theorem known_unique (hunique : (notes.map (·.id)).Nodup) :
    ((notes.map (inKnownGroup notes)).map (·.id)).Nodup := by
  simpa [Function.comp_def] using hunique

/-- Notes whose groups are all there stay where they are. -/
theorem GroupChain.kept (hunique : (notes.map (·.id)).Nodup) (hnote : note ∈ notes)
    (h : GroupChain notes note.parentGroupId) :
    outOfCycle (notes.map (inKnownGroup notes)) (inKnownGroup notes note) = note := by
  have hknown := h.known hunique hnote
  have hmem : note ∈ notes.map (inKnownGroup notes) := hknown ▸ List.mem_map_of_mem hnote
  rw [hknown]
  rcases outOfCycle_cases (known_unique hunique) hmem with ⟨-, hkept⟩ | ⟨hnot, -⟩
  · exact hkept
  · exact absurd (h.ends hunique) hnot

/-- A canvas on which the groups around every note are all there is left as it is. -/
theorem normalizeCanvasGroups_eq_self (hunique : (notes.map (·.id)).Nodup)
    (h : ∀ note ∈ notes, GroupChain notes note.parentGroupId) :
    normalizeCanvasGroups notes = notes := by
  rw [normalizeCanvasGroups_eq, List.map_map]
  have hkept : notes.map (outOfCycle (notes.map (inKnownGroup notes)) ∘ inKnownGroup notes) =
      notes.map id :=
    List.map_congr_left fun note hnote => (h note hnote).kept hunique hnote
  rw [hkept, List.map_id]

/-- After the first pass a note names a group that is there, or none. -/
theorem inKnownGroup_parent (notes : List CanvasNoteData) (note : CanvasNoteData) :
    (inKnownGroup notes note).parentGroupId = "" ∨
      ∃ group ∈ notes, group.kind = "group" ∧ group.id = (inKnownGroup notes note).parentGroupId := by
  unfold inKnownGroup
  split
  · exact .inl rfl
  · rename_i hknown
    push Not at hknown
    obtain ⟨group, hgroup, hid⟩ := List.mem_map.mp hknown.2
    rw [List.mem_filter] at hgroup
    exact .inr ⟨group, hgroup.1, by simpa using hgroup.2, hid⟩

/-- A way up that ends goes through groups that stay in their groups. -/
theorem groupChain_of_ends (hunique : (notes.map (·.id)).Nodup)
    (h : ReflTransGen (Up (parentOf (notes.map (inKnownGroup notes)))) id "")
    (hid : id = "" ∨ ∃ group ∈ notes, group.kind = "group" ∧ group.id = id) :
    GroupChain (normalizeCanvasGroups notes) id := by
  induction h using ReflTransGen.head_induction_on with
  | refl => exact .outside
  | @head id parent hup hends ih =>
    obtain ⟨group, hgroup, hkind, rfl⟩ := hid.resolve_left hup.1
    have hmem := List.mem_map_of_mem (f := inKnownGroup notes) hgroup
    have hparent := parentOf_of_mem (known_unique hunique) hmem
    have hnamed : (inKnownGroup notes group).parentGroupId = parent := by
      have hup := hup.2
      rwa [← inKnownGroup_id notes group, hparent] at hup
    have hkept : inKnownGroup notes group ∈ normalizeCanvasGroups notes := by
      rcases outOfCycle_cases (known_unique hunique) hmem with ⟨-, hkept⟩ | ⟨hnot, -⟩
      · rw [normalizeCanvasGroups_eq, ← hkept]
        exact List.mem_map_of_mem hmem
      · exact absurd (hnamed ▸ hends) hnot
    have hchain : GroupChain (normalizeCanvasGroups notes)
        (inKnownGroup notes group).parentGroupId := by
      rw [hnamed]
      exact ih (hnamed ▸ (inKnownGroup_parent notes group))
    rw [← inKnownGroup_id notes group]
    exact .inside hkept (by simpa using hkind) hchain

/-- Afterwards all the groups around a note are there. -/
theorem normalizeCanvasGroups_chain (hunique : (notes.map (·.id)).Nodup)
    (hnote : note ∈ normalizeCanvasGroups notes) :
    GroupChain (normalizeCanvasGroups notes) note.parentGroupId := by
  rw [normalizeCanvasGroups_eq] at hnote
  obtain ⟨named, hnamed, rfl⟩ := List.mem_map.mp hnote
  rcases outOfCycle_cases (known_unique hunique) hnamed with ⟨hends, hkept⟩ | ⟨-, htaken⟩
  · obtain ⟨original, -, rfl⟩ := List.mem_map.mp hnamed
    rw [hkept]
    exact groupChain_of_ends hunique hends (inKnownGroup_parent notes original)
  · rw [htaken]
    exact .outside

/-- Loading repairs the groups, and nothing else. -/
theorem loading_repairs_groups (hunique : (notes.map (·.id)).Nodup) :
    (∀ note ∈ normalizeCanvasGroups notes, note.parentGroupId ≠ "" →
      ∃ group ∈ normalizeCanvasGroups notes,
        group.kind = "group" ∧ group.id = note.parentGroupId) ∧
    (∀ note ∈ normalizeCanvasGroups notes,
      GroupChain (normalizeCanvasGroups notes) note.parentGroupId) ∧
    (∀ note ∈ notes, GroupChain notes note.parentGroupId → note ∈ normalizeCanvasGroups notes) ∧
    outsideGroups (normalizeCanvasGroups notes) = outsideGroups notes ∧
    normalizeCanvasGroups (normalizeCanvasGroups notes) = normalizeCanvasGroups notes := by
  have hchain : ∀ note ∈ normalizeCanvasGroups notes,
      GroupChain (normalizeCanvasGroups notes) note.parentGroupId :=
    fun note hnote => normalizeCanvasGroups_chain hunique hnote
  refine ⟨fun note hnote hinside => ?_, hchain, fun note hnote h => ?_,
    outsideGroups_normalize notes, ?_⟩
  · generalize hparent : note.parentGroupId = parent at hinside
    cases hparent ▸ hchain note hnote with
    | outside => exact absurd rfl hinside
    | inside hgroup hkind _ => exact ⟨_, hgroup, hkind, rfl⟩
  · rw [normalizeCanvasGroups_eq, List.map_map, ← h.kept hunique hnote]
    exact List.mem_map_of_mem hnote
  · have hids : ((normalizeCanvasGroups notes).map (·.id)).Nodup :=
      normalizeCanvasGroups_ids notes ▸ hunique
    exact normalizeCanvasGroups_eq_self hids hchain

/-- Two groups in each other, with a note in them; a note in a missing group, and one in a group
that is there. -/
def tangledNotes : List CanvasNoteData :=
  let inside (id kind parent : String) : CanvasNoteData :=
    { id := id, kind := kind, content := "", x := 0, y := 0, parentGroupId := parent }
  [inside "a" "group" "b", inside "b" "group" "a", inside "c" "note" "a", inside "d" "note" "e",
    inside "g" "group" "", inside "h" "note" "g"]

theorem loading_repairs_groups_tangled :
    (normalizeCanvasGroups tangledNotes).map (fun note => (note.id, note.parentGroupId)) =
      [("a", ""), ("b", ""), ("c", ""), ("d", ""), ("g", ""), ("h", "g")] ∧
    normalizeCanvasGroups (normalizeCanvasGroups tangledNotes) =
      normalizeCanvasGroups tangledNotes :=
  ⟨by decide +kernel, (loading_repairs_groups (by decide)).2.2.2.2⟩

end ArtForgeStudio.Canvas
