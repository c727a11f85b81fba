import Mathlib.Data.List.Induction
import Mathlib.Tactic.Common

/-! # Lists cut where a label changes

The items of a list are collected in stretches: an item joins the last stretch if that has its
label, and begins a new one otherwise. A list that comes in parts may be cut part by part: the
first stretch of a part continues the last one before it if they have the same label.
-/

namespace ArtForgeStudio.Stretches

variable {A B C L : Type} [DecidableEq L]

/-- The last stretch has the label. -/
def openStretch (label : L) (stretches : List (L × List B)) : List (L × List B) :=
  if stretches.getLast?.map (·.1) = some label then stretches else stretches ++ [(label, [])]

def addToLast (item : B) (stretches : List (L × List B)) : List (L × List B) :=
  match stretches.getLast? with
  | some (label, items) => stretches.dropLast ++ [(label, items ++ [item])]
  | none => []

def push (stretches : List (L × List B)) (label : L) (item : B) : List (L × List B) :=
  addToLast item (openStretch label stretches)

def cut (label : A → L) (content : A → B) (items : List A) : List (L × List B) :=
  items.foldl (fun stretches item => push stretches (label item) (content item)) []

/-- The first stretch of the second list continues the last of the first, if the labels agree. -/
def join (first second : List (L × List B)) : List (L × List B) :=
  match first.getLast?, second with
  | some (label, items), (other, more) :: rest =>
    if label = other then first.dropLast ++ (label, items ++ more) :: rest else first ++ second
  | _, _ => first ++ second

variable {label : A → L} {content : A → B} {first second front rest : List (L × List B)}
  {last other : L} {items more : List B} {item : B}

theorem push_nil : push [] last item = [(last, [item])] := rfl

theorem push_concat : push (front ++ [(last, items)]) other item =
    if last = other then front ++ [(last, items ++ [item])]
    else front ++ [(last, items)] ++ [(other, [item])] := by
  unfold push openStretch
  by_cases hlabel : last = other <;> simp [hlabel, addToLast]

theorem push_singleton : push [(last, items)] other item =
    if last = other then [(last, items ++ [item])] else [(last, items), (other, [item])] := by
  have h : push ([] ++ [(last, items)]) other item = _ := push_concat
  simpa using h

@[simp] theorem cut_nil : cut label content [] = [] := rfl

theorem cut_concat (items : List A) (item : A) : cut label content (items ++ [item]) =
    push (cut label content items) (label item) (content item) := by
  simp [cut, List.foldl_append]

@[simp] theorem join_nil_left : join [] second = second := rfl

@[simp] theorem join_nil_right : join first [] = first := by
  unfold join
  split <;> simp_all

theorem join_concat_cons : join (front ++ [(last, items)]) ((other, more) :: rest) =
    if last = other then front ++ (last, items ++ more) :: rest
    else front ++ [(last, items)] ++ (other, more) :: rest := by
  simp [join]

/-- Nothing is continued if the labels at the seam differ. -/
theorem join_of_apart (h : ∀ before after, first.getLast? = some before →
    second.head? = some after → before.1 ≠ after.1) : join first second = first ++ second := by
  rcases List.eq_nil_or_concat first with rfl | ⟨front, ⟨last, items⟩, rfl⟩
  · rfl
  · cases second with
    | nil => rw [join_nil_right, List.append_nil]
    | cons stretch rest =>
      obtain ⟨other, more⟩ := stretch
      have hapart : last ≠ other := h (last, items) (other, more) (by simp) rfl
      rw [List.concat_eq_append, join_concat_cons, if_neg hapart]

theorem join_append (h : second ≠ []) : join first (second ++ rest) = join first second ++ rest := by
  obtain ⟨⟨other, more⟩, second, rfl⟩ := List.exists_cons_of_ne_nil h
  rcases List.eq_nil_or_concat first with rfl | ⟨front, ⟨last, items⟩, rfl⟩
  · rfl
  · rw [List.concat_eq_append, List.cons_append, join_concat_cons, join_concat_cons]
    split <;> simp

/-- An item more at the end of the second list is one more at the end of both. -/
theorem push_join : push (join first second) other item = join first (push second other item) := by
  rcases List.eq_nil_or_concat second with rfl | ⟨start, ⟨label, more⟩, rfl⟩
  · rcases List.eq_nil_or_concat first with rfl | ⟨front, ⟨last, items⟩, rfl⟩
    · rfl
    · rw [List.concat_eq_append, join_nil_right, push_concat, push_nil, join_concat_cons]
  · rw [List.concat_eq_append]
    cases start with
    | nil =>
      rcases List.eq_nil_or_concat first with rfl | ⟨front, ⟨last, items⟩, rfl⟩
      · rfl
      · rw [List.concat_eq_append, List.nil_append, join_concat_cons, push_singleton]
        by_cases hlast : last = label
        · subst hlast
          rw [if_pos rfl, push_concat]
          split
          · rw [join_concat_cons, if_pos rfl, List.append_assoc]
          · rw [join_concat_cons, if_pos rfl, List.append_assoc]
            rfl
        · rw [if_neg hlast, push_concat]
          split
          · rw [join_concat_cons, if_neg hlast]
          · rw [join_concat_cons, if_neg hlast, List.append_assoc]
            rfl
    | cons stretch start =>
      rw [join_append (by simp), push_concat, push_concat]
      split
      · rw [join_append (by simp)]
      · rw [List.append_assoc, List.append_assoc, join_append (by simp)]

theorem cut_append (before after : List A) : cut label content (before ++ after) =
    join (cut label content before) (cut label content after) := by
  induction after using List.reverseRec with
  | nil => simp
  | append_singleton after item ih =>
    rw [← List.append_assoc, cut_concat, cut_concat, ih, push_join]

theorem push_map (f : B → C) (stretches : List (L × List B)) :
    push (stretches.map (Prod.map id (List.map f))) other (f item) =
      (push stretches other item).map (Prod.map id (List.map f)) := by
  rcases List.eq_nil_or_concat stretches with rfl | ⟨front, ⟨last, items⟩, rfl⟩
  · rfl
  · rw [List.concat_eq_append, List.map_append, List.map_singleton, push_concat]
    simp only [Prod.map, id_eq, push_concat]
    split <;> simp

/-- The contents may be read before or after the list is cut. -/
theorem cut_eq_map (items : List A) : cut label content items =
    (cut label id items).map (Prod.map id (List.map content)) := by
  induction items using List.reverseRec with
  | nil => rfl
  | append_singleton items item ih => rw [cut_concat, cut_concat, ih, id_eq, push_map]

end ArtForgeStudio.Stretches
