import ArtForgeStudio.Library.Codecs
import Mathlib.Data.List.Nodup
import Mathlib.Data.List.Perm.Basic
import Mathlib.Tactic.Common

/-! # What the entries of a map hold together

Every entry of a map holds some items. The items of all entries are counted with repetition: an
entry that is removed takes its own along, one that is inserted adds its own, and a change of all
entries that leaves out items leaves them out of the whole. An account of what entered lists what
is here and what is gone.
-/

namespace ArtForgeStudio.Contents

open ArtForgeStudio.Codecs

section Entries

variable {V : Type} {map : BTreeMap V} {key other : String} {value : V} {keys : List String}

theorem nodup_toList (map : BTreeMap V) : map.toList.Nodup := by
  refine List.Nodup.of_map Prod.fst ?_
  rw [Std.ExtTreeMap.map_fst_toList_eq_keys]
  exact Std.ExtTreeMap.nodup_keys

theorem toList_perm_of_getElem? (h : map[key]? = some value) :
    map.toList.Perm ((key, value) :: (map.erase key).toList) := by
  refine (List.perm_ext_iff_of_nodup (nodup_toList _)
    (List.nodup_cons.mpr ⟨by simp, nodup_toList _⟩)).mpr ?_
  rintro ⟨other, found⟩
  rw [List.mem_cons, Std.ExtTreeMap.mem_toList_iff_getElem?_eq_some,
    Std.ExtTreeMap.mem_toList_iff_getElem?_eq_some, Std.ExtTreeMap.getElem?_erase]
  by_cases hkey : key = other
  · subst hkey
    simp [h, eq_comm]
  · simp [hkey, Ne.symm hkey]

theorem erase_insert : (map.insert key value).erase key = map.erase key := by
  refine Std.ExtTreeMap.ext_getElem? fun {other} => ?_
  rw [Std.ExtTreeMap.getElem?_erase, Std.ExtTreeMap.getElem?_erase, Std.ExtTreeMap.getElem?_insert]
  by_cases hkey : key = other <;> simp [hkey]

theorem erase_of_absent (h : map[key]? = none) : map.erase key = map := by
  refine Std.ExtTreeMap.ext_getElem? fun {other} => ?_
  rw [Std.ExtTreeMap.getElem?_erase]
  by_cases hkey : key = other
  · subst hkey
    simp [h]
  · simp [hkey]

theorem getElem?_erase_all :
    (keys.foldl (fun map key => map.erase key) map)[other]? =
      if other ∈ keys then none else map[other]? := by
  induction keys generalizing map with
  | nil => simp
  | cons key keys ih =>
    rw [List.foldl_cons, ih, Std.ExtTreeMap.getElem?_erase]
    by_cases hkey : key = other
    · simp [hkey]
    · simp [hkey, Ne.symm hkey]

end Entries

section Items

variable {V A : Type} (items : V → List A) {map : BTreeMap V} {key : String} {value : V}

def contents (map : BTreeMap V) : List A := map.toList.flatMap fun entry => items entry.2

@[simp] theorem contents_empty : contents items ∅ = [] := by simp [contents]

/-- An entry holds its own part of the contents. -/
theorem contents_of_getElem? (h : map[key]? = some value) :
    (contents items map).Perm (items value ++ contents items (map.erase key)) :=
  (toList_perm_of_getElem? h).flatMap_right _

theorem contents_insert : (contents items (map.insert key value)).Perm
    (items value ++ contents items (map.erase key)) := by
  have hfound : (map.insert key value)[key]? = some value := by simp
  have h := contents_of_getElem? items hfound
  rwa [erase_insert] at h

theorem mem_contents {item : A} : item ∈ contents items map ↔
    ∃ (key : String) (value : V), map[key]? = some value ∧ item ∈ items value := by
  simp [contents, Std.ExtTreeMap.mem_toList_iff_getElem?_eq_some]

/-- Entries that keep the items with a property, or go when they have none, keep them together. -/
theorem contents_filterMap (change : V → Option V) (kept : A → Bool)
    (h : ∀ value, (change value).elim [] items = (items value).filter kept) :
    contents items (map.filterMap fun _ => change) = (contents items map).filter kept := by
  rw [contents, contents, Std.ExtTreeMap.toList_filterMap]
  induction map.toList with
  | nil => rfl
  | cons entry entries ih =>
    rw [List.flatMap_cons, List.filter_append, ← ih, ← h entry.2, List.filterMap_cons]
    cases change entry.2 <;> simp

end Items

section Accounts

variable {A : Type} {entered here gone new left next away : List A}

/-- Everything that entered is here or gone, as often as it entered. -/
def Balanced (entered here gone : List A) : Prop := entered.Perm (here ++ gone)

theorem Balanced.enter (h : Balanced entered here gone) (hnext : next.Perm (here ++ new)) :
    Balanced (entered ++ new) next gone := by
  have hswap : (here ++ gone ++ new).Perm (here ++ new ++ gone) := by
    rw [List.append_assoc, List.append_assoc]
    exact List.perm_append_comm.append_left here
  exact (h.append_right new).trans (hswap.trans (hnext.symm.append_right gone))

theorem Balanced.leave (h : Balanced entered here gone) (hhere : here.Perm (left ++ next))
    (haway : away.Perm (gone ++ left)) : Balanced entered next away := by
  have hswap : (left ++ next ++ gone).Perm (next ++ (gone ++ left)) := by
    rw [List.append_assoc, ← List.append_assoc next]
    exact List.perm_append_comm
  exact h.trans ((hhere.append_right gone).trans (hswap.trans (haway.symm.append_left next)))

end Accounts

end ArtForgeStudio.Contents
