import Mathlib.Data.Rat.Defs
import Mathlib.Data.List.Basic
import Std.Data.ExtTreeMap
import Std.Data.ExtTreeSet

/-! # Values in JSON

A codec writes values as JSON and reads them back. What is read is what was written, up to the
parts that are not kept; the law is a field of the codec, so that a record is read back as soon
as its members are.
-/

namespace ArtForgeStudio.Codecs

inductive Scalar where
  | null
  | bool (b : Bool)
  | int (n : Int)
  | float (x : Rat)
  | str (s : String)
  deriving DecidableEq

/-- A JSON value; two texts of the same writer are equal exactly if their values are. -/
inductive Json where
  | scalar (scalar : Scalar)
  | arr (items : List Json)
  | obj (members : List (String × Json))

namespace Json

mutual

def decEq : (a b : Json) → Decidable (a = b)
  | .scalar a, .scalar b => decidable_of_iff (a = b) (by simp)
  | .arr a, .arr b =>
    have := decEqItems a b
    decidable_of_iff (a = b) (by simp)
  | .obj a, .obj b =>
    have := decEqMembers a b
    decidable_of_iff (a = b) (by simp)
  | .scalar _, .arr _ | .scalar _, .obj _ | .arr _, .scalar _ | .arr _, .obj _
  | .obj _, .scalar _ | .obj _, .arr _ => .isFalse (by simp)

def decEqItems : (a b : List Json) → Decidable (a = b)
  | [], [] => .isTrue rfl
  | a :: as, b :: bs =>
    have := decEq a b
    have := decEqItems as bs
    decidable_of_iff (a = b ∧ as = bs) (by simp)
  | [], _ :: _ | _ :: _, [] => .isFalse (by simp)

def decEqMembers : (a b : List (String × Json)) → Decidable (a = b)
  | [], [] => .isTrue rfl
  | (name, a) :: as, (other, b) :: bs =>
    have := decEq a b
    have := decEqMembers as bs
    decidable_of_iff ((name = other ∧ a = b) ∧ as = bs) (by simp)
  | [], _ :: _ | _ :: _, [] => .isFalse (by simp)

end

instance : DecidableEq Json := decEq

end Json

abbrev BTreeMap (V : Type) := Std.ExtTreeMap String V compare

abbrev BTreeSet := Std.ExtTreeSet String compare

section Maps

variable {V : Type}

/-- A map is its entries, inserted one after the other. -/
theorem ofList_toList (map : BTreeMap V) : (Std.ExtTreeMap.ofList map.toList : BTreeMap V) = map := by
  refine Std.ExtTreeMap.ext_getElem? fun {key} => ?_
  cases hget : map[key]? with
  | some value =>
    exact Std.ExtTreeMap.getElem?_ofList_of_mem Std.ReflCmp.compare_self
      Std.ExtTreeMap.distinct_keys_toList (Std.ExtTreeMap.mem_toList_iff_getElem?_eq_some.mpr hget)
  | none =>
    refine Std.ExtTreeMap.getElem?_ofList_of_contains_eq_false ?_
    rw [Std.ExtTreeMap.map_fst_toList_eq_keys]
    simpa using hget

theorem ofList_toList_set (set : BTreeSet) :
    (Std.ExtTreeSet.ofList set.toList : BTreeSet) = set := by
  refine Std.ExtTreeSet.ext_mem fun key => ?_
  rw [Std.ExtTreeSet.mem_ofList]
  simp

end Maps

structure Codec (α : Type) where
  encode : α → Json
  decode : Json → Option α
  /-- What is left of a value when it was written and read. -/
  restored : α → α := id
  decode_encode : ∀ value, decode (encode value) = some (restored value)

namespace Codec

variable {α : Type}

def bool : Codec Bool where
  encode b := .scalar (.bool b)
  decode
    | .scalar (.bool b) => some b
    | _ => none
  decode_encode _ := rfl

def int : Codec Int where
  encode n := .scalar (.int n)
  decode
    | .scalar (.int n) => some n
    | _ => none
  decode_encode _ := rfl

def nat : Codec Nat where
  encode n := .scalar (.int n)
  decode
    | .scalar (.int (.ofNat n)) => some n
    | _ => none
  decode_encode _ := rfl

/-- A finite number. -/
def float : Codec Rat where
  encode x := .scalar (.float x)
  decode
    | .scalar (.float x) => some x
    | .scalar (.int n) => some n
    | _ => none
  decode_encode _ := rfl

def string : Codec String where
  encode s := .scalar (.str s)
  decode
    | .scalar (.str s) => some s
    | _ => none
  decode_encode _ := rfl

theorem mapM_encode (codec : Codec α) (values : List α) :
    (values.map codec.encode).mapM codec.decode = some (values.map codec.restored) := by
  induction values with
  | nil => rfl
  | cons value values ih => simp [codec.decode_encode, ih]

def list (codec : Codec α) : Codec (List α) where
  encode values := .arr (values.map codec.encode)
  decode
    | .arr items => items.mapM codec.decode
    | _ => none
  restored values := values.map codec.restored
  decode_encode values := mapM_encode codec values

/-- `null` is no value. -/
def option (codec : Codec α) (hnull : ∀ value, codec.encode value ≠ .scalar .null) :
    Codec (Option α) where
  encode
    | none => .scalar .null
    | some value => codec.encode value
  decode
    | .scalar .null => some none
    | json => (codec.decode json).map some
  restored := Option.map codec.restored
  decode_encode value := by
    cases value with
    | none => rfl
    | some value =>
      have hdecode := codec.decode_encode value
      have hsome := hnull value
      dsimp only
      split
      · exact absurd ‹_› hsome
      · rw [hdecode]
        rfl

def decodeEntry (codec : Codec α) (entry : String × Json) : Option (String × α) :=
  (codec.decode entry.2).map (entry.1, ·)

theorem mapM_encodeEntry (codec : Codec α) (entries : List (String × α)) :
    (entries.map fun entry => (entry.1, codec.encode entry.2)).mapM codec.decodeEntry =
      some (entries.map fun entry => (entry.1, codec.restored entry.2)) := by
  induction entries with
  | nil => rfl
  | cons entry entries ih =>
    rw [List.map_cons, List.mapM_cons, ih]
    simp [decodeEntry, codec.decode_encode]

def map (codec : Codec α) : Codec (BTreeMap α) where
  encode values := .obj (values.toList.map fun entry => (entry.1, codec.encode entry.2))
  decode
    | .obj members => (members.mapM codec.decodeEntry).map fun entries => .ofList entries
    | _ => none
  restored values := values.map fun _ => codec.restored
  decode_encode values := by
    dsimp only
    rw [mapM_encodeEntry, ← ofList_toList (values.map fun _ => codec.restored),
      Std.ExtTreeMap.toList_map]
    rfl

def set : Codec BTreeSet where
  encode values := .arr (values.toList.map string.encode)
  decode
    | .arr items => (items.mapM string.decode).map fun values => .ofList values
    | _ => none
  decode_encode values := by
    dsimp only
    rw [mapM_encode]
    simp [string, ofList_toList_set]

attribute [simp] Codec.decode_encode

/-- Everything is kept. -/
class Faithful (codec : Codec α) : Prop where
  restored_eq : codec.restored = id

section Faithful

variable (codec : Codec α)

instance : Faithful bool := ⟨rfl⟩
instance : Faithful int := ⟨rfl⟩
instance : Faithful nat := ⟨rfl⟩
instance : Faithful float := ⟨rfl⟩
instance : Faithful string := ⟨rfl⟩
instance : Faithful set := ⟨rfl⟩

theorem list_restored (values : List α) :
    (list codec).restored values = values.map codec.restored := rfl

theorem map_restored (values : BTreeMap α) :
    (map codec).restored values = values.map fun _ => codec.restored := rfl

variable [Faithful codec]

@[simp] theorem restored_apply (value : α) : codec.restored value = value := by
  rw [Faithful.restored_eq]
  rfl

instance : Faithful (list codec) := ⟨funext fun values => by
  simp [list_restored, Faithful.restored_eq]⟩

instance : Faithful (map codec) := ⟨funext fun values =>
  Std.ExtTreeMap.ext_getElem? fun {key} => by simp [map_restored, Faithful.restored_eq]⟩

instance (hnull : ∀ value, codec.encode value ≠ .scalar .null) : Faithful (option codec hnull) :=
  ⟨funext fun value => by cases value <;> simp [option]⟩

end Faithful

end Codec

section Members

variable {α : Type} (members : List (String × Json)) (name : String) (codec : Codec α)

/-- A member that must be there. -/
def member : Option α := members.lookup name >>= codec.decode

/-- A member with a default value. -/
def memberOr (default : α) : Option α :=
  match members.lookup name with
  | some json => codec.decode json
  | none => some default

variable {members name codec} {other : String} {json : Json}

@[simp] theorem member_cons : member ((other, json) :: members) name codec =
    if name = other then codec.decode json else member members name codec := by
  by_cases h : name = other
  · simp [member, h]
  · simp [member, List.lookup_cons, beq_false_of_ne h, h]

@[simp] theorem memberOr_cons (default : α) : memberOr ((other, json) :: members) name codec default =
    if name = other then codec.decode json else memberOr members name codec default := by
  by_cases h : name = other
  · simp [memberOr, h]
  · simp [memberOr, List.lookup_cons, beq_false_of_ne h, h]

end Members

end ArtForgeStudio.Codecs
