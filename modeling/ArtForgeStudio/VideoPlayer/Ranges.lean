import ArtForgeStudio.Api.Wire
import ArtForgeStudio.Library.Numerals
import ArtForgeStudio.Library.Outcome
import Mathlib.Order.Interval.Set.Basic
import Mathlib.Tactic.Ring

/-! # Ranges of a video

The player asks for a part of a video by a `Range` header. What is answered is one interval of the
file, and it holds exactly the places that were asked for and are in the file.
-/

namespace ArtForgeStudio.VideoPlayer

open ArtForgeStudio.Api ArtForgeStudio.Outcome ArtForgeStudio.Numerals

def u64Bound : Nat := 0x10000000000000000

def checkedAdd (a b : Nat) : Option Nat := if a + b < u64Bound then some (a + b) else none

def checkedSub (a b : Nat) : Option Nat := if b ≤ a then some (a - b) else none

/-- The closure `decimal` of `video_range`; `parse::<u64>` fails on what does not fit. -/
def rangeDecimal (value : List Char) : Except String Nat := do
  ensure (value ≠ [] ∧ value.all Char.isDigit) "invalid range"
  match (parseDigits value 0).filter (· < u64Bound) with
  | some n => .ok n
  | none => .error "number too large to fit in target type"

/-- The first and the last place that the two sides of the dash ask for. -/
def rangeEnds (start last : List Char) (size : Nat) : Except String (Nat × Nat) :=
  if start = [] then do
    let suffix ← rangeDecimal last
    ensure (0 < suffix) "invalid suffix range"
    .ok (size - suffix, size - 1)
  else do
    let start ← rangeDecimal start
    if last = [] then .ok (start, size - 1)
    else do
      let last ← rangeDecimal last
      .ok (start, min last (size - 1))

/-- The first place, the length, and whether it is only a part. -/
def videoRange (value : Option (List Char)) (size : Nat) : Except String (Nat × Nat × Bool) := do
  ensure (0 < size ∧ size ≤ 0x7FFFFFFFFFFFFFFF) "invalid video size"
  match value with
  | none => .ok (0, size, false)
  | some value =>
    match value.dropPrefix? "bytes=".toList with
    | none => .error "invalid range"
    | some value => do
      rejectIf (',' ∈ value) "multiple ranges unsupported"
      match splitOnce '-' value with
      | none => .error "invalid range"
      | some (start, last) => do
        let (start, last) ← rangeEnds start last size
        ensure (start < size ∧ start ≤ last) "unsatisfiable range"
        match (checkedSub last start).bind (checkedAdd · 1) with
        | none => .error "range overflow"
        | some length => .ok (start, length, true)

inductive ByteRange where
  | between (first last : Nat)
  | onward (first : Nat)
  | suffix (count : Nat)

/-- The places of a file of `size` bytes that are asked for. -/
def ByteRange.positions (size : Nat) : ByteRange → Set Nat
  | .between first last => {i | i < size ∧ first ≤ i ∧ i ≤ last}
  | .onward first => {i | i < size ∧ first ≤ i}
  | .suffix count => {i | i < size ∧ size ≤ i + count}

/-- The word is a numeral of a number of 64 bits; it may begin with zeros. -/
structure IsDecimal (word : List Char) (n : Nat) : Prop where
  ne_nil : word ≠ []
  numeral : decimal.IsNumeral word
  number : decimal.number word = n
  bound : n < u64Bound

inductive Spells : List Char → ByteRange → Prop where
  | between {a b : List Char} {first last : Nat} (ha : IsDecimal a first) (hb : IsDecimal b last) :
    Spells ("bytes=".toList ++ (a ++ '-' :: b)) (.between first last)
  | onward {a : List Char} {first : Nat} (ha : IsDecimal a first) :
    Spells ("bytes=".toList ++ (a ++ ['-'])) (.onward first)
  | suffix {b : List Char} {count : Nat} (hb : IsDecimal b count) :
    Spells ("bytes=".toList ++ ('-' :: b)) (.suffix count)

variable {word text value start last : List Char} {n size first length : Nat} {part : Bool}

theorem parseDigits_of_isNumeral (h : decimal.IsNumeral word) (n : Nat) :
    parseDigits word n = some (n * 10 ^ word.length + decimal.number word) := by
  induction word generalizing n with
  | nil => simp [parseDigits]
  | cons c word ih =>
    rw [System.isNumeral_cons] at h
    have hc : c.isDigit = true := h.1
    rw [parseDigits, if_pos hc, ih h.2, System.number_cons, List.length_cons, pow_succ]
    have hbase : decimal.base = 10 := rfl
    have hdigit : decimal.digit c = c.toNat - '0'.toNat := rfl
    rw [hbase, hdigit]
    congr 1
    ring

theorem rangeDecimal_eq_ok_iff : rangeDecimal word = .ok n ↔ IsDecimal word n := by
  have hall : word.all Char.isDigit = true ↔ decimal.IsNumeral word := by
    rw [List.all_eq_true]
    rfl
  simp only [rangeDecimal, bind_eq_ok, exists_unit, ensure_eq_ok, hall]
  constructor
  · rintro ⟨⟨hne, hnumeral⟩, hparse⟩
    rw [parseDigits_of_isNumeral hnumeral, Nat.zero_mul, Nat.zero_add, Option.filter_some] at hparse
    split at hparse
    · rename_i hsome
      obtain rfl := Except.ok.inj hparse
      split at hsome
      · rename_i hlt
        obtain rfl := Option.some.inj hsome
        exact ⟨hne, hnumeral, rfl, of_decide_eq_true hlt⟩
      · contradiction
    · contradiction
  · rintro ⟨hne, hnumeral, hnumber, hbound⟩
    refine ⟨⟨hne, hnumeral⟩, ?_⟩
    rw [parseDigits_of_isNumeral hnumeral, Nat.zero_mul, Nat.zero_add, hnumber, Option.filter_some,
      if_pos (decide_eq_true hbound)]

theorem IsDecimal.not_mem {c : Char} (h : IsDecimal word n) (hc : c.isDigit = false) : c ∉ word := by
  intro hmem
  have hdigit : c.isDigit = true := h.numeral c hmem
  rw [hc] at hdigit
  contradiction

theorem splitOnce_eq_some_iff {c : Char} {before after : List Char} :
    splitOnce c text = some (before, after) ↔ text = before ++ c :: after ∧ c ∉ before := by
  unfold splitOnce
  constructor
  · intro h
    split at h
    · rename_i hmem
      obtain ⟨rfl, rfl⟩ := Prod.mk.inj (Option.some.inj h)
      refine ⟨?_, ?_⟩
      · have hne : text.dropWhile (· ≠ c) ≠ [] := by
          rw [ne_eq, List.dropWhile_eq_nil_iff]
          intro hall
          have hself := hall c hmem
          simp at hself
        obtain ⟨d, rest, hrest⟩ := List.exists_cons_of_ne_nil hne
        have hhead : d = c := by
          have hnot := List.head?_dropWhile_not (· ≠ c) text
          rw [hrest] at hnot
          simpa using hnot
        calc text = text.takeWhile (· ≠ c) ++ text.dropWhile (· ≠ c) :=
              (List.takeWhile_append_dropWhile ..).symm
          _ = text.takeWhile (· ≠ c) ++ c :: (text.dropWhile (· ≠ c)).tail := by
              rw [hrest, hhead, List.tail_cons]
      · intro htaken
        have hkept := List.mem_takeWhile_imp htaken
        simp at hkept
    · contradiction
  · rintro ⟨rfl, hnot⟩
    have hbefore : ∀ d ∈ before, decide (d ≠ c) = true := by
      intro d hd
      exact decide_eq_true fun heq => hnot (heq ▸ hd)
    rw [if_pos (by simp)]
    rw [List.takeWhile_append_of_pos hbefore, List.dropWhile_append_of_pos hbefore]
    simp

/-- The interval that the two sides of the dash stand for. -/
theorem rangeEnds_eq_ok_iff {lower upper : Nat} :
    rangeEnds start last size = .ok (lower, upper) ↔
      (start = [] ∧ ∃ count, IsDecimal last count ∧ 0 < count ∧ lower = size - count ∧
        upper = size - 1) ∨
      (last = [] ∧ IsDecimal start lower ∧ upper = size - 1) ∨
      (∃ limit, IsDecimal start lower ∧ IsDecimal last limit ∧ upper = min limit (size - 1)) := by
  unfold rangeEnds
  split
  · rename_i hstart
    have hnot : ∀ m, ¬IsDecimal start m := fun m h => h.ne_nil hstart
    simp only [hstart, true_and, bind_eq_ok, rangeDecimal_eq_ok_iff, exists_unit, ensure_eq_ok,
      Except.ok.injEq, Prod.mk.injEq]
    simp only [← hstart, hnot, false_and, and_false, exists_false, or_false]
    constructor
    · rintro ⟨m, hm, hpos, hlower, hupper⟩
      exact ⟨m, hm, hpos, hlower.symm, hupper.symm⟩
    · rintro ⟨m, hm, hpos, hlower, hupper⟩
      exact ⟨m, hm, hpos, hlower.symm, hupper.symm⟩
  · rename_i hstart
    simp only [hstart, false_and, false_or, bind_eq_ok, rangeDecimal_eq_ok_iff]
    split
    · rename_i hlast
      have hnot : ∀ m, ¬IsDecimal last m := fun m h => h.ne_nil hlast
      simp only [hlast, true_and, Except.ok.injEq, Prod.mk.injEq]
      simp only [← hlast, hnot, false_and, and_false, exists_false, or_false]
      constructor
      · rintro ⟨m, hm, rfl, hupper⟩
        exact ⟨hm, hupper.symm⟩
      · rintro ⟨hm, hupper⟩
        exact ⟨lower, hm, rfl, hupper.symm⟩
    · rename_i hlast
      simp only [hlast, false_and, false_or, bind_eq_ok, rangeDecimal_eq_ok_iff, Except.ok.injEq,
        Prod.mk.injEq]
      constructor
      · rintro ⟨m, hm, limit, hlimit, rfl, hupper⟩
        exact ⟨limit, hm, hlimit, hupper.symm⟩
      · rintro ⟨limit, hm, hlimit, hupper⟩
        exact ⟨lower, hm, limit, hlimit, rfl, hupper.symm⟩

/-- The first place asked for, and the one behind the last. -/
def ByteRange.ends (size : Nat) : ByteRange → Nat × Nat
  | .between first last => (first, min (last + 1) size)
  | .onward first => (first, size)
  | .suffix count => (size - count, size)

theorem ByteRange.positions_eq_Ico (range : ByteRange) :
    range.positions size = Set.Ico (range.ends size).1 (range.ends size).2 := by
  ext i
  cases range <;> simp only [positions, ends, Set.mem_ofPred_eq, Set.mem_Ico] <;> omega

/-- Two intervals with the same places, and with at least one, have the same ends. -/
theorem Ico_eq_Ico_iff {a b c d : Nat} (hlt : c < d) : Set.Ico a b = Set.Ico c d ↔ a = c ∧ b = d := by
  constructor
  · intro h
    have hmem : ∀ i, (a ≤ i ∧ i < b) ↔ (c ≤ i ∧ i < d) := fun i => Set.ext_iff.mp h i
    have hfirst := (hmem c).mpr ⟨le_rfl, hlt⟩
    have hlast := (hmem (d - 1)).mpr ⟨by omega, by omega⟩
    have hleft := (hmem a).mp ⟨le_rfl, by omega⟩
    have hright := (hmem (b - 1)).mp ⟨by omega, by omega⟩
    omega
  · rintro ⟨rfl, rfl⟩
    rfl

theorem exists_rangeEnds_iff {lower upper : Nat} (hsize : 0 < size) :
    (∃ start last, value = "bytes=".toList ++ (start ++ '-' :: last) ∧
      rangeEnds start last size = .ok (lower, upper) ∧ lower < size ∧ lower ≤ upper) ↔
      lower ≤ upper ∧ ∃ range, Spells value range ∧ range.ends size = (lower, upper + 1) := by
  simp only [rangeEnds_eq_ok_iff]
  constructor
  · rintro ⟨start, last, rfl, hends, hlower, hle⟩
    refine ⟨hle, ?_⟩
    rcases hends with ⟨rfl, count, hcount, -, rfl, rfl⟩ | ⟨rfl, hfirst, rfl⟩ |
      ⟨limit, hfirst, hlimit, rfl⟩
    · refine ⟨.suffix count, .suffix hcount, ?_⟩
      rw [ByteRange.ends, Nat.sub_add_cancel hsize]
    · refine ⟨.onward lower, .onward hfirst, ?_⟩
      rw [ByteRange.ends, Nat.sub_add_cancel hsize]
    · refine ⟨.between lower limit, .between hfirst hlimit, ?_⟩
      simp only [ByteRange.ends, Prod.mk.injEq, true_and]
      omega
  · rintro ⟨hle, range, hspells, hends⟩
    cases hspells with
    | between ha hb =>
      obtain ⟨rfl, hupper⟩ := Prod.mk.inj hends
      exact ⟨_, _, rfl, .inr (.inr ⟨_, ha, hb, by omega⟩), by omega, hle⟩
    | onward ha =>
      obtain ⟨rfl, hupper⟩ := Prod.mk.inj hends
      exact ⟨_, [], rfl, .inr (.inl ⟨rfl, ha, by omega⟩), by omega, hle⟩
    | suffix hb =>
      obtain ⟨rfl, hupper⟩ := Prod.mk.inj hends
      exact ⟨[], _, rfl, .inl ⟨rfl, _, hb, by omega, rfl, by omega⟩, by omega, hle⟩

theorem dropPrefix?_bytes_eq_some_iff {rest : List Char} :
    value.dropPrefix? "bytes=".toList = some rest ↔ value = "bytes=".toList ++ rest := by
  simp only [List.dropPrefix?_eq_some_iff, beq_iff_eq]
  constructor
  · rintro ⟨_, h, rfl⟩
    exact h
  · intro h
    exact ⟨_, h, rfl⟩

/-- What the two sides of the dash ask for has neither a comma nor a dash before the dash. -/
theorem not_mem_of_rangeEnds {ends : Nat × Nat} (h : rangeEnds start last size = .ok ends) :
    '-' ∉ start ∧ ',' ∉ start ++ '-' :: last := by
  obtain ⟨lower, upper⟩ := ends
  have hdash : ('-' : Char).isDigit = false := by decide
  have hcomma : (',' : Char).isDigit = false := by decide
  rcases rangeEnds_eq_ok_iff.mp h with ⟨rfl, count, hcount, -⟩ | ⟨rfl, hfirst, -⟩ |
    ⟨limit, hfirst, hlimit, -⟩
  · simpa using hcount.not_mem hcomma
  · simpa using ⟨hfirst.not_mem hdash, hfirst.not_mem hcomma⟩
  · simpa using ⟨hfirst.not_mem hdash, hfirst.not_mem hcomma, hlimit.not_mem hcomma⟩

theorem rangeEnds_upper_lt {lower upper : Nat} (hsize : 0 < size)
    (h : rangeEnds start last size = .ok (lower, upper)) : upper < size := by
  rcases rangeEnds_eq_ok_iff.mp h with ⟨-, -, -, -, -, rfl⟩ | ⟨-, -, rfl⟩ | ⟨-, -, -, rfl⟩ <;> omega

/-- An interval of a file whose size is a signed number of 64 bits has a length of 64 bits. -/
theorem checked_length {lower upper : Nat} (hle : lower ≤ upper)
    (hupper : upper < 0x7FFFFFFFFFFFFFFF) :
    (checkedSub upper lower).bind (checkedAdd · 1) = some (upper - lower + 1) := by
  have hlt : upper - lower + 1 < u64Bound := by unfold u64Bound; omega
  rw [checkedSub, if_pos hle, Option.bind_some, checkedAdd, if_pos hlt]

theorem videoRange_some_eq_ok_iff_ends :
    videoRange (some value) size = .ok (first, length, part) ↔
      part = true ∧ 0 < size ∧ size ≤ 0x7FFFFFFFFFFFFFFF ∧
        ∃ upper, length = upper - first + 1 ∧
          ∃ start last, value = "bytes=".toList ++ (start ++ '-' :: last) ∧
            rangeEnds start last size = .ok (first, upper) ∧ first < size ∧ first ≤ upper := by
  simp only [videoRange, bind_eq_ok, exists_unit, ensure_eq_ok]
  constructor
  · rintro ⟨⟨hpos, hmax⟩, h⟩
    split at h
    · contradiction
    · rename_i rest hrest
      obtain ⟨_, -, h⟩ := bind_eq_ok.mp h
      split at h
      · contradiction
      · rename_i start last hsplit
        obtain ⟨⟨lower, upper⟩, hends, h⟩ := bind_eq_ok.mp h
        obtain ⟨_, hin, h⟩ := bind_eq_ok.mp h
        rw [ensure_eq_ok] at hin
        have hupper := rangeEnds_upper_lt hpos hends
        rw [checked_length hin.2 (by omega)] at h
        obtain ⟨rfl, hlength, rfl⟩ := Prod.mk.inj (Except.ok.inj h) |>.imp_right Prod.mk.inj
        refine ⟨rfl, hpos, hmax, upper, hlength.symm, start, last, ?_, hends, hin⟩
        rw [dropPrefix?_bytes_eq_some_iff.mp hrest, (splitOnce_eq_some_iff.mp hsplit).1]
  · rintro ⟨rfl, hpos, hmax, upper, rfl, start, last, rfl, hends, hin⟩
    obtain ⟨hdash, hcomma⟩ := not_mem_of_rangeEnds hends
    have hupper := rangeEnds_upper_lt hpos hends
    refine ⟨⟨hpos, hmax⟩, ?_⟩
    rw [dropPrefix?_bytes_eq_some_iff.mpr rfl]
    dsimp only
    rw [rejectIf, if_neg hcomma, splitOnce_eq_some_iff.mpr ⟨rfl, hdash⟩]
    dsimp only [ok_bind]
    rw [hends, ok_bind, ensure, if_pos hin, ok_bind, checked_length hin.2 (by omega)]

/-- A header is answered with an interval of the file exactly when it asks, in numbers of 64 bits,
for at least one place of the file, and the interval has the places that it asks for. -/
theorem videoRange_some_eq_ok_iff :
    videoRange (some value) size = .ok (first, length, part) ↔
      part = true ∧ size ≤ 0x7FFFFFFFFFFFFFFF ∧ 0 < length ∧
        ∃ range, Spells value range ∧ range.positions size = Set.Ico first (first + length) := by
  rw [videoRange_some_eq_ok_iff_ends]
  simp only [ByteRange.positions_eq_Ico]
  constructor
  · rintro ⟨rfl, hpos, hmax, upper, rfl, hrange⟩
    obtain ⟨hle, range, hspells, hends⟩ := (exists_rangeEnds_iff hpos).mp hrange
    refine ⟨rfl, hmax, Nat.succ_pos _, range, hspells, ?_⟩
    rw [hends, show first + (upper - first + 1) = upper + 1 by omega]
  · rintro ⟨rfl, hmax, hlength, range, hspells, hends⟩
    obtain ⟨hfirst, hend⟩ := (Ico_eq_Ico_iff (by omega)).mp hends
    have hpos : 0 < size := by
      cases range <;> simp only [ByteRange.ends] at hfirst hend <;> omega
    refine ⟨rfl, hpos, hmax, first + length - 1, by omega,
      (exists_rangeEnds_iff hpos).mpr ⟨by omega, range, hspells, ?_⟩⟩
    have hsame : first + length - 1 + 1 = first + length := by omega
    exact Prod.ext hfirst (hend.trans hsame.symm)

end ArtForgeStudio.VideoPlayer
