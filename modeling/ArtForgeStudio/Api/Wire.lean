import Mathlib.Data.List.Basic
import Mathlib.Data.List.DropRight

/-! # Text predicates and wire values shared by the client

The text predicates follow the Rust standard library: `trim` removes the Unicode
`White_Space` characters and `parse::<u32>` reads an optional plus sign and decimal
digits. `Json` is the value type that request bodies are compared in.
-/

namespace ArtForgeStudio.Api

/-- The characters of the Unicode property `White_Space`, which `str::trim` removes. -/
def isWhiteSpace (c : Char) : Bool :=
  let n := c.toNat
  (9 ≤ n && n ≤ 13) || n == 0x20 || n == 0x85 || n == 0xA0 || n == 0x1680 ||
    (0x2000 ≤ n && n ≤ 0x200A) || n == 0x2028 || n == 0x2029 || n == 0x202F ||
    n == 0x205F || n == 0x3000

/-- `str::trim` -/
def trim (value : String) : String :=
  String.ofList (((value.toList.dropWhile isWhiteSpace).reverse.dropWhile isWhiteSpace).reverse)

theorem trim_toList (value : String) :
    (trim value).toList = (value.toList.dropWhile isWhiteSpace).rdropWhile isWhiteSpace := by
  simp [trim, List.rdropWhile]

@[simp] theorem trim_trim (value : String) : trim (trim value) = trim value := by
  let kept := value.toList.dropWhile isWhiteSpace
  have hstart : (kept.rdropWhile isWhiteSpace).dropWhile isWhiteSpace = kept.rdropWhile isWhiteSpace := by
    have hkept := List.rdropWhile_prefix isWhiteSpace kept
    rw [List.dropWhile_eq_self_iff]
    intro hlength
    rw [hkept.getElem hlength]
    exact List.dropWhile_get_zero_not _ _ (hlength.trans_le hkept.length_le)
  refine String.toList_injective ?_
  rw [trim_toList, trim_toList, hstart, List.rdropWhile_idempotent]

/-- `value.trim().is_empty()` -/
def trimIsEmpty (value : String) : Bool := value.toList.all isWhiteSpace

def isLowerHex (c : Char) : Bool := c.isDigit || ('a' ≤ c && c ≤ 'f')

/-- `uuid_path_segment(value).is_ok_and(|canonical| canonical == value)`: the printed form
of a parsed identifier is lower case with hyphens, so only that form equals itself. -/
def canonicalUuid (value : String) : Bool :=
  value.toList.length == 36 && value.toList.zipIdx.all fun p =>
    if p.2 = 8 ∨ p.2 = 13 ∨ p.2 = 18 ∨ p.2 = 23 then p.1 == '-' else isLowerHex p.1

def isHexDigit (c : Char) : Bool := isLowerHex c || ('A' ≤ c && c ≤ 'F')

/-- `Uuid::parse_str(value).is_ok()`: 32 digits, or digits with hyphens, which may stand in braces
or behind `urn:uuid:`. -/
def parsesAsUuid (value : String) : Bool :=
  let hyphenated (part : List Char) : Bool := part.length == 36 && part.zipIdx.all fun p =>
    if p.2 = 8 ∨ p.2 = 13 ∨ p.2 = 18 ∨ p.2 = 23 then p.1 == '-' else isHexDigit p.1
  let text := value.toList
  if text.length = 32 then text.all isHexDigit
  else if text.length = 38 then
    text.head? == some '\x7b' && text.getLast? == some '\x7d' && hyphenated text.tail.dropLast
  else if text.length = 45 then
    text.take 9 == "urn:uuid:".toList && hyphenated (text.drop 9)
  else hyphenated text

def parseDigits : List Char → Nat → Option Nat
  | [], n => some n
  | c :: cs, n => if c.isDigit then parseDigits cs (10 * n + (c.toNat - '0'.toNat)) else none

/-- `part.parse::<u32>()` -/
def parseU32 (part : List Char) : Option Nat :=
  let digits := if part.head? = some '+' then part.tail else part
  if digits = [] then none else (parseDigits digits 0).filter (· < 0x100000000)

/-- `text.split_once(separator)` on the characters of `text` -/
def splitOnce (separator : Char) (text : List Char) : Option (List Char × List Char) :=
  if separator ∈ text then
    some (text.takeWhile (· ≠ separator), (text.dropWhile (· ≠ separator)).tail)
  else none

/-- Values of `serde_json`. Objects list their members in the order of the struct that is
serialized, so that equal values of one struct are equal here and there. -/
inductive Json where
  | null
  | bool (b : Bool)
  | num (n : Int)
  | str (s : String)
  | arr (items : List Json)
  | obj (members : List (String × Json))

def Json.strings (items : List String) : Json := .arr (items.map .str)

theorem Json.strings_injective {a b : List String} (h : Json.strings a = Json.strings b) : a = b := by
  have hmap : a.map Json.str = b.map Json.str := Json.arr.inj h
  exact List.map_injective_iff.mpr (fun _ _ hs => Json.str.inj hs) hmap

/-- The members of an object whose value is present: `skip_serializing_if = "Option::is_none"`. -/
def Json.present (members : List (String × Option Json)) : Json :=
  .obj (members.filterMap fun m => m.2.map (m.1, ·))

end ArtForgeStudio.Api
