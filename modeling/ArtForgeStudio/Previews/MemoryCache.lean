import ArtForgeStudio.Library.Codecs
import ArtForgeStudio.Library.RecencyLists
import Mathlib.Data.List.MinMax
import Mathlib.Tactic.Common

/-! # The preview images in memory

A clock stamps every image at its last use. The cache counts the bytes of its images, and after an
image is added the one with the oldest stamp goes until the bytes meet the limit or one image is
left. The subtraction of the byte counter is a parameter: the program's one stops at zero, and a
checked one ends the call there.
-/

namespace ArtForgeStudio.Previews

open ArtForgeStudio.Codecs ArtForgeStudio.RecencyLists

def memoryCacheLimitBytes : Nat := 96 * 1024 * 1024

def u64Max : Nat := 2 ^ 64 - 1

def saturatingAdd (most a b : Nat) : Nat := min (a + b) most

structure MemoryEntry (Image : Type) where
  image : Image
  bytes : Nat
  lastUsed : Nat

structure PreviewMemoryCache (Image : Type) where
  entries : BTreeMap (MemoryEntry Image) := ∅
  bytes : Nat := 0
  clock : Nat := 0

namespace PreviewMemoryCache

section Model

variable {Image : Type} {m : Type → Type} [Monad m] (subtract : Nat → Nat → m Nat) (usizeMax : Nat)

def tick (cache : PreviewMemoryCache Image) : PreviewMemoryCache Image :=
  { cache with clock := saturatingAdd u64Max cache.clock 1 }

/-- The entry is used at this moment. -/
def stamp (cache : PreviewMemoryCache Image) (key : String) (image : Image) (bytes : Nat) :
    PreviewMemoryCache Image :=
  { cache with entries := cache.entries.insert key { image, bytes, lastUsed := cache.clock } }

def get (cache : PreviewMemoryCache Image) (key : String) :
    Option Image × PreviewMemoryCache Image :=
  match cache.entries[key]? with
  | some entry => (some entry.image, cache.tick.stamp key entry.image entry.bytes)
  | none => (none, cache)

/-- An entry that is removed takes its bytes off the counter. -/
def removeEntry (cache : PreviewMemoryCache Image) (key : String) : m (PreviewMemoryCache Image) :=
  match cache.entries[key]? with
  | some removed => do
    let bytes ← subtract cache.bytes removed.bytes
    pure { cache with entries := cache.entries.erase key, bytes }
  | none => pure cache

/-- The first key, in the order of keys, of an entry that was used last before all others. -/
def oldestKey (cache : PreviewMemoryCache Image) : Option String :=
  (cache.entries.toList.argmin fun entry => entry.2.lastUsed).map (·.1)

/-- The loop of `insert`; every turn removes an entry. -/
def evict : (turns : Nat) → PreviewMemoryCache Image → m (PreviewMemoryCache Image)
  | 0, cache => pure cache
  | turns + 1, cache =>
    if memoryCacheLimitBytes < cache.bytes ∧ 1 < cache.entries.size then
      match cache.oldestKey with
      | some key => do evict turns (← cache.removeEntry subtract key)
      | none => pure cache
    else pure cache

def insert (cache : PreviewMemoryCache Image) (key : String) (image : Image) (bytes : Nat) :
    m (PreviewMemoryCache Image) := do
  let cache ← cache.tick.removeEntry subtract key
  let cache := { cache with bytes := saturatingAdd usizeMax cache.bytes bytes }
  let cache := cache.stamp key image bytes
  evict subtract cache.entries.size cache

def clear (cache : PreviewMemoryCache Image) : PreviewMemoryCache Image :=
  { cache with entries := ∅, bytes := 0 }

def remove (cache : PreviewMemoryCache Image) (keys : List String) : m (PreviewMemoryCache Image) :=
  keys.foldlM (fun cache key => cache.removeEntry subtract key) cache

end Model

end PreviewMemoryCache

inductive CacheAction (Image : Type)
  | get (key : String)
  | insert (key : String) (image : Image) (bytes : Nat)
  | remove (keys : List String)
  | clear

section Serve

variable {Image : Type}

/-- One call and what it returns. -/
def serveWith {m : Type → Type} [Monad m] (subtract : Nat → Nat → m Nat) (usizeMax : Nat)
    (cache : PreviewMemoryCache Image) :
    CacheAction Image → m (Option Image × PreviewMemoryCache Image)
  | .get key => pure (cache.get key)
  | .insert key image bytes => do
    let cache ← cache.insert subtract usizeMax key image bytes
    pure (none, cache)
  | .remove keys => do
    let cache ← cache.remove subtract keys
    pure (none, cache)
  | .clear => pure (none, cache.clear)

def saturatingSub (a b : Nat) : Id Nat := a - b

def checkedSub (a b : Nat) : Option Nat := if b ≤ a then some (a - b) else none

def serve (usizeMax : Nat) (cache : PreviewMemoryCache Image) (action : CacheAction Image) :
    Option Image × PreviewMemoryCache Image := serveWith saturatingSub usizeMax cache action

abbrev ImageRows (Image : Type) := List (String × Image × Nat)

/-- The call on a list of images, the one used last at the end. -/
def useImages (rows : ImageRows Image) : CacheAction Image → Option Image × ImageRows Image
  | .get key => ((valueOf key rows).map (·.1), touch key rows)
  | .insert key image bytes => (none, store (·.2) memoryCacheLimitBytes key (image, bytes) rows)
  | .remove keys => (none, keys.foldl (fun rows key => without key rows) rows)
  | .clear => (none, [])

end Serve

end ArtForgeStudio.Previews
