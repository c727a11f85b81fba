import ArtForgeStudio.Library.Outcome
import Mathlib.Algebra.Order.Ring.Unbundled.Rat
import Mathlib.Data.List.Basic
import Mathlib.Tactic.Common
import Mathlib.Algebra.Group.Nat.Defs

/-! # Image compression

An image is compressed to a quality or to a size in bytes. What the image library does (decoding,
encoding, resizing) and the arithmetic of `f64` are parameters, so every result holds for an
encoder whose output grows or shrinks with the quality in any way.
-/

namespace ArtForgeStudio.Images

open ArtForgeStudio.Outcome

abbrev Bytes := List UInt8

/-- `image::ImageFormat`, as far as the compression tells formats apart. -/
inductive ImageFormat where
  | jpeg | png | webP | bmp | other (name : String)
  deriving DecidableEq

inductive CompressionFormat where
  | jpeg | png | webP | bmp
  deriving DecidableEq

inductive ImageCompressionMode where
  | quality (quality : Nat)
  | targetBytes (target : Nat)

structure CompressedImage where
  bytes : Bytes
  extension : String
  width : Nat
  height : Nat
  downsampled : Bool
  deriving DecidableEq

/-- What ends a call early: an error with its text, arithmetic that leaves `u8`, or a loop that
is still running when the fuel of the model is used up. -/
inductive Failure where
  | error (text : String)
  | overflow
  | unfinished
  deriving DecidableEq

/-- The image library over images `I` and numbers `F`. -/
structure Imaging (I F : Type) where
  width : I → Nat
  height : I → Nat
  decodeImageBytes : String → Bytes → Except String (I × Option ImageFormat)
  encodeCompressedImage : I → CompressionFormat → Nat → Except String Bytes
  /-- `resize_exact` with the filter `Lanczos3` -/
  resizeExact : I → Nat → Nat → I
  sqrt : F → F
  clamp : F → F → F → F
  /-- `.floor() as u32` -/
  floor : F → Nat

namespace CompressionFormat

def fromDetected : Option ImageFormat → Except String CompressionFormat
  | some .jpeg => .ok .jpeg
  | some .png => .ok .png
  | some .webP => .ok .webP
  | some .bmp => .ok .bmp
  | _ => .error "图片压缩仅支持 JPEG、PNG、WebP 和 BMP 格式"

def extension : CompressionFormat → String
  | .jpeg => "jpg"
  | .png => "png"
  | .webP => "webp"
  | .bmp => "bmp"

def targetQualityCandidates : CompressionFormat → List Nat
  | .bmp => [100]
  | .jpeg | .png | .webP => [100, 95, 80, 60, 40, 20, 1]

end CompressionFormat

def u64Max : Nat := 2 ^ 64 - 1

/-- The sum of two `u8`, which must be one again. -/
def addU8 (a b : Nat) : Except Failure Nat := if a + b < 256 then .ok (a + b) else .error .overflow

def subU8 (a b : Nat) : Except Failure Nat := if b ≤ a then .ok (a - b) else .error .overflow

variable {I F : Type}

namespace Imaging

variable (lib : Imaging I F)

def encode (image : I) (format : CompressionFormat) (quality : Nat) : Except Failure Bytes :=
  (lib.encodeCompressedImage image format quality).mapError .error

def resizeImageByScale [NatCast F] [Mul F] (image : I) (scale : F) : I :=
  lib.resizeExact image
    (min (max (lib.floor ((lib.width image : F) * scale)) 1) (lib.width image))
    (min (max (lib.floor ((lib.height image : F) * scale)) 1) (lib.height image))

/-- The `while` of the search for a JPEG quality between `low` and `high`. -/
def searchJpegQuality (image : I) (target : Nat) :
    Nat → Nat → Nat → Option Bytes → Nat → Except Failure (Option Bytes × Nat)
  | 0, _, _, _, _ => .error .unfinished
  | fuel + 1, low, high, best, smallest =>
    if low ≤ high then do
      let distance ← subU8 high low
      let quality ← addU8 low (distance / 2)
      let bytes ← lib.encode image .jpeg quality
      if bytes.length ≤ target then
        if quality = 100 then pure (some bytes, min smallest bytes.length)
        else do
          let low ← addU8 quality 1
          searchJpegQuality image target fuel low high (some bytes) (min smallest bytes.length)
      else
        if quality = 1 then pure (best, min smallest bytes.length)
        else do
          let high ← subU8 quality 1
          searchJpegQuality image target fuel low high best (min smallest bytes.length)
    else pure (best, smallest)

/-- The `for` over the candidate qualities of the other formats. -/
def firstFittingQuality (image : I) (format : CompressionFormat) (target : Nat) :
    List Nat → Nat → Except Failure (Option Bytes × Nat)
  | [], smallest => .ok (none, smallest)
  | quality :: rest, smallest => do
    let bytes ← lib.encode image format quality
    if bytes.length ≤ target then pure (some bytes, min smallest bytes.length)
    else firstFittingQuality image format target rest (min smallest bytes.length)

/-- There are 256 values of `u8`, and each round of the search drops at least one. -/
def encodeBestTargetCandidate (image : I) (format : CompressionFormat) (target : Nat) :
    Except Failure (Option Bytes × Nat) :=
  if format = .jpeg then lib.searchJpegQuality image target 256 1 100 none u64Max
  else lib.firstFittingQuality image format target format.targetQualityCandidates u64Max

section Compress

variable [NatCast F] [OfScientific F] [Mul F] [Div F] (resize : I → F → I)

/-- The size of the encoded image at which another, smaller one is tried. -/
def shouldDownsample (format : CompressionFormat) (bytes source : Bytes) : Bool :=
  if format = .bmp then decide (source.length ≤ bytes.length)
  else decide (source.length < bytes.length)

def sameSize (image other : I) : Bool :=
  lib.width image = lib.width other && lib.height image = lib.height other

/-- The `for` of `compress_image_to_quality`, with the rounds that are left. -/
def shrinkToQuality (format : CompressionFormat) (quality : Nat) (source : Bytes) :
    Nat → I → Bytes → Except Failure (I × Bytes)
  | 0, working, bytes => .ok (working, bytes)
  | rounds + 1, working, bytes =>
    if !shouldDownsample format bytes source
        || (lib.width working = 1 && lib.height working = 1) then .ok (working, bytes)
    else
      let sizeRatio := lib.sqrt ((source.length : F) / (bytes.length : F)) * 0.96
      let resized := resize working (lib.clamp sizeRatio 0.5 0.95)
      if lib.sameSize resized working then .ok (working, bytes)
      else do
        let bytes ← lib.encode resized format quality
        shrinkToQuality format quality source rounds resized bytes

def compressImageToQuality (image : I) (format : CompressionFormat) (quality : Nat)
    (source : Bytes) : Except Failure CompressedImage := do
  let start := if format = .bmp then resize image (lib.sqrt ((quality : F) / 100.0)) else image
  let bytes ← lib.encode start format quality
  let (working, bytes) ← lib.shrinkToQuality resize format quality source 20 start bytes
  if source.length < bytes.length ∨ (format = .bmp ∧ bytes.length = source.length) then
    pure { bytes := source, extension := format.extension, width := lib.width image,
           height := lib.height image, downsampled := false }
  else
    pure { bytes := bytes, extension := format.extension, width := lib.width working,
           height := lib.height working, downsampled := !lib.sameSize working image }

/-- The `for` of `compress_image_to_target`, with the rounds that are left; `none` where it ends
without a result. -/
def shrinkToTarget (format : CompressionFormat) (target originalWidth originalHeight : Nat) :
    Nat → I → Nat → Except Failure (Option CompressedImage × Nat)
  | 0, _, smallest => .ok (none, smallest)
  | rounds + 1, image, smallest => do
    let (candidate, generated) ← lib.encodeBestTargetCandidate image format target
    let smallest := min smallest generated
    match candidate with
    | some bytes =>
      pure (some { bytes := bytes, extension := format.extension, width := lib.width image,
                   height := lib.height image,
                   downsampled := !(lib.width image = originalWidth
                     && lib.height image = originalHeight) }, smallest)
    | none =>
      if lib.width image = 1 && lib.height image = 1 then pure (none, smallest)
      else
        let sizeRatio := lib.sqrt ((target : F) / (smallest : F)) * 0.92
        let resized := resize image (lib.clamp sizeRatio 0.1 0.9)
        if lib.sameSize resized image then pure (none, smallest)
        else shrinkToTarget format target originalWidth originalHeight rounds resized smallest

def compressImageToTarget (image : I) (format : CompressionFormat)
    (target originalWidth originalHeight : Nat) : Except Failure CompressedImage := do
  let (result, smallest) ←
    lib.shrinkToTarget resize format target originalWidth originalHeight 24 image u64Max
  match result with
  | some result => pure result
  | none =>
    .error (.error
      s!"无法将图片压缩到指定大小：目标为 {target} 字节，可生成的最小文件为 {smallest} 字节")

def compressImageBytes (sourceName : String) (source : Bytes) (mode : ImageCompressionMode) :
    Except Failure CompressedImage := do
  let (image, detected) ← (lib.decodeImageBytes sourceName source).mapError .error
  let format ← (CompressionFormat.fromDetected detected).mapError .error
  let original : CompressedImage :=
    { bytes := source, extension := format.extension, width := lib.width image,
      height := lib.height image, downsampled := false }
  match mode with
  | .quality quality =>
    ensure (1 ≤ quality ∧ quality ≤ 100) (.error "图片压缩质量必须在 1 到 100 之间")
    if quality = 100 then pure original
    else lib.compressImageToQuality resize image format quality source
  | .targetBytes target =>
    rejectIf (target = 0) (.error "图片压缩目标大小必须大于 0 字节")
    if source.length ≤ target then pure original
    else lib.compressImageToTarget resize image format target (lib.width image) (lib.height image)

end Compress

section Search

variable {lib : Imaging I F} {image : I} {target low high : Nat} {best : Option Bytes}

/-- `quality` is the last one known to fit; zero stands for none. -/
def Fits (lib : Imaging I F) (image : I) (target : Nat) (best : Option Bytes) :
    Nat → Prop
  | 0 => best = none
  | quality + 1 => ∃ bytes, best = some bytes ∧ lib.encode image .jpeg (quality + 1) = .ok bytes ∧
      bytes.length ≤ target

def TooLarge (lib : Imaging I F) (image : I) (target quality : Nat) : Prop :=
  ∃ bytes, lib.encode image .jpeg quality = .ok bytes ∧ target < bytes.length

/-- What holds whenever the `while` tests its condition. -/
structure Search (lib : Imaging I F) (image : I) (target low high : Nat) (best : Option Bytes) :
    Prop where
  positive : 1 ≤ low
  ordered : low ≤ high + 1
  bound : high ≤ 100
  below : Fits lib image target best (low - 1)
  above : high < 100 → TooLarge lib image target (high + 1)

/-- A quality fits and the next one does not. -/
structure Boundary (lib : Imaging I F) (image : I) (target quality : Nat) (best : Option Bytes) :
    Prop where
  bound : quality ≤ 100
  fits : Fits lib image target best quality
  next : quality < 100 → TooLarge lib image target (quality + 1)

theorem Search.start : Search lib image target 1 100 none where
  positive := le_refl 1
  ordered := by omega
  bound := le_refl 100
  below := rfl
  above h := absurd h (lt_irrefl 100)

theorem Search.boundary (h : Search lib image target low high best) (hdone : ¬low ≤ high) :
    Boundary lib image target high best where
  bound := h.bound
  fits := by
    have hhigh : high = low - 1 := by
      have := h.ordered
      omega
    exact hhigh ▸ h.below
  next := h.above

theorem addU8_of_lt {a b : Nat} (h : a + b < 256) : addU8 a b = .ok (a + b) := if_pos h

theorem subU8_of_le {a b : Nat} (h : b ≤ a) : subU8 a b = .ok (a - b) := if_pos h

/-- The search runs out of neither `u8` nor rounds: it ends at a boundary or at an error of the
encoder. -/
theorem searchJpegQuality_spec {fuel smallest : Nat} (h : Search lib image target low high best)
    (hfuel : high + 1 - low < fuel) :
    (∃ quality best' smallest', lib.searchJpegQuality image target fuel low high best smallest
        = .ok (best', smallest') ∧ Boundary lib image target quality best') ∨
      ∃ quality failure, 1 ≤ quality ∧ quality ≤ 100 ∧
        lib.encode image .jpeg quality = .error failure ∧
        lib.searchJpegQuality image target fuel low high best smallest = .error failure := by
  induction fuel generalizing low high best smallest with
  | zero => omega
  | succ fuel ih =>
    obtain ⟨hpositive, hordered, hbound, hbelow, habove⟩ := h
    rw [searchJpegQuality]
    by_cases hactive : low ≤ high
    · have hsub : subU8 high low = .ok (high - low) := subU8_of_le hactive
      have hadd : addU8 low ((high - low) / 2) = .ok (low + (high - low) / 2) :=
        addU8_of_lt (by omega)
      generalize hquality : low + (high - low) / 2 = quality at hadd
      have hlow : low ≤ quality := by omega
      have hhigh : quality ≤ high := by omega
      simp only [if_pos hactive, hsub, hadd, ok_bind]
      cases hencode : lib.encode image .jpeg quality with
      | error failure => exact .inr ⟨quality, failure, by omega, by omega, hencode, rfl⟩
      | ok bytes =>
        simp only [ok_bind]
        have hfits (hle : bytes.length ≤ target) :
            Fits lib image target (some bytes) quality := by
          obtain ⟨k, rfl⟩ : ∃ k, quality = k + 1 := ⟨quality - 1, by omega⟩
          exact ⟨bytes, rfl, hencode, hle⟩
        by_cases hle : bytes.length ≤ target
        · rw [if_pos hle]
          by_cases hlast : quality = 100
          · rw [if_pos hlast]
            exact .inl ⟨quality, _, _, rfl, by omega, hfits hle, fun hlt => by omega⟩
          · rw [if_neg hlast, addU8_of_lt (by omega)]
            simp only [ok_bind]
            exact ih ⟨by omega, by omega, hbound, by simpa using hfits hle, habove⟩ (by omega)
        · rw [if_neg hle]
          have hlarge : TooLarge lib image target quality := ⟨bytes, hencode, by omega⟩
          by_cases hfirst : quality = 1
          · rw [if_pos hfirst]
            have hnone : low - 1 = 0 := by omega
            rw [hnone] at hbelow
            subst hfirst
            exact .inl ⟨0, _, _, rfl, by omega, hbelow, fun _ => hlarge⟩
          · rw [if_neg hfirst, subU8_of_le (by omega)]
            simp only [ok_bind]
            have hnext : quality - 1 + 1 = quality := by omega
            exact ih ⟨hpositive, by omega, by omega, hbelow, fun _ => hnext.symm ▸ hlarge⟩
              (by omega)
    · rw [if_neg hactive]
      exact .inl ⟨high, best, smallest, rfl,
        Search.boundary ⟨hpositive, hordered, hbound, hbelow, habove⟩ hactive⟩

theorem encodeBestTargetCandidate_jpeg (lib : Imaging I F) (image : I) (target : Nat) :
    (∃ quality best smallest, lib.encodeBestTargetCandidate image .jpeg target = .ok (best, smallest) ∧
        Boundary lib image target quality best) ∨
      ∃ quality failure, 1 ≤ quality ∧ quality ≤ 100 ∧
        lib.encode image .jpeg quality = .error failure ∧
        lib.encodeBestTargetCandidate image .jpeg target = .error failure := by
  rw [encodeBestTargetCandidate, if_pos rfl]
  exact searchJpegQuality_spec .start (by omega)

/-- No quality above the boundary fits when no better quality makes the image smaller. -/
structure LargestFitting (lib : Imaging I F) (image : I) (target : Nat) (best : Option Bytes) :
    Prop where
  fits : ∀ bytes, best = some bytes → bytes.length ≤ target ∧
    ∃ quality, 1 ≤ quality ∧ quality ≤ 100 ∧ lib.encode image .jpeg quality = .ok bytes ∧
      ∀ better, quality < better → better ≤ 100 →
        ∀ bytes, lib.encode image .jpeg better = .ok bytes → target < bytes.length
  none : best = none → TooLarge lib image target 1

def NonDecreasing (lib : Imaging I F) (image : I) : Prop :=
  ∀ quality better, 1 ≤ quality → quality ≤ better → better ≤ 100 →
    ∀ bytes bytes', lib.encode image .jpeg quality = .ok bytes →
      lib.encode image .jpeg better = .ok bytes' → bytes.length ≤ bytes'.length

theorem Boundary.largestFitting {quality : Nat} (h : Boundary lib image target quality best)
    (hmono : NonDecreasing lib image) : LargestFitting lib image target best where
  fits bytes hbest := by
    obtain ⟨hbound, hfits, hnext⟩ := h
    cases quality with
    | zero =>
      have hnone : best = none := hfits
      rw [hnone] at hbest
      contradiction
    | succ quality =>
      obtain ⟨bytes', hbest', hencode, hle⟩ := hfits
      obtain rfl : bytes' = bytes := Option.some.inj (hbest'.symm.trans hbest)
      refine ⟨hle, quality + 1, by omega, hbound, hencode, fun better hlt hbetter other hother => ?_⟩
      obtain ⟨large, hlarge, htarget⟩ := hnext (by omega)
      have hgrows := hmono (quality + 1 + 1) better (by omega) (by omega) hbetter large other hlarge hother
      omega
  none hbest := by
    obtain ⟨hbound, hfits, hnext⟩ := h
    cases quality with
    | zero => exact hnext (by omega)
    | succ quality =>
      obtain ⟨bytes, hsome, -, -⟩ := hfits
      rw [hbest] at hsome
      contradiction

end Search

section Results

variable {lib : Imaging I F} {resize : I → F → I} {image : I} {format : CompressionFormat}
  {bytes : Bytes} {quality target smallest originalWidth originalHeight : Nat}

/-- The call ends with a result or with an error that has a text. -/
def Settles {α : Type} (call : Except Failure α) : Prop :=
  ∀ failure, call = .error failure → ∃ text, failure = .error text

theorem Settles.ok {α : Type} (a : α) : Settles (.ok a) := fun _ h => by contradiction

theorem Settles.bind {α β : Type} {call : Except Failure α} {rest : α → Except Failure β}
    (h : Settles call) (hrest : ∀ a, call = .ok a → Settles (rest a)) :
    Settles (call >>= rest) := by
  cases call with
  | error failure => exact fun failure' heq => h failure' (by simpa [error_bind] using heq)
  | ok a => exact hrest a rfl

theorem Settles.mapError {α : Type} (call : Except String α) :
    Settles (call.mapError .error) := by
  intro failure h
  cases call with
  | error text => exact ⟨text, by simpa [Except.mapError] using h.symm⟩
  | ok a => contradiction

theorem settles_encode : Settles (lib.encode image format quality) := .mapError _

theorem settles_firstFittingQuality (candidates : List Nat) :
    Settles (lib.firstFittingQuality image format target candidates smallest) := by
  induction candidates generalizing smallest with
  | nil => exact .ok _
  | cons quality rest ih =>
    refine settles_encode.bind fun bytes _ => ?_
    split
    · exact .ok _
    · exact ih

theorem settles_encodeBestTargetCandidate :
    Settles (lib.encodeBestTargetCandidate image format target) := by
  by_cases hformat : format = .jpeg
  · subst hformat
    rcases encodeBestTargetCandidate_jpeg lib image target with
      ⟨_, _, _, heq, -⟩ | ⟨_, _, -, -, hencode, heq⟩
    · rw [heq]
      exact .ok _
    · rw [heq]
      rintro failure ⟨⟩
      exact settles_encode _ hencode
  · rw [encodeBestTargetCandidate, if_neg hformat]
    exact settles_firstFittingQuality _

theorem firstFittingQuality_fits {candidates : List Nat} {smallest' : Nat}
    (h : lib.firstFittingQuality image format target candidates smallest
      = .ok (some bytes, smallest')) :
    bytes.length ≤ target ∧ ∃ quality, lib.encode image format quality = .ok bytes := by
  induction candidates generalizing smallest with
  | nil => simp [firstFittingQuality] at h
  | cons quality rest ih =>
    obtain ⟨encoded, hencode, h⟩ := bind_eq_ok.mp h
    by_cases hle : encoded.length ≤ target
    · rw [if_pos hle, pure_eq_ok] at h
      obtain ⟨rfl, -⟩ := by simpa using h
      exact ⟨hle, quality, hencode⟩
    · rw [if_neg hle] at h
      exact ih h

/-- A candidate fits, whatever the encoder does from one quality to the next. -/
theorem encodeBestTargetCandidate_fits {smallest : Nat}
    (h : lib.encodeBestTargetCandidate image format target = .ok (some bytes, smallest)) :
    bytes.length ≤ target ∧ ∃ quality, lib.encode image format quality = .ok bytes := by
  by_cases hformat : format = .jpeg
  · subst hformat
    rcases encodeBestTargetCandidate_jpeg lib image target with
      ⟨quality, best, _, heq, -, hfits, -⟩ | ⟨_, _, -, -, -, heq⟩
    · rw [heq] at h
      obtain ⟨rfl, -⟩ : best = some bytes ∧ _ := by simpa using h
      cases quality with
      | zero => contradiction
      | succ quality =>
        obtain ⟨bytes', hbytes, hencode, hle⟩ := hfits
        obtain rfl := Option.some.inj hbytes
        exact ⟨hle, _, hencode⟩
    · rw [heq] at h
      contradiction
  · rw [encodeBestTargetCandidate, if_neg hformat] at h
    exact firstFittingQuality_fits h

/-- The image is no larger than one of the given size. -/
def Within (lib : Imaging I F) (originalWidth originalHeight : Nat) (image : I) : Prop :=
  lib.width image ≤ originalWidth ∧ lib.height image ≤ originalHeight

def Shrinks (lib : Imaging I F) (resize : I → F → I) : Prop :=
  ∀ image scale, Within lib (lib.width image) (lib.height image) (resize image scale)

theorem Within.refl (image : I) : Within lib (lib.width image) (lib.height image) image :=
  ⟨le_rfl, le_rfl⟩

theorem Within.resized (hresize : Shrinks lib resize) (scale : F)
    (h : Within lib originalWidth originalHeight image) :
    Within lib originalWidth originalHeight (resize image scale) :=
  ⟨(hresize image scale).1.trans h.1, (hresize image scale).2.trans h.2⟩

theorem shrinks_resizeImageByScale [NatCast F] [Mul F]
    (hexact : ∀ image width height, lib.width (lib.resizeExact image width height) = width ∧
      lib.height (lib.resizeExact image width height) = height) :
    Shrinks lib lib.resizeImageByScale := by
  intro image scale
  unfold Within resizeImageByScale
  rw [(hexact _ _ _).1, (hexact _ _ _).2]
  exact ⟨min_le_right _ _, min_le_right _ _⟩

/-- The bytes are those of an image of the reported size, or the source itself. -/
inductive Describes (lib : Imaging I F) (source : Bytes) (original : I)
    (format : CompressionFormat) (result : CompressedImage) : Prop where
  | encoded (image : I) (quality : Nat)
      (bytes : lib.encode image format quality = .ok result.bytes)
      (size : lib.width image = result.width ∧ lib.height image = result.height)
      (within : Within lib (lib.width original) (lib.height original) image)
      (downsampled : result.downsampled = !lib.sameSize image original)
  | source (bytes : result.bytes = source)
      (size : lib.width original = result.width ∧ lib.height original = result.height)
      (downsampled : result.downsampled = false)

end Results

section Promise

variable [NatCast F] [OfScientific F] [Mul F] [Div F] {lib : Imaging I F} {resize : I → F → I}
  {image working working' : I} {format : CompressionFormat} {source bytes bytes' : Bytes}
  {quality target rounds smallest smallest' originalWidth originalHeight : Nat}
  {sourceName : String} {mode : ImageCompressionMode} {result : CompressedImage}

theorem shrinkToQuality_spec (hresize : Shrinks lib resize)
    (hencode : lib.encode working format quality = .ok bytes)
    (hwithin : Within lib originalWidth originalHeight working)
    (h : lib.shrinkToQuality resize format quality source rounds working bytes
      = .ok (working', bytes')) :
    lib.encode working' format quality = .ok bytes' ∧
      Within lib originalWidth originalHeight working' := by
  induction rounds generalizing working bytes with
  | zero =>
    obtain ⟨rfl, rfl⟩ : working = working' ∧ bytes = bytes' := by simpa [shrinkToQuality] using h
    exact ⟨hencode, hwithin⟩
  | succ rounds ih =>
    have hstay (h : Except.ok (ε := Failure) (working, bytes) = .ok (working', bytes')) :
        lib.encode working' format quality = .ok bytes' ∧
          Within lib originalWidth originalHeight working' := by
      obtain ⟨rfl, rfl⟩ : working = working' ∧ bytes = bytes' := by simpa using h
      exact ⟨hencode, hwithin⟩
    rw [shrinkToQuality] at h
    split at h
    · exact hstay h
    · dsimp only at h
      split at h
      · exact hstay h
      · obtain ⟨next, hnext, h⟩ := bind_eq_ok.mp h
        exact ih hnext (hwithin.resized hresize _) h

theorem settles_shrinkToQuality :
    Settles (lib.shrinkToQuality resize format quality source rounds working bytes) := by
  induction rounds generalizing working bytes with
  | zero => exact .ok _
  | succ rounds ih =>
    rw [shrinkToQuality]
    split
    · exact .ok _
    · dsimp only
      split
      · exact .ok _
      · exact settles_encode.bind fun _ _ => ih

/-- What a result of the quality mode is: it does not exceed the source, and a bitmap is smaller
unless it is the source. -/
theorem compressImageToQuality_spec (hresize : Shrinks lib resize)
    (h : lib.compressImageToQuality resize image format quality source = .ok result) :
    result.bytes.length ≤ source.length ∧
      (format = .bmp → result.bytes.length < source.length ∨ result.bytes = source) ∧
      Describes lib source image format result := by
  obtain ⟨bytes, hencode, h⟩ := bind_eq_ok.mp h
  obtain ⟨⟨working, bytes'⟩, hshrink, h⟩ := bind_eq_ok.mp h
  have hstart : Within lib (lib.width image) (lib.height image)
      (if format = .bmp then resize image (lib.sqrt ((quality : F) / 100.0)) else image) := by
    split
    · exact hresize _ _
    · exact .refl _
  obtain ⟨hencode', hwithin⟩ := shrinkToQuality_spec hresize hencode hstart hshrink
  dsimp only at h
  split at h
  · obtain rfl := pure_eq_ok.mp h
    exact ⟨le_rfl, fun _ => .inr rfl, .source rfl ⟨rfl, rfl⟩ rfl⟩
  · rename_i hsize
    obtain rfl := pure_eq_ok.mp h
    obtain ⟨hle, hne⟩ := not_or.mp hsize
    refine ⟨not_lt.mp hle, fun hbmp => .inl ?_,
      .encoded working quality hencode' ⟨rfl, rfl⟩ hwithin rfl⟩
    exact lt_of_le_of_ne (not_lt.mp hle) fun heq => hne ⟨hbmp, heq⟩

theorem settles_compressImageToQuality :
    Settles (lib.compressImageToQuality resize image format quality source) := by
  refine settles_encode.bind fun _ _ => settles_shrinkToQuality.bind fun ⟨_, _⟩ _ => ?_
  dsimp only
  split <;> exact .ok _

theorem shrinkToTarget_spec {original : I} (hresize : Shrinks lib resize)
    (hwithin : Within lib (lib.width original) (lib.height original) image)
    (h : lib.shrinkToTarget resize format target (lib.width original) (lib.height original) rounds
      image smallest = .ok (some result, smallest')) :
    result.bytes.length ≤ target ∧ Describes lib source original format result := by
  induction rounds generalizing image smallest with
  | zero => simp [shrinkToTarget] at h
  | succ rounds ih =>
    rw [shrinkToTarget] at h
    obtain ⟨⟨candidate, generated⟩, hcandidate, h⟩ := bind_eq_ok.mp h
    cases candidate with
    | some bytes =>
      obtain ⟨hle, quality, hencode⟩ := encodeBestTargetCandidate_fits hcandidate
      obtain ⟨hresult, -⟩ := Prod.mk.inj (pure_eq_ok.mp h)
      obtain rfl := Option.some.inj hresult
      exact ⟨hle, .encoded image quality hencode ⟨rfl, rfl⟩ hwithin rfl⟩
    | none =>
      dsimp only at h
      split at h
      · simp [pure_eq_ok] at h
      · split at h
        · simp [pure_eq_ok] at h
        · exact ih (hwithin.resized hresize _) h

theorem settles_shrinkToTarget : Settles
    (lib.shrinkToTarget resize format target originalWidth originalHeight rounds image smallest) := by
  induction rounds generalizing image smallest with
  | zero => exact .ok _
  | succ rounds ih =>
    rw [shrinkToTarget]
    refine settles_encodeBestTargetCandidate.bind fun ⟨candidate, generated⟩ _ => ?_
    cases candidate with
    | some bytes => exact .ok _
    | none =>
      dsimp only
      split
      · exact .ok _
      · split
        · exact .ok _
        · exact ih

theorem compressImageToTarget_spec (hresize : Shrinks lib resize)
    (h : lib.compressImageToTarget resize image format target (lib.width image) (lib.height image)
      = .ok result) :
    result.bytes.length ≤ target ∧ Describes lib source image format result := by
  obtain ⟨⟨found, smallest⟩, hfound, h⟩ := bind_eq_ok.mp h
  cases found with
  | none => contradiction
  | some found =>
    obtain rfl : found = result := pure_eq_ok.mp h
    exact shrinkToTarget_spec hresize (.refl image) hfound

theorem settles_compressImageToTarget : Settles
    (lib.compressImageToTarget resize image format target originalWidth originalHeight) := by
  refine settles_shrinkToTarget.bind fun ⟨found, smallest⟩ _ => ?_
  cases found with
  | none => exact fun _ h => ⟨_, by simpa using h.symm⟩
  | some found => exact .ok _

/-- What a successful call has done: returned the source, or compressed the image it decoded. -/
theorem compressImageBytes_spec (hresize : Shrinks lib resize)
    (h : lib.compressImageBytes resize sourceName source mode = .ok result) :
    ∃ image detected format, lib.decodeImageBytes sourceName source = .ok (image, detected) ∧
      CompressionFormat.fromDetected detected = .ok format ∧
      Describes lib source image format result ∧
      match mode with
      | .quality quality => result.bytes.length ≤ source.length ∧
          (format = .bmp → quality < 100 →
            result.bytes.length < source.length ∨ result.bytes = source)
      | .targetBytes target => result.bytes.length ≤ target := by
  obtain ⟨⟨image, detected⟩, hdecode, h⟩ := bind_eq_ok.mp h
  obtain ⟨format, hformat, h⟩ := bind_eq_ok.mp h
  refine ⟨image, detected, format, mapError_eq_ok.mp hdecode, mapError_eq_ok.mp hformat, ?_⟩
  cases mode with
  | quality quality =>
    obtain ⟨-, -, h⟩ := bind_eq_ok.mp h
    split at h
    · obtain rfl := pure_eq_ok.mp h
      exact ⟨.source rfl ⟨rfl, rfl⟩ rfl, le_rfl, fun _ _ => .inr rfl⟩
    · obtain ⟨hle, hbmp, hdescribes⟩ := compressImageToQuality_spec hresize h
      exact ⟨hdescribes, hle, fun hformat _ => hbmp hformat⟩
  | targetBytes target =>
    obtain ⟨-, -, h⟩ := bind_eq_ok.mp h
    split at h
    · rename_i hsmall
      obtain rfl := pure_eq_ok.mp h
      exact ⟨.source rfl ⟨rfl, rfl⟩ rfl, hsmall⟩
    · obtain ⟨hle, hdescribes⟩ := compressImageToTarget_spec hresize h
      exact ⟨hdescribes, hle⟩

theorem settles_compressImageBytes :
    Settles (lib.compressImageBytes resize sourceName source mode) := by
  refine (Settles.mapError _).bind fun ⟨image, detected⟩ _ => (Settles.mapError _).bind fun format _ => ?_
  cases mode with
  | quality quality =>
    refine Settles.bind (fun failure h => ⟨_, ensure_eq_error h⟩) fun _ _ => ?_
    split
    · exact .ok _
    · exact settles_compressImageToQuality
  | targetBytes target =>
    refine Settles.bind (fun failure h => ⟨_, rejectIf_eq_error h⟩) fun _ _ => ?_
    split
    · exact .ok _
    · exact settles_compressImageToTarget

/-- Whatever the encoder returns for an image, a format and a quality: a result fits the size or the
source it must not exceed and is described by what is reported, and the search for a JPEG quality
ends at the largest one that fits when the size does not decrease with the quality. -/
theorem compression_keeps_its_promise (hresize : Shrinks lib resize) (sourceName : String)
    (source : Bytes) :
    (∀ target result,
      lib.compressImageBytes resize sourceName source (.targetBytes target) = .ok result →
        result.bytes.length ≤ target) ∧
    (∀ quality result,
      lib.compressImageBytes resize sourceName source (.quality quality) = .ok result →
        result.bytes.length ≤ source.length) ∧
    (∀ image quality result, lib.decodeImageBytes sourceName source = .ok (image, some .bmp) →
      quality < 100 →
      lib.compressImageBytes resize sourceName source (.quality quality) = .ok result →
        result.bytes.length < source.length ∨ result.bytes = source) ∧
    (∀ mode result, lib.compressImageBytes resize sourceName source mode = .ok result →
      ∃ image detected format, lib.decodeImageBytes sourceName source = .ok (image, detected) ∧
        CompressionFormat.fromDetected detected = .ok format ∧
        Describes lib source image format result) ∧
    (∀ mode, Settles (lib.compressImageBytes resize sourceName source mode)) ∧
    ∀ image target, Settles (lib.encodeBestTargetCandidate image .jpeg target) ∧
      ((∃ best smallest, lib.encodeBestTargetCandidate image .jpeg target = .ok (best, smallest) ∧
          (NonDecreasing lib image → LargestFitting lib image target best)) ∨
        ∃ quality failure, 1 ≤ quality ∧ quality ≤ 100 ∧
          lib.encode image .jpeg quality = .error failure ∧
          lib.encodeBestTargetCandidate image .jpeg target = .error failure) := by
  refine ⟨fun target result h => ?_, fun quality result h => ?_, fun image quality result hbmp hlt h => ?_,
    fun mode result h => ?_, fun mode => settles_compressImageBytes,
    fun image target => ⟨settles_encodeBestTargetCandidate, ?_⟩⟩
  · obtain ⟨_, _, _, -, -, -, hle⟩ := compressImageBytes_spec hresize h
    exact hle
  · obtain ⟨_, _, _, -, -, -, hle, -⟩ := compressImageBytes_spec hresize h
    exact hle
  · obtain ⟨_, detected, format, hdecode, hformat, -, -, hsmaller⟩ := compressImageBytes_spec hresize h
    rw [hbmp] at hdecode
    obtain ⟨-, rfl⟩ := Prod.mk.inj (Except.ok.inj hdecode)
    exact hsmaller (Except.ok.inj hformat).symm hlt
  · obtain ⟨image, detected, format, hdecode, hformat, hdescribes, -⟩ :=
      compressImageBytes_spec hresize h
    exact ⟨image, detected, format, hdecode, hformat, hdescribes⟩
  · rcases encodeBestTargetCandidate_jpeg lib image target with
      ⟨quality, best, smallest, heq, hboundary⟩ | ⟨quality, failure, hone, hhundred, hencode, heq⟩
    · exact .inl ⟨best, smallest, heq, hboundary.largestFitting⟩
    · exact .inr ⟨quality, failure, hone, hhundred, hencode, heq⟩

end Promise

/-- A plain image library: an image is its size, a file has a header and three bytes a pixel. The
root is exact where it is rational. -/
def plain : Imaging (Nat × Nat) ℚ where
  width := Prod.fst
  height := Prod.snd
  decodeImageBytes _ _ := .ok ((5, 5), some .bmp)
  encodeCompressedImage image _ _ := .ok (List.replicate (25 + image.1 * image.2 * 3) 0)
  resizeExact _ width height := (width, height)
  sqrt number := (Nat.sqrt number.num.toNat : ℚ) / Nat.sqrt number.den
  clamp number least greatest := max least (min number greatest)
  floor number := number.floor.toNat

/-- A bitmap of 100 bytes is resized once for a target of 64 bytes. -/
theorem compression_keeps_its_promise_bitmap :
    ∃ result, plain.compressImageBytes plain.resizeImageByScale "a.bmp" (List.replicate 100 0)
        (.targetBytes 64) = .ok result ∧ result.width = 3 ∧ result.bytes.length ≤ 64 := by
  have hresult : plain.compressImageBytes plain.resizeImageByScale "a.bmp" (List.replicate 100 0)
      (.targetBytes 64) = .ok ⟨List.replicate 52 0, "bmp", 3, 3, true⟩ := by decide +kernel
  exact ⟨_, hresult, rfl, (compression_keeps_its_promise
    (shrinks_resizeImageByScale fun _ _ _ => ⟨rfl, rfl⟩) "a.bmp" _).1 64 _ hresult⟩

end Imaging

end ArtForgeStudio.Images
