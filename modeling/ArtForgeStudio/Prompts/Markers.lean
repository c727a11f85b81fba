import ArtForgeStudio.Prompts.Inline
import Mathlib.Algebra.GroupWithZero.Nat

/-! # The markers of prompts

In the editor a prompt stands as a marker: an icon, for which an ideographic space is kept, and the
name. Nothing ends a marker. What is looked for is the first place where the icon and the name are
read, so a name may be read at the marker of a longer one, or where text follows a shorter one. And
the icon counts as white space when the gap of a removed marker is closed.
-/

namespace ArtForgeStudio.Prompts

open ArtForgeStudio.Api ArtForgeStudio.Occurrences

structure PromptEditorEdit where
  text : List Char
  cursorOffset : Nat

structure InlineCustomPromptOccurrence where
  name : List Char
  content : List Char
  before : List Char
  startOffset : Nat
  endOffset : Nat
  deriving DecidableEq

def i32Max : Nat := 2147483647

/-- The length in UTF-8. -/
def byteLength (text : List Char) : Nat := (text.map Char.utf8Size).sum

/-- The text around the last boundary between characters that is not beyond the offset. -/
def splitAtByte : List Char → Nat → List Char × List Char
  | [], _ => ([], [])
  | c :: rest, requested =>
    if c.utf8Size ≤ requested then
      let (before, after) := splitAtByte rest (requested - c.utf8Size)
      (c :: before, after)
    else ([], c :: rest)

/-- No space stands between these and a name. -/
def unspaced : List Char :=
  ['，', '。', '、', '；', '：', '！', '？', ',', '.', ';', ':', '!', '?']

def needsSpacing (character : Char) : Bool :=
  !isWhiteSpace character && !unspaced.contains character

def spacing (neighbour : Option Char) : List Char := if neighbour.any needsSpacing then [' '] else []

def insertCustomPromptNameAtByteOffset (editorText : List Char) (requestedOffset : Nat)
    (name : List Char) : PromptEditorEdit :=
  let (before, after) := splitAtByte editorText requestedOffset
  let inserted :=
    spacing before.getLast? ++ inlineCustomPromptDisplayText name ++ spacing after.head?
  { text := before ++ inserted ++ after
    cursorOffset := min (byteLength before + byteLength inserted) i32Max }

def removeCustomPromptName (editorText name : List Char) : PromptEditorEdit :=
  let display := inlineCustomPromptDisplayText name
  match findFirst display editorText with
  | none => { text := editorText, cursorOffset := min (byteLength editorText) i32Max }
  | some start =>
    let before := editorText.take start
    let after := editorText.drop (start + display.length)
    let beforeSpace := before.getLast?.any isWhiteSpace
    let afterSpace := after.head?.any isWhiteSpace
    if afterSpace && (beforeSpace || before.isEmpty) then
      { text := before ++ after.tail, cursorOffset := min (byteLength before) i32Max }
    else if beforeSpace && after.isEmpty then
      { text := before.dropLast ++ after, cursorOffset := min (byteLength before.dropLast) i32Max }
    else { text := before ++ after, cursorOffset := min (byteLength before) i32Max }

def replaceCustomPromptName (editorText originalName replacementName : List Char) :
    PromptEditorEdit :=
  let original := inlineCustomPromptDisplayText originalName
  match findFirst original editorText with
  | none => { text := editorText, cursorOffset := min (byteLength editorText) i32Max }
  | some start =>
    let replacement := inlineCustomPromptDisplayText replacementName
    let before := editorText.take start
    { text := before ++ replacement ++ editorText.drop (start + original.length)
      cursorOffset := min (byteLength before + byteLength replacement) i32Max }

def inlineCustomPromptOccurrence (editorText : List Char) (replacement : List Char × List Char) :
    Option InlineCustomPromptOccurrence :=
  let display := inlineCustomPromptDisplayText replacement.1
  (findFirst display editorText).map fun start =>
    let before := editorText.take start
    { name := replacement.1, content := replacement.2, before := before
      startOffset := min (byteLength before) i32Max
      endOffset := min (byteLength before + byteLength display) i32Max }

def inlineCustomPromptOccurrences (editorText : List Char)
    (replacements : List (List Char × List Char)) : List InlineCustomPromptOccurrence :=
  (replacements.filterMap (inlineCustomPromptOccurrence editorText)).mergeSort
    fun one other => one.startOffset ≤ other.startOffset

/-- A character that was typed, or the marker of a prompt. -/
inductive Piece where
  | char (c : Char)
  | marker (name : List Char)
  deriving DecidableEq

def Piece.text : Piece → List Char
  | .char c => [c]
  | .marker name => inlineCustomPromptDisplayText name

def render (pieces : List Piece) : List Char := pieces.flatMap Piece.text

def Piece.name? : Piece → Option (List Char)
  | .char _ => none
  | .marker name => some name

/-- The prompts that stand in the text. -/
def markerNames (pieces : List Piece) : List (List Char) := pieces.filterMap Piece.name?

def Piece.isBlank : Piece → Bool
  | .char c => isWhiteSpace c
  | .marker _ => false

/-- What a name may be: not empty, trimmed, and without the character of the icon. -/
structure GoodName (name : List Char) : Prop where
  nonempty : name ≠ []
  trimmed : trimChars name = name
  iconless : inlineCustomPromptIconPlaceholder ∉ name

/-- What is around a new marker, with the spaces that are put beside it. -/
def insertMarker (before : List Piece) (name : List Char) (after : List Piece) : List Piece :=
  before ++ (spacing (render before).getLast?).map .char ++
    .marker name :: ((spacing (render after).head?).map .char ++ after)

/-- What is around a marker that goes: one blank beside it goes with it, where two would meet or the
text begins or ends. -/
def closeGap (before after : List Piece) : List Piece × List Piece :=
  if after.head?.any Piece.isBlank && (before.getLast?.any Piece.isBlank || before.isEmpty) then
    (before, after.tail)
  else if before.getLast?.any Piece.isBlank && after.isEmpty then (before.dropLast, after)
  else (before, after)

/-- The text up to the next marker, and what is behind the pieces if there is none. -/
def leadThen : List Piece → List Char → List Char
  | [], behind => behind
  | .char c :: rest, behind => c :: leadThen rest behind
  | .marker _ :: _, _ => []

/-- At no marker of the pieces the name is read: neither in the name there, nor in that name and the
text that follows it. -/
def NotRead (name : List Char) : List Piece → List Char → Prop
  | [], _ => True
  | .char _ :: rest, behind => NotRead name rest behind
  | .marker other :: rest, behind =>
    ¬name <+: other ++ leadThen rest behind ∧ NotRead name rest behind

/-- Every marker ends where an `i32` reaches. -/
def Fits (pieces : List Piece) : Prop :=
  ∀ before name after, pieces = before ++ .marker name :: after →
    byteLength (render before) + byteLength (inlineCustomPromptDisplayText name) ≤ i32Max

/-- A name that is put between the pieces is not read in front of it, and no name behind it is read
at its marker. -/
structure Harmless (before : List Piece) (name : List Char) (after : List Piece) : Prop where
  own : NotRead name before []
  others : ∀ other ∈ markerNames after, ¬other <+: name ++ leadThen after []

/-- No icon is taken for the blank that goes with a removed marker. -/
def NoIconTaken (before after : List Piece) : Prop :=
  ∀ name rest, after = .marker name :: rest →
    before ≠ [] ∧ before.getLast?.any Piece.isBlank = false

/-- No icon goes with the marker, and no name behind the gap is read in front of it when it is
closed. -/
structure HarmlessGap (before after : List Piece) : Prop where
  icon : NoIconTaken before after
  others : ∀ other ∈ markerNames after,
    NotRead other (closeGap before after).1 (leadThen (closeGap before after).2 [])

/-- The edits of a text that are harmless, and the marked text that they are to leave. A prompt that
does not stand in the text can be removed and renamed, too: then nothing is to change. -/
inductive EditorRun (start : List Char) : List Char → List Piece → Prop
  | start (h : inlineCustomPromptIconPlaceholder ∉ start) :
      EditorRun start start (start.map .char)
  | insert {text : List Char} {before after : List Piece} {offset : Nat} {name : List Char}
      (run : EditorRun start text (before ++ after)) (hname : GoodName name)
      (hnew : name ∉ markerNames (before ++ after))
      (hoffset : splitAtByte text offset = (render before, render after))
      (hharmless : Harmless before name ((spacing (render after).head?).map .char ++ after))
      (hfits : Fits (insertMarker before name after)) :
      EditorRun start (insertCustomPromptNameAtByteOffset text offset name).text
        (insertMarker before name after)
  | remove {text : List Char} {before after : List Piece} {name : List Char}
      (run : EditorRun start text (before ++ .marker name :: after))
      (hharmless : HarmlessGap before after) :
      EditorRun start (removeCustomPromptName text name).text
        ((closeGap before after).1 ++ (closeGap before after).2)
  | rename {text : List Char} {before after : List Piece} {original replacement : List Char}
      (run : EditorRun start text (before ++ .marker original :: after))
      (hname : GoodName replacement)
      (hnew : replacement ∉ markerNames (before ++ .marker original :: after))
      (hharmless : Harmless before replacement after)
      (hfits : Fits (before ++ .marker replacement :: after)) :
      EditorRun start (replaceCustomPromptName text original replacement).text
        (before ++ .marker replacement :: after)
  | removeAbsent {text : List Char} {pieces : List Piece} {name : List Char}
      (run : EditorRun start text pieces) (hname : GoodName name) (hread : NotRead name pieces []) :
      EditorRun start (removeCustomPromptName text name).text pieces
  | renameAbsent {text : List Char} {pieces : List Piece} {original : List Char}
      (run : EditorRun start text pieces) (hname : GoodName original)
      (hread : NotRead original pieces []) (replacement : List Char) :
      EditorRun start (replaceCustomPromptName text original replacement).text pieces

/-- At most one blank beside the gap is gone. -/
def ClosesGap (before after left : List Piece) : Prop :=
  left = before ++ after ∨
    (∃ c rest, isWhiteSpace c ∧ after = .char c :: rest ∧ left = before ++ rest) ∨
    ∃ c rest, isWhiteSpace c ∧ before = rest ++ [.char c] ∧ left = rest ++ after

/-- The occurrences are those of the markers of the text, each once and in their order. -/
structure OccursOnce (pieces : List Piece) (replacements : List (List Char × List Char))
    (occurrences : List InlineCustomPromptOccurrence) : Prop where
  once : (occurrences.map fun occurrence => (occurrence.name, occurrence.content)).Perm replacements
  increasing : occurrences.Pairwise fun one other => one.endOffset ≤ other.startOffset
  spelled : ∀ occurrence ∈ occurrences, ∃ before after,
    pieces = before ++ .marker occurrence.name :: after ∧ occurrence.before = render before ∧
      occurrence.startOffset = byteLength (render before) ∧
      occurrence.endOffset = byteLength (render before) +
        byteLength (inlineCustomPromptDisplayText occurrence.name)

/-- No marker has to do with another one. -/
structure MarkersIndependent (text : List Char) (pieces : List Piece) : Prop where
  rendered : text = render pieces
  removed : ∀ before name after, pieces = before ++ .marker name :: after →
    NoIconTaken before after → ∃ left, ClosesGap before after left ∧
      (removeCustomPromptName text name).text = render left
  renamed : ∀ before original after replacement, pieces = before ++ .marker original :: after →
    (replaceCustomPromptName text original replacement).text =
      render (before ++ .marker replacement :: after)
  occurrences : ∀ replacements, (replacements.map (·.1)).Perm (markerNames pieces) →
    OccursOnce pieces replacements (inlineCustomPromptOccurrences text replacements)

section Pieces

variable {pieces before after rest : List Piece} {name other text tail behind : List Char} {c : Char}

@[simp] theorem render_nil : render [] = [] := rfl

@[simp] theorem render_cons (piece : Piece) (pieces : List Piece) :
    render (piece :: pieces) = piece.text ++ render pieces := rfl

@[simp] theorem render_append (before after : List Piece) :
    render (before ++ after) = render before ++ render after := List.flatMap_append

@[simp] theorem render_chars (text : List Char) : render (text.map .char) = text := by
  induction text with
  | nil => rfl
  | cons c text ih => rw [List.map_cons, render_cons, ih]; rfl

@[simp] theorem markerNames_append (before after : List Piece) :
    markerNames (before ++ after) = markerNames before ++ markerNames after :=
  List.filterMap_append

@[simp] theorem markerNames_marker (name : List Char) (rest : List Piece) :
    markerNames (.marker name :: rest) = name :: markerNames rest := rfl

@[simp] theorem markerNames_char (c : Char) (rest : List Piece) :
    markerNames (.char c :: rest) = markerNames rest := rfl

@[simp] theorem markerNames_chars (text : List Char) : markerNames (text.map .char) = [] := by
  induction text with
  | nil => rfl
  | cons c text ih => exact ih

theorem mem_markerNames : name ∈ markerNames pieces ↔ .marker name ∈ pieces := by
  simp only [markerNames, List.mem_filterMap]
  constructor
  · rintro ⟨piece, hpiece, hname⟩
    cases piece with
    | char c => cases hname
    | marker found => cases hname; exact hpiece
  · exact fun hmem => ⟨_, hmem, rfl⟩

theorem byteLength_append (text tail : List Char) :
    byteLength (text ++ tail) = byteLength text + byteLength tail := by
  simp [byteLength]

theorem display_of_good (h : GoodName name) :
    inlineCustomPromptDisplayText name = inlineCustomPromptIconPlaceholder :: name := by
  rw [inlineCustomPromptDisplayText, h.trimmed]

/-- The last character of a name is not white space. -/
theorem GoodName.last (h : GoodName name) (hlast : name.getLast? = some c) :
    isWhiteSpace c = false := by
  have hkept : (name.dropWhile isWhiteSpace).rdropWhile isWhiteSpace ≠ [] := by
    have htrimmed := h.trimmed
    rw [trimChars] at htrimmed
    rw [htrimmed]
    exact h.nonempty
  have hnot := List.rdropWhile_last_not isWhiteSpace _ hkept
  have hsame : ((name.dropWhile isWhiteSpace).rdropWhile isWhiteSpace).getLast? = some c := by
    rw [← hlast]
    exact congrArg List.getLast? h.trimmed
  rw [List.getLast?_eq_some_getLast hkept, Option.some.injEq] at hsame
  rwa [hsame, Bool.not_eq_true] at hnot

theorem leadThen_append (before after : List Piece) (behind : List Char) :
    leadThen (before ++ after) behind = leadThen before (leadThen after behind) := by
  induction before with
  | nil => rfl
  | cons piece before ih =>
    cases piece with
    | char c => exact congrArg (c :: ·) ih
    | marker name => rfl

theorem notRead_append (name : List Char) (before after : List Piece) (behind : List Char) :
    NotRead name (before ++ after) behind ↔
      NotRead name before (leadThen after behind) ∧ NotRead name after behind := by
  induction before with
  | nil => exact ⟨fun h => ⟨trivial, h⟩, fun h => h.2⟩
  | cons piece before ih =>
    cases piece with
    | char c => exact ih
    | marker other =>
      simp only [List.cons_append, NotRead, leadThen_append, ih, and_assoc]

theorem notRead_chars (name text behind : List Char) : NotRead name (text.map .char) behind := by
  induction text with
  | nil => trivial
  | cons c text ih => exact ih

theorem leadThen_leads (pieces : List Piece) (behind : List Char) :
    leadThen pieces [] <+: leadThen pieces behind := by
  induction pieces with
  | nil => exact List.nil_prefix
  | cons piece pieces ih =>
    cases piece with
    | char c => exact List.cons_prefix_cons.mpr ⟨rfl, ih⟩
    | marker name => exact List.prefix_refl _

/-- With less text behind no more is read. -/
theorem NotRead.mono (h : NotRead name pieces behind) : NotRead name pieces [] := by
  induction pieces with
  | nil => trivial
  | cons piece pieces ih =>
    cases piece with
    | char c => exact ih h
    | marker other =>
      refine ⟨fun hread => h.1 (hread.trans ?_), ih h.2⟩
      exact List.prefix_append_right_inj _ |>.mpr (leadThen_leads pieces behind)

theorem leadThen_space (pieces : List Piece) :
    leadThen pieces [' '] = leadThen pieces [] ++ [' '] ∨
      leadThen pieces [' '] = leadThen pieces [] := by
  induction pieces with
  | nil => exact .inl rfl
  | cons piece pieces ih =>
    cases piece with
    | char c => exact ih.imp (congrArg (c :: ·)) (congrArg (c :: ·))
    | marker name => exact .inr rfl

/-- A space behind the text reads no name: no name ends in it. -/
theorem NotRead.spacing (h : NotRead name pieces []) (hname : GoodName name)
    (neighbour : Option Char) : NotRead name pieces (spacing neighbour) := by
  unfold Prompts.spacing
  split
  · induction pieces with
    | nil => trivial
    | cons piece pieces ih =>
      cases piece with
      | char c => exact ih h
      | marker other =>
        refine ⟨fun hread => ?_, ih h.2⟩
        rcases leadThen_space pieces with hspace | hspace
        · rw [hspace, ← List.append_assoc] at hread
          rcases List.prefix_concat_iff.mp hread with heq | hread
          · have hwhite := hname.last (by rw [heq, List.getLast?_concat])
            exact absurd hwhite (by decide)
          · exact h.1 hread
        · exact h.1 (hspace ▸ hread)
  · exact h

/-- A name does not go on across an icon. -/
theorem prefix_of_icon (hname : inlineCustomPromptIconPlaceholder ∉ name)
    (h : name <+: text ++ inlineCustomPromptIconPlaceholder :: tail) : name <+: text := by
  rcases List.prefix_or_prefix_of_prefix h (List.prefix_append text _) with hprefix | hprefix
  · exact hprefix
  · obtain ⟨rest, rfl⟩ := hprefix
    rw [List.prefix_append_right_inj] at h
    cases rest with
    | nil => simp
    | cons c rest =>
      have hicon := (List.cons_prefix_cons.mp h).1
      exact absurd (by simp [hicon]) hname

/-- In front of an icon the text after a marker begins with what is read there. -/
theorem exists_render_lead (pieces : List Piece) (tail : List Char) :
    ∃ others, render pieces ++ inlineCustomPromptIconPlaceholder :: tail =
      leadThen pieces [] ++ inlineCustomPromptIconPlaceholder :: others := by
  induction pieces with
  | nil => exact ⟨tail, rfl⟩
  | cons piece pieces ih =>
    cases piece with
    | char c =>
      obtain ⟨others, hothers⟩ := ih
      exact ⟨others, congrArg (c :: ·) hothers⟩
    | marker name => exact ⟨trimChars name ++ render pieces ++ _, by
        rw [render_cons, List.append_assoc, List.append_assoc]; rfl⟩

/-- The pieces of a text: no icon was typed, and the names are good ones. -/
structure GoodPieces (pieces : List Piece) : Prop where
  chars : ∀ c, .char c ∈ pieces → c ≠ inlineCustomPromptIconPlaceholder
  names : ∀ name, .marker name ∈ pieces → GoodName name

theorem GoodPieces.of_subset (h : GoodPieces pieces) (hsub : ∀ piece ∈ before, piece ∈ pieces) :
    GoodPieces before :=
  ⟨fun c hc => h.chars c (hsub _ hc), fun name hname => h.names name (hsub _ hname)⟩

/-- In front of its own marker a name is found nowhere. -/
theorem not_prefix_before (hpieces : GoodPieces before) (hname : GoodName name)
    (hread : NotRead name before []) (tail : List Char) :
    ∀ i < (render before).length, ¬inlineCustomPromptIconPlaceholder :: name <+:
      (render before ++ inlineCustomPromptIconPlaceholder :: tail).drop i := by
  induction before with
  | nil => exact fun i hi => absurd hi (Nat.not_lt_zero i)
  | cons piece before ih =>
    have hrest := ih (hpieces.of_subset fun _ => List.mem_cons_of_mem _)
    cases piece with
    | char c =>
      intro i hi hprefix
      cases i with
      | zero =>
        have hicon := (List.cons_prefix_cons.mp hprefix).1
        exact hpieces.chars c List.mem_cons_self hicon.symm
      | succ i => exact hrest hread i (Nat.lt_of_succ_lt_succ hi) hprefix
    | marker other =>
      have hother := hpieces.names other List.mem_cons_self
      have htext : (Piece.marker other).text = inlineCustomPromptIconPlaceholder :: other :=
        display_of_good hother
      intro i hi hprefix
      rw [render_cons, htext, List.cons_append] at hi hprefix
      cases i with
      | zero =>
        -- at the marker itself: the name would be read there
        obtain ⟨others, hothers⟩ := exists_render_lead before tail
        rw [List.drop_zero, List.cons_append, List.cons_prefix_cons, List.append_assoc, hothers,
          ← List.append_assoc] at hprefix
        exact hread.1 (prefix_of_icon hname.iconless hprefix.2)
      | succ i =>
        rw [List.cons_append, List.drop_succ_cons, List.append_assoc] at hprefix
        rw [List.length_cons, Nat.succ_lt_succ_iff, List.length_append] at hi
        by_cases hinside : i < other.length
        · rw [List.drop_append_of_le_length (Nat.le_of_lt hinside),
            List.drop_eq_getElem_cons hinside, List.cons_append] at hprefix
          have hicon := (List.cons_prefix_cons.mp hprefix).1
          exact hother.iconless (hicon ▸ List.getElem_mem hinside)
        · have hbeyond : other.drop i = [] := List.drop_eq_nil_of_le (Nat.le_of_not_lt hinside)
          rw [List.drop_append, hbeyond, List.nil_append] at hprefix
          exact hrest hread.2 (i - other.length) (by omega) hprefix

/-- The first occurrence of a name is that of its own marker. -/
theorem findFirst_marker (hpieces : GoodPieces (before ++ .marker name :: after))
    (hread : NotRead name before []) :
    findFirst (inlineCustomPromptDisplayText name) (render (before ++ .marker name :: after)) =
      some (render before).length := by
  have hname := hpieces.names name (by simp)
  have hbefore : GoodPieces before := hpieces.of_subset fun _ => List.mem_append_left _
  have htext : render (before ++ .marker name :: after) =
      render before ++ inlineCustomPromptIconPlaceholder :: (name ++ render after) := by
    rw [render_append, render_cons, Piece.text, display_of_good hname]
    rfl
  rw [htext, display_of_good hname, findFirst_eq_some_iff]
  refine ⟨by simp, ?_, not_prefix_before hbefore hname hread _⟩
  rw [List.drop_left, List.cons_prefix_cons]
  exact ⟨rfl, List.prefix_append _ _⟩

/-- A name that is read nowhere is not found. -/
theorem findFirst_absent (hpieces : GoodPieces pieces) (hname : GoodName name)
    (hread : NotRead name pieces []) :
    findFirst (inlineCustomPromptDisplayText name) (render pieces) = none := by
  rw [display_of_good hname, findFirst_eq_none_iff]
  intro i hprefix
  by_cases hinside : i < (render pieces).length
  · apply not_prefix_before hpieces hname hread [] i hinside
    rw [List.drop_append_of_le_length (Nat.le_of_lt hinside)]
    exact hprefix.trans (List.prefix_append _ _)
  · rw [List.drop_eq_nil_of_le (Nat.le_of_not_lt hinside), List.prefix_nil] at hprefix
    contradiction

theorem absent_text (hpieces : GoodPieces pieces) (hname : GoodName name)
    (hread : NotRead name pieces []) (replacement : List Char) :
    (removeCustomPromptName (render pieces) name).text = render pieces ∧
      (replaceCustomPromptName (render pieces) name replacement).text = render pieces := by
  have habsent := findFirst_absent hpieces hname hread
  constructor
  · rw [removeCustomPromptName, habsent]
  · rw [replaceCustomPromptName, habsent]

/-- The pieces are good, no prompt stands twice in the text, and no name is read in front of its own
marker. -/
structure SoundPieces (pieces : List Piece) : Prop where
  good : GoodPieces pieces
  distinct : (markerNames pieces).Nodup
  unread : ∀ before name after, pieces = before ++ .marker name :: after → NotRead name before []
  fits : Fits pieces

/-- A marker of two texts is one of the first or one of the second. -/
theorem append_eq_marker {left right : List Piece}
    (h : left ++ right = before ++ .marker name :: after) :
    (∃ rest, left = before ++ .marker name :: rest ∧ after = rest ++ right) ∨
      ∃ rest, right = rest ++ .marker name :: after ∧ before = left ++ rest := by
  rcases List.append_eq_append_iff.mp h with ⟨rest, hbefore, hright⟩ | ⟨rest, hleft, hmarker⟩
  · exact .inr ⟨rest, hright, hbefore⟩
  · cases rest with
    | nil => exact .inr ⟨[], by simpa using hmarker.symm, by simpa using hleft.symm⟩
    | cons piece rest =>
      rw [List.cons_append, List.cons.injEq] at hmarker
      exact .inl ⟨rest, hmarker.1 ▸ hleft, hmarker.2⟩

/-- Names that are not read in either part, and not in the first part with the second behind it. -/
theorem unread_append {left right : List Piece}
    (hleft : ∀ before name after, left = before ++ .marker name :: after → NotRead name before [])
    (hright : ∀ before name after, right = before ++ .marker name :: after →
      NotRead name before [] ∧ NotRead name left (leadThen right [])) :
    ∀ before name after, left ++ right = before ++ .marker name :: after →
      NotRead name before [] := by
  intro before name after h
  rcases append_eq_marker h with ⟨rest, hsplit, -⟩ | ⟨rest, hsplit, rfl⟩
  · exact hleft before name rest hsplit
  · obtain ⟨hrest, hacross⟩ := hright rest name after hsplit
    rw [notRead_append]
    refine ⟨?_, hrest⟩
    -- the name's own marker ends what is read
    rw [hsplit, leadThen_append] at hacross
    exact hacross

/-- The names that are not read in front of their own markers. -/
abbrev Unread (pieces : List Piece) : Prop :=
  ∀ before name after, pieces = before ++ .marker name :: after → NotRead name before []

theorem unread_left {left right : List Piece} (h : Unread (left ++ right)) : Unread left :=
  fun before name after hsplit => h before name (after ++ right) (by rw [hsplit]; simp)

theorem unread_right {left right : List Piece} (h : Unread (left ++ right)) : Unread right := by
  intro before name after hsplit
  have hwhole := h (left ++ before) name after (by rw [hsplit, List.append_assoc])
  exact ((notRead_append _ _ _ _).mp hwhole).2

theorem unread_across {left right : List Piece} (h : Unread (left ++ right))
    (hother : other ∈ markerNames right) : NotRead other left [] := by
  obtain ⟨before, after, hsplit⟩ := List.append_of_mem (mem_markerNames.mp hother)
  have hwhole := h (left ++ before) other after (by rw [hsplit, List.append_assoc])
  exact ((notRead_append _ _ _ _).mp hwhole).1.mono

theorem unread_chars (text : List Char) : Unread (text.map .char) := by
  intro before name after hsplit
  have hmem : Piece.marker name ∈ text.map Piece.char := by simp [hsplit]
  simp at hmem

/-- A marker between two parts: no name is read that was not before. -/
theorem unread_between {left right : List Piece} (hleft : Unread left) (hright : Unread right)
    (hacross : ∀ other ∈ markerNames right, NotRead other left []) (hown : NotRead name left [])
    (hothers : ∀ other ∈ markerNames right, ¬other <+: name ++ leadThen right []) :
    Unread (left ++ .marker name :: right) := by
  apply unread_append hleft
  intro before found after hsplit
  cases before with
  | nil =>
    cases hsplit
    exact ⟨trivial, hown⟩
  | cons piece before =>
    rw [List.cons_append, List.cons.injEq] at hsplit
    obtain ⟨rfl, hsplit⟩ := hsplit
    have hfound : found ∈ markerNames right := mem_markerNames.mpr (by simp [hsplit])
    have hlead : leadThen right [] = leadThen before [] := by
      rw [hsplit, leadThen_append]
      rfl
    exact ⟨⟨hlead ▸ hothers found hfound, hright before found after hsplit⟩, hacross found hfound⟩

theorem insert_text {offset : Nat}
    (hoffset : splitAtByte text offset = (render before, render after)) :
    (insertCustomPromptNameAtByteOffset text offset name).text =
      render (insertMarker before name after) := by
  simp [insertCustomPromptNameAtByteOffset, hoffset, insertMarker, Piece.text]

theorem spacing_good (neighbour : Option Char) : GoodPieces ((spacing neighbour).map .char) := by
  unfold spacing
  split
  · exact ⟨by simp [inlineCustomPromptIconPlaceholder], by simp⟩
  · exact ⟨by simp, by simp⟩

theorem leadThen_chars (text : List Char) : leadThen (text.map .char) [] = text := by
  induction text with
  | nil => rfl
  | cons c text ih => exact congrArg (c :: ·) ih

theorem notRead_spaced (h : NotRead name pieces []) (hname : GoodName name)
    (neighbour : Option Char) : NotRead name (pieces ++ (spacing neighbour).map .char) [] := by
  rw [notRead_append, leadThen_chars]
  exact ⟨h.spacing hname neighbour, notRead_chars _ _ _⟩

theorem SoundPieces.insert (h : SoundPieces (before ++ after)) (hname : GoodName name)
    (hnew : name ∉ markerNames (before ++ after))
    (hharmless : Harmless before name ((spacing (render after).head?).map .char ++ after))
    (hfits : Fits (insertMarker before name after)) :
    SoundPieces (insertMarker before name after) := by
  refine ⟨⟨?_, ?_⟩, ?_, ?_, hfits⟩
  · intro c hc
    simp only [insertMarker, List.mem_append, List.mem_cons, reduceCtorEq, false_or] at hc
    rcases hc with (hc | hc) | hc | hc
    · exact h.good.chars c (List.mem_append_left _ hc)
    · exact (spacing_good _).chars c hc
    · exact (spacing_good _).chars c hc
    · exact h.good.chars c (List.mem_append_right _ hc)
  · intro found hfound
    simp only [insertMarker, List.mem_append, List.mem_cons, Piece.marker.injEq, List.mem_map,
      reduceCtorEq, and_false, exists_false, or_false, false_or] at hfound
    rcases hfound with hfound | rfl | hfound
    · exact h.good.names found (List.mem_append_left _ hfound)
    · exact hname
    · exact h.good.names found (List.mem_append_right _ hfound)
  · have hnames : (markerNames (insertMarker before name after)).Perm
        (name :: markerNames (before ++ after)) := by
      simp [insertMarker, List.perm_middle]
    exact hnames.nodup_iff.mpr (List.nodup_cons.mpr ⟨hnew, h.distinct⟩)
  · have hunread : Unread (before ++ after) := h.unread
    apply unread_between
    · apply unread_append (unread_left hunread)
      intro _ found rest hsplit
      have hmem : Piece.marker found ∈ (spacing (render before).getLast?).map Piece.char := by
        simp [hsplit]
      simp at hmem
    · apply unread_append (unread_chars _)
      intro front found rest hsplit
      exact ⟨unread_right hunread front found rest hsplit, notRead_chars _ _ _⟩
    · intro other hother
      simp only [markerNames_append, markerNames_chars, List.nil_append] at hother
      apply notRead_spaced (unread_across hunread hother)
      exact h.good.names other (List.mem_append_right _ (mem_markerNames.mp hother))
    · exact notRead_spaced hharmless.own hname _
    · exact hharmless.others

/-- The first occurrence takes the text apart at the marker. -/
theorem SoundPieces.split (h : SoundPieces (before ++ .marker name :: after)) :
    findFirst (inlineCustomPromptDisplayText name) (render (before ++ .marker name :: after)) =
        some (render before).length ∧
      (render (before ++ .marker name :: after)).take (render before).length = render before ∧
      (render (before ++ .marker name :: after)).drop
        ((render before).length + (inlineCustomPromptDisplayText name).length) = render after := by
  refine ⟨findFirst_marker h.good (h.unread before name after rfl), ?_, ?_⟩
  · rw [render_append, List.take_left]
  · rw [render_append, render_cons, ← List.drop_drop, List.drop_left]
    exact List.drop_left

theorem replace_text {replacement : List Char} (h : SoundPieces (before ++ .marker name :: after)) :
    (replaceCustomPromptName (render (before ++ .marker name :: after)) name replacement).text =
      render (before ++ .marker replacement :: after) := by
  obtain ⟨hfirst, htake, hdrop⟩ := h.split
  rw [replaceCustomPromptName, hfirst]
  dsimp only
  rw [htake, hdrop, render_append, render_cons, List.append_assoc]
  rfl

theorem SoundPieces.rename {replacement : List Char}
    (h : SoundPieces (before ++ .marker name :: after)) (hname : GoodName replacement)
    (hnew : replacement ∉ markerNames (before ++ .marker name :: after))
    (hharmless : Harmless before replacement after)
    (hfits : Fits (before ++ .marker replacement :: after)) :
    SoundPieces (before ++ .marker replacement :: after) := by
  have hunread : Unread (before ++ .marker name :: after) := h.unread
  refine ⟨⟨?_, ?_⟩, ?_, ?_, hfits⟩
  · intro c hc
    apply h.good.chars c
    simpa using hc
  · intro found hfound
    by_cases heq : found = replacement
    · exact heq ▸ hname
    · apply h.good.names found
      simp only [List.mem_append, List.mem_cons, Piece.marker.injEq, heq, false_or] at hfound ⊢
      exact hfound.imp_right .inr
  · have hnames := h.distinct
    simp only [markerNames_append, markerNames_marker, List.mem_append, List.mem_cons,
      not_or] at hnew hnames ⊢
    rw [List.perm_middle.nodup_iff, List.nodup_cons] at hnames ⊢
    exact ⟨by simp [hnew.1, hnew.2.2], hnames.2⟩
  · apply unread_between (unread_left hunread)
    · have hrest : Unread ([.marker name] ++ after) := unread_right hunread
      exact unread_right hrest
    · exact fun other hother => unread_across hunread (by simp [hother])
    · exact hharmless.own
    · exact hharmless.others

/-- What the gap leaves of the pieces on either side. -/
theorem closeGap_spec (before after : List Piece) :
    ∃ taken dropped, before = (closeGap before after).1 ++ taken ∧
      after = dropped ++ (closeGap before after).2 ∧
      (taken = [] ∧ dropped = [] ∨
        (∃ c, isWhiteSpace c ∧ taken = [] ∧ dropped = [.char c]) ∨
        ∃ c, isWhiteSpace c ∧ taken = [.char c] ∧ dropped = []) := by
  unfold closeGap
  split
  · next h =>
    rw [Bool.and_eq_true] at h
    cases after with
    | nil => simp at h
    | cons piece after =>
      cases piece with
      | char c => exact ⟨[], [.char c], by simp, rfl, .inr (.inl ⟨c, h.1, rfl, rfl⟩)⟩
      | marker name => simp [Piece.isBlank] at h
  · split
    · next h =>
      rw [Bool.and_eq_true] at h
      cases before using List.reverseRecOn with
      | nil => simp at h
      | append_singleton before piece =>
        cases piece with
        | char c =>
          have hblank : isWhiteSpace c := by simpa [Piece.isBlank] using h.1
          exact ⟨[.char c], [], by simp, rfl, .inr (.inr ⟨c, hblank, rfl, rfl⟩)⟩
        | marker name => simp [Piece.isBlank] at h
    · exact ⟨[], [], by simp, rfl, .inl ⟨rfl, rfl⟩⟩

theorem closeGap_closes (before after : List Piece) :
    ClosesGap before after ((closeGap before after).1 ++ (closeGap before after).2) := by
  obtain ⟨taken, dropped, hbefore, hafter, hcases⟩ := closeGap_spec before after
  generalize (closeGap before after).1 = left at hbefore ⊢
  generalize (closeGap before after).2 = right at hafter ⊢
  subst hbefore hafter
  rcases hcases with ⟨rfl, rfl⟩ | ⟨c, hblank, rfl, rfl⟩ | ⟨c, hblank, rfl, rfl⟩
  · exact .inl (by simp)
  · exact .inr (.inl ⟨c, right, hblank, rfl, by simp⟩)
  · exact .inr (.inr ⟨c, left, hblank, rfl, by simp⟩)

/-- A marker is not blank at its end. -/
theorem lastBlank_eq (h : GoodPieces before) :
    (render before).getLast?.any isWhiteSpace = before.getLast?.any Piece.isBlank := by
  cases before using List.reverseRecOn with
  | nil => rfl
  | append_singleton before piece =>
    rw [render_append, List.getLast?_concat, render_cons, render_nil, List.append_nil]
    cases piece with
    | char c => simp [Piece.text, Piece.isBlank]
    | marker name =>
      have hname := h.names name (by simp)
      obtain ⟨c, hlast⟩ := Option.isSome_iff_exists.mp
        (List.getLast?_isSome.mpr hname.nonempty)
      have hmarker : (inlineCustomPromptIconPlaceholder :: name).getLast? = some c := by
        rw [List.getLast?_cons, hlast]
        rfl
      rw [Piece.text, display_of_good hname, List.getLast?_append, hmarker]
      simpa [Piece.isBlank] using hname.last hlast

theorem isEmpty_render (pieces : List Piece) : (render pieces).isEmpty = pieces.isEmpty := by
  cases pieces with
  | nil => rfl
  | cons piece pieces => cases piece <;> rfl

/-- Unless an icon comes behind the gap, the blank there is a typed one. -/
theorem removed_text (h : SoundPieces (before ++ .marker name :: after))
    (hicon : NoIconTaken before after) :
    (removeCustomPromptName (render (before ++ .marker name :: after)) name).text =
      render ((closeGap before after).1 ++ (closeGap before after).2) := by
  have hbefore : GoodPieces before := h.good.of_subset fun _ => List.mem_append_left _
  obtain ⟨hfirst, htake, hdrop⟩ := h.split
  have hguard : ((render after).head?.any isWhiteSpace &&
      (before.getLast?.any Piece.isBlank || before.isEmpty)) =
      (after.head?.any Piece.isBlank && (before.getLast?.any Piece.isBlank || before.isEmpty)) := by
    cases after with
    | nil => rfl
    | cons piece after =>
      cases piece with
      | char c => rfl
      | marker other =>
        obtain ⟨hnonempty, hnotBlank⟩ := hicon other after rfl
        have hempty : before.isEmpty = false := by simpa using hnonempty
        simp [hnotBlank, hempty]
  rw [removeCustomPromptName, hfirst]
  dsimp only
  rw [htake, hdrop, lastBlank_eq hbefore, isEmpty_render, isEmpty_render, hguard]
  unfold closeGap
  split
  · next hblank =>
    cases after with
    | nil => simp at hblank
    | cons piece after =>
      cases piece with
      | char c => simp [Piece.text]
      | marker other => simp [Piece.isBlank] at hblank
  · split
    · next hblank =>
      rw [Bool.and_eq_true] at hblank
      cases before using List.reverseRecOn with
      | nil => simp at hblank
      | append_singleton before piece =>
        cases piece with
        | char c => simp [Piece.text, List.dropLast_append_of_ne_nil]
        | marker other => simp [Piece.isBlank] at hblank
    · simp

theorem SoundPieces.remove (h : SoundPieces (before ++ .marker name :: after))
    (hharmless : HarmlessGap before after) :
    SoundPieces ((closeGap before after).1 ++ (closeGap before after).2) := by
  obtain ⟨taken, dropped, hbefore, hafter, hcases⟩ := closeGap_spec before after
  have hothers := hharmless.others
  generalize (closeGap before after).1 = left at hbefore hothers ⊢
  generalize (closeGap before after).2 = right at hafter hothers ⊢
  have hdropped : markerNames dropped = [] := by
    rcases hcases with ⟨-, rfl⟩ | ⟨c, -, -, rfl⟩ | ⟨c, -, -, rfl⟩ <;> rfl
  subst hbefore hafter
  have hunread : Unread (left ++ taken ++ .marker name :: (dropped ++ right)) := h.unread
  have hright : Unread right := by
    have hrest : Unread (left ++ taken ++ .marker name :: dropped ++ right) := by
      simpa using hunread
    exact unread_right hrest
  have hsublist : (left ++ right).Sublist (left ++ taken ++ .marker name :: (dropped ++ right)) := by
    apply (List.sublist_append_left left taken).append
    exact ((List.sublist_append_right dropped right).cons _)
  refine ⟨h.good.of_subset fun piece hpiece => hsublist.subset hpiece,
    h.distinct.sublist (hsublist.filterMap _), ?_, ?_⟩
  · apply unread_append (unread_left (unread_left hunread))
    intro front found rest hsplit
    refine ⟨hright front found rest hsplit, hothers found ?_⟩
    rw [markerNames_append, hdropped, List.nil_append]
    exact mem_markerNames.mpr (by simp [hsplit])
  · intro front found rest hsplit
    rcases append_eq_marker hsplit with ⟨others, hleft, -⟩ | ⟨others, hright, rfl⟩
    · exact h.fits front found (others ++ taken ++ .marker name :: (dropped ++ right))
        (by simp [hleft])
    · have hfits := h.fits (left ++ taken ++ .marker name :: (dropped ++ others)) found rest
        (by simp [hright])
      simp only [render_append, render_cons, byteLength_append] at hfits ⊢
      omega

/-- The occurrence of a prompt that stands in the text. -/
theorem occurrence_of_marker (h : SoundPieces (before ++ .marker name :: after))
    (content : List Char) :
    inlineCustomPromptOccurrence (render (before ++ .marker name :: after)) (name, content) =
      some
        { name := name, content := content, before := render before
          startOffset := byteLength (render before)
          endOffset :=
            byteLength (render before) + byteLength (inlineCustomPromptDisplayText name) } := by
  obtain ⟨hfirst, htake, -⟩ := h.split
  have hfits := h.fits before name after rfl
  rw [inlineCustomPromptOccurrence, hfirst, Option.map_some, htake]
  dsimp only
  rw [Nat.min_eq_left hfits, Nat.min_eq_left (Nat.le_of_add_right_le hfits)]

theorem display_length_pos (name : List Char) :
    0 < byteLength (inlineCustomPromptDisplayText name) := by
  have hicon := Char.utf8Size_pos inlineCustomPromptIconPlaceholder
  simp only [byteLength, inlineCustomPromptDisplayText, List.map_cons, List.sum_cons]
  omega

/-- Of two markers one ends before the other starts. -/
theorem markers_apart {front rest : List Piece}
    (hone : pieces = before ++ .marker name :: after)
    (hother : pieces = front ++ .marker other :: rest) (hne : name ≠ other) :
    byteLength (render before) + byteLength (inlineCustomPromptDisplayText name) ≤
        byteLength (render front) ∨
      byteLength (render front) + byteLength (inlineCustomPromptDisplayText other) ≤
        byteLength (render before) := by
  subst hone
  rcases append_eq_marker hother with ⟨between, rfl, -⟩ | ⟨between, hsplit, rfl⟩
  · right
    simp only [render_append, render_cons, byteLength_append, Piece.text]
    omega
  · cases between with
    | nil =>
      rw [List.nil_append, List.cons.injEq, Piece.marker.injEq] at hsplit
      exact absurd hsplit.1 hne
    | cons piece between =>
      rw [List.cons_append, List.cons.injEq] at hsplit
      obtain ⟨rfl, -⟩ := hsplit
      left
      simp only [render_append, render_cons, byteLength_append, Piece.text]
      omega

section Occurrences

variable {replacements : List (List Char × List Char)}

/-- Every prompt of the text is found where its marker is. -/
theorem exists_occurrence (h : SoundPieces pieces)
    (hnames : ∀ replacement ∈ replacements, replacement.1 ∈ markerNames pieces) :
    ∀ replacement ∈ replacements, ∃ before after,
      pieces = before ++ .marker replacement.1 :: after ∧
      inlineCustomPromptOccurrence (render pieces) replacement = some
        { name := replacement.1, content := replacement.2, before := render before
          startOffset := byteLength (render before)
          endOffset := byteLength (render before) +
            byteLength (inlineCustomPromptDisplayText replacement.1) } := by
  intro replacement hreplacement
  obtain ⟨before, after, rfl⟩ :=
    List.append_of_mem (mem_markerNames.mp (hnames replacement hreplacement))
  exact ⟨before, after, rfl, occurrence_of_marker h replacement.2⟩

/-- What is found are the prompts that were asked for. -/
theorem map_occurrences (h : SoundPieces pieces)
    (hnames : ∀ replacement ∈ replacements, replacement.1 ∈ markerNames pieces) :
    (replacements.filterMap (inlineCustomPromptOccurrence (render pieces))).map
      (fun occurrence => (occurrence.name, occurrence.content)) = replacements := by
  induction replacements with
  | nil => rfl
  | cons replacement replacements ih =>
    obtain ⟨before, after, -, hfound⟩ := exists_occurrence h hnames replacement List.mem_cons_self
    rw [List.filterMap_cons_some hfound, List.map_cons,
      ih fun other hother => hnames other (List.mem_cons_of_mem _ hother)]

theorem occurrences_once (h : SoundPieces pieces)
    (hnames : (replacements.map (·.1)).Perm (markerNames pieces)) :
    OccursOnce pieces replacements
      (inlineCustomPromptOccurrences (render pieces) replacements) := by
  have hperm : (inlineCustomPromptOccurrences (render pieces) replacements).Perm
      (replacements.filterMap (inlineCustomPromptOccurrence (render pieces))) :=
    List.mergeSort_perm _ _
  have hmem : ∀ replacement ∈ replacements, replacement.1 ∈ markerNames pieces :=
    fun replacement hreplacement => hnames.mem_iff.mp (List.mem_map_of_mem hreplacement)
  have honce := (hperm.map fun occurrence => (occurrence.name, occurrence.content)).trans
    (.of_eq (map_occurrences h hmem))
  have hspelled : ∀ occurrence ∈ inlineCustomPromptOccurrences (render pieces) replacements,
      ∃ before after, pieces = before ++ .marker occurrence.name :: after ∧
        occurrence.before = render before ∧
        occurrence.startOffset = byteLength (render before) ∧
        occurrence.endOffset = byteLength (render before) +
          byteLength (inlineCustomPromptDisplayText occurrence.name) := by
    intro occurrence hoccurrence
    obtain ⟨replacement, hreplacement, hfound⟩ :=
      List.mem_filterMap.mp (hperm.mem_iff.mp hoccurrence)
    obtain ⟨before, after, hsplit, hsome⟩ := exists_occurrence h hmem replacement hreplacement
    rw [hsome, Option.some.injEq] at hfound
    subst hfound
    exact ⟨before, after, hsplit, rfl, rfl, rfl⟩
  refine ⟨honce, ?_, hspelled⟩
  -- they are sorted by their starts, and of two different markers one ends before the other starts
  have hsorted : (inlineCustomPromptOccurrences (render pieces) replacements).Pairwise
      fun one other => decide (one.startOffset ≤ other.startOffset) = true :=
    List.pairwise_mergeSort (by simp; omega) (by simp; omega) _
  have hdistinct : (inlineCustomPromptOccurrences (render pieces) replacements).Pairwise
      fun one other => one.name ≠ other.name := by
    have hall := (honce.map (·.1)).trans hnames
    rw [List.map_map] at hall
    exact List.pairwise_map.mp (hall.nodup_iff.mpr h.distinct)
  refine (hsorted.and hdistinct).imp_of_mem ?_
  rintro one other hone hother ⟨hle, hne⟩
  obtain ⟨before, after, hsplit, -, hstart, hend⟩ := hspelled one hone
  obtain ⟨front, rest, hotherSplit, -, hotherStart, hotherEnd⟩ := hspelled other hother
  have hpositive := display_length_pos other.name
  have hapart := markers_apart hsplit hotherSplit hne
  rw [decide_eq_true_eq] at hle
  omega

end Occurrences

theorem EditorRun.sound {start : List Char} (run : EditorRun start text pieces) :
    text = render pieces ∧ SoundPieces pieces := by
  induction run with
  | start h =>
    refine ⟨(render_chars start).symm, ⟨⟨?_, by simp⟩, by simp, unread_chars start, ?_⟩⟩
    · intro c hc heq
      rw [List.mem_map] at hc
      obtain ⟨typed, htyped, hsame⟩ := hc
      cases hsame
      exact h (heq ▸ htyped)
    · intro before name after hsplit
      have hmem : Piece.marker name ∈ start.map Piece.char := by simp [hsplit]
      simp at hmem
  | insert run hname hnew hoffset hharmless hfits ih =>
    exact ⟨insert_text hoffset, ih.2.insert hname hnew hharmless hfits⟩
  | remove run hharmless ih =>
    obtain ⟨rfl, hsound⟩ := ih
    exact ⟨removed_text hsound hharmless.icon, hsound.remove hharmless⟩
  | rename run hname hnew hharmless hfits ih =>
    obtain ⟨rfl, hsound⟩ := ih
    exact ⟨replace_text hsound, hsound.rename hname hnew hharmless hfits⟩
  | removeAbsent run hname hread ih =>
    obtain ⟨rfl, hsound⟩ := ih
    exact ⟨(absent_text hsound.good hname hread []).1, hsound⟩
  | renameAbsent run hname hread replacement ih =>
    obtain ⟨rfl, hsound⟩ := ih
    exact ⟨(absent_text hsound.good hname hread replacement).2, hsound⟩

/-- After any harmless edits the markers have nothing to do with each other. -/
theorem markers_are_independent {start : List Char} (run : EditorRun start text pieces) :
    MarkersIndependent text pieces := by
  obtain ⟨rfl, hsound⟩ := run.sound
  refine ⟨rfl, ?_, ?_, fun _ hnames => occurrences_once hsound hnames⟩
  · rintro before name after rfl hicon
    exact ⟨_, closeGap_closes before after, removed_text hsound hicon⟩
  · rintro before original after replacement rfl
    exact replace_text hsound

theorem fits_of_length (h : byteLength (render pieces) ≤ i32Max) : Fits pieces := by
  rintro before name after rfl
  simp only [render_append, render_cons, byteLength_append, Piece.text] at h
  omega

end Pieces

/-- A prompt in front of a word, and one with a longer name behind it. -/
theorem markers_of_two_prompts :
    MarkersIndependent (insertCustomPromptNameAtByteOffset
        (insertCustomPromptNameAtByteOffset ['x'] 0 ['a']).text 6 ['a', 'b']).text
      (insertMarker [.marker ['a'], .char ' ', .char 'x'] ['a', 'b'] []) := by
  have hfirst : EditorRun ['x'] (insertCustomPromptNameAtByteOffset ['x'] 0 ['a']).text
      [.marker ['a'], .char ' ', .char 'x'] :=
    @EditorRun.insert ['x'] ['x'] [] [.char 'x'] 0 ['a'] (.start (by decide))
      ⟨by decide, by decide, by decide⟩ (by decide) (by decide) ⟨trivial, by decide⟩
      (fits_of_length (by decide))
  exact markers_are_independent (@EditorRun.insert ['x'] _ [.marker ['a'], .char ' ', .char 'x'] []
    6 ['a', 'b'] hfirst ⟨by decide, by decide, by decide⟩ (by decide) (by decide)
    ⟨⟨by decide, trivial⟩, by decide⟩ (fits_of_length (by decide)))

/-- A prompt with a longer name in front of a word, and one with a shorter name behind it. -/
def confusedMarkers : List Piece :=
  [.marker ['a', 'b'], .char ' ', .char 'x', .char ' ', .marker ['a']]

/-- The shorter name is read at the marker of the longer one; and the icon of a marker goes with the
marker in front of it. -/
theorem markers_are_confused :
    ((insertCustomPromptNameAtByteOffset
        (insertCustomPromptNameAtByteOffset ['x'] 0 ['a', 'b']).text 7 ['a']).text =
          render confusedMarkers ∧
      (removeCustomPromptName (render confusedMarkers) ['a']).text =
        ['b', ' ', 'x', ' ', '\u3000', 'a'] ∧
      ¬MarkersIndependent (render confusedMarkers) confusedMarkers) ∧
    (insertCustomPromptNameAtByteOffset
        (insertCustomPromptNameAtByteOffset [] 0 ['a']).text 0 ['b']).text =
          render [.marker ['b'], .marker ['a']] ∧
      (removeCustomPromptName (render [.marker ['b'], .marker ['a']]) ['b']).text = ['a'] := by
  refine ⟨⟨by decide +kernel, by decide +kernel, fun h => ?_⟩, by decide +kernel, by decide +kernel⟩
  have honce := h.occurrences [(['a', 'b'], []), (['a'], [])] (by decide)
  have hsorted : inlineCustomPromptOccurrences (render confusedMarkers)
      [(['a', 'b'], []), (['a'], [])] = ([(['a', 'b'], []), (['a'], [])].filterMap
        (inlineCustomPromptOccurrence (render confusedMarkers))) :=
    List.mergeSort_of_pairwise (by decide +kernel)
  have hincreasing := honce.increasing
  rw [hsorted] at hincreasing
  revert hincreasing
  decide +kernel

end ArtForgeStudio.Prompts
