import ArtForgeStudio.Library.Occurrences
import ArtForgeStudio.Prompts.Paragraphs

/-! # Prompts in the text

The user's own prompts stand in a text as markers. Before the text is sent, one marker after the
other is replaced by what the prompt says, each in the text that came of the replacement before. So
what a prompt says is searched for the markers of the prompts behind it.
-/

namespace ArtForgeStudio.Prompts

open ArtForgeStudio.Api ArtForgeStudio.Occurrences

/-- In place of the icon in front of a name. -/
def inlineCustomPromptIconPlaceholder : Char := '\u3000'

def inlineCustomPromptDisplayText (name : List Char) : List Char :=
  inlineCustomPromptIconPlaceholder :: trimChars name

/-- The text, and what the prompts say that are not in it; a name and a content at a time. -/
def composeStep (state : List Char × List (List Char)) (replacement : List Char × List Char) :
    List Char × List (List Char) :=
  let content := trimChars replacement.2
  if content = [] then state
  else
    let display := inlineCustomPromptDisplayText replacement.1
    match findFirst display state.1 with
    | some _ => (replaceFirst display content state.1, state.2)
    | none => (state.1, state.2 ++ [content])

def composeLoop (inputPrompt : List Char) (replacements : List (List Char × List Char)) :
    List Char × List (List Char) :=
  replacements.foldl composeStep (inputPrompt, [])

/-- What is missing stands in front of the text, if there is a text. -/
def finishComposed (composed : List Char) (missing : List (List Char)) : List Char :=
  let composed := trimChars composed
  if composed = [] ∨ composed = ['/', '/'] then ['\n', '\n'].intercalate missing
  else if missing = [] then composed
  else ['\n', '\n'].intercalate (missing ++ [composed])

def composeInlineCustomPrompts (inputPrompt : List Char)
    (replacements : List (List Char × List Char)) : List Char :=
  let state := composeLoop inputPrompt replacements
  finishComposed state.1 state.2

/-- Where the marker of a prompt lies in the text, and what is put in its place. -/
def spotOf (text : List Char) (replacement : List Char × List Char) : Option (Spot Char) :=
  let display := inlineCustomPromptDisplayText replacement.1
  (findFirst display text).map fun start => ⟨start, display.length, trimChars replacement.2⟩

def spotsOf (text : List Char) (replacements : List (List Char × List Char)) : List (Spot Char) :=
  replacements.filterMap (spotOf text)

/-- What the prompts say whose markers are not in the text. -/
def missingOf (text : List Char) (replacements : List (List Char × List Char)) : List (List Char) :=
  (replacements.filter fun replacement =>
    findFirst (inlineCustomPromptDisplayText replacement.1) text = none).map (trimChars ·.2)

/-- The first markers of the text are apart, and after each step of the loop it is as if the prompts
so far had been put in their places at once. -/
structure SubstitutesAtOnce (text : List Char) (replacements : List (List Char × List Char)) :
    Prop where
  apart : (spotsOf text replacements).Pairwise Spot.Apart
  steps : ∀ done, done <+: replacements →
    composeLoop text done = (substitute (spotsOf text done) text, missingOf text done)
  result : composeInlineCustomPrompts text replacements =
    finishComposed (substitute (spotsOf text replacements) text) (missingOf text replacements)

/-- Every prompt says something; the first markers of the text are apart; and when some prompts are
in their places, the first marker of the next one is still the one of the text. -/
structure Undisturbed (text : List Char) (replacements : List (List Char × List Char)) :
    Prop where
  contents : ∀ replacement ∈ replacements, trimChars replacement.2 ≠ []
  apart : (spotsOf text replacements).Pairwise Spot.Apart
  places : ∀ done next, done ++ [next] <+: replacements →
    findFirst (inlineCustomPromptDisplayText next.1) (substitute (spotsOf text done) text) =
      (findFirst (inlineCustomPromptDisplayText next.1) text).map fun start =>
        (substitute (spotsOf text done) (text.take start)).length

section Steps

variable {text : List Char} {replacements done : List (List Char × List Char)}
  {next : List Char × List Char} {spot : Spot Char} {start : Nat}

theorem spotsOf_concat (text : List Char) (done : List (List Char × List Char))
    (next : List Char × List Char) :
    spotsOf text (done ++ [next]) = spotsOf text done ++ (spotOf text next).toList := by
  rw [spotsOf, List.filterMap_append]
  cases h : spotOf text next <;> simp [spotsOf, h]

theorem spotOf_of_some (h : findFirst (inlineCustomPromptDisplayText next.1) text = some start) :
    spotOf text next =
      some ⟨start, (inlineCustomPromptDisplayText next.1).length, trimChars next.2⟩ := by
  rw [spotOf, h]
  rfl

theorem spotOf_of_none (h : findFirst (inlineCustomPromptDisplayText next.1) text = none) :
    spotOf text next = none := by
  rw [spotOf, h]
  rfl

theorem missingOf_concat_some
    (h : findFirst (inlineCustomPromptDisplayText next.1) text = some start) :
    missingOf text (done ++ [next]) = missingOf text done := by
  simp [missingOf, h]

theorem missingOf_concat_none (h : findFirst (inlineCustomPromptDisplayText next.1) text = none) :
    missingOf text (done ++ [next]) = missingOf text done ++ [trimChars next.2] := by
  simp [missingOf, h]

theorem spot_length_pos (h : spot ∈ spotsOf text replacements) : 0 < spot.length := by
  obtain ⟨replacement, -, hspot⟩ := List.mem_filterMap.mp h
  obtain ⟨start, -, rfl⟩ := Option.map_eq_some_iff.mp hspot
  exact Nat.succ_pos _

/-- The first character of a content is not white space, unlike that of a marker. -/
theorem trimChars_head {content : List Char} {c : Char} (h : (trimChars content).head? = some c) :
    isWhiteSpace c = false := by
  have hprefix : trimChars content <+: content.dropWhile isWhiteSpace :=
    List.rdropWhile_prefix isWhiteSpace _
  have hhead : (content.dropWhile isWhiteSpace).head? = some c := by
    obtain ⟨rest, hrest⟩ := hprefix
    rw [← hrest, List.head?_append, h]
    rfl
  have hkept : content.dropWhile isWhiteSpace ≠ [] := by
    intro hnil
    simp [hnil] at hhead
  rw [List.head?_eq_some_head hkept, Option.some.injEq] at hhead
  exact hhead ▸ List.head_dropWhile_not _ hkept

theorem composeLoop_concat (text : List Char) (done : List (List Char × List Char))
    (next : List Char × List Char) :
    composeLoop text (done ++ [next]) = composeStep (composeLoop text done) next := by
  rw [composeLoop, List.foldl_append]
  rfl

/-- The text around the marker when some prompts are in their places: it is the same before and
after the next one is. -/
theorem exists_substitute_next (hapart : (spotsOf text (done ++ [next])).Pairwise Spot.Apart)
    (h : findFirst (inlineCustomPromptDisplayText next.1) text = some start) :
    ∃ before behind, before.length = (substitute (spotsOf text done) (text.take start)).length ∧
      substitute (spotsOf text done) text =
        before ++ inlineCustomPromptDisplayText next.1 ++ behind ∧
      substitute (spotsOf text (done ++ [next])) text = before ++ trimChars next.2 ++ behind := by
  let display := inlineCustomPromptDisplayText next.1
  have hsplit : text.take start ++ display ++ text.drop (start + display.length) = text :=
    split_of_findFirst h
  have hstart : (text.take start).length = start := by
    rw [List.length_take, Nat.min_eq_left (findFirst_eq_some_iff.mp h).1]
  have hspots : spotsOf text (done ++ [next]) =
      spotsOf text done ++ [⟨start, display.length, trimChars next.2⟩] := by
    rw [spotsOf_concat, spotOf_of_some h]
    rfl
  rw [hspots, List.pairwise_append] at hapart
  have hfree : ∀ other ∈ spotsOf text done,
      0 < other.length ∧ other.Apart ⟨start, display.length, trimChars next.2⟩ := fun other hother =>
    ⟨spot_length_pos hother, hapart.2.2 other hother _ List.mem_cons_self⟩
  obtain ⟨hafter, hbefore⟩ := @substitute_concat _ (text.take start) display
    (text.drop (start + display.length)) (spotsOf text done) ⟨start, display.length, trimChars next.2⟩
    hstart rfl (Nat.succ_pos _) hfree
  rw [hsplit] at hafter hbefore
  exact ⟨_, _, rfl, hbefore, hspots ▸ hafter⟩

/-- A marker that lies before the one of the text would be replaced in its stead: then a character of
the content stands where the white space of a marker was. -/
theorem place_of_replaceFirst {before behind content display found : List Char} {c : Char}
    (hcontent : content.head? = some c) (hblack : isWhiteSpace c = false)
    (hdisplay : display = inlineCustomPromptIconPlaceholder :: found)
    (hfirst : findFirst display (before ++ display ++ behind) = some start)
    (hsame : replaceFirst display content (before ++ display ++ behind) =
      before ++ content ++ behind) : start = before.length := by
  obtain ⟨-, hprefix, hleast⟩ := findFirst_eq_some_iff.mp hfirst
  rw [replaceFirst_of_findFirst hfirst] at hsame
  have hle : start ≤ before.length := by
    by_contra hlater
    refine hleast before.length (Nat.lt_of_not_le hlater) ?_
    rw [List.append_assoc, List.drop_left]
    exact List.prefix_append _ _
  by_contra hne
  have hlt : start < before.length := Nat.lt_of_le_of_ne hle hne
  have hmarker : before[start]? = some inlineCustomPromptIconPlaceholder := by
    obtain ⟨rest, hrest⟩ := hprefix
    have hhead := congrArg (·[0]?) hrest
    simp only [hdisplay, List.cons_append, List.getElem?_cons_zero, List.getElem?_drop,
      Nat.add_zero] at hhead
    rw [List.append_assoc, List.getElem?_append_left hlt] at hhead
    exact hhead.symm
  have hnew : before[start]? = some c := by
    have hget := congrArg (·[start]?) hsame
    have htake : ((before ++ display ++ behind).take start).length = start := by
      simp only [List.length_take, List.length_append]
      omega
    simp only [List.append_assoc] at hget htake
    rw [List.getElem?_append_right (Nat.le_of_eq htake), htake, Nat.sub_self,
      List.getElem?_append_left hlt, ← List.head?_eq_getElem?, List.head?_append, hcontent] at hget
    exact hget.symm
  rw [hmarker, Option.some.injEq] at hnew
  rw [← hnew] at hblack
  exact absurd hblack (by decide)

/-- A step puts the prompt in its place exactly if the prompt says something and the first marker is
the one of the text. -/
theorem composeStep_iff (hapart : (spotsOf text (done ++ [next])).Pairwise Spot.Apart)
    (hstate : composeLoop text done = (substitute (spotsOf text done) text, missingOf text done)) :
    composeLoop text (done ++ [next]) =
        (substitute (spotsOf text (done ++ [next])) text, missingOf text (done ++ [next])) ↔
      trimChars next.2 ≠ [] ∧
        findFirst (inlineCustomPromptDisplayText next.1) (substitute (spotsOf text done) text) =
          (findFirst (inlineCustomPromptDisplayText next.1) text).map fun start =>
            (substitute (spotsOf text done) (text.take start)).length := by
  rw [composeLoop_concat, hstate]
  unfold composeStep
  dsimp only
  cases htext : findFirst (inlineCustomPromptDisplayText next.1) text with
  | none =>
    rw [spotsOf_concat, spotOf_of_none htext, missingOf_concat_none htext, Option.map_none,
      Option.toList_none, List.append_nil]
    by_cases hblank : trimChars next.2 = []
    · simp [hblank]
    · cases findFirst (inlineCustomPromptDisplayText next.1)
          (substitute (spotsOf text done) text) with
      | none => simp [hblank]
      | some found => simp [hblank]
  | some start =>
    obtain ⟨before, behind, hplace, hbefore, hafter⟩ := exists_substitute_next hapart htext
    rw [missingOf_concat_some htext, Option.map_some, ← hplace, hafter, hbefore]
    by_cases hblank : trimChars next.2 = []
    · -- an empty content would take the marker away
      have hshorter :
          before ++ inlineCustomPromptDisplayText next.1 ++ behind ≠ before ++ behind := by
        intro heq
        have hlength := congrArg List.length heq
        simp only [List.length_append, inlineCustomPromptDisplayText, List.length_cons] at hlength
        omega
      simpa [hblank] using hshorter
    · rw [if_neg hblank]
      cases hfound : findFirst (inlineCustomPromptDisplayText next.1)
          (before ++ inlineCustomPromptDisplayText next.1 ++ behind) with
      | none => simp
      | some found =>
        obtain ⟨c, rest, hcontent⟩ := List.exists_cons_of_ne_nil hblank
        have hhead : (trimChars next.2).head? = some c := by rw [hcontent, List.head?_cons]
        simp only [Prod.mk.injEq, and_true, ne_eq, hblank, not_false_eq_true, true_and,
          Option.some.injEq]
        constructor
        · exact place_of_replaceFirst hhead (trimChars_head hhead) rfl hfound
        · rintro rfl
          rw [replaceFirst_of_findFirst hfound, ← List.length_append, List.drop_left,
            List.append_assoc before, List.take_left]

theorem spotsOf_sublist (h : done <+: replacements) :
    (spotsOf text done).Sublist (spotsOf text replacements) := h.sublist.filterMap _

theorem composeLoop_nil (text : List Char) :
    composeLoop text [] = (substitute (spotsOf text []) text, missingOf text []) := by
  have htext : substitute (spotsOf text []) text = text := substituteFrom_free (by simp [spotsOf])
  rw [htext]
  rfl

theorem Undisturbed.steps (h : Undisturbed text replacements) (hdone : done <+: replacements) :
    composeLoop text done = (substitute (spotsOf text done) text, missingOf text done) := by
  induction done using List.reverseRecOn with
  | nil => exact composeLoop_nil text
  | append_singleton done next ih =>
    have hbefore := ih ((List.prefix_append done [next]).trans hdone)
    have hnext : next ∈ replacements := hdone.subset (by simp)
    apply (composeStep_iff (h.apart.sublist (spotsOf_sublist hdone)) hbefore).mpr
    exact ⟨h.contents next hnext, h.places done next hdone⟩

theorem SubstitutesAtOnce.step (h : SubstitutesAtOnce text replacements)
    (hdone : done ++ [next] <+: replacements) :
    trimChars next.2 ≠ [] ∧
      findFirst (inlineCustomPromptDisplayText next.1) (substitute (spotsOf text done) text) =
        (findFirst (inlineCustomPromptDisplayText next.1) text).map fun start =>
          (substitute (spotsOf text done) (text.take start)).length := by
  apply (composeStep_iff (h.apart.sublist (spotsOf_sublist hdone)) (h.steps done ?_)).mp
  · exact h.steps _ hdone
  · exact (List.prefix_append done [next]).trans hdone

/-- The loop puts the prompts in their places at once exactly if no prompt disturbs another. -/
theorem substitutesAtOnce_iff :
    SubstitutesAtOnce text replacements ↔ Undisturbed text replacements := by
  constructor
  · intro h
    refine ⟨?_, h.apart, fun done next hdone => (h.step hdone).2⟩
    intro replacement hmem
    obtain ⟨done, rest, hsplit⟩ := List.append_of_mem hmem
    have hdone : done ++ [replacement] <+: replacements := ⟨rest, by simp [hsplit]⟩
    exact (h.step hdone).1
  · intro h
    refine ⟨h.apart, fun done hdone => h.steps hdone, ?_⟩
    rw [composeInlineCustomPrompts, h.steps (List.prefix_refl _)]

/-- Prompts that are put in their places at once can be given in any order. -/
theorem SubstitutesAtOnce.perm {other : List (List Char × List Char)}
    (h : SubstitutesAtOnce text replacements) (hother : SubstitutesAtOnce text other)
    (hperm : other.Perm replacements) :
    (composeLoop text other).1 = (composeLoop text replacements).1 := by
  rw [h.steps _ (List.prefix_refl _), hother.steps _ (List.prefix_refl _)]
  exact substitute_perm (hperm.filterMap _) (fun _ => spot_length_pos) h.apart text

/-- In whatever order the prompts come, they are put in their places at once, and the text is the
same, exactly if in no order one of them disturbs another. -/
theorem prompts_are_substituted_at_once_iff (text : List Char)
    (replacements : List (List Char × List Char)) :
    (∀ ordered, ordered.Perm replacements → SubstitutesAtOnce text ordered ∧
      (composeLoop text ordered).1 = (composeLoop text replacements).1) ↔
    ∀ ordered, ordered.Perm replacements → Undisturbed text ordered := by
  constructor
  · exact fun h ordered hperm => substitutesAtOnce_iff.mp (h ordered hperm).1
  · intro h ordered hperm
    have hordered := substitutesAtOnce_iff.mpr (h ordered hperm)
    have hsame := substitutesAtOnce_iff.mpr (h replacements (List.Perm.refl _))
    exact ⟨hordered, hsame.perm hordered hperm⟩

end Steps

/-- Two prompts, the first of which ends in the marker of the second. -/
def quotingPrompts : List (List Char × List Char) :=
  [(['a'], ['x', '\u3000', 'b']), (['b'], ['B'])]

/-- Neither marker lies in the other. In the text the marker of the second prompt stays, and what the
first prompt says is rewritten. -/
theorem content_is_taken_for_a_marker :
    (quotingPrompts.Pairwise fun one other =>
      ¬inlineCustomPromptDisplayText one.1 <:+: inlineCustomPromptDisplayText other.1 ∧
        ¬inlineCustomPromptDisplayText other.1 <:+: inlineCustomPromptDisplayText one.1) ∧
    composeInlineCustomPrompts ['\u3000', 'a', ' ', '\u3000', 'b'] quotingPrompts =
      ['x', 'B', ' ', '\u3000', 'b'] ∧
    ¬SubstitutesAtOnce ['\u3000', 'a', ' ', '\u3000', 'b'] quotingPrompts := by
  refine ⟨by decide +kernel, by decide +kernel, fun h => ?_⟩
  have hsteps := h.steps _ (List.prefix_refl _)
  revert hsteps
  decide +kernel

end ArtForgeStudio.Prompts
