import ArtForgeStudio.Deliveries.Staging

/-! # The paragraphs of a prompt

What the display of a prompt shows of a text and of what is appended to it. A blank line is two line
feeds, so a line feed at the end of the text moves over to the paragraph behind it.
-/

namespace ArtForgeStudio.Prompts

open ArtForgeStudio.Api ArtForgeStudio.Deliveries

/-- The display leaves the paragraph out. -/
def isHidden (part : List Char) : Bool :=
  hiddenPrefixes.any fun hidden => hidden.toList.isPrefixOf (part.dropWhile isWhiteSpace)

def shown (text : List Char) : List (List Char) := (paragraphs text).filter fun part => !isHidden part

def Blank (text : List Char) : Prop := ∀ c ∈ text, isWhiteSpace c = true

def trimChars (text : List Char) : List Char :=
  (text.dropWhile isWhiteSpace).rdropWhile isWhiteSpace

theorem displayGenerationPrompt_toList (prompt : String) : (displayGenerationPrompt prompt).toList =
    trimChars (['\n', '\n'].intercalate (shown (unixLines prompt.toList))) := by
  rw [displayGenerationPrompt, trim_toList, String.toList_ofList]
  rfl

section Text

variable {text rest part tail : List Char} {c : Char}

theorem trimChars_append (h : Blank tail) : trimChars (text ++ tail) = trimChars text := by
  rw [trimChars, trimChars, List.dropWhile_append]
  have hdrop : tail.dropWhile isWhiteSpace = [] := List.dropWhile_eq_nil_iff.mpr h
  split
  · rename_i hempty
    rw [hdrop, List.isEmpty_iff.mp hempty]
  · induction tail using List.reverseRecOn with
    | nil => rw [List.append_nil]
    | append_singleton tail c ih =>
      have htail : Blank tail := fun c hc => h c (List.mem_append_left _ hc)
      rw [← List.append_assoc, List.rdropWhile_concat_pos _ _ _
        (h c (List.mem_append_right _ (List.mem_singleton_self c)))]
      exact ih htail (List.dropWhile_eq_nil_iff.mpr htail)

/-- The characters that are not white space. -/
def ink (text : List Char) : Nat := text.countP fun c => !isWhiteSpace c

theorem ink_eq_zero : ink text = 0 ↔ Blank text := by
  simp [ink, List.countP_eq_zero, Blank]

theorem ink_append (text tail : List Char) : ink (text ++ tail) = ink text + ink tail :=
  List.countP_append

theorem trimChars_split (text : List Char) :
    ∃ left right, Blank left ∧ Blank right ∧ text = left ++ (trimChars text ++ right) := by
  refine ⟨text.takeWhile isWhiteSpace, (text.dropWhile isWhiteSpace).rtakeWhile isWhiteSpace,
    fun c hc => List.mem_takeWhile_imp hc, fun c hc => List.mem_rtakeWhile_imp hc, ?_⟩
  rw [trimChars, List.rdropWhile_append_rtakeWhile, List.takeWhile_append_dropWhile]

theorem ink_trimChars (text : List Char) : ink (trimChars text) = ink text := by
  obtain ⟨left, right, hleft, hright, hsplit⟩ := trimChars_split text
  conv_rhs => rw [hsplit, ink_append, ink_append, ink_eq_zero.mpr hleft, ink_eq_zero.mpr hright]
  omega

theorem isHidden_newline (part : List Char) : isHidden ('\n' :: part) = isHidden part := rfl

theorem isHidden_white (hc : isWhiteSpace c = true) : isHidden (c :: part) = isHidden part := by
  rw [isHidden, isHidden, List.dropWhile_cons_of_pos hc]

theorem isHidden_blank (h : Blank part) : isHidden part = false := by
  rw [isHidden, List.dropWhile_eq_nil_iff.mpr h]
  decide

theorem dropWhile_append_singleton (h : ¬Blank part) (c : Char) :
    (part ++ [c]).dropWhile isWhiteSpace = part.dropWhile isWhiteSpace ++ [c] := by
  rw [List.dropWhile_append, if_neg]
  rw [List.isEmpty_iff]
  exact fun hnil => h (List.dropWhile_eq_nil_iff.mp hnil)

theorem isHidden_append (h : isHidden part = true) (c : Char) : isHidden (part ++ [c]) = true := by
  have hblank : ¬Blank part := fun hblank => by
    rw [isHidden_blank hblank] at h
    contradiction
  unfold isHidden at *
  rw [dropWhile_append_singleton hblank]
  obtain ⟨hidden, hmem, hprefix⟩ := List.any_eq_true.mp h
  refine List.any_eq_true.mpr ⟨hidden, hmem, ?_⟩
  rw [List.isPrefixOf_iff_prefix] at *
  exact hprefix.trans (List.prefix_append _ _)

/-- A line feed at the end hides nothing and shows nothing. -/
theorem isHidden_append_newline (part : List Char) :
    isHidden (part ++ ['\n']) = isHidden part := by
  by_cases hblank : Blank part
  · have htail : Blank (part ++ ['\n']) := by
      intro c hc
      rcases List.mem_append.mp hc with hc | hc
      · exact hblank c hc
      · rw [List.mem_singleton.mp hc]
        decide
    rw [isHidden_blank hblank, isHidden_blank htail]
  · rw [Bool.eq_iff_iff]
    refine ⟨fun h => ?_, fun h => isHidden_append h '\n'⟩
    unfold isHidden at *
    rw [dropWhile_append_singleton hblank] at h
    obtain ⟨hidden, hmem, hprefix⟩ := List.any_eq_true.mp h
    refine List.any_eq_true.mpr ⟨hidden, hmem, ?_⟩
    rw [List.isPrefixOf_iff_prefix] at *
    rcases List.prefix_concat_iff.mp hprefix with heq | hprefix
    · have hlast : ∀ hidden ∈ hiddenPrefixes, hidden.toList.getLast? ≠ some '\n' := by decide
      exact absurd (by rw [heq, List.getLast?_concat]) (hlast hidden hmem)
    · exact hprefix

/-- The blank line does not start at the first of these characters. -/
def Single (c : Char) (rest : List Char) : Prop := c = '\n' → rest.head? ≠ some '\n'

theorem exists_paragraphs (text : List Char) :
    ∃ first others, paragraphs text = first :: others := by
  fun_cases paragraphs text with
  | case1 rest => exact ⟨_, _, rfl⟩
  | case2 c rest first others hnot heq => exact ⟨_, _, rfl⟩
  | case3 c rest hnot heq => exact ⟨_, _, rfl⟩
  | case4 => exact ⟨_, _, rfl⟩

theorem paragraphs_cons {first : List Char} {others : List (List Char)} (hc : Single c rest)
    (h : paragraphs rest = first :: others) : paragraphs (c :: rest) = (c :: first) :: others := by
  rw [paragraphs, h]
  rintro rest' rfl rfl
  exact hc rfl rfl

/-- Text is taken apart in blank lines and in single characters. -/
theorem paragraphs_induction {P : List Char → Prop} (nil : P [])
    (blank : ∀ rest, P rest → P ('\n' :: '\n' :: rest))
    (single : ∀ c rest, Single c rest → P rest → P (c :: rest)) (text : List Char) : P text := by
  induction text using paragraphs.induct with
  | case1 rest ih => exact blank rest ih
  | case2 c rest hnot first others heq ih =>
    refine single c rest (fun hc hhead => ?_) ih
    obtain ⟨rest', hrest⟩ := List.head?_eq_some_iff.mp hhead
    exact hnot rest' hc hrest
  | case3 c rest hnot heq =>
    obtain ⟨first, others, hsome⟩ := exists_paragraphs rest
    rw [hsome] at heq
    contradiction
  | case4 => exact nil

theorem intercalate_paragraphs (text : List Char) :
    ['\n', '\n'].intercalate (paragraphs text) = text := by
  induction text using paragraphs_induction with
  | nil => rfl
  | blank rest ih =>
    obtain ⟨first, others, heq⟩ := exists_paragraphs rest
    rw [paragraphs, heq, List.intercalate_cons_cons, ← heq, ih]
    rfl
  | single c rest hc ih =>
    obtain ⟨first, others, heq⟩ := exists_paragraphs rest
    rw [paragraphs_cons hc heq]
    rw [heq] at ih
    cases others with
    | nil =>
      rw [List.intercalate_singleton] at *
      rw [ih]
    | cons next others =>
      rw [List.intercalate_cons_cons] at *
      rw [← ih]
      rfl

/-- A blank line and more behind a text: either its paragraphs are followed by the others, or its
last line feed goes over to them. -/
theorem paragraphs_append (hrest : rest.head? ≠ some '\n') (text : List Char) :
    paragraphs (text ++ '\n' :: '\n' :: rest) = paragraphs text ++ paragraphs rest ∨
      ∃ init last first others, paragraphs text = init ++ [last ++ ['\n']] ∧
        paragraphs rest = first :: others ∧
        paragraphs (text ++ '\n' :: '\n' :: rest) = init ++ last :: ('\n' :: first) :: others := by
  induction text using paragraphs_induction with
  | nil => exact .inl (by rw [List.nil_append, paragraphs]; rfl)
  | blank text ih =>
    rw [List.cons_append, List.cons_append, paragraphs, paragraphs]
    rcases ih with heq | ⟨init, last, first, others, htext, hrest, heq⟩
    · exact .inl (by rw [heq, List.cons_append])
    · exact .inr ⟨[] :: init, last, first, others, by rw [htext, List.cons_append], hrest,
        by rw [heq, List.cons_append]⟩
  | single c text hc ih =>
    obtain ⟨first, others, hfirst⟩ := exists_paragraphs text
    rw [paragraphs_cons hc hfirst]
    cases text with
    | nil =>
      obtain ⟨rfl, rfl⟩ : [] = first ∧ [] = others := by simpa [paragraphs] using hfirst
      by_cases hnewline : c = '\n'
      · subst hnewline
        obtain ⟨head, tail, hhead⟩ := exists_paragraphs rest
        refine .inr ⟨[], [], head, tail, rfl, hhead, ?_⟩
        rw [List.cons_append, List.nil_append, paragraphs, paragraphs_cons (fun _ => hrest) hhead,
          List.nil_append]
      · have hblank : paragraphs ('\n' :: '\n' :: rest) = [] :: paragraphs rest := rfl
        exact .inl (paragraphs_cons (fun h => absurd h hnewline) hblank)
    | cons d text =>
      have hcons : Single c (d :: text ++ '\n' :: '\n' :: rest) := hc
      rcases ih with heq | ⟨init, last, head, tail, htext, hrest, heq⟩
      · rw [hfirst, List.cons_append] at heq
        exact .inl (paragraphs_cons hcons heq)
      · rw [hfirst] at htext
        cases init with
        | nil =>
          obtain ⟨rfl, rfl⟩ := List.cons.inj htext
          exact .inr ⟨[], c :: last, head, tail, rfl, hrest, paragraphs_cons hcons heq⟩
        | cons part init =>
          obtain ⟨rfl, rfl⟩ := List.cons.inj htext
          exact .inr ⟨(c :: first) :: init, last, head, tail, rfl, hrest, paragraphs_cons hcons heq⟩

def AllShown (text : List Char) : Prop := ∀ part ∈ paragraphs text, isHidden part = false

/-- Every paragraph is hidden or blank. -/
def Covered (text : List Char) : Prop :=
  ∀ part ∈ paragraphs text, isHidden part = true ∨ Blank part

theorem covered_append (hrest : rest.head? ≠ some '\n') (text : List Char) :
    Covered (text ++ '\n' :: '\n' :: rest) ↔ Covered text ∧ Covered rest := by
  have hblank : ∀ part : List Char, Blank (part ++ ['\n']) ↔ Blank part := by
    intro part
    simp only [Blank, List.mem_append, List.mem_singleton, or_imp, forall_and, forall_eq]
    exact and_iff_left (by decide)
  have hblank' : ∀ part : List Char, Blank ('\n' :: part) ↔ Blank part := by
    intro part
    simp only [Blank, List.mem_cons, forall_eq_or_imp]
    exact and_iff_right (by decide)
  rcases paragraphs_append hrest text with heq | ⟨init, last, first, others, htext, hfirst, heq⟩
  · simp only [Covered, heq, List.mem_append, or_imp, forall_and]
  · simp only [Covered, heq, htext, hfirst, List.mem_append, List.mem_cons, List.not_mem_nil,
      or_false, or_imp, forall_and, forall_eq, isHidden_append_newline, isHidden_newline, hblank,
      hblank']
    tauto

theorem intercalate_append {sep : List Char} {parts : List (List Char)} (h : parts ≠ [])
    (others : List (List Char)) : sep.intercalate (parts ++ others) =
      sep.intercalate parts ++ others.flatMap fun part => sep ++ part := by
  induction parts with
  | nil => contradiction
  | cons part parts ih =>
    cases parts with
    | nil =>
      rw [List.intercalate_singleton, List.singleton_append]
      clear ih h
      induction others generalizing part with
      | nil => simp
      | cons other others ih =>
        rw [List.intercalate_cons_cons, ih other, List.flatMap_cons, List.append_assoc, List.append_assoc]
    | cons next parts =>
      rw [List.cons_append, List.cons_append, List.intercalate_cons_cons, ← List.cons_append,
        ih (List.cons_ne_nil _ _), List.intercalate_cons_cons, List.append_assoc, List.append_assoc,
        List.append_assoc]

theorem intercalate_concat_append {sep tail : List Char} (init : List (List Char)) (last : List Char) :
    sep.intercalate (init ++ [last ++ tail]) = sep.intercalate (init ++ [last]) ++ tail := by
  cases init with
  | nil => simp
  | cons part init =>
    rw [intercalate_append (List.cons_ne_nil part init), intercalate_append (List.cons_ne_nil part init)]
    simp

theorem blank_flatMap {parts : List (List Char)} :
    Blank (parts.flatMap fun part => ['\n', '\n'] ++ part) ↔ ∀ part ∈ parts, Blank part := by
  have hnewline : isWhiteSpace '\n' = true := by decide
  simp only [Blank, List.mem_flatMap, List.mem_append, List.mem_cons, List.not_mem_nil, or_false]
  constructor
  · exact fun h part hpart c hc => h c ⟨part, hpart, .inr hc⟩
  · rintro h c ⟨part, hpart, (rfl | rfl) | hc⟩
    · exact hnewline
    · exact hnewline
    · exact h part hpart c hc

/-- All of the text is shown, and behind it what is shown of the rest. -/
theorem intercalate_shown (hrest : rest.head? ≠ some '\n') (htext : AllShown text) :
    ∃ kept white tail, text = kept ++ white ∧ Blank white ∧ (Blank tail ↔ Covered rest) ∧
      ['\n', '\n'].intercalate (shown (text ++ '\n' :: '\n' :: rest)) = kept ++ tail := by
  have htail : ∀ parts : List (List Char),
      Blank ((parts.filter fun part => !isHidden part).flatMap fun part => ['\n', '\n'] ++ part) ↔
        ∀ part ∈ parts, isHidden part = true ∨ Blank part := by
    intro parts
    rw [blank_flatMap]
    simp only [List.mem_filter, Bool.not_eq_true', and_imp]
    refine forall₂_congr fun part _ => ?_
    cases isHidden part <;> simp
  have hkept : ∀ parts : List (List Char), (∀ part ∈ parts, isHidden part = false) →
      parts.filter (fun part => !isHidden part) = parts := fun parts h =>
    List.filter_eq_self.mpr fun part hpart => by rw [h part hpart]; rfl
  rcases paragraphs_append hrest text with heq | ⟨init, last, first, others, hsplit, hfirst, heq⟩
  · obtain ⟨head, tail, hne⟩ := exists_paragraphs text
    refine ⟨text, [], _, (List.append_nil text).symm, fun c hc => absurd hc List.not_mem_nil,
      htail (paragraphs rest), ?_⟩
    rw [shown, heq, List.filter_append, hkept _ htext, intercalate_append (by simp [hne]),
      intercalate_paragraphs]
  · have hlast : ∀ part ∈ init ++ [last], isHidden part = false := by
      intro part hpart
      rcases List.mem_append.mp hpart with hpart | hpart
      · exact htext part (hsplit ▸ List.mem_append_left _ hpart)
      · rw [List.mem_singleton.mp hpart, ← isHidden_append_newline]
        exact htext _ (hsplit ▸ List.mem_append_right _ (List.mem_singleton_self _))
    have hnewline : Blank ['\n'] := fun c hc => by
      rw [List.mem_singleton.mp hc]
      decide
    refine ⟨['\n', '\n'].intercalate (init ++ [last]), ['\n'], _, ?_, hnewline,
      (htail (('\n' :: first) :: others)).trans ?_, ?_⟩
    · rw [← intercalate_concat_append, ← hsplit, intercalate_paragraphs]
    · simp only [Covered, hfirst, List.forall_mem_cons, isHidden_newline]
      refine and_congr_left fun _ => or_congr_right ?_
      simp only [Blank, List.forall_mem_cons]
      exact and_iff_right (by decide)
    · rw [shown, heq, show init ++ last :: ('\n' :: first) :: others =
        (init ++ [last]) ++ ('\n' :: first) :: others by simp, List.filter_append, hkept _ hlast,
        intercalate_append (by simp)]

/-- The text alone is shown exactly when the rest is covered. -/
theorem trimChars_shown_iff (hrest : rest.head? ≠ some '\n') (htext : AllShown text) :
    trimChars (['\n', '\n'].intercalate (shown (text ++ '\n' :: '\n' :: rest))) = trimChars text ↔
      Covered rest := by
  obtain ⟨kept, white, tail, rfl, hwhite, htail, heq⟩ := intercalate_shown hrest htext
  rw [heq, ← htail, trimChars_append hwhite]
  constructor
  · intro h
    have hink := congrArg ink h
    rw [ink_trimChars, ink_trimChars, ink_append] at hink
    exact ink_eq_zero.mp (by omega)
  · exact trimChars_append

theorem paragraphs_concat (text : List Char) (c : Char) :
    (∃ init last, paragraphs text = init ++ [last] ∧
        paragraphs (text ++ [c]) = init ++ [last ++ [c]]) ∨
      ∃ init last, paragraphs text = init ++ [last ++ ['\n']] ∧
        paragraphs (text ++ [c]) = init ++ [last, []] := by
  induction text using paragraphs_induction with
  | nil =>
    refine .inl ⟨[], [], rfl, ?_⟩
    rw [List.nil_append, paragraphs_cons (fun _ => by simp) rfl]
    rfl
  | blank text ih =>
    rw [List.cons_append, List.cons_append, paragraphs, paragraphs]
    rcases ih with ⟨init, last, htext, heq⟩ | ⟨init, last, htext, heq⟩
    · exact .inl ⟨[] :: init, last, by rw [htext]; rfl, by rw [heq]; rfl⟩
    · exact .inr ⟨[] :: init, last, by rw [htext]; rfl, by rw [heq]; rfl⟩
  | single d text hd ih =>
    obtain ⟨first, others, hfirst⟩ := exists_paragraphs text
    rw [paragraphs_cons hd hfirst]
    cases text with
    | nil =>
      obtain ⟨rfl, rfl⟩ : [] = first ∧ [] = others := by simpa [paragraphs] using hfirst
      by_cases hblank : d = '\n' ∧ c = '\n'
      · obtain ⟨rfl, rfl⟩ := hblank
        exact .inr ⟨[], [], rfl, rfl⟩
      · refine .inl ⟨[], [d], rfl, ?_⟩
        have hsingle : Single d [c] := fun hd hc => hblank ⟨hd, by simpa using hc⟩
        exact paragraphs_cons hsingle (paragraphs_cons (fun _ => by simp) rfl)
    | cons e text =>
      have hcons : Single d (e :: text ++ [c]) := hd
      rw [hfirst] at ih
      rcases ih with ⟨init, last, htext, heq⟩ | ⟨init, last, htext, heq⟩
      · cases init with
        | nil =>
          obtain ⟨rfl, rfl⟩ := List.cons.inj htext
          exact .inl ⟨[], d :: first, rfl, paragraphs_cons hcons heq⟩
        | cons part init =>
          obtain ⟨rfl, rfl⟩ := List.cons.inj htext
          exact .inl ⟨(d :: first) :: init, last, rfl, paragraphs_cons hcons heq⟩
      · cases init with
        | nil =>
          obtain ⟨rfl, rfl⟩ := List.cons.inj htext
          exact .inr ⟨[], d :: last, rfl, paragraphs_cons hcons heq⟩
        | cons part init =>
          obtain ⟨rfl, rfl⟩ := List.cons.inj htext
          exact .inr ⟨(d :: first) :: init, last, rfl, paragraphs_cons hcons heq⟩

theorem AllShown.of_concat (h : AllShown (text ++ [c])) : AllShown text := by
  intro part hpart
  rcases paragraphs_concat text c with ⟨init, last, htext, heq⟩ | ⟨init, last, htext, heq⟩
  · rw [htext] at hpart
    rcases List.mem_append.mp hpart with hpart | hpart
    · exact h part (heq ▸ List.mem_append_left _ hpart)
    · rw [List.mem_singleton.mp hpart]
      have hlast := h (last ++ [c]) (heq ▸ List.mem_append_right _ (List.mem_singleton_self _))
      exact eq_false_of_ne_true fun hhidden => by simp [isHidden_append hhidden] at hlast
  · rw [htext] at hpart
    rcases List.mem_append.mp hpart with hpart | hpart
    · exact h part (heq ▸ List.mem_append_left _ hpart)
    · rw [List.mem_singleton.mp hpart, isHidden_append_newline]
      exact h last (heq ▸ List.mem_append_right _ List.mem_cons_self)

theorem allShown_newline : AllShown ('\n' :: text) ↔ AllShown text := by
  have hnil : isHidden [] = false := rfl
  induction text using paragraphs_induction with
  | nil => simp [AllShown, paragraphs, isHidden_newline]
  | blank text ih =>
    have hthree : paragraphs ('\n' :: '\n' :: '\n' :: text) = [] :: paragraphs ('\n' :: text) := rfl
    have htwo : paragraphs ('\n' :: '\n' :: text) = [] :: paragraphs text := rfl
    simp only [AllShown, hthree, htwo, List.forall_mem_cons, hnil, true_and] at *
    exact ih
  | single c text hc ih =>
    obtain ⟨first, others, hfirst⟩ := exists_paragraphs text
    have hsingle := paragraphs_cons hc hfirst
    by_cases hnewline : c = '\n'
    · subst hnewline
      have htwo : paragraphs ('\n' :: '\n' :: text) = [] :: paragraphs text := rfl
      simp only [AllShown, htwo, hsingle, hfirst, List.forall_mem_cons, hnil, true_and,
        isHidden_newline]
    · have hboth := paragraphs_cons (c := '\n') (fun _ h => hnewline (by simpa using h)) hsingle
      simp only [AllShown, hboth, hsingle, List.forall_mem_cons, isHidden_newline]

theorem AllShown.of_cons (h : AllShown (c :: text)) (hc : isWhiteSpace c = true) : AllShown text := by
  by_cases hnewline : c = '\n'
  · rw [hnewline] at h
    exact allShown_newline.mp h
  · obtain ⟨first, others, hfirst⟩ := exists_paragraphs text
    rw [AllShown, paragraphs_cons (fun h => absurd h hnewline) hfirst] at h
    rw [AllShown, hfirst]
    simpa only [List.forall_mem_cons, isHidden_white hc] using h

theorem AllShown.trimChars (h : AllShown text) : AllShown (trimChars text) := by
  obtain ⟨left, right, hleft, hright, hsplit⟩ := trimChars_split text
  rw [hsplit] at h
  have hmiddle : AllShown (Prompts.trimChars text ++ right) := by
    clear hsplit
    induction left with
    | nil => exact h
    | cons c left ih =>
      exact ih (h.of_cons (hleft c List.mem_cons_self)) fun d hd =>
        hleft d (List.mem_cons_of_mem _ hd)
  clear hsplit h hright
  induction right using List.reverseRecOn with
  | nil => rwa [List.append_nil] at hmiddle
  | append_singleton right c ih =>
    rw [← List.append_assoc] at hmiddle
    exact ih hmiddle.of_concat

/-- The text has no CR LF. -/
def UnixText (text : List Char) : Prop := ¬['\r', '\n'] <:+: text

theorem unixLines_append (h : text.getLast? = some '\r' → rest.head? ≠ some '\n') :
    unixLines (text ++ rest) = unixLines text ++ unixLines rest := by
  fun_induction unixLines text with
  | case1 text ih =>
    have htext : text.getLast? = some '\r' → rest.head? ≠ some '\n' := fun hlast => h (by
      rw [List.getLast?_cons, List.getLast?_cons, hlast]
      rfl)
    rw [List.cons_append, List.cons_append, Deliveries.unixLines, ih htext, List.cons_append]
  | case2 c text hnot ih =>
    have htext : text.getLast? = some '\r' → rest.head? ≠ some '\n' := fun hlast => h (by
      rw [List.getLast?_cons, hlast]
      rfl)
    rw [List.cons_append, Deliveries.unixLines, ih htext, List.cons_append]
    intro rest' hc hrest'
    cases text with
    | nil => exact h (by rw [hc]; rfl) (by rw [← List.nil_append rest, hrest']; rfl)
    | cons d text =>
      obtain ⟨rfl, -⟩ := List.cons.inj hrest'
      exact hnot text hc rfl
  | case3 => rfl

theorem UnixText.unixLines (h : UnixText text) : unixLines text = text := by
  fun_induction Deliveries.unixLines text with
  | case1 text ih => exact absurd ⟨[], text, rfl⟩ h
  | case2 c text hnot ih =>
    rw [ih fun hbreak => h (hbreak.trans (List.suffix_cons c text).isInfix)]
  | case3 => rfl

end Text

end ArtForgeStudio.Prompts
