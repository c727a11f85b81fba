import ArtForgeStudio.Directories.Spelling
import Mathlib.Data.List.MinMax

/-! # Keys of managed files

A key names a file by its area and a clean relative name. A name that lies in a more specific area
is refused, so that a file has one key.
-/

namespace ArtForgeStudio.Directories

open ArtForgeStudio.Api ArtForgeStudio.Outcome ArtForgeStudio.Relocations

/-- The upper case of a name, as far as the names of devices go: beyond ASCII only the dotless `ı`
becomes one of their letters. -/
def toUppercase (name : List Char) : List Char :=
  name.map fun c => if c = 'ı' then 'I' else c.toUpper

/-- The part before the first dot, without spaces behind it, in upper case. -/
def stem (part : List Char) : List Char :=
  toUppercase (((part.takeWhile (· ≠ '.')).reverse.dropWhile (· = ' ')).reverse)

def numberedDevice (stem : List Char) : Bool :=
  match (stem.dropPrefix? "COM".toList).or (stem.dropPrefix? "LPT".toList) with
  | some suffix => ["1", "2", "3", "4", "5", "6", "7", "8", "9", "¹", "²", "³"].contains
      (String.ofList suffix)
  | none => false

def validateComponent (part : List Char) : Except String Unit := do
  ensure (part ≠ [] ∧ part ≠ ".".toList ∧ part ≠ "..".toList) "invalid Windows path component"
  ensure (part.getLast? ≠ some '.' ∧ part.getLast? ≠ some ' ') "ambiguous Windows path component"
  rejectIf (part.any fun c => c ≤ Char.ofNat 0x1f || "<>:\"|?*".toList.contains c)
    "invalid Windows filename character"
  rejectIf (["CON", "PRN", "AUX", "NUL", "CONIN$", "CONOUT$"].contains (String.ofList (stem part)) ||
      numberedDevice (stem part))
    "reserved Windows device name"

def validateWindowsRelativeName (value : String) : Except String Unit := do
  ensure (value ≠ "") "empty Windows relative name"
  (value.toList.splitOnP fun c => c = '/' || c = '\\').forM validateComponent

/-- `Component` of a path -/
inductive Component where
  | rootDir | curDir | parentDir
  | normal (name : String)
  deriving DecidableEq

/-- `Path::components` with the leading ones that are no names. -/
def pathComponents (value : String) : List Component :=
  (if isAbsolute value then [.rootDir]
    else if (value.toList.splitOn '/').head? = some ".".toList then [.curDir] else []) ++
  (components value).map fun part => if part = ".." then .parentDir else .normal part

def Component.isNormal : Component → Bool
  | .normal _ => true
  | _ => false

/-- What a managed name is checked for. -/
def checkRelativeName (value : String) : Except String Unit := do
  rejectIf (value.toList.contains '\\') "backslash is not a managed separator"
  validateWindowsRelativeName value
  ensure (value ≠ "" ∧ isAbsolute value = false)
    "Condition failed: `!value.is_empty() && !path.is_absolute()`"
  rejectIf (value.toList.contains (Char.ofNat 0))
    "Condition failed: `!value.as_bytes().contains(&0)`"
  ensure ((pathComponents value).all Component.isNormal)
    "Condition failed: `path.components().all(|component| matches!(component, Component::Normal(_)))`"

structure ManagedRelativeName where
  text : String
  checked : checkRelativeName text = .ok ()
  deriving DecidableEq

/-- `ManagedRelativeName::try_from` -/
def ManagedRelativeName.tryFrom (value : String) : Except String ManagedRelativeName :=
  match h : checkRelativeName value with
  | .ok () => .ok ⟨value, h⟩
  | .error message => .error message

/-- `relative_path` as the text it is. -/
def ManagedUserArea.relativeText (area : ManagedUserArea) : String :=
  "/".intercalate area.relativePath

/-- `value.starts_with(&format!("\x7b\x7d/", directory))` -/
def startsWithDirectory (value directory : String) : Bool :=
  (directory ++ "/").toList.isPrefixOf value.toList

/-- The name lies in, or is, an area inside this area. -/
def ManagedUserArea.moreSpecific (area : ManagedUserArea) (relativeName : String) : Bool :=
  let physical := area.relativeText ++ "/" ++ relativeName
  all.any fun other => other ≠ area &&
    (physical = other.relativeText || startsWithDirectory physical other.relativeText) &&
    startsWithDirectory other.relativeText area.relativeText

structure ManagedFileKey where
  area : ManagedUserArea
  relativeName : ManagedRelativeName
  own : area.moreSpecific relativeName.text = false
  deriving DecidableEq

/-- `ManagedFileKey::new` -/
def ManagedFileKey.new (area : ManagedUserArea) (relativeName : String) :
    Except String ManagedFileKey :=
  if hother : area.moreSpecific relativeName then .error "name belongs to a more specific managed area"
  else match h : checkRelativeName relativeName with
    | .ok () => .ok ⟨area, ⟨relativeName, h⟩, Bool.not_eq_true _ ▸ hother⟩
    | .error message => .error message

/-- `namespace.path(area).join(relative_name)` -/
def ManagedFileKey.path (space : UserNamespace) (key : ManagedFileKey) : Path :=
  space.path key.area ++ components key.relativeName.text

/-- The place of a key in the default layout, below the root. -/
def ManagedFileKey.defaultPath (key : ManagedFileKey) : Path :=
  key.area.relativePath ++ components key.relativeName.text

/-- Below a directory, and not the directory itself. -/
def StrictlyInside (directory path : Path) : Prop := directory <+: path ∧ directory ≠ path

section Names

variable {value : String} {part : List Char} {area : ManagedUserArea} {key : ManagedFileKey}

/-- What stands between the separators of a text. -/
def segments (value : String) : List (List Char) := value.toList.splitOn '/'

theorem validateComponent_named (h : validateComponent part = .ok ()) :
    part ≠ [] ∧ part ≠ ".".toList ∧ part ≠ "..".toList := by
  simp only [validateComponent, bind_eq_ok, exists_unit, ensure_eq_ok] at h
  exact h.1

theorem validateComponent_plain (h : validateComponent part = .ok ()) : Char.ofNat 0 ∉ part := by
  simp only [validateComponent, bind_eq_ok, exists_unit, rejectIf_eq_ok] at h
  intro hmem
  refine h.2.2.1 (List.any_eq_true.mpr ⟨Char.ofNat 0, hmem, ?_⟩)
  decide

theorem components_eq (hparts : ∀ part ∈ segments value, validateComponent part = .ok ()) :
    components value = (segments value).map String.ofList := by
  refine List.filter_eq_self.mpr fun name hname => ?_
  obtain ⟨part, hpart, rfl⟩ := List.mem_map.mp hname
  obtain ⟨hempty, hdot, -⟩ := validateComponent_named (hparts part hpart)
  have hne : ∀ text : String, part ≠ text.toList → String.ofList part ≠ text := by
    rintro text hpart rfl
    exact hpart (by simp)
  simp [hempty, hne _ hdot]

theorem map_toList_components (hparts : ∀ part ∈ segments value, validateComponent part = .ok ()) :
    (components value).map String.toList = segments value := by
  rw [components_eq hparts, List.map_map]
  simp

/-- The checks of a name are those of its segments, without backslashes. -/
theorem checkRelativeName_eq_ok : checkRelativeName value = .ok () ↔
    '\\' ∉ value.toList ∧ ∀ part ∈ segments value, validateComponent part = .ok () := by
  have hsplit (h : '\\' ∉ value.toList) :
      (value.toList.splitOnP fun c => c = '/' || c = '\\') = segments value := by
    refine Segments.splitOnP_congr fun c hc => ?_
    have hne : c ≠ '\\' := fun heq => h (heq ▸ hc)
    simp [hne, beq_eq_decide]
  simp only [checkRelativeName, validateWindowsRelativeName, bind_eq_ok, exists_unit, ensure_eq_ok,
    rejectIf_eq_ok, forM_eq_ok]
  constructor
  · rintro ⟨hbackslash, ⟨-, hparts⟩, -⟩
    have hplain : '\\' ∉ value.toList := by simpa using hbackslash
    rw [hsplit hplain] at hparts
    exact ⟨hplain, hparts⟩
  · rintro ⟨hplain, hparts⟩
    have hempty : value ≠ "" := by
      rintro rfl
      exact (validateComponent_named (hparts [] (by decide))).1 rfl
    have hrelative : isAbsolute value = false := by
      refine Bool.not_eq_true _ ▸ fun habsolute => ?_
      obtain ⟨rest, hrest⟩ := List.head?_eq_some_iff.mp (of_decide_eq_true habsolute)
      have hmem : [] ∈ segments value := by
        rw [segments, hrest, List.splitOn_cons_eq_if_modifyHead]
        simp
      exact (validateComponent_named (hparts [] hmem)).1 rfl
    have hzero : Char.ofNat 0 ∉ value.toList := by
      rw [← Segments.exists_mem_splitOn (show Char.ofNat 0 ≠ '/' by decide)]
      rintro ⟨part, hpart, hmem⟩
      exact validateComponent_plain (hparts part hpart) hmem
    have hdot : (value.toList.splitOn '/').head? ≠ some ".".toList := by
      intro hhead
      have hmem : ".".toList ∈ segments value := List.mem_of_head? hhead
      exact (validateComponent_named (hparts _ hmem)).2.1 rfl
    have hnormal : (pathComponents value).all Component.isNormal := by
      rw [pathComponents, hrelative, if_neg (by simp), if_neg hdot, List.nil_append,
        components_eq hparts]
      simp only [List.all_map, List.all_eq_true]
      intro part hpart
      have hparent : String.ofList part ≠ ".." := by
        intro heq
        refine (validateComponent_named (hparts part hpart)).2.2 ?_
        rw [← heq, String.toList_ofList]
      simp [hparent, Component.isNormal]
    refine ⟨by simpa using hplain, ⟨hempty, ?_⟩, ⟨hempty, hrelative⟩, by simpa using hzero, hnormal⟩
    rw [hsplit hplain]
    exact hparts

theorem segments_ne_nil (value : String) : segments value ≠ [] := List.splitOn_ne_nil _ _

theorem segments_injective {other : String} (h : segments value = segments other) :
    value = other := String.toList_injective (Segments.splitOn_injective h)

theorem exists_name (hvalue : checkRelativeName value = .ok ()) {parts : List (List Char)}
    (hparts : parts ⊆ segments value) (hne : parts ≠ []) :
    ∃ name : ManagedRelativeName, segments name.text = parts := by
  have hsegments : segments (String.ofList (['/'].intercalate parts)) = parts := by
    rw [segments, String.toList_ofList, Segments.splitOn_intercalate_of_subset hparts hne]
  obtain ⟨hplain, hclean⟩ := checkRelativeName_eq_ok.mp hvalue
  have hchecked : checkRelativeName (String.ofList (['/'].intercalate parts)) = .ok () := by
    refine checkRelativeName_eq_ok.mpr ⟨fun hmem => hplain ?_, fun part hpart => ?_⟩
    · rw [← Segments.exists_mem_splitOn (show '\\' ≠ '/' by decide)] at hmem ⊢
      obtain ⟨part, hpart, hmem⟩ := hmem
      rw [← segments, hsegments] at hpart
      exact ⟨part, hparts hpart, hmem⟩
    · rw [hsegments] at hpart
      exact hclean part (hparts hpart)
  exact ⟨⟨_, hchecked⟩, hsegments⟩

theorem ManagedRelativeName.clean (name : ManagedRelativeName) :
    ∀ part ∈ segments name.text, validateComponent part = .ok () :=
  (checkRelativeName_eq_ok.mp name.checked).2

theorem ManagedRelativeName.components_ne_nil (name : ManagedRelativeName) :
    components name.text ≠ [] := by
  rw [components_eq name.clean]
  simpa using segments_ne_nil name.text

theorem ManagedRelativeName.eq_of_components {name other : ManagedRelativeName}
    (h : components name.text = components other.text) : name = other := by
  have hsegments := congrArg (List.map String.toList) h
  rw [map_toList_components name.clean, map_toList_components other.clean] at hsegments
  cases name
  cases other
  obtain rfl := segments_injective hsegments
  rfl

theorem segments_relativeText (area : ManagedUserArea) :
    segments area.relativeText = area.relativePath.map String.toList := by
  cases area <;> decide

theorem relativePath_injective {other : ManagedUserArea}
    (h : area.relativePath = other.relativePath) : area = other := by
  revert h
  cases area <;> cases other <;> first | exact fun _ => rfl | exact fun h => absurd h (by decide)

theorem startsWithDirectory_iff {directory : String} : startsWithDirectory value directory = true ↔
    segments directory <+: segments value ∧ segments directory ≠ segments value := by
  rw [startsWithDirectory, List.isPrefixOf_iff_prefix, String.toList_append]
  exact Segments.append_separator_prefix_iff

theorem prefix_map_toList {one other : Path} :
    one.map String.toList <+: other.map String.toList ↔ one <+: other :=
  List.prefix_map_iff_of_injective fun _ _ h => String.toList_injective h

/-- A name lies in a more specific area when its path in the default layout does. -/
theorem moreSpecific_iff (name : ManagedRelativeName) : area.moreSpecific name.text = true ↔
    ∃ other : ManagedUserArea, other ≠ area ∧ area.relativePath <+: other.relativePath ∧
      other.relativePath <+: area.relativePath ++ components name.text := by
  have hphysical : segments (area.relativeText ++ "/" ++ name.text) =
      (area.relativePath ++ components name.text).map String.toList := by
    rw [List.map_append, map_toList_components name.clean, ← segments_relativeText]
    rw [segments, String.toList_append, String.toList_append, List.append_assoc]
    exact List.splitOn_append_cons_self _ _
  have hunder : ∀ other : ManagedUserArea,
      (area.relativeText ++ "/" ++ name.text = other.relativeText ∨
        startsWithDirectory (area.relativeText ++ "/" ++ name.text) other.relativeText = true) ↔
      other.relativePath <+: area.relativePath ++ components name.text := by
    intro other
    rw [startsWithDirectory_iff, ← prefix_map_toList, ← hphysical, ← segments_relativeText]
    constructor
    · rintro (hsame | ⟨hbegins, -⟩)
      · rw [hsame]
      · exact hbegins
    · intro hbegins
      by_cases hsame : segments other.relativeText = segments (area.relativeText ++ "/" ++ name.text)
      · exact .inl (segments_injective hsame.symm)
      · exact .inr ⟨hbegins, hsame⟩
  have hnested : ∀ other : ManagedUserArea, other ≠ area →
      (startsWithDirectory other.relativeText area.relativeText = true ↔
        area.relativePath <+: other.relativePath) := by
    intro other hne
    rw [startsWithDirectory_iff, segments_relativeText, segments_relativeText, prefix_map_toList]
    refine and_iff_left fun hsame => hne (relativePath_injective ?_)
    exact (List.map_injective_iff.mpr (fun _ _ h => String.toList_injective h) hsame).symm
  simp only [ManagedUserArea.moreSpecific, List.any_eq_true, Bool.and_eq_true, Bool.or_eq_true,
    decide_eq_true_eq, hunder]
  constructor
  · rintro ⟨other, -, ⟨hne, hinside⟩, hbegins⟩
    exact ⟨other, hne, (hnested other hne).mp hbegins, hinside⟩
  · rintro ⟨other, hne, hbegins, hinside⟩
    exact ⟨other, mem_all other, ⟨hne, hinside⟩, (hnested other hne).mpr hbegins⟩

theorem ManagedFileKey.new_eq_ok {text : String} : ManagedFileKey.new area text = .ok key ↔
    key.area = area ∧ key.relativeName.text = text := by
  constructor
  · intro h
    unfold ManagedFileKey.new at h
    split at h
    · cases h
    · split at h
      · cases h
        exact ⟨rfl, rfl⟩
      · cases h
  · rintro ⟨rfl, rfl⟩
    obtain ⟨area, ⟨text, hchecked⟩, hown⟩ := key
    unfold ManagedFileKey.new
    rw [dif_neg (by simp [hown])]
    split
    · rfl
    · rename_i message hrefused
      cases hchecked.symm.trans hrefused

theorem ManagedFileKey.outside (key : ManagedFileKey) {other : ManagedUserArea}
    (hnested : key.area.relativePath <+: other.relativePath)
    (hinside : other.relativePath <+: key.defaultPath) : other = key.area := by
  by_contra hne
  have hmore := (moreSpecific_iff key.relativeName).mpr ⟨other, hne, hnested, hinside⟩
  exact Bool.false_ne_true (key.own.symm.trans hmore)

theorem ManagedFileKey.ext_components {other : ManagedFileKey} (harea : key.area = other.area)
    (hname : components key.relativeName.text = components other.relativeName.text) :
    key = other := by
  have hsame := ManagedRelativeName.eq_of_components hname
  obtain ⟨area, name, hown⟩ := key
  obtain ⟨otherArea, otherName, hotherOwn⟩ := other
  obtain rfl : area = otherArea := harea
  obtain rfl : name = otherName := hsame
  rfl

/-- In the default layout no two keys name one path. -/
theorem ManagedFileKey.defaultPath_injective {other : ManagedFileKey}
    (h : key.defaultPath = other.defaultPath) : key = other := by
  have harea : key.area = other.area := by
    have hkey : key.area.relativePath <+: key.defaultPath := List.prefix_append _ _
    have hother : other.area.relativePath <+: key.defaultPath := h ▸ List.prefix_append _ _
    rcases List.prefix_or_prefix_of_prefix hkey hother with hnested | hnested
    · exact (key.outside hnested hother).symm
    · exact other.outside hnested (h ▸ hkey)
  refine ManagedFileKey.ext_components harea ?_
  rw [ManagedFileKey.defaultPath, ManagedFileKey.defaultPath, harea] at h
  exact List.append_cancel_left h

/-- A path inside an area that is no area itself has a key, in the most specific area. -/
theorem exists_key (hvalue : checkRelativeName value = .ok ())
    (hinside : StrictlyInside area.relativePath (components value))
    (hproper : ∀ other : ManagedUserArea, components value ≠ other.relativePath) :
    ∃ key : ManagedFileKey, key.defaultPath = components value ∧
      ∀ other : ManagedUserArea, StrictlyInside other.relativePath (components value) →
        other.relativePath <+: key.area.relativePath := by
  obtain ⟨own, hown⟩ : ∃ own, own ∈ (ManagedUserArea.all.filter fun other =>
      other.relativePath.isPrefixOf (components value)).argmax (·.relativePath.length) := by
    refine Option.ne_none_iff_exists'.mp fun hnone => ?_
    have hempty := List.argmax_eq_none.mp hnone
    refine List.ne_nil_of_mem (List.mem_filter.mpr ⟨mem_all area, ?_⟩) hempty
    exact List.isPrefixOf_iff_prefix.mpr hinside.1
  have hownInside : own.relativePath <+: components value :=
    List.isPrefixOf_iff_prefix.mp (List.mem_filter.mp (List.argmax_mem hown)).2
  have hlongest : ∀ other : ManagedUserArea, other.relativePath <+: components value →
      other.relativePath <+: own.relativePath := by
    intro other hother
    have hmem : other ∈ ManagedUserArea.all.filter fun other =>
        other.relativePath.isPrefixOf (components value) :=
      List.mem_filter.mpr ⟨mem_all other, List.isPrefixOf_iff_prefix.mpr hother⟩
    have hlength : other.relativePath.length ≤ own.relativePath.length :=
      @List.le_of_mem_argmax _ _ _ (fun area : ManagedUserArea => area.relativePath.length) _ _ _
        hmem hown
    exact List.prefix_of_prefix_length_le hother hownInside hlength
  obtain ⟨rest, hrest⟩ := hownInside
  have hclean := (checkRelativeName_eq_ok.mp hvalue).2
  have hrestne : rest.map String.toList ≠ [] := by
    intro hnil
    rw [List.map_eq_nil_iff.mp hnil, List.append_nil] at hrest
    exact hproper own hrest.symm
  have hsubset : rest.map String.toList ⊆ segments value := by
    rw [← map_toList_components hclean, ← hrest, List.map_append]
    exact List.subset_append_right _ _
  obtain ⟨name, hname⟩ := exists_name hvalue hsubset hrestne
  have hcomponents : components name.text = rest := by
    rw [components_eq name.clean, hname, List.map_map]
    simp
  have hmost : own.moreSpecific name.text = false := by
    refine Bool.not_eq_true _ ▸ fun hmore => ?_
    obtain ⟨other, hne, hnested, hother⟩ := (moreSpecific_iff name).mp hmore
    rw [hcomponents, hrest] at hother
    have hsame := (hlongest other hother).eq_of_length_le hnested.length_le
    exact hne (relativePath_injective hsame)
  refine ⟨⟨own, name, hmost⟩, ?_, fun other hother => hlongest other hother.1⟩
  rw [ManagedFileKey.defaultPath, hcomponents, hrest]

end Names

section Places

variable {parsesAsUuid : String → Bool} {space next : UserNamespace} {area : ManagedUserArea}

theorem unmoved_foldlM {mappings : List AccountDirectoryMapping} (hfixed : area.movable = false)
    (h : mappings.foldlM (fun space mapping => space.withMapping parsesAsUuid mapping) space =
      .ok next) : next.path area = space.path area ∧ next.root = space.root := by
  induction mappings generalizing space with
  | nil =>
    cases h
    exact ⟨rfl, rfl⟩
  | cons mapping mappings ih =>
    rw [List.foldlM_cons] at h
    obtain ⟨middle, hmapping, hrest⟩ := bind_eq_ok.mp h
    obtain ⟨moved, hmoved, hmovable, -, -, -, rfl⟩ := withMapping_ok hmapping
    obtain ⟨hpath, hroot⟩ := ih hrest
    refine ⟨?_, hroot⟩
    rw [hpath, path_append, if_neg]
    intro hsame
    obtain rfl := storageName_injective (hmoved.symm.trans hsame)
    exact Bool.false_ne_true (hfixed.symm.trans hmovable)

theorem path_of_not_movable {dataRoot : Path} {userPublicId : String}
    {mappings : List AccountDirectoryMapping} (hfixed : area.movable = false)
    (h : UserNamespace.build parsesAsUuid dataRoot userPublicId mappings = .ok space) :
    space.path area = space.root ++ area.relativePath := by
  obtain ⟨start, hstart, hfold⟩ := bind_eq_ok.mp h
  simp only [UserNamespace.new, bind_eq_ok, exists_unit, ensure_eq_ok, pure_eq_ok] at hstart
  obtain ⟨-, rfl⟩ := hstart
  obtain ⟨hpath, hroot⟩ := unmoved_foldlM hfixed hfold
  rw [hpath, hroot]
  rfl

/-- No two keys name one path, wherever the areas were moved. -/
theorem ManagedFileKey.path_injective {dataRoot : Path} {userPublicId : String}
    {mappings : List AccountDirectoryMapping}
    (h : UserNamespace.build parsesAsUuid dataRoot userPublicId mappings = .ok space)
    {key other : ManagedFileKey} (hpath : key.path space = other.path space) : key = other := by
  have hmapped := Mapped.build h
  have hkey : space.path key.area <+: key.path space := List.prefix_append _ _
  have hother : space.path other.area <+: key.path space := hpath ▸ List.prefix_append _ _
  -- A moved area lies apart from all others, so it has no path in common with them.
  have happart : ∀ one another : ManagedUserArea, one.movable = true →
      space.path one <+: key.path space → space.path another <+: key.path space → one = another := by
    intro one another hmovable hone hanother
    by_contra hne
    have hapart := hmapped.areas one another hmovable (Ne.symm hne)
    rcases List.prefix_or_prefix_of_prefix hone hanother with hunder | hunder
    · exact hapart.1 hunder
    · exact hapart.2 hunder
  by_cases hmovable : key.area.movable = true
  · have harea := happart _ _ hmovable hkey hother
    refine ManagedFileKey.ext_components harea ?_
    rw [ManagedFileKey.path, ManagedFileKey.path, harea] at hpath
    exact List.append_cancel_left hpath
  by_cases hotherMovable : other.area.movable = true
  · have harea := (happart _ _ hotherMovable hother hkey).symm
    refine ManagedFileKey.ext_components harea ?_
    rw [ManagedFileKey.path, ManagedFileKey.path, harea] at hpath
    exact List.append_cancel_left hpath
  · refine ManagedFileKey.defaultPath_injective ?_
    rw [ManagedFileKey.path, ManagedFileKey.path,
      path_of_not_movable (Bool.not_eq_true _ ▸ hmovable) h,
      path_of_not_movable (Bool.not_eq_true _ ▸ hotherMovable) h, List.append_assoc,
      List.append_assoc] at hpath
    exact List.append_cancel_left hpath

/-- A key is the only one for its path, its path lies below its area, and a clean path inside an
area that is no area itself has exactly one key, in the most specific area. -/
theorem managed_keys_never_alias {dataRoot : Path} {userPublicId : String}
    {mappings : List AccountDirectoryMapping}
    (h : UserNamespace.build parsesAsUuid dataRoot userPublicId mappings = .ok space) :
    (∀ area name key, ManagedFileKey.new area name = .ok key →
      ∀ otherArea otherName other, ManagedFileKey.new otherArea otherName = .ok other →
      key.path space = other.path space → area = otherArea ∧ name = otherName) ∧
    (∀ area name key, ManagedFileKey.new area name = .ok key →
      StrictlyInside (space.path area) (key.path space)) ∧
    ∀ text, (∃ name, ManagedRelativeName.tryFrom text = .ok name) →
      (∃ area : ManagedUserArea, StrictlyInside area.relativePath (components text)) →
      (∀ area : ManagedUserArea, components text ≠ area.relativePath) →
      ∃ area name key, ManagedFileKey.new area name = .ok key ∧
        key.defaultPath = components text ∧
        StrictlyInside area.relativePath (components text) ∧
        (∀ other : ManagedUserArea, StrictlyInside other.relativePath (components text) →
          other.relativePath <+: area.relativePath) ∧
        (∀ otherArea otherName other, ManagedFileKey.new otherArea otherName = .ok other →
          other.defaultPath = components text → other = key) ∧
        (space.path area = space.root ++ area.relativePath →
          ∀ otherArea otherName other, ManagedFileKey.new otherArea otherName = .ok other →
            (other.path space = space.root ++ components text ↔ other = key)) := by
  refine ⟨?_, ?_, ?_⟩
  · intro area name key hkey otherArea otherName other hother hpath
    obtain ⟨rfl, rfl⟩ := ManagedFileKey.new_eq_ok.mp hkey
    obtain ⟨rfl, rfl⟩ := ManagedFileKey.new_eq_ok.mp hother
    obtain rfl := ManagedFileKey.path_injective h hpath
    exact ⟨rfl, rfl⟩
  · intro area name key hkey
    obtain ⟨rfl, rfl⟩ := ManagedFileKey.new_eq_ok.mp hkey
    refine ⟨List.prefix_append _ _, fun hsame => ?_⟩
    exact key.relativeName.components_ne_nil (List.self_eq_append_right.mp hsame)
  · rintro text ⟨name, hname⟩ ⟨area, hinside⟩ hproper
    have hchecked : checkRelativeName text = .ok () := by
      unfold ManagedRelativeName.tryFrom at hname
      split at hname
      · assumption
      · cases hname
    obtain ⟨key, hplace, hmost⟩ := exists_key hchecked hinside hproper
    refine ⟨key.area, key.relativeName.text, key, ManagedFileKey.new_eq_ok.mpr ⟨rfl, rfl⟩, hplace,
      ⟨hplace ▸ List.prefix_append _ _, fun hsame => hproper key.area hsame.symm⟩, hmost, ?_, ?_⟩
    · intro _ _ other _ hother
      exact ManagedFileKey.defaultPath_injective (hother.trans hplace.symm)
    · intro hunmoved _ _ other _
      have hkey : key.path space = space.root ++ components text := by
        rw [ManagedFileKey.path, hunmoved, List.append_assoc, ← hplace]
        rfl
      constructor
      · intro hother
        exact ManagedFileKey.path_injective h (hother.trans hkey.symm)
      · rintro rfl
        exact hkey

end Places

theorem managed_keys_never_alias_moved :
    UserNamespace.build canonicalUuid ["data"] movedOutput.userPublicId movedOutput.mappings =
      .ok movedOutput ∧
    ∀ area name key, ManagedFileKey.new area name = .ok key → ∀ otherArea otherName other,
      ManagedFileKey.new otherArea otherName = .ok other →
      key.path movedOutput = other.path movedOutput → area = otherArea ∧ name = otherName := by
  have hbuild : UserNamespace.build canonicalUuid ["data"] movedOutput.userPublicId
      movedOutput.mappings = .ok movedOutput := by rfl
  exact ⟨hbuild, (managed_keys_never_alias hbuild).1⟩

/-- The directory of an area inside another one is a clean path without a key. -/
theorem nested_area_has_no_key :
    (∃ name, ManagedRelativeName.tryFrom "canvas/uploads" = .ok name) ∧
    StrictlyInside ManagedUserArea.canvas.relativePath (components "canvas/uploads") ∧
    ¬∃ area name key, ManagedFileKey.new area name = .ok key ∧
      key.defaultPath = components "canvas/uploads" := by
  have hplace : components "canvas/uploads" = ManagedUserArea.canvasUploads.relativePath := by
    decide +kernel
  have hchecked : checkRelativeName "canvas/uploads" = .ok () := by rfl
  refine ⟨⟨⟨"canvas/uploads", hchecked⟩, ?_⟩, ?_, ?_⟩
  · unfold ManagedRelativeName.tryFrom
    split
    · rfl
    · rename_i message hrefused
      cases hchecked.symm.trans hrefused
  · rw [hplace]
    exact ⟨by decide, by decide⟩
  · rintro ⟨_, _, key, -, hkey⟩
    rw [hplace] at hkey
    have hunder : key.area.relativePath <+: ManagedUserArea.canvasUploads.relativePath :=
      hkey ▸ List.prefix_append _ _
    have harea := key.outside hunder (hkey ▸ List.prefix_rfl)
    rw [ManagedFileKey.defaultPath, ← harea] at hkey
    exact key.relativeName.components_ne_nil (List.append_right_eq_self.mp hkey)

end ArtForgeStudio.Directories
