import ArtForgeStudio.Directories.UserNamespace
import ArtForgeStudio.Library.Segments

/-! # Paths as text

The client saves paths as text. A relocation reads the components of an absolute path and spells
the relocated path anew; every other text it leaves alone.
-/

namespace ArtForgeStudio.Directories

open ArtForgeStudio.Api ArtForgeStudio.Outcome ArtForgeStudio.Relocations

/-- `Path::components` below the root: empty parts and `.` do not count. -/
def components (value : String) : Path :=
  ((value.toList.splitOn '/').map String.ofList).filter fun part => part ≠ "" && part ≠ "."

def isAbsolute (value : String) : Bool := value.toList.head? = some '/'

/-- An absolute path without `..`: the text that relocations look at. -/
def relocatable (value : String) : Bool := isAbsolute value && !(components value).contains ".."

/-- `destination.join(suffix)`, which ends with a separator if there is no suffix. -/
def joined (destination suffix : Path) : String :=
  "/".intercalate ("" :: destination ++ if suffix = [] then [""] else suffix)

/-- `directory_migration::remap_path` -/
def remapPathText (value : String) (source destination : Path) : Option String :=
  if relocatable value && source.isPrefixOf (components value) then
    some (joined destination ((components value).drop source.length))
  else none

/-- `DirectoryLocations::remap` -/
def DirectoryLocations.remapText (locations : DirectoryLocations) (value : String) : String :=
  locations.relocations.foldl (fun value relocation =>
    (remapPathText value relocation.source relocation.destination).getD value) value

/-- `Component::Normal`, as it is spelled. -/
def normal (part : String) : Bool :=
  part ≠ "" && part ≠ "." && part ≠ ".." && !part.toList.contains '/'

section Spelling

variable {value part : String} {source destination suffix : Path}

theorem normal_of_mem (hvalue : relocatable value) (hpart : part ∈ components value) :
    normal part := by
  have hparent : part ≠ ".." := by
    rintro rfl
    simp [relocatable, hpart] at hvalue
  obtain ⟨hmem, hnamed⟩ := List.mem_filter.mp hpart
  obtain ⟨text, htext, rfl⟩ := List.mem_map.mp hmem
  have hseparator := Segments.not_mem_of_mem_splitOn htext
  simp_all [normal]

theorem filter_normal {parts : Path} (hparts : ∀ part ∈ parts, normal part) :
    (parts.filter fun part => part ≠ "" && part ≠ ".") = parts := by
  refine List.filter_eq_self.mpr fun part hpart => ?_
  have hnormal := hparts part hpart
  simp only [normal, Bool.and_eq_true] at hnormal ⊢
  exact hnormal.1.1

theorem splitOn_joined (hdestination : ∀ part ∈ destination, normal part)
    (hsuffix : ∀ part ∈ suffix, normal part) :
    ((joined destination suffix).toList.splitOn '/').map String.ofList =
      "" :: destination ++ if suffix = [] then [""] else suffix := by
  have hseparator : ∀ part, normal part → '/' ∉ part.toList := fun part hpart => by
    simp_all [normal]
  have hparts : ∀ text ∈ ("" :: destination ++ if suffix = [] then [""] else suffix).map
      String.toList, '/' ∉ text := by
    intro text htext
    obtain ⟨part, hpart, rfl⟩ := List.mem_map.mp htext
    rcases List.mem_append.mp hpart with hpart | hpart
    · rcases List.mem_cons.mp hpart with rfl | hpart
      · simp
      · exact hseparator part (hdestination part hpart)
    · split at hpart
      · simp_all
      · exact hseparator part (hsuffix part hpart)
  rw [joined, String.toList_intercalate]
  refine (congrArg _ (List.splitOn_intercalate '/' hparts (by simp))).trans ?_
  rw [List.map_map]
  simp

/-- The relocated path lies where its components say. -/
theorem components_joined (hdestination : ∀ part ∈ destination, normal part)
    (hsuffix : ∀ part ∈ suffix, normal part) :
    components (joined destination suffix) = destination ++ suffix := by
  rw [components, splitOn_joined hdestination hsuffix, List.filter_append, List.filter_cons]
  have hempty : ("" ≠ "" && "" ≠ ".") = false := by decide
  simp only [hempty, Bool.false_eq_true, if_false, filter_normal hdestination]
  by_cases h : suffix = []
  · simp [h]
  · rw [if_neg h, filter_normal hsuffix]

theorem relocatable_joined (hdestination : ∀ part ∈ destination, normal part)
    (hsuffix : ∀ part ∈ suffix, normal part) : relocatable (joined destination suffix) := by
  have habsolute : isAbsolute (joined destination suffix) := by
    obtain ⟨first, rest, hparts⟩ : ∃ first rest,
        (destination ++ if suffix = [] then [""] else suffix) = first :: rest := by
      refine List.exists_cons_of_ne_nil ?_
      split <;> simp_all
    rw [joined, List.cons_append, hparts, isAbsolute, String.intercalate_cons_cons]
    simp
  have hparent : ".." ∉ components (joined destination suffix) := by
    rw [components_joined hdestination hsuffix, List.mem_append]
    rintro (hmem | hmem)
    · exact absurd (hdestination _ hmem) (by decide)
    · exact absurd (hsuffix _ hmem) (by decide)
  simp [relocatable, habsolute, hparent]

end Spelling

namespace UserNamespace

/-- `remap_path` of a saved text -/
def remapText (space : UserNamespace) (value : String) : String :=
  space.remapLocations.remapText value

/-- The text is a path in a directory that was moved away. -/
def displaced (space : UserNamespace) (value : String) : Bool :=
  relocatable value &&
    space.mappings.any fun mapping => mapping.source.isPrefixOf (components value)

/-- The namespaces of accepted mappings; `with_mapping` also requires normal components of the
target. -/
def Accepted (parsesAsUuid : String → Bool) (space : UserNamespace) : Prop :=
  ∃ dataRoot userPublicId mappings,
    (∀ mapping ∈ mappings, mapping.target.all normal) ∧
    build parsesAsUuid dataRoot userPublicId mappings = .ok space

end UserNamespace

section Relocated

variable {locations : DirectoryLocations} {value : String} {relocation : Relocation String}

theorem remapPathText_components (hvalue : relocatable value)
    (hdestination : ∀ part ∈ relocation.destination, normal part) :
    relocatable ((remapPathText value relocation.source relocation.destination).getD value) ∧
      components ((remapPathText value relocation.source relocation.destination).getD value) =
        relocation.apply (components value) := by
  unfold remapPathText Relocation.apply
  by_cases hunder : relocation.source <+: components value
  · have hsuffix : ∀ part ∈ (components value).drop relocation.source.length, normal part :=
      fun part hpart => normal_of_mem hvalue (List.mem_of_mem_drop hpart)
    rw [if_pos hunder, if_pos (by simp [hvalue, hunder])]
    exact ⟨relocatable_joined hdestination hsuffix, components_joined hdestination hsuffix⟩
  · rw [if_neg hunder, if_neg (by simp [hunder])]
    exact ⟨hvalue, rfl⟩

theorem remapText_components (hvalue : relocatable value)
    (hdestinations : ∀ relocation ∈ locations.relocations, ∀ part ∈ relocation.destination,
      normal part) :
    relocatable (locations.remapText value) ∧
      components (locations.remapText value) =
        Relocations.remap locations.relocations (components value) := by
  obtain ⟨_, _, _, relocations⟩ := locations
  show _ ∧ components (relocations.foldl _ value) = _
  unfold DirectoryLocations.remapText
  induction relocations generalizing value with
  | nil => exact ⟨hvalue, rfl⟩
  | cons relocation relocations ih =>
    obtain ⟨hfirst, hcomponents⟩ := remapPathText_components hvalue
      (hdestinations relocation List.mem_cons_self)
    have hrest := ih hfirst fun other hmem => hdestinations other (List.mem_cons_of_mem _ hmem)
    rw [hcomponents] at hrest
    exact hrest

/-- A text stays if it is no absolute path or lies outside all sources. -/
theorem remapText_stays (hvalue : ∀ relocation ∈ locations.relocations,
    relocatable value → ¬relocation.source <+: components value) :
    locations.remapText value = value := by
  obtain ⟨_, _, _, relocations⟩ := locations
  unfold DirectoryLocations.remapText
  induction relocations with
  | nil => rfl
  | cons relocation relocations ih =>
    have hnone : remapPathText value relocation.source relocation.destination = none := by
      have hfirst := hvalue relocation List.mem_cons_self
      unfold remapPathText
      rw [if_neg]
      simpa using hfirst
    have hrest := ih fun other hmem => hvalue other (List.mem_cons_of_mem _ hmem)
    rw [List.foldl_cons, hnone]
    exact hrest

end Relocated

section Accepted

variable {parsesAsUuid : String → Bool} {space : UserNamespace} {value : String}

namespace UserNamespace

theorem Accepted.mapped (h : space.Accepted parsesAsUuid) : Mapped space := by
  obtain ⟨dataRoot, userPublicId, mappings, -, hbuild⟩ := h
  exact Mapped.build hbuild

theorem eq_of_foldlM {mappings : List AccountDirectoryMapping} {next : UserNamespace}
    (h : mappings.foldlM (fun space mapping => space.withMapping parsesAsUuid mapping) space =
      .ok next) : next = { space with mappings := space.mappings ++ mappings } := by
  induction mappings generalizing space with
  | nil =>
    cases h
    simp
  | cons mapping mappings ih =>
    rw [List.foldlM_cons] at h
    obtain ⟨middle, hmapping, hrest⟩ := bind_eq_ok.mp h
    obtain ⟨-, -, -, -, -, -, rfl⟩ := withMapping_ok hmapping
    rw [ih hrest]
    simp

theorem Accepted.spelled (h : space.Accepted parsesAsUuid) :
    canonicalUuid space.userPublicId ∧
      ∀ mapping ∈ space.mappings, ∀ part ∈ mapping.target, Directories.normal part := by
  obtain ⟨dataRoot, userPublicId, mappings, hnormal, hbuild⟩ := h
  obtain ⟨start, hstart, hfold⟩ := bind_eq_ok.mp hbuild
  simp only [UserNamespace.new, bind_eq_ok, exists_unit, ensure_eq_ok, pure_eq_ok] at hstart
  obtain ⟨huser, rfl⟩ := hstart
  rw [eq_of_foldlM hfold]
  refine ⟨huser, fun mapping hmem => ?_⟩
  exact List.all_eq_true.mp (hnormal mapping (by simpa using hmem))

end UserNamespace

theorem Mapped.relocated_outside (h : Mapped space) (path : Path) :
    ∀ mapping ∈ space.mappings, ¬mapping.source <+: space.remapPath path := by
  by_cases hformer : ∃ mapping ∈ space.mappings, mapping.source <+: path
  · obtain ⟨first, hfirst, rest, rfl⟩ := hformer
    obtain ⟨area, harea⟩ := h.named first hfirst
    rw [h.follows first hfirst area harea rest]
    exact fun mapping hmem => h.outside area rest _ (List.mem_map_of_mem hmem)
  · have hstays : space.remapPath path = path := by
      rw [remapPath_eq]
      refine remap_of_outside fun relocation hmem hunder => hformer ?_
      obtain ⟨mapping, hmapping, rfl⟩ := List.mem_map.mp hmem
      exact ⟨mapping, hmapping, hunder⟩
    rw [hstays]
    exact fun mapping hmem hunder => hformer ⟨mapping, hmem, hunder⟩

theorem displaced_eq_false : space.displaced value = false ↔
    ∀ mapping ∈ space.mappings, relocatable value → ¬mapping.source <+: components value := by
  by_cases hvalue : relocatable value
  · simp [UserNamespace.displaced, hvalue]
  · simp [UserNamespace.displaced, hvalue]

theorem UserNamespace.Accepted.remapText_components (h : space.Accepted parsesAsUuid)
    (hvalue : relocatable value) : relocatable (space.remapText value) ∧
      components (space.remapText value) = space.remapPath (components value) := by
  have htargets : ∀ relocation ∈ space.remapLocations.relocations,
      ∀ part ∈ relocation.destination, Directories.normal part := by
    intro relocation hmem
    obtain ⟨mapping, hmapping, rfl⟩ := List.mem_map.mp hmem
    exact h.spelled.2 mapping hmapping
  obtain ⟨hrelocatable, hcomponents⟩ := Directories.remapText_components hvalue htargets
  exact ⟨hrelocatable, hcomponents.trans (remapPath_eq _).symm⟩

theorem displaced_remapText (h : space.Accepted parsesAsUuid) (value : String) :
    space.displaced (space.remapText value) = false := by
  by_cases hvalue : relocatable value
  · rw [displaced_eq_false, (h.remapText_components hvalue).2]
    exact fun mapping hmem _ => h.mapped.relocated_outside (components value) mapping hmem
  · have hstays : space.remapText value = value :=
      remapText_stays fun _ _ hrelocatable => absurd hrelocatable hvalue
    rw [hstays, displaced_eq_false]
    exact fun _ _ hrelocatable => absurd hrelocatable hvalue

/-- Relocations change exactly the texts that are displaced. -/
theorem remapText_eq_self_iff (h : space.Accepted parsesAsUuid) :
    space.remapText value = value ↔ space.displaced value = false := by
  constructor
  · intro hstays
    rw [← hstays]
    exact displaced_remapText h value
  · intro hplaced
    refine remapText_stays fun relocation hmem hrelocatable => ?_
    obtain ⟨mapping, hmapping, rfl⟩ := List.mem_map.mp hmem
    exact displaced_eq_false.mp hplaced mapping hmapping hrelocatable

theorem remapText_idempotent (h : space.Accepted parsesAsUuid) (value : String) :
    space.remapText (space.remapText value) = space.remapText value :=
  (remapText_eq_self_iff h).mpr (displaced_remapText h value)

end Accepted

end ArtForgeStudio.Directories
