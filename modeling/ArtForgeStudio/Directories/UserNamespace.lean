import ArtForgeStudio.Directories.Locations
import ArtForgeStudio.Api.Wire
import ArtForgeStudio.Library.Outcome

/-! # The directories of a user

A user has a private root with managed areas. Three of the areas may be moved by mappings; the
paths that were saved before follow the chain of mappings of their area.
-/

namespace ArtForgeStudio.Directories

open ArtForgeStudio.Api ArtForgeStudio.Outcome ArtForgeStudio.Relocations

inductive ManagedUserArea where
  | input | output | prompt
  | canvas | canvasUploads | canvasExports
  | references | referencesLibrary | referencesImports
  | previews | recovery | deliveryStaging | videos
  | toolboxCompressionInputs | toolboxCompressionResults
  | toolboxConversionInputs | toolboxConversionResults | toolboxCropInputs
  deriving DecidableEq

namespace ManagedUserArea

/-- `MANAGED_USER_AREAS` -/
def all : List ManagedUserArea :=
  [input, output, prompt, canvas, canvasUploads, canvasExports, references, referencesLibrary,
    referencesImports, previews, recovery, deliveryStaging, videos, toolboxCompressionInputs,
    toolboxCompressionResults, toolboxConversionInputs, toolboxConversionResults,
    toolboxCropInputs]

def storageName : ManagedUserArea → String
  | input => "input"
  | output => "output"
  | prompt => "prompt"
  | canvas => "canvas"
  | canvasUploads => "canvas-uploads"
  | canvasExports => "canvas-exports"
  | references => "references"
  | referencesLibrary => "references-library"
  | referencesImports => "references-imports"
  | previews => "previews"
  | recovery => "recovery"
  | deliveryStaging => "delivery-staging"
  | videos => "videos"
  | toolboxCompressionInputs => "toolbox-compression-inputs"
  | toolboxCompressionResults => "toolbox-compression-results"
  | toolboxConversionInputs => "toolbox-conversion-inputs"
  | toolboxConversionResults => "toolbox-conversion-results"
  | toolboxCropInputs => "toolbox-crop-inputs"

def fromStorageName (value : String) : Except String ManagedUserArea :=
  match all.find? (·.storageName = value) with
  | some area => .ok area
  | none => .error "unknown managed area"

def relativePath : ManagedUserArea → Path
  | input => ["input"]
  | output => ["out"]
  | prompt => ["prompt"]
  | canvas => ["canvas"]
  | canvasUploads => ["canvas", "uploads"]
  | canvasExports => ["canvas", "exports"]
  | references => ["references"]
  | referencesLibrary => ["references", "library"]
  | referencesImports => ["references", "imports"]
  | previews => ["previews"]
  | recovery => ["recovery"]
  | deliveryStaging => ["delivery-staging"]
  | videos => ["videos"]
  | toolboxCompressionInputs => ["toolbox", "compression-inputs"]
  | toolboxCompressionResults => ["toolbox", "compression-results"]
  | toolboxConversionInputs => ["toolbox", "conversion-inputs"]
  | toolboxConversionResults => ["toolbox", "conversion-results"]
  | toolboxCropInputs => ["toolbox", "crop-inputs"]

/-- The areas that a mapping may move. -/
def movable (area : ManagedUserArea) : Bool := area = input || area = output || area = prompt

end ManagedUserArea

def materialDirectoryName : String := "Elunvi Canvas"

def materialOwnerFile : String := ".elunvi-materials.json"

def materialFolderName : ManagedUserArea → Except String String
  | .input => .ok "输入素材"
  | .output => .ok "生成图片"
  | .prompt => .ok "提示词模板"
  | _ => .error "unsupported material area"

/-- What `with_mapping` reads of a mapping; the owner is that of `material_owner`. -/
structure AccountDirectoryMapping where
  version : Nat
  area : String
  source : Path
  target : Path
  materialOwner : Option String := none
  deriving DecidableEq

structure UserNamespace where
  userPublicId : String
  root : Path
  mappings : List AccountDirectoryMapping := []
  deriving DecidableEq

def eqIgnoreAsciiCase (a b : String) : Bool := a.toList.map Char.toLower = b.toList.map Char.toLower

section Namespaces

/- `Uuid::parse_str(..).is_ok()` -/
variable (parsesAsUuid : String → Bool)

/-- The first three components name the storage of an account. -/
def reservedAccount : Path → Bool
  | root :: accounts :: user :: _ =>
    eqIgnoreAsciiCase root "ElunviCanvas" && eqIgnoreAsciiCase accounts "accounts" &&
      parsesAsUuid user
  | _ => false

/-- The first two components name a folder of material storage. -/
def reservedMaterial : Path → Bool
  | root :: folder :: _ =>
    eqIgnoreAsciiCase root materialDirectoryName &&
      ["输入素材", "生成图片", "提示词模板", materialOwnerFile].contains folder
  | _ => false

def rejectReservedAccountPath (path : Path) : Except String Unit := do
  rejectIf (path.tails.any (reservedAccount parsesAsUuid))
    "external destination/source is reserved account storage"
  rejectIf (path.tails.any reservedMaterial)
    "external destination/source is reserved material storage"

namespace UserNamespace

/-- `UserNamespace::new` -/
def new (dataRoot : Path) (userPublicId : String) : Except String UserNamespace := do
  ensure (canonicalUuid userPublicId) "user namespace id must use canonical UUID spelling"
  pure { userPublicId := userPublicId, root := dataRoot ++ ["accounts", userPublicId] }

variable (space : UserNamespace)

/-- The place of an area: the target of its last mapping, or its place in the root. -/
def path (area : ManagedUserArea) : Path :=
  match space.mappings.reverse.find? (·.area = area.storageName) with
  | some mapping => mapping.target
  | none => space.root ++ area.relativePath

/-- The end that the target must have, and how many components of the target it stands for. -/
def requiredSuffix (mapping : AccountDirectoryMapping) (area : ManagedUserArea) :
    Except String (Path × Nat) :=
  if mapping.version = 1 then do
    ensure (mapping.materialOwner = none) "unexpected material ownership binding"
    pure (["ElunviCanvas", "accounts", space.userPublicId] ++ area.relativePath, 4)
  else if mapping.materialOwner.isSome then do
    ensure (mapping.materialOwner = some space.userPublicId) "material directory ownership changed"
    let folder ← materialFolderName area
    pure ([materialDirectoryName, folder], 2)
  else do
    ensure (mapping.version = 2) "readable material mapping requires ownership"
    pure (area.relativePath, 1)

def withMapping (mapping : AccountDirectoryMapping) : Except String UserNamespace := do
  let area ← ManagedUserArea.fromStorageName mapping.area
  ensure ((mapping.version = 1 ∨ mapping.version = 2 ∨ mapping.version = 3) ∧ area.movable)
    "invalid account directory mapping"
  ensure (mapping.source = space.path area) "mapping source does not match namespace"
  let (suffix, depth) ← space.requiredSuffix mapping area
  ensure (depth ≤ mapping.target.length) "mapping target is too shallow"
  rejectReservedAccountPath parsesAsUuid (mapping.target.take (mapping.target.length - depth))
  ensure (suffix <:+ mapping.target ∧ ¬space.root.dropLast <+: mapping.target)
    "mapping target has invalid account ownership"
  rejectIf (ManagedUserArea.all.any fun other => overlaps mapping.target (space.path other))
    "migration target overlaps a managed directory"
  rejectIf (space.mappings.any fun old => overlaps mapping.target old.source)
    "migration target overlaps historical source"
  pure { space with mappings := space.mappings ++ [mapping] }

/-- `UserNamespace::new` and the mappings of the account, in order. -/
def build (dataRoot : Path) (userPublicId : String) (mappings : List AccountDirectoryMapping) :
    Except String UserNamespace := do
  let space ← new dataRoot userPublicId
  mappings.foldlM (fun space mapping => space.withMapping parsesAsUuid mapping) space

def remapLocations : DirectoryLocations :=
  { relocations := space.mappings.map fun mapping => ⟨mapping.source, mapping.target⟩ }

/-- `remap_path` -/
def remapPath (value : Path) : Path := space.remapLocations.remap value

end UserNamespace

/-- The invariant of a namespace: sources lie apart from all current directories, an area that
may move lies apart from the other areas, and what lay in a source is now in its area. -/
structure Mapped (space : UserNamespace) : Prop where
  named : ∀ mapping ∈ space.mappings, ∃ area : ManagedUserArea, mapping.area = area.storageName
  sources : ∀ mapping ∈ space.mappings, ∀ area, Apart mapping.source (space.path area)
  areas : ∀ area other, area.movable = true → other ≠ area →
    Apart (space.path area) (space.path other)
  follows : ∀ mapping ∈ space.mappings, ∀ area, mapping.area = area.storageName →
    ∀ rest, space.remapPath (mapping.source ++ rest) = space.path area ++ rest

section Laws

variable {parsesAsUuid} {space next : UserNamespace} {mapping : AccountDirectoryMapping}
  {area : ManagedUserArea}

theorem storageName_injective {a b : ManagedUserArea} (h : a.storageName = b.storageName) : a = b := by
  revert h
  cases a <;> cases b <;> first | exact fun _ => rfl | exact fun h => absurd h (by decide)

theorem mem_all (area : ManagedUserArea) : area ∈ ManagedUserArea.all := by
  cases area <;> decide

theorem fromStorageName_ok {value : String} (h : ManagedUserArea.fromStorageName value = .ok area) :
    value = area.storageName := by
  unfold ManagedUserArea.fromStorageName at h
  split at h
  · rename_i found hfound
    cases h
    simpa [eq_comm] using List.find?_some hfound
  · cases h

theorem remapPath_eq (value : Path) : space.remapPath value =
    Relocations.remap (space.mappings.map fun mapping => ⟨mapping.source, mapping.target⟩) value :=
  DirectoryLocations.remap_eq value

/-- What an accepted mapping met. -/
theorem withMapping_ok (h : space.withMapping parsesAsUuid mapping = .ok next) :
    ∃ area, mapping.area = area.storageName ∧ area.movable = true ∧
      mapping.source = space.path area ∧ (∀ other, Apart mapping.target (space.path other)) ∧
      (∀ old ∈ space.mappings, Apart mapping.target old.source) ∧
      next = { space with mappings := space.mappings ++ [mapping] } := by
  unfold UserNamespace.withMapping at h
  obtain ⟨area, harea, h⟩ := bind_eq_ok.mp h
  simp only [bind_eq_ok, exists_unit, ensure_eq_ok, rejectIf_eq_ok, pure_eq_ok] at h
  obtain ⟨⟨-, hmovable⟩, hsource, suffix, -, -, -, -, hareas, hhistory, rfl⟩ := h
  refine ⟨area, fromStorageName_ok harea, hmovable, hsource, fun other => ?_, fun old hold => ?_, rfl⟩
  · have hall := (List.any_eq_false.mp (Bool.not_eq_true _ ▸ hareas)) other (mem_all other)
    exact overlaps_eq_false.mp (Bool.not_eq_true _ ▸ hall)
  · have hall := (List.any_eq_false.mp (Bool.not_eq_true _ ▸ hhistory)) old hold
    exact overlaps_eq_false.mp (Bool.not_eq_true _ ▸ hall)

/-- The new mapping alone moves its area. -/
theorem path_append (space : UserNamespace) (mapping : AccountDirectoryMapping) (other : ManagedUserArea) :
    UserNamespace.path { space with mappings := space.mappings ++ [mapping] } other =
      if mapping.area = other.storageName then mapping.target else space.path other := by
  unfold UserNamespace.path
  by_cases h : mapping.area = other.storageName
  · simp [h]
  · simp [h]

theorem relativePath_apart {other : ManagedUserArea} (hmovable : area.movable = true)
    (hne : other ≠ area) : Apart area.relativePath other.relativePath := by
  cases area with
  | input => cases other <;> first | exact absurd rfl hne | decide
  | output => cases other <;> first | exact absurd rfl hne | decide
  | prompt => cases other <;> first | exact absurd rfl hne | decide
  | _ => cases hmovable

theorem Mapped.new {dataRoot : Path} {userPublicId : String}
    (h : UserNamespace.new dataRoot userPublicId = .ok space) : Mapped space := by
  simp only [UserNamespace.new, bind_eq_ok, exists_unit, ensure_eq_ok, pure_eq_ok] at h
  obtain ⟨-, rfl⟩ := h
  refine ⟨by simp, by simp, fun area other hmovable hne => ?_, by simp⟩
  have happart := relativePath_apart hmovable hne
  simpa [Apart, UserNamespace.path, List.prefix_append_right_inj] using happart

/-- A path in the current directory of an area lies outside all sources. -/
theorem Mapped.outside (h : Mapped space) (area : ManagedUserArea) (rest : Path) :
    ∀ relocation ∈ space.mappings.map fun mapping =>
        (⟨mapping.source, mapping.target⟩ : Relocation String),
      ¬relocation.source <+: space.path area ++ rest := by
  intro relocation hmem
  obtain ⟨mapping, hmapping, rfl⟩ := List.mem_map.mp hmem
  exact (h.sources mapping hmapping area).not_prefix_append rest

theorem Mapped.current (h : Mapped space) (area : ManagedUserArea) (rest : Path) :
    space.remapPath (space.path area ++ rest) = space.path area ++ rest := by
  rw [remapPath_eq]
  exact remap_of_outside (h.outside area rest)

theorem remapPath_append (space : UserNamespace) (mapping : AccountDirectoryMapping) (value : Path) :
    UserNamespace.remapPath { space with mappings := space.mappings ++ [mapping] } value =
      Relocation.apply ⟨mapping.source, mapping.target⟩ (space.remapPath value) := by
  rw [remapPath_eq, remapPath_eq, List.map_append, List.map_singleton, remap_concat]

theorem Mapped.withMapping (h : Mapped space)
    (hmapping : space.withMapping parsesAsUuid mapping = .ok next) : Mapped next := by
  obtain ⟨area, harea, hmovable, hsource, hareas, hhistory, rfl⟩ := withMapping_ok hmapping
  have hpath := path_append space mapping
  have hmoved : ∀ other, mapping.area = other.storageName ↔ other = area := by
    intro other
    rw [harea]
    exact ⟨fun heq => storageName_injective heq.symm, fun heq => by rw [heq]⟩
  simp only [hmoved] at hpath
  refine ⟨?_, ?_, ?_, ?_⟩
  · intro old hold
    rcases List.mem_append.mp hold with hold | hnew
    · exact h.named old hold
    · exact ⟨area, by rw [List.mem_singleton.mp hnew, harea]⟩
  · intro old hold other
    rw [hpath]
    rcases List.mem_append.mp hold with hold | hnew
    · split
      · exact (hhistory old hold).symm
      · exact h.sources old hold other
    · obtain rfl := List.mem_singleton.mp hnew
      split
      · rw [hsource]
        exact (hareas area).symm
      · rename_i hne
        rw [hsource]
        exact h.areas area other hmovable hne
  · intro one other hone hne
    rw [hpath, hpath]
    by_cases hfirst : one = area
    · rw [if_pos hfirst, if_neg (hfirst ▸ hne)]
      exact hareas other
    · rw [if_neg hfirst]
      split
      · exact (hareas one).symm
      · exact h.areas one other hone hne
  · intro old hold other hother rest
    rw [hpath, remapPath_append]
    rcases List.mem_append.mp hold with hold | hnew
    · rw [h.follows old hold other hother rest]
      split
      · rename_i heq
        subst heq
        rw [hsource]
        exact apply_source_append ⟨space.path other, mapping.target⟩ rest
      · rename_i hne
        refine apply_of_not_prefix ?_
        rw [hsource]
        exact (h.areas area other hmovable hne).not_prefix_append rest
    · obtain rfl := List.mem_singleton.mp hnew
      rw [if_pos ((hmoved other).mp hother), hsource, h.current area rest]
      exact apply_source_append ⟨space.path area, old.target⟩ rest

theorem Mapped.foldlM {mappings : List AccountDirectoryMapping} (h : Mapped space)
    (hfold : mappings.foldlM (fun space mapping => space.withMapping parsesAsUuid mapping) space =
      .ok next) : Mapped next := by
  induction mappings generalizing space with
  | nil =>
    cases hfold
    exact h
  | cons mapping mappings ih =>
    rw [List.foldlM_cons] at hfold
    obtain ⟨middle, hmapping, hrest⟩ := bind_eq_ok.mp hfold
    exact ih (h.withMapping hmapping) hrest

theorem Mapped.build {dataRoot : Path} {userPublicId : String}
    {mappings : List AccountDirectoryMapping}
    (h : UserNamespace.build parsesAsUuid dataRoot userPublicId mappings = .ok space) :
    Mapped space := by
  obtain ⟨start, hstart, hfold⟩ := bind_eq_ok.mp h
  exact (Mapped.new hstart).foldlM hfold

end Laws

/-- Relocation leaves what is in place, carries what lies in a former directory of an area into
its current one, leaves everything else, and does nothing the second time. -/
theorem relocation_algebra {dataRoot : Path} {userPublicId : String}
    {mappings : List AccountDirectoryMapping} {space : UserNamespace}
    (h : UserNamespace.build parsesAsUuid dataRoot userPublicId mappings = .ok space) :
    (∀ area rest, space.remapPath (space.path area ++ rest) = space.path area ++ rest) ∧
    (∀ mapping ∈ space.mappings, ∀ area, mapping.area = area.storageName → ∀ rest,
      space.remapPath (mapping.source ++ rest) = space.path area ++ rest) ∧
    (∀ value, (∀ mapping ∈ space.mappings, ¬mapping.source <+: value) →
      space.remapPath value = value) ∧
    ∀ value, space.remapPath (space.remapPath value) = space.remapPath value := by
  have hmapped := Mapped.build h
  have houtside : ∀ value, (∀ mapping ∈ space.mappings, ¬mapping.source <+: value) →
      space.remapPath value = value := by
    intro value hvalue
    rw [remapPath_eq]
    refine remap_of_outside fun relocation hmem => ?_
    obtain ⟨mapping, hmapping, rfl⟩ := List.mem_map.mp hmem
    exact hvalue mapping hmapping
  refine ⟨hmapped.current, hmapped.follows, houtside, fun value => ?_⟩
  by_cases hformer : ∃ mapping ∈ space.mappings, mapping.source <+: value
  · obtain ⟨mapping, hmapping, rest, rfl⟩ := hformer
    obtain ⟨area, harea⟩ := hmapped.named mapping hmapping
    rw [hmapped.follows mapping hmapping area harea rest, hmapped.current area rest]
  · have hstays := houtside value fun mapping hmapping hprefix =>
      hformer ⟨mapping, hmapping, hprefix⟩
    rw [hstays, hstays]

end Namespaces

/-- The output directory of a user moves to another disk. -/
def movedOutput : UserNamespace where
  userPublicId := "00000000-0000-4000-8000-000000000001"
  root := ["data", "accounts", "00000000-0000-4000-8000-000000000001"]
  mappings := [{ version := 2, area := "output", target := ["disk", "out"],
                 source := ["data", "accounts", "00000000-0000-4000-8000-000000000001", "out"] }]

theorem relocation_algebra_moved :
    movedOutput.remapPath
        (["data", "accounts", "00000000-0000-4000-8000-000000000001", "out"] ++ ["image"]) =
      ["disk", "out"] ++ ["image"] := by
  have hbuild : UserNamespace.build canonicalUuid ["data"] movedOutput.userPublicId
      movedOutput.mappings = .ok movedOutput := by rfl
  exact (relocation_algebra canonicalUuid hbuild).2.1 _ (List.mem_singleton.mpr rfl) .output rfl
    ["image"]

end ArtForgeStudio.Directories
