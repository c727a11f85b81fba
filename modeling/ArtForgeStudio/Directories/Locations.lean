import ArtForgeStudio.Library.Relocations

/-! # The locations of the shared directories

The client keeps three directories that the user may move, and the history of the moves, which
relocates the paths that were saved before. A path is the list of its components.
-/

namespace ArtForgeStudio.Directories

open ArtForgeStudio.Relocations

/-- An absolute path, as its components below the root. -/
abbrev Path := List String

/-- `directory_migration::remap_path` on absolute paths without `..`. -/
def remapPath (value source destination : Path) : Option Path :=
  if source <+: value then some (destination ++ value.drop source.length) else none

/-- `directory_migration::overlaps` -/
def overlaps (left right : Path) : Bool := right.isPrefixOf left || left.isPrefixOf right

structure DirectoryLocations where
  input : Option Path := none
  output : Option Path := none
  prompt : Option Path := none
  relocations : List (Relocation String) := []

def directoryKinds : List String := ["input", "output", "prompt"]

namespace DirectoryLocations

variable (appDataDir : Path) (locations : DirectoryLocations)

/-- `remap`: every relocation rewrites what the ones before it left. -/
def remap (value : Path) : Path :=
  locations.relocations.foldl (fun value relocation =>
    (remapPath value relocation.source relocation.destination).getD value) value

def directory (kind : String) : Option Path :=
  match kind with
  | "input" => some (locations.input.getD (appDataDir ++ ["input"]))
  | "output" => some (locations.output.getD (appDataDir ++ ["out"]))
  | "prompt" => some (locations.prompt.getD (appDataDir ++ ["prompt"]))
  | _ => none

def configure (kind : String) (destination : Path) : Except String DirectoryLocations :=
  match kind with
  | "input" => .ok { locations with input := some destination }
  | "output" => .ok { locations with output := some destination }
  | "prompt" => .ok { locations with prompt := some destination }
  | _ => .error "未知目录类型"

/-- The root of a directory and the historical sources inside it. -/
def boundaries (root : Path) : List Path :=
  root :: (locations.relocations.filter fun entry =>
    (remapPath entry.source root root).isSome).map (·.source)

/-- Every boundary of an active root is a fixed point of the relocations. -/
def unambiguous (kind : String) : Bool :=
  match locations.directory appDataDir kind with
  | some root => (locations.boundaries root).all fun boundary => locations.remap boundary = boundary
  | none => true

def migrated (kind : String) (source destination : Path) : Except String DirectoryLocations := do
  let next ← locations.configure kind destination
  let next := { next with relocations := next.relocations ++ [⟨source, destination⟩] }
  if directoryKinds.all (next.unambiguous appDataDir) then pure next
  else .error "该目标目录会与历史迁移路径混淆，请选择新的独立文件夹"

/-- The locations after moves of current directories to places apart from all of them. -/
inductive Reached : DirectoryLocations → Prop
  | default : Reached {}
  | migrated {before after} (h : Reached before) (kind : String) (source destination : Path)
      (hsource : before.directory appDataDir kind = some source)
      (hdestination : ∀ other root, before.directory appDataDir other = some root →
        overlaps destination root = false)
      (hmigrated : before.migrated appDataDir kind source destination = .ok after) : Reached after

end DirectoryLocations

inductive DirectoryKind where
  | input | output | prompt
  deriving DecidableEq

def DirectoryKind.text : DirectoryKind → String
  | input => "input"
  | output => "output"
  | prompt => "prompt"

theorem overlaps_eq_false {left right : Path} : overlaps left right = false ↔ Apart left right := by
  rw [overlaps, Bool.or_eq_false_iff, Apart, ← List.isPrefixOf_iff_prefix,
    ← List.isPrefixOf_iff_prefix, Bool.not_eq_true, Bool.not_eq_true]
  exact and_comm

theorem remapPath_getD {value : Path} {relocation : Relocation String} :
    (remapPath value relocation.source relocation.destination).getD value = relocation.apply value := by
  unfold remapPath Relocation.apply
  split <;> rfl

namespace DirectoryLocations

variable {appDataDir : Path} {locations next : DirectoryLocations} {kind : String}
  {root source destination : Path}

theorem remap_eq (value : Path) :
    locations.remap value = Relocations.remap locations.relocations value := by
  simp only [remap, remapPath_getD, Relocations.remap]

/-- The directory of each kind. -/
def current (appDataDir : Path) (locations : DirectoryLocations) : DirectoryKind → Path
  | .input => locations.input.getD (appDataDir ++ ["input"])
  | .output => locations.output.getD (appDataDir ++ ["out"])
  | .prompt => locations.prompt.getD (appDataDir ++ ["prompt"])

theorem directory_eq_some : locations.directory appDataDir kind = some root ↔
    ∃ which : DirectoryKind, kind = which.text ∧ locations.current appDataDir which = root := by
  unfold directory
  constructor
  · intro h
    split at h
    · exact ⟨.input, rfl, Option.some.inj h⟩
    · exact ⟨.output, rfl, Option.some.inj h⟩
    · exact ⟨.prompt, rfl, Option.some.inj h⟩
    · cases h
  · rintro ⟨which, rfl, rfl⟩
    cases which <;> rfl

theorem configure_ok (appDataDir : Path) (h : locations.configure kind destination = .ok next) :
    ∃ which : DirectoryKind, kind = which.text ∧ next.relocations = locations.relocations ∧
      next.current appDataDir =
        Function.update (locations.current appDataDir) which destination := by
  unfold configure at h
  split at h <;> cases h
  · refine ⟨.input, rfl, rfl, funext fun which => ?_⟩
    cases which <;> simp [current]
  · refine ⟨.output, rfl, rfl, funext fun which => ?_⟩
    cases which <;> simp [current]
  · refine ⟨.prompt, rfl, rfl, funext fun which => ?_⟩
    cases which <;> simp [current]

theorem migrated_ok (h : locations.migrated appDataDir kind source destination = .ok next) :
    ∃ which : DirectoryKind, kind = which.text ∧
      next.current appDataDir =
        Function.update (locations.current appDataDir) which destination ∧
      next.relocations = locations.relocations ++ [⟨source, destination⟩] ∧
      ∀ which : DirectoryKind, next.unambiguous appDataDir which.text = true := by
  unfold migrated at h
  cases hconfigure : locations.configure kind destination with
  | error message => simp [hconfigure, bind, Except.bind] at h
  | ok configured =>
    obtain ⟨which, hkind, hrelocations, hcurrent⟩ := configure_ok appDataDir hconfigure
    simp only [hconfigure, bind, Except.bind] at h
    split at h
    · rename_i hall
      cases h
      refine ⟨which, hkind, hcurrent, by rw [hrelocations], fun which => ?_⟩
      exact List.all_eq_true.mp hall _ (by cases which <;> decide)
    · cases h

theorem unambiguous_iff {which : DirectoryKind} :
    locations.unambiguous appDataDir which.text = true ↔
      locations.remap (locations.current appDataDir which) = locations.current appDataDir which ∧
      ∀ relocation ∈ locations.relocations,
        locations.current appDataDir which <+: relocation.source →
        locations.remap relocation.source = relocation.source := by
  have hdirectory : locations.directory appDataDir which.text =
      some (locations.current appDataDir which) := directory_eq_some.mpr ⟨which, rfl, rfl⟩
  simp only [unambiguous, hdirectory, boundaries, List.all_cons, Bool.and_eq_true,
    decide_eq_true_eq, List.all_map, List.all_filter, List.all_eq_true]
  refine and_congr_right fun _ => forall₂_congr fun relocation _ => ?_
  by_cases hinside : locations.current appDataDir which <+: relocation.source
  · simp [remapPath, hinside]
  · simp [remapPath, hinside]

theorem default_apart (a b : DirectoryKind) (hne : a ≠ b) :
    Apart (current appDataDir {} a) (current appDataDir {} b) := by
  cases a <;> cases b <;>
    first
      | exact absurd rfl hne
      | simp [Apart, current, List.prefix_append_right_inj]

/-- Every reached history is one of directories that move apart, and its roots are fixed. -/
theorem Reached.moved (h : Reached appDataDir locations) :
    Moved (current appDataDir {}) (locations.current appDataDir) locations.relocations ∧
      ∀ which : DirectoryKind, locations.unambiguous appDataDir which.text = true := by
  induction h with
  | default => exact ⟨.start, fun which => unambiguous_iff.mpr ⟨rfl, nofun⟩⟩
  | @migrated before after h kind source destination hsource hdestination hmigrated ih =>
    obtain ⟨which, rfl, hcurrent, hrelocations, hchecked⟩ := migrated_ok hmigrated
    obtain ⟨other, htext, rfl⟩ := directory_eq_some.mp hsource
    have hother : other = which := by cases other <;> cases which <;> simp_all [DirectoryKind.text]
    subst hother
    refine ⟨?_, hchecked⟩
    rw [hcurrent, hrelocations]
    refine ih.1.move other destination fun kind => overlaps_eq_false.mp ?_
    exact hdestination kind.text _ (directory_eq_some.mpr ⟨kind, rfl, rfl⟩)

end DirectoryLocations

open DirectoryLocations

/-- Every path inside a current directory is a fixed point of the relocations. -/
theorem current_directories_fixed {appDataDir : Path} {locations : DirectoryLocations}
    (h : Reached appDataDir locations) {kind : String} {root : Path}
    (hroot : locations.directory appDataDir kind = some root) (rest : Path) :
    locations.remap (root ++ rest) = root ++ rest := by
  obtain ⟨which, rfl, rfl⟩ := directory_eq_some.mp hroot
  obtain ⟨hmoved, hchecked⟩ := h.moved
  obtain ⟨hfixed, hsources⟩ := unambiguous_iff.mp (hchecked which)
  rw [remap_eq]
  rw [remap_eq] at hfixed
  refine hmoved.fixed default_apart hfixed (fun relocation hmem hinside => ?_) rest
  rw [← remap_eq]
  exact hsources relocation hmem hinside

/-- The input directory moves away and back: its files are found where they are. -/
theorem current_directories_fixed_restored :
    let moved : DirectoryLocations :=
      { input := some ["a", "input"],
        relocations := [⟨["data", "input"], ["a", "input"]⟩] }
    let restored : DirectoryLocations :=
      { input := some ["data", "input"],
        relocations := moved.relocations ++ [⟨["a", "input"], ["data", "input"]⟩] }
    restored.remap (["data", "input"] ++ ["image"]) = ["data", "input"] ++ ["image"] := by
  intro moved restored
  have hmoved : Reached ["data"] moved := by
    refine .migrated .default "input" ["data", "input"] ["a", "input"] rfl ?_ rfl
    intro other root hother
    obtain ⟨which, rfl, rfl⟩ := directory_eq_some.mp hother
    cases which <;> decide
  have hrestored : Reached ["data"] restored := by
    refine .migrated hmoved "input" ["a", "input"] ["data", "input"] rfl ?_ rfl
    intro other root hother
    obtain ⟨which, rfl, rfl⟩ := directory_eq_some.mp hother
    cases which <;> decide
  exact current_directories_fixed hrestored (show restored.directory ["data"] "input" = some ["data", "input"] from rfl) ["image"]

end ArtForgeStudio.Directories
