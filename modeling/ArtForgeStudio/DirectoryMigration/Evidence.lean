import ArtForgeStudio.DirectoryMigration.Copy
import Mathlib.Data.List.TakeDrop

/-! # What the history of a migration shows

A file is replaced, and the new locations are committed, only on evidence: calls that were made
before, with the replies that they had.
-/

namespace ArtForgeStudio.DirectoryMigration

open ArtForgeStudio.Concurrency ArtForgeStudio.Histories

abbrev Events := List (Event Call.Value IoError)

section Evidence

variable (events : Events)

inductive Reached (base : Handle) : Path → Handle → Prop
  | base : Reached base [] base
  | child {above : Path} {name : String} {create : Bool} {parent handle : Handle}
      (hparent : Reached base above parent)
      (hopened : ⟨.child parent name true create, .ok handle⟩ ∈ events) :
      Reached base (above ++ [name]) handle

/-- The entry was opened below the directory, and had the identity. -/
def Found (directory : RetainedDirectory) (entry : Entry) (identity : Identity) (file : Handle) :
    Prop :=
  ∃ parent, Reached events directory.handle entry.relative.dropLast parent ∧
    ⟨.child parent entry.fileName entry.directory false, .ok file⟩ ∈ events ∧
    ⟨.identity file, .ok identity⟩ ∈ events

def Shown (file : Handle) (offset : Nat) (byte : UInt8) : Prop :=
  ∃ start limit data, ⟨.readAt file start limit, .ok data⟩ ∈ events ∧ start ≤ offset ∧
    data.val[offset - start]? = some byte

/-- Two files had one length and the same bytes, and their stamps did not change meanwhile. -/
def Equal (left right : Handle) : Prop :=
  ∃ (before reads after : Events) (leftStamp rightStamp : Stamp),
    (before ++ (reads ++ after)).Sublist events ∧
    (⟨.stamp left, .ok leftStamp⟩ ∈ before ∧ ⟨.stamp right, .ok rightStamp⟩ ∈ before) ∧
    (⟨.stamp left, .ok leftStamp⟩ ∈ after ∧ ⟨.stamp right, .ok rightStamp⟩ ∈ after) ∧
    leftStamp.length = rightStamp.length ∧
    ∀ offset < leftStamp.length, ∃ byte, Shown reads left offset byte ∧ Shown reads right offset byte

def Unchanged (plan : MigrationPlan) (held : RetainedEntry) : Prop :=
  ∃ file, Found events plan.retained.source held.entry held.identity file ∧
    (held.entry.directory = false →
      ∃ stamp, held.stamp = some stamp ∧ ⟨.stamp file, .ok stamp⟩ ∈ events)

def Matches (plan : MigrationPlan) (pair : RetainedEntry × RetainedEntry) : Prop :=
  ∃ input output, Found events plan.retained.source pair.1.entry pair.1.identity input ∧
    Found events plan.retained.destination pair.2.entry pair.2.identity output ∧
    (pair.2.entry.directory = false → Equal events input output)

structure Verified (plan : MigrationPlan) (outputs : List RetainedEntry) : Prop where
  complete : outputs.length = plan.retained.entries.length
  sources : ∀ held ∈ plan.retained.entries, Unchanged events plan held
  scanned : ⟨.scan plan.source, .ok plan.entries⟩ ∈ events
  copies : ∀ pair ∈ plan.retained.entries.zip outputs, Matches events plan pair

/-- An entry was copied: its copy is the directory that was opened or created in its place, or
the staged file that was renamed to its name. -/
def Copied (plan : MigrationPlan) (pair : RetainedEntry × RetainedEntry) : Prop :=
  pair.2.entry = pair.1.entry ∧ ∃ file parent,
    Reached events plan.retained.destination.handle pair.1.entry.relative.dropLast parent ∧
    ⟨.identity file, .ok pair.2.identity⟩ ∈ events ∧
    if pair.1.entry.directory then
      ∃ create, ⟨.child parent pair.1.entry.fileName true create, .ok file⟩ ∈ events
    else ∃ temporary, ⟨.staging parent, .ok (file, temporary)⟩ ∈ events ∧
      ⟨.rename parent temporary pair.1.entry.fileName, .ok ()⟩ ∈ events

/-- What a name stood for: nothing, or a file with an identity and a stamp. -/
def Saw (parent : Handle) (name : String) : Option (Identity × Stamp) → Prop
  | none => ∃ error : IoError, error.kind = .notFound ∧
      ⟨.child parent name false false, .error error⟩ ∈ events
  | some (identity, stamp) => ∃ file, ⟨.child parent name false false, .ok file⟩ ∈ events ∧
      ⟨.identity file, .ok identity⟩ ∈ events ∧ ⟨.stamp file, .ok stamp⟩ ∈ events

end Evidence

def written (file : Handle) (events : Events) : List (Except IoError (List UInt8)) :=
  events.filterMap fun
    | ⟨.write target data, reply⟩ => if target = file then some (reply.map fun _ => data) else none
    | _ => none

/-- Every byte of the input up to its end was written into the staged file, and nothing else. -/
def Staged (events : Events) (input staged : Handle) : Prop :=
  ∃ chunks : List (List UInt8), written staged events = chunks.map .ok ∧
    (∀ offset byte, chunks.flatten[offset]? = some byte → Shown events input offset byte) ∧
    ∃ limit data, ⟨.readAt input chunks.flatten.length limit, .ok data⟩ ∈ events ∧ data.val = []

/-- A name may be replaced by a staged file: the name was looked at, the file was staged from an
entry of the source and filled, the two were compared, and the name stands for the same. -/
def Replaceable (plans : List MigrationPlan) (events : Events) (parent : Handle)
    (temporary name : String) : Prop :=
  ∃ plan ∈ plans, ∃ held ∈ plan.retained.entries, ∃ input staged seen,
    ∃ looked copying compared relooked : Events,
      events = looked ++ (copying ++ (compared ++ relooked)) ∧
      held.entry.directory = false ∧ name = held.entry.fileName ∧
      Reached looked plan.retained.destination.handle held.entry.relative.dropLast parent ∧
      Found looked plan.retained.source held.entry held.identity input ∧
      Saw looked parent name seen ∧
      ⟨.staging parent, .ok (staged, temporary)⟩ ∈ copying ∧
      Staged (looked ++ copying) input staged ∧ written staged (compared ++ relooked) = [] ∧
      Equal compared input staged ∧ Saw relooked parent name seen

def looks : Call → Bool
  | .root | .identity _ | .stamp _ | .verifyRegular _ | .readAt .. | .sync _ | .scan _ => true
  | .child _ _ _ create => !create
  | .staging _ | .write .. | .rename .. | .progress .. | .commit => false

/-- Everything was copied, and then, in one pass that changed nothing, verified. -/
def Committable (plans : List MigrationPlan) (events : Events) : Prop :=
  ∃ (copying pass : Events) (copied : List (List RetainedEntry)), events = copying ++ pass ∧
    (∀ event ∈ pass, looks event.call = true) ∧ copied.length = plans.length ∧
    ∀ pair ∈ plans.zip copied,
      (∀ entry ∈ pair.1.retained.entries.zip pair.2, Copied copying pair.1 entry) ∧
      Verified pass pair.1 pair.2

def Below (plans : List MigrationPlan) (events : Events) (directory : Handle) : Prop :=
  ∃ plan ∈ plans, ∃ relative,
    Reached events plan.retained.destination.handle relative directory

/-- Only destinations change, and files only when they were staged. -/
def allows (plans : List MigrationPlan) (events : Events) : Call → Prop
  | .root | .identity _ | .stamp _ | .verifyRegular _ | .readAt .. | .sync _ | .scan _ => True
  | .child parent _ _ create => create = true → Below plans events parent
  | .staging parent => Below plans events parent
  | .write file _ => ∃ parent temporary, ⟨.staging parent, .ok (file, temporary)⟩ ∈ events
  | .rename parent temporary name =>
    Below plans events parent ∧ Replaceable plans events parent temporary name
  | .progress done total => done ≤ total ∧ ∀ earlier limit reply,
      ⟨.progress earlier limit, reply⟩ ∈ events → limit = total ∧ earlier ≤ done
  | .commit => Committable plans events ∧ ∀ reply, ⟨.commit, reply⟩ ∉ events

def rules (plans : List MigrationPlan) : Rules Call.Value IoError where
  looks := looks
  allows := allows plans
  allows_looks events call h := by
    cases call with
    | child parent name directory create => exact fun hcreate => by simp [looks, hcreate] at h
    | staging | write | rename | progress | commit => cases h
    | _ => trivial

end ArtForgeStudio.DirectoryMigration
