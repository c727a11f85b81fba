import ArtForgeStudio.Library.Histories
import Mathlib.Data.List.Defs

/-! # What a directory migration asks of the file system

Other processes act on both trees all the time, so that the file system answers anything. Files
are reached below directories that were pinned when the migration was planned.
-/

namespace ArtForgeStudio.DirectoryMigration

open ArtForgeStudio.Concurrency ArtForgeStudio.Histories

/-- The components of a path, from the root for an absolute one. -/
abbrev Path := List String

def Path.display (path : Path) : String := "/" ++ "/".intercalate path

inductive ErrorKind where
  | notFound
  | alreadyExists
  | other
  deriving DecidableEq

structure MigrationEntryError where
  path : Path
  directory : Bool
  bytes : Nat
  reason : String

/-- `io::Error` with its text, and the entry that it is about, if one was attached. -/
structure IoError where
  kind : ErrorKind
  message : String
  entry : Option MigrationEntryError := none

def other (message : String) : IoError := ⟨.other, message, none⟩

structure Entry where
  relative : Path
  directory : Bool
  size : Nat
  modified : Nat
  deriving DecidableEq

/-- Device and inode. -/
structure Identity where
  device : Nat
  inode : Nat
  deriving DecidableEq

structure Stamp where
  length : Nat
  modified : Nat
  changed : Int
  changedNsec : Int
  deriving DecidableEq

/-- A handle from the plan, or the one that a call opened. -/
inductive Handle where
  | pinned (id : Nat)
  | opened (call : Nat)
  deriving DecidableEq

inductive Call where
  | root
  /-- `RetainedDirectory::child`: links, special files and wrong kinds are errors. -/
  | child (parent : Handle) (name : String) (directory create : Bool)
  /-- `staging_file`: a new file, under a name that did not exist. -/
  | staging (parent : Handle)
  | identity (file : Handle)
  | stamp (file : Handle)
  | verifyRegular (file : Handle)
  | readAt (file : Handle) (offset limit : Nat)
  | write (file : Handle) (data : List UInt8)
  | sync (file : Handle)
  | rename (parent : Handle) (temporary name : String)
  | scan (root : Path)
  | progress (done total : Nat)
  | commit
  deriving DecidableEq

abbrev Call.Value : Call → Type
  | root | child .. => Handle
  | staging _ => Handle × String
  | identity _ => Identity
  | stamp _ => Stamp
  | readAt _ _ limit => { data : List UInt8 // data.length ≤ limit }
  | scan _ => List Entry
  | verifyRegular _ | write .. | sync _ | rename .. | progress .. | commit => Unit

/-- An answer; a call reads the member that it asks for. -/
structure Answer where
  error : Option (ErrorKind × String)
  identity : Identity
  stamp : Stamp
  data : List UInt8
  entries : List Entry
  name : String

def Call.value (answer : Answer) (count : Nat) : (call : Call) → call.Value
  | root | child .. => .opened count
  | staging _ => (.opened count, answer.name)
  | identity _ => answer.identity
  | stamp _ => answer.stamp
  | readAt _ _ limit => ⟨answer.data.take limit, List.length_take_le limit answer.data⟩
  | scan _ => answer.entries
  | verifyRegular _ | write .. | sync _ | rename .. | progress .. | commit => ()

def respond (answer : Answer) (count : Nat) (call : Call) : Except IoError call.Value :=
  match answer.error with
  | some (kind, message) => .error ⟨kind, message, none⟩
  | none => .ok (call.value answer count)

/-- `MigrationReport`; what only the rest of a migration counts is left out. -/
structure MigrationReport where
  totalFiles : Nat := 0
  copiedFiles : Nat := 0
  copiedBytes : Nat := 0
  failedFiles : List (Path × String) := []
  operationErrors : List String := []
  moveSource : Bool := false

abbrev World := State Call.Value IoError MigrationReport
abbrev Action := Program Unit World Answer
abbrev Fallible := ExceptT IoError Action

def ask (call : Call) : Fallible call.Value := perform respond call

def report (update : MigrationReport → MigrationReport) : Action Unit := modifyOwn update

end ArtForgeStudio.DirectoryMigration
