import ArtForgeStudio.DirectoryMigration.Calls
import Mathlib.Algebra.GroupWithZero.Nat

/-! # Copying a batch of directories

Every plan is copied, every copy is verified once more, and then the new locations are committed.
The model follows the code for Unix.
-/

namespace ArtForgeStudio.DirectoryMigration

open ArtForgeStudio.Concurrency

/-- A directory with the handles of the directories above it. -/
structure RetainedDirectory where
  path : Path
  ancestors : List Handle
  handle : Handle

namespace RetainedDirectory

def chain (directory : RetainedDirectory) : List Handle := directory.ancestors ++ [directory.handle]

def childDirectory (directory : RetainedDirectory) (name : String) (create : Bool) :
    Fallible RetainedDirectory := do
  let child ← ask (.child directory.handle name true create)
  pure ⟨directory.path ++ [name], directory.chain, child⟩

def descend (directory : RetainedDirectory) : List String → Fallible RetainedDirectory
  | [] => pure directory
  | name :: rest => do
    let child ← directory.childDirectory name false
    child.descend rest

def openPath (path : Path) : Fallible RetainedDirectory := do
  let root ← ask .root
  descend ⟨[], [], root⟩ path

def sameIdentities : List (Handle × Handle) → Fallible Unit
  | [] => pure ()
  | (before, after) :: rest => do
    let old ← ask (.identity before)
    let new ← ask (.identity after)
    if old = new then sameIdentities rest
    else throw (other "迁移目录身份已变化，请重新选择")

/-- The path still leads to the directory, through the same directories. -/
def verify (directory : RetainedDirectory) : Fallible Unit := do
  let current ← openPath directory.path
  if current.chain.length = directory.chain.length then
    sameIdentities (directory.chain.zip current.chain)
  else throw (other "迁移目录已变化")

def replaceFile (directory : RetainedDirectory) (temporary name : String) (output : Handle) :
    Fallible Unit := do
  directory.verify
  ask (.verifyRegular output)
  let staged ← ask (.child directory.handle temporary false false)
  let found ← ask (.identity staged)
  let own ← ask (.identity output)
  if found = own then ask (.rename directory.handle temporary name)
  else throw (other "迁移临时文件身份已变化")

end RetainedDirectory

structure RetainedEntry where
  entry : Entry
  identity : Identity
  stamp : Option Stamp

def Entry.fileName (entry : Entry) : String := entry.relative.getLastD ""

structure RetainedMigration where
  source : RetainedDirectory
  destination : RetainedDirectory
  entries : List RetainedEntry

/-- A plan that was prepared. -/
structure MigrationPlan where
  source : Path
  destination : Path
  entries : List Entry
  retained : RetainedMigration
  bytes : Nat
  files : Nat
  captured : retained.entries.map (·.entry) = entries
  counted : files = (entries.filter (!·.directory)).length

def entryError (root : Path) (entry : Entry) (error : IoError) : IoError :=
  let path := root ++ entry.relative
  ⟨error.kind, path.display ++ "：" ++ error.message,
    some ⟨path, entry.directory, entry.size, error.message⟩⟩

def annotated {α : Type} (annotate : IoError → IoError) (program : Fallible α) : Fallible α :=
  tryCatchThe IoError program fun error => throw (annotate error)

/-- `RetainedMigration::parent` from a directory that was reached. -/
def parentBelow (entries : List RetainedEntry) (directory : RetainedDirectory) (above : Path) :
    List String → Fallible RetainedDirectory
  | [] => pure directory
  | name :: rest =>
    match entries.find? fun held => held.entry.directory && held.entry.relative = above ++ [name] with
    | none => throw (other "迁移父目录尚未验证")
    | some expected => do
      let child ← directory.childDirectory name false
      let identity ← ask (.identity child.handle)
      if identity = expected.identity then parentBelow entries child (above ++ [name]) rest
      else throw (other "迁移父目录身份已变化")

def parent (root : RetainedDirectory) (entries : List RetainedEntry) (relative : Path) :
    Fallible RetainedDirectory :=
  parentBelow entries root [] relative.dropLast

def openEntry (root : RetainedDirectory) (entries : List RetainedEntry) (held : RetainedEntry) :
    Fallible Handle := do
  let parent ← parent root entries held.entry.relative
  let file ← ask (.child parent.handle held.entry.fileName held.entry.directory false)
  let identity ← ask (.identity file)
  if identity = held.identity then pure file
  else throw (other "迁移文件身份已变化")

/-- What is not there, is not there: any other error ends the program. -/
def ifFound {α : Type} (program : Fallible α) : Fallible (Option α) := do
  match ← ExceptT.lift program.run with
  | .ok result => pure (some result)
  | .error error => if error.kind = .notFound then pure none else throw error

def targetParent (directory : RetainedDirectory) : List String → Fallible (Option RetainedDirectory)
  | [] => pure (some directory)
  | name :: rest => do
    match ← ifFound (directory.childDirectory name false) with
    | none => pure none
    | some child => targetParent child rest

def checkTarget (destination : RetainedDirectory) (entry : Entry) : Fallible Unit := do
  match ← targetParent destination entry.relative.dropLast with
  | none => pure ()
  | some parent => do
    let _ ← ifFound (ask (.child parent.handle entry.fileName entry.directory false))
    pure ()

def checkTargets (plan : MigrationPlan) : Fallible Unit := do
  plan.retained.destination.verify
  plan.entries.forM (checkTarget plan.retained.destination)
  plan.retained.destination.verify

def captureStamp (entry : Entry) (file : Handle) : Fallible (Option Stamp) :=
  if entry.directory then pure none else do
    let metadata ← ask (.stamp file)
    if metadata.length = entry.size ∧ metadata.modified = entry.modified then
      some <$> ask (.stamp file)
    else throw (other "准备期间源文件已变化")

/-- The loop of `RetainedMigration::capture`: an entry is opened below those captured before. -/
def captureEntries (source : RetainedDirectory) (held : List RetainedEntry) :
    (snapshot : List Entry) →
      Fallible { all : List RetainedEntry // all.map (·.entry) = held.map (·.entry) ++ snapshot }
  | [] => pure ⟨held, (List.append_nil _).symm⟩
  | entry :: rest => do
    let parent ← parent source held entry.relative
    if entry.relative = [] then throw (other "缺少文件名")
    let file ← ask (.child parent.handle entry.fileName entry.directory false)
    let stamp ← captureStamp entry file
    let identity ← ask (.identity file)
    let all ← captureEntries source (held ++ [⟨entry, identity, stamp⟩]) rest
    pure ⟨all.val, by simp [all.property]⟩

/-- The handles of a plan outlive the calls that prepared it. -/
def Handle.pin : Handle → Handle
  | .opened call => .pinned call
  | .pinned id => .pinned id

def RetainedDirectory.pin (directory : RetainedDirectory) : RetainedDirectory :=
  ⟨directory.path, directory.ancestors.map Handle.pin, directory.handle.pin⟩

def MigrationPlan.pin (plan : MigrationPlan) : MigrationPlan :=
  { plan with retained :=
    ⟨plan.retained.source.pin, plan.retained.destination.pin, plan.retained.entries⟩ }

/-- `prepare`, after the two paths were checked. -/
def MigrationPlan.prepare (source destination : Path) : Fallible MigrationPlan := do
  let retainedSource ← RetainedDirectory.openPath source
  let retainedDestination ← RetainedDirectory.openPath destination
  let entries ← ask (.scan source)
  let held ← captureEntries retainedSource [] entries
  retainedSource.verify
  retainedDestination.verify
  let plan : MigrationPlan := {
    source := source
    destination := destination
    entries := entries
    retained := ⟨retainedSource, retainedDestination, held.val⟩
    bytes := ((entries.filter (!·.directory)).map (·.size)).sum
    files := (entries.filter (!·.directory)).length
    captured := held.property
    counted := rfl }
  checkTargets plan
  pure plan.pin

-- A directory with one file in it: every call is answered alike.
example :
    let answer : Answer := {
      error := none, identity := ⟨1, 7⟩, stamp := ⟨3, 5, 5, 0⟩, data := [], name := ""
      entries := [⟨["a.png"], false, 3, 5⟩] }
    ∃ plan, (Program.alone (List.replicate 34 answer) ⟨[], {}⟩
        (MigrationPlan.prepare ["old"] ["new"]).run).1 = .ret (.ok plan) ∧
      plan.files = 1 ∧ plan.retained.source.handle = .pinned 1 :=
  ⟨_, rfl, rfl, rfl⟩

def verifySourceEntry (plan : MigrationPlan) (held : RetainedEntry) : Fallible Unit := do
  let file ← annotated (entryError plan.source held.entry)
    (openEntry plan.retained.source plan.retained.entries held)
  if held.entry.directory then pure ()
  else do
    let stamp ← annotated (entryError plan.source held.entry) (ask (.stamp file))
    if some stamp = held.stamp then pure ()
    else throw (entryError plan.source held.entry (other "源文件内容已变化，请重新选择"))

def sourceChanged (plan : MigrationPlan) (current : List Entry) : IoError :=
  match (plan.entries.find? (· ∉ current)).or (current.find? (· ∉ plan.entries)) with
  | some changed => entryError plan.source changed (other "目录内容已变化，请重新选择")
  -- `unwrap`: scans are sorted, so that two of them with the same entries are equal
  | none => other "called `Option::unwrap()` on a `None` value"

def verifySource (plan : MigrationPlan) : Fallible Unit := do
  plan.retained.source.verify
  plan.retained.destination.verify
  plan.retained.entries.forM (verifySourceEntry plan)
  let current ← ask (.scan plan.source)
  if current = plan.entries then pure () else throw (sourceChanged plan current)

/-- The inner loop of `retained_equal`: the other file is read up to the same offset. -/
def fill (file : Handle) (offset count : Nat) (filled : List UInt8) :
    Fallible (Option (List UInt8)) :=
  if filled.length < count then do
    let data ← ask (.readAt file (offset + filled.length) (count - filled.length))
    if data.val = [] then pure none else fill file offset count (filled ++ data.val)
  else pure (some filled)
termination_by count - filled.length
decreasing_by
  have := List.length_pos_of_ne_nil ‹¬data.val = []›
  rw [List.length_append]
  omega

def sameBytes (left right : Handle) (length offset : Nat) : Fallible Bool :=
  if offset < length then do
    let data ← ask (.readAt left offset (min (length - offset) 65536))
    if data.val = [] then pure false
    else do
      match ← fill right offset data.val.length [] with
      | none => pure false
      | some filled =>
        if data.val = filled then sameBytes left right length (offset + data.val.length)
        else pure false
  else pure true
termination_by length - offset
decreasing_by
  have := List.length_pos_of_ne_nil ‹¬data.val = []›
  omega

def retainedEqual (left right : Handle) : Fallible Bool := do
  ask (.verifyRegular left)
  ask (.verifyRegular right)
  let beforeLeft ← ask (.stamp left)
  let beforeRight ← ask (.stamp right)
  if beforeLeft.length = beforeRight.length then do
    if ← sameBytes left right beforeLeft.length 0 then do
      let afterLeft ← ask (.stamp left)
      let afterRight ← ask (.stamp right)
      pure (beforeLeft = afterLeft ∧ beforeRight = afterRight)
    else pure false
  else pure false

def u64Max : Nat := 18446744073709551615

/-- The progress of a batch, which passes the progress of its current plan on. -/
structure Progress where
  completed : Nat
  total : Nat

def Progress.advance (progress : Progress) (done : Nat) : Fallible Unit :=
  ask (.progress (min (min (progress.completed + done) u64Max) progress.total) progress.total)

section Copy

variable (plan : MigrationPlan) (progress : Progress)

/-- The loop that fills the staged copy; `done` counts the bytes of the whole plan. -/
def copyBytes (input output : Handle) (size offset done : Nat) : Fallible Nat := do
  let data ← ask (.readAt input offset 131072)
  if data.val = [] then pure done
  else do
    ask (.write output data.val)
    progress.advance (min (done + data.val.length) plan.bytes)
    if size < offset + data.val.length then throw (other "复制期间源文件增长")
    else copyBytes input output size (offset + data.val.length) (done + data.val.length)
termination_by size + 1 - offset
decreasing_by
  have := List.length_pos_of_ne_nil ‹¬data.val = []›
  omega

def copyContents (source : RetainedEntry) (input output : Handle) (done : Nat) : Fallible Nat := do
  let before ← ask (.stamp input)
  if some before = source.stamp then do
    let done ← copyBytes plan progress input output source.entry.size 0 done
    ask (.sync output)
    let after ← ask (.stamp input)
    if before = after then
      if ← retainedEqual input output then pure done
      else throw (other "文件复制校验失败，原文件已保留")
    else throw (other "文件复制校验失败，原文件已保留")
  else throw (other "源文件内容已变化")

/-- The identity and the stamp of what a name of the destination stands for. -/
def observe : Option Handle → Fallible (Option (Identity × Stamp))
  | none => pure none
  | some file => do
    let identity ← ask (.identity file)
    let stamp ← ask (.stamp file)
    pure (some (identity, stamp))

def existing (parent : RetainedDirectory) (entry : Entry) : Fallible (Option Handle) :=
  ifFound (ask (.child parent.handle entry.fileName entry.directory false))

def copyFile (source : RetainedEntry) (input : Handle) (parent : RetainedDirectory)
    (previous : Option (Identity × Stamp)) (done : Nat) : Fallible (Handle × Nat) := do
  let (output, temporary) ← ask (.staging parent.handle)
  let done ← copyContents plan progress source input output done
  let current ← existing parent source.entry
  let current ← observe current
  if current = previous then do
    parent.replaceFile temporary source.entry.fileName output
    pure (output, done)
  else throw (other "复制期间目标文件已变化，请重试")

def copyDirectory (source : RetainedEntry) (parent : RetainedDirectory) :
    Option Handle → Fallible Handle
  | some file => pure file
  | none => ask (.child parent.handle source.entry.fileName true true)

/-- The end of the copy of one entry: what it is from now on. -/
def retain (source : RetainedEntry) (parent : RetainedDirectory) (output : Handle) :
    Fallible RetainedEntry := do
  ask (.sync parent.handle)
  let stamp ← if source.entry.directory then pure none else do
    let stamp ← ask (.stamp output)
    pure (some stamp)
  let identity ← ask (.identity output)
  pure ⟨source.entry, identity, stamp⟩

def copyEntry (outputs : List RetainedEntry) (source : RetainedEntry) (done : Nat) :
    Fallible (RetainedEntry × Nat) := do
  let input ← openEntry plan.retained.source plan.retained.entries source
  let parent ← parent plan.retained.destination outputs source.entry.relative
  parent.verify
  let found ← existing parent source.entry
  let previous ← observe found
  if source.entry.directory then do
    let output ← copyDirectory source parent found
    let copied ← retain source parent output
    pure (copied, done)
  else do
    let (output, done) ← copyFile plan progress source input parent previous done
    let copied ← retain source parent output
    pure (copied, done)

def countCopied (entry : Entry) (report : MigrationReport) : MigrationReport :=
  if entry.directory then report
  else { report with
    copiedFiles := report.copiedFiles + 1
    copiedBytes := report.copiedBytes + entry.size }

def countFailed (entry : Entry) (error : IoError) (report : MigrationReport) : MigrationReport :=
  let path := plan.source ++ entry.relative
  let reason := "复制到 " ++ Path.display (plan.destination ++ entry.relative) ++ " 失败：" ++
    error.message
  if entry.directory then
    { report with operationErrors := report.operationErrors ++ [path.display ++ "：" ++ reason] }
  else { report with failedFiles := report.failedFiles ++ [(path, reason)] }

def copyEntries (outputs : List RetainedEntry) (done : Nat) :
    List RetainedEntry → Fallible (List RetainedEntry)
  | [] => pure outputs
  | source :: rest => do
    match ← ExceptT.lift (copyEntry plan progress outputs source done).run with
    | .ok (output, done) => do
      ExceptT.lift (report (countCopied source.entry))
      copyEntries (outputs ++ [output]) done rest
    | .error error => do
      ExceptT.lift (report (countFailed plan source.entry error))
      throw error

def copyFiles : Fallible (List RetainedEntry) := do
  verifySource plan
  checkTargets plan
  copyEntries plan progress [] 0 plan.retained.entries

end Copy

def verifyPair (plan : MigrationPlan) (outputs : List RetainedEntry)
    (pair : RetainedEntry × RetainedEntry) : Fallible Unit :=
  annotated (entryError plan.source pair.1.entry) do
    let input ← openEntry plan.retained.source plan.retained.entries pair.1
    let output ← openEntry plan.retained.destination outputs pair.2
    if pair.2.entry.directory then ask (.sync output)
    else do
      if ← retainedEqual input output then pure ()
      else throw (other "迁移期间文件发生变化")

def verifyCopy (plan : MigrationPlan) (outputs : List RetainedEntry) : Fallible Unit := do
  verifySource plan
  if outputs.length = plan.retained.entries.length then do
    (plan.retained.entries.zip outputs).forM (verifyPair plan outputs)
    plan.retained.source.verify
    plan.retained.destination.verify
    ask (.sync plan.retained.destination.handle)
  else throw (other "迁移目标文件不完整")

/-- A file that fails now was counted as copied before. -/
def countUnverified (plan : MigrationPlan) (error : IoError) (report : MigrationReport) :
    MigrationReport :=
  match error.entry with
  | none => report
  | some failure =>
    if !failure.directory && plan.entries.any fun entry =>
        !entry.directory && plan.source ++ entry.relative = failure.path then
      { report with
        copiedFiles := report.copiedFiles - 1
        copiedBytes := report.copiedBytes - failure.bytes
        failedFiles := report.failedFiles ++ [(failure.path, "最终校验失败：" ++ failure.reason)] }
    else report

def verifyPlan (plan : MigrationPlan) (outputs : List RetainedEntry) : Fallible Unit :=
  tryCatchThe IoError (verifyCopy plan outputs) fun error => do
    ExceptT.lift (report (countUnverified plan error))
    throw ⟨error.kind, "复核目录 " ++ plan.source.display ++ " 失败：" ++ error.message, none⟩

def totalBytes (plans : List MigrationPlan) : Option Nat :=
  plans.foldlM (fun total plan =>
    if total + plan.bytes ≤ u64Max then some (total + plan.bytes) else none) 0

/-- The plans from one on, with what was copied of those in front of it. -/
def copyPlans (total completed : Nat) :
    List MigrationPlan → Fallible (List (List RetainedEntry))
  | [] => pure []
  | plan :: rest => do
    let outputs ← annotated
      (fun error => ⟨error.kind, "处理目录 " ++ plan.source.display ++ " 失败：" ++ error.message, none⟩)
      (copyFiles plan ⟨completed, total⟩)
    if completed + plan.bytes ≤ u64Max then do
      let copied ← copyPlans total (completed + plan.bytes) rest
      pure (outputs :: copied)
    else throw (other "迁移进度超出支持范围")

def copyAndCommit (plans : List MigrationPlan) (total : Nat) : Fallible Unit := do
  ask (.progress 0 total)
  let copied ← copyPlans total 0 plans
  (plans.zip copied).forM fun pair => verifyPlan pair.1 pair.2
  annotated (fun error => ⟨error.kind, "保存新位置或更新文件索引失败：" ++ error.message, none⟩)
    (ask .commit)

def countFailure (error : IoError) (report : MigrationReport) : MigrationReport :=
  if report.failedFiles.isEmpty && report.operationErrors.isEmpty then
    { report with operationErrors := report.operationErrors ++ [error.message] }
  else report

def copyBatchRetainingSourceWithReport (plans : List MigrationPlan) : Fallible Unit := do
  ExceptT.lift (report fun report =>
    { totalFiles := (plans.map (·.files)).sum, moveSource := report.moveSource })
  match totalBytes plans with
  | none => throw (other "迁移文件总大小超出支持范围")
  | some total =>
    tryCatchThe IoError (copyAndCommit plans total) fun error => do
      ExceptT.lift (report (countFailure error))
      throw (other (error.message ++ "；原文件已保留，目标中可能有未完成副本，请检查后重试"))

end ArtForgeStudio.DirectoryMigration
