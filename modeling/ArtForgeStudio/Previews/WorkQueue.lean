import ArtForgeStudio.Library.Contents
import Mathlib.Algebra.Group.Nat.Defs
import Mathlib.Logic.Function.Basic

/-! # The queue of preview jobs

A job that is asked for is queued once, and everyone who asks for its picture meanwhile joins the
bucket of its key. A worker takes a job off the queue, loads the picture, and then takes the
bucket, if it is still the one of its job. Every call holds the lock of the queue, so the calls of
all threads come in some order.
-/

namespace ArtForgeStudio.Previews

open ArtForgeStudio.Codecs ArtForgeStudio.Contents

def previewQueueCapacity : Nat := 256

inductive PreviewCollection
  | assets
  | generations
  | inspiration
  deriving DecidableEq

structure PreviewTarget where
  collection : PreviewCollection
  assetId : String
  sourcePath : String
  flatRow : Option Nat := none
  groupRow : Option Nat := none
  groupItemRow : Option Nat := none

/-- The rows of a target do not count. -/
def PreviewTarget.eq (target other : PreviewTarget) : Bool :=
  target.collection = other.collection && target.assetId = other.assetId &&
    target.sourcePath = other.sourcePath

structure PreviewJob where
  jobId : Nat := 0
  queueKey : String
  path : String
  longestEdge : Nat
  purpose : String
  cacheEpoch : Nat

structure PreviewSubscriber (App : Type) where
  app : App
  target : PreviewTarget

structure PreviewSubscriberBucket (App : Type) where
  jobId : Nat
  subscribers : List (PreviewSubscriber App)

structure PreviewWorkState (App : Type) where
  nextJobId : Nat := 0
  queue : List PreviewJob := []
  subscribers : BTreeMap (PreviewSubscriberBucket App) := ∅

namespace PreviewWorkState

variable {App : Type} (state : PreviewWorkState App)

/-- The next id of `u64`, and never zero. -/
def followingJobId (jobId : Nat) : Nat := max ((jobId + 1) % 2 ^ 64) 1

def enqueue (job : PreviewJob) (subscriber : PreviewSubscriber App) :
    Bool × PreviewWorkState App :=
  match state.subscribers[job.queueKey]? with
  | some bucket =>
    if bucket.subscribers.any fun existing => existing.target.eq subscriber.target then (true, state)
    else
      let joined := { bucket with subscribers := bucket.subscribers ++ [subscriber] }
      (true, { state with subscribers := state.subscribers.insert job.queueKey joined })
  | none =>
    if previewQueueCapacity ≤ state.queue.length then (false, state)
    else
      let jobId := followingJobId state.nextJobId
      (true, { nextJobId := jobId, queue := state.queue ++ [{ job with jobId }],
               subscribers := state.subscribers.insert job.queueKey
                 { jobId, subscribers := [subscriber] } })

/-- The first job of the queue; a worker that finds none waits. -/
def nextJob : Option (PreviewJob × PreviewWorkState App) :=
  match state.queue with
  | job :: queue => some (job, { state with queue })
  | [] => none

def hasSubscribers (key : String) (jobId : Nat) : Bool :=
  (state.subscribers[key]?).any fun bucket => bucket.jobId = jobId && !bucket.subscribers.isEmpty

def takeSubscribers (key : String) (jobId : Nat) :
    List (PreviewSubscriber App) × PreviewWorkState App :=
  match state.subscribers[key]? with
  | some bucket =>
    if bucket.jobId = jobId then
      (bucket.subscribers, { state with subscribers := state.subscribers.erase key })
    else ([], state)
  | none => ([], state)

def retain (collection : PreviewCollection) : BTreeMap (PreviewSubscriberBucket App) :=
  state.subscribers.map fun _ bucket =>
    { bucket with subscribers := bucket.subscribers.filter (·.target.collection ≠ collection) }

def emptyKeys (subscribers : BTreeMap (PreviewSubscriberBucket App)) : List String :=
  subscribers.toList.filterMap fun entry =>
    if entry.2.subscribers.isEmpty then some entry.1 else none

def cancelCollection (collection : PreviewCollection) : PreviewWorkState App :=
  let retained := state.retain collection
  { state with subscribers := (emptyKeys retained).foldl (fun map key => map.erase key) retained,
               queue := state.queue.filter (·.queueKey ∉ emptyKeys retained) }

def cancelAll : PreviewWorkState App := { state with queue := [], subscribers := ∅ }

/-- Someone with that target waits in the bucket of the key. -/
def holds (key : String) (target : PreviewTarget) : Bool :=
  (state.subscribers[key]?).any fun bucket => bucket.subscribers.any (·.target.eq target)

/-- Everyone who waits, with the job of the bucket. -/
def waiting : List (Nat × PreviewSubscriber App) :=
  contents (fun bucket => bucket.subscribers.map (bucket.jobId, ·)) state.subscribers

end PreviewWorkState

/-- The calls; those of a worker come in the order of its loop. -/
inductive QueueCall (Worker App : Type)
  | enqueue (job : PreviewJob) (subscriber : PreviewSubscriber App)
  | cancelCollection (collection : PreviewCollection)
  | cancelAll
  | nextJob (worker : Worker)
  | hasSubscribers (worker : Worker)
  | takeSubscribers (worker : Worker)

def QueueCall.isEnqueue {Worker App : Type} : QueueCall Worker App → Bool
  | .enqueue _ _ => true
  | _ => false

/-- The queue, the job of every worker, and what happened so far: who was let in under which job,
which jobs were started, who was handed to a worker, and who was cancelled, with the collection
unless all were. -/
structure PreviewWork (Worker App : Type) where
  state : PreviewWorkState App := {}
  running : Worker → Option PreviewJob := fun _ => none
  accepted : List (Nat × PreviewSubscriber App) := []
  started : List (Worker × PreviewJob) := []
  handed : List (Worker × Nat × PreviewSubscriber App) := []
  cancelled : List (Option PreviewCollection × Nat × PreviewSubscriber App) := []

namespace PreviewWork

variable {Worker App : Type} [DecidableEq Worker]

/-- A subscriber is let in unless an equal target waits already. -/
def admitted (state next : PreviewWorkState App) (success : Bool) (key : String)
    (subscriber : PreviewSubscriber App) : List (Nat × PreviewSubscriber App) :=
  if success && !state.holds key subscriber.target then
    (next.subscribers[key]?).toList.map fun bucket => (bucket.jobId, subscriber)
  else []

/-- A call; a worker that waits for a job does nothing, as does one whose call is not its turn. -/
def step (work : PreviewWork Worker App) : QueueCall Worker App → PreviewWork Worker App
  | .enqueue job subscriber =>
    let (success, next) := work.state.enqueue job subscriber
    { work with
      state := next
      accepted := work.accepted ++ admitted work.state next success job.queueKey subscriber }
  | .cancelCollection collection =>
    { work with
      state := work.state.cancelCollection collection
      cancelled := work.cancelled ++ (work.state.waiting.filter fun waiting =>
        waiting.2.target.collection = collection).map (some collection, ·) }
  | .cancelAll =>
    { work with
      state := work.state.cancelAll
      cancelled := work.cancelled ++ work.state.waiting.map (none, ·) }
  | .nextJob worker =>
    match work.running worker, work.state.nextJob with
    | none, some (job, next) =>
      { work with
        state := next
        running := Function.update work.running worker (some job)
        started := work.started ++ [(worker, job)] }
    | _, _ => work
  | .hasSubscribers _ => work
  | .takeSubscribers worker =>
    match work.running worker with
    | some job =>
      let (taken, next) := work.state.takeSubscribers job.queueKey job.jobId
      { work with
        state := next
        running := Function.update work.running worker none
        handed := work.handed ++ taken.map fun subscriber => (worker, job.jobId, subscriber) }
    | none => work

end PreviewWork

end ArtForgeStudio.Previews
