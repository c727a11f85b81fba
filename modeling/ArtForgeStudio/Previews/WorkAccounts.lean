import ArtForgeStudio.Previews.WorkJobs
import ArtForgeStudio.Library.Runs

/-! # Every subscriber of the preview queue is served once

A job keeps its id from the queue to the end of its worker, and a bucket belongs to the job of its
id. Whoever was let in waits in a bucket, was handed to the worker of that job, or was cancelled.
-/

namespace ArtForgeStudio.Previews

open ArtForgeStudio.Contents ArtForgeStudio.Runs

section Subscribers

variable {Worker App : Type} {work : PreviewWork Worker App} {state next last : PreviewWorkState App}
  {job : PreviewJob} {subscriber : PreviewSubscriber App} {call : QueueCall Worker App}
  {calls : List (QueueCall Worker App)}

/-- The invariant: jobs and buckets belong together, and the account of the subscribers is even. -/
structure Accounted (work : PreviewWork Worker App) : Prop where
  queued : Queued work.state work.running work.started
  balanced : Contents.Balanced work.accepted work.state.waiting
    (work.handed.map (·.2) ++ work.cancelled.map (·.2))
  byOwner : ∀ entry ∈ work.handed, ∃ job, (entry.1, job) ∈ work.started ∧ job.jobId = entry.2.1
  ofCollection : ∀ entry ∈ work.cancelled, ∀ collection, entry.1 = some collection →
    entry.2.2.target.collection = collection

theorem Accounted.initial : Accounted ({} : PreviewWork Worker App) where
  queued := by
    refine ⟨Nat.zero_le _, ?_, ?_, ?_, List.nodup_nil, ?_, ?_⟩ <;> simp
  balanced := by simp [Contents.Balanced, PreviewWorkState.waiting]
  byOwner := by simp
  ofCollection := by simp

theorem holds_enqueue (h : (state.enqueue job subscriber).1 = true) :
    (state.enqueue job subscriber).2.holds job.queueKey subscriber.target = true := by
  have hself : subscriber.target.eq subscriber.target = true := by simp [PreviewTarget.eq]
  have hcases := PreviewWorkState.enqueue_enqueued state job subscriber
  generalize state.enqueue job subscriber = result at h hcases ⊢
  cases hcases with
  | merged hholds => exact hholds
  | joined bucket hbucket hnew => simp [PreviewWorkState.holds, hself]
  | refused hfull => cases h
  | queued jobId hjobId hnone hroom => simp [PreviewWorkState.holds, hself]

/-- Someone waits for the job of a worker if and only if its bucket is there. -/
theorem Accounted.hasSubscribers_iff (h : Accounted work) {worker : Worker}
    (hrun : work.running worker = some job) :
    work.state.hasSubscribers job.queueKey job.jobId = true ↔
      ∃ subscriber, (job.jobId, subscriber) ∈ work.state.waiting := by
  simp only [PreviewWorkState.hasSubscribers, Option.any_eq_true, Bool.and_eq_true, decide_eq_true_eq,
    Bool.not_eq_true', List.isEmpty_eq_false_iff_exists_mem, PreviewWorkState.mem_waiting]
  constructor
  · rintro ⟨bucket, hbucket, hid, subscriber, hmem⟩
    exact ⟨subscriber, job.queueKey, bucket, hbucket, hid, hmem⟩
  · rintro ⟨subscriber, key, bucket, hbucket, hid, hmem⟩
    obtain ⟨owner, hlive, rfl, howner⟩ := h.queued.owned key bucket hbucket
    have hsame := h.queued.live_unique hlive (.inr ⟨worker, hrun⟩) (howner.trans hid)
    subst hsame
    exact ⟨bucket, hbucket, hid, subscriber, hmem⟩

/-- Buckets keep their ids, and a new one has an id that was not given before. -/
structure IdsGrow (state next : PreviewWorkState App) : Prop where
  issued : state.nextJobId ≤ next.nextJobId
  buckets : ∀ (key : String) found, next.subscribers[key]? = some found →
    (∃ bucket, state.subscribers[key]? = some bucket ∧ bucket.jobId = found.jobId) ∨
      state.nextJobId < found.jobId

theorem IdsGrow.of_subset (hid : next.nextJobId = state.nextJobId)
    (hsubset : ∀ (key : String) found, next.subscribers[key]? = some found →
      ∃ bucket, state.subscribers[key]? = some bucket ∧ bucket.jobId = found.jobId) :
    IdsGrow state next :=
  ⟨Nat.le_of_eq hid.symm, fun key found hfound => .inl (hsubset key found hfound)⟩

theorem IdsGrow.refl (state : PreviewWorkState App) : IdsGrow state state :=
  .of_subset rfl fun _ found hfound => ⟨found, hfound, rfl⟩

theorem IdsGrow.trans (h : IdsGrow state next) (hlast : IdsGrow next last) :
    IdsGrow state last := by
  refine ⟨h.issued.trans hlast.issued, fun key found hfound => ?_⟩
  rcases hlast.buckets key found hfound with ⟨bucket, hbucket, hid⟩ | hnew
  · rw [← hid]
    exact h.buckets key bucket hbucket
  · exact .inr (Nat.lt_of_le_of_lt h.issued hnew)

/-- What holds between any two calls. -/
structure ServedOnce (work : PreviewWork Worker App) : Prop where
  capacity : work.state.queue.length ≤ previewQueueCapacity
  oneJobPerKey : (work.state.queue.map (·.queueKey)).Nodup
  jobs : ∀ job ∈ work.state.queue, ∃ bucket, work.state.subscribers[job.queueKey]? = some bucket ∧
    bucket.jobId = job.jobId ∧ bucket.subscribers ≠ []
  buckets : ∀ (key : String) bucket, work.state.subscribers[key]? = some bucket →
    ∃ job, Live work.state work.running job ∧ job.queueKey = key ∧ job.jobId = bucket.jobId
  /-- Whoever `enqueue` says yes to waits then, or an equal target does. -/
  joined : ∀ job subscriber, (work.state.enqueue job subscriber).1 = true →
    (work.state.enqueue job subscriber).2.holds job.queueKey subscriber.target = true
  /-- Whoever was let in waits, was handed over or was cancelled, once. -/
  account : work.accepted.Perm
    (work.state.waiting ++ work.handed.map (·.2) ++ work.cancelled.map (·.2))
  oneWorkerPerJob : (work.started.map (·.2.jobId)).Nodup
  running : ∀ worker job, work.running worker = some job → (worker, job) ∈ work.started
  handed : ∀ worker jobId subscriber, (worker, jobId, subscriber) ∈ work.handed →
    ∃ job, (worker, job) ∈ work.started ∧ job.jobId = jobId
  cancelled : ∀ collection jobId subscriber,
    (some collection, jobId, subscriber) ∈ work.cancelled → subscriber.target.collection = collection
  /-- A worker is told whether someone still waits for its job. -/
  asked : ∀ worker job, work.running worker = some job →
    (work.state.hasSubscribers job.queueKey job.jobId = true ↔
      ∃ subscriber, (job.jobId, subscriber) ∈ work.state.waiting)

theorem Accounted.servedOnce (h : Accounted work) : ServedOnce work where
  capacity := h.queued.capacity
  oneJobPerKey := h.queued.oneJobPerKey
  jobs job hjob := by
    obtain ⟨bucket, hbucket, hid⟩ := h.queued.served job hjob
    exact ⟨bucket, hbucket, hid, h.queued.filled _ _ hbucket⟩
  buckets := h.queued.owned
  joined _ _ := holds_enqueue
  account := by
    rw [List.append_assoc]
    exact h.balanced
  oneWorkerPerJob := by
    have hids := h.queued.ids.sublist ((List.sublist_append_right _ _).map _)
    rwa [List.map_map] at hids
  running := h.queued.begun
  handed worker jobId subscriber hmem := h.byOwner _ hmem
  cancelled collection jobId subscriber hmem := h.ofCollection _ hmem collection rfl
  asked _ _ := h.hasSubscribers_iff

/-- Whoever waits for an issued id that has no bucket waits in vain, whatever is called later. -/
theorem Accounted.takes_nothing (h : Accounted work) {worker : Worker}
    (hrun : work.running worker = some job)
    (hgone : work.state.hasSubscribers job.queueKey job.jobId = false)
    (hgrow : IdsGrow work.state next) : (next.takeSubscribers job.queueKey job.jobId).1 = [] := by
  have hissued : job.jobId ≤ work.state.nextJobId :=
    h.queued.issued job (h.queued.live_mem (.inr ⟨worker, hrun⟩))
  have hcases := PreviewWorkState.takeSubscribers_taken next job.queueKey job.jobId
  generalize next.takeSubscribers job.queueKey job.jobId = result at hcases ⊢
  cases hcases with
  | nothing hother => rfl
  | own bucket hbucket hid =>
    rcases hgrow.buckets _ bucket hbucket with ⟨found, hfound, hsame⟩ | hnew
    · have hfilled := h.queued.filled _ found hfound
      simp [PreviewWorkState.hasSubscribers, hfound, hsame.trans hid, hfilled] at hgone
    · omega

variable [DecidableEq Worker]

theorem Accounted.enqueue (h : Accounted work) (hid : work.state.nextJobId + 1 < 2 ^ 64)
    (job : PreviewJob) (subscriber : PreviewSubscriber App) :
    Accounted (work.step (.enqueue job subscriber)) := by
  refine ⟨h.queued.enqueue hid job subscriber, ?_, h.byOwner, h.ofCollection⟩
  simp only [PreviewWork.step, PreviewWork.admitted]
  have hcases := PreviewWorkState.enqueue_enqueued work.state job subscriber
  generalize work.state.enqueue job subscriber = result at hcases ⊢
  cases hcases with
  | merged hholds => simpa [hholds] using h.balanced
  | joined bucket hbucket hnew =>
    have hjoined := h.balanced.enter (PreviewWorkState.waiting_joined subscriber hbucket)
    simpa [hnew] using hjoined
  | refused hfull => simpa using h.balanced
  | queued jobId hjobId hnone hroom =>
    have hqueued := h.balanced.enter (PreviewWorkState.waiting_queued jobId
      (work.state.queue ++ [{ job with jobId }]) subscriber hnone)
    simpa [PreviewWorkState.holds, hnone] using hqueued

theorem Accounted.cancelCollection (h : Accounted work) (collection : PreviewCollection) :
    Accounted (work.step (.cancelCollection collection)) := by
  refine ⟨h.queued.cancelCollection collection, ?_, h.byOwner, ?_⟩
  · simp only [PreviewWork.step, PreviewWorkState.waiting_cancelCollection]
    have hsplit := List.filter_append_perm
      (fun waiting => waiting.2.target.collection = collection) work.state.waiting
    simp only [← decide_not] at hsplit
    refine h.balanced.leave hsplit.symm ?_
    simp [Function.comp_def]
  · intro entry hentry cause hcause
    rcases List.mem_append.mp hentry with hentry | hentry
    · exact h.ofCollection entry hentry cause hcause
    · obtain ⟨waiting, hwaiting, rfl⟩ := List.mem_map.mp hentry
      cases hcause
      simpa using (List.mem_filter.mp hwaiting).2

theorem Accounted.cancelAll (h : Accounted work) : Accounted (work.step .cancelAll) := by
  refine ⟨h.queued.cancelAll, ?_, h.byOwner, ?_⟩
  · simp only [PreviewWork.step, PreviewWorkState.waiting_cancelAll]
    have hall : work.state.waiting.Perm (work.state.waiting ++ []) := by simp
    refine h.balanced.leave hall ?_
    simp [Function.comp_def]
  · intro entry hentry cause hcause
    rcases List.mem_append.mp hentry with hentry | hentry
    · exact h.ofCollection entry hentry cause hcause
    · obtain ⟨waiting, hwaiting, rfl⟩ := List.mem_map.mp hentry
      cases hcause

theorem Accounted.nextJob (h : Accounted work) (worker : Worker) :
    Accounted (work.step (.nextJob worker)) := by
  simp only [PreviewWork.step]
  split
  · next job next hidle hnext =>
    obtain ⟨-, -, hsubscribers⟩ := PreviewWorkState.nextJob_eq_some hnext
    refine ⟨h.queued.nextJob hidle hnext, ?_, ?_, h.ofCollection⟩
    · simpa only [PreviewWorkState.waiting, hsubscribers] using h.balanced
    · intro entry hentry
      obtain ⟨owner, howner, hid⟩ := h.byOwner entry hentry
      exact ⟨owner, List.mem_append_left _ howner, hid⟩
  · exact h

theorem Accounted.takeSubscribers (h : Accounted work) (worker : Worker) :
    Accounted (work.step (.takeSubscribers worker)) := by
  simp only [PreviewWork.step]
  split
  · next job hrun =>
    refine ⟨h.queued.takeSubscribers hrun, ?_, ?_, h.ofCollection⟩
    · have hcases := PreviewWorkState.takeSubscribers_taken work.state job.queueKey job.jobId
      generalize work.state.takeSubscribers job.queueKey job.jobId = result at hcases ⊢
      cases hcases with
      | own bucket hbucket hid =>
        refine h.balanced.leave (PreviewWorkState.waiting_taken hbucket) ?_
        rw [← hid, List.map_append, List.map_map, List.append_assoc, List.append_assoc]
        exact List.perm_append_comm.append_left _
      | nothing hother => simpa using h.balanced
    · intro entry hentry
      rcases List.mem_append.mp hentry with hentry | hentry
      · exact h.byOwner entry hentry
      · obtain ⟨taken, -, rfl⟩ := List.mem_map.mp hentry
        exact ⟨job, h.queued.begun worker job hrun, rfl⟩
  · exact h

theorem Accounted.step (h : Accounted work)
    (hid : call.isEnqueue = true → work.state.nextJobId + 1 < 2 ^ 64) :
    Accounted (work.step call) := by
  cases call with
  | enqueue job subscriber => exact h.enqueue (hid rfl) job subscriber
  | cancelCollection collection => exact h.cancelCollection collection
  | cancelAll => exact h.cancelAll
  | nextJob worker => exact h.nextJob worker
  | hasSubscribers worker => exact h
  | takeSubscribers worker => exact h.takeSubscribers worker

theorem idsGrow_enqueue (hid : state.nextJobId + 1 < 2 ^ 64) (job : PreviewJob)
    (subscriber : PreviewSubscriber App) : IdsGrow state (state.enqueue job subscriber).2 ∧
      (state.enqueue job subscriber).2.nextJobId ≤ state.nextJobId + 1 := by
  have hcases := PreviewWorkState.enqueue_enqueued state job subscriber
  generalize state.enqueue job subscriber = result at hcases ⊢
  cases hcases with
  | merged hholds => exact ⟨.refl _, Nat.le_succ _⟩
  | refused hfull => exact ⟨.refl _, Nat.le_succ _⟩
  | joined bucket hbucket hnew =>
    refine ⟨.of_subset rfl fun key found hfound => ?_, Nat.le_succ _⟩
    rw [Std.ExtTreeMap.getElem?_insert] at hfound
    split at hfound
    · next hkey =>
      cases hfound
      rw [Std.compare_eq_iff_eq] at hkey
      subst hkey
      exact ⟨bucket, hbucket, rfl⟩
    · exact ⟨found, hfound, rfl⟩
  | queued jobId hjobId hnone hroom =>
    rw [PreviewWorkState.followingJobId_eq hid] at hjobId
    subst hjobId
    refine ⟨⟨Nat.le_succ _, fun key found hfound => ?_⟩, Nat.le_refl _⟩
    rw [Std.ExtTreeMap.getElem?_insert] at hfound
    split at hfound
    · cases hfound
      exact .inr (Nat.lt_succ_self _)
    · exact .inl ⟨found, hfound, rfl⟩

theorem idsGrow_cancelCollection (collection : PreviewCollection) :
    IdsGrow state (state.cancelCollection collection) := by
  refine .of_subset rfl fun key found hfound => ?_
  obtain ⟨bucket, hbucket, hretain⟩ := PreviewWorkState.getElem?_cancelCollection.mp hfound
  exact ⟨bucket, hbucket, (PreviewWorkState.of_retained hretain).1.symm⟩

theorem idsGrow_takeSubscribers (state : PreviewWorkState App) (key : String) (jobId : Nat) :
    IdsGrow state (state.takeSubscribers key jobId).2 ∧
      (state.takeSubscribers key jobId).2.nextJobId = state.nextJobId := by
  have hcases := PreviewWorkState.takeSubscribers_taken state key jobId
  generalize state.takeSubscribers key jobId = result at hcases ⊢
  cases hcases with
  | own bucket hbucket hid =>
    refine ⟨.of_subset rfl fun other found hfound => ?_, rfl⟩
    rw [Std.ExtTreeMap.getElem?_erase] at hfound
    split at hfound
    · cases hfound
    · exact ⟨found, hfound, rfl⟩
  | nothing hother => exact ⟨.refl _, rfl⟩

theorem idsGrow_step (hid : call.isEnqueue = true → work.state.nextJobId + 1 < 2 ^ 64) :
    IdsGrow work.state (work.step call).state ∧ (work.step call).state.nextJobId ≤
      work.state.nextJobId + if call.isEnqueue then 1 else 0 := by
  cases call with
  | enqueue job subscriber => exact idsGrow_enqueue (hid rfl) job subscriber
  | cancelCollection collection => exact ⟨idsGrow_cancelCollection collection, Nat.le_refl _⟩
  | cancelAll =>
    refine ⟨.of_subset rfl fun key found hfound => ?_, Nat.le_refl _⟩
    simp [PreviewWork.step, PreviewWorkState.cancelAll] at hfound
  | nextJob worker =>
    simp only [PreviewWork.step]
    split
    · next job next hidle hnext =>
      obtain ⟨-, hid, hsubscribers⟩ := PreviewWorkState.nextJob_eq_some hnext
      refine ⟨.of_subset hid fun key found hfound => ⟨found, ?_, rfl⟩, Nat.le_of_eq hid⟩
      rwa [hsubscribers] at hfound
    · exact ⟨.refl _, Nat.le_refl _⟩
  | hasSubscribers worker => exact ⟨.refl _, Nat.le_refl _⟩
  | takeSubscribers worker =>
    simp only [PreviewWork.step]
    split
    · next job hrun =>
      obtain ⟨hgrow, hid⟩ := idsGrow_takeSubscribers work.state job.queueKey job.jobId
      exact ⟨hgrow, Nat.le_of_eq hid⟩
    · exact ⟨.refl _, Nat.le_refl _⟩

def stepQueue (call : QueueCall Worker App) (work : PreviewWork Worker App) :
    PreviewWork Worker App := work.step call

theorem Accounted.run (h : Accounted work)
    (hcount : work.state.nextJobId + calls.countP (·.isEnqueue) < 2 ^ 64) :
    Accounted (run stepQueue calls work) ∧ IdsGrow work.state (run stepQueue calls work).state ∧
      (run stepQueue calls work).state.nextJobId ≤
        work.state.nextJobId + calls.countP (·.isEnqueue) := by
  induction calls generalizing work with
  | nil => exact ⟨h, .refl _, Nat.le_refl _⟩
  | cons call calls ih =>
    rw [List.countP_cons] at hcount ⊢
    have hid : call.isEnqueue = true → work.state.nextJobId + 1 < 2 ^ 64 := by
      intro hcall
      rw [if_pos hcall] at hcount
      omega
    obtain ⟨hgrow, hnext⟩ := idsGrow_step hid
    obtain ⟨hlast, hrest, hend⟩ := ih (h.step hid) (by omega)
    refine ⟨hlast, hgrow.trans hrest, ?_⟩
    rw [run_cons]
    exact Nat.le_trans hend (by omega)

/-- On every schedule of fewer than 2 ^ 64 requests each subscriber is served or cancelled once, and
a worker whose job was cancelled gets nothing later. -/
theorem preview_queue_serves_every_subscriber_once (calls : List (QueueCall Worker App))
    (hcount : calls.countP (·.isEnqueue) < 2 ^ 64) :
    ServedOnce (run stepQueue calls {}) ∧
      ∀ before after worker job, calls = before ++ after →
        (run stepQueue before {}).running worker = some job →
        (run stepQueue before {}).state.hasSubscribers job.queueKey job.jobId = false →
        ((run stepQueue calls {}).state.takeSubscribers job.queueKey job.jobId).1 = [] := by
  have hzero : ({} : PreviewWork Worker App).state.nextJobId + calls.countP (·.isEnqueue) < 2 ^ 64 :=
    (Nat.zero_add _).symm ▸ hcount
  refine ⟨(Accounted.initial.run hzero).1.servedOnce, ?_⟩
  rintro before after worker job rfl hrun hgone
  rw [List.countP_append, ← Nat.add_assoc] at hzero
  obtain ⟨hbefore, -, hid⟩ := Accounted.initial.run (Nat.lt_of_le_of_lt (Nat.le_add_right _ _) hzero)
  rw [run_append]
  exact hbefore.takes_nothing hrun hgone (hbefore.run (by omega)).2.1

/-- The first worker is cancelled while it loads, and the picture is asked for again. -/
def askedAgain : List (QueueCall Bool Unit) :=
  let job : PreviewJob := { queueKey := "same", path := "source.png", longestEdge := 512,
                            purpose := "gallery", cacheEpoch := 1 }
  let subscriber : PreviewSubscriber Unit :=
    { app := (), target := { collection := .assets, assetId := "asset", sourcePath := "source.png" } }
  [.enqueue job subscriber, .nextJob false, .cancelCollection .assets, .enqueue job subscriber,
    .takeSubscribers false, .nextJob true, .hasSubscribers true]

theorem cancelled_worker_gets_nothing : ServedOnce (run stepQueue askedAgain {}) ∧
    ((run stepQueue askedAgain {}).state.takeSubscribers "same" 1).1 = [] :=
  have h := preview_queue_serves_every_subscriber_once askedAgain (by decide)
  ⟨h.1, h.2 (askedAgain.take 3) (askedAgain.drop 3) false
    { jobId := 1, queueKey := "same", path := "source.png", longestEdge := 512,
      purpose := "gallery", cacheEpoch := 1 } rfl rfl (by decide)⟩

end Subscribers

end ArtForgeStudio.Previews
