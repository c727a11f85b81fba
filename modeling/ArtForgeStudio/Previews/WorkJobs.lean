import ArtForgeStudio.Previews.WorkQueue
import Mathlib.Data.List.Nodup
import Mathlib.Tactic.Common

/-! # The jobs and the buckets of the preview queue

The queue and the buckets are two views of the same jobs, and they come apart while a worker loads.
Every queued job has the bucket of its key, every bucket has a job that is queued or being run, and
the id of a job is never given again.
-/

namespace ArtForgeStudio.Previews

open ArtForgeStudio.Codecs ArtForgeStudio.Contents

namespace PreviewWorkState

variable {App : Type} {state next : PreviewWorkState App} {job : PreviewJob}
  {subscriber : PreviewSubscriber App} {bucket : PreviewSubscriberBucket App} {key : String}
  {jobId : Nat} {collection : PreviewCollection}

theorem followingJobId_eq (h : jobId + 1 < 2 ^ 64) : followingJobId jobId = jobId + 1 := by
  rw [followingJobId, Nat.mod_eq_of_lt h]
  exact Nat.max_eq_left (Nat.le_add_left 1 jobId)

theorem mem_emptyKeys {subscribers : BTreeMap (PreviewSubscriberBucket App)} :
    key ∈ emptyKeys subscribers ↔
      ∃ bucket, subscribers[key]? = some bucket ∧ bucket.subscribers = [] := by
  simp only [emptyKeys, List.mem_filterMap, Prod.exists,
    Std.ExtTreeMap.mem_toList_iff_getElem?_eq_some, List.isEmpty_iff]
  constructor
  · rintro ⟨other, bucket, hbucket, hkey⟩
    split at hkey
    · next hempty =>
      cases hkey
      exact ⟨bucket, hbucket, hempty⟩
    · cases hkey
  · rintro ⟨bucket, hbucket, hempty⟩
    exact ⟨key, bucket, hbucket, if_pos hempty⟩

/-- What is left of a bucket without the subscribers of a collection. -/
def retained (collection : PreviewCollection) (bucket : PreviewSubscriberBucket App) :
    Option (PreviewSubscriberBucket App) :=
  if bucket.subscribers.filter (·.target.collection ≠ collection) = [] then none
  else some
    { bucket with subscribers := bucket.subscribers.filter (·.target.collection ≠ collection) }

theorem mem_emptyKeys_retain : key ∈ emptyKeys (state.retain collection) ↔
    ∃ bucket, state.subscribers[key]? = some bucket ∧ retained collection bucket = none := by
  simp [mem_emptyKeys, retain, retained]

theorem cancelCollection_subscribers : (state.cancelCollection collection).subscribers =
    state.subscribers.filterMap fun _ => retained collection := by
  refine Std.ExtTreeMap.ext_getElem? fun {key} => ?_
  rw [Std.ExtTreeMap.getElem?_filterMap', cancelCollection, getElem?_erase_all]
  simp only [mem_emptyKeys_retain]
  cases hbucket : state.subscribers[key]? with
  | none => simp [retain, hbucket]
  | some bucket =>
    by_cases hgone : bucket.subscribers.filter (·.target.collection ≠ collection) = []
    · simp only [retained, Option.some.injEq, exists_eq_left', if_pos hgone, Option.bind_some,
        if_true]
    · simp only [retained, Option.some.injEq, exists_eq_left', if_neg hgone, Option.bind_some,
        reduceCtorEq, if_false, retain, Std.ExtTreeMap.getElem?_map, hbucket, Option.map_some]

theorem of_retained {found : PreviewSubscriberBucket App}
    (h : retained collection bucket = some found) :
    found.jobId = bucket.jobId ∧ found.subscribers ≠ [] := by
  unfold retained at h
  split at h
  · cases h
  · next hleft =>
    cases h
    exact ⟨rfl, hleft⟩

theorem getElem?_cancelCollection {found : PreviewSubscriberBucket App} :
    (state.cancelCollection collection).subscribers[key]? = some found ↔
      ∃ bucket, state.subscribers[key]? = some bucket ∧ retained collection bucket = some found := by
  rw [cancelCollection_subscribers, Std.ExtTreeMap.getElem?_filterMap', Option.bind_eq_some_iff]

/-- What `enqueue` can do. -/
inductive Enqueued (state : PreviewWorkState App) (job : PreviewJob)
    (subscriber : PreviewSubscriber App) : Bool × PreviewWorkState App → Prop
  | merged (hholds : state.holds job.queueKey subscriber.target = true) :
      Enqueued state job subscriber (true, state)
  | joined (bucket : PreviewSubscriberBucket App)
      (hbucket : state.subscribers[job.queueKey]? = some bucket)
      (hnew : state.holds job.queueKey subscriber.target = false) :
      Enqueued state job subscriber (true, { state with
        subscribers := state.subscribers.insert job.queueKey
          { bucket with subscribers := bucket.subscribers ++ [subscriber] } })
  | refused (hfull : previewQueueCapacity ≤ state.queue.length) :
      Enqueued state job subscriber (false, state)
  | queued (jobId : Nat) (hjobId : jobId = followingJobId state.nextJobId)
      (hnone : state.subscribers[job.queueKey]? = none)
      (hroom : state.queue.length < previewQueueCapacity) :
      Enqueued state job subscriber (true,
        { nextJobId := jobId, queue := state.queue ++ [{ job with jobId }],
          subscribers := state.subscribers.insert job.queueKey
            { jobId, subscribers := [subscriber] } })

theorem enqueue_enqueued (state : PreviewWorkState App) (job : PreviewJob)
    (subscriber : PreviewSubscriber App) :
    Enqueued state job subscriber (state.enqueue job subscriber) := by
  unfold enqueue
  split
  · next bucket hbucket =>
    split
    · next hany => exact .merged (by simpa [holds, hbucket] using hany)
    · next hany => exact .joined bucket hbucket (by simpa [holds, hbucket] using hany)
  · next hnone =>
    split
    · next hfull => exact .refused hfull
    · next hroom => exact .queued _ rfl hnone (Nat.lt_of_not_le hroom)

theorem nextJob_eq_some (h : state.nextJob = some (job, next)) :
    state.queue = job :: next.queue ∧ next.nextJobId = state.nextJobId ∧
      next.subscribers = state.subscribers := by
  unfold nextJob at h
  split at h
  · next first queue hqueue =>
    cases h
    exact ⟨hqueue, rfl, rfl⟩
  · cases h

/-- What `takeSubscribers` can do. -/
inductive Taken (state : PreviewWorkState App) (key : String) (jobId : Nat) :
    List (PreviewSubscriber App) × PreviewWorkState App → Prop
  | own (bucket : PreviewSubscriberBucket App) (hbucket : state.subscribers[key]? = some bucket)
      (hjobId : bucket.jobId = jobId) :
      Taken state key jobId
        (bucket.subscribers, { state with subscribers := state.subscribers.erase key })
  | nothing (hother : ∀ bucket, state.subscribers[key]? = some bucket → bucket.jobId ≠ jobId) :
      Taken state key jobId ([], state)

theorem takeSubscribers_taken (state : PreviewWorkState App) (key : String) (jobId : Nat) :
    Taken state key jobId (state.takeSubscribers key jobId) := by
  unfold takeSubscribers
  split
  · next bucket hbucket =>
    split
    · next hjobId => exact .own bucket hbucket hjobId
    · next hother =>
      refine .nothing fun found hfound => ?_
      rw [hbucket] at hfound
      cases hfound
      exact hother
  · next hnone =>
    refine .nothing fun found hfound => ?_
    rw [hnone] at hfound
    cases hfound

theorem waiting_joined (subscriber : PreviewSubscriber App)
    (hbucket : state.subscribers[key]? = some bucket) :
    (waiting { state with
      subscribers := state.subscribers.insert key
        { bucket with subscribers := bucket.subscribers ++ [subscriber] } }).Perm
      (state.waiting ++ [(bucket.jobId, subscriber)]) := by
  have hbefore : state.waiting.Perm _ := contents_of_getElem? _ hbucket
  refine (contents_insert _).trans ?_
  refine List.Perm.trans ?_ (hbefore.symm.append_right _)
  rw [List.map_append, List.append_assoc, List.append_assoc]
  exact List.perm_append_comm.append_left _

theorem waiting_queued (jobId : Nat) (queue : List PreviewJob) (subscriber : PreviewSubscriber App)
    (hnone : state.subscribers[key]? = none) :
    (waiting
      { nextJobId := jobId, queue,
        subscribers := state.subscribers.insert key { jobId, subscribers := [subscriber] } }).Perm
      (state.waiting ++ [(jobId, subscriber)]) := by
  refine (contents_insert _).trans ?_
  rw [erase_of_absent hnone]
  exact List.perm_append_comm

theorem waiting_taken (hbucket : state.subscribers[key]? = some bucket) :
    state.waiting.Perm (bucket.subscribers.map (bucket.jobId, ·) ++
      waiting { state with subscribers := state.subscribers.erase key }) :=
  contents_of_getElem? _ hbucket

theorem waiting_cancelCollection : (state.cancelCollection collection).waiting =
    state.waiting.filter fun waiting => waiting.2.target.collection ≠ collection := by
  unfold waiting
  rw [cancelCollection_subscribers]
  refine contents_filterMap _ _ _ fun bucket => ?_
  rw [List.filter_map, retained]
  split
  · next hgone =>
    simp only [Function.comp_def, Option.elim_none]
    rw [hgone, List.map_nil]
  · rfl

theorem waiting_cancelAll : state.cancelAll.waiting = [] := contents_empty _

theorem mem_waiting : (jobId, subscriber) ∈ state.waiting ↔
    ∃ (key : String) (bucket : PreviewSubscriberBucket App), state.subscribers[key]? = some bucket ∧
      bucket.jobId = jobId ∧ subscriber ∈ bucket.subscribers := by
  simp only [waiting, mem_contents, List.mem_map, Prod.mk.injEq]
  constructor
  · rintro ⟨key, bucket, hbucket, found, hfound, rfl, rfl⟩
    exact ⟨key, bucket, hbucket, rfl, hfound⟩
  · rintro ⟨key, bucket, hbucket, rfl, hmem⟩
    exact ⟨key, bucket, hbucket, subscriber, hmem, rfl, rfl⟩

end PreviewWorkState

section Jobs

variable {Worker App : Type} {state next : PreviewWorkState App}
  {running : Worker → Option PreviewJob} {started : List (Worker × PreviewJob)} {worker : Worker}
  {job other : PreviewJob} {subscriber : PreviewSubscriber App} {key : String} {jobId : Nat}
  {collection : PreviewCollection}

/-- A job is queued or being run. -/
def Live (state : PreviewWorkState App) (running : Worker → Option PreviewJob) (job : PreviewJob) :
    Prop :=
  job ∈ state.queue ∨ ∃ worker, running worker = some job

/-- Every queued job has a bucket, and every bucket a live job; no id is given twice. -/
structure Queued (state : PreviewWorkState App) (running : Worker → Option PreviewJob)
    (started : List (Worker × PreviewJob)) : Prop where
  capacity : state.queue.length ≤ previewQueueCapacity
  served : ∀ job ∈ state.queue, ∃ bucket, state.subscribers[job.queueKey]? = some bucket ∧
    bucket.jobId = job.jobId
  filled : ∀ (key : String) bucket, state.subscribers[key]? = some bucket → bucket.subscribers ≠ []
  owned : ∀ (key : String) bucket, state.subscribers[key]? = some bucket →
    ∃ job, Live state running job ∧ job.queueKey = key ∧ job.jobId = bucket.jobId
  ids : ((state.queue ++ started.map (·.2)).map (·.jobId)).Nodup
  issued : ∀ job ∈ state.queue ++ started.map (·.2), job.jobId ≤ state.nextJobId
  begun : ∀ worker job, running worker = some job → (worker, job) ∈ started

theorem Queued.live_mem (h : Queued state running started) (hjob : Live state running job) :
    job ∈ state.queue ++ started.map (·.2) := by
  rcases hjob with hjob | ⟨worker, hjob⟩
  · exact List.mem_append_left _ hjob
  · exact List.mem_append_right _ (List.mem_map.mpr ⟨_, h.begun worker job hjob, rfl⟩)

/-- A live job is known by its id. -/
theorem Queued.live_unique (h : Queued state running started) (hjob : Live state running job)
    (hother : Live state running other) (hid : job.jobId = other.jobId) : job = other :=
  List.inj_on_of_nodup_map h.ids (h.live_mem hjob) (h.live_mem hother) hid

theorem Queued.oneJobPerKey (h : Queued state running started) :
    (state.queue.map (·.queueKey)).Nodup := by
  have hqueue : state.queue.Nodup :=
    (List.nodup_append.mp (List.Nodup.of_map _ h.ids)).1
  refine (List.nodup_map_iff_inj_on hqueue).mpr fun job hjob other hother hkey => ?_
  obtain ⟨bucket, hbucket, hid⟩ := h.served job hjob
  obtain ⟨found, hfound, hid'⟩ := h.served other hother
  rw [← hkey, hbucket] at hfound
  cases hfound
  exact h.live_unique (.inl hjob) (.inl hother) (hid.symm.trans hid')

/-- A subscriber more changes neither the job nor the key of a bucket. -/
theorem Queued.joined (h : Queued state running started) {bucket : PreviewSubscriberBucket App}
    (hbucket : state.subscribers[key]? = some bucket) :
    Queued { state with
      subscribers := state.subscribers.insert key
        { bucket with subscribers := bucket.subscribers ++ [subscriber] } } running started := by
  refine { h with served := ?_, filled := ?_, owned := ?_ }
  · intro job hjob
    obtain ⟨found, hfound, hid⟩ := h.served job hjob
    by_cases hkey : key = job.queueKey
    · subst hkey
      rw [hbucket] at hfound
      cases hfound
      exact ⟨_, Std.ExtTreeMap.getElem?_insert_self, hid⟩
    · refine ⟨found, ?_, hid⟩
      rw [Std.ExtTreeMap.getElem?_insert]
      simp [hkey, hfound]
  · intro other found hfound
    rw [Std.ExtTreeMap.getElem?_insert] at hfound
    split at hfound
    · cases hfound
      simp
    · exact h.filled other found hfound
  · intro other found hfound
    rw [Std.ExtTreeMap.getElem?_insert] at hfound
    split at hfound
    · next hkey =>
      cases hfound
      rw [Std.compare_eq_iff_eq] at hkey
      subst hkey
      exact h.owned _ bucket hbucket
    · exact h.owned other found hfound

/-- A new job comes with a new id and a bucket of its own. -/
theorem Queued.queued (h : Queued state running started)
    (hnone : state.subscribers[job.queueKey]? = none)
    (hroom : state.queue.length < previewQueueCapacity) (hid : jobId = state.nextJobId + 1) :
    Queued
      { nextJobId := jobId, queue := state.queue ++ [{ job with jobId }],
        subscribers := state.subscribers.insert job.queueKey
          { jobId, subscribers := [subscriber] } } running started := by
  have hold : ∀ queued ∈ state.queue, job.queueKey ≠ queued.queueKey := by
    intro queued hqueued hkey
    obtain ⟨found, hfound, -⟩ := h.served queued hqueued
    rw [← hkey, hnone] at hfound
    cases hfound
  have hlower : ∀ issued ∈ state.queue ++ started.map (·.2), issued.jobId < jobId := by
    intro issued hissued
    rw [hid]
    exact Nat.lt_succ_of_le (h.issued issued hissued)
  refine ⟨?_, ?_, ?_, ?_, ?_, ?_, h.begun⟩
  · rw [List.length_append]
    exact hroom
  · intro queued hqueued
    rcases List.mem_append.mp hqueued with hqueued | hqueued
    · obtain ⟨found, hfound, hid⟩ := h.served queued hqueued
      refine ⟨found, ?_, hid⟩
      rw [Std.ExtTreeMap.getElem?_insert]
      simp [hold queued hqueued, hfound]
    · cases List.mem_singleton.mp hqueued
      exact ⟨_, Std.ExtTreeMap.getElem?_insert_self, rfl⟩
  · intro key found hfound
    rw [Std.ExtTreeMap.getElem?_insert] at hfound
    split at hfound
    · cases hfound
      simp
    · exact h.filled key found hfound
  · intro key found hfound
    rw [Std.ExtTreeMap.getElem?_insert] at hfound
    split at hfound
    · next hkey =>
      cases hfound
      rw [Std.compare_eq_iff_eq] at hkey
      exact ⟨_, .inl (List.mem_append_right _ List.mem_cons_self), hkey, rfl⟩
    · obtain ⟨owner, hlive, hkey, hid⟩ := h.owned key found hfound
      exact ⟨owner, hlive.imp (List.mem_append_left _) id, hkey, hid⟩
  · have hfresh : jobId ∉ (state.queue ++ started.map (·.2)).map (·.jobId) := by
      intro hmem
      obtain ⟨issued, hissued, rfl⟩ := List.mem_map.mp hmem
      exact Nat.lt_irrefl _ (hlower issued hissued)
    have hids := List.nodup_cons.mpr ⟨hfresh, h.ids⟩
    rw [List.map_append] at hids
    rw [List.append_assoc, List.map_append]
    exact List.nodup_middle.mpr hids
  · intro issued hissued
    rw [List.append_assoc] at hissued
    rcases List.mem_append.mp hissued with hqueued | hrest
    · exact Nat.le_of_lt (hlower issued (List.mem_append_left _ hqueued))
    · rcases List.mem_cons.mp hrest with rfl | hstarted
      · exact Nat.le_refl _
      · exact Nat.le_of_lt (hlower issued (List.mem_append_right _ hstarted))

theorem Queued.enqueue (h : Queued state running started) (hid : state.nextJobId + 1 < 2 ^ 64)
    (job : PreviewJob) (subscriber : PreviewSubscriber App) :
    Queued (state.enqueue job subscriber).2 running started := by
  have hcases := PreviewWorkState.enqueue_enqueued state job subscriber
  generalize state.enqueue job subscriber = result at hcases ⊢
  cases hcases with
  | merged hholds => exact h
  | joined bucket hbucket hnew => exact h.joined hbucket
  | refused hfull => exact h
  | queued jobId hjobId hnone hroom =>
    rw [PreviewWorkState.followingJobId_eq hid] at hjobId
    exact h.queued hnone hroom hjobId

/-- A bucket that goes when its collection is cancelled takes its queued job along. -/
theorem Queued.cancelCollection (h : Queued state running started)
    (collection : PreviewCollection) :
    Queued (state.cancelCollection collection) running started := by
  have hqueue : ∀ job, job ∈ (state.cancelCollection collection).queue ↔
      job ∈ state.queue ∧ job.queueKey ∉ PreviewWorkState.emptyKeys (state.retain collection) := by
    simp [PreviewWorkState.cancelCollection]
  have hsub : (state.cancelCollection collection).queue.Sublist state.queue := List.filter_sublist
  refine ⟨hsub.length_le.trans h.capacity, ?_, ?_, ?_, ?_, ?_, h.begun⟩
  · intro job hjob
    obtain ⟨hjob, hleft⟩ := (hqueue job).mp hjob
    obtain ⟨bucket, hfound, hid⟩ := h.served job hjob
    cases hretain : PreviewWorkState.retained collection bucket with
    | none => exact absurd (PreviewWorkState.mem_emptyKeys_retain.mpr ⟨bucket, hfound, hretain⟩) hleft
    | some left =>
      have hkept := PreviewWorkState.getElem?_cancelCollection.mpr ⟨bucket, hfound, hretain⟩
      exact ⟨left, hkept, (PreviewWorkState.of_retained hretain).1.trans hid⟩
  · intro key found hfound
    obtain ⟨bucket, -, hretain⟩ := PreviewWorkState.getElem?_cancelCollection.mp hfound
    exact (PreviewWorkState.of_retained hretain).2
  · intro key found hfound
    obtain ⟨bucket, hold, hretain⟩ := PreviewWorkState.getElem?_cancelCollection.mp hfound
    obtain ⟨job, hlive, rfl, hid⟩ := h.owned key bucket hold
    refine ⟨job, hlive.imp (fun hjob => (hqueue job).mpr ⟨hjob, ?_⟩) id, rfl,
      hid.trans (PreviewWorkState.of_retained hretain).1.symm⟩
    intro hempty
    obtain ⟨gone, hgone, hnone⟩ := PreviewWorkState.mem_emptyKeys_retain.mp hempty
    rw [hold] at hgone
    cases hgone
    rw [hretain] at hnone
    cases hnone
  · exact h.ids.sublist ((hsub.append_right _).map _)
  · exact fun job hjob => h.issued job ((hsub.append_right _).subset hjob)

theorem Queued.cancelAll (h : Queued state running started) :
    Queued state.cancelAll running started where
  capacity := Nat.zero_le _
  served := by simp [PreviewWorkState.cancelAll]
  filled := by simp [PreviewWorkState.cancelAll]
  owned := by simp [PreviewWorkState.cancelAll]
  ids := h.ids.sublist ((List.sublist_append_right _ _).map _)
  issued job hjob := h.issued job (List.mem_append_right _ hjob)
  begun := h.begun

variable [DecidableEq Worker]

/-- The job that a worker takes off the queue is live as before. -/
theorem Queued.nextJob (h : Queued state running started) (hidle : running worker = none)
    (hnext : state.nextJob = some (job, next)) :
    Queued next (Function.update running worker (some job)) (started ++ [(worker, job)]) := by
  obtain ⟨hqueue, hid, hsubscribers⟩ := PreviewWorkState.nextJob_eq_some hnext
  have hperm : (next.queue ++ (started ++ [(worker, job)]).map (·.2)).Perm
      (state.queue ++ started.map (·.2)) := by
    rw [hqueue, List.map_append, ← List.append_assoc]
    exact List.perm_append_singleton job _
  refine ⟨?_, ?_, ?_, ?_, ?_, ?_, ?_⟩
  · have hcapacity := h.capacity
    rw [hqueue, List.length_cons] at hcapacity
    exact Nat.le_of_succ_le hcapacity
  · intro queued hqueued
    rw [hsubscribers]
    exact h.served queued (hqueue ▸ List.mem_cons_of_mem _ hqueued)
  · rw [hsubscribers]
    exact h.filled
  · intro key found hfound
    rw [hsubscribers] at hfound
    obtain ⟨owner, hlive, hkey, hid⟩ := h.owned key found hfound
    refine ⟨owner, ?_, hkey, hid⟩
    rcases hlive with hqueued | ⟨other, hother⟩
    · rw [hqueue] at hqueued
      rcases List.mem_cons.mp hqueued with rfl | hqueued
      · exact .inr ⟨worker, Function.update_self ..⟩
      · exact .inl hqueued
    · refine .inr ⟨other, ?_⟩
      rw [Function.update_of_ne, hother]
      rintro rfl
      rw [hidle] at hother
      cases hother
  · exact (hperm.map _).nodup_iff.mpr h.ids
  · intro issued hissued
    rw [hid]
    exact h.issued issued (hperm.mem_iff.mp hissued)
  · intro other run hrun
    by_cases hworker : other = worker
    · subst hworker
      rw [Function.update_self] at hrun
      cases hrun
      exact List.mem_append_right _ List.mem_cons_self
    · rw [Function.update_of_ne hworker] at hrun
      exact List.mem_append_left _ (h.begun other run hrun)

/-- A worker that is done leaves no bucket of its job behind, and no other worker's job. -/
theorem Queued.finished (h : Queued state running started) (hrun : running worker = some job)
    {subscribers : BTreeMap (PreviewSubscriberBucket App)}
    (hleft : ∀ (key : String) found, subscribers[key]? = some found ↔
      state.subscribers[key]? = some found ∧ ¬(key = job.queueKey ∧ found.jobId = job.jobId)) :
    Queued { state with subscribers } (Function.update running worker none) started := by
  refine { h with served := ?_, filled := ?_, owned := ?_, begun := ?_ }
  · intro queued hqueued
    obtain ⟨found, hfound, hid⟩ := h.served queued hqueued
    refine ⟨found, (hleft _ _).mpr ⟨hfound, fun hown => ?_⟩, hid⟩
    -- The job of the worker has left the queue.
    have hsame := h.live_unique (.inl hqueued) (.inr ⟨worker, hrun⟩) (hid.symm.trans hown.2)
    have hapart := (List.nodup_append.mp (List.Nodup.of_map _ h.ids)).2.2
    exact hapart queued hqueued job (List.mem_map.mpr ⟨_, h.begun worker job hrun, rfl⟩) hsame
  · exact fun key found hfound => h.filled key found ((hleft key found).mp hfound).1
  · intro key found hfound
    obtain ⟨hbefore, hother⟩ := (hleft key found).mp hfound
    obtain ⟨owner, hlive, hkey, hid⟩ := h.owned key found hbefore
    refine ⟨owner, hlive.imp id fun ⟨other, hrunning⟩ => ⟨other, ?_⟩, hkey, hid⟩
    rw [Function.update_of_ne, hrunning]
    rintro rfl
    rw [hrun] at hrunning
    cases hrunning
    exact hother ⟨hkey.symm, hid.symm⟩
  · intro other run hrunning
    by_cases hworker : other = worker
    · subst hworker
      rw [Function.update_self] at hrunning
      cases hrunning
    · rw [Function.update_of_ne hworker] at hrunning
      exact h.begun other run hrunning

theorem Queued.takeSubscribers (h : Queued state running started)
    (hrun : running worker = some job) :
    Queued (state.takeSubscribers job.queueKey job.jobId).2 (Function.update running worker none)
      started := by
  have hcases := PreviewWorkState.takeSubscribers_taken state job.queueKey job.jobId
  generalize state.takeSubscribers job.queueKey job.jobId = result at hcases ⊢
  cases hcases with
  | own bucket hbucket hid =>
    refine h.finished hrun fun key found => ?_
    rw [Std.ExtTreeMap.getElem?_erase]
    by_cases hkey : job.queueKey = key
    · subst hkey
      simp only [hbucket, Option.some.injEq]
      constructor
      · simp
      · rintro ⟨rfl, hother⟩
        exact absurd ⟨trivial, hid⟩ hother
    · simp [hkey, Ne.symm hkey]
  | nothing hother =>
    refine h.finished hrun fun key found => ?_
    constructor
    · intro hfound
      refine ⟨hfound, ?_⟩
      rintro ⟨rfl, hid⟩
      exact hother found hfound hid
    · exact fun hfound => hfound.1

end Jobs

end ArtForgeStudio.Previews
