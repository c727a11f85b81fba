import ArtForgeStudio.FileIndex.Writes
import ArtForgeStudio.Library.Runs

/-! # One user's operations and the others' rows -/

namespace ArtForgeStudio.FileIndex

open ArtForgeStudio.Outcome ArtForgeStudio.KeyedRows ArtForgeStudio.OwnedRows

section Acts

variable {user : String} {index next : Index} {call : Call} {request : Request}

theorem Writes.acts (h : Writes user index next) (hindex : index.Consistent) :
    Index.Acts user index next := by
  induction h with
  | same index => exact .refl hindex
  | insertFile huser h => exact huser ▸ Index.insertFile_acts hindex h
  | updateFile hset _ h => exact Index.updateFile_acts hset hindex h
  | insertReference huser h => exact huser ▸ Index.insertReference_acts hindex h
  | deleteReferences index hwanted => exact Index.deleteReferences_acts hwanted hindex
  | touchPreview index id accessedAt => exact Index.touchPreview_acts hindex
  | trans _ _ ih ihrest => exact (ih hindex).trans (ihrest (ih hindex).consistent)

theorem perform_acts (hindex : index.Consistent) (h : perform call request index = .ok next) :
    Index.Acts call.user index next := by
  obtain hwrites | ⟨id, rfl⟩ | ⟨wanted, hwanted, rfl⟩ |
    ⟨registration, status, bytes, rowid, middle, -, hupsert, hupdate⟩ := perform_cases h
  · exact hwrites.acts hindex
  · exact Index.deleteFile_acts hindex
  · exact Index.deletePreviews_acts hwanted hindex
  · have hmiddle := Index.upsertPreview_acts hindex hupsert
    exact hmiddle.trans
      (Index.updateFile_acts (keepsOwner_accessed _) hmiddle.consistent hupdate)

theorem after_acts (hindex : index.Consistent) :
    Index.Acts call.user index (after (call, request) index) := by
  unfold after
  split
  · rename_i next h
    exact perform_acts hindex h
  · exact .refl hindex

theorem after_of_error {error : FileIndexError} (h : perform call request index = .error error) :
    after (call, request) index = index := by
  unfold after
  rw [h]

/-- A run keeps the tables consistent, and leaves the rows of users in whose name nothing is done. -/
theorem run_acts {steps : List (Call × Request)} (hindex : index.Consistent) :
    (Runs.run after steps index).Consistent ∧
      ∀ other, (∀ step ∈ steps, other ≠ step.1.user) →
        (Runs.run after steps index).ofUser other = index.ofUser other := by
  induction steps generalizing index with
  | nil => exact ⟨hindex, fun _ _ => rfl⟩
  | cons step steps ih =>
    have hstep : Index.Acts step.1.user index (after step index) := after_acts hindex
    obtain ⟨hend, hothers⟩ := ih hstep.consistent
    refine ⟨hend, fun other hother => ?_⟩
    have hrest := hothers other fun step hmem => hother step (List.mem_cons_of_mem _ hmem)
    exact hrest.trans (hstep.others other (hother step List.mem_cons_self))

end Acts

/-- In every run of operations in any names, with first looks at any tables: the tables stay
consistent, the rows of a user in whose name nothing is done stay, an operation leaves the rows of
every other user, and one that fails leaves all tables. -/
theorem index_isolated {index : Index} (hindex : index.Consistent) (steps : List (Call × Request)) :
    (Runs.run after steps index).Consistent ∧
    (∀ other, (∀ step ∈ steps, other ≠ step.1.user) →
      (Runs.run after steps index).ofUser other = index.ofUser other) ∧
    (∀ call request, ∀ other, other ≠ call.user →
      (after (call, request) (Runs.run after steps index)).ofUser other =
        (Runs.run after steps index).ofUser other) ∧
    (∀ call request error, perform call request (Runs.run after steps index) = .error error →
      after (call, request) (Runs.run after steps index) = Runs.run after steps index) := by
  obtain ⟨hend, hothers⟩ := @run_acts index steps hindex
  exact ⟨hend, hothers, fun _ _ => (after_acts hend).others, fun _ _ _ => after_of_error⟩

def twoUsers : Index where
  files :=
    [{ id := 1, userPublicId := "11111111-1111-4111-8111-111111111111", managedArea := "output"
       physicalIdentity := (StableFileIdentity.unix 1 1).toStorageBytes, path := "a.png"
       kind := "image", byteSize := 5, managed := true, retentionPolicy := "user"
       createdAt := 0, lastAccessedAt := 0, pendingDelete := false },
     { id := 2, userPublicId := "22222222-2222-4222-8222-222222222222", managedArea := "output"
       physicalIdentity := (StableFileIdentity.unix 1 2).toStorageBytes, path := "a.png"
       kind := "image", byteSize := 5, managed := true, retentionPolicy := "user"
       createdAt := 0, lastAccessedAt := 0, pendingDelete := false }]
  references := [⟨"11111111-1111-4111-8111-111111111111", 1, "asset", "one", 0⟩]

theorem twoUsers_consistent : twoUsers.Consistent where
  files := by decide
  references := List.nodup_singleton _
  previews := by decide
  referenced := by
    intro row hrow
    obtain rfl := List.mem_singleton.mp hrow
    exact ⟨_, List.mem_cons_self, rfl, rfl⟩
  sources := fun _ hrow => absurd hrow List.not_mem_nil
  previewed := fun _ hrow => absurd hrow List.not_mem_nil

def secondUser : Call where
  authority :=
    { userPublicId := "22222222-2222-4222-8222-222222222222"
      openOptionalRegular := fun key => .ok (some ⟨key, 0⟩)
      inspect := fun _ => .ok ⟨.unix 1 2, 5, 0, 1⟩ }
  discovered := twoUsers
  rediscovered := twoUsers
  timestamp := 7
  fileRowid := fun _ => 3
  previewRowid := fun _ => 1

theorem index_isolated_twoUsers :
    (Runs.run after [(secondUser, .deleteFile 2)] twoUsers).ofUser
        "11111111-1111-4111-8111-111111111111" =
      twoUsers.ofUser "11111111-1111-4111-8111-111111111111" := by
  refine (index_isolated twoUsers_consistent _).2.1 _ fun step hmem => ?_
  rw [List.mem_singleton.mp hmem]
  decide

example : (Runs.run after [(secondUser, .deleteFile 2)] twoUsers).files.map (·.id) = [1] := by
  decide

end ArtForgeStudio.FileIndex
