import ArtForgeStudio.Recovery.Envelope

/-! # Mutating a stored document

A mutation reads the document, updates a copy, checks the copy and publishes it. A conflicting
publication is retried from a fresh read, three attempts in all. Everything that can fail on
the way is part of the environment of the call.
-/

namespace ArtForgeStudio.Recovery

open ArtForgeStudio.Outcome

inductive Publication where
  | published
  | conflict
  | failed
  deriving DecidableEq

structure Attempt where
  readable : Bool
  written : Bool
  publication : Publication

/-- What the managed storage answers to one mutation: its admission and its attempts. -/
structure StorageAnswers where
  admitted : Bool
  attempts : Nat → Attempt

def StorageAnswers.faultFree : StorageAnswers :=
  ⟨true, fun _ => ⟨true, true, .published⟩⟩

section Mutation

variable {D T : Type} [RecoveryEnvelope D]

/-- The first loop over the next bodies: no existing request becomes a video request. -/
def noLateVideo (before : Identities) (retained next : List (String × RetainedBody)) : Prop :=
  ∀ body ∈ next, ¬(before.any (·.2.clientRequestId = body.1)) ∨ (bodyOf retained body.1).isSome

/-- The second loop over the retained bodies: a row that stays keeps its body. -/
def bodiesKept (after : Identities) (retained next : List (String × RetainedBody)) : Prop :=
  ∀ body ∈ retained, after.any (·.2.clientRequestId = body.1) →
    bodyOf next body.1 = bodyOf retained body.1

instance (before : Identities) (retained next : List (String × RetainedBody)) :
    Decidable (noLateVideo before retained next) :=
  inferInstanceAs (Decidable (∀ body ∈ next, _))

instance (after : Identities) (retained next : List (String × RetainedBody)) :
    Decidable (bodiesKept after retained next) :=
  inferInstanceAs (Decidable (∀ body ∈ retained, _))

/-- One attempt of `mutate` between the read and the write. -/
def transact (authority : NamespaceStorageAuthority) (permission : MutationPermission)
    (update : D → Except Failure (T × D)) (document : D) : Except Failure (T × D) := do
  let before ← validate authority document
  let retained := RecoveryEnvelope.retainedRequestBodies document
  let (tentative, next) ← update document
  let after ← validate authority next
  validateIdentityDelta before after permission
  let nextBodies := RecoveryEnvelope.retainedRequestBodies next
  ensure (noLateVideo before retained nextBodies)
    (.ensure "an existing request cannot become a different video operation")
  ensure (bodiesKept after retained nextBodies)
    (.ensure "retained video request body cannot be replaced or cleared")
  pure (tentative, next)

/-- The attempts that remain, numbered from `attempt`. The update runs anew in each. -/
def mutateAttempts (answers : Nat → Attempt) (authority : NamespaceStorageAuthority)
    (permission : MutationPermission) (update : Nat → D → Except Failure (T × D))
    (stored : Option D) : Nat → Nat → Except Failure T × Option D
  | 0, _ => (.error (.recovery .conflictExhausted), stored)
  | remaining + 1, attempt =>
    if !(answers attempt).readable then (.error .storage, stored) else
    match transact authority permission (update attempt) (stored.getD RecoveryEnvelope.empty) with
    | .error failure => (.error failure, stored)
    | .ok (tentative, document) =>
      if !(answers attempt).written then (.error .storage, stored) else
      match (answers attempt).publication with
      | .published => (.ok tentative, some document)
      | .failed => (.error .storage, stored)
      | .conflict => mutateAttempts answers authority permission update stored remaining (attempt + 1)

def mutate (answers : StorageAnswers) (authority : NamespaceStorageAuthority)
    (permission : MutationPermission) (update : Nat → D → Except Failure (T × D))
    (stored : Option D) : Except Failure T × Option D :=
  if !answers.admitted then (.error .storage, stored) else
  mutateAttempts answers.attempts authority permission update stored 3 0

/-- `load`: an absent file reads as the empty document. -/
def load (readable : Bool) (authority : NamespaceStorageAuthority) (stored : Option D) :
    Except Failure D := do
  ensure readable .storage
  let document := stored.getD RecoveryEnvelope.empty
  let _ ← validate authority document
  pure document

variable {answers : StorageAnswers} {authority : NamespaceStorageAuthority}
  {permission : MutationPermission} {update : Nat → D → Except Failure (T × D)}
  {stored : Option D} {document next : D} {answer : T}

theorem load_ok {readable : Bool} :
    load readable authority stored = .ok document ↔
      readable ∧ document = stored.getD RecoveryEnvelope.empty ∧
        ValidFor authority.userPublicId document := by
  simp only [load, bind_eq_ok, exists_unit, ensure_eq_ok, validate_ok, pure_eq_ok]
  constructor
  · rintro ⟨hreadable, _, ⟨hvalid, -⟩, rfl⟩
    exact ⟨hreadable, rfl, hvalid⟩
  · rintro ⟨hreadable, rfl, hvalid⟩
    exact ⟨hreadable, _, ⟨hvalid, rfl⟩, rfl⟩

theorem transact_ok {update : D → Except Failure (T × D)} :
    transact authority permission update document = .ok (answer, next) ↔
      ValidFor authority.userPublicId document ∧ update document = .ok (answer, next) ∧
      ValidFor authority.userPublicId next ∧
      validateIdentityDelta (identitiesOf (RecoveryEnvelope.rows document))
        (identitiesOf (RecoveryEnvelope.rows next)) permission = .ok () ∧
      noLateVideo (identitiesOf (RecoveryEnvelope.rows document))
        (RecoveryEnvelope.retainedRequestBodies document)
        (RecoveryEnvelope.retainedRequestBodies next) ∧
      bodiesKept (identitiesOf (RecoveryEnvelope.rows next))
        (RecoveryEnvelope.retainedRequestBodies document)
        (RecoveryEnvelope.retainedRequestBodies next) := by
  simp only [transact, bind_eq_ok, exists_unit, ensure_eq_ok, validate_ok, pure_eq_ok]
  constructor
  · rintro ⟨_, ⟨hdocument, rfl⟩, ⟨tentative, candidate⟩, hupdate, _, ⟨hnext, rfl⟩, hdelta, hlate,
      hkept, heq⟩
    obtain ⟨rfl, rfl⟩ := Prod.mk.inj heq
    exact ⟨hdocument, hupdate, hnext, hdelta, hlate, hkept⟩
  · rintro ⟨hdocument, hupdate, hnext, hdelta, hlate, hkept⟩
    exact ⟨_, ⟨hdocument, rfl⟩, _, hupdate, _, ⟨hnext, rfl⟩, hdelta, hlate, hkept, rfl⟩

theorem mutateAttempts_cases (answers : Nat → Attempt) (remaining attempt : Nat) :
    (∃ failure, mutateAttempts answers authority permission update stored remaining attempt =
      (.error failure, stored)) ∨
    ∃ i tentative document,
      transact authority permission (update i) (stored.getD RecoveryEnvelope.empty) =
        .ok (tentative, document) ∧
      mutateAttempts answers authority permission update stored remaining attempt =
        (.ok tentative, some document) := by
  induction remaining generalizing attempt with
  | zero => exact .inl ⟨_, rfl⟩
  | succ remaining ih =>
    unfold mutateAttempts
    by_cases hread : (answers attempt).readable
    · cases htransact : transact authority permission (update attempt)
          (stored.getD RecoveryEnvelope.empty) with
      | error failure => exact .inl ⟨failure, by simp [hread]⟩
      | ok result =>
        by_cases hwritten : (answers attempt).written
        · cases hpublication : (answers attempt).publication with
          | published =>
            exact .inr ⟨attempt, result.1, result.2, htransact, by simp [hread, hwritten]⟩
          | failed => exact .inl ⟨.storage, by simp [hread, hwritten]⟩
          | conflict => simpa [hread, hwritten] using ih (attempt + 1)
        · exact .inl ⟨.storage, by simp [hread, hwritten]⟩
    · exact .inl ⟨.storage, by simp [hread]⟩

/-- A mutation fails and leaves the stored document, or it publishes what one of its attempts
made of it. -/
theorem mutate_cases (answers : StorageAnswers) (authority : NamespaceStorageAuthority)
    (permission : MutationPermission) (update : Nat → D → Except Failure (T × D))
    (stored : Option D) :
    (∃ failure, mutate answers authority permission update stored = (.error failure, stored)) ∨
    ∃ i tentative document,
      transact authority permission (update i) (stored.getD RecoveryEnvelope.empty) =
        .ok (tentative, document) ∧
      mutate answers authority permission update stored = (.ok tentative, some document) := by
  unfold mutate
  by_cases hadmitted : answers.admitted
  · simpa [hadmitted] using mutateAttempts_cases answers.attempts 3 0
  · exact .inl ⟨.storage, by simp [hadmitted]⟩

end Mutation

end ArtForgeStudio.Recovery
