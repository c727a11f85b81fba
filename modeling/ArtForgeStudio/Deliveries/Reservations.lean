import ArtForgeStudio.Api.Requests
import ArtForgeStudio.Library.Runs
import Mathlib.Algebra.GroupWithZero.Nat
import Mathlib.Data.List.Dedup

/-! # Reservations of delivery downloads

A download is reserved for one task at a time. All the reservations of a call have one number; they
may be released late, in part, or again after their session has gone.
-/

namespace ArtForgeStudio.Deliveries

open ArtForgeStudio.Api ArtForgeStudio.Runs

structure DeliveryDownloadKey where
  ownerUserId : String
  authEpoch : Nat
  clientRequestId : String
  fileId : String
  deriving DecidableEq

@[ext] structure DeliveryDownloadReservation where
  key : DeliveryDownloadKey
  reservationId : Nat
  deriving DecidableEq

structure GenerationRegistry where
  deliveryDownloads : List (DeliveryDownloadKey × Nat) := []
  nextDeliveryDownloadReservationId : Nat := 0

def DeliveryDownloadKey.new (scope : SessionScope) (clientRequestId fileId : String) :
    DeliveryDownloadKey :=
  ⟨scope.ownerUserId, scope.authEpoch, clientRequestId, fileId⟩

def DeliveryDownloadKey.belongsToScope (key : DeliveryDownloadKey) (scope : SessionScope) : Bool :=
  key.ownerUserId = scope.ownerUserId && key.authEpoch = scope.authEpoch

/-- The order of the fields. -/
def DeliveryDownloadKey.le (a b : DeliveryDownloadKey) : Bool :=
  (compare a.ownerUserId b.ownerUserId |>.then (compare a.authEpoch b.authEpoch) |>.then
    (compare a.clientRequestId b.clientRequestId) |>.then (compare a.fileId b.fileId)).isLE

/-- The different keys of the pairs, in order. -/
def pairKeys (scope : SessionScope) (pairs : List (String × String)) : List DeliveryDownloadKey :=
  ((pairs.map fun pair => DeliveryDownloadKey.new scope pair.1 pair.2).dedup).mergeSort
    DeliveryDownloadKey.le

/-- The numbers are those of 64 bits but zero. -/
def nextReservationId (current : Nat) : Nat :=
  if (current + 1) % 2 ^ 64 = 0 then 1 else (current + 1) % 2 ^ 64

/-- The entries of new keys, in place of older ones. -/
def extendDownloads (downloads : List (DeliveryDownloadKey × Nat))
    (reservations : List DeliveryDownloadReservation) : List (DeliveryDownloadKey × Nat) :=
  reservations.foldl (fun downloads reservation =>
    (reservation.key, reservation.reservationId) :: downloads.filter (·.1 ≠ reservation.key))
    downloads

def tryReserveDeliveryDownloadPairs (registry : GenerationRegistry) (scope : SessionScope)
    (pairs : List (String × String)) :
    Option (List DeliveryDownloadReservation) × GenerationRegistry :=
  let keys := pairKeys scope pairs
  if keys.any fun key => (registry.deliveryDownloads.lookup key).isSome then (none, registry)
  else if keys = [] then (some [], registry)
  else
    let reservationId := nextReservationId registry.nextDeliveryDownloadReservationId
    let reservations := keys.map fun key => ⟨key, reservationId⟩
    (some reservations,
      { deliveryDownloads := extendDownloads registry.deliveryDownloads reservations
        nextDeliveryDownloadReservationId := reservationId })

def releaseDeliveryDownload (found : Bool × List (DeliveryDownloadKey × Nat))
    (reservation : DeliveryDownloadReservation) : Bool × List (DeliveryDownloadKey × Nat) :=
  if found.2.lookup reservation.key = some reservation.reservationId then
    (true, found.2.filter (·.1 ≠ reservation.key)) else found

def releaseDeliveryDownloadReservations (registry : GenerationRegistry)
    (reservations : List DeliveryDownloadReservation) : Bool × GenerationRegistry :=
  let found := reservations.foldl releaseDeliveryDownload (false, registry.deliveryDownloads)
  (found.1, { registry with deliveryDownloads := found.2 })

def releaseDeliveryDownloadsForScope (registry : GenerationRegistry) (scope : SessionScope) :
    Bool × GenerationRegistry :=
  let kept := registry.deliveryDownloads.filter fun entry => !entry.1.belongsToScope scope
  (kept.length ≠ registry.deliveryDownloads.length, { registry with deliveryDownloads := kept })

variable {downloads : List (DeliveryDownloadKey × Nat)} {key : DeliveryDownloadKey} {id : Nat}
  {reservation : DeliveryDownloadReservation} {reservations : List DeliveryDownloadReservation}
  {registry : GenerationRegistry} {scope : SessionScope} {pairs : List (String × String)}

theorem lookup_filter (downloads : List (DeliveryDownloadKey × Nat))
    (kept : DeliveryDownloadKey → Bool) (key : DeliveryDownloadKey) :
    (downloads.filter fun entry => kept entry.1).lookup key =
      if kept key then downloads.lookup key else none := by
  induction downloads with
  | nil => simp
  | cons entry downloads ih =>
    obtain ⟨other, id⟩ := entry
    by_cases hother : key = other
    · subst hother
      by_cases hkept : kept key <;> simp [hkept, ih]
    · have hbeq : (key == other) = false := beq_false_of_ne hother
      by_cases hkept : kept other <;> simp [hkept, List.lookup_cons, hbeq, ih]

/-- New entries are found, and where there are none the old ones. -/
theorem lookup_extendDownloads (keys : List DeliveryDownloadKey)
    (downloads : List (DeliveryDownloadKey × Nat)) (id : Nat) (key : DeliveryDownloadKey) :
    (extendDownloads downloads (keys.map fun key => ⟨key, id⟩)).lookup key =
      if key ∈ keys then some id else downloads.lookup key := by
  induction keys generalizing downloads with
  | nil => simp [extendDownloads]
  | cons first keys ih =>
    refine (ih _).trans ?_
    by_cases hkey : key ∈ keys
    · simp [hkey]
    · by_cases hfirst : key = first
      · simp [hfirst]
      · have hbeq : (key == first) = false := beq_false_of_ne hfirst
        have hfilter := lookup_filter downloads (fun other => other ≠ first) key
        simpa [hkey, hfirst, List.lookup_cons, hbeq] using hfilter

theorem lookup_releaseOne (found : Bool × List (DeliveryDownloadKey × Nat))
    (reservation : DeliveryDownloadReservation) (key : DeliveryDownloadKey) (id : Nat) :
    (releaseDeliveryDownload found reservation).2.lookup key = some id ↔
      found.2.lookup key = some id ∧ ⟨key, id⟩ ≠ reservation := by
  obtain ⟨other, otherId⟩ := reservation
  unfold releaseDeliveryDownload
  split
  · rename_i hheld
    rw [lookup_filter found.2 (fun key => key ≠ other) key]
    by_cases hkey : key = other
    · subst hkey
      simp only [ne_eq, not_true, decide_false, Bool.false_eq_true, if_false, reduceCtorEq,
        false_iff, not_and, not_not]
      intro hsame
      cases hheld.symm.trans hsame
      rfl
    · simp [hkey]
  · rename_i hfree
    constructor
    · intro hheld
      refine ⟨hheld, fun heq => ?_⟩
      cases heq
      exact hfree hheld
    · exact fun hheld => hheld.1

/-- A release frees exactly the reservations that are given to it. -/
theorem lookup_release (registry : GenerationRegistry)
    (reservations : List DeliveryDownloadReservation) (key : DeliveryDownloadKey) (id : Nat) :
    (releaseDeliveryDownloadReservations registry reservations).2.deliveryDownloads.lookup key =
        some id ↔
      registry.deliveryDownloads.lookup key = some id ∧ ⟨key, id⟩ ∉ reservations := by
  have hfold : ∀ found : Bool × List (DeliveryDownloadKey × Nat),
      (reservations.foldl releaseDeliveryDownload found).2.lookup key = some id ↔
        found.2.lookup key = some id ∧ ⟨key, id⟩ ∉ reservations := by
    induction reservations with
    | nil => simp
    | cons reservation reservations ih =>
      intro found
      rw [List.foldl_cons, ih, lookup_releaseOne, List.mem_cons, not_or, and_assoc]
  exact hfold (false, registry.deliveryDownloads)

theorem lookup_releaseForScope (registry : GenerationRegistry) (scope : SessionScope)
    (key : DeliveryDownloadKey) (id : Nat) :
    (releaseDeliveryDownloadsForScope registry scope).2.deliveryDownloads.lookup key = some id ↔
      registry.deliveryDownloads.lookup key = some id ∧ ¬key.belongsToScope scope := by
  simp only [releaseDeliveryDownloadsForScope]
  rw [lookup_filter registry.deliveryDownloads (fun key => !key.belongsToScope scope) key]
  by_cases hscope : key.belongsToScope scope <;> simp [hscope]

theorem pairKeys_nodup (scope : SessionScope) (pairs : List (String × String)) :
    (pairKeys scope pairs).Nodup :=
  (List.mergeSort_perm _ _).nodup_iff.mpr (List.nodup_dedup _)

theorem mem_pairKeys : key ∈ pairKeys scope pairs ↔
    ∃ pair ∈ pairs, DeliveryDownloadKey.new scope pair.1 pair.2 = key := by
  simp [pairKeys, List.mem_mergeSort]

/-- All the different keys are taken, with one number, or none is and nothing changes. -/
theorem tryReserve_cases (registry : GenerationRegistry) (scope : SessionScope)
    (pairs : List (String × String)) :
    (tryReserveDeliveryDownloadPairs registry scope pairs = (none, registry) ∧
      ∃ key ∈ pairKeys scope pairs, (registry.deliveryDownloads.lookup key).isSome) ∨
    ((∀ key ∈ pairKeys scope pairs, registry.deliveryDownloads.lookup key = none) ∧
      ∃ id next,
        tryReserveDeliveryDownloadPairs registry scope pairs =
          (some ((pairKeys scope pairs).map fun key => ⟨key, id⟩), next) ∧
        id = nextReservationId registry.nextDeliveryDownloadReservationId ∧
        (next.nextDeliveryDownloadReservationId = registry.nextDeliveryDownloadReservationId ∨
          next.nextDeliveryDownloadReservationId = id) ∧
        (pairKeys scope pairs ≠ [] → next.nextDeliveryDownloadReservationId = id) ∧
        ∀ key, next.deliveryDownloads.lookup key =
          if key ∈ pairKeys scope pairs then some id else registry.deliveryDownloads.lookup key) := by
  unfold tryReserveDeliveryDownloadPairs
  dsimp only
  split
  · rename_i hheld
    exact .inl ⟨rfl, List.any_eq_true.mp hheld⟩
  · rename_i hfree
    have hnone : ∀ key ∈ pairKeys scope pairs, registry.deliveryDownloads.lookup key = none := by
      simpa only [List.any_eq_true, not_exists, not_and, Option.not_isSome_iff_eq_none] using hfree
    refine .inr ⟨hnone, nextReservationId registry.nextDeliveryDownloadReservationId, ?_⟩
    split
    · rename_i hempty
      exact ⟨registry, by simp [hempty], rfl, .inl rfl, fun h => absurd hempty h, by simp [hempty]⟩
    · exact ⟨_, rfl, rfl, .inr rfl, fun _ => rfl, lookup_extendDownloads _ _ _⟩

/-- A reservation, by the call that returned it. -/
structure Ticket where
  reservation : DeliveryDownloadReservation
  call : Nat
  deriving DecidableEq

/-- The registry, how often it was called, and which reservations were returned and which of these
are neither released nor dropped with their session. -/
structure World where
  registry : GenerationRegistry := {}
  calls : Nat := 0
  returned : List Ticket := []
  held : List Ticket := []

inductive Call where
  | reserve (scope : SessionScope) (pairs : List (String × String))
  | release (tickets : List Ticket)
  | releaseForScope (scope : SessionScope)

def World.after (call : Call) (world : World) : World :=
  match call with
  | .reserve scope pairs =>
    let reserved := tryReserveDeliveryDownloadPairs world.registry scope pairs
    let tickets := (reserved.1.getD []).map fun reservation => ⟨reservation, world.calls⟩
    { registry := reserved.2, calls := world.calls + 1
      returned := tickets ++ world.returned, held := tickets ++ world.held }
  | .release tickets =>
    { world with
      registry := (releaseDeliveryDownloadReservations world.registry
        (tickets.map (·.reservation))).2
      calls := world.calls + 1
      held := world.held.filter (· ∉ tickets) }
  | .releaseForScope scope =>
    { world with
      registry := (releaseDeliveryDownloadsForScope world.registry scope).2
      calls := world.calls + 1
      held := world.held.filter fun ticket => !ticket.reservation.key.belongsToScope scope }

/-- Only reservations that were returned before are released. -/
def Call.Releasable (call : Call) (world : World) : Prop :=
  ∀ tickets, call = .release tickets → tickets ⊆ world.returned

/-- Numbers are not used again, and the registry has what is held. -/
structure World.Sound (world : World) : Prop where
  fresh : world.registry.nextDeliveryDownloadReservationId ≤ world.calls
  numbered : ∀ ticket ∈ world.returned,
    ticket.reservation.reservationId ≤ world.registry.nextDeliveryDownloadReservationId
  distinct : ∀ first ∈ world.returned, ∀ second ∈ world.returned,
    first.reservation = second.reservation → first = second
  held_returned : world.held ⊆ world.returned
  registered : ∀ key id, world.registry.deliveryDownloads.lookup key = some id ↔
    ∃ ticket ∈ world.held, ticket.reservation = ⟨key, id⟩

theorem nextReservationId_eq {current : Nat} (h : current + 1 < 2 ^ 64) :
    nextReservationId current = current + 1 := by
  rw [nextReservationId, Nat.mod_eq_of_lt h, if_neg (Nat.succ_ne_zero current)]

variable {world : World}

/-- A call returns reservations for its keys, all with one number. -/
def newTickets (keys : List DeliveryDownloadKey) (id call : Nat) : List Ticket :=
  keys.map fun key => ⟨⟨key, id⟩, call⟩

theorem mem_newTickets {keys : List DeliveryDownloadKey} {call : Nat} {ticket : Ticket} :
    ticket ∈ newTickets keys id call ↔
      ticket.reservation.key ∈ keys ∧ ticket.reservation.reservationId = id ∧ ticket.call = call := by
  simp only [newTickets, List.mem_map]
  constructor
  · rintro ⟨key, hkey, rfl⟩
    exact ⟨hkey, rfl, rfl⟩
  · rintro ⟨hkey, rfl, rfl⟩
    exact ⟨ticket.reservation.key, hkey, rfl⟩

theorem World.Sound.reserve (h : world.Sound) (hcalls : world.calls + 1 < 2 ^ 64)
    (scope : SessionScope) (pairs : List (String × String)) :
    (World.after (.reserve scope pairs) world).Sound := by
  have hfresh := h.fresh
  rcases tryReserve_cases world.registry scope pairs with
    ⟨hnone, -⟩ | ⟨hfree, id, next, hsome, hid, hnext, hused, hlookup⟩
  · simp only [World.after, hnone, Option.getD_none, List.map_nil, List.nil_append]
    exact ⟨by dsimp only; omega, h.numbered, h.distinct, h.held_returned, h.registered⟩
  · have hnumber : id = world.registry.nextDeliveryDownloadReservationId + 1 := by
      rw [hid, nextReservationId_eq (by omega)]
    have hafter : World.after (.reserve scope pairs) world =
        { registry := next, calls := world.calls + 1
          returned := newTickets (pairKeys scope pairs) id world.calls ++ world.returned
          held := newTickets (pairKeys scope pairs) id world.calls ++ world.held } := by
      simp only [World.after, hsome, Option.getD_some, List.map_map, newTickets]
      rfl
    -- Every reservation that was returned before has a smaller number.
    have holder : ∀ ticket ∈ world.returned, ticket.reservation.reservationId < id := by
      intro ticket hticket
      have hle := h.numbered ticket hticket
      omega
    rw [hafter]
    constructor
    · dsimp only
      omega
    · intro ticket hticket
      rcases List.mem_append.mp hticket with hnew | hold
      · obtain ⟨hkey, hticketId, -⟩ := mem_newTickets.mp hnew
        have hnextId := hused (List.ne_nil_of_mem hkey)
        dsimp only
        omega
      · have hle := h.numbered ticket hold
        dsimp only
        omega
    · intro first hfirst second hsecond heq
      rcases List.mem_append.mp hfirst with hfirst | hfirst <;>
        rcases List.mem_append.mp hsecond with hsecond | hsecond
      · have hcall := (mem_newTickets.mp hfirst).2.2.trans (mem_newTickets.mp hsecond).2.2.symm
        cases first
        cases second
        simp_all
      · have hsmaller := holder second hsecond
        have hnew := (mem_newTickets.mp hfirst).2.1
        rw [heq] at hnew
        omega
      · have hsmaller := holder first hfirst
        have hnew := (mem_newTickets.mp hsecond).2.1
        rw [← heq] at hnew
        omega
      · exact h.distinct first hfirst second hsecond heq
    · intro ticket hticket
      rcases List.mem_append.mp hticket with hnew | hold
      · exact List.mem_append_left _ hnew
      · exact List.mem_append_right _ (h.held_returned hold)
    · intro key number
      rw [hlookup]
      by_cases hkey : key ∈ pairKeys scope pairs
      · rw [if_pos hkey, Option.some.injEq]
        constructor
        · rintro rfl
          exact ⟨⟨⟨key, id⟩, world.calls⟩,
            List.mem_append_left _ (mem_newTickets.mpr ⟨hkey, rfl, rfl⟩), rfl⟩
        · rintro ⟨ticket, hticket, heq⟩
          rcases List.mem_append.mp hticket with hnew | hold
          · rw [← (mem_newTickets.mp hnew).2.1, heq]
          · have htaken := (h.registered key number).mpr ⟨ticket, hold, heq⟩
            rw [hfree key hkey] at htaken
            cases htaken
      · rw [if_neg hkey, h.registered]
        constructor
        · rintro ⟨ticket, hticket, heq⟩
          exact ⟨ticket, List.mem_append_right _ hticket, heq⟩
        · rintro ⟨ticket, hticket, heq⟩
          rcases List.mem_append.mp hticket with hnew | hold
          · have hmem := (mem_newTickets.mp hnew).1
            rw [heq] at hmem
            exact absurd hmem hkey
          · exact ⟨ticket, hold, heq⟩

/-- Only what is released is no longer held, though the registry knows numbers only. -/
theorem World.Sound.release (h : world.Sound) {tickets : List Ticket}
    (htickets : tickets ⊆ world.returned) : (World.after (.release tickets) world).Sound where
  fresh := h.fresh.trans (Nat.le_succ _)
  numbered := h.numbered
  distinct := h.distinct
  held_returned := fun ticket hticket => h.held_returned (List.mem_of_mem_filter hticket)
  registered key id := by
    simp only [World.after, lookup_release, h.registered, List.mem_map, List.mem_filter,
      decide_eq_true_eq]
    constructor
    · rintro ⟨⟨ticket, hticket, heq⟩, hnot⟩
      exact ⟨ticket, ⟨hticket, fun hreleased => hnot ⟨ticket, hreleased, heq⟩⟩, heq⟩
    · rintro ⟨ticket, ⟨hticket, hkept⟩, heq⟩
      refine ⟨⟨ticket, hticket, heq⟩, ?_⟩
      rintro ⟨other, hother, hsame⟩
      have heq := h.distinct other (htickets hother) ticket (h.held_returned hticket)
        (hsame.trans heq.symm)
      exact hkept (heq ▸ hother)

theorem World.Sound.releaseForScope (h : world.Sound) (scope : SessionScope) :
    (World.after (.releaseForScope scope) world).Sound where
  fresh := h.fresh.trans (Nat.le_succ _)
  numbered := h.numbered
  distinct := h.distinct
  held_returned := fun ticket hticket => h.held_returned (List.mem_of_mem_filter hticket)
  registered key id := by
    simp only [World.after, lookup_releaseForScope, h.registered, List.mem_filter,
      Bool.not_eq_true', ← Bool.not_eq_true]
    constructor
    · rintro ⟨⟨ticket, hticket, heq⟩, hother⟩
      exact ⟨ticket, ⟨hticket, by rwa [heq]⟩, heq⟩
    · rintro ⟨ticket, ⟨hticket, hother⟩, heq⟩
      rw [heq] at hother
      exact ⟨⟨ticket, hticket, heq⟩, hother⟩

theorem World.Sound.after (h : world.Sound) {call : Call} (hcall : call.Releasable world)
    (hcalls : world.calls + 1 < 2 ^ 64) : (World.after call world).Sound := by
  cases call with
  | reserve scope pairs => exact h.reserve hcalls scope pairs
  | release tickets => exact h.release (hcall tickets rfl)
  | releaseForScope scope => exact h.releaseForScope scope

theorem World.after_calls (call : Call) (world : World) :
    (World.after call world).calls = world.calls + 1 := by
  cases call <;> rfl

theorem World.Sound.run {calls : List Call} (h : world.Sound)
    (hcalls : world.calls + calls.length < 2 ^ 64)
    (hreleased : AtEachStep World.after Call.Releasable calls world) :
    (Runs.run World.after calls world).Sound := by
  induction calls generalizing world with
  | nil => exact h
  | cons call calls ih =>
    rw [List.length_cons] at hcalls
    exact ih (h.after hreleased.1 (by omega)) (by rw [World.after_calls]; omega) hreleased.2

theorem World.sound_start : World.Sound {} where
  fresh := Nat.le_refl 0
  numbered := by simp
  distinct := by simp
  held_returned := by simp
  registered := by simp

/-- Whatever fewer than `2 ^ 64` calls have been made: no key is held twice; a call to reserve
takes all its keys or changes nothing; and a release takes nothing from who is not released. -/
theorem reservations_are_exclusive {calls : List Call} (hcalls : calls.length < 2 ^ 64)
    (hreleased : AtEachStep World.after Call.Releasable calls {}) :
    let world := Runs.run World.after calls {}
    (∀ first ∈ world.held, ∀ second ∈ world.held,
      first.reservation.key = second.reservation.key → first = second) ∧
    (∀ key id, world.registry.deliveryDownloads.lookup key = some id ↔
      ∃ ticket ∈ world.held, ticket.reservation = ⟨key, id⟩) ∧
    (∀ scope pairs, tryReserveDeliveryDownloadPairs world.registry scope pairs =
        (none, world.registry) ∨
      ∃ id next, tryReserveDeliveryDownloadPairs world.registry scope pairs =
          (some ((pairKeys scope pairs).map fun key => ⟨key, id⟩), next) ∧
        (pairKeys scope pairs).Nodup ∧
        (∀ key, key ∈ pairKeys scope pairs ↔
          ∃ pair ∈ pairs, DeliveryDownloadKey.new scope pair.1 pair.2 = key) ∧
        ∀ key, next.deliveryDownloads.lookup key = if key ∈ pairKeys scope pairs then some id
          else world.registry.deliveryDownloads.lookup key) ∧
    ∀ tickets ⊆ world.returned, ∀ ticket ∈ world.held, ticket ∉ tickets →
      (releaseDeliveryDownloadReservations world.registry
        (tickets.map (·.reservation))).2.deliveryDownloads.lookup ticket.reservation.key =
          some ticket.reservation.reservationId := by
  intro world
  have hsound : world.Sound := World.sound_start.run (by simpa using hcalls) hreleased
  refine ⟨fun first hfirst second hsecond hkey => ?_, hsound.registered, fun scope pairs => ?_,
    fun tickets htickets ticket hticket hkept => ?_⟩
  · have hone := (hsound.registered _ _).mpr ⟨first, hfirst, rfl⟩
    have hother := (hsound.registered _ _).mpr ⟨second, hsecond, rfl⟩
    rw [hkey, hother, Option.some.injEq] at hone
    exact hsound.distinct first (hsound.held_returned hfirst) second (hsound.held_returned hsecond)
      (DeliveryDownloadReservation.ext hkey hone.symm)
  · rcases tryReserve_cases world.registry scope pairs with
      ⟨hnone, -⟩ | ⟨-, id, next, hsome, -, -, -, hlookup⟩
    · exact .inl hnone
    · exact .inr ⟨id, next, hsome, pairKeys_nodup scope pairs, fun key => mem_pairKeys, hlookup⟩
  · have hafter := (hsound.release htickets).registered
      ticket.reservation.key ticket.reservation.reservationId
    exact hafter.mpr ⟨ticket, List.mem_filter.mpr ⟨hticket, by simpa using hkept⟩, rfl⟩

/-- A download is reserved, released, and reserved again. -/
def reservedAgain : List Call :=
  let key := DeliveryDownloadKey.new ⟨"user", 7⟩ "request" "file"
  [.reserve ⟨"user", 7⟩ [("request", "file")], .release [⟨⟨key, 1⟩, 0⟩],
    .reserve ⟨"user", 7⟩ [("request", "file")]]

theorem reservations_are_exclusive_reserved_again :
    let key := DeliveryDownloadKey.new ⟨"user", 7⟩ "request" "file"
    (releaseDeliveryDownloadReservations (Runs.run World.after reservedAgain {}).registry
      [⟨key, 1⟩]).2.deliveryDownloads.lookup key = some 2 := by
  intro key
  have hpair : pairKeys ⟨"user", 7⟩ [("request", "file")] = [key] := by
    simp [pairKeys, key]
  have hfirst : World.after (.reserve ⟨"user", 7⟩ [("request", "file")]) {} =
      { registry := ⟨[(key, 1)], 1⟩, calls := 1, returned := [⟨⟨key, 1⟩, 0⟩]
        held := [⟨⟨key, 1⟩, 0⟩] } := by
    simp [World.after, tryReserveDeliveryDownloadPairs, hpair, nextReservationId, extendDownloads]
  have hlast : Runs.run World.after reservedAgain {} =
      { registry := ⟨[(key, 2)], 2⟩, calls := 3
        returned := [⟨⟨key, 2⟩, 2⟩, ⟨⟨key, 1⟩, 0⟩], held := [⟨⟨key, 2⟩, 2⟩] } := by
    rw [reservedAgain, Runs.run_cons, hfirst]
    simp [World.after, tryReserveDeliveryDownloadPairs, hpair, nextReservationId, extendDownloads,
      releaseDeliveryDownloadReservations, releaseDeliveryDownload, key]
  have hreleased : AtEachStep World.after Call.Releasable reservedAgain {} := by
    refine ⟨by rintro _ ⟨⟩, ?_, by rintro _ ⟨⟩, trivial⟩
    rintro _ ⟨⟩
    rw [hfirst]
    simp [key]
  have hexclusive := (reservations_are_exclusive (by decide) hreleased).2.2.2
  rw [hlast] at hexclusive ⊢
  exact hexclusive [⟨⟨key, 1⟩, 0⟩] (by simp) ⟨⟨key, 2⟩, 2⟩ (by simp) (by simp)

end ArtForgeStudio.Deliveries
