import Relay.Adapters.Limits
import Relay.Library.Binary64
import Relay.Runtime.Configuration

/-!
# Failed calls on the memory maps

A call writes its maps one after another and has no transaction to undo them, so it
is atomic only where every check and every constructor that may throw comes before the
first write. One operation writes first: `savePending` makes its claim after it has set
the event, the delivery and its eligibility. The end of a claim is a sum of doubles: the
reading of the clock, and the lease in the milliseconds that `Duration.toMillis` makes of
it. The sum takes up a small fraction.
-/

namespace Relay

/-! ## Sums of doubles -/

section Sums

variable (toMillis : Number → Binary64) (nowMillis : ℕ) (lease : Number)

/-- The end of a lease that starts now, as `DeliveryClaim` takes it. -/
def expiresAt : Option ℕ :=
  match Binary64.add nowMillis (toMillis lease) with
  | .finite sum => (wholeMillis sum).filter (· ≤ maxSafeInteger)
  | .infinite _ => none

/-- The lease that ends there exactly, or one that `DeliveryClaim.make` refuses alike. -/
def summedLease : Number :=
  match expiresAt toMillis nowMillis lease with
  | some expires => expires - nowMillis
  | none => 1 / 2

variable {toMillis nowMillis lease}

theorem expiresAt_eq_some {expires : ℕ} : expiresAt toMillis nowMillis lease = some expires ↔
    expires ≤ maxSafeInteger ∧ Binary64.add nowMillis (toMillis lease) = .finite expires := by
  unfold expiresAt
  constructor
  · intro ends
    split at ends
    · next sum added =>
      obtain ⟨whole, bound⟩ := Option.filter_eq_some_iff.1 ends
      rw [added, wholeMillis_eq_some.1 whole]
      exact ⟨of_decide_eq_true bound, rfl⟩
    · cases ends
  · rintro ⟨bound, added⟩
    rw [added]
    simp [bound]

theorem wholeMillis_summedLease :
    wholeMillis (nowMillis + summedLease toMillis nowMillis lease) = expiresAt toMillis nowMillis lease := by
  unfold summedLease
  split
  · next expires ends => rw [add_sub_cancel, wholeMillis_natCast, ends]
  · next endless => rw [wholeMillis_half, endless]

/-- A fraction of a nanosecond is lost; half a millisecond at the start of time is not. -/
example : expiresAt Binary64.round 1700000000000 30000.0001 = some 1700000030000 ∧ expiresAt Binary64.round 0 0.5 = none := by
  decide +kernel

end Sums

namespace MemoryStore

/-! ## All the calls -/

section Reads

variable (s : MemoryStore)

def statusFor (delivery : Delivery) : DeliveryStatus where
  delivery
  attempts := ((s.attempts.get delivery.id).getD []).insertionSort fun a b => a.ordinal ≤ b.ordinal

def findStatus (id : DeliveryId) : Option DeliveryStatus := (s.records.get id).map s.statusFor

def listDeadLetters (localeCompare : Collation) (limit : ℕ) : List DeliveryStatus :=
  (((s.records.values.filter fun delivery => Entry.isDeadLettered delivery.state).insertionSort
    fun a b => localeCompare.le a.id b.id).take limit).map s.statusFor

end Reads

/-- The operations of `DeliveryRepository` and `RelayIntakeStore`. -/
inductive Operation where
  | store (call : StoreCall)
  | findStatus (id : DeliveryId)
  | listDeadLetters (limit : ℕ)

inductive Answered where
  | value (value : StoreValue)
  | statuses (statuses : List DeliveryStatus)

/-- A call hands over its lease as `toMillis` makes it. -/
def serveSummed (toMillis : Number → Binary64) (nowMillis : ℕ) (s : MemoryStore) (call : StoreCall) : Reply × MemoryStore :=
  s.exec nowMillis (call.mapLease (summedLease toMillis nowMillis))

def operate (toMillis : Number → Binary64) (localeCompare : Collation) (nowMillis : ℕ) (s : MemoryStore) :
    Operation → Except Failure Answered × MemoryStore
  | .store call => ((s.serveSummed toMillis nowMillis call).1.map .value, (s.serveSummed toMillis nowMillis call).2)
  | .findStatus id => (.ok (.statuses (s.findStatus id).toList), s)
  | .listDeadLetters limit => (.ok (.statuses (s.listDeadLetters localeCompare limit)), s)

def Operation.lease : Operation → Option Number
  | .store call => call.lease
  | .findStatus _ | .listDeadLetters _ => none

/-- The delivery an operation creates is new. -/
def Operation.Fresh (s : MemoryStore) : Operation → Prop
  | .store call => memory.Fresh s call
  | .findStatus _ | .listDeadLetters _ => True

def Operation.savesPending : Operation → Bool
  | .store (.savePending ..) => true
  | _ => false

/-- A failure leaves the maps as they were. -/
def Atomic {α : Type} (s : MemoryStore) (r : Except Failure α × MemoryStore) : Prop :=
  ∀ failure, r.1 = .error failure → r.2 = s

/-! ## Calls that check first -/

section Checks

variable {s : MemoryStore} {nowMillis : ℕ}

theorem Atomic.ok {α : Type} {value : α} {s' : MemoryStore} : Atomic s ((.ok value : Except Failure α), s') := by
  intro failure failed
  cases failed

theorem Atomic.unchanged {α : Type} {reply : Except Failure α} : Atomic s (reply, s) := fun _ _ => rfl

theorem fencedAction_atomic {operation : ClaimOperation} {id : DeliveryId} {claim : DeliveryClaim} {live : Option ℕ}
    {act : Delivery → Reply × MemoryStore} (acts : ∀ delivery, Atomic s (act delivery)) :
    Atomic s (s.fencedAction operation id claim live act) := by
  unfold fencedAction
  split
  · exact .unchanged
  · split
    · exact .unchanged
    · exact acts _

theorem deadLetterAction_atomic {id : DeliveryId} {act : Delivery → Reply × MemoryStore}
    (acts : ∀ delivery, Atomic s (act delivery)) : Atomic s (s.deadLetterAction id act) := by
  unfold deadLetterAction
  split
  · exact .unchanged
  · split
    · exact acts _
    · exact .unchanged

/-- The attempt is appended after the last check. -/
theorem recordAttempt_atomic (attempt : DeliveryAttemptRecord) : Atomic s (s.recordAttempt nowMillis attempt) := by
  refine fencedAction_atomic ?_
  intro delivery
  simp only
  split
  · exact .unchanged
  · split
    · exact .ok
    · split
      · exact .unchanged
      · exact .ok

section Claiming

variable (ownerId : WorkerId) (destinationId : DestinationId) (limit : Number) {lease : Number}

/-- When it has one, none throws. -/
theorem claimPendingLoop_completes {expires : ℕ} (ends : wholeMillis (nowMillis + lease) = some expires)
    (deliveries : List Delivery) : ∀ (claimed : List ClaimedDelivery) (s : MemoryStore),
      ∃ all s', claimPendingLoop nowMillis ownerId destinationId limit lease deliveries claimed s = (.ok (.claimed all), s') := by
  induction deliveries with
  | nil =>
    intro claimed s
    exact ⟨claimed, s, rfl⟩
  | cons delivery rest ih =>
    intro claimed s
    rw [claimPendingLoop]
    split
    · exact ih claimed s
    · split
      · exact ih claimed s
      · simp only [DeliveryClaim.make, ends, Option.map_some]
        exact ih _ _

theorem claimPending_atomic : Atomic s (s.claimPending nowMillis ownerId destinationId limit lease) := by
  cases ends : wholeMillis (nowMillis + lease) with
  | none =>
    obtain run | run := claimPendingLoop_throws ownerId destinationId limit ends s.records.values [] s
    · rw [claimPending, run]
      exact .ok
    · rw [claimPending, run]
      exact .unchanged
  | some expires =>
    obtain ⟨all, s', run⟩ := claimPendingLoop_completes ownerId destinationId limit ends s.records.values [] s
    rw [claimPending, run]
    exact .ok

end Claiming

theorem renewClaim_atomic (id : DeliveryId) (claim : DeliveryClaim) (lease : Number) :
    Atomic s (s.renewClaim nowMillis id claim lease) := by
  unfold renewClaim
  split
  · exact .unchanged
  · split
    · exact .unchanged
    · exact .ok

theorem accept_atomic (record : IntakeRecord) : Atomic s (s.accept nowMillis record) := by
  unfold accept
  split
  · split
    · exact .unchanged
    · exact .unchanged
  · simp only
    split
    · exact .unchanged
    · exact .ok

/-- **Every call but `savePending` is atomic**, whatever its arguments. -/
theorem exec_atomic {call : StoreCall}
    (other : ∀ event id destinationId request, call ≠ .savePending event id destinationId request) :
    Atomic s (s.exec nowMillis call) := by
  cases call with
  | save delivery =>
    rw [exec, save]
    split
    · exact .ok
    · exact .ok
  | findById id => exact .unchanged
  | accept record => exact accept_atomic record
  | savePending event id destinationId request => exact absurd rfl (other event id destinationId request)
  | claimPending ownerId destinationId limit lease => exact claimPending_atomic ownerId destinationId limit
  | renewClaim id claim lease => exact renewClaim_atomic id claim lease
  | recordAttempt attempt => exact recordAttempt_atomic attempt
  | completeClaim id claim result => exact fencedAction_atomic fun _ => .ok
  | releaseClaim id claim => exact fencedAction_atomic fun _ => .ok
  | retryDeadLetter id => exact deadLetterAction_atomic fun _ => .ok
  | repairDeadLetter id route =>
    refine deadLetterAction_atomic ?_
    intro delivery
    split
    · exact .unchanged
    · exact .ok
  | terminateDeadLetter id => exact deadLetterAction_atomic fun _ => .ok

end Checks

/-! ## The call that writes first -/

section SavePending

variable {s : MemoryStore} {nowMillis : ℕ} {event : RelayEvent} {id : DeliveryId} {destinationId : DestinationId}
  {request : ClaimRequest}

theorem savePending_atomic {expires : ℕ} (ends : wholeMillis (nowMillis + request.leaseDurationMillis) = some expires) :
    Atomic s (s.savePending nowMillis event id destinationId request) := by
  unfold savePending
  simp only [DeliveryClaim.make, ends]
  exact .ok

/-- The throw leaves the delivery behind, pending and without a generation. -/
theorem savePending_throws (endless : wholeMillis (nowMillis + request.leaseDurationMillis) = none) :
    s.savePending nowMillis event id destinationId request =
      (.error .defect,
        { s with
          events := s.events.set event.id event
          records := s.records.set id ⟨id, event.id, destinationId, .pending⟩
          nextEligibleAt := s.nextEligibleAt.set id nowMillis }) := by
  unfold savePending
  simp only [DeliveryClaim.make, endless, Option.map_none]

theorem savePending_not_atomic (endless : wholeMillis (nowMillis + request.leaseDurationMillis) = none)
    (fresh : s.records.get id = none) : ¬ Atomic s (s.savePending nowMillis event id destinationId request) := by
  intro atomic
  rw [savePending_throws endless] at atomic
  have same := congrArg (fun s : MemoryStore => s.records.get id) (atomic .defect rfl)
  simp [fresh] at same

end SavePending

/-! ## Any operation -/

theorem operate_store_atomic {toMillis : Number → Binary64} {localeCompare : Collation} {s : MemoryStore} {nowMillis : ℕ} {call : StoreCall} :
    Atomic s (s.operate toMillis localeCompare nowMillis (.store call)) ↔ Atomic s (s.serveSummed toMillis nowMillis call) := by
  unfold Atomic operate
  simp only
  constructor
  · intro atomic failure failed
    exact atomic failure (by rw [failed]; rfl)
  · intro atomic failure failed
    cases run : (s.serveSummed toMillis nowMillis call).1 with
    | ok value => rw [run] at failed; cases failed
    | error failure' => exact atomic failure' run

theorem eq_savePending {call : StoreCall} (saves : (Operation.store call).savesPending = true) :
    ∃ event id destinationId request, call = .savePending event id destinationId request := by
  cases call with
  | savePending event id destinationId request => exact ⟨event, id, destinationId, request, rfl⟩
  | _ => cases saves

theorem mapLease_not_savePending {f : Number → Number} {call : StoreCall} (other : (Operation.store call).savesPending = false)
    (event : RelayEvent) (id : DeliveryId) (destinationId : DestinationId) (request : ClaimRequest) :
    call.mapLease f ≠ .savePending event id destinationId request := by
  cases call with
  | savePending => cases other
  | _ => exact nofun

end MemoryStore

open MemoryStore in
/-- **A failed call leaves the maps as they were**, in every store, exactly unless it is a `savePending` whose lease, as
configured, ends at no whole millisecond or past the safe integers, in the sum of doubles. -/
theorem failed_call_atomic (toMillis : Number → Binary64) (localeCompare : Collation) (environment : Environment) (s : MemoryStore) (nowMillis : ℕ)
    (call : Operation) (fresh : call.Fresh s) : ∀ configuration ∈ appConfigurationLive environment,
      (∀ lease, call.lease = some lease → lease = configuration.recovery.claimLeaseDuration.millis) →
      (Atomic s (s.operate toMillis localeCompare nowMillis call) ↔ (call.savesPending = true → ∃ expires ≤ maxSafeInteger,
        Binary64.add nowMillis (toMillis configuration.recovery.claimLeaseDuration.millis) = .finite (expires : ℕ))) := by
  intro configuration _ leased
  cases call with
  | findStatus id => exact ⟨fun _ => nofun, fun _ => .unchanged⟩
  | listDeadLetters limit => exact ⟨fun _ => nofun, fun _ => .unchanged⟩
  | store call =>
    rw [operate_store_atomic, serveSummed]
    cases saves : (Operation.store call).savesPending with
    | false => exact ⟨fun _ => nofun, fun _ => exec_atomic (mapLease_not_savePending saves)⟩
    | true =>
      obtain ⟨event, id, destinationId, request, rfl⟩ := eq_savePending saves
      rw [← leased request.leaseDurationMillis rfl]
      constructor
      · intro atomic _
        cases ends : expiresAt toMillis nowMillis request.leaseDurationMillis with
        | some expires => exact ⟨expires, expiresAt_eq_some.1 ends⟩
        | none =>
          refine absurd atomic (savePending_not_atomic (wholeMillis_summedLease.trans ends) ?_)
          exact Option.map_eq_none_iff.1 (fresh id rfl)
      · intro ends
        obtain ⟨expires, ends⟩ := ends rfl
        exact savePending_atomic (wholeMillis_summedLease.trans (expiresAt_eq_some.2 ends))

/-! ## Half a millisecond -/

namespace Sample

/-- Intake with a lease of `500 micros`. -/
def halfLease : MemoryStore.Operation := .store (.savePending event delivery destination ⟨worker, 1 / 2⟩)

theorem halfLease_leased {configuration : AppConfiguration} (leaseOf : configuration.recovery.claimLeaseDuration.millis = 1 / 2) :
    ∀ lease, halfLease.lease = some lease → lease = configuration.recovery.claimLeaseDuration.millis := by
  intro lease asked
  rw [leaseOf]
  exact (Option.some.inj asked).symm

end Sample

open MemoryStore in
theorem failed_call_atomic_half : ∃ configuration ∈ appConfigurationLive (Sample.leaseEnvironment (1 / 2)),
    (Atomic MemoryStore.empty (MemoryStore.empty.operate Binary64.round .codePoint 0 Sample.halfLease) ↔
      (Sample.halfLease.savesPending = true → ∃ expires ≤ maxSafeInteger,
        Binary64.add (0 : ℕ) (Binary64.round configuration.recovery.claimLeaseDuration.millis) = .finite (expires : ℕ))) := by
  obtain ⟨configuration, accepted, leaseOf, -⟩ := @accepts_lease (1 / 2) (by norm_num)
  exact ⟨configuration, accepted, failed_call_atomic Binary64.round .codePoint _ MemoryStore.empty 0 Sample.halfLease (fun _ _ => rfl)
    configuration accepted (Sample.halfLease_leased leaseOf)⟩

open MemoryStore in
/-- `savePending` writes three of its maps and throws. -/
theorem failed_call_not_atomic : ¬ ∀ (environment : Environment) (s : MemoryStore) (nowMillis : ℕ) (call : Operation),
    memory.anyCalls.Reachable s → call.Fresh s → ∀ configuration ∈ appConfigurationLive environment,
      (∀ lease, call.lease = some lease → lease = configuration.recovery.claimLeaseDuration.millis) →
      Atomic s (s.operate Binary64.round .codePoint nowMillis call) := by
  intro claim
  obtain ⟨configuration, accepted, leaseOf, -⟩ := @accepts_lease (1 / 2) (by norm_num)
  have atomic := claim _ MemoryStore.empty 0 Sample.halfLease .init (fun _ _ => rfl) configuration accepted
    (Sample.halfLease_leased leaseOf)
  refine savePending_not_atomic ?_ rfl (operate_store_atomic.1 atomic)
  have endless : expiresAt Binary64.round 0 (1 / 2) = none := by decide +kernel
  exact wholeMillis_summedLease.trans endless

end Relay
