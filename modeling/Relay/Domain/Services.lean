import Relay.Domain.Model
import Relay.Library.Sql

/-!
# Services and their failures (`src/services.ts`, `src/errors.ts`, `src/deliveryPolicy.ts`)

A call on the delivery repository or the intake store is a `StoreCall`; its reply
is a value or a `Failure`. `defect` is a call that dies because building a value
violates its schema. `StoreCall.fence` is the claim a fenced mutation presents.
-/

namespace Relay

/-! ## Failures -/

inductive ClaimOperation where
  | renew
  | recordAttempt
  | complete
  | release
deriving DecidableEq

inductive RepositoryOperation where
  | save
  | findById
  | findStatus
  | recordAttempt
  | listDeadLetters
  | retryDeadLetter
  | repairDeadLetter
  | terminateDeadLetter
  | claimPending
  | renewClaim
  | completeClaim
  | releaseClaim
deriving DecidableEq

inductive RecoveryReason where
  | notFound
  | notDeadLettered
deriving DecidableEq

inductive IntakeOperation where
  | savePending
  | accept
deriving DecidableEq

/-- What an infrastructure failure carries as its cause. -/
inductive Cause where
  | message (text : String)
  | schemaError
  | sqlError (error : Sql.Error)
deriving DecidableEq

inductive Failure where
  | claimLost (operation : ClaimOperation) (deliveryId : DeliveryId) (ownerId : WorkerId)
      (generation : ClaimGeneration)
  | deadLetterRecovery (deliveryId : DeliveryId) (reason : RecoveryReason)
  | deadLetterDestinationMismatch (deliveryId : DeliveryId) (deliveryDestinationId : DestinationId)
      (repairDestinationId : DestinationId)
  | deliveryRepository (operation : RepositoryOperation) (cause : Cause)
  | ingestionConflict (ingestionKey : IngestionKey) (existingEventId : EventId)
  | relayIntakeStore (operation : IntakeOperation) (cause : Cause)
  | defect
deriving DecidableEq

/-- The failure of an operation that does not hold the claim it presents. -/
def lost (operation : ClaimOperation) (deliveryId : DeliveryId) (claim : DeliveryClaim) : Failure :=
  .claimLost operation deliveryId claim.ownerId claim.generation

inductive ErrorTag where
  | claimLostError
  | deadLetterRecoveryError (reason : RecoveryReason)
  | deadLetterDestinationMismatchError
  | deliveryRepositoryError
  | ingestionConflictError
  | relayIntakeStoreError
  | defect
deriving DecidableEq

def Failure.tag : Failure → ErrorTag
  | .claimLost .. => .claimLostError
  | .deadLetterRecovery _ reason => .deadLetterRecoveryError reason
  | .deadLetterDestinationMismatch .. => .deadLetterDestinationMismatchError
  | .deliveryRepository .. => .deliveryRepositoryError
  | .ingestionConflict .. => .ingestionConflictError
  | .relayIntakeStore .. => .relayIntakeStoreError
  | .defect => .defect

/-! ## Comparing ids -/

/-- How the texts of ids are compared: `localeCompare` by the locale of the process, `ORDER BY` by the collation of the
database. Different ids are never equal in it. -/
structure Collation where
  le : DeliveryId → DeliveryId → Prop
  decidable : DecidableRel le
  total : Std.Total le
  trans : IsTrans DeliveryId le
  antisymm : Std.Antisymm le

attribute [instance] Collation.decidable Collation.total Collation.trans Collation.antisymm

/-- The texts of ids as sequences of code points. -/
def Collation.codePoint : Collation where
  le a b := a.text ≤ b.text
  decidable a b := inferInstanceAs (Decidable (a.text ≤ b.text))
  total := ⟨fun a b => String.le_total a.text b.text⟩
  trans := ⟨fun _ _ _ => String.le_trans⟩
  antisymm := ⟨by
    rintro ⟨a, _⟩ ⟨b, _⟩ before after
    obtain rfl := String.le_antisymm before after
    rfl⟩

theorem Collation.eq_of_alike {collation collation' : Collation} (alike : ∀ a b, collation.le a b ↔ collation'.le a b) :
    collation = collation' := by
  have same : collation.le = collation'.le := funext fun a => funext fun b => propext (alike a b)
  cases collation
  cases collation'
  cases same
  congr
  exact Subsingleton.elim _ _

/-! ## Requests and replies -/

structure ClaimedDelivery where
  claim : DeliveryClaim
  delivery : Delivery
  event : RelayEvent
  claimLagMillis : ℕ
  nextAttemptOrdinal : ℕ
  route : Option DeliveryRouteSnapshot
deriving DecidableEq

structure ClaimRequest where
  ownerId : WorkerId
  leaseDurationMillis : Number
deriving DecidableEq

structure IntakeRecord where
  ingestionKey : IngestionKey
  requestFingerprint : RequestFingerprint
  event : RelayEvent
  deliveryId : DeliveryId
  route : DeliveryRouteSnapshot
  acceptedAtMillis : ℕ
  claim : ClaimRequest
deriving DecidableEq

structure IntakeDecisionFields where
  event : RelayEvent
  delivery : Delivery
  route : DeliveryRouteSnapshot
  acceptedAtMillis : ℕ
deriving DecidableEq

inductive IntakeDecision where
  | accepted (fields : IntakeDecisionFields) (claim : DeliveryClaim)
  | replay (fields : IntakeDecisionFields)
deriving DecidableEq

inductive StoreCall where
  | save (delivery : Delivery)
  | findById (id : DeliveryId)
  | accept (record : IntakeRecord)
  | savePending (event : RelayEvent) (deliveryId : DeliveryId) (destinationId : DestinationId)
      (claim : ClaimRequest)
  | claimPending (ownerId : WorkerId) (destinationId : DestinationId) (limit : Number)
      (leaseDurationMillis : Number)
  | renewClaim (deliveryId : DeliveryId) (claim : DeliveryClaim) (leaseDurationMillis : Number)
  | recordAttempt (attempt : DeliveryAttemptRecord)
  | completeClaim (deliveryId : DeliveryId) (claim : DeliveryClaim) (result : DeliveryResult)
  | releaseClaim (deliveryId : DeliveryId) (claim : DeliveryClaim)
  | retryDeadLetter (id : DeliveryId)
  | repairDeadLetter (id : DeliveryId) (route : DeliveryRouteSnapshot)
  | terminateDeadLetter (id : DeliveryId)
deriving DecidableEq

inductive StoreValue where
  | done
  | found (delivery : Option Delivery)
  | decided (decision : IntakeDecision)
  | claimed (deliveries : List ClaimedDelivery)
  | renewed (claim : DeliveryClaim)
deriving DecidableEq

abbrev Reply := Except Failure StoreValue

/-- The error tag of a reply; `none` when it succeeded. -/
def Reply.tag : Reply → Option ErrorTag
  | .ok _ => none
  | .error failure => some failure.tag

/-- The claims a reply hands out for the first time, with their deliveries. -/
def StoreValue.issues : StoreValue → List (DeliveryId × DeliveryClaim)
  | .decided (.accepted fields claim) => [(fields.delivery.id, claim)]
  | .claimed deliveries => deliveries.map fun c => (c.delivery.id, c.claim)
  | .done | .found _ | .decided (.replay _) | .renewed _ => []

/-- What an acceptance hands to `enqueueClaimed`. -/
def enqueued (fields : IntakeDecisionFields) (claim : DeliveryClaim) : ClaimedDelivery where
  claim
  claimLagMillis := 0
  delivery := fields.delivery
  event := fields.event
  nextAttemptOrdinal := 1
  route := some fields.route

/-- The claims a reply hands out, as jobs are made from them. -/
def handedOut {ε : Type} : Except ε StoreValue → List ClaimedDelivery
  | .ok (.decided (.accepted fields claim)) => [enqueued fields claim]
  | .ok (.claimed deliveries) => deliveries
  | .ok .done | .ok (.found _) | .ok (.decided (.replay _)) | .ok (.renewed _) | .error _ => []

/-- The generations a reply issues for one delivery; what a failure carries does not matter. -/
def issued {ε : Type} (id : DeliveryId) : Except ε StoreValue → List ℕ
  | .ok value => (value.issues.filter fun p => p.1 = id).map fun p => (p.2.generation : ℕ)
  | .error _ => []

/-- The claim a fenced mutation presents. -/
structure Fence where
  operation : ClaimOperation
  deliveryId : DeliveryId
  ownerId : WorkerId
  generation : ClaimGeneration
deriving DecidableEq

def StoreCall.fence : StoreCall → Option Fence
  | .renewClaim id claim _ => some ⟨.renew, id, claim.ownerId, claim.generation⟩
  | .recordAttempt attempt =>
    some ⟨.recordAttempt, attempt.deliveryId, attempt.workerId, attempt.claimGeneration⟩
  | .completeClaim id claim _ => some ⟨.complete, id, claim.ownerId, claim.generation⟩
  | .releaseClaim id claim => some ⟨.release, id, claim.ownerId, claim.generation⟩
  | .save _ | .findById _ | .accept _ | .savePending .. | .claimPending .. | .retryDeadLetter _
  | .repairDeadLetter .. | .terminateDeadLetter _ => none

/-- The delivery id a call would create. -/
def StoreCall.creates : StoreCall → Option DeliveryId
  | .accept record => some record.deliveryId
  | .savePending _ id _ _ => some id
  | _ => none

/-- The route a repair of the delivery leaves behind, when the call is one and succeeds. -/
def StoreCall.repairs {ε : Type} (id : DeliveryId) : StoreCall → Except ε StoreValue → Option DeliveryRouteSnapshot
  | .repairDeadLetter id' route, .ok _ => if id' = id then some route else none
  | _, _ => none

/-- The event a call brings with the delivery it creates. -/
def StoreCall.event : StoreCall → Option RelayEvent
  | .accept record => some record.event
  | .savePending event _ _ _ => some event
  | _ => none

/-- The key a call accepts under. -/
def StoreCall.ingestionKey : StoreCall → Option IngestionKey
  | .accept record => some record.ingestionKey
  | _ => none

/-- The decision an acceptance of the record makes. -/
def IntakeRecord.decision (record : IntakeRecord) : IntakeDecisionFields where
  event := record.event
  delivery := ⟨record.deliveryId, record.event.id, record.route.destinationId, .pending⟩
  route := record.route
  acceptedAtMillis := record.acceptedAtMillis

theorem StoreCall.creates_of_fence {call : StoreCall} {f : Fence} (fence : call.fence = some f) :
    call.creates = none := by
  cases call with
  | accept | savePending => cases fence
  | _ => rfl

/-! ## The state policy -/

def deliveryStateFromResult : DeliveryResult → DeliveryState
  | .delivered _ status => .delivered status
  | .rejected _ status => .rejected status
  | .protocolFailure _ _ => .deadLettered .providerProtocolFailure
  | .exhausted _ _ => .deadLettered .retryBudgetExhausted

def terminalStateFromAttempt (attempt : DeliveryAttemptRecord) : Option DeliveryState :=
  match attempt.decision with
  | .exhausted => some (.deadLettered .retryBudgetExhausted)
  | .retryScheduled => none
  | .terminal =>
    match attempt.outcome with
    | .delivered => attempt.status.map .delivered
    | .rejected => attempt.status.map .rejected
    | .protocolFailure => some (.deadLettered .providerProtocolFailure)
    | .retryable | .transportFailure | .timedOut => none

/-- A consistent record that is not a scheduled retry has a terminal state, and it is not `Pending`. -/
theorem terminalStateFromAttempt_some {attempt : DeliveryAttemptRecord}
    (h : attempt.decision ≠ .retryScheduled) :
    ∃ state, terminalStateFromAttempt attempt = some state ∧ state ≠ .pending := by
  have status := attempt.status_iff
  have decision := attempt.decision_iff
  unfold terminalStateFromAttempt
  cases hd : attempt.decision with
  | exhausted => exact ⟨_, rfl, nofun⟩
  | retryScheduled => exact absurd hd h
  | terminal =>
    rw [if_pos hd] at decision
    cases ho : attempt.outcome <;> rw [ho] at status decision
    case protocolFailure => exact ⟨_, rfl, nofun⟩
    case retryable | transportFailure | timedOut => exact absurd decision (by decide)
    case delivered =>
      obtain ⟨s, hs⟩ := Option.isSome_iff_exists.1 (status.symm.trans (by decide))
      exact ⟨.delivered s, by simp [hs], nofun⟩
    case rejected =>
      obtain ⟨s, hs⟩ := Option.isSome_iff_exists.1 (status.symm.trans (by decide))
      exact ⟨.rejected s, by simp [hs], nofun⟩

end Relay
