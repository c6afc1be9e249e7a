import Relay.Ledger.Spec

/-!
# The memory adapter (`src/adapters/memoryPersistence.ts`)

Seven maps of deliveries and one of intakes. Every operation reads the clock and
runs to its end without yielding, so it is a function of the clock and the maps;
checks and writes stand in the order of the source, and a constructor that throws
leaves the writes made before it. A lease is added to the clock exactly; where the safe
integers or the sum of doubles decide, the lease that is handed over ends where theirs
does (`checkedLease`, `summedLease`).
-/

namespace Relay

structure MemoryStore where
  events : OrderedMap EventId RelayEvent
  records : OrderedMap DeliveryId Delivery
  claims : OrderedMap DeliveryId DeliveryClaim
  generations : OrderedMap DeliveryId ℕ
  routes : OrderedMap DeliveryId DeliveryRouteSnapshot
  attempts : OrderedMap DeliveryId (List DeliveryAttemptRecord)
  nextEligibleAt : OrderedMap DeliveryId ℕ
  intakes : OrderedMap IngestionKey (RequestFingerprint × IntakeDecisionFields)

namespace MemoryStore

def empty : MemoryStore := ⟨∅, ∅, ∅, ∅, ∅, ∅, ∅, ∅⟩

/-- The current claim is the one presented and, given a clock, its lease still runs. -/
def owns (s : MemoryStore) (deliveryId : DeliveryId) (ownerId : WorkerId) (generation : ClaimGeneration)
    (nowMillis : Option ℕ) : Bool :=
  match s.claims.get deliveryId with
  | none => false
  | some current => current.ownerId = ownerId && current.generation = generation &&
      match nowMillis with
      | none => true
      | some nowMillis => current.leaseExpiresAtMillis > nowMillis

/-! ## The repository -/

section Repository

variable (nowMillis : ℕ) (s : MemoryStore)

def save (delivery : Delivery) : Reply × MemoryStore :=
  match s.records.get delivery.id with
  | some _ => (.ok .done, s)
  | none =>
    (.ok .done,
      { s with
        records := s.records.set delivery.id delivery
        generations := s.generations.set delivery.id 0
        nextEligibleAt := s.nextEligibleAt.set delivery.id nowMillis })

def findById (id : DeliveryId) : Reply × MemoryStore := (.ok (.found (s.records.get id)), s)

/-- The check `recordAttempt`, `completeClaim` and `releaseClaim` open with, then `act`. -/
def fencedAction (operation : ClaimOperation) (id : DeliveryId) (claim : DeliveryClaim) (live : Option ℕ)
    (act : Delivery → Reply × MemoryStore) : Reply × MemoryStore :=
  match s.records.get id with
  | none => (.error (lost operation id claim), s)
  | some current =>
    if current.state ≠ .pending || !s.owns id claim.ownerId claim.generation live then
      (.error (lost operation id claim), s)
    else act current

def recordAttempt (attempt : DeliveryAttemptRecord) : Reply × MemoryStore :=
  let id := attempt.deliveryId
  s.fencedAction .recordAttempt id ⟨attempt.workerId, attempt.claimGeneration, 0⟩ (some nowMillis)
    fun delivery =>
      let history := (s.attempts.get id).getD []
      if history.any fun a => a.ordinal = attempt.ordinal then
        (.error (.deliveryRepository .recordAttempt
          (.message s!"attempt ordinal {(attempt.ordinal : ℕ)} already exists")), s)
      else if attempt.decision = .retryScheduled then
        (.ok .done,
          { s with
            attempts := s.attempts.set id (history ++ [attempt])
            nextEligibleAt := s.nextEligibleAt.set id
              (attempt.completedAtMillis + attempt.retryDelayMillis.getD 0) })
      else
        match terminalStateFromAttempt attempt with
        | none =>
          (.error (.deliveryRepository .recordAttempt
            (.message "terminal attempt has no terminal delivery state")), s)
        | some terminalState =>
          (.ok .done,
            { s with
              attempts := s.attempts.set id (history ++ [attempt])
              records := s.records.set id { delivery with state := terminalState }
              claims := s.claims.delete id })

/-- The three operator actions: `act` on a dead letter, the recovery failures otherwise. -/
def deadLetterAction (id : DeliveryId) (act : Delivery → Reply × MemoryStore) : Reply × MemoryStore :=
  match s.records.get id with
  | none => (.error (.deadLetterRecovery id .notFound), s)
  | some current =>
    match current.state with
    | .deadLettered _ => act current
    | _ => (.error (.deadLetterRecovery id .notDeadLettered), s)

def retryDeadLetter (id : DeliveryId) : Reply × MemoryStore :=
  s.deadLetterAction id fun current =>
    (.ok .done,
      { s with
        records := s.records.set id { current with state := .pending }
        claims := s.claims.delete id
        nextEligibleAt := s.nextEligibleAt.set id nowMillis })

def repairDeadLetter (id : DeliveryId) (route : DeliveryRouteSnapshot) : Reply × MemoryStore :=
  s.deadLetterAction id fun current =>
    if current.destinationId ≠ route.destinationId then
      (.error (.deadLetterDestinationMismatch id current.destinationId route.destinationId), s)
    else
      (.ok .done,
        { s with
          records := s.records.set id { current with state := .pending }
          routes := s.routes.set id route
          claims := s.claims.delete id
          nextEligibleAt := s.nextEligibleAt.set id nowMillis })

def terminateDeadLetter (id : DeliveryId) : Reply × MemoryStore :=
  s.deadLetterAction id fun current =>
    (.ok .done,
      { s with
        records := s.records.set id { current with state := .terminated }
        claims := s.claims.delete id })

/-- The loop of `claimPending` skips the delivery. -/
def skips (destinationId : DestinationId) (limit : Number) (claimed : List ClaimedDelivery)
    (delivery : Delivery) : Bool :=
  limit ≤ (claimed.length : Number) ||
  delivery.state ≠ .pending ||
  delivery.destinationId ≠ destinationId ||
  (s.nextEligibleAt.get delivery.id).getD 0 > nowMillis ||
  match s.claims.get delivery.id with
  | none => false
  | some existingClaim => existingClaim.leaseExpiresAtMillis > nowMillis

/-- `Math.max(0, ...ordinals) + 1`. -/
def nextAttemptOrdinal (id : DeliveryId) : ℕ :=
  (((s.attempts.get id).getD []).map fun a => (a.ordinal : ℕ)).foldl max 0 + 1

def claimPendingLoop (ownerId : WorkerId) (destinationId : DestinationId)
    (limit leaseDurationMillis : Number) :
    List Delivery → List ClaimedDelivery → MemoryStore → Reply × MemoryStore
  | [], claimed, s => (.ok (.claimed claimed), s)
  | delivery :: rest, claimed, s =>
    let continueLoop := claimPendingLoop ownerId destinationId limit leaseDurationMillis rest
    if s.skips nowMillis destinationId limit claimed delivery then continueLoop claimed s
    else
      match s.events.get delivery.eventId with
      | none => continueLoop claimed s
      | some event =>
        let previous := (s.generations.get delivery.id).getD 0
        match DeliveryClaim.make ownerId previous.succPNat (nowMillis + leaseDurationMillis) with
        | none => (.error .defect, s)
        | some claim =>
          let eligibleAt := (s.nextEligibleAt.get delivery.id).getD nowMillis
          continueLoop
            (claimed ++ [
              { claim
                claimLagMillis := nowMillis - eligibleAt
                delivery
                event
                nextAttemptOrdinal := s.nextAttemptOrdinal delivery.id
                route := s.routes.get delivery.id }])
            { s with
              generations := s.generations.set delivery.id (previous + 1)
              claims := s.claims.set delivery.id claim }

def claimPending (ownerId : WorkerId) (destinationId : DestinationId)
    (limit leaseDurationMillis : Number) : Reply × MemoryStore :=
  claimPendingLoop nowMillis ownerId destinationId limit leaseDurationMillis s.records.values [] s

/-- Neither the state nor the presence of the delivery is looked at. -/
def renewClaim (deliveryId : DeliveryId) (claim : DeliveryClaim) (leaseDurationMillis : Number) :
    Reply × MemoryStore :=
  if !s.owns deliveryId claim.ownerId claim.generation (some nowMillis) then
    (.error (lost .renew deliveryId claim), s)
  else
    match DeliveryClaim.make claim.ownerId claim.generation (nowMillis + leaseDurationMillis) with
    | none => (.error .defect, s)
    | some renewed => (.ok (.renewed renewed), { s with claims := s.claims.set deliveryId renewed })

def completeClaim (deliveryId : DeliveryId) (claim : DeliveryClaim) (result : DeliveryResult) :
    Reply × MemoryStore :=
  s.fencedAction .complete deliveryId claim (some nowMillis) fun current =>
    (.ok .done,
      { s with
        records := s.records.set deliveryId { current with state := deliveryStateFromResult result }
        claims := s.claims.delete deliveryId })

def releaseClaim (deliveryId : DeliveryId) (claim : DeliveryClaim) : Reply × MemoryStore :=
  s.fencedAction .release deliveryId claim none fun _ =>
    (.ok .done, { s with claims := s.claims.delete deliveryId })

end Repository

/-! ## The intake store -/

section Intake

variable (nowMillis : ℕ) (s : MemoryStore)

def accept (record : IntakeRecord) : Reply × MemoryStore :=
  match s.intakes.get record.ingestionKey with
  | some (requestFingerprint, decision) =>
    if requestFingerprint ≠ record.requestFingerprint then
      (.error (.ingestionConflict record.ingestionKey decision.event.id), s)
    else (.ok (.decided (.replay decision)), s)
  | none =>
    let delivery : Delivery :=
      ⟨record.deliveryId, record.event.id, record.route.destinationId, .pending⟩
    let decision : IntakeDecisionFields :=
      ⟨record.event, delivery, record.route, record.acceptedAtMillis⟩
    match DeliveryClaim.make record.claim.ownerId 1
        (nowMillis + record.claim.leaseDurationMillis) with
    | none => (.error .defect, s)
    | some claim =>
      (.ok (.decided (.accepted decision claim)),
        { s with
          events := s.events.set record.event.id record.event
          records := s.records.set delivery.id delivery
          routes := s.routes.set delivery.id record.route
          generations := s.generations.set delivery.id 1
          claims := s.claims.set delivery.id claim
          nextEligibleAt := s.nextEligibleAt.set delivery.id record.acceptedAtMillis
          intakes := s.intakes.set record.ingestionKey (record.requestFingerprint, decision) })

def savePending (event : RelayEvent) (id : DeliveryId) (destinationId : DestinationId)
    (claimRequest : ClaimRequest) : Reply × MemoryStore :=
  let delivery : Delivery := ⟨id, event.id, destinationId, .pending⟩
  let s :=
    { s with
      events := s.events.set event.id event
      records := s.records.set delivery.id delivery
      nextEligibleAt := s.nextEligibleAt.set delivery.id nowMillis }
  match DeliveryClaim.make claimRequest.ownerId 1 (nowMillis + claimRequest.leaseDurationMillis) with
  | none => (.error .defect, s)
  | some claim =>
    (.ok (.claimed [
      { claim
        claimLagMillis := 0
        delivery
        event
        nextAttemptOrdinal := 1
        route := none }]),
      { s with
        generations := s.generations.set delivery.id 1
        claims := s.claims.set delivery.id claim })

end Intake

/-- A call, served whole. -/
def exec (nowMillis : ℕ) (s : MemoryStore) : StoreCall → Reply × MemoryStore
  | .save delivery => s.save nowMillis delivery
  | .findById id => s.findById id
  | .accept record => s.accept nowMillis record
  | .savePending event id destinationId request => s.savePending nowMillis event id destinationId request
  | .claimPending ownerId destinationId limit lease =>
    s.claimPending nowMillis ownerId destinationId limit lease
  | .renewClaim id claim lease => s.renewClaim nowMillis id claim lease
  | .recordAttempt attempt => s.recordAttempt nowMillis attempt
  | .completeClaim id claim result => s.completeClaim nowMillis id claim result
  | .releaseClaim id claim => s.releaseClaim id claim
  | .retryDeadLetter id => s.retryDeadLetter nowMillis id
  | .repairDeadLetter id route => s.repairDeadLetter nowMillis id route
  | .terminateDeadLetter id => s.terminateDeadLetter id

end MemoryStore

end Relay
