import Relay.Domain.Services

/-!
# What the delivery store is for

The abstract store is a function from delivery ids to entries: the delivery, how
many claims were issued for it, the claim it is under, its route, its recorded
attempts and the instant it becomes eligible. Each repository operation on one
delivery is a function of that entry and the clock, whatever holds it; `Served`
is an operation of the repository or the intake store on the whole store. Both
adapters are shown to serve their calls this way, so that what is proved of
`Served` holds of the memory maps and of the SQL rows alike.
-/

namespace Relay

structure Entry where
  delivery : Delivery
  /-- The generation issued last; 0 before the first claim. -/
  generation : ℕ
  claim : Option DeliveryClaim
  route : Option DeliveryRouteSnapshot
  attempts : List DeliveryAttemptRecord
  nextEligibleAt : ℕ
deriving DecidableEq

abbrev Ledger := DeliveryId → Option Entry

/-- A reply without the details of its failure. -/
abbrev Answer := Except ErrorTag StoreValue

def Reply.answer : Reply → Answer
  | .ok value => .ok value
  | .error failure => .error failure.tag

theorem Reply.answer_eq_ok {reply : Reply} {value : StoreValue} (answered : reply.answer = .ok value) : reply = .ok value := by
  cases reply with
  | error failure => cases answered
  | ok value' => cases answered; rfl

theorem handedOut_answer (reply : Reply) : handedOut reply.answer = handedOut reply := by
  cases reply with
  | error failure => rfl
  | ok value =>
    cases value with
    | decided decision => cases decision <;> rfl
    | done | found | claimed | renewed => rfl

namespace Entry

/-! ## The entries operations leave behind -/

/-- A delivery that was never claimed. -/
def new (delivery : Delivery) (nextEligibleAt : ℕ) : Entry :=
  ⟨delivery, 0, none, none, [], nextEligibleAt⟩

/-- A delivery created under its first claim. -/
def admitted (delivery : Delivery) (claim : DeliveryClaim) (route : Option DeliveryRouteSnapshot)
    (nextEligibleAt : ℕ) : Entry :=
  ⟨delivery, 1, some claim, route, [], nextEligibleAt⟩

def issuedClaim (e : Entry) (ownerId : WorkerId) (expires : ℕ) : DeliveryClaim :=
  ⟨ownerId, e.generation.succPNat, expires⟩

def issue (e : Entry) (ownerId : WorkerId) (expires : ℕ) : Entry :=
  { e with generation := e.generation + 1, claim := some (e.issuedClaim ownerId expires) }

def withState (e : Entry) (state : DeliveryState) : Entry :=
  { e with delivery := { e.delivery with state }, claim := none }

def renew (e : Entry) (claim : DeliveryClaim) : Entry := { e with claim := some claim }

/-- A recorded retry keeps the claim and postpones the next one. -/
def schedule (e : Entry) (attempt : DeliveryAttemptRecord) : Entry :=
  { e with
    attempts := e.attempts ++ [attempt]
    nextEligibleAt := attempt.completedAtMillis + attempt.retryDelayMillis.getD 0 }

/-- A recorded last attempt settles the delivery and ends the claim. -/
def settle (e : Entry) (attempt : DeliveryAttemptRecord) (state : DeliveryState) : Entry :=
  { e.withState state with attempts := e.attempts ++ [attempt] }

def release (e : Entry) : Entry := { e with claim := none }

def retry (e : Entry) (nowMillis : ℕ) : Entry :=
  { e.withState .pending with nextEligibleAt := nowMillis }

def repair (e : Entry) (nowMillis : ℕ) (route : DeliveryRouteSnapshot) : Entry :=
  { e.retry nowMillis with route := some route }

/-! ## Conditions -/

/-- The delivery is pending under the claim presented, with its lease running past `live`, if given. -/
def holds (e : Entry) (ownerId : WorkerId) (generation : ClaimGeneration) (live : Option ℕ) : Bool :=
  e.delivery.state = .pending &&
  match e.claim with
  | none => false
  | some claim => claim.ownerId = ownerId && claim.generation = generation &&
      match live with
      | none => true
      | some nowMillis => nowMillis < claim.leaseExpiresAtMillis

def isDeadLettered : DeliveryState → Bool
  | .deadLettered _ => true
  | _ => false

def hasOrdinal (e : Entry) (ordinal : ℕ+) : Bool := e.attempts.any fun a => a.ordinal = ordinal

/-- Claimable at `nowMillis` for work on `destinationId`. -/
def due (e : Entry) (destinationId : DestinationId) (nowMillis : ℕ) : Bool :=
  e.delivery.state = .pending && e.delivery.destinationId = destinationId &&
  e.nextEligibleAt ≤ nowMillis &&
  match e.claim with
  | none => true
  | some claim => claim.leaseExpiresAtMillis ≤ nowMillis

/-- One above the highest recorded ordinal. -/
def nextOrdinal (e : Entry) : ℕ := (e.attempts.map fun a => (a.ordinal : ℕ)).foldl max 0 + 1

/-! ## The operations on one delivery -/

section Operations

variable (nowMillis : ℕ)

/-- A fenced operation: `act` under the claim presented, `ClaimLostError` otherwise. -/
def fenced (ownerId : WorkerId) (generation : ClaimGeneration) (live : Option ℕ)
    (act : Entry → Answer × Option Entry) (entry : Option Entry) : Answer × Option Entry :=
  match entry with
  | none => (.error .claimLostError, none)
  | some e => if e.holds ownerId generation live then act e else (.error .claimLostError, some e)

/-- An operator action: `act` on a dead letter, `DeadLetterRecoveryError` otherwise. -/
def recovered (act : Entry → Answer × Option Entry) (entry : Option Entry) : Answer × Option Entry :=
  match entry with
  | none => (.error (.deadLetterRecoveryError .notFound), none)
  | some e =>
    if isDeadLettered e.delivery.state then act e
    else (.error (.deadLetterRecoveryError .notDeadLettered), some e)

def save (delivery : Delivery) (entry : Option Entry) : Answer × Option Entry :=
  (.ok .done, some (entry.getD (new delivery nowMillis)))

def recordAttempt (attempt : DeliveryAttemptRecord) : Option Entry → Answer × Option Entry :=
  fenced attempt.workerId attempt.claimGeneration (some nowMillis) fun e =>
    if e.hasOrdinal attempt.ordinal then (.error .deliveryRepositoryError, some e)
    else match terminalStateFromAttempt attempt with
      | none => (.ok .done, some (e.schedule attempt))
      | some state => (.ok .done, some (e.settle attempt state))

def renewClaim (claim : DeliveryClaim) (expires : ℕ) : Option Entry → Answer × Option Entry :=
  fenced claim.ownerId claim.generation (some nowMillis) fun e =>
    (.ok (.renewed { claim with leaseExpiresAtMillis := expires }),
      some (e.renew { claim with leaseExpiresAtMillis := expires }))

def completeClaim (claim : DeliveryClaim) (result : DeliveryResult) :
    Option Entry → Answer × Option Entry :=
  fenced claim.ownerId claim.generation (some nowMillis) fun e =>
    (.ok .done, some (e.withState (deliveryStateFromResult result)))

/-- A release does not look at the lease. -/
def releaseClaim (claim : DeliveryClaim) : Option Entry → Answer × Option Entry :=
  fenced claim.ownerId claim.generation none fun e => (.ok .done, some e.release)

def retryDeadLetter : Option Entry → Answer × Option Entry :=
  recovered fun e => (.ok .done, some (e.retry nowMillis))

def repairDeadLetter (route : DeliveryRouteSnapshot) : Option Entry → Answer × Option Entry :=
  recovered fun e =>
    if e.delivery.destinationId = route.destinationId then (.ok .done, some (e.repair nowMillis route))
    else (.error .deadLetterDestinationMismatchError, some e)

def terminateDeadLetter : Option Entry → Answer × Option Entry :=
  recovered fun e => (.ok .done, some (e.withState .terminated))

end Operations

end Entry

/-! ## Calls on the whole store -/

/-- `expires` is the instant a lease of `lease` ends when it is granted at `nowMillis`. -/
def LeaseEnd (nowMillis : ℕ) (lease : Number) (expires : ℕ) : Prop :=
  ∀ p, positiveInteger lease = some p → expires = nowMillis + p

/-- The numbers of the call satisfy the request schemas. -/
def StoreCall.wellFormed : StoreCall → Bool
  | .claimPending _ _ limit lease => (positiveInteger limit).isSome && (positiveInteger lease).isSome
  | .renewClaim _ _ lease => (positiveInteger lease).isSome
  | .savePending _ _ _ request => (positiveInteger request.leaseDurationMillis).isSome
  | .accept record => (positiveInteger record.claim.leaseDurationMillis).isSome
  | _ => true

/-- A store may refuse the call before it looks at a claim: the schemas reject its numbers, or the database finds no
meaning for its statement. -/
def StoreCall.refusable : StoreCall → Bool
  | .recordAttempt _ => true
  | call => !call.wellFormed

/-- The delivery a call is about and what it does to its entry, for the calls on one delivery. -/
def StoreCall.onEntry (nowMillis : ℕ) :
    StoreCall → Option (DeliveryId × (Option Entry → Answer × Option Entry))
  | .save delivery => some (delivery.id, Entry.save nowMillis delivery)
  | .findById id => some (id, fun e => (.ok (.found (e.map (·.delivery))), e))
  | .recordAttempt attempt => some (attempt.deliveryId, Entry.recordAttempt nowMillis attempt)
  | .renewClaim id claim lease =>
    (positiveInteger lease).map fun (p : ℕ+) => (id, Entry.renewClaim nowMillis claim (nowMillis + p))
  | .completeClaim id claim result => some (id, Entry.completeClaim nowMillis claim result)
  | .releaseClaim id claim => some (id, Entry.releaseClaim claim)
  | .retryDeadLetter id => some (id, Entry.retryDeadLetter nowMillis)
  | .repairDeadLetter id route => some (id, Entry.repairDeadLetter nowMillis route)
  | .terminateDeadLetter id => some (id, Entry.terminateDeadLetter)
  | .accept _ | .savePending .. | .claimPending .. => none

/-- The claims handed out by one `claimPending`, and the entries after it. -/
structure ClaimBatch (nowMillis : ℕ) (ownerId : WorkerId) (destinationId : DestinationId) (expires : ℕ)
    (L : Ledger) (claimed : List ClaimedDelivery) (L' : Ledger) : Prop where
  distinct : (claimed.map fun c => c.delivery.id).Nodup
  each : ∀ c ∈ claimed, ∃ e, L c.delivery.id = some e ∧ e.due destinationId nowMillis ∧
    c.delivery = e.delivery ∧ c.claim = e.issuedClaim ownerId expires ∧ c.route = e.route ∧
    c.nextAttemptOrdinal = e.nextOrdinal ∧ c.claimLagMillis = nowMillis - e.nextEligibleAt ∧
    L' c.delivery.id = some (e.issue ownerId expires)
  others : ∀ id, (∀ c ∈ claimed, c.delivery.id ≠ id) → L' id = L id

section Batch

variable {nowMillis expires : ℕ} {ownerId : WorkerId} {destinationId : DestinationId} {L L' : Ledger}
  {claimed : List ClaimedDelivery}

theorem ClaimBatch.nil : ClaimBatch nowMillis ownerId destinationId expires L [] L where
  distinct := List.nodup_nil
  each := by simp
  others := fun _ _ => rfl

/-- A batch grows at its front by a delivery that is due and not in the batch. -/
theorem ClaimBatch.cons {c : ClaimedDelivery} {e : Entry} (held : L c.delivery.id = some e)
    (due : e.due destinationId nowMillis) (delivery : c.delivery = e.delivery)
    (claim : c.claim = e.issuedClaim ownerId expires) (route : c.route = e.route)
    (ordinal : c.nextAttemptOrdinal = e.nextOrdinal) (lag : c.claimLagMillis = nowMillis - e.nextEligibleAt)
    (absent : ∀ c' ∈ claimed, c'.delivery.id ≠ c.delivery.id)
    (rest : ClaimBatch nowMillis ownerId destinationId expires
      (Function.update L c.delivery.id (some (e.issue ownerId expires))) claimed L') :
    ClaimBatch nowMillis ownerId destinationId expires L (c :: claimed) L' where
  distinct := by
    rw [List.map_cons, List.nodup_cons]
    refine ⟨?_, rest.distinct⟩
    intro member
    obtain ⟨c', hc', same⟩ := List.mem_map.1 member
    exact absent c' hc' same
  each := by
    intro c' hc'
    obtain rfl | hc' := List.mem_cons.1 hc'
    · refine ⟨e, held, due, delivery, claim, route, ordinal, lag, ?_⟩
      rw [rest.others _ absent, Function.update_self]
    · obtain ⟨e', held', rest'⟩ := rest.each c' hc'
      rw [Function.update_of_ne (absent c' hc')] at held'
      exact ⟨e', held', rest'⟩
  others := by
    intro id hid
    rw [rest.others id fun c' hc' => hid c' (List.mem_cons_of_mem _ hc'),
      Function.update_of_ne (Ne.symm (hid c List.mem_cons_self))]

end Batch

/-- `Served t L call answer L'`: a store that holds `L` at clock `t` answers `call` with `answer`
and then holds `L'`. -/
inductive Served (nowMillis : ℕ) (L : Ledger) : StoreCall → Answer → Ledger → Prop where
  | onEntry (call : StoreCall) (id : DeliveryId) (op : Option Entry → Answer × Option Entry)
      (about : call.onEntry nowMillis = some (id, op)) :
      Served nowMillis L call (op (L id)).1 (Function.update L id (op (L id)).2)
  | regranted (id : DeliveryId) (claim : DeliveryClaim) (lease : Number) (expires : ℕ)
      (odd : positiveInteger lease = none) :
      -- the memory maps take any lease that ends at a whole instant
      Served nowMillis L (.renewClaim id claim lease) (Entry.renewClaim nowMillis claim expires (L id)).1
        (Function.update L id (Entry.renewClaim nowMillis claim expires (L id)).2)
  | claimPending (ownerId : WorkerId) (destinationId : DestinationId) (limit lease : Number)
      (expires : ℕ) (claimed : List ClaimedDelivery) (L' : Ledger)
      (granted : LeaseEnd nowMillis lease expires)
      (batch : ClaimBatch nowMillis ownerId destinationId expires L claimed L') :
      Served nowMillis L (.claimPending ownerId destinationId limit lease) (.ok (.claimed claimed)) L'
  | accepted (record : IntakeRecord) (delivery : Delivery) (expires nextEligibleAt : ℕ)
      (granted : LeaseEnd nowMillis record.claim.leaseDurationMillis expires)
      (fresh : L record.deliveryId = none)
      (created : delivery = ⟨record.deliveryId, record.event.id, record.route.destinationId, .pending⟩) :
      Served nowMillis L (.accept record)
        (.ok (.decided (.accepted ⟨record.event, delivery, record.route, record.acceptedAtMillis⟩
          ⟨record.claim.ownerId, 1, expires⟩)))
        (Function.update L record.deliveryId (some (.admitted delivery
          ⟨record.claim.ownerId, 1, expires⟩ (some record.route) nextEligibleAt)))
  | replayed (record : IntakeRecord) (fields : IntakeDecisionFields) :
      Served nowMillis L (.accept record) (.ok (.decided (.replay fields))) L
  | saved (event : RelayEvent) (delivery : Delivery) (request : ClaimRequest) (expires : ℕ)
      (granted : LeaseEnd nowMillis request.leaseDurationMillis expires)
      (fresh : L delivery.id = none) (pending : delivery.state = .pending)
      (created : delivery.eventId = event.id) :
      Served nowMillis L (.savePending event delivery.id delivery.destinationId request)
        (.ok (.claimed [⟨⟨request.ownerId, 1, expires⟩, delivery, event, 0, 1, none⟩]))
        (Function.update L delivery.id
          (some (.admitted delivery ⟨request.ownerId, 1, expires⟩ none nowMillis)))
  | stranded (event : RelayEvent) (delivery : Delivery) (request : ClaimRequest)
      (fresh : L delivery.id = none) (pending : delivery.state = .pending)
      (created : delivery.eventId = event.id) :
      -- the delivery was written before its claim failed to build
      Served nowMillis L (.savePending event delivery.id delivery.destinationId request) (.error .defect)
        (Function.update L delivery.id (some (.new delivery nowMillis)))
  | refused (call : StoreCall) (tag : ErrorTag)
      (unfenced : call.fence = none ∨ call.refusable = true ∧ tag ≠ .claimLostError) : Served nowMillis L call (.error tag) L

end Relay
