import Relay.Adapters.PostgresSchema
import Relay.Library.Analysis
import Mathlib.Data.Option.NAry

/-!
# The SQL adapter (`src/adapters/postgres/deliveryRepository.ts`, `intakeStore.ts`)

Each statement is a function of the clock and the tables; it aborts without a
trace or leaves new tables. Above the statements stand the repository functions,
which check a request, run its statement and decode the first row returned.

PostgreSQL analyses a statement before it runs it. It finds no meaning for two of
them, whatever their parameters hold: `recordAttempt` adds two parameters that
come without a type, and `claimPending` joins on an `event_id` that two of the
joined relations have. What these two say about the rows is written down all the
same, apart from their analysis.
-/

namespace Relay

namespace Postgres

open Sql

namespace Database

/-! ## Rows -/

/-- The columns of `deliveryToRow`; the others take their defaults. -/
def newRow (delivery : Delivery) (nowMillis : ℕ) : DeliveriesRow where
  deliveryId := delivery.id
  eventId := delivery.eventId
  destinationId := delivery.destinationId
  state := (stateColumns delivery.state).1
  status := (stateColumns delivery.state).2.1
  deadLetterReason := (stateColumns delivery.state).2.2
  destinationUrl := none
  configurationVersion := none
  claimOwner := none
  claimGeneration := 0
  leaseExpiresAtMs := none
  nextEligibleAtMs := some nowMillis

structure ClaimedDeliveryRow where
  deliveryId : DeliveryId
  eventId : EventId
  destinationId : DestinationId
  eventType : Topic
  invoiceId : InvoiceId
  amountCents : ℤ
  destinationUrl : Option String
  configurationVersion : Option ℤ
  claimLagMs : Option ℤ
  nextAttemptOrdinal : ℤ
  claimOwner : Option WorkerId
  claimGeneration : ℤ
  leaseExpiresAtMs : Option ℤ

/-- The inner `none` is a null column; the outer one a failed check. -/
def positiveNullable : Option ℤ → Option (Option ℕ+)
  | none => some none
  | some n => (positiveColumn n).map some

def rowToRoute (destinationId : DestinationId) (destinationUrl : Option String)
    (configurationVersion : Option ConfigurationVersion) : Option DeliveryRouteSnapshot :=
  match destinationUrl, configurationVersion with
  | some href, some version => some ⟨destinationId, ⟨href⟩, version⟩
  | _, _ => none

/-- `rowToClaimedDelivery` on a decoded row. -/
def rowToClaimedDelivery (r : ClaimedDeliveryRow) : Option ClaimedDelivery :=
  match rowToClaim r.claimOwner r.claimGeneration r.leaseExpiresAtMs, positiveColumn r.amountCents,
      positiveNullable r.configurationVersion, r.claimLagMs.bind wholeColumn,
      positiveColumn r.nextAttemptOrdinal with
  | some claim, some amountCents, some configurationVersion, some claimLagMillis, some ordinal =>
    some
      { claim
        delivery := ⟨r.deliveryId, r.eventId, r.destinationId, .pending⟩
        event := ⟨r.eventId, r.eventType, r.invoiceId, amountCents⟩
        claimLagMillis
        nextAttemptOrdinal := ordinal
        route := rowToRoute r.destinationId r.destinationUrl configurationVersion }
  | _, _, _, _, _ => none

/-! ## Statements before they run -/

section Analysis

def relayEventsColumns : List String :=
  ["event_id", "event_type", "invoice_id", "amount_cents", "ingestion_key", "request_fingerprint", "accepted_at_ms"]

def deliveriesColumns : List String :=
  ["delivery_id", "event_id", "destination_id", "state", "status", "dead_letter_reason", "destination_url",
    "configuration_version", "claim_owner", "claim_generation", "lease_expires_at_ms", "next_eligible_at_ms"]

/-- A parameter compared with a quoted text. -/
def isText : Expr := .comparison .parameter .literal

/-- The `SET`, `WHERE` and `SELECT` expressions of `recordAttempt`. -/
def recordAttemptQuery : Query where
  sources := [.joinOn (.relation deliveriesColumns) (.relation ["now_ms"])]
  expressions :=
    -- state, status, dead_letter_reason
    [.cases (.both isText isText) .literal (.cases (.both isText isText) .literal
        (.cases (.both isText isText) .literal (.cases isText .literal (.typed .text)))),
      .cases (.both isText (.either isText isText)) .parameter (.typed .integer),
      .cases (.both isText isText) .literal (.cases isText .literal (.typed .text)),
      -- next_eligible_at_ms, claim_owner, lease_expires_at_ms
      .cases isText (.arithmetic .parameter .parameter) (.typed .bigint),
      .cases (.either isText isText) .literal (.typed .text),
      .cases (.either isText isText) .literal (.typed .bigint),
      -- the fence
      .comparison (.typed .text) .parameter, .comparison (.typed .text) .literal,
      .comparison (.typed .text) .parameter, .comparison (.typed .bigint) .parameter,
      .comparison (.typed .bigint) (.typed .bigint)] ++
    -- the columns of the attempt
    List.replicate 12 .parameter

def claimedDeliveriesColumns : List String :=
  ["delivery_id", "event_id", "destination_id", "claim_owner", "claim_generation", "lease_expires_at_ms",
    "next_eligible_at_ms", "claimed_at_ms"]

/-- The `FROM` of the last `SELECT` of `claimPending`, up to the lateral join. -/
def claimPendingSource : Source :=
  .joinUsing (.joinUsing (.relation claimedDeliveriesColumns) (.relation deliveriesColumns) "delivery_id")
    (.relation relayEventsColumns) "event_id"

def claimPendingQuery : Query where
  sources :=
    [.joinOn (.relation deliveriesColumns) (.relation ["now_ms"]),
      .joinOn (.relation deliveriesColumns) (.joinOn (.relation ["delivery_id"]) (.relation ["now_ms"])),
      .joinOn claimPendingSource (.relation ["next_attempt_ordinal"])]
  expressions :=
    -- candidates
    [.comparison (.typed .text) .literal, .comparison (.typed .text) .parameter,
      .comparison (.typed .bigint) (.typed .bigint), .comparison (.typed .bigint) (.typed .bigint),
      -- claimed_deliveries
      .parameter, .arithmetic (.typed .bigint) (.typed .integer), .arithmetic (.typed .bigint) .parameter,
      -- claim_lag_ms, next_attempt_ordinal
      .arithmetic (.typed .bigint) (.typed .bigint), .arithmetic (.typed .integer) (.typed .integer)]

/-- The delay is added to the completion, and neither parameter has a type. -/
theorem recordAttemptQuery_refused : recordAttemptQuery.analyse = .error (.unresolved .ambiguousFunction) :=
  Query.analyse_expression (recordAttemptQuery.expressions.take 3) rfl rfl rfl
    (Expr.type_cases_refused rfl (Expr.type_arithmetic_unknown rfl rfl))

/-- `delivery_id` is joined into one column and `event_id` is not. -/
theorem claimPendingSource_refused : claimPendingSource.columns = .error (.ambiguousColumn "event_id") :=
  Source.columns_joinUsing_ambiguous rfl rfl rfl rfl (by decide) (by decide) (by decide)

theorem claimPendingQuery_refused : claimPendingQuery.analyse = .error (.unresolved (.ambiguousColumn "event_id")) := by
  refine Query.analyse_source (claimPendingQuery.sources.take 2) rfl rfl ?_
  rw [Source.columns, claimPendingSource_refused]
  rfl

end Analysis

/-! ## Statements -/

section Statements

variable (nowMillis : ℕ) (db : Database)

/-- `INSERT INTO deliveries`, with the reference to `relay_events`. -/
def insertDelivery (r : DeliveriesRow) : Except Error Database := do
  let deliveries ← db.deliveries.insert "deliveries_pkey" r
  if db.relayEvents.find r.eventId = none then .error (.foreignKey "deliveries_event_id_fkey")
  else pure { db with deliveries }

def saveStatement (delivery : Delivery) : Except Error Database :=
  let r := newRow delivery nowMillis
  if db.deliveries.find r.deliveryId = none then db.insertDelivery r
  else do
    let deliveries ← db.deliveries.insertOrIgnore "deliveries_pkey" r
    pure { db with deliveries }

/-- `UPDATE deliveries … RETURNING`. -/
def updateDeliveries (condition : DeliveriesRow → Truth) (set : DeliveriesRow → DeliveriesRow)
    (hset : ∀ r, (set r).deliveryId = r.deliveryId) : Except Error (List DeliveriesRow × Database) := do
  let (deliveries, returned) ← db.deliveries.update condition set hset
  pure (returned, { db with deliveries })

/-- The `WHERE` of the fenced statements. -/
def fence (id : DeliveryId) (ownerId : WorkerId) (generation : ClaimGeneration) (r : DeliveriesRow) : Truth :=
  (((eq (some r.deliveryId) (some id)).and (eq (some r.state) (some .pending))).and
    (eq r.claimOwner (some ownerId))).and (eq (some r.claimGeneration) (some (generation : ℤ)))

/-- `lease_expires_at_ms > claim_clock.now_ms`. -/
def leaseLive (r : DeliveriesRow) : Truth := lt (some (nowMillis : ℤ)) r.leaseExpiresAtMs

def recordAttemptSet (row : DeliveryAttemptsRow) (r : DeliveriesRow) : DeliveriesRow :=
  { r with
    state :=
      if row.decision = .terminal ∧ row.outcome = .delivered then .delivered
      else if row.decision = .terminal ∧ row.outcome = .rejected then .rejected
      else if row.decision = .terminal ∧ row.outcome = .protocolFailure then .deadLettered
      else if row.decision = .exhausted then .deadLettered
      else r.state
    status :=
      if row.decision = .terminal ∧ row.outcome ∈ [AttemptOutcome.delivered, .rejected] then row.status
      else r.status
    deadLetterReason :=
      if row.decision = .terminal ∧ row.outcome = .protocolFailure then some .providerProtocolFailure
      else if row.decision = .exhausted then some .retryBudgetExhausted
      else r.deadLetterReason
    nextEligibleAtMs :=
      if row.decision = .retryScheduled then Option.map₂ (· + ·) (some row.completedAtMs) row.retryDelayMs
      else r.nextEligibleAtMs
    claimOwner := if row.decision ∈ [AttemptDecision.terminal, .exhausted] then none else r.claimOwner
    leaseExpiresAtMs :=
      if row.decision ∈ [AttemptDecision.terminal, .exhausted] then none else r.leaseExpiresAtMs }

/-- The fenced update and one attempt for each row it returns. -/
def recordAttemptRows (row : DeliveryAttemptsRow) (claimGeneration : ClaimGeneration) :
    Except Error (List DeliveriesRow × Database) := do
  let (owned, db) ← db.updateDeliveries
    (fun r => (fence row.deliveryId row.claimOwner claimGeneration r).and (leaseLive nowMillis r))
    (recordAttemptSet row) (fun _ => rfl)
  let deliveryAttempts ←
    owned.foldlM (fun t _ => t.insert "delivery_attempts_pkey" row) db.deliveryAttempts
  pure (owned, { db with deliveryAttempts })

def recordAttemptStatement (row : DeliveryAttemptsRow) (claimGeneration : ClaimGeneration) :
    Except Error (List DeliveriesRow × Database) := do
  recordAttemptQuery.analyse
  db.recordAttemptRows nowMillis row claimGeneration

/-- What the three operator statements set. -/
def reset (state : DeliveryRowState) (r : DeliveriesRow) : DeliveriesRow :=
  { r with
    state
    status := none
    deadLetterReason := none
    claimOwner := none
    leaseExpiresAtMs := none }

def deadLetter (id : DeliveryId) (r : DeliveriesRow) : Truth :=
  (eq (some r.deliveryId) (some id)).and (eq (some r.state) (some .deadLettered))

def retryDeadLetterStatement (id : DeliveryId) : Except Error (List DeliveriesRow × Database) :=
  db.updateDeliveries (deadLetter id)
    (fun r => { reset .pending r with nextEligibleAtMs := some nowMillis }) (fun _ => rfl)

def repairDeadLetterStatement (id : DeliveryId) (route : DeliveryRouteSnapshot) :
    Except Error (List DeliveriesRow × Database) :=
  db.updateDeliveries
    (fun r => (deadLetter id r).and (eq (some r.destinationId) (some route.destinationId)))
    (fun r =>
      { reset .pending r with
        destinationUrl := some route.endpoint.href
        configurationVersion := some (route.configurationVersion : ℤ)
        nextEligibleAtMs := some nowMillis })
    (fun _ => rfl)

def terminateDeadLetterStatement (id : DeliveryId) : Except Error (List DeliveriesRow × Database) :=
  db.updateDeliveries (deadLetter id) (reset .terminated) (fun _ => rfl)

/-- The rows `candidates` may choose from. -/
def claimable (destinationId : DestinationId) (r : DeliveriesRow) : Truth :=
  (((eq (some r.state) (some .pending)).and (eq (some r.destinationId) (some destinationId))).and
    (le r.nextEligibleAtMs (some (nowMillis : ℤ)))).and
    ((isNull r.claimOwner).or (le r.leaseExpiresAtMs (some (nowMillis : ℤ))))

abbrev idOrder : DeliveryId → DeliveryId → Prop := Collation.codePoint.le

/-- `ORDER BY delivery_id LIMIT`. -/
def candidates (destinationId : DestinationId) (limit : ℕ+) : List DeliveryId :=
  (((db.deliveries.select (claimable nowMillis destinationId)).map (·.deliveryId)).insertionSort
    idOrder).take limit

def attemptsOf (id : DeliveryId) : List DeliveryAttemptsRow :=
  (db.deliveryAttempts.select fun r => eq (some r.deliveryId) (some id))

/-- The final `SELECT` for one claimed row; `db` is the snapshot the statement started from. -/
def claimedRow (claimed : DeliveriesRow) : Option ClaimedDeliveryRow :=
  match db.deliveries.find claimed.deliveryId, db.relayEvents.find claimed.eventId with
  | some delivery, some event =>
    some
      { deliveryId := claimed.deliveryId
        eventId := claimed.eventId
        destinationId := claimed.destinationId
        eventType := event.eventType
        invoiceId := event.invoiceId
        amountCents := event.amountCents
        destinationUrl := delivery.destinationUrl
        configurationVersion := delivery.configurationVersion
        claimLagMs := claimed.nextEligibleAtMs.map fun eligible => nowMillis - eligible
        nextAttemptOrdinal :=
          (((db.attemptsOf claimed.deliveryId).map (·.ordinal)).max?.map (· + 1)).getD 1
        claimOwner := claimed.claimOwner
        claimGeneration := claimed.claimGeneration
        leaseExpiresAtMs := claimed.leaseExpiresAtMs }
  | _, _ => none

/-- The row a claim writes. -/
def claimSet (ownerId : WorkerId) (leaseDurationMillis : ℕ+) (r : DeliveriesRow) : DeliveriesRow :=
  { r with
    claimOwner := some ownerId
    claimGeneration := r.claimGeneration + 1
    leaseExpiresAtMs := some (nowMillis + (leaseDurationMillis : ℤ)) }

def claimPendingRows (ownerId : WorkerId) (destinationId : DestinationId)
    (limit leaseDurationMillis : ℕ+) : Except Error (List ClaimedDeliveryRow × Database) := do
  let chosen := db.candidates nowMillis destinationId limit
  let (claimed, db') ← db.updateDeliveries (fun r => isIn (some r.deliveryId) chosen)
    (claimSet nowMillis ownerId leaseDurationMillis) (fun _ => rfl)
  let ordered := claimed.insertionSort fun a b => idOrder a.deliveryId b.deliveryId
  pure (ordered.filterMap (db.claimedRow nowMillis), db')

def claimPendingStatement (ownerId : WorkerId) (destinationId : DestinationId)
    (limit leaseDurationMillis : ℕ+) : Except Error (List ClaimedDeliveryRow × Database) := do
  claimPendingQuery.analyse
  db.claimPendingRows nowMillis ownerId destinationId limit leaseDurationMillis

def renewClaimStatement (id : DeliveryId) (claim : DeliveryClaim) (leaseDurationMillis : ℕ+) :
    Except Error (List DeliveriesRow × Database) :=
  db.updateDeliveries
    (fun r => (fence id claim.ownerId claim.generation r).and (leaseLive nowMillis r))
    (fun r => { r with leaseExpiresAtMs := some (nowMillis + (leaseDurationMillis : ℤ)) }) (fun _ => rfl)

/-- The state columns of `deliveryCompletionRow`. -/
def completionColumns : DeliveryState → DeliveryRowState × Option ℤ × Option DeadLetterReason
  | .terminated => (.pending, none, none)
  | state => stateColumns state

def completeClaimStatement (id : DeliveryId) (claim : DeliveryClaim) (result : DeliveryResult) :
    Except Error (List DeliveriesRow × Database) :=
  let columns := completionColumns (deliveryStateFromResult result)
  db.updateDeliveries
    (fun r => (fence id claim.ownerId claim.generation r).and (leaseLive nowMillis r))
    (fun r =>
      { r with
        state := columns.1
        status := columns.2.1
        deadLetterReason := columns.2.2
        claimOwner := none
        leaseExpiresAtMs := none })
    (fun _ => rfl)

def releaseClaimStatement (id : DeliveryId) (claim : DeliveryClaim) :
    Except Error (List DeliveriesRow × Database) :=
  db.updateDeliveries (fence id claim.ownerId claim.generation)
    (fun r => { r with claimOwner := none, leaseExpiresAtMs := none }) (fun _ => rfl)

end Statements

/-! ## The repository -/

section Repository

variable (nowMillis : ℕ) (db : Database)

/-- `SqlSchema.findOneOption`, with what the caller makes of no row and of a row. -/
def findOne {α : Type} (operation : RepositoryOperation) (onNone : Failure) (onSome : α → Reply)
    (statement : Except Error (List α × Database)) : Reply × Database :=
  match statement with
  | .error error => (.error (.deliveryRepository operation (.sqlError error)), db)
  | .ok ([], db') => (.error onNone, db')
  | .ok (row :: _, db') => (onSome row, db')

def save (delivery : Delivery) : Reply × Database :=
  match db.saveStatement nowMillis delivery with
  | .error error => (.error (.deliveryRepository .save (.sqlError error)), db)
  | .ok db' => (.ok .done, db')

/-- `findRowById`, decoded. -/
def findRowById (operation : RepositoryOperation) (id : DeliveryId) : Except Failure (Option Delivery) :=
  match db.deliveries.find id with
  | none => .ok none
  | some r =>
    match rowToDelivery r with
    | none => .error (.deliveryRepository operation .schemaError)
    | some delivery => .ok (some delivery)

def findById (id : DeliveryId) : Reply × Database :=
  ((db.findRowById .findById id).map .found, db)

def recordAttempt (attempt : DeliveryAttemptRecord) : Reply × Database :=
  db.findOne .recordAttempt
    (lost .recordAttempt attempt.deliveryId ⟨attempt.workerId, attempt.claimGeneration, 0⟩)
    (fun _ => .ok .done) (db.recordAttemptStatement nowMillis (attemptToRow attempt) attempt.claimGeneration)

/-- **No attempt is ever recorded**: the statement is refused before it looks at a row. -/
theorem recordAttempt_eq (attempt : DeliveryAttemptRecord) : db.recordAttempt nowMillis attempt =
    (.error (.deliveryRepository .recordAttempt (.sqlError (.unresolved .ambiguousFunction))), db) := by
  rw [recordAttempt, recordAttemptStatement, recordAttemptQuery_refused]
  rfl

def requireDeadLetter (operation : RepositoryOperation) (id : DeliveryId) : Except Failure Delivery :=
  match db.findRowById operation id with
  | .error failure => .error failure
  | .ok none => .error (.deadLetterRecovery id .notFound)
  | .ok (some delivery) =>
    match delivery.state with
    | .deadLettered _ => .ok delivery
    | _ => .error (.deadLetterRecovery id .notDeadLettered)

/-- The second half of `retryDeadLetter`, after `requireDeadLetter`. -/
def retryDeadLetterRow (id : DeliveryId) : Reply × Database :=
  db.findOne .retryDeadLetter (.deadLetterRecovery id .notDeadLettered) (fun _ => .ok .done)
    (db.retryDeadLetterStatement nowMillis id)

def retryDeadLetter (id : DeliveryId) : Reply × Database :=
  match db.requireDeadLetter .retryDeadLetter id with
  | .error failure => (.error failure, db)
  | .ok _ => db.retryDeadLetterRow nowMillis id

def repairDeadLetterRow (id : DeliveryId) (route : DeliveryRouteSnapshot) : Reply × Database :=
  db.findOne .repairDeadLetter (.deadLetterRecovery id .notDeadLettered) (fun _ => .ok .done)
    (db.repairDeadLetterStatement nowMillis id route)

def repairDeadLetter (id : DeliveryId) (route : DeliveryRouteSnapshot) : Reply × Database :=
  match db.requireDeadLetter .repairDeadLetter id with
  | .error failure => (.error failure, db)
  | .ok delivery =>
    if delivery.destinationId ≠ route.destinationId then
      (.error (.deadLetterDestinationMismatch id delivery.destinationId route.destinationId), db)
    else db.repairDeadLetterRow nowMillis id route

def terminateDeadLetterRow (id : DeliveryId) : Reply × Database :=
  db.findOne .terminateDeadLetter (.deadLetterRecovery id .notDeadLettered) (fun _ => .ok .done)
    (db.terminateDeadLetterStatement id)

def terminateDeadLetter (id : DeliveryId) : Reply × Database :=
  match db.requireDeadLetter .terminateDeadLetter id with
  | .error failure => (.error failure, db)
  | .ok _ => db.terminateDeadLetterRow id

/-- The rows are decoded after the statement has committed. -/
def claimPending (ownerId : WorkerId) (destinationId : DestinationId)
    (limit leaseDurationMillis : Number) : Reply × Database :=
  match positiveInteger limit, positiveInteger leaseDurationMillis with
  | some limit, some lease =>
    match db.claimPendingStatement nowMillis ownerId destinationId limit lease with
    | .error error => (.error (.deliveryRepository .claimPending (.sqlError error)), db)
    | .ok (rows, db') =>
      match rows.mapM rowToClaimedDelivery with
      | none => (.error (.deliveryRepository .claimPending .schemaError), db')
      | some claimed => (.ok (.claimed claimed), db')
  | _, _ => (.error (.deliveryRepository .claimPending .schemaError), db)

/-- **Nothing is ever claimed from the tables**: a request is refused for its numbers, and any other with its
statement. -/
theorem claimPending_refused (ownerId : WorkerId) (destinationId : DestinationId) {limit lease : Number} {n p : ℕ+}
    (counted : positiveInteger limit = some n) (whole : positiveInteger lease = some p) :
    db.claimPending nowMillis ownerId destinationId limit lease =
      (.error (.deliveryRepository .claimPending (.sqlError (.unresolved (.ambiguousColumn "event_id")))), db) := by
  rw [claimPending, counted, whole]
  simp only [claimPendingStatement, claimPendingQuery_refused]
  rfl

theorem claimPending_eq (ownerId : WorkerId) (destinationId : DestinationId) (limit lease : Number) :
    ∃ cause, db.claimPending nowMillis ownerId destinationId limit lease =
      (.error (.deliveryRepository .claimPending cause), db) := by
  cases counted : positiveInteger limit with
  | none =>
    rw [claimPending, counted]
    exact ⟨_, rfl⟩
  | some n =>
    cases whole : positiveInteger lease with
    | none =>
      rw [claimPending, counted, whole]
      exact ⟨_, rfl⟩
    | some p => exact ⟨_, db.claimPending_refused nowMillis ownerId destinationId counted whole⟩

def renewClaim (id : DeliveryId) (claim : DeliveryClaim) (leaseDurationMillis : Number) :
    Reply × Database :=
  match positiveInteger leaseDurationMillis with
  | none => (.error (.deliveryRepository .renewClaim .schemaError), db)
  | some lease =>
    db.findOne .renewClaim (lost .renew id claim)
      (fun r =>
        match rowToClaim r.claimOwner r.claimGeneration r.leaseExpiresAtMs with
        | none => .error (.deliveryRepository .renewClaim .schemaError)
        | some renewed => .ok (.renewed renewed))
      (db.renewClaimStatement nowMillis id claim lease)

def completeClaim (id : DeliveryId) (claim : DeliveryClaim) (result : DeliveryResult) : Reply × Database :=
  db.findOne .completeClaim (lost .complete id claim) (fun _ => .ok .done)
    (db.completeClaimStatement nowMillis id claim result)

def releaseClaim (id : DeliveryId) (claim : DeliveryClaim) : Reply × Database :=
  db.findOne .releaseClaim (lost .release id claim) (fun _ => .ok .done)
    (db.releaseClaimStatement id claim)

end Repository

/-! ## The intake store -/

section Intake

variable (nowMillis : ℕ) (db : Database)

def eventRow (event : RelayEvent) (intake : Option (IngestionKey × RequestFingerprint × ℕ)) :
    RelayEventsRow where
  eventId := event.id
  eventType := event.type
  invoiceId := event.invoiceId
  amountCents := event.amountCents
  ingestionKey := intake.map (·.1)
  requestFingerprint := intake.map (·.2.1)
  acceptedAtMs := intake.map fun intake => (intake.2.2 : ℤ)

def findIntake (ingestionKey : IngestionKey) : Option RelayEventsRow :=
  (db.relayEvents.select fun r => eq r.ingestionKey (some ingestionKey)).head?

/-- The delivery row of an intake: its first claim has generation 1, and its lease starts now. A
parameter that is no integer is not accepted for the lease column. -/
def claimedNewRow (delivery : Delivery) (route : Option DeliveryRouteSnapshot) (claim : ClaimRequest) :
    Except Error DeliveriesRow :=
  if claim.leaseDurationMillis.den = 1 then
    pure
      { newRow delivery nowMillis with
        destinationUrl := route.map (·.endpoint.href)
        configurationVersion := route.map fun route => (route.configurationVersion : ℤ)
        claimOwner := some claim.ownerId
        claimGeneration := 1
        leaseExpiresAtMs := some (nowMillis + claim.leaseDurationMillis.num) }
  else .error .invalidInput

/-- Insert the delivery of a new event and read its claim back. -/
def insertClaimed (operation : IntakeOperation) (delivery : Delivery) (route : Option DeliveryRouteSnapshot)
    (claim : ClaimRequest) : Except Failure (DeliveryClaim × Database) :=
  match (do
    let row ← claimedNewRow nowMillis delivery route claim
    let db ← db.insertDelivery row
    pure (row, db) : Except Error (DeliveriesRow × Database)) with
  | .error error => .error (.relayIntakeStore operation (.sqlError error))
  | .ok (row, db') =>
    match rowToClaim row.claimOwner row.claimGeneration row.leaseExpiresAtMs with
    | none => .error (.relayIntakeStore operation .schemaError)
    | some claim => .ok (claim, db')

/-- The row the replay branch selects: the event joined with its first delivery. -/
def existingIntake (ingestionKey : IngestionKey) : Option (RelayEventsRow × DeliveriesRow) :=
  match db.findIntake ingestionKey with
  | none => none
  | some event =>
    (((db.deliveries.select fun r => eq (some r.eventId) (some event.eventId)).insertionSort
      fun a b => idOrder a.deliveryId b.deliveryId).head?).map fun delivery => (event, delivery)

/-- `decodeExistingIntake` and the values made from it, with the stored fingerprint. -/
def decodeExistingIntake (event : RelayEventsRow) (delivery : DeliveriesRow) :
    Option (RequestFingerprint × IntakeDecisionFields) :=
  match positiveColumn event.amountCents, event.requestFingerprint, event.acceptedAtMs.bind wholeColumn,
      delivery.destinationUrl, delivery.configurationVersion.bind positiveColumn with
  | some amountCents, some requestFingerprint, some acceptedAtMillis, some href,
      some configurationVersion =>
    some (requestFingerprint,
      { event := ⟨event.eventId, event.eventType, event.invoiceId, amountCents⟩
        delivery := ⟨delivery.deliveryId, event.eventId, delivery.destinationId, .pending⟩
        route := ⟨delivery.destinationId, ⟨href⟩, configurationVersion⟩
        acceptedAtMillis })
  | _, _, _, _, _ => none

/-- One transaction: insert the event unless its key is taken, then insert or read. -/
def accept (record : IntakeRecord) : Reply × Database :=
  let delivery : Delivery := ⟨record.deliveryId, record.event.id, record.route.destinationId, .pending⟩
  match db.findIntake record.ingestionKey with
  | none =>
    match db.relayEvents.insert "relay_events_pkey" (eventRow record.event
        (some (record.ingestionKey, record.requestFingerprint, record.acceptedAtMillis))) with
    | .error error => (.error (.relayIntakeStore .accept (.sqlError error)), db)
    | .ok relayEvents =>
      match insertClaimed nowMillis { db with relayEvents } .accept delivery (some record.route)
          record.claim with
      | .error failure => (.error failure, db)
      | .ok (claim, db') =>
        (.ok (.decided (.accepted ⟨record.event, delivery, record.route, record.acceptedAtMillis⟩ claim)),
          db')
  | some _ =>
    match db.existingIntake record.ingestionKey with
    | none =>
      (.error (.relayIntakeStore .accept (.message "idempotency key exists without an acceptance")), db)
    | some (event, existing) =>
      match decodeExistingIntake event existing with
      | none => (.error (.relayIntakeStore .accept .schemaError), db)
      | some (requestFingerprint, fields) =>
        if requestFingerprint ≠ record.requestFingerprint then
          (.error (.ingestionConflict record.ingestionKey fields.event.id), db)
        else (.ok (.decided (.replay fields)), db)

def savePending (event : RelayEvent) (id : DeliveryId) (destinationId : DestinationId)
    (claimRequest : ClaimRequest) : Reply × Database :=
  let delivery : Delivery := ⟨id, event.id, destinationId, .pending⟩
  match db.relayEvents.insert "relay_events_pkey" (eventRow event none) with
  | .error error => (.error (.relayIntakeStore .savePending (.sqlError error)), db)
  | .ok relayEvents =>
    match insertClaimed nowMillis { db with relayEvents } .savePending delivery none claimRequest with
    | .error failure => (.error failure, db)
    | .ok (claim, db') =>
      (.ok (.claimed [
        { claim
          claimLagMillis := 0
          delivery
          event
          nextAttemptOrdinal := 1
          route := none }]), db')

end Intake

/-- A call, served whole. -/
def exec (nowMillis : ℕ) (db : Database) : StoreCall → Reply × Database
  | .save delivery => db.save nowMillis delivery
  | .findById id => db.findById id
  | .accept record => db.accept nowMillis record
  | .savePending event id destinationId request => db.savePending nowMillis event id destinationId request
  | .claimPending ownerId destinationId limit lease =>
    db.claimPending nowMillis ownerId destinationId limit lease
  | .renewClaim id claim lease => db.renewClaim nowMillis id claim lease
  | .recordAttempt attempt => db.recordAttempt nowMillis attempt
  | .completeClaim id claim result => db.completeClaim nowMillis id claim result
  | .releaseClaim id claim => db.releaseClaim id claim
  | .retryDeadLetter id => db.retryDeadLetter nowMillis id
  | .repairDeadLetter id route => db.repairDeadLetter nowMillis id route
  | .terminateDeadLetter id => db.terminateDeadLetter id

/-- An operator action whose `requireDeadLetter` read an earlier state; other calls as before. -/
def resume (nowMillis : ℕ) (db : Database) : StoreCall → Reply × Database
  | .retryDeadLetter id => db.retryDeadLetterRow nowMillis id
  | .repairDeadLetter id route => db.repairDeadLetterRow nowMillis id route
  | .terminateDeadLetter id => db.terminateDeadLetterRow id
  | call => db.exec nowMillis call

end Database

end Postgres

end Relay
