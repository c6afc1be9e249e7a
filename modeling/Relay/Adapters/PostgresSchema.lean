import Relay.Domain.Services
import Relay.Library.Table

/-!
# The SQL tables (`src/adapters/postgres/migrations.ts`)

The three tables as the migrations write them down, with their constraints
(`written_tables`; whether a database comes to have them is the matter of `PostgresUpgrades`).
Text columns hold the branded values the adapter writes to them, integer columns
hold integers, and a nullable column is an `Option`. A URL is stored as its text.
The driver is taken to hand `bigint` columns over as numbers, which is what the row
schemas ask for.
-/

namespace Relay

namespace Postgres

open Sql

/-! ## `relay_events` -/

structure RelayEventsRow where
  eventId : EventId
  eventType : Topic
  invoiceId : InvoiceId
  amountCents : ℤ
  ingestionKey : Option IngestionKey
  requestFingerprint : Option RequestFingerprint
  acceptedAtMs : Option ℤ
deriving DecidableEq

def relayEventsChecks : List (Check RelayEventsRow) := [
  ⟨"relay_events_amount_check", fun r => lt (some 0) (some r.amountCents)⟩,
  ⟨"relay_events_intake_complete_check", fun r =>
    (((isNull r.ingestionKey).and (isNull r.requestFingerprint)).and (isNull r.acceptedAtMs)).or
      (((((isNotNull r.ingestionKey).and (isNotNull r.requestFingerprint)).and
        (isNotNull r.acceptedAtMs)).and (test (fun t => isHex 64 t.text) r.requestFingerprint)).and
        (le (some 0) r.acceptedAtMs))⟩]

/-! ## `deliveries` -/

inductive DeliveryRowState where
  | pending
  | delivered
  | rejected
  | deadLettered
  | terminated
deriving DecidableEq

structure DeliveriesRow where
  deliveryId : DeliveryId
  eventId : EventId
  destinationId : DestinationId
  state : DeliveryRowState
  status : Option ℤ
  deadLetterReason : Option DeadLetterReason
  destinationUrl : Option String
  configurationVersion : Option ℤ
  claimOwner : Option WorkerId
  claimGeneration : ℤ
  leaseExpiresAtMs : Option ℤ
  nextEligibleAtMs : Option ℤ
deriving DecidableEq

def deliveriesChecks : List (Check DeliveriesRow) := [
  ⟨"next_eligible_at_ms", fun r => isNotNull r.nextEligibleAtMs⟩,
  ⟨"deliveries_route_snapshot_check", fun r =>
    ((isNull r.destinationUrl).and (isNull r.configurationVersion)).or
      (((isNotNull r.destinationUrl).and (isNotNull r.configurationVersion)).and
        (lt (some 0) r.configurationVersion))⟩,
  ⟨"deliveries_claim_generation_check", fun r => le (some 0) (some r.claimGeneration)⟩,
  ⟨"deliveries_claim_lease_complete_check", fun r =>
    ((isNull r.claimOwner).and (isNull r.leaseExpiresAtMs)).or
      ((((((isNotNull r.claimOwner).and (test (fun o => isSlug "wrk-" o.text) r.claimOwner)).and
        (lt (some 0) (some r.claimGeneration))).and (isNotNull r.leaseExpiresAtMs)).and
        (le (some 0) r.leaseExpiresAtMs)).and
        ((isNull r.claimOwner).or (eq (some r.state) (some .pending))))⟩,
  ⟨"deliveries_next_eligible_check", fun r => le (some 0) r.nextEligibleAtMs⟩,
  ⟨"deliveries_state_status_check", fun r =>
    ((((isIn (some r.state) [.pending, .terminated]).and (isNull r.status)).and
        (isNull r.deadLetterReason)).or
      (((isIn (some r.state) [.delivered, .rejected]).and (isNotNull r.status)).and
        (isNull r.deadLetterReason))).or
      (((eq (some r.state) (some .deadLettered)).and (isNull r.status)).and
        (isIn r.deadLetterReason [.providerProtocolFailure, .retryBudgetExhausted]))⟩]

/-! ## `delivery_attempts` -/

structure DeliveryAttemptsRow where
  deliveryId : DeliveryId
  ordinal : ℤ
  claimOwner : WorkerId
  claimGeneration : ℤ
  startedAtMs : ℤ
  completedAtMs : ℤ
  outcome : AttemptOutcome
  decision : AttemptDecision
  status : Option ℤ
  retryDelayMs : Option ℤ
  traceId : Option TraceId
  spanId : Option SpanId
deriving DecidableEq

def DeliveryAttemptsRow.key (r : DeliveryAttemptsRow) : DeliveryId × ℤ := (r.deliveryId, r.ordinal)

def deliveryAttemptsChecks : List (Check DeliveryAttemptsRow) := [
  ⟨"delivery_attempts_ordinal_check", fun r => lt (some 0) (some r.ordinal)⟩,
  ⟨"delivery_attempts_claim_generation_check", fun r => lt (some 0) (some r.claimGeneration)⟩,
  ⟨"delivery_attempts_started_at_ms_check", fun r => le (some 0) (some r.startedAtMs)⟩,
  ⟨"delivery_attempts_time_check", fun r => le (some r.startedAtMs) (some r.completedAtMs)⟩,
  ⟨"delivery_attempts_retry_delay_check", fun r =>
    (((eq (some r.decision) (some .retryScheduled)).and (isNotNull r.retryDelayMs)).and
        (le (some 0) r.retryDelayMs)).or
      ((ne (some r.decision) (some .retryScheduled)).and (isNull r.retryDelayMs))⟩,
  ⟨"delivery_attempts_status_check", fun r =>
    ((isIn (some r.outcome) [.delivered, .rejected, .retryable, .protocolFailure]).and
        (isNotNull r.status)).or
      ((isIn (some r.outcome) [.transportFailure, .timedOut]).and (isNull r.status))⟩,
  ⟨"delivery_attempts_decision_check", fun r =>
    ((eq (some r.decision) (some .terminal)).and
        (isIn (some r.outcome) [.delivered, .rejected, .protocolFailure])).or
      ((isIn (some r.decision) [.retryScheduled, .exhausted]).and
        (isIn (some r.outcome) [.retryable, .transportFailure, .timedOut]))⟩,
  ⟨"delivery_attempts_trace_check", fun r =>
    ((isNull r.traceId).and (isNull r.spanId)).or
      ((((test (fun t => isHex 32 t.text) r.traceId).and
          (test (fun t => !t.text.toList.all (· = '0')) r.traceId)).and
        (test (fun t => isHex 16 t.text) r.spanId)).and
        (test (fun t => !t.text.toList.all (· = '0')) r.spanId))⟩]

structure Database where
  relayEvents : Table RelayEventsRow.eventId relayEventsChecks
  deliveries : Table DeliveriesRow.deliveryId deliveriesChecks
  deliveryAttempts : Table DeliveryAttemptsRow.key deliveryAttemptsChecks

def Database.empty : Database := ⟨.empty, .empty, .empty⟩

/-! ## Rows of the domain values -/

/-- The state columns of `deliveryToRow`. -/
def stateColumns : DeliveryState → DeliveryRowState × Option ℤ × Option DeadLetterReason
  | .pending => (.pending, none, none)
  | .delivered status => (.delivered, some status, none)
  | .rejected status => (.rejected, some status, none)
  | .deadLettered reason => (.deadLettered, none, some reason)
  | .terminated => (.terminated, none, none)

/-- The `DeliveryRow` union, decoded by `rowToDelivery`; `none` where no member matches. -/
def rowToState : DeliveryRowState × Option ℤ × Option DeadLetterReason → Option DeliveryState
  | (.pending, none, none) => some .pending
  | (.delivered, some status, none) => some (.delivered status)
  | (.rejected, some status, none) => some (.rejected status)
  | (.deadLettered, none, some reason) => some (.deadLettered reason)
  | (.terminated, none, none) => some .terminated
  | _ => none

@[simp] theorem rowToState_stateColumns (state : DeliveryState) : rowToState (stateColumns state) = some state := by
  cases state <;> rfl

def rowToDelivery (r : DeliveriesRow) : Option Delivery :=
  (rowToState (r.state, r.status, r.deadLetterReason)).map fun state =>
    ⟨r.deliveryId, r.eventId, r.destinationId, state⟩

/-- `Schema.Int.check(isGreaterThan(0))` on a column. -/
def positiveColumn (n : ℤ) : Option ℕ+ := if h : 0 < n then some ⟨n.toNat, by omega⟩ else none

/-- `Schema.Int.check(isGreaterThanOrEqualTo(0))` on a column. -/
def wholeColumn (n : ℤ) : Option ℕ := if 0 ≤ n then some n.toNat else none

@[simp] theorem positiveColumn_coe (n : ℕ+) : positiveColumn (n : ℤ) = some n := by
  have pos : (0 : ℤ) < (n : ℕ) := by exact_mod_cast n.pos
  unfold positiveColumn
  rw [dif_pos pos]
  congr 1

@[simp] theorem wholeColumn_natCast (n : ℕ) : wholeColumn (n : ℤ) = some n := by
  simp [wholeColumn]

/-- `DeliveryClaimRow`, decoded and given to `DeliveryClaim.make`. -/
def rowToClaim (claimOwner : Option WorkerId) (claimGeneration : ℤ) (leaseExpiresAtMs : Option ℤ) :
    Option DeliveryClaim :=
  match claimOwner, positiveColumn claimGeneration, leaseExpiresAtMs.bind wholeColumn with
  | some ownerId, some generation, some expires => some ⟨ownerId, generation, expires⟩
  | _, _, _ => none

def attemptToRow (attempt : DeliveryAttemptRecord) : DeliveryAttemptsRow where
  deliveryId := attempt.deliveryId
  ordinal := attempt.ordinal
  claimOwner := attempt.workerId
  claimGeneration := attempt.claimGeneration
  startedAtMs := attempt.startedAtMillis
  completedAtMs := attempt.completedAtMillis
  outcome := attempt.outcome
  decision := attempt.decision
  status := attempt.status
  retryDelayMs := attempt.retryDelayMillis.map (↑)
  traceId := attempt.traceId
  spanId := attempt.spanId

/-- The inner `none` is a null column; the outer one a failed check. -/
def wholeNullable : Option ℤ → Option (Option ℕ)
  | none => some none
  | some n => (wholeColumn n).map some

/-- `rowToAttempt` on a decoded `DeliveryAttemptRow`. -/
def rowToAttempt (r : DeliveryAttemptsRow) : Option DeliveryAttemptRecord :=
  match positiveColumn r.ordinal, positiveColumn r.claimGeneration, wholeColumn r.startedAtMs,
      wholeColumn r.completedAtMs, wholeNullable r.retryDelayMs with
  | some ordinal, some claimGeneration, some startedAtMillis, some completedAtMillis,
      some retryDelayMillis =>
    if consistent : consistentAttempt startedAtMillis completedAtMillis r.outcome r.decision r.status
        retryDelayMillis r.traceId r.spanId = true then
      some
        { deliveryId := r.deliveryId
          ordinal
          workerId := r.claimOwner
          claimGeneration
          startedAtMillis
          completedAtMillis
          outcome := r.outcome
          decision := r.decision
          status := r.status
          retryDelayMillis
          traceId := r.traceId
          spanId := r.spanId
          consistent }
    else none
  | _, _, _, _, _ => none

@[simp] theorem wholeNullable_map (n : Option ℕ) : wholeNullable (n.map (↑)) = some n := by
  cases n with
  | none => rfl
  | some n => simp [wholeNullable]

/-- An attempt reads back as it was written. -/
@[simp] theorem rowToAttempt_attemptToRow (attempt : DeliveryAttemptRecord) :
    rowToAttempt (attemptToRow attempt) = some attempt := by
  simp [rowToAttempt, attemptToRow, attempt.consistent]

/-- **Every valid attempt record satisfies the constraints of its table.** -/
theorem attemptToRow_checked (attempt : DeliveryAttemptRecord) :
    violation deliveryAttemptsChecks (attemptToRow attempt) = none := by
  have time := attempt.time
  have trace := attempt.trace
  have status := attempt.status_iff
  have delay := attempt.delay_iff
  have decision := attempt.decision_iff
  rw [violation_eq_none]
  intro c hc
  simp only [deliveryAttemptsChecks, List.mem_cons, List.not_mem_nil, or_false] at hc
  obtain rfl | rfl | rfl | rfl | rfl | rfl | rfl | rfl := hc
  · simp [attemptToRow]
  · simp [attemptToRow]
  · simp [attemptToRow]
  · simpa [attemptToRow] using time
  · cases hd : attempt.decision <;> cases hr : attempt.retryDelayMillis <;> rw [hd, hr] at delay <;>
      first
      | exact absurd delay Bool.false_ne_true
      | exact absurd delay.symm Bool.false_ne_true
      | simp [attemptToRow, hd, hr]
  · cases ho : attempt.outcome <;> cases hs : attempt.status <;> rw [ho, hs] at status <;>
      first
      | exact absurd status Bool.false_ne_true
      | exact absurd status.symm Bool.false_ne_true
      | simp [attemptToRow, ho, hs]
  · cases hd : attempt.decision <;> cases ho : attempt.outcome <;> rw [hd, ho] at decision <;>
      first
      | exact absurd decision Bool.false_ne_true
      | simp [attemptToRow, hd, ho]
  · cases ht : attempt.traceId with
    | none =>
      rw [ht] at trace
      have span : attempt.spanId = none := by simpa using trace.symm
      simp [attemptToRow, ht, span]
    | some traceId =>
      obtain ⟨spanId, span⟩ : ∃ spanId, attempt.spanId = some spanId := by
        cases h : attempt.spanId with
        | none => rw [ht, h] at trace; cases trace
        | some spanId => exact ⟨spanId, rfl⟩
      have traceText := traceId.wf
      have spanText := spanId.wf
      rw [Bool.and_eq_true] at traceText spanText
      simp only [attemptToRow, ht, span, test_some, traceText.1, traceText.2, spanText.1, spanText.2]
      rfl

end Postgres

end Relay
