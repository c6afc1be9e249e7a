import Relay.Adapters.PostgresCodecs
import Relay.Library.Migration

/-!
# The migrations (`src/adapters/postgres/migrations.ts`)

The six migrations statement by statement, and the tables, constraints and indexes each
of the first four leaves. The fifth names two constraints of its new table alike.
-/

namespace Relay

namespace Postgres

open Ddl

inductive RelayTable where
  | relayEvents
  | deliveries
  | deliveryAttempts
deriving DecidableEq

instance : Fintype RelayTable := ⟨{.relayEvents, .deliveries, .deliveryAttempts}, fun t => by cases t <;> decide⟩

inductive RelayColumn where
  | eventId
  | eventType
  | invoiceId
  | amountCents
  | ingestionKey
  | requestFingerprint
  | acceptedAtMs
  | deliveryId
  | destinationId
  | state
  | status
  | claimed
  | destinationUrl
  | configurationVersion
  | claimOwner
  | claimGeneration
  | leaseExpiresAtMs
  | nextEligibleAtMs
  | deadLetterReason
  | ordinal
  | startedAtMs
  | completedAtMs
  | outcome
  | decision
  | retryDelayMs
  | traceId
  | spanId
deriving DecidableEq

abbrev RelaySchema := Schema RelayTable RelayColumn

abbrev RelayStatement := Ddl.Statement RelayTable RelayColumn

abbrev RelayCondition := Condition RelayColumn

def required (name : RelayColumn) (type : ColumnType) : Column RelayColumn := ⟨name, type, true, .null⟩

def nullable (name : RelayColumn) (type : ColumnType) : Column RelayColumn := ⟨name, type, false, .null⟩

def texts (ts : List String) : List Value := ts.map .text

/-! ## 0001 -/

def relayEventsTypeCheck : RelayCondition := .eq .eventType (.text "invoice.created")

def relayEventsAmountCheck : RelayCondition := .lt (.literal 0) (.column .amountCents)

def relayEvents1 : RelaySchema where
  columns := [required .eventId .text, required .eventType .text, required .invoiceId .text, required .amountCents .bigint]
  checks := [("relay_events_type_check", relayEventsTypeCheck), ("relay_events_amount_check", relayEventsAmountCheck)]
  uniques := [("relay_events_pkey", [.eventId])]
  references := []

def stateCheck1 : RelayCondition := .isIn .state (texts ["Pending", "Delivered", "Rejected"])

def stateStatusCheck1 : RelayCondition :=
  .or (.and (.eq .state (.text "Pending")) (.isNull .status))
    (.and (.isIn .state (texts ["Delivered", "Rejected"])) (.isNotNull .status))

def deliveries1 : RelaySchema where
  columns := [required .deliveryId .text, required .eventId .text, required .destinationId .text, required .state .text,
    nullable .status .integer]
  checks := [("deliveries_state_check", stateCheck1), ("deliveries_state_status_check", stateStatusCheck1)]
  uniques := [("deliveries_pkey", [.deliveryId])]
  references := [⟨"deliveries_event_id_fkey", .eventId, .relayEvents, .eventId⟩]

def createRelayTables : List RelayStatement :=
  [.createTable .relayEvents relayEvents1, .createTable .deliveries deliveries1]

/-! ## 0002 -/

def claimedColumn : Column RelayColumn := ⟨.claimed, .boolean, true, .constant (.bool false)⟩

def recoveryIndex2 : Index RelayTable RelayColumn :=
  ⟨"deliveries_recovery_idx", .deliveries, [.destinationId, .deliveryId],
    .and (.eq .state (.text "Pending")) (.eq .claimed (.bool false))⟩

def addDeliveryClaims : List RelayStatement := [
  .alterTable .deliveries [.addColumn claimedColumn],
  .createIndex recoveryIndex2]

def deliveries2 : RelaySchema := { deliveries1 with columns := deliveries1.columns ++ [claimedColumn] }

/-! ## 0003 -/

def intakeCompleteCheck : RelayCondition :=
  .or (.and (.and (.isNull .ingestionKey) (.isNull .requestFingerprint)) (.isNull .acceptedAtMs))
    (.and (.and (.and (.and (.isNotNull .ingestionKey) (.isNotNull .requestFingerprint)) (.isNotNull .acceptedAtMs))
      (.like .requestFingerprint (isHex 64))) (.le (.literal 0) (.column .acceptedAtMs)))

def intakeClauses : List (Alteration RelayColumn) := [
  .addColumn (nullable .ingestionKey .text),
  .addColumn (nullable .requestFingerprint .text),
  .addColumn (nullable .acceptedAtMs .bigint),
  .addCheck "relay_events_intake_complete_check" intakeCompleteCheck,
  .addUnique "relay_events_ingestion_key_unique" [.ingestionKey]]

def routeSnapshotCheck : RelayCondition :=
  .or (.and (.isNull .destinationUrl) (.isNull .configurationVersion))
    (.and (.and (.isNotNull .destinationUrl) (.isNotNull .configurationVersion))
      (.lt (.literal 0) (.column .configurationVersion)))

def routeClauses : List (Alteration RelayColumn) := [
  .addColumn (nullable .destinationUrl .text),
  .addColumn (nullable .configurationVersion .integer),
  .addCheck "deliveries_route_snapshot_check" routeSnapshotCheck]

def addAtomicIntake : List RelayStatement :=
  [.alterTable .relayEvents intakeClauses, .alterTable .deliveries routeClauses]

def relayEvents3 : RelaySchema where
  columns := relayEvents1.columns ++
    [nullable .ingestionKey .text, nullable .requestFingerprint .text, nullable .acceptedAtMs .bigint]
  checks := relayEvents1.checks ++ [("relay_events_intake_complete_check", intakeCompleteCheck)]
  uniques := relayEvents1.uniques ++ [("relay_events_ingestion_key_unique", [.ingestionKey])]
  references := relayEvents1.references

def deliveries3 : RelaySchema where
  columns := deliveries2.columns ++ [nullable .destinationUrl .text, nullable .configurationVersion .integer]
  checks := deliveries2.checks ++ [("deliveries_route_snapshot_check", routeSnapshotCheck)]
  uniques := deliveries2.uniques
  references := deliveries2.references

/-! ## 0004 -/

def claimGenerationColumn : Column RelayColumn := ⟨.claimGeneration, .bigint, true, .constant (.int 0)⟩

def claimGenerationCheck : RelayCondition := .le (.literal 0) (.column .claimGeneration)

/-- `AND` binds closer than `OR`: a row without a claim passes whatever its state. -/
def claimLeaseCompleteCheck : RelayCondition :=
  .or (.and (.isNull .claimOwner) (.isNull .leaseExpiresAtMs))
    (.and
      (.and (.and (.and (.and (.isNotNull .claimOwner) (.like .claimOwner (isSlug "wrk-")))
        (.lt (.literal 0) (.column .claimGeneration))) (.isNotNull .leaseExpiresAtMs))
        (.le (.literal 0) (.column .leaseExpiresAtMs)))
      (.or (.isNull .claimOwner) (.eq .state (.text "Pending"))))

def leaseClauses : List (Alteration RelayColumn) := [
  .addColumn (nullable .claimOwner .text),
  .addColumn claimGenerationColumn,
  .addColumn (nullable .leaseExpiresAtMs .bigint),
  .addCheck "deliveries_claim_generation_check" claimGenerationCheck,
  .addCheck "deliveries_claim_lease_complete_check" claimLeaseCompleteCheck]

def recoveryIndex4 : Index RelayTable RelayColumn :=
  ⟨"deliveries_recovery_idx", .deliveries, [.destinationId, .deliveryId], .eq .state (.text "Pending")⟩

def addLeasedClaims : List RelayStatement := [
  .dropIndex "deliveries_recovery_idx",
  .alterTable .deliveries leaseClauses,
  .alterTable .deliveries [.dropColumn .claimed],
  .createIndex recoveryIndex4]

/-- With the claims of before still there. -/
def deliveries4' : RelaySchema where
  columns := deliveries3.columns ++ [nullable .claimOwner .text, claimGenerationColumn, nullable .leaseExpiresAtMs .bigint]
  checks := deliveries3.checks ++ [("deliveries_claim_generation_check", claimGenerationCheck),
    ("deliveries_claim_lease_complete_check", claimLeaseCompleteCheck)]
  uniques := deliveries3.uniques
  references := deliveries3.references

def deliveries4 : RelaySchema := deliveries4'.dropColumn .claimed

/-! ## 0005 -/

def nextEligibleColumn : Column RelayColumn := ⟨.nextEligibleAtMs, .bigint, true, .clock⟩

def nextEligibleCheck : RelayCondition := .le (.literal 0) (.column .nextEligibleAtMs)

def stateCheck5 : RelayCondition := .isIn .state (texts ["Pending", "Delivered", "Rejected", "DeadLettered"])

/-- A state that ended with a response. -/
def respondedCondition : RelayCondition :=
  .and (.and (.isIn .state (texts ["Delivered", "Rejected"])) (.isNotNull .status)) (.isNull .deadLetterReason)

def deadLetteredCondition : RelayCondition :=
  .and (.and (.eq .state (.text "DeadLettered")) (.isNull .status))
    (.isIn .deadLetterReason (texts ["ProviderProtocolFailure", "RetryBudgetExhausted"]))

def stateStatusCheck5 : RelayCondition :=
  .or (.or (.and (.and (.eq .state (.text "Pending")) (.isNull .status)) (.isNull .deadLetterReason)) respondedCondition)
    deadLetteredCondition

def deadLetterClauses : List (Alteration RelayColumn) := [
  .dropConstraint "deliveries_state_check",
  .dropConstraint "deliveries_state_status_check",
  .addColumn nextEligibleColumn,
  .addColumn (nullable .deadLetterReason .text),
  .addCheck "deliveries_next_eligible_check" nextEligibleCheck,
  .addCheck "deliveries_state_check" stateCheck5,
  .addCheck "deliveries_state_status_check" stateStatusCheck5]

def attemptOutcomeCheck : RelayCondition :=
  .isIn .outcome (texts ["Delivered", "Rejected", "Retryable", "ProtocolFailure", "TransportFailure", "TimedOut"])

def attemptDecisionCheck : RelayCondition := .isIn .decision (texts ["Terminal", "RetryScheduled", "Exhausted"])

def attemptRetryDelayCheck : RelayCondition :=
  .or (.and (.and (.eq .decision (.text "RetryScheduled")) (.isNotNull .retryDelayMs)) (.le (.literal 0) (.column .retryDelayMs)))
    (.and (.ne .decision (.text "RetryScheduled")) (.isNull .retryDelayMs))

def attemptStatusCheck : RelayCondition :=
  .or (.and (.isIn .outcome (texts ["Delivered", "Rejected", "Retryable", "ProtocolFailure"])) (.isNotNull .status))
    (.and (.isIn .outcome (texts ["TransportFailure", "TimedOut"])) (.isNull .status))

/-- The decisions that go with an outcome. -/
def attemptOutcomeDecisionCheck : RelayCondition :=
  .or (.and (.eq .decision (.text "Terminal")) (.isIn .outcome (texts ["Delivered", "Rejected", "ProtocolFailure"])))
    (.and (.isIn .decision (texts ["RetryScheduled", "Exhausted"]))
      (.isIn .outcome (texts ["Retryable", "TransportFailure", "TimedOut"])))

def attemptTraceCheck : RelayCondition :=
  .or (.and (.isNull .traceId) (.isNull .spanId))
    (.and (.and (.and (.like .traceId (isHex 32)) (.ne .traceId (.text (zeros 32)))) (.like .spanId (isHex 16)))
      (.ne .spanId (.text (zeros 16))))

def deliveryAttempts5 : RelaySchema where
  columns := [required .deliveryId .text, required .ordinal .integer, required .claimOwner .text,
    required .claimGeneration .bigint, required .startedAtMs .bigint, required .completedAtMs .bigint,
    required .outcome .text, required .decision .text, nullable .status .integer, nullable .retryDelayMs .bigint,
    nullable .traceId .text, nullable .spanId .text]
  checks := [
    ("delivery_attempts_ordinal_check", .lt (.literal 0) (.column .ordinal)),
    ("delivery_attempts_claim_generation_check", .lt (.literal 0) (.column .claimGeneration)),
    ("delivery_attempts_started_at_ms_check", .le (.literal 0) (.column .startedAtMs)),
    ("delivery_attempts_outcome_check", attemptOutcomeCheck),
    -- Unnamed in the source: the database makes this name of the table and the column.
    ("delivery_attempts_decision_check", attemptDecisionCheck),
    ("delivery_attempts_time_check", .le (.column .startedAtMs) (.column .completedAtMs)),
    ("delivery_attempts_retry_delay_check", attemptRetryDelayCheck),
    ("delivery_attempts_status_check", attemptStatusCheck),
    ("delivery_attempts_decision_check", attemptOutcomeDecisionCheck),
    ("delivery_attempts_trace_check", attemptTraceCheck)]
  uniques := [("delivery_attempts_pkey", [.deliveryId, .ordinal])]
  references := [⟨"delivery_attempts_delivery_id_fkey", .deliveryId, .deliveries, .deliveryId⟩]

def deadLetterIndex : Index RelayTable RelayColumn :=
  ⟨"deliveries_dead_letter_idx", .deliveries, [.deliveryId], .eq .state (.text "DeadLettered")⟩

def addAttemptsAndDeadLetters : List RelayStatement := [
  .alterTable .deliveries deadLetterClauses,
  .createTable .deliveryAttempts deliveryAttempts5,
  .createIndex deadLetterIndex]

def deliveries5 : RelaySchema where
  columns := deliveries4.columns ++ [nextEligibleColumn, nullable .deadLetterReason .text]
  checks := [("deliveries_route_snapshot_check", routeSnapshotCheck),
    ("deliveries_claim_generation_check", claimGenerationCheck),
    ("deliveries_claim_lease_complete_check", claimLeaseCompleteCheck),
    ("deliveries_next_eligible_check", nextEligibleCheck),
    ("deliveries_state_check", stateCheck5),
    ("deliveries_state_status_check", stateStatusCheck5)]
  uniques := deliveries4.uniques
  references := deliveries4.references

/-! ## 0006 -/

def stateCheck6 : RelayCondition := .isIn .state (texts ["Pending", "Delivered", "Rejected", "DeadLettered", "Terminated"])

def stateStatusCheck6 : RelayCondition :=
  .or (.or (.and (.and (.isIn .state (texts ["Pending", "Terminated"])) (.isNull .status)) (.isNull .deadLetterReason))
    respondedCondition) deadLetteredCondition

def terminationClauses : List (Alteration RelayColumn) := [
  .dropConstraint "deliveries_state_check",
  .dropConstraint "deliveries_state_status_check",
  .addCheck "deliveries_state_check" stateCheck6,
  .addCheck "deliveries_state_status_check" stateStatusCheck6]

def addOperationalTermination : List RelayStatement := [.alterTable .deliveries terminationClauses]

def deliveries6 : RelaySchema where
  columns := deliveries5.columns
  checks := [("deliveries_route_snapshot_check", routeSnapshotCheck),
    ("deliveries_claim_generation_check", claimGenerationCheck),
    ("deliveries_claim_lease_complete_check", claimLeaseCompleteCheck),
    ("deliveries_next_eligible_check", nextEligibleCheck),
    ("deliveries_state_check", stateCheck6),
    ("deliveries_state_status_check", stateStatusCheck6)]
  uniques := deliveries5.uniques
  references := deliveries5.references

/-- `RelayMigrations`, in the order of their names. -/
def relayMigrations : List (List RelayStatement) := [createRelayTables, addDeliveryClaims, addAtomicIntake,
  addLeasedClaims, addAttemptsAndDeadLetters, addOperationalTermination]

/-! ## What each version of the database looks like -/

structure RelayVersion where
  relayEvents : Option RelaySchema
  deliveries : Option RelaySchema
  deliveryAttempts : Option RelaySchema
  indexes : List (Index RelayTable RelayColumn)

def RelayVersion.schemas (v : RelayVersion) : RelayTable → Option RelaySchema
  | .relayEvents => v.relayEvents
  | .deliveries => v.deliveries
  | .deliveryAttempts => v.deliveryAttempts

/-- After so many migrations, of the first four. -/
def relayVersion : ℕ → RelayVersion
  | 0 => ⟨none, none, none, []⟩
  | 1 => ⟨some relayEvents1, some deliveries1, none, []⟩
  | 2 => ⟨some relayEvents1, some deliveries2, none, [recoveryIndex2]⟩
  | 3 => ⟨some relayEvents3, some deliveries3, none, [recoveryIndex2]⟩
  | _ => ⟨some relayEvents3, some deliveries4, none, [recoveryIndex4]⟩

abbrev RelayDatabase := Ddl.Database RelayTable RelayColumn

structure AtVersion (db : RelayDatabase) (n : ℕ) : Prop where
  schemas : db.schemas = (relayVersion n).schemas
  indexes : db.indexes = (relayVersion n).indexes

/-! ### The schemas follow one another -/

theorem intake_alters : relayEvents1.alters intakeClauses = .ok relayEvents3 := rfl

theorem claimed_alters : deliveries1.alters [.addColumn claimedColumn] = .ok deliveries2 := rfl

theorem route_alters : deliveries2.alters routeClauses = .ok deliveries3 := rfl

theorem lease_alters : deliveries3.alters leaseClauses = .ok deliveries4' := rfl

theorem deadLetter_alters : deliveries4.alters deadLetterClauses = .ok deliveries5 := rfl

/-- The name is the one the fifth migration gives to the outcomes a decision goes with. -/
theorem deliveryAttempts5_repeated : deliveryAttempts5.repeated? = some "delivery_attempts_decision_check" := rfl

/-! ### The tables as they are written -/

/-- What a statement adds to the definition of a table. -/
def defineTable (t : RelayTable) (schema : Option RelaySchema) : RelayStatement → Except Ddl.Error (Option RelaySchema)
  | .createTable t' created => .ok (if t' = t then some created else schema)
  | .alterTable t' clauses =>
    match schema with
    | none => .ok none
    | some schema => if t' = t then (schema.alters clauses).map some else .ok (some schema)
  | .createIndex _ | .dropIndex _ => .ok schema

/-- A table as all six migrations write it down, whatever becomes of them. -/
def writtenTable (t : RelayTable) : Except Ddl.Error (Option RelaySchema) := relayMigrations.flatten.foldlM (defineTable t) none

theorem relayEvents_written : writtenTable .relayEvents = .ok (some relayEvents3) := rfl

theorem deliveries_written : writtenTable .deliveries = .ok (some deliveries6) := rfl

theorem deliveryAttempts_written : writtenTable .deliveryAttempts = .ok (some deliveryAttempts5) := rfl

end Postgres

end Relay
