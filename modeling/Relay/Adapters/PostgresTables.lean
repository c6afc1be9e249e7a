import Relay.Adapters.PostgresMigrations
import Relay.Intake.Submission

/-!
# The tables the migrations write down

The rows the adapter is modelled on, column by column as the tables of the migrations hold
them. A row meets the constraints written for its table exactly when it meets those of the
model, and the primary keys tell the same rows apart.
-/

namespace Relay

namespace Postgres

open Ddl Sql

/-- The constraints on single rows, ranges of integers apart. -/
structure Constrains (schema : RelaySchema) (r : Row RelayColumn) : Prop where
  required : ∀ column ∈ schema.columns, column.notNull = true → r column.name ≠ none
  checks : ∀ check ∈ schema.checks, (check.2.eval r).admits = true

theorem constrains_iff {schema : RelaySchema} {r : Row RelayColumn} {named : Prop}
    (required : (∀ column ∈ schema.columns, column.notNull = true → r column.name ≠ none) ↔ named) :
    Constrains schema r ↔ named ∧ ∀ check ∈ schema.checks, (check.2.eval r).admits = true :=
  ⟨fun ⟨columns, checks⟩ => ⟨required.1 columns, checks⟩, fun ⟨columns, checks⟩ => ⟨required.2 columns, checks⟩⟩

/-- The unique constraint tells rows apart as the key does. -/
def KeyedBy {R K : Type} (schema : RelaySchema) (name : String) (row : R → Row RelayColumn) (key : R → K) : Prop :=
  ∃ columns, (name, columns) ∈ schema.uniques ∧ ∀ r r', keyOf columns (row r) = keyOf columns (row r') ↔ key r = key r'

/-! ## Rows as the tables hold them -/

def relayEventsRow (r : RelayEventsRow) : Row RelayColumn
  | .eventId => some (.text r.eventId.text)
  | .eventType => some (.text r.eventType.text)
  | .invoiceId => some (.text r.invoiceId.text)
  | .amountCents => some (.int r.amountCents)
  | .ingestionKey => r.ingestionKey.map (.text ·.text)
  | .requestFingerprint => r.requestFingerprint.map (.text ·.text)
  | .acceptedAtMs => r.acceptedAtMs.map .int
  | _ => none

def deliveriesRow (r : DeliveriesRow) : Row RelayColumn
  | .deliveryId => some (.text r.deliveryId.text)
  | .eventId => some (.text r.eventId.text)
  | .destinationId => some (.text r.destinationId.text)
  | .state => some (.text (stateText r.state))
  | .status => r.status.map .int
  | .deadLetterReason => r.deadLetterReason.map (.text <| reasonText ·)
  | .destinationUrl => r.destinationUrl.map .text
  | .configurationVersion => r.configurationVersion.map .int
  | .claimOwner => r.claimOwner.map (.text ·.text)
  | .claimGeneration => some (.int r.claimGeneration)
  | .leaseExpiresAtMs => r.leaseExpiresAtMs.map .int
  | .nextEligibleAtMs => r.nextEligibleAtMs.map .int
  | _ => none

def deliveryAttemptsRow (r : DeliveryAttemptsRow) : Row RelayColumn
  | .deliveryId => some (.text r.deliveryId.text)
  | .ordinal => some (.int r.ordinal)
  | .claimOwner => some (.text r.claimOwner.text)
  | .claimGeneration => some (.int r.claimGeneration)
  | .startedAtMs => some (.int r.startedAtMs)
  | .completedAtMs => some (.int r.completedAtMs)
  | .outcome => some (.text (outcomeText r.outcome))
  | .decision => some (.text (decisionText r.decision))
  | .status => r.status.map .int
  | .retryDelayMs => r.retryDelayMs.map .int
  | .traceId => r.traceId.map (.text ·.text)
  | .spanId => r.spanId.map (.text ·.text)
  | _ => none

theorem keyOf_singleton {r : Row RelayColumn} {c : RelayColumn} {v : Value} (held : r c = some v) : keyOf [c] r = some [v] := by
  rw [keyOf, List.mapM_cons, held]
  rfl

theorem slug_ext {tag : String} {a b : Slug tag} (same : a.text = b.text) : a = b := by
  cases a
  cases b
  cases same
  rfl

/-! ## Conditions on them -/

section Conditions

variable {r : Row RelayColumn} {c : RelayColumn}

theorem eval_isNull {α : Type} {f : α → Value} {a : Option α} (held : r c = a.map f) : (Condition.isNull c).eval r = isNull a := by
  rw [Condition.eval, held]
  cases a <;> rfl

theorem eval_isNotNull {α : Type} {f : α → Value} {a : Option α} (held : r c = a.map f) :
    (Condition.isNotNull c).eval r = isNotNull a := by
  rw [Condition.eval, held]
  cases a <;> rfl

theorem value_column {a : Option ℤ} (held : r c = a.map .int) : (Operand.column c).value r = a := by
  rw [Operand.value, held]
  cases a <;> rfl

theorem value_some {n : ℤ} (held : r c = some (.int n)) : (Operand.column c).value r = some n := by
  rw [Operand.value, held]
  rfl

theorem eval_like {α : Type} {text : α → String} {a : Option α} (held : r c = a.map (.text <| text ·)) (pattern : String → Bool) :
    (Condition.like c pattern).eval r = test (fun a => pattern (text a)) a := by
  rw [Condition.eval, held]
  cases a <;> rfl

/-- Texts that tell their values apart are compared as the values are. -/
theorem eval_eq {α : Type} [DecidableEq α] {text : α → String} (inj : Function.Injective text) {a : Option α}
    (held : r c = a.map (.text <| text ·)) (b : α) : (Condition.eq c (.text (text b))).eval r = eq a (some b) := by
  rw [Condition.eval, held]
  cases a with
  | none => rfl
  | some a => simp [inj.eq_iff]

theorem eval_ne {α : Type} [DecidableEq α] {text : α → String} (inj : Function.Injective text) {a : Option α}
    (held : r c = a.map (.text <| text ·)) (b : α) : (Condition.ne c (.text (text b))).eval r = ne a (some b) := by
  rw [Condition.eval, held]
  cases a with
  | none => rfl
  | some a => simp [inj.eq_iff]

theorem eval_isIn {α : Type} [DecidableEq α] {text : α → String} (inj : Function.Injective text) {a : Option α}
    (held : r c = a.map (.text <| text ·)) (bs : List α) :
    (Condition.isIn c (texts (bs.map text))).eval r = isIn a bs := by
  rw [Condition.eval, held]
  cases a with
  | none => rfl
  | some a => simp [texts, inj.eq_iff]

/-- No trace text is all zeros. -/
theorem eval_ne_zeros {n : ℕ} {a : Option (TraceText n)} (held : r c = a.map (.text ·.text)) :
    (Condition.ne c (.text (zeros n))).eval r = test (fun t => !t.text.toList.all (· = '0')) a := by
  rw [Condition.eval, held]
  cases a with
  | none => rfl
  | some t =>
    have wf := t.wf
    obtain ⟨-, other⟩ := AttemptColumns.isHex_zeros_ne wf
    rw [Bool.and_eq_true] at wf
    rw [test_some, wf.2]
    simp [other]

end Conditions

theorem stateText_injective : Function.Injective stateText := by
  intro a b same
  cases a <;> cases b <;> first | rfl | simp [stateText] at same

theorem reasonText_injective : Function.Injective reasonText := by
  intro a b same
  cases a <;> cases b <;> first | rfl | simp [reasonText] at same

theorem outcomeText_injective : Function.Injective outcomeText := by
  intro a b same
  cases a <;> cases b <;> first | rfl | simp [outcomeText] at same

theorem decisionText_injective : Function.Injective decisionText := by
  intro a b same
  cases a <;> cases b <;> first | rfl | simp [decisionText] at same

theorem Topic.text_injective : Function.Injective Topic.text := by
  intro a b _
  cases a
  cases b
  rfl

/-! ## `relay_events` -/

theorem relayEvents_constrains (r : RelayEventsRow) :
    Constrains relayEvents3 (relayEventsRow r) ↔ violation relayEventsChecks r = none := by
  have type : relayEventsTypeCheck.eval (relayEventsRow r) = some true := by
    have held : relayEventsRow r .eventType = (some r.eventType).map (.text <| Topic.text ·) := rfl
    rw [relayEventsTypeCheck, show "invoice.created" = Topic.text .invoiceCreated from rfl, eval_eq Topic.text_injective held]
    cases r.eventType
    rfl
  have amount : relayEventsAmountCheck.eval (relayEventsRow r) = lt (some 0) (some r.amountCents) := rfl
  have complete : intakeCompleteCheck.eval (relayEventsRow r) =
      (((isNull r.ingestionKey).and (isNull r.requestFingerprint)).and (isNull r.acceptedAtMs)).or
        (((((isNotNull r.ingestionKey).and (isNotNull r.requestFingerprint)).and
          (isNotNull r.acceptedAtMs)).and (test (fun t => isHex 64 t.text) r.requestFingerprint)).and
          (le (some 0) r.acceptedAtMs)) := by
    have key : relayEventsRow r .ingestionKey = r.ingestionKey.map (.text ·.text) := rfl
    have fingerprint : relayEventsRow r .requestFingerprint = r.requestFingerprint.map (.text ·.text) := rfl
    have accepted : relayEventsRow r .acceptedAtMs = r.acceptedAtMs.map .int := rfl
    simp only [intakeCompleteCheck, Condition.eval_or, Condition.eval_and, Condition.eval_le, Operand.value_literal,
      eval_isNull key, eval_isNull fingerprint, eval_isNull accepted, eval_isNotNull key, eval_isNotNull fingerprint,
      eval_isNotNull accepted, eval_like fingerprint, value_column accepted]
  have named : (∀ column ∈ relayEvents3.columns, column.notNull = true → relayEventsRow r column.name ≠ none) ↔ True := by
    simp [relayEvents3, relayEvents1, required, nullable, relayEventsRow]
  rw [violation_eq_none, constrains_iff named]
  simp only [relayEvents3, relayEvents1, relayEventsChecks, List.cons_append, List.nil_append, List.forall_mem_cons,
    List.not_mem_nil, IsEmpty.forall_iff, implies_true, type, amount, complete, Truth.admits_some, true_and]

theorem relayEvents_keyed : KeyedBy relayEvents3 "relay_events_pkey" relayEventsRow RelayEventsRow.eventId := by
  refine ⟨[.eventId], List.mem_cons_self, fun r r' => ?_⟩
  rw [keyOf_singleton rfl, keyOf_singleton rfl]
  simp only [Option.some.injEq, List.cons.injEq, Value.text.injEq, and_true]
  exact ⟨slug_ext, congrArg Slug.text⟩

/-! ## `deliveries` -/

theorem deliveries_constrains (r : DeliveriesRow) :
    Constrains deliveries6 (deliveriesRow r) ↔ violation deliveriesChecks r = none := by
  have url : deliveriesRow r .destinationUrl = r.destinationUrl.map .text := rfl
  have version : deliveriesRow r .configurationVersion = r.configurationVersion.map .int := rfl
  have generation : deliveriesRow r .claimGeneration = some (.int r.claimGeneration) := rfl
  have owner : deliveriesRow r .claimOwner = r.claimOwner.map (.text ·.text) := rfl
  have lease : deliveriesRow r .leaseExpiresAtMs = r.leaseExpiresAtMs.map .int := rfl
  have eligible : deliveriesRow r .nextEligibleAtMs = r.nextEligibleAtMs.map .int := rfl
  have state : deliveriesRow r .state = (some r.state).map (.text <| stateText ·) := rfl
  have status : deliveriesRow r .status = r.status.map .int := rfl
  have reason : deliveriesRow r .deadLetterReason = r.deadLetterReason.map (.text <| reasonText ·) := rfl
  have eq (b : DeliveryRowState) := eval_eq stateText_injective state b
  have among (bs : List DeliveryRowState) := eval_isIn stateText_injective state bs
  have stateCheck : stateCheck6.eval (deliveriesRow r) = some true := by
    rw [stateCheck6, show ["Pending", "Delivered", "Rejected", "DeadLettered", "Terminated"] = states.map stateText from rfl, among]
    cases r.state <;> rfl
  have route : routeSnapshotCheck.eval (deliveriesRow r) = ((isNull r.destinationUrl).and (isNull r.configurationVersion)).or
      (((isNotNull r.destinationUrl).and (isNotNull r.configurationVersion)).and (lt (some 0) r.configurationVersion)) := by
    simp only [routeSnapshotCheck, Condition.eval_or, Condition.eval_and, Condition.eval_lt, Operand.value_literal,
      eval_isNull url, eval_isNull version, eval_isNotNull url, eval_isNotNull version, value_column version]
  have claims : claimLeaseCompleteCheck.eval (deliveriesRow r) = ((isNull r.claimOwner).and (isNull r.leaseExpiresAtMs)).or
      ((((((isNotNull r.claimOwner).and (test (fun o => isSlug "wrk-" o.text) r.claimOwner)).and
        (lt (some 0) (some r.claimGeneration))).and (isNotNull r.leaseExpiresAtMs)).and
        (le (some 0) r.leaseExpiresAtMs)).and
        ((isNull r.claimOwner).or (Sql.eq (some r.state) (some .pending)))) := by
    simp only [claimLeaseCompleteCheck, Condition.eval_or, Condition.eval_and, Condition.eval_lt, Condition.eval_le,
      Operand.value_literal, eval_isNull owner, eval_isNull lease, eval_isNotNull owner, eval_isNotNull lease,
      eval_like owner, value_some generation, value_column lease, eq .pending, show "Pending" = stateText .pending from rfl]
  have states : stateStatusCheck6.eval (deliveriesRow r) =
      ((((isIn (some r.state) [.pending, .terminated]).and (isNull r.status)).and
          (isNull r.deadLetterReason)).or
        (((isIn (some r.state) [.delivered, .rejected]).and (isNotNull r.status)).and
          (isNull r.deadLetterReason))).or
        (((Sql.eq (some r.state) (some .deadLettered)).and (isNull r.status)).and
          (isIn r.deadLetterReason [.providerProtocolFailure, .retryBudgetExhausted])) := by
    simp only [stateStatusCheck6, respondedCondition, deadLetteredCondition, Condition.eval_or, Condition.eval_and,
      eval_isNull status, eval_isNotNull status, eval_isNull reason,
      show ["Pending", "Terminated"] = [DeliveryRowState.pending, .terminated].map stateText from rfl,
      show ["Delivered", "Rejected"] = [DeliveryRowState.delivered, .rejected].map stateText from rfl,
      show "DeadLettered" = stateText .deadLettered from rfl,
      show ["ProviderProtocolFailure", "RetryBudgetExhausted"] = reasons.map reasonText from rfl,
      among, eq, eval_isIn reasonText_injective reason]
    rfl
  have named : (∀ column ∈ deliveries6.columns, column.notNull = true → deliveriesRow r column.name ≠ none) ↔
      (isNotNull r.nextEligibleAtMs).admits = true := by
    cases held : r.nextEligibleAtMs <;>
      simp [deliveries6, deliveries5, deliveries4, deliveries4', deliveries3, deliveries2, deliveries1, Schema.dropColumn, required,
        nullable, claimedColumn, claimGenerationColumn, nextEligibleColumn, deliveriesRow, held]
  rw [violation_eq_none, constrains_iff named]
  simp only [deliveries6, deliveriesChecks, List.forall_mem_cons, List.not_mem_nil, IsEmpty.forall_iff, implies_true, stateCheck,
    route, claims, states, claimGenerationCheck, nextEligibleCheck, Condition.eval_le, Operand.value_literal, value_some generation,
    value_column eligible, Truth.admits_some, true_and]

theorem deliveries_keyed : KeyedBy deliveries6 "deliveries_pkey" deliveriesRow DeliveriesRow.deliveryId := by
  refine ⟨[.deliveryId], List.mem_cons_self, fun r r' => ?_⟩
  rw [keyOf_singleton rfl, keyOf_singleton rfl]
  simp only [Option.some.injEq, List.cons.injEq, Value.text.injEq, and_true]
  exact ⟨slug_ext, congrArg Slug.text⟩

/-! ## `delivery_attempts` -/

theorem deliveryAttempts_constrains (r : DeliveryAttemptsRow) :
    Constrains deliveryAttempts5 (deliveryAttemptsRow r) ↔ violation deliveryAttemptsChecks r = none := by
  have ordinal : deliveryAttemptsRow r .ordinal = some (.int r.ordinal) := rfl
  have generation : deliveryAttemptsRow r .claimGeneration = some (.int r.claimGeneration) := rfl
  have started : deliveryAttemptsRow r .startedAtMs = some (.int r.startedAtMs) := rfl
  have completed : deliveryAttemptsRow r .completedAtMs = some (.int r.completedAtMs) := rfl
  have outcome : deliveryAttemptsRow r .outcome = (some r.outcome).map (.text <| outcomeText ·) := rfl
  have decision : deliveryAttemptsRow r .decision = (some r.decision).map (.text <| decisionText ·) := rfl
  have status : deliveryAttemptsRow r .status = r.status.map .int := rfl
  have delay : deliveryAttemptsRow r .retryDelayMs = r.retryDelayMs.map .int := rfl
  have trace : deliveryAttemptsRow r .traceId = r.traceId.map (.text ·.text) := rfl
  have span : deliveryAttemptsRow r .spanId = r.spanId.map (.text ·.text) := rfl
  have outcomes (bs : List AttemptOutcome) := eval_isIn outcomeText_injective outcome bs
  have decisions (bs : List AttemptDecision) := eval_isIn decisionText_injective decision bs
  have named : (∀ column ∈ deliveryAttempts5.columns, column.notNull = true → deliveryAttemptsRow r column.name ≠ none) ↔ True := by
    simp [deliveryAttempts5, required, nullable, deliveryAttemptsRow]
  have outcomeCheck : attemptOutcomeCheck.eval (deliveryAttemptsRow r) = some true := by
    rw [attemptOutcomeCheck, show ["Delivered", "Rejected", "Retryable", "ProtocolFailure", "TransportFailure", "TimedOut"] =
      Postgres.outcomes.map outcomeText from rfl, outcomes]
    cases r.outcome <;> rfl
  have decisionCheck : attemptDecisionCheck.eval (deliveryAttemptsRow r) = some true := by
    rw [attemptDecisionCheck, show ["Terminal", "RetryScheduled", "Exhausted"] = Postgres.decisions.map decisionText from rfl,
      decisions]
    cases r.decision <;> rfl
  have delayCheck : attemptRetryDelayCheck.eval (deliveryAttemptsRow r) =
      (((Sql.eq (some r.decision) (some .retryScheduled)).and (isNotNull r.retryDelayMs)).and (le (some 0) r.retryDelayMs)).or
        ((Sql.ne (some r.decision) (some .retryScheduled)).and (isNull r.retryDelayMs)) := by
    simp only [attemptRetryDelayCheck, Condition.eval_or, Condition.eval_and, Condition.eval_le, Operand.value_literal,
      show "RetryScheduled" = decisionText .retryScheduled from rfl, eval_eq decisionText_injective decision,
      eval_ne decisionText_injective decision, eval_isNull delay, eval_isNotNull delay, value_column delay]
  have statusCheck : attemptStatusCheck.eval (deliveryAttemptsRow r) =
      ((isIn (some r.outcome) [.delivered, .rejected, .retryable, .protocolFailure]).and (isNotNull r.status)).or
        ((isIn (some r.outcome) [.transportFailure, .timedOut]).and (isNull r.status)) := by
    simp only [attemptStatusCheck, Condition.eval_or, Condition.eval_and,
      show ["Delivered", "Rejected", "Retryable", "ProtocolFailure"] =
        [AttemptOutcome.delivered, .rejected, .retryable, .protocolFailure].map outcomeText from rfl,
      show ["TransportFailure", "TimedOut"] = [AttemptOutcome.transportFailure, .timedOut].map outcomeText from rfl,
      outcomes, eval_isNull status, eval_isNotNull status]
  have outcomeDecisionCheck : attemptOutcomeDecisionCheck.eval (deliveryAttemptsRow r) =
      ((Sql.eq (some r.decision) (some .terminal)).and (isIn (some r.outcome) [.delivered, .rejected, .protocolFailure])).or
        ((isIn (some r.decision) [.retryScheduled, .exhausted]).and
          (isIn (some r.outcome) [.retryable, .transportFailure, .timedOut])) := by
    simp only [attemptOutcomeDecisionCheck, Condition.eval_or, Condition.eval_and,
      show "Terminal" = decisionText .terminal from rfl, eval_eq decisionText_injective decision,
      show ["Delivered", "Rejected", "ProtocolFailure"] =
        [AttemptOutcome.delivered, .rejected, .protocolFailure].map outcomeText from rfl,
      show ["RetryScheduled", "Exhausted"] = [AttemptDecision.retryScheduled, .exhausted].map decisionText from rfl,
      show ["Retryable", "TransportFailure", "TimedOut"] =
        [AttemptOutcome.retryable, .transportFailure, .timedOut].map outcomeText from rfl, outcomes, decisions]
  have traceCheck : attemptTraceCheck.eval (deliveryAttemptsRow r) = ((isNull r.traceId).and (isNull r.spanId)).or
      ((((test (fun t => isHex 32 t.text) r.traceId).and (test (fun t => !t.text.toList.all (· = '0')) r.traceId)).and
        (test (fun t => isHex 16 t.text) r.spanId)).and (test (fun t => !t.text.toList.all (· = '0')) r.spanId)) := by
    simp only [attemptTraceCheck, Condition.eval_or, Condition.eval_and, eval_isNull trace, eval_isNull span, eval_like trace,
      eval_like span, eval_ne_zeros trace, eval_ne_zeros span]
  rw [violation_eq_none, constrains_iff named]
  simp only [deliveryAttempts5, deliveryAttemptsChecks, List.forall_mem_cons, List.not_mem_nil, IsEmpty.forall_iff, implies_true,
    Condition.eval_lt, Condition.eval_le, Operand.value_literal, value_some ordinal, value_some generation, value_some started,
    value_some completed, outcomeCheck, decisionCheck, delayCheck, statusCheck, outcomeDecisionCheck, traceCheck,
    Truth.admits_some, true_and]

theorem deliveryAttempts_keyed :
    KeyedBy deliveryAttempts5 "delivery_attempts_pkey" deliveryAttemptsRow DeliveryAttemptsRow.key := by
  refine ⟨[.deliveryId, .ordinal], List.mem_cons_self, fun r r' => ?_⟩
  have key : ∀ r : DeliveryAttemptsRow, keyOf [.deliveryId, .ordinal] (deliveryAttemptsRow r) =
      some [.text r.deliveryId.text, .int r.ordinal] := fun _ => rfl
  rw [key, key, DeliveryAttemptsRow.key, DeliveryAttemptsRow.key]
  simp only [Option.some.injEq, List.cons.injEq, Value.text.injEq, Value.int.injEq, and_true, Prod.mk.injEq]
  constructor
  · exact fun ⟨id, ordinal⟩ => ⟨slug_ext id, ordinal⟩
  · exact fun ⟨id, ordinal⟩ => ⟨congrArg Slug.text id, ordinal⟩

/-- **The tables of the model are the tables as they are written**: the constraints that the migrations write for a table, clause
by clause, admit the rows that those of the model admit, and the primary keys are those of the model. -/
theorem written_tables : ∃ events deliveries attempts, writtenTable .relayEvents = .ok (some events) ∧
    writtenTable .deliveries = .ok (some deliveries) ∧ writtenTable .deliveryAttempts = .ok (some attempts) ∧
    (∀ r, Constrains events (relayEventsRow r) ↔ violation relayEventsChecks r = none) ∧
    (∀ r, Constrains deliveries (deliveriesRow r) ↔ violation deliveriesChecks r = none) ∧
    (∀ r, Constrains attempts (deliveryAttemptsRow r) ↔ violation deliveryAttemptsChecks r = none) ∧
    KeyedBy events "relay_events_pkey" relayEventsRow RelayEventsRow.eventId ∧
    KeyedBy deliveries "deliveries_pkey" deliveriesRow DeliveriesRow.deliveryId ∧
    KeyedBy attempts "delivery_attempts_pkey" deliveryAttemptsRow DeliveryAttemptsRow.key :=
  ⟨relayEvents3, deliveries6, deliveryAttempts5, relayEvents_written, deliveries_written, deliveryAttempts_written,
    relayEvents_constrains, deliveries_constrains, deliveryAttempts_constrains, relayEvents_keyed, deliveries_keyed,
    deliveryAttempts_keyed⟩

end Postgres

end Relay
