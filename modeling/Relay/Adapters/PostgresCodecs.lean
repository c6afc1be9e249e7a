import Relay.Adapters.PostgresSchema
import Relay.Domain.Responses

/-!
# Column texts (`src/adapters/postgres/migrations.ts`, `deliveryRepository.ts`)

The rows of `delivery_attempts` and the state columns of `deliveries` as the database
holds them: identifiers, outcomes, states and traces are texts. The constraints as the
migrations leave them last say which rows are admitted, and `DeliveryAttemptRow` and
`DeliveryRow` which ones the program reads. A constraint that compares a null column is
neither true nor false, and admits the row.
-/

namespace Relay

namespace Postgres

open Sql

/-! ## Literals -/

/-- `Schema.Literals`: the member a text stands for. -/
def literal? {α : Type} (text : α → String) (members : List α) (s : String) : Option α := members.find? fun a => text a = s

theorem literal?_eq_some {α : Type} {text : α → String} {members : List α} {s : String} {a : α}
    (found : literal? text members s = some a) : s = text a := by
  have same := List.find?_some found
  exact (of_decide_eq_true same).symm

theorem literal?_isSome {α : Type} {text : α → String} {members : List α} {s : String} :
    (literal? text members s).isSome = decide (s ∈ members.map text) := by
  rw [Bool.eq_iff_iff, literal?, List.find?_isSome, decide_eq_true_eq, List.mem_map]
  constructor
  · rintro ⟨a, member, same⟩
    exact ⟨a, member, of_decide_eq_true same⟩
  · rintro ⟨a, member, same⟩
    exact ⟨a, member, decide_eq_true same⟩

def outcomeText : AttemptOutcome → String
  | .delivered => "Delivered"
  | .rejected => "Rejected"
  | .retryable => "Retryable"
  | .protocolFailure => "ProtocolFailure"
  | .transportFailure => "TransportFailure"
  | .timedOut => "TimedOut"

def decisionText : AttemptDecision → String
  | .terminal => "Terminal"
  | .retryScheduled => "RetryScheduled"
  | .exhausted => "Exhausted"

def stateText : DeliveryRowState → String
  | .pending => "Pending"
  | .delivered => "Delivered"
  | .rejected => "Rejected"
  | .deadLettered => "DeadLettered"
  | .terminated => "Terminated"

def reasonText : DeadLetterReason → String
  | .providerProtocolFailure => "ProviderProtocolFailure"
  | .retryBudgetExhausted => "RetryBudgetExhausted"

def outcomes : List AttemptOutcome :=
  [.delivered, .rejected, .retryable, .protocolFailure, .transportFailure, .timedOut]

def decisions : List AttemptDecision := [.terminal, .retryScheduled, .exhausted]

def states : List DeliveryRowState := [.pending, .delivered, .rejected, .deadLettered, .terminated]

def reasons : List DeadLetterReason := [.providerProtocolFailure, .retryBudgetExhausted]

/-! ## Codecs of the columns -/

def slug? (tag text : String) : Option (Slug tag) := if wf : isSlug tag text = true then some ⟨text, wf⟩ else none

def traceText? (n : ℕ) (text : String) : Option (TraceText n) := if wf : isTraceText n text = true then some ⟨text, wf⟩ else none

/-- `Schema.NullOr`; the outer `none` is a failed check. -/
def nullOr {α β : Type} (check : β → Option α) : Option β → Option (Option α)
  | none => some none
  | some value => (check value).map some

/-! ## `delivery_attempts` -/

structure AttemptColumns where
  deliveryId : String
  ordinal : ℤ
  claimOwner : String
  claimGeneration : ℤ
  startedAtMs : ℤ
  completedAtMs : ℤ
  outcome : String
  decision : String
  status : Option ℤ
  retryDelayMs : Option ℤ
  traceId : Option String
  spanId : Option String
deriving DecidableEq

/-- `repeat('0', n)`. -/
def zeros (n : ℕ) : String := String.ofList (List.replicate n '0')

def attemptColumnsTraceCheck : Check AttemptColumns :=
  ⟨"delivery_attempts_trace_check", fun r =>
    ((isNull r.traceId).and (isNull r.spanId)).or
      ((((test (isHex 32) r.traceId).and (ne r.traceId (some (zeros 32)))).and (test (isHex 16) r.spanId)).and
        (ne r.spanId (some (zeros 16))))⟩

/-- The constraints besides the one on the trace. -/
def attemptColumnsOtherChecks : List (Check AttemptColumns) := [
  ⟨"delivery_attempts_ordinal_check", fun r => lt (some 0) (some r.ordinal)⟩,
  ⟨"delivery_attempts_claim_generation_check", fun r => lt (some 0) (some r.claimGeneration)⟩,
  ⟨"delivery_attempts_started_at_ms_check", fun r => le (some 0) (some r.startedAtMs)⟩,
  ⟨"delivery_attempts_outcome_check", fun r =>
    isIn (some r.outcome)
      ["Delivered", "Rejected", "Retryable", "ProtocolFailure", "TransportFailure", "TimedOut"]⟩,
  ⟨"delivery_attempts_decision_check", fun r => isIn (some r.decision) ["Terminal", "RetryScheduled", "Exhausted"]⟩,
  ⟨"delivery_attempts_time_check", fun r => le (some r.startedAtMs) (some r.completedAtMs)⟩,
  ⟨"delivery_attempts_retry_delay_check", fun r =>
    (((eq (some r.decision) (some "RetryScheduled")).and (isNotNull r.retryDelayMs)).and (le (some 0) r.retryDelayMs)).or
      ((ne (some r.decision) (some "RetryScheduled")).and (isNull r.retryDelayMs))⟩,
  ⟨"delivery_attempts_status_check", fun r =>
    ((isIn (some r.outcome) ["Delivered", "Rejected", "Retryable", "ProtocolFailure"]).and (isNotNull r.status)).or
      ((isIn (some r.outcome) ["TransportFailure", "TimedOut"]).and (isNull r.status))⟩,
  ⟨"delivery_attempts_decision_check", fun r =>
    ((eq (some r.decision) (some "Terminal")).and (isIn (some r.outcome) ["Delivered", "Rejected", "ProtocolFailure"])).or
      ((isIn (some r.decision) ["RetryScheduled", "Exhausted"]).and
        (isIn (some r.outcome) ["Retryable", "TransportFailure", "TimedOut"]))⟩]

def attemptColumnsChecks : List (Check AttemptColumns) := attemptColumnsOtherChecks ++ [attemptColumnsTraceCheck]

namespace AttemptColumns

variable (r : AttemptColumns)

def integers : List ℤ :=
  [r.ordinal, r.claimGeneration, r.startedAtMs, r.completedAtMs] ++ r.status.toList ++ r.retryDelayMs.toList

/-- The texts match their patterns and the integers are safe. -/
structure Matches : Prop where
  deliveryId : isSlug "dlv-" r.deliveryId = true
  claimOwner : isSlug "wrk-" r.claimOwner = true
  traceId : ∀ text, r.traceId = some text → isTraceText 32 text = true
  spanId : ∀ text, r.spanId = some text → isTraceText 16 text = true
  integers : r.integers.all isSafeInteger = true

def Admitted : Prop := ∀ c ∈ attemptColumnsChecks, (c.condition r).admits = true

def AdmittedByOthers : Prop := ∀ c ∈ attemptColumnsOtherChecks, (c.condition r).admits = true

instance : Decidable r.Admitted := inferInstanceAs (Decidable (∀ c ∈ attemptColumnsChecks, _))

/-- `DeliveryAttemptRow` up to its integer checks, which `rowToAttempt` makes. -/
def decode : Option DeliveryAttemptsRow :=
  match slug? "dlv-" r.deliveryId, slug? "wrk-" r.claimOwner, literal? outcomeText outcomes r.outcome,
      literal? decisionText decisions r.decision, nullOr (traceText? 32) r.traceId, nullOr (traceText? 16) r.spanId with
  | some deliveryId, some claimOwner, some outcome, some decision, some traceId, some spanId =>
    if r.integers.all isSafeInteger then
      some
        { deliveryId
          ordinal := r.ordinal
          claimOwner
          claimGeneration := r.claimGeneration
          startedAtMs := r.startedAtMs
          completedAtMs := r.completedAtMs
          outcome
          decision
          status := r.status
          retryDelayMs := r.retryDelayMs
          traceId
          spanId }
    else none
  | _, _, _, _, _, _ => none

/-- The record the program reads. -/
def read : Option DeliveryAttemptRecord := r.decode.bind rowToAttempt

end AttemptColumns

/-! ## `deliveries` -/

structure DeliveryColumns where
  deliveryId : String
  eventId : String
  destinationId : String
  state : String
  status : Option ℤ
  deadLetterReason : Option String
deriving DecidableEq

def deliveryColumnsChecks : List (Check DeliveryColumns) := [
  ⟨"deliveries_state_check", fun r =>
    isIn (some r.state) ["Pending", "Delivered", "Rejected", "DeadLettered", "Terminated"]⟩,
  ⟨"deliveries_state_status_check", fun r =>
    ((((isIn (some r.state) ["Pending", "Terminated"]).and (isNull r.status)).and (isNull r.deadLetterReason)).or
      (((isIn (some r.state) ["Delivered", "Rejected"]).and (isNotNull r.status)).and (isNull r.deadLetterReason))).or
      (((eq (some r.state) (some "DeadLettered")).and (isNull r.status)).and
        (isIn r.deadLetterReason ["ProviderProtocolFailure", "RetryBudgetExhausted"]))⟩]

namespace DeliveryColumns

variable (r : DeliveryColumns)

structure Matches : Prop where
  deliveryId : isSlug "dlv-" r.deliveryId = true
  eventId : isSlug "evt-" r.eventId = true
  destinationId : isSlug "dst-" r.destinationId = true
  status : ∀ status, r.status = some status → isSafeInteger status = true

def Admitted : Prop := ∀ c ∈ deliveryColumnsChecks, (c.condition r).admits = true

instance : Decidable r.Admitted := inferInstanceAs (Decidable (∀ c ∈ deliveryColumnsChecks, _))

/-- `DeliveryRow`: a member of the union for each state. -/
def read : Option Delivery :=
  match slug? "dlv-" r.deliveryId, slug? "evt-" r.eventId, slug? "dst-" r.destinationId,
      literal? stateText states r.state, nullOr (literal? reasonText reasons) r.deadLetterReason with
  | some id, some eventId, some destinationId, some state, some reason =>
    if r.status.all isSafeInteger then
      (rowToState (state, r.status, reason)).map fun state => ⟨id, eventId, destinationId, state⟩
    else none
  | _, _, _, _, _ => none

end DeliveryColumns

/-! ## What both sides ask of an attempt -/

/-- What the constraints and the record filter both ask of a row whose texts are literals. -/
structure DeliveryAttemptsRow.Consistent (r : DeliveryAttemptsRow) : Prop where
  ordinal : 0 < r.ordinal
  claimGeneration : 0 < r.claimGeneration
  startedAtMs : 0 ≤ r.startedAtMs
  time : r.startedAtMs ≤ r.completedAtMs
  retryDelayMs : ∀ delay, r.retryDelayMs = some delay → 0 ≤ delay
  scheduled : decide (r.decision = .retryScheduled) = r.retryDelayMs.isSome
  status : r.outcome.carriesStatus = r.status.isSome
  decision : (if r.decision = .terminal then !r.outcome.retryable? else r.outcome.retryable?) = true

theorem statusCheck_admits (outcome : AttemptOutcome) (status : Option ℤ) :
    (((isIn (some (outcomeText outcome)) ["Delivered", "Rejected", "Retryable", "ProtocolFailure"]).and (isNotNull status)).or
      ((isIn (some (outcomeText outcome)) ["TransportFailure", "TimedOut"]).and (isNull status))).admits = true ↔
        outcome.carriesStatus = status.isSome := by
  cases outcome <;> cases status <;> simp [outcomeText, AttemptOutcome.carriesStatus]

theorem decisionCheck_admits (decision : AttemptDecision) (outcome : AttemptOutcome) :
    (((eq (some (decisionText decision)) (some "Terminal")).and
        (isIn (some (outcomeText outcome)) ["Delivered", "Rejected", "ProtocolFailure"])).or
      ((isIn (some (decisionText decision)) ["RetryScheduled", "Exhausted"]).and
        (isIn (some (outcomeText outcome)) ["Retryable", "TransportFailure", "TimedOut"]))).admits = true ↔
          (if decision = .terminal then !outcome.retryable? else outcome.retryable?) = true := by
  cases decision <;> cases outcome <;> decide

theorem retryDelayCheck_admits (decision : AttemptDecision) (delay : Option ℤ) :
    ((((eq (some (decisionText decision)) (some "RetryScheduled")).and (isNotNull delay)).and (le (some 0) delay)).or
      ((ne (some (decisionText decision)) (some "RetryScheduled")).and (isNull delay))).admits = true ↔
        (∀ ms, delay = some ms → 0 ≤ ms) ∧ decide (decision = .retryScheduled) = delay.isSome := by
  cases decision <;> cases delay <;> simp [decisionText]

theorem positiveColumn_eq_some {n : ℤ} {p : ℕ+} (decoded : positiveColumn n = some p) : n = (p : ℤ) := by
  unfold positiveColumn at decoded
  split at decoded
  · next positive =>
    cases decoded
    exact (Int.toNat_of_nonneg positive.le).symm
  · cases decoded

theorem wholeColumn_eq_some {n : ℤ} {m : ℕ} (decoded : wholeColumn n = some m) : n = (m : ℤ) := by
  unfold wholeColumn at decoded
  split at decoded
  · next whole =>
    cases decoded
    exact (Int.toNat_of_nonneg whole).symm
  · cases decoded

theorem wholeNullable_eq_some {n : Option ℤ} {m : Option ℕ} (decoded : wholeNullable n = some m) : n = m.map (↑) := by
  cases n with
  | none =>
    cases decoded
    rfl
  | some n =>
    obtain ⟨k, whole, rfl⟩ := Option.map_eq_some_iff.1 decoded
    rw [wholeColumn_eq_some whole]
    rfl

/-- A row that decodes is the row of its record. -/
theorem rowToAttempt_eq_some {r : DeliveryAttemptsRow} {attempt : DeliveryAttemptRecord}
    (decoded : rowToAttempt r = some attempt) : r = attemptToRow attempt := by
  unfold rowToAttempt at decoded
  split at decoded
  · next ordinal claimGeneration startedAtMillis completedAtMillis retryDelayMillis ord gen start finish delay =>
    split at decoded
    · cases decoded
      have same := wholeNullable_eq_some delay
      obtain ⟨deliveryId, ordinal', claimOwner, generation', started, completed, outcome, decision, status, delay', traceId, spanId⟩ := r
      simp only at ord gen start finish same
      subst same
      rw [attemptToRow, positiveColumn_eq_some ord, positiveColumn_eq_some gen, wholeColumn_eq_some start,
        wholeColumn_eq_some finish]
    · cases decoded
  · cases decoded

/-- The record of a row that is consistent and whose trace is whole or absent. -/
def DeliveryAttemptsRow.Consistent.record {r : DeliveryAttemptsRow} (consistent : r.Consistent)
    (paired : r.traceId.isNone = r.spanId.isNone) : DeliveryAttemptRecord where
  deliveryId := r.deliveryId
  ordinal := ⟨r.ordinal.toNat, by have positive := consistent.ordinal; omega⟩
  workerId := r.claimOwner
  claimGeneration := ⟨r.claimGeneration.toNat, by have positive := consistent.claimGeneration; omega⟩
  startedAtMillis := r.startedAtMs.toNat
  completedAtMillis := r.completedAtMs.toNat
  outcome := r.outcome
  decision := r.decision
  status := r.status
  retryDelayMillis := r.retryDelayMs.map Int.toNat
  traceId := r.traceId
  spanId := r.spanId
  consistent := by
    have time : r.startedAtMs.toNat ≤ r.completedAtMs.toNat := Int.toNat_le_toNat consistent.time
    simp only [consistentAttempt, Bool.and_eq_true, beq_iff_eq, decide_eq_true_eq, Option.isSome_map]
    exact ⟨⟨⟨⟨time, paired⟩, consistent.status⟩, consistent.scheduled⟩, consistent.decision⟩

theorem DeliveryAttemptsRow.Consistent.record_row {r : DeliveryAttemptsRow} (consistent : r.Consistent)
    (paired : r.traceId.isNone = r.spanId.isNone) : attemptToRow (consistent.record paired) = r := by
  obtain ⟨ordinal, claimGeneration, startedAtMs, time, retryDelayMs, -, -, -⟩ := consistent
  have completedAtMs := startedAtMs.trans time
  have delay : (r.retryDelayMs.map Int.toNat).map ((↑) : ℕ → ℤ) = r.retryDelayMs := by
    cases held : r.retryDelayMs with
    | none => rfl
    | some ms => simp [retryDelayMs ms held]
  unfold attemptToRow Consistent.record
  simp only [delay, PNat.mk_coe, Int.toNat_of_nonneg ordinal.le, Int.toNat_of_nonneg claimGeneration.le,
    Int.toNat_of_nonneg startedAtMs, Int.toNat_of_nonneg completedAtMs]

/-- The codec asks for that, and for a trace that is whole or absent. -/
theorem rowToAttempt_isSome (r : DeliveryAttemptsRow) :
    (rowToAttempt r).isSome = true ↔ r.Consistent ∧ r.traceId.isNone = r.spanId.isNone := by
  rw [Option.isSome_iff_exists]
  constructor
  · rintro ⟨attempt, decoded⟩
    rw [rowToAttempt_eq_some decoded]
    refine ⟨⟨?_, ?_, ?_, ?_, ?_, ?_, attempt.status_iff, attempt.decision_iff⟩, attempt.trace⟩
    · simp [attemptToRow]
    · simp [attemptToRow]
    · simp [attemptToRow]
    · simpa [attemptToRow] using attempt.time
    · intro ms held
      obtain ⟨n, -, rfl⟩ := Option.map_eq_some_iff.1 held
      exact Int.natCast_nonneg n
    · show decide (attempt.decision = .retryScheduled) = (attempt.retryDelayMillis.map _).isSome
      rw [Option.isSome_map]
      exact attempt.delay_iff
  · rintro ⟨consistent, paired⟩
    refine ⟨consistent.record paired, ?_⟩
    rw [← rowToAttempt_attemptToRow (consistent.record paired), consistent.record_row paired]

namespace AttemptColumns

variable {r : AttemptColumns}

/-- The typed row that the columns of a row spell. -/
structure Spells (r : AttemptColumns) (row : DeliveryAttemptsRow) : Prop where
  ordinal : row.ordinal = r.ordinal
  claimGeneration : row.claimGeneration = r.claimGeneration
  startedAtMs : row.startedAtMs = r.startedAtMs
  completedAtMs : row.completedAtMs = r.completedAtMs
  outcome : r.outcome = outcomeText row.outcome
  decision : r.decision = decisionText row.decision
  status : row.status = r.status
  retryDelayMs : row.retryDelayMs = r.retryDelayMs
  traceId : row.traceId.isNone = r.traceId.isNone
  spanId : row.spanId.isNone = r.spanId.isNone

theorem traceText?_isSome {n : ℕ} {text : String} (wf : isTraceText n text = true) :
    ∃ trace, traceText? n text = some trace := ⟨⟨text, wf⟩, dif_pos wf⟩

theorem nullOr_decodes {α β : Type} {check : β → Option α} {value : Option β}
    (each : ∀ b, value = some b → ∃ a, check b = some a) : ∃ decoded, nullOr check value = some decoded ∧ decoded.isNone = value.isNone := by
  cases value with
  | none => exact ⟨none, rfl, rfl⟩
  | some b =>
    obtain ⟨a, checked⟩ := each b rfl
    exact ⟨some a, by rw [nullOr, checked]; rfl, rfl⟩

/-- Columns whose outcome and decision are literals are decoded to the row they spell. -/
theorem Matches.decodes (matching : r.Matches) {outcome : AttemptOutcome} {decision : AttemptDecision}
    (hasOutcome : literal? outcomeText outcomes r.outcome = some outcome)
    (hasDecision : literal? decisionText decisions r.decision = some decision) :
    ∃ row, r.decode = some row ∧ r.Spells row := by
  obtain ⟨traceId, traceDecodes, traceNull⟩ := nullOr_decodes fun text held => traceText?_isSome (matching.traceId text held)
  obtain ⟨spanId, spanDecodes, spanNull⟩ := nullOr_decodes fun text held => traceText?_isSome (matching.spanId text held)
  have deliveryId : slug? "dlv-" r.deliveryId = some ⟨r.deliveryId, matching.deliveryId⟩ := dif_pos matching.deliveryId
  have claimOwner : slug? "wrk-" r.claimOwner = some ⟨r.claimOwner, matching.claimOwner⟩ := dif_pos matching.claimOwner
  let row : DeliveryAttemptsRow := ⟨⟨r.deliveryId, matching.deliveryId⟩, r.ordinal, ⟨r.claimOwner, matching.claimOwner⟩,
    r.claimGeneration, r.startedAtMs, r.completedAtMs, outcome, decision, r.status, r.retryDelayMs, traceId, spanId⟩
  refine ⟨row, ?_, ?_⟩
  · unfold decode
    rw [deliveryId, claimOwner, hasOutcome, hasDecision, traceDecodes, spanDecodes]
    exact if_pos matching.integers
  · exact ⟨rfl, rfl, rfl, rfl, literal?_eq_some hasOutcome, literal?_eq_some hasDecision, rfl, rfl, traceNull, spanNull⟩

/-- The constraints besides the one on the trace ask what the codec asks. -/
theorem Spells.admittedByOthers {row : DeliveryAttemptsRow} (spells : r.Spells row) : r.AdmittedByOthers ↔ row.Consistent := by
  have literalOutcome : (isIn (some r.outcome)
      ["Delivered", "Rejected", "Retryable", "ProtocolFailure", "TransportFailure", "TimedOut"]).admits = true := by
    rw [spells.outcome]
    cases row.outcome <;> decide
  have literalDecision : (isIn (some r.decision) ["Terminal", "RetryScheduled", "Exhausted"]).admits = true := by
    rw [spells.decision]
    cases row.decision <;> decide
  have delay := retryDelayCheck_admits row.decision r.retryDelayMs
  have status := statusCheck_admits row.outcome r.status
  have decision := decisionCheck_admits row.decision row.outcome
  rw [← spells.outcome] at status decision
  rw [← spells.decision] at delay decision
  simp only [AdmittedByOthers, attemptColumnsOtherChecks, List.forall_mem_cons, literalOutcome, literalDecision, delay,
    status, decision, lt_some_some, le_some_some, Truth.admits_some, decide_eq_true_eq, List.not_mem_nil]
  rw [← spells.ordinal, ← spells.claimGeneration, ← spells.startedAtMs, ← spells.completedAtMs, ← spells.status,
    ← spells.retryDelayMs]
  constructor
  · rintro ⟨ordinal, generation, started, -, -, time, ⟨nonneg, scheduled⟩, carries, decides, -⟩
    exact ⟨ordinal, generation, started, time, nonneg, scheduled, carries, decides⟩
  · rintro ⟨ordinal, generation, started, time, nonneg, scheduled, carries, decides⟩
    refine ⟨ordinal, generation, started, trivial, trivial, time, ⟨nonneg, scheduled⟩, carries, decides, ?_⟩
    rintro _ ⟨⟩

theorem isHex_zeros_ne {n : ℕ} {text : String} (wf : isTraceText n text = true) : isHex n text = true ∧ text ≠ zeros n := by
  rw [isTraceText, Bool.and_eq_true, Bool.not_eq_true'] at wf
  refine ⟨wf.1, ?_⟩
  rintro rfl
  have all : (zeros n).toList.all (· = '0') = true := by simp [zeros]
  rw [wf.2] at all
  cases all

/-- The tests on a text that matches its pattern, or is null. -/
theorem text_admits (n : ℕ) (text : Option String) (wf : ∀ t, text = some t → isTraceText n t = true) :
    (test (isHex n) text).admits = true ∧ (ne text (some (zeros n))).admits = true := by
  cases text with
  | none => exact ⟨rfl, rfl⟩
  | some t =>
    obtain ⟨hex, nonzero⟩ := isHex_zeros_ne (wf t rfl)
    simp [hex, nonzero]

/-- A trace that matches its patterns where it is not null never fails its constraint. -/
theorem Matches.trace_admits (matching : r.Matches) : (attemptColumnsTraceCheck.condition r).admits = true := by
  have trace := text_admits 32 r.traceId matching.traceId
  have span := text_admits 16 r.spanId matching.spanId
  simp only [attemptColumnsTraceCheck, Truth.admits_or, Truth.admits_and, trace.1, trace.2, span.1, span.2, Bool.and_self,
    Bool.or_true]

/-- A row the constraints admit has literals for its outcome and its decision. -/
theorem AdmittedByOthers.literals (others : r.AdmittedByOthers) :
    (∃ outcome, literal? outcomeText outcomes r.outcome = some outcome) ∧
      ∃ decision, literal? decisionText decisions r.decision = some decision := by
  simp only [AdmittedByOthers, attemptColumnsOtherChecks, List.forall_mem_cons] at others
  obtain ⟨-, -, -, outcome, decision, -⟩ := others
  rw [← Option.isSome_iff_exists, ← Option.isSome_iff_exists, literal?_isSome, literal?_isSome]
  rw [isIn_some, Truth.admits_some] at outcome decision
  exact ⟨outcome, decision⟩

/-- So has a row that decodes. -/
theorem decode_literals {row : DeliveryAttemptsRow} (decoded : r.decode = some row) :
    (∃ outcome, literal? outcomeText outcomes r.outcome = some outcome) ∧
      ∃ decision, literal? decisionText decisions r.decision = some decision := by
  unfold decode at decoded
  split at decoded
  · next outcome decision _ _ _ _ hasOutcome hasDecision _ _ => exact ⟨⟨outcome, hasOutcome⟩, decision, hasDecision⟩
  · cases decoded

theorem admitted_iff : r.Admitted ↔ r.AdmittedByOthers ∧ (attemptColumnsTraceCheck.condition r).admits = true := by
  simp only [Admitted, AdmittedByOthers, attemptColumnsChecks, List.forall_mem_append, List.forall_mem_singleton]

/-- The codec reads what the constraints besides the one on the trace admit, when the trace is whole or absent. -/
theorem Matches.read_isSome (matching : r.Matches) :
    r.read.isSome = true ↔ r.AdmittedByOthers ∧ r.traceId.isNone = r.spanId.isNone := by
  constructor
  · intro reads
    obtain ⟨attempt, read⟩ := Option.isSome_iff_exists.1 reads
    obtain ⟨row, decoded, recorded⟩ := Option.bind_eq_some_iff.1 read
    obtain ⟨⟨outcome, hasOutcome⟩, decision, hasDecision⟩ := decode_literals decoded
    obtain ⟨row', decoded', spells⟩ := matching.decodes hasOutcome hasDecision
    rw [decoded, Option.some.injEq] at decoded'
    subst decoded'
    obtain ⟨consistent, paired⟩ := (rowToAttempt_isSome row).1 (Option.isSome_iff_exists.2 ⟨attempt, recorded⟩)
    rw [spells.traceId, spells.spanId] at paired
    exact ⟨spells.admittedByOthers.2 consistent, paired⟩
  · rintro ⟨others, paired⟩
    obtain ⟨⟨outcome, hasOutcome⟩, decision, hasDecision⟩ := others.literals
    obtain ⟨row, decoded, spells⟩ := matching.decodes hasOutcome hasDecision
    rw [← spells.traceId, ← spells.spanId] at paired
    rw [read, decoded, Option.bind_some]
    exact (rowToAttempt_isSome row).2 ⟨spells.admittedByOthers.1 others, paired⟩

/-- **Attempt rows**: the constraints admit what the codec reads, but for a row they all pass on whose trace is half null. -/
theorem Matches.admitted_iff_read (matching : r.Matches) :
    (r.Admitted ↔ r.read.isSome = true) ↔ (r.traceId.isNone = r.spanId.isNone ∨ ¬ r.AdmittedByOthers) := by
  rw [admitted_iff, matching.read_isSome]
  have trace := matching.trace_admits
  tauto

end AttemptColumns

namespace DeliveryColumns

variable {r : DeliveryColumns}

/-- A dead letter without a reason. -/
def Unexplained (r : DeliveryColumns) : Prop := r.state = "DeadLettered" ∧ r.status = none ∧ r.deadLetterReason = none

/-- The state, the status and the reason are read as a state. -/
def Readable (state : DeliveryRowState) (status : Option ℤ) (reason : Option String) : Prop :=
  ∃ decoded, nullOr (literal? reasonText reasons) reason = some decoded ∧ (rowToState (state, status, decoded)).isSome = true

theorem stateStatusCheck_admits (state : DeliveryRowState) (status : Option ℤ) (reason : Option String) :
    (((((isIn (some (stateText state)) ["Pending", "Terminated"]).and (isNull status)).and (isNull reason)).or
      (((isIn (some (stateText state)) ["Delivered", "Rejected"]).and (isNotNull status)).and (isNull reason))).or
      (((eq (some (stateText state)) (some "DeadLettered")).and (isNull status)).and
        (isIn reason ["ProviderProtocolFailure", "RetryBudgetExhausted"]))).admits = true ↔
      Readable state status reason ∨ (state = .deadLettered ∧ status = none ∧ reason = none) := by
  unfold Readable
  cases reason with
  | none => cases state <;> cases status <;> simp [stateText, nullOr, rowToState, isIn]
  | some text =>
    have listed := @literal?_isSome _ reasonText reasons text
    rw [show reasons.map reasonText = ["ProviderProtocolFailure", "RetryBudgetExhausted"] from rfl] at listed
    cases found : literal? reasonText reasons text with
    | none =>
      rw [found] at listed
      have unlisted : ¬ text = "ProviderProtocolFailure" ∧ ¬ text = "RetryBudgetExhausted" := by simpa using listed
      cases state <;> cases status <;> simp [stateText, nullOr, found, unlisted]
    | some reason =>
      rw [found] at listed
      have member : text = "ProviderProtocolFailure" ∨ text = "RetryBudgetExhausted" := by simpa using listed.symm
      cases state <;> cases status <;> simp [stateText, nullOr, found, rowToState, member]

theorem stateCheck_admits (state : String) : (isIn (some state)
    ["Pending", "Delivered", "Rejected", "DeadLettered", "Terminated"]).admits = (literal? stateText states state).isSome := by
  rw [literal?_isSome, isIn_some, Truth.admits_some]
  rfl

theorem admitted_iff : r.Admitted ↔ ∃ state, literal? stateText states r.state = some state ∧
    (Readable state r.status r.deadLetterReason ∨ r.Unexplained) := by
  simp only [Admitted, deliveryColumnsChecks, List.forall_mem_cons, stateCheck_admits]
  constructor
  · rintro ⟨known, admits, -⟩
    obtain ⟨state, found⟩ := Option.isSome_iff_exists.1 known
    refine ⟨state, found, ?_⟩
    rw [literal?_eq_some found, stateStatusCheck_admits] at admits
    obtain readable | ⟨rfl, status, reason⟩ := admits
    · exact .inl readable
    · exact .inr ⟨literal?_eq_some found, status, reason⟩
  · rintro ⟨state, found, reads⟩
    refine ⟨Option.isSome_iff_exists.2 ⟨state, found⟩, ?_, by rintro _ ⟨⟩⟩
    rw [literal?_eq_some found, stateStatusCheck_admits]
    obtain readable | ⟨dead, status, reason⟩ := reads
    · exact .inl readable
    · rw [dead] at found
      cases found
      exact .inr ⟨rfl, status, reason⟩

theorem Matches.read_isSome (matching : r.Matches) : r.read.isSome = true ↔
    ∃ state, literal? stateText states r.state = some state ∧ Readable state r.status r.deadLetterReason := by
  have id : slug? "dlv-" r.deliveryId = some ⟨r.deliveryId, matching.deliveryId⟩ := dif_pos matching.deliveryId
  have eventId : slug? "evt-" r.eventId = some ⟨r.eventId, matching.eventId⟩ := dif_pos matching.eventId
  have destinationId : slug? "dst-" r.destinationId = some ⟨r.destinationId, matching.destinationId⟩ :=
    dif_pos matching.destinationId
  have safe : r.status.all isSafeInteger = true := by
    cases held : r.status with
    | none => rfl
    | some status => exact matching.status status held
  unfold read Readable
  rw [id, eventId, destinationId]
  cases literal? stateText states r.state with
  | none => simp
  | some state =>
    cases nullOr (literal? reasonText reasons) r.deadLetterReason with
    | none => simp
    | some reason => simp [safe]

/-- **Delivery rows**: the constraints admit what the codec reads, and dead letters without a reason. -/
theorem Matches.admitted_iff_read (matching : r.Matches) : (r.Admitted ↔ r.read.isSome = true) ↔ ¬ r.Unexplained := by
  rw [admitted_iff, matching.read_isSome]
  constructor
  · rintro same ⟨dead, status, reason⟩
    have dead' : literal? stateText states r.state = some .deadLettered := by
      rw [dead]
      rfl
    obtain ⟨state, found, decoded, decodes, reads⟩ := same.1 ⟨.deadLettered, dead', .inr ⟨dead, status, reason⟩⟩
    rw [dead', Option.some.injEq] at found
    subst found
    rw [reason] at decodes
    cases decodes
    rw [status] at reads
    cases reads
  · intro explained
    constructor
    · rintro ⟨state, found, readable | unexplained⟩
      · exact ⟨state, found, readable⟩
      · exact absurd unexplained explained
    · rintro ⟨state, found, readable⟩
      exact ⟨state, found, .inl readable⟩

end DeliveryColumns

theorem slug?_text {tag : String} (slug : Slug tag) : slug? tag slug.text = some slug := dif_pos slug.wf

/-! ## The constraints and the codecs -/

/-- **The constraints and the codecs accept the same rows**, exactly but for attempts whose trace is half null and dead
letters without a reason: a comparison with null is unknown, and admits them. -/
theorem constraints_match_codecs {attempt : AttemptColumns} (matching : attempt.Matches) {delivery : DeliveryColumns}
    (matching' : delivery.Matches) :
    ((attempt.Admitted ↔ attempt.read.isSome = true) ↔
      (attempt.traceId.isNone = attempt.spanId.isNone ∨ ¬ attempt.AdmittedByOthers)) ∧
    ((delivery.Admitted ↔ delivery.read.isSome = true) ↔ ¬ delivery.Unexplained) :=
  ⟨matching.admitted_iff_read, matching'.admitted_iff_read⟩

namespace Sample

def attemptColumns (spanId : Option String) : AttemptColumns where
  deliveryId := "dlv-1"
  ordinal := 1
  claimOwner := "wrk-1"
  claimGeneration := 1
  startedAtMs := 10
  completedAtMs := 20
  outcome := "Delivered"
  decision := "Terminal"
  status := some 200
  retryDelayMs := none
  traceId := none
  spanId

def deliveryColumns (state : String) : DeliveryColumns := ⟨"dlv-1", "evt-1", "dst-1", state, none, none⟩

def span : String := "00f067aa0ba902b7"

theorem attemptColumns_matches (spanId : Option String) (wf : ∀ text, spanId = some text → isTraceText 16 text = true) :
    (attemptColumns spanId).Matches := by
  have deliveryId : isSlug "dlv-" "dlv-1" = true := by decide
  have claimOwner : isSlug "wrk-" "wrk-1" = true := by decide
  have safe : [1, 1, 10, 20, 200].all isSafeInteger = true := by decide
  exact ⟨deliveryId, claimOwner, nofun, wf, safe⟩

theorem deliveryColumns_matches (state : String) : (deliveryColumns state).Matches := by
  have deliveryId : isSlug "dlv-" "dlv-1" = true := by decide
  have eventId : isSlug "evt-" "evt-1" = true := by decide
  have destinationId : isSlug "dst-" "dst-1" = true := by decide
  exact ⟨deliveryId, eventId, destinationId, nofun⟩

end Sample

/-- An attempt without a trace and a pending delivery. -/
theorem constraints_match_codecs_untraced :
    ((Sample.attemptColumns none).Admitted ↔ (Sample.attemptColumns none).read.isSome = true) ∧
      ((Sample.deliveryColumns "Pending").Admitted ↔ (Sample.deliveryColumns "Pending").read.isSome = true) := by
  obtain ⟨attempts, deliveries⟩ := constraints_match_codecs (Sample.attemptColumns_matches none nofun)
    (Sample.deliveryColumns_matches "Pending")
  have explained : ¬ (Sample.deliveryColumns "Pending").Unexplained := by
    rintro ⟨state, -⟩
    revert state
    decide
  exact ⟨attempts.2 (.inl rfl), deliveries.2 explained⟩

/-- A span without a trace, and a dead letter without a reason. -/
theorem constraints_admit_unread :
    (¬ ∀ r : AttemptColumns, r.Matches → (r.Admitted ↔ r.read.isSome = true)) ∧
      ¬ ∀ r : DeliveryColumns, r.Matches → (r.Admitted ↔ r.read.isSome = true) := by
  constructor
  · intro claim
    have same := claim (Sample.attemptColumns (some Sample.span)) (Sample.attemptColumns_matches _ (by rintro text ⟨⟩; decide))
    revert same
    decide +kernel
  · intro claim
    have same := claim (Sample.deliveryColumns "DeadLettered") (Sample.deliveryColumns_matches _)
    revert same
    decide +kernel

end Postgres

end Relay
