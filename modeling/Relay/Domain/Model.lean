import Mathlib.Data.PNat.Basic
import Mathlib.Data.Rat.Defs
import Mathlib.Tactic

/-!
# The domain model (`src/model.ts`)

Branded strings and checked numbers are types whose values carry the check, so a
value that fails its schema cannot be built. A JavaScript number that reaches a
check as an argument is a `Number`; the check turns it into the integer type or
fails. Clock readings and stored times are whole milliseconds.
-/

namespace Relay

/-- A finite JavaScript number, exactly. -/
abbrev Number := ℚ

/-! ## Identifiers -/

/-- `[a-z0-9]+(?:-[a-z0-9]+)*$` after the prefix; `closed` says the last
character read was alphanumeric. -/
def slugBody : Bool → List Char → Bool
  | closed, [] => closed
  | closed, '-' :: cs => closed && slugBody false cs
  | _, c :: cs => (c.isLower || c.isDigit) && slugBody true cs

/-- `^<tag>[a-z0-9]+(?:-[a-z0-9]+)*$`. -/
def isSlug (tag text : String) : Bool :=
  tag.toList.isPrefixOf text.toList && slugBody false (text.toList.drop tag.length)

/-- A branded identifier. -/
structure Slug (tag : String) where
  text : String
  wf : isSlug tag text = true
deriving DecidableEq

abbrev EventId := Slug "evt-"
abbrev DeliveryId := Slug "dlv-"
abbrev WorkerId := Slug "wrk-"
abbrev DestinationId := Slug "dst-"
abbrev InvoiceId := Slug "inv-"

/-- `^[A-Za-z0-9][A-Za-z0-9._:-]*$` with 1 to 128 characters. -/
def isIngestionKey (text : String) : Bool :=
  match text.toList with
  | [] => false
  | c :: cs => c.isAlphanum && cs.all (fun c => c.isAlphanum || c ∈ ['.', '_', ':', '-']) &&
      cs.length < 128

structure IngestionKey where
  text : String
  wf : isIngestionKey text = true
deriving DecidableEq

def isHexDigit (c : Char) : Bool := c.isDigit || c ∈ ['a', 'b', 'c', 'd', 'e', 'f']

/-- `^[0-9a-f]{n}$`. -/
def isHex (n : ℕ) (text : String) : Bool := text.toList.length = n && text.toList.all isHexDigit

structure RequestFingerprint where
  text : String
  wf : isHex 64 text = true
deriving DecidableEq

/-- `^(?!0{n}$)[0-9a-f]{n}$`. -/
structure TraceText (n : ℕ) where
  text : String
  wf : (isHex n text && !text.toList.all (· = '0')) = true
deriving DecidableEq

abbrev TraceId := TraceText 32
abbrev SpanId := TraceText 16

/-! ## Checked numbers -/

abbrev ClaimGeneration := ℕ+
abbrev ConfigurationVersion := ℕ+
abbrev AmountCents := ℕ+

/-- `Number.MAX_SAFE_INTEGER`. -/
def maxSafeInteger : ℕ := 2 ^ 53 - 1

/-- `Number.isSafeInteger`: the integers `Schema.Int` takes. -/
def isSafeInteger (n : ℤ) : Bool := -(maxSafeInteger : ℤ) ≤ n && n ≤ maxSafeInteger

@[simp] theorem isSafeInteger_natCast (n : ℕ) : isSafeInteger n = decide (n ≤ maxSafeInteger) := by
  rw [isSafeInteger, Bool.eq_iff_iff]
  simp only [Bool.and_eq_true, decide_eq_true_eq]
  omega

/-- `Schema.Int.check(isGreaterThanOrEqualTo(0))` on numbers of any size; who takes in a number also asks
`isSafeInteger`. -/
def wholeMillis (x : Number) : Option ℕ := if x.den = 1 ∧ 0 ≤ x.num then some x.num.toNat else none

/-- `Schema.Int.check(isGreaterThan(0))`, likewise. -/
def positiveInteger (x : Number) : Option ℕ+ :=
  if h : x.den = 1 ∧ 0 < x.num then some ⟨x.num.toNat, by omega⟩ else none

@[simp] theorem wholeMillis_natCast (n : ℕ) : wholeMillis (n : Number) = some n := by
  simp [wholeMillis]

theorem positiveInteger_eq_some {x : Number} {p : ℕ+} (h : positiveInteger x = some p) :
    x.den = 1 ∧ x.num = ((p : ℕ) : ℤ) := by
  unfold positiveInteger at h
  split at h
  · next hx =>
    cases h
    refine ⟨hx.1, ?_⟩
    rw [PNat.mk_coe]
    omega
  · cases h

@[simp] theorem positiveInteger_natCast (p : ℕ+) : positiveInteger ((p : ℕ) : Number) = some p := by
  have positive : (0 : ℤ) < ((p : ℕ) : ℤ) := by exact_mod_cast p.pos
  unfold positiveInteger
  rw [dif_pos ⟨Rat.den_natCast _, by rw [Rat.num_natCast]; exact positive⟩]
  rfl

theorem positiveInteger_value {x : Number} {p : ℕ+} (h : positiveInteger x = some p) : x = ((p : ℕ) : Number) := by
  obtain ⟨whole, num⟩ := positiveInteger_eq_some h
  rw [← (Rat.den_eq_one_iff x).1 whole, num]
  rfl

/-- A whole positive lease added to a whole clock reading is a whole instant. -/
theorem wholeMillis_add {n : ℕ} {x : Number} {p : ℕ+} (h : positiveInteger x = some p) :
    wholeMillis (n + x) = some (n + p) := by
  rw [positiveInteger_value h, ← Nat.cast_add, wholeMillis_natCast]

/-! ## Events, routes and deliveries -/

inductive Topic where
  | invoiceCreated
deriving DecidableEq

structure RelayEvent where
  id : EventId
  type : Topic
  invoiceId : InvoiceId
  amountCents : AmountCents
deriving DecidableEq

structure EventSubmission where
  topic : Topic
  invoiceId : InvoiceId
  amountCents : AmountCents
deriving DecidableEq

/-- A parsed URL; two URLs are equal when they serialise to the same text. -/
structure URL where
  href : String
deriving DecidableEq

structure Destination where
  id : DestinationId
  endpoint : URL
  authorization : String
deriving DecidableEq

structure DeliveryRouteSnapshot where
  destinationId : DestinationId
  endpoint : URL
  configurationVersion : ConfigurationVersion
deriving DecidableEq

inductive DeadLetterReason where
  | providerProtocolFailure
  | retryBudgetExhausted
deriving DecidableEq

/-- `Terminated` has the single reason `OperatorTerminated`. -/
inductive DeliveryState where
  | pending
  | delivered (status : ℤ)
  | rejected (status : ℤ)
  | deadLettered (reason : DeadLetterReason)
  | terminated
deriving DecidableEq

@[ext] structure Delivery where
  id : DeliveryId
  eventId : EventId
  destinationId : DestinationId
  state : DeliveryState
deriving DecidableEq

structure DeliveryClaim where
  ownerId : WorkerId
  generation : ClaimGeneration
  leaseExpiresAtMillis : ℕ
deriving DecidableEq

/-- `DeliveryClaim.make`, which throws on a lease that is not a whole nonnegative instant. -/
def DeliveryClaim.make (ownerId : WorkerId) (generation : ClaimGeneration) (leaseExpiresAt : Number) :
    Option DeliveryClaim :=
  (wholeMillis leaseExpiresAt).map fun expires => ⟨ownerId, generation, expires⟩

/-! ## Attempts -/

inductive RetryReason where
  | ambiguousResponse
  | rateLimited
  | providerFailure
deriving DecidableEq

inductive DeliveryOutcome where
  | delivered (destinationId : DestinationId) (status : ℤ)
  | rejected (destinationId : DestinationId) (status : ℤ)
  | retryable (destinationId : DestinationId) (status : ℤ) (reason : RetryReason)
      (retryAfterMillis : Option ℕ)
  | protocolFailure (destinationId : DestinationId) (status : ℤ)
  | transportFailure (destinationId : DestinationId)
  | timedOut (destinationId : DestinationId)
deriving DecidableEq

inductive DeliveryAttemptDecision where
  | terminal
  | retryScheduled (delayMillis : Number)
  | exhausted
deriving DecidableEq

structure DeliveryAttempt where
  ordinal : ℕ
  startedAtMillis : ℕ
  completedAtMillis : ℕ
  outcome : DeliveryOutcome
  decision : DeliveryAttemptDecision
deriving DecidableEq

inductive AttemptOutcome where
  | delivered
  | rejected
  | retryable
  | protocolFailure
  | transportFailure
  | timedOut
deriving DecidableEq

inductive AttemptDecision where
  | terminal
  | retryScheduled
  | exhausted
deriving DecidableEq

def DeliveryOutcome.tag : DeliveryOutcome → AttemptOutcome
  | .delivered .. => .delivered
  | .rejected .. => .rejected
  | .retryable .. => .retryable
  | .protocolFailure .. => .protocolFailure
  | .transportFailure .. => .transportFailure
  | .timedOut .. => .timedOut

def DeliveryAttemptDecision.tag : DeliveryAttemptDecision → AttemptDecision
  | .terminal => .terminal
  | .retryScheduled _ => .retryScheduled
  | .exhausted => .exhausted

/-- `"status" in outcome ? outcome.status : null`. -/
def DeliveryOutcome.status? : DeliveryOutcome → Option ℤ
  | .delivered _ status | .rejected _ status | .retryable _ status .. | .protocolFailure _ status =>
    some status
  | .transportFailure _ | .timedOut _ => none

def AttemptOutcome.carriesStatus (outcome : AttemptOutcome) : Bool :=
  outcome ∈ [.delivered, .rejected, .retryable, .protocolFailure]

def AttemptOutcome.retryable? (outcome : AttemptOutcome) : Bool :=
  outcome ∈ [.retryable, .transportFailure, .timedOut]

/-- The cross-field filter of `DeliveryAttemptRecord`. -/
def consistentAttempt (startedAtMillis completedAtMillis : ℕ) (outcome : AttemptOutcome)
    (decision : AttemptDecision) (status : Option ℤ) (retryDelayMillis : Option ℕ)
    (traceId : Option TraceId) (spanId : Option SpanId) : Bool :=
  completedAtMillis ≥ startedAtMillis &&
  traceId.isNone == spanId.isNone &&
  outcome.carriesStatus == status.isSome &&
  decide (decision = .retryScheduled) == retryDelayMillis.isSome &&
  (if decision = .terminal then !outcome.retryable? else outcome.retryable?)

structure DeliveryAttemptRecord where
  deliveryId : DeliveryId
  ordinal : ℕ+
  workerId : WorkerId
  claimGeneration : ClaimGeneration
  startedAtMillis : ℕ
  completedAtMillis : ℕ
  outcome : AttemptOutcome
  decision : AttemptDecision
  status : Option ℤ
  retryDelayMillis : Option ℕ
  traceId : Option TraceId
  spanId : Option SpanId
  consistent : consistentAttempt startedAtMillis completedAtMillis outcome decision status
    retryDelayMillis traceId spanId = true
deriving DecidableEq

structure DeliveryStatus where
  delivery : Delivery
  attempts : List DeliveryAttemptRecord
deriving DecidableEq

structure AttemptTraceCorrelation where
  traceId : Option TraceId
  spanId : Option SpanId
deriving DecidableEq

/-- `decision._tag === "RetryScheduled" ? decision.delayMillis : null`, through the integer
check of the record; the outer `none` is a failed check. -/
def DeliveryAttemptDecision.recordedDelay : DeliveryAttemptDecision → Option (Option ℕ)
  | .retryScheduled delayMillis => (wholeMillis delayMillis).map some
  | .terminal | .exhausted => some none

/-- The fields of the record that `Schema.Int` checks. -/
def DeliveryAttempt.integers (attempt : DeliveryAttempt) (claim : DeliveryClaim) (retryDelayMillis : Option ℕ) : List ℤ :=
  [(attempt.ordinal : ℤ), ((claim.generation : ℕ) : ℤ), attempt.startedAtMillis, attempt.completedAtMillis] ++
    attempt.outcome.status?.toList ++ (retryDelayMillis.map fun delay => (delay : ℤ)).toList

/-- `makeDeliveryAttemptRecord`; `none` where `DeliveryAttemptRecord.make` throws. -/
def makeDeliveryAttemptRecord (deliveryId : DeliveryId) (claim : DeliveryClaim)
    (attempt : DeliveryAttempt) (trace : AttemptTraceCorrelation) : Option DeliveryAttemptRecord :=
  match attempt.decision.recordedDelay with
  | none => none
  | some retryDelayMillis =>
    if h : 0 < attempt.ordinal ∧ consistentAttempt attempt.startedAtMillis attempt.completedAtMillis
        attempt.outcome.tag attempt.decision.tag attempt.outcome.status? retryDelayMillis
        trace.traceId trace.spanId = true ∧ (attempt.integers claim retryDelayMillis).all isSafeInteger = true then
      some
        { deliveryId
          ordinal := ⟨attempt.ordinal, h.1⟩
          workerId := claim.ownerId
          claimGeneration := claim.generation
          startedAtMillis := attempt.startedAtMillis
          completedAtMillis := attempt.completedAtMillis
          outcome := attempt.outcome.tag
          decision := attempt.decision.tag
          status := attempt.outcome.status?
          retryDelayMillis
          traceId := trace.traceId
          spanId := trace.spanId
          consistent := h.2.1 }
    else none

structure DeliveryResultFields where
  deliveryId : DeliveryId
  destinationId : DestinationId
  attempts : List DeliveryAttempt
deriving DecidableEq

inductive DeliveryResult where
  | delivered (fields : DeliveryResultFields) (status : ℤ)
  | rejected (fields : DeliveryResultFields) (status : ℤ)
  | protocolFailure (fields : DeliveryResultFields) (status : ℤ)
  | exhausted (fields : DeliveryResultFields) (lastOutcome : DeliveryOutcome)
deriving DecidableEq

/-! ## What the record filter gives -/

section Consistent

variable (a : DeliveryAttemptRecord)

theorem DeliveryAttemptRecord.time : a.startedAtMillis ≤ a.completedAtMillis := by
  have h := a.consistent
  simp only [consistentAttempt, Bool.and_eq_true, decide_eq_true_eq] at h
  exact h.1.1.1.1

theorem DeliveryAttemptRecord.trace : a.traceId.isNone = a.spanId.isNone := by
  have h := a.consistent
  simp only [consistentAttempt, Bool.and_eq_true, beq_iff_eq] at h
  exact h.1.1.1.2

theorem DeliveryAttemptRecord.status_iff : a.outcome.carriesStatus = a.status.isSome := by
  have h := a.consistent
  simp only [consistentAttempt, Bool.and_eq_true, beq_iff_eq] at h
  exact h.1.1.2

theorem DeliveryAttemptRecord.delay_iff :
    decide (a.decision = .retryScheduled) = a.retryDelayMillis.isSome := by
  have h := a.consistent
  simp only [consistentAttempt, Bool.and_eq_true, beq_iff_eq] at h
  exact h.1.2

theorem DeliveryAttemptRecord.decision_iff :
    (if a.decision = .terminal then !a.outcome.retryable? else a.outcome.retryable?) = true := by
  have h := a.consistent
  simp only [consistentAttempt, Bool.and_eq_true] at h
  exact h.2

end Consistent

/-- What a record made from an attempt says about the attempt and the claim. -/
theorem makeDeliveryAttemptRecord_eq_some {deliveryId : DeliveryId} {claim : DeliveryClaim}
    {attempt : DeliveryAttempt} {trace : AttemptTraceCorrelation} {record : DeliveryAttemptRecord}
    (h : makeDeliveryAttemptRecord deliveryId claim attempt trace = some record) :
    record.deliveryId = deliveryId ∧ (record.ordinal : ℕ) = attempt.ordinal ∧
      record.workerId = claim.ownerId ∧ record.claimGeneration = claim.generation ∧
      record.outcome = attempt.outcome.tag ∧ record.decision = attempt.decision.tag ∧
      record.status = attempt.outcome.status? := by
  unfold makeDeliveryAttemptRecord at h
  split at h
  · cases h
  · split at h
    · cases h; exact ⟨rfl, rfl, rfl, rfl, rfl, rfl, rfl⟩
    · cases h

end Relay
