import Relay.Domain.Model

/-!
# Responses and Retry-After (`src/model.ts`, `src/effectSender.ts`)

What a response says about an attempt. A Retry-After header gives seconds or a date;
either way it becomes a whole number of milliseconds, or nothing. `Date.parse` belongs
to the platform and is a parameter: a whole time value, or `none` for `NaN`.
-/

namespace Relay

structure DeliveryResponseEvidence where
  status : ℤ
  retryAfter : Option String
deriving DecidableEq

/-- `WhiteSpace` and `LineTerminator`, which `trim` takes off. -/
def isWhiteSpace (c : Char) : Bool :=
  c.toNat ∈ [0x09, 0x0a, 0x0b, 0x0c, 0x0d, 0x20, 0xa0, 0x1680, 0x2028, 0x2029, 0x202f, 0x205f, 0x3000, 0xfeff] ||
    (0x2000 ≤ c.toNat && c.toNat ≤ 0x200a)

/-- `value.trim()`. -/
def trim (value : String) : String :=
  String.ofList ((value.toList.dropWhile isWhiteSpace).reverse.dropWhile isWhiteSpace).reverse

/-- `/^\d+$/`. -/
def isDigits (text : String) : Bool := !text.toList.isEmpty && text.toList.all Char.isDigit

section Classify

variable (dateParse : String → Option ℤ)

def parseRetryAfterMillis (value : Option String) (nowMillis : ℕ) : Option ℕ :=
  match value with
  | none => none
  | some value =>
    let trimmed := trim value
    if isDigits trimmed then
      let seconds := Nat.ofDigitChars 10 trimmed.toList 0
      -- a numeral beyond the safe integers rounds to one that is not safe either
      if seconds ≤ maxSafeInteger ∧ (seconds : Number) ≤ maxSafeInteger / 1000 then some (seconds * 1000) else none
    else
      (dateParse trimmed).map fun timestamp => Int.toNat (max 0 (timestamp - nowMillis))

def classifyDeliveryResponse (destinationId : DestinationId) (response : DeliveryResponseEvidence) (nowMillis : ℕ) :
    DeliveryOutcome :=
  let status := response.status
  if 200 ≤ status ∧ status < 300 then
    .delivered destinationId status
  else if status = 408 ∨ status = 425 then
    .retryable destinationId status .ambiguousResponse none
  else if status = 429 then
    .retryable destinationId status .rateLimited (parseRetryAfterMillis dateParse response.retryAfter nowMillis)
  else if 500 ≤ status ∧ status < 600 then
    .retryable destinationId status .providerFailure none
  else if 300 ≤ status ∧ status < 500 then
    .rejected destinationId status
  else
    .protocolFailure destinationId status

/-- How `sendDelivery` ends under the attempt timeout. -/
inductive SendExit where
  | responded (response : DeliveryResponseEvidence) (nowMillis : ℕ)
  | transportError
  | timeout
deriving DecidableEq

/-- The outcome `observeDeliveryAttempt` makes of it. -/
def SendExit.outcome (destinationId : DestinationId) : SendExit → DeliveryOutcome
  | .responded response nowMillis => classifyDeliveryResponse dateParse destinationId response nowMillis
  | .transportError => .transportFailure destinationId
  | .timeout => .timedOut destinationId

/-- `Date.parse` gives a time value: no more than 8.64e15 milliseconds. -/
def ClipsTime : Prop := ∀ text timestamp, dateParse text = some timestamp → timestamp ≤ 8640000000000000

variable {dateParse}

/-- A Retry-After is a safe integer in milliseconds, given in seconds or by a date. -/
theorem parseRetryAfterMillis_safe (clips : ClipsTime dateParse) {value : Option String} {nowMillis millis : ℕ}
    (parsed : parseRetryAfterMillis dateParse value nowMillis = some millis) : millis ≤ maxSafeInteger := by
  unfold parseRetryAfterMillis at parsed
  split at parsed
  · cases parsed
  · simp only at parsed
    split at parsed
    · obtain ⟨⟨-, thousandth⟩, same⟩ := Option.ite_none_right_eq_some.1 parsed
      rw [Option.some.injEq] at same
      rw [le_div_iff₀ (by norm_num)] at thousandth
      rw [← same]
      exact_mod_cast thousandth
    · obtain ⟨timestamp, dated, same⟩ := Option.map_eq_some_iff.1 parsed
      have time := clips _ timestamp dated
      have bound : (8640000000000000 : ℕ) ≤ maxSafeInteger := by decide
      omega

end Classify

/-! ## Traces -/

/-- `/^(?!0{n}$)[0-9a-f]{n}$/` as a test. -/
def isTraceText (n : ℕ) (text : String) : Bool := isHex n text && !text.toList.all (· = '0')

/-- The trace a worker keeps with its attempts: both identifiers of the span, or neither. -/
def workerTrace (traceId spanId : String) : AttemptTraceCorrelation :=
  if wf : isTraceText 32 traceId = true ∧ isTraceText 16 spanId = true then
    ⟨some ⟨traceId, wf.1⟩, some ⟨spanId, wf.2⟩⟩
  else
    ⟨none, none⟩

theorem workerTrace_paired (traceId spanId : String) :
    (workerTrace traceId spanId).traceId.isNone = (workerTrace traceId spanId).spanId.isNone := by
  unfold workerTrace
  split
  · rfl
  · rfl

end Relay
