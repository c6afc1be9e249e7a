import Relay.Domain.Model
import Mathlib.Data.Rat.Floor

/-!
# The retry engine (`src/deliveryEngine.ts`)

One run of `runDeliveryWithRetry` against what its surroundings do: how long each
attempt waits, how long its request takes and what it answers, and the random
number of each retry. Instants and durations are whole nanoseconds, the clock is
monotone, sleeps and timeouts are exact, and recording takes no time.
-/

namespace Relay

/-- Durations in nanoseconds; the configuration accepts positive finite ones. -/
structure DeliveryResilience where
  attemptTimeout : ℕ+
  maxAttempts : ℕ+
  maxElapsed : ℕ+
  baseDelay : ℕ+
  maxDelay : ℕ+

def nanosPerMilli : ℕ := 1000000

/-- `Clock.currentTimeMillis` at an instant. -/
def currentTimeMillis (now : ℕ) : ℕ := now / nanosPerMilli

/-- `Duration.toMillis`. -/
def toMillis (duration : ℕ) : Number := duration / nanosPerMilli

structure AttemptObservation where
  ordinal : ℕ
  startedAt : ℕ
  completedAt : ℕ
  outcome : DeliveryOutcome
deriving DecidableEq

def withDecision (attempt : AttemptObservation) (decision : DeliveryAttemptDecision) : DeliveryAttempt where
  ordinal := attempt.ordinal
  startedAtMillis := currentTimeMillis attempt.startedAt
  completedAtMillis := currentTimeMillis attempt.completedAt
  outcome := attempt.outcome
  decision

def isRetryable : DeliveryOutcome → Bool
  | .delivered .. | .rejected .. | .protocolFailure .. => false
  | .retryable .. | .transportFailure _ | .timedOut _ => true

def terminalResult (deliveryId : DeliveryId) (destinationId : DestinationId) (outcome : DeliveryOutcome)
    (attempts : List DeliveryAttempt) : DeliveryResult :=
  let fields : DeliveryResultFields := ⟨deliveryId, destinationId, attempts⟩
  match outcome with
  | .delivered _ status => .delivered fields status
  | .rejected _ status => .rejected fields status
  | .protocolFailure _ status => .protocolFailure fields status
  | .retryable .. | .transportFailure _ | .timedOut _ => .exhausted fields outcome

/-- What the surroundings do to one attempt. -/
structure Response where
  /-- Until the permits of the destination and of the process are held. -/
  wait : ℕ
  /-- Until the request has settled, when nothing stops it. -/
  settles : ℕ
  /-- The classified answer, or `TransportFailure`. -/
  outcome : DeliveryOutcome
  /-- `Random.next` of the retry that follows. -/
  fraction : ℚ
deriving DecidableEq

/-- One request under `Effect.timeout`. -/
def observeDeliveryAttempt (ordinal : ℕ) (destinationId : DestinationId) (attemptTimeout startedAt : ℕ)
    (send : Response) : AttemptObservation where
  ordinal
  startedAt
  completedAt := startedAt + min send.settles attemptTimeout
  outcome := if send.settles ≤ attemptTimeout then send.outcome else .timedOut destinationId

/-! ## The retry schedule -/

section Schedule

variable (resilience : DeliveryResilience)

/-- The smaller of `exponential(baseDelay)` and `spaced(maxDelay)`, after `retries` retries. -/
def cappedBackoff (retries : ℕ) : ℕ := min (resilience.baseDelay * 2 ^ retries) resilience.maxDelay

/-- A random part of a delay, in whole milliseconds. -/
def jittered (duration : ℕ) (fraction : ℚ) : ℕ := ⌊toMillis duration * fraction⌋₊ * nanosPerMilli

def retryAfter : DeliveryOutcome → ℕ
  | .retryable _ _ _ retryAfterMillis => retryAfterMillis.getD 0 * nanosPerMilli
  | _ => 0

/-- One step of `makeRetrySchedule`: the delay before the next attempt, or done. -/
def retryDelay (deadline now retries : ℕ) (fraction : ℚ) (outcome : DeliveryOutcome) : Option ℕ :=
  let duration := min (max (jittered (cappedBackoff resilience retries) fraction) (retryAfter outcome))
    (deadline - now)
  if retries < resilience.maxAttempts - 1 ∧ now + duration < deadline then some duration else none

end Schedule

/-! ## The loop -/

/-- An attempt as `onAttempt` receives it, with the instant its remaining window was computed. -/
structure EngineAttempt where
  askedAt : ℕ
  response : Response
  observed : AttemptObservation
  decision : DeliveryAttemptDecision
deriving DecidableEq

section Run

variable (deliveryId : DeliveryId) (destinationId : DestinationId) (resilience : DeliveryResilience)
  (executeAttempt : (ordinal now remaining : ℕ) → Response → AttemptObservation) (deadline : ℕ)

/-- The attempts made, in order, and the result, unless the last attempt has not settled. -/
def runAttempts (retries ordinal now : ℕ) (history : List DeliveryAttempt) :
    List Response → List EngineAttempt × Option DeliveryResult
  | [] => ([], none)
  | response :: responses =>
    let attempt := executeAttempt ordinal now (deadline - now) response
    let append decision := history ++ [withDecision attempt decision]
    if !isRetryable attempt.outcome then
      ([⟨now, response, attempt, .terminal⟩],
        some (terminalResult deliveryId destinationId attempt.outcome (append .terminal)))
    else
      match retryDelay resilience deadline attempt.completedAt retries response.fraction attempt.outcome with
      | none =>
        ([⟨now, response, attempt, .exhausted⟩],
          some (.exhausted ⟨deliveryId, destinationId, append .exhausted⟩ attempt.outcome))
      | some delay =>
        let decision : DeliveryAttemptDecision := .retryScheduled (toMillis delay)
        let rest := runAttempts (retries + 1) (ordinal + 1) (attempt.completedAt + delay) (append decision) responses
        (⟨now, response, attempt, decision⟩ :: rest.1, rest.2)

end Run

def runDeliveryWithRetry (deliveryId : DeliveryId) (destinationId : DestinationId) (resilience : DeliveryResilience)
    (executeAttempt : (ordinal now remaining : ℕ) → Response → AttemptObservation) (firstOrdinal startedAt : ℕ)
    (responses : List Response) : List EngineAttempt × Option DeliveryResult :=
  runAttempts deliveryId destinationId resilience executeAttempt (startedAt + resilience.maxElapsed) 0 firstOrdinal
    startedAt [] responses

end Relay
