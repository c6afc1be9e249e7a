import Relay.Delivery.Engine

/-!
# Runs of the retry engine (`src/deliveryEngine.ts`)

`runDeliveryWithRetry` once more, with every effect on its own: the schedule reads the
clock twice, `onAttempt` takes its time and may fail, and a log keeps what happens in
order. The loop runs on fuel. A story tells a run round by round; each run has one, and
`maxAttempts` rounds of fuel are enough to tell it.
-/

namespace Relay

/-- What the surroundings do in one round of the loop; instants are in nanoseconds. -/
structure Turn (E : Type*) where
  /-- `attemptStartedAtNanos`. -/
  askedAt : ℕ
  startedAt : ℕ
  completedAt : ℕ
  outcome : DeliveryOutcome
  /-- `Random.next`. -/
  fraction : ℚ
  /-- The clock when the delay is cut to the window. -/
  clampedAt : ℕ
  /-- The clock of the last test of the schedule. -/
  decidedAt : ℕ
  /-- What `onAttempt` returns. -/
  recorded : Except E Unit

/-- `observeDeliveryAttempt` returns the ordinal it was given. -/
def Turn.observe {E : Type*} (turn : Turn E) (ordinal : ℕ) : AttemptObservation where
  ordinal
  startedAt := turn.startedAt
  completedAt := turn.completedAt
  outcome := turn.outcome

inductive EngineEvent where
  | executed (ordinal remaining : ℕ)
  | recorded (attempt : DeliveryAttempt)
  | slept (delay : ℕ)
deriving DecidableEq

/-- `nextOrdinal` and `history`, and the number of steps the schedule has taken. -/
structure EngineLoop where
  ordinal : ℕ
  retries : ℕ
  history : List DeliveryAttempt

namespace RetryEngine

/-- One step of `makeRetrySchedule`: jitter, Retry-After, the clamp, the count, and a second look at the clock. -/
def scheduleStep {E : Type*} (resilience : DeliveryResilience) (deadline retries : ℕ) (turn : Turn E) : Option ℕ :=
  let duration := min (max (jittered (cappedBackoff resilience retries) turn.fraction) (retryAfter turn.outcome))
    (deadline - turn.clampedAt)
  if retries < resilience.maxAttempts - 1 ∧ turn.decidedAt + duration < deadline then some duration else none

section Run

variable {E : Type*} (deliveryId : DeliveryId) (destinationId : DestinationId) (resilience : DeliveryResilience)
  (deadline : ℕ) (turns : ℕ → Turn E)

def run : (fuel : ℕ) → EngineLoop → List EngineEvent × Option (Except E DeliveryResult)
  | 0, _ => ([], none)
  | fuel + 1, loop =>
    let turn := turns loop.retries
    let attempt := turn.observe loop.ordinal
    let executed : EngineEvent := .executed loop.ordinal (deadline - turn.askedAt)
    if !isRetryable attempt.outcome then
      let terminal := withDecision attempt .terminal
      ([executed, .recorded terminal], some <| turn.recorded.map fun _ =>
        terminalResult deliveryId destinationId attempt.outcome (loop.history ++ [terminal]))
    else
      match scheduleStep resilience deadline loop.retries turn with
      | none =>
        let exhausted := withDecision attempt .exhausted
        ([executed, .recorded exhausted], some <| turn.recorded.map fun _ =>
          .exhausted ⟨deliveryId, destinationId, loop.history ++ [exhausted]⟩ attempt.outcome)
      | some delay =>
        let scheduled := withDecision attempt (.retryScheduled (toMillis delay))
        match turn.recorded with
        | .error failure => ([executed, .recorded scheduled], some (.error failure))
        | .ok () =>
          let rest := run fuel ⟨loop.ordinal + 1, loop.retries + 1, loop.history ++ [scheduled]⟩
          (executed :: .recorded scheduled :: .slept delay :: rest.1, rest.2)

end Run

def runDeliveryWithRetry {E : Type*} (deliveryId : DeliveryId) (destinationId : DestinationId)
    (resilience : DeliveryResilience) (firstOrdinal startedAt : ℕ) (turns : ℕ → Turn E) (fuel : ℕ) :
    List EngineEvent × Option (Except E DeliveryResult) :=
  run deliveryId destinationId resilience (startedAt + resilience.maxElapsed) turns fuel ⟨firstOrdinal, 0, []⟩

/-! ## Stories -/

/-- One attempt: executed, recorded, and slept after. -/
structure Round where
  ordinal : ℕ
  remaining : ℕ
  attempt : DeliveryAttempt
  delay : Option ℕ
deriving DecidableEq

def Round.events (round : Round) : List EngineEvent :=
  .executed round.ordinal round.remaining :: .recorded round.attempt :: (round.delay.map .slept).toList

section Story

variable {E : Type*} (deliveryId : DeliveryId) (destinationId : DestinationId) (resilience : DeliveryResilience)
  (deadline : ℕ) (turns : ℕ → Turn E)

def round (loop : EngineLoop) (decision : DeliveryAttemptDecision) (delay : Option ℕ) : Round where
  ordinal := loop.ordinal
  remaining := deadline - (turns loop.retries).askedAt
  attempt := withDecision ((turns loop.retries).observe loop.ordinal) decision
  delay

/-- The rounds of a run and what comes of it. -/
inductive Story : EngineLoop → List Round → Except E DeliveryResult → Prop where
  | terminal (loop : EngineLoop) : isRetryable (turns loop.retries).outcome = false →
    Story loop [round deadline turns loop .terminal none]
      ((turns loop.retries).recorded.map fun _ => terminalResult deliveryId destinationId (turns loop.retries).outcome
        (loop.history ++ [(round deadline turns loop .terminal none).attempt]))
  | exhausted (loop : EngineLoop) : isRetryable (turns loop.retries).outcome = true →
    scheduleStep resilience deadline loop.retries (turns loop.retries) = none →
    Story loop [round deadline turns loop .exhausted none]
      ((turns loop.retries).recorded.map fun _ => .exhausted
        ⟨deliveryId, destinationId, loop.history ++ [(round deadline turns loop .exhausted none).attempt]⟩
        (turns loop.retries).outcome)
  | failed (loop : EngineLoop) {delay : ℕ} {failure : E} : isRetryable (turns loop.retries).outcome = true →
    scheduleStep resilience deadline loop.retries (turns loop.retries) = some delay →
    (turns loop.retries).recorded = .error failure →
    Story loop [round deadline turns loop (.retryScheduled (toMillis delay)) none] (.error failure)
  | retried (loop : EngineLoop) {delay : ℕ} {rounds : List Round} {exit : Except E DeliveryResult} :
    isRetryable (turns loop.retries).outcome = true →
    scheduleStep resilience deadline loop.retries (turns loop.retries) = some delay →
    (turns loop.retries).recorded = .ok () →
    Story ⟨loop.ordinal + 1, loop.retries + 1,
      loop.history ++ [(round deadline turns loop (.retryScheduled (toMillis delay)) (some delay)).attempt]⟩ rounds exit →
    Story loop (round deadline turns loop (.retryScheduled (toMillis delay)) (some delay) :: rounds) exit

end Story

section Stories

variable {E : Type*} {deliveryId : DeliveryId} {destinationId : DestinationId} {resilience : DeliveryResilience}
  {deadline : ℕ} {turns : ℕ → Turn E} {loop : EngineLoop} {rounds : List Round} {exit : Except E DeliveryResult}

theorem scheduleStep_eq_some {retries delay : ℕ} {turn : Turn E}
    (step : scheduleStep resilience deadline retries turn = some delay) :
    retries < resilience.maxAttempts - 1 ∧ turn.decidedAt + delay < deadline ∧
      delay = min (max (jittered (cappedBackoff resilience retries) turn.fraction) (retryAfter turn.outcome))
        (deadline - turn.clampedAt) := by
  obtain ⟨⟨count, before⟩, same⟩ := Option.ite_none_right_eq_some.1 step
  rw [Option.some.injEq] at same
  subst same
  exact ⟨count, before, rfl⟩

/-- The count ends every story. -/
theorem exists_story (deliveryId : DeliveryId) (destinationId : DestinationId) (resilience : DeliveryResilience)
    (deadline : ℕ) (turns : ℕ → Turn E) (left : ℕ) : ∀ loop : EngineLoop, loop.retries < resilience.maxAttempts →
      resilience.maxAttempts ≤ loop.retries + left → ∃ rounds exit,
        Story deliveryId destinationId resilience deadline turns loop rounds exit ∧
          loop.retries + rounds.length ≤ resilience.maxAttempts := by
  induction left with
  | zero =>
    intro loop within enough
    omega
  | succ left ih =>
    intro loop within enough
    cases retryable : isRetryable (turns loop.retries).outcome with
    | false => exact ⟨_, _, .terminal loop retryable, within⟩
    | true =>
      cases step : scheduleStep resilience deadline loop.retries (turns loop.retries) with
      | none => exact ⟨_, _, .exhausted loop retryable step, within⟩
      | some delay =>
        cases recorded : (turns loop.retries).recorded with
        | error failure => exact ⟨_, _, .failed loop retryable step recorded, within⟩
        | ok =>
          have count := (scheduleStep_eq_some step).1
          obtain ⟨rounds, exit, story, bounded⟩ := ih ⟨loop.ordinal + 1, loop.retries + 1, loop.history ++
            [(round deadline turns loop (.retryScheduled (toMillis delay)) (some delay)).attempt]⟩
            (by simp only; omega) (by simp only; omega)
          refine ⟨_, exit, .retried loop retryable step recorded story, ?_⟩
          simp only [List.length_cons] at bounded ⊢
          omega

/-- A story is what the loop does, with fuel for as many rounds. -/
theorem Story.run_eq (story : Story deliveryId destinationId resilience deadline turns loop rounds exit) :
    ∀ fuel, rounds.length ≤ fuel →
      run deliveryId destinationId resilience deadline turns fuel loop = (rounds.flatMap Round.events, some exit) := by
  induction story with
  | terminal loop retryable =>
    intro fuel enough
    obtain ⟨fuel, rfl⟩ := Nat.exists_eq_add_of_le' enough
    simp [run, round, Round.events, Turn.observe, retryable]
  | exhausted loop retryable step =>
    intro fuel enough
    obtain ⟨fuel, rfl⟩ := Nat.exists_eq_add_of_le' enough
    simp [run, round, Round.events, Turn.observe, retryable, step]
  | failed loop retryable step recorded =>
    intro fuel enough
    obtain ⟨fuel, rfl⟩ := Nat.exists_eq_add_of_le' enough
    simp [run, round, Round.events, Turn.observe, retryable, step, recorded]
  | retried loop retryable step recorded _ ih =>
    intro fuel enough
    obtain ⟨fuel, rfl⟩ := Nat.exists_eq_add_of_le' (Nat.le_trans (Nat.le_add_left 1 _) enough)
    have rest := ih fuel (by simpa using enough)
    simp only [round] at rest
    simp [run, round, Round.events, Turn.observe, retryable, step, recorded] at rest ⊢
    simp [rest]

/-! ### The run against idle surroundings -/

/-- A round of `Delivery.Engine`: both looks at the clock see the end of the attempt, and `onAttempt` succeeds. -/
def turnOf (attempt : EngineAttempt) : Turn E where
  askedAt := attempt.askedAt
  startedAt := attempt.observed.startedAt
  completedAt := attempt.observed.completedAt
  outcome := attempt.observed.outcome
  fraction := attempt.response.fraction
  clampedAt := attempt.observed.completedAt
  decidedAt := attempt.observed.completedAt
  recorded := .ok ()

theorem round_turnOf {attempt : EngineAttempt} (turn : turns loop.retries = turnOf attempt)
    (echo : attempt.observed.ordinal = loop.ordinal) (decision : DeliveryAttemptDecision) (delay : Option ℕ) :
    (round deadline turns loop decision delay).attempt = withDecision attempt.observed decision := by
  simp only [round, turn, Turn.observe, turnOf, withDecision, echo]

/-- **A finished run of `Delivery.Engine` is one of these**, with the same attempts and the same result. -/
theorem story_of_runAttempts {execute : (ordinal now remaining : ℕ) → Response → AttemptObservation}
    (echoes : ∀ ordinal now remaining response, (execute ordinal now remaining response).ordinal = ordinal)
    {result : DeliveryResult} (responses : List Response) :
    ∀ {loop : EngineLoop} {now : ℕ} {attempts : List EngineAttempt},
      runAttempts deliveryId destinationId resilience execute deadline loop.retries loop.ordinal now loop.history
        responses = (attempts, some result) →
      (∀ k attempt, attempts[k]? = some attempt → turns (loop.retries + k) = turnOf attempt) →
      ∃ rounds, Story deliveryId destinationId resilience deadline turns loop rounds (.ok result) ∧
        rounds.map (·.attempt) = attempts.map fun attempt => withDecision attempt.observed attempt.decision := by
  induction responses with
  | nil =>
    intro loop now attempts finished turn
    simp [runAttempts] at finished
  | cons response responses ih =>
    intro loop now attempts finished turn
    have echo := echoes loop.ordinal now (deadline - now) response
    simp only [runAttempts] at finished
    generalize execute loop.ordinal now (deadline - now) response = observed at finished echo
    split at finished
    · next conclusive =>
      obtain ⟨rfl, ends⟩ := Prod.mk.inj finished
      have turned : turns loop.retries = turnOf ⟨now, response, observed, .terminal⟩ := turn 0 _ rfl
      have shape : (round deadline turns loop .terminal none).attempt = withDecision observed .terminal :=
        round_turnOf turned echo _ _
      have final : isRetryable observed.outcome = false := by simpa using conclusive
      have story : Story deliveryId destinationId resilience deadline turns loop _ _ :=
        .terminal loop (by rw [turned]; exact final)
      rw [turned, shape] at story
      rw [← Option.some.inj ends]
      exact ⟨_, story, by simp [shape]⟩
    · next retryable =>
      have again : isRetryable observed.outcome = true := by simpa using retryable
      split at finished
      · next stop =>
        obtain ⟨rfl, ends⟩ := Prod.mk.inj finished
        have turned : turns loop.retries = turnOf ⟨now, response, observed, .exhausted⟩ := turn 0 _ rfl
        have shape : (round deadline turns loop .exhausted none).attempt = withDecision observed .exhausted :=
          round_turnOf turned echo _ _
        have story : Story deliveryId destinationId resilience deadline turns loop _ _ :=
          .exhausted loop (by rw [turned]; exact again) (by rw [turned]; exact stop)
        rw [turned, shape] at story
        rw [← Option.some.inj ends]
        exact ⟨_, story, by simp [shape]⟩
      · next delay retry =>
        obtain ⟨rfl, ends⟩ := Prod.mk.inj finished
        have turned : turns loop.retries = turnOf ⟨now, response, observed, .retryScheduled (toMillis delay)⟩ := turn 0 _ rfl
        have shape : (round deadline turns loop (.retryScheduled (toMillis delay)) (some delay)).attempt =
            withDecision observed (.retryScheduled (toMillis delay)) :=
          round_turnOf turned echo _ _
        have later : ∀ k attempt, (runAttempts deliveryId destinationId resilience execute deadline (loop.retries + 1)
            (loop.ordinal + 1) (observed.completedAt + delay)
            (loop.history ++ [withDecision observed (.retryScheduled (toMillis delay))]) responses).1[k]? = some attempt →
            turns (loop.retries + 1 + k) = turnOf attempt := by
          intro k attempt here
          rw [Nat.add_assoc, Nat.add_comm 1 k]
          exact turn (k + 1) attempt here
        obtain ⟨rounds, story, attempts⟩ := @ih ⟨loop.ordinal + 1, loop.retries + 1,
          loop.history ++ [withDecision observed (.retryScheduled (toMillis delay))]⟩ _ _ (Prod.ext rfl ends) later
        rw [← shape] at story
        refine ⟨_, .retried loop (by rw [turned]; exact again) (by rw [turned]; exact retry) (by rw [turned]; rfl) story,
          ?_⟩
        rw [List.map_cons, List.map_cons, shape, attempts]

end Stories

end RetryEngine

end Relay
