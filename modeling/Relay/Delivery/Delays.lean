import Relay.Delivery.History

/-!
# Retry delays

The clamp alone would cut a delay below what Retry-After asks for. But a delay that was
cut reaches up to the deadline, and the last test of the schedule, at a later instant,
rejects exactly these: what survives is a whole delay that ends before the deadline.
The run sleeps for that delay before it executes the next attempt, so the attempt starts
when the delay has passed.
-/

namespace Relay

def DeliveryOutcome.retryAfterMillis : DeliveryOutcome → Option ℕ
  | .retryable _ _ _ retryAfterMillis => retryAfterMillis
  | _ => none

theorem retryAfter_eq (outcome : DeliveryOutcome) :
    retryAfter outcome = outcome.retryAfterMillis.getD 0 * nanosPerMilli := by
  cases outcome <;> simp [retryAfter, DeliveryOutcome.retryAfterMillis]

/-- A random part of a delay is no longer than the delay. -/
theorem jittered_le (duration : ℕ) {fraction : ℚ} (nonneg : 0 ≤ fraction) (lt_one : fraction < 1) :
    jittered duration fraction ≤ duration := by
  have positive : (0 : ℚ) < nanosPerMilli := by norm_num [nanosPerMilli]
  have millis : (0 : ℚ) ≤ toMillis duration := by
    unfold toMillis
    positivity
  have part : toMillis duration * fraction ≤ toMillis duration := mul_le_of_le_one_right millis lt_one.le
  have floor : (⌊toMillis duration * fraction⌋₊ : ℚ) ≤ toMillis duration :=
    (Nat.floor_le (mul_nonneg millis nonneg)).trans part
  have scaled : (⌊toMillis duration * fraction⌋₊ : ℚ) * nanosPerMilli ≤ duration := by
    rwa [toMillis, le_div_iff₀ positive] at floor
  unfold jittered
  exact_mod_cast scaled

def EngineEvent.isExecuted : EngineEvent → Bool
  | .executed .. => true
  | .recorded _ | .slept _ => false

/-- A random source in `[0, 1)`, and a clock that never goes back within a turn. -/
structure Turn.Monotone {E : Type*} (turn : Turn E) : Prop where
  fraction_nonneg : 0 ≤ turn.fraction
  fraction_lt : turn.fraction < 1
  asked : turn.askedAt ≤ turn.startedAt
  started : turn.startedAt ≤ turn.completedAt
  completed : turn.completedAt ≤ turn.clampedAt
  clamped : turn.clampedAt ≤ turn.decidedAt

namespace RetryEngine

section Delays

variable {E : Type*} {resilience : DeliveryResilience} {deadline retries delay : ℕ} {turn : Turn E}

/-- A delay before another attempt. -/
structure Paced (resilience : DeliveryResilience) (deadline retries : ℕ) (turn : Turn E) (delay : ℕ) : Prop where
  retryAfter : ∀ retryAfterMillis, turn.outcome.retryAfterMillis = some retryAfterMillis →
    retryAfterMillis * nanosPerMilli ≤ delay
  maxDelay : turn.outcome.retryAfterMillis = none → delay ≤ resilience.maxDelay
  exponential : turn.outcome.retryAfterMillis = none → delay ≤ resilience.baseDelay * 2 ^ retries
  deadline : turn.decidedAt + delay < deadline

/-- A scheduled delay was not cut. -/
theorem scheduleStep_uncut (step : scheduleStep resilience deadline retries turn = some delay)
    (clamped : turn.clampedAt ≤ turn.decidedAt) :
    delay = max (jittered (cappedBackoff resilience retries) turn.fraction) (Relay.retryAfter turn.outcome) := by
  obtain ⟨-, before, cut⟩ := scheduleStep_eq_some step
  omega

theorem scheduleStep_paced (step : scheduleStep resilience deadline retries turn = some delay)
    (monotone : turn.Monotone) : Paced resilience deadline retries turn delay := by
  have uncut := scheduleStep_uncut step monotone.clamped
  have jitter := jittered_le (cappedBackoff resilience retries) monotone.fraction_nonneg monotone.fraction_lt
  have backoff : cappedBackoff resilience retries ≤ resilience.maxDelay ∧
      cappedBackoff resilience retries ≤ resilience.baseDelay * 2 ^ retries := by
    unfold cappedBackoff
    exact ⟨min_le_right _ _, min_le_left _ _⟩
  have without : turn.outcome.retryAfterMillis = none → Relay.retryAfter turn.outcome = 0 := by
    intro none_given
    simp [retryAfter_eq, none_given]
  constructor
  case retryAfter =>
    intro retryAfterMillis given
    have asked : Relay.retryAfter turn.outcome = retryAfterMillis * nanosPerMilli := by
      rw [retryAfter_eq, given, Option.getD_some]
    omega
  case maxDelay =>
    intro none_given
    have zero := without none_given
    omega
  case exponential =>
    intro none_given
    have zero := without none_given
    omega
  case deadline => exact (scheduleStep_eq_some step).2.1

/-- A Retry-After as long as what remains of the window ends the run. -/
theorem scheduleStep_eq_none (monotone : turn.Monotone) {retryAfterMillis : ℕ}
    (given : turn.outcome.retryAfterMillis = some retryAfterMillis)
    (late : deadline - turn.decidedAt ≤ retryAfterMillis * nanosPerMilli) :
    scheduleStep resilience deadline retries turn = none := by
  cases step : scheduleStep resilience deadline retries turn with
  | none => rfl
  | some delay =>
    obtain ⟨after, -, -, before⟩ := scheduleStep_paced step monotone
    have waits := after retryAfterMillis given
    omega

end Delays

/-! ## When a run does what -/

/-- The turn that event `i` of a log belongs to: the one of the last attempt executed. -/
def turnAt (events : List EngineEvent) (i : ℕ) : ℕ := (events.take (i + 1)).countP EngineEvent.isExecuted - 1

/-- When the events of a log begin and end: one after the other, beside the clock readings of their turns. -/
structure Timed {E : Type*} (turns : ℕ → Turn E) (events : List EngineEvent) (begins ends : ℕ → ℕ) : Prop where
  ordered : ∀ i, begins i ≤ ends i ∧ ends i ≤ begins (i + 1)
  /-- `Effect.sleep` takes its time. -/
  sleeps : ∀ i delay, events[i]? = some (.slept delay) → begins i + delay ≤ ends i
  /-- An attempt reads the clock after what came before it. -/
  asked : ∀ i ordinal remaining, events[i + 1]? = some (.executed ordinal remaining) →
    ends i ≤ (turns (turnAt events (i + 1))).askedAt
  /-- An attempt is decided on before it is recorded. -/
  decided : ∀ i attempt, events[i]? = some (.recorded attempt) → (turns (turnAt events i)).decidedAt ≤ begins i

theorem turnAt_append (before events : List EngineEvent) (i : ℕ) : turnAt (before ++ events) (before.length + i) =
    before.countP EngineEvent.isExecuted + (events.take (i + 1)).countP EngineEvent.isExecuted - 1 := by
  rw [turnAt, Nat.add_assoc, List.take_length_add_append, List.countP_append]

/-- Each round executes one attempt. -/
theorem countP_executed (rounds : List Round) :
    (rounds.flatMap Round.events).countP EngineEvent.isExecuted = rounds.length := by
  induction rounds with
  | nil => rfl
  | cons round rounds ih =>
    have one : round.events.countP EngineEvent.isExecuted = 1 := by
      rw [Round.events]
      cases round.delay <;> rfl
    rw [List.flatMap_cons, List.countP_append, ih, one, List.length_cons, Nat.add_comm]

section Log

variable {before after : List EngineEvent} {ordinal remaining ordinal' remaining' delay k : ℕ} {attempt : DeliveryAttempt}

/-- The next attempt of a log is executed after the delay that was decided on. -/
theorem Timed.next {E : Type*} {turns : ℕ → Turn E} {begins ends : ℕ → ℕ}
    (timed : Timed turns (before ++ .executed ordinal remaining :: .recorded attempt :: .slept delay ::
      .executed ordinal' remaining' :: after) begins ends)
    (count : before.countP EngineEvent.isExecuted = k) : (turns k).decidedAt + delay ≤ (turns (k + 1)).askedAt := by
  have decided := timed.decided (before.length + 1) attempt (by rw [List.getElem?_append_right (by omega)]; simp)
  have slept := timed.sleeps (before.length + 2) delay (by rw [List.getElem?_append_right (by omega)]; simp)
  have asked := timed.asked (before.length + 2) ordinal' remaining'
    (by rw [List.getElem?_append_right (by omega), Nat.add_assoc, Nat.add_sub_cancel_left]; rfl)
  have recorded := timed.ordered (before.length + 1)
  rw [turnAt_append, count] at decided
  rw [Nat.add_assoc, turnAt_append, count] at asked
  calc (turns k).decidedAt + delay ≤ begins (before.length + 1) + delay := Nat.add_le_add_right decided delay
    _ ≤ begins (before.length + 2) + delay := Nat.add_le_add_right (recorded.1.trans recorded.2) delay
    _ ≤ ends (before.length + 2) := slept
    _ ≤ (turns (k + 1)).askedAt := asked

/-- The log around a round that another one follows. -/
theorem log_retried {rounds : List Round} {round : Round} (here : rounds[k]? = some round) (slept : round.delay = some delay)
    (more : k + 1 < rounds.length) : ∃ before after ordinal remaining ordinal' remaining',
      rounds.flatMap Round.events = before ++ .executed ordinal remaining :: .recorded round.attempt :: .slept delay ::
        .executed ordinal' remaining' :: after ∧ before.countP EngineEvent.isExecuted = k := by
  obtain ⟨within, same⟩ := List.getElem?_eq_some_iff.1 here
  have split : rounds = rounds.take k ++ round :: rounds[k + 1] :: rounds.drop (k + 2) := by
    rw [← List.drop_eq_getElem_cons more, ← same, ← List.drop_eq_getElem_cons within, List.take_append_drop]
  refine ⟨(rounds.take k).flatMap Round.events, .recorded rounds[k + 1].attempt ::
    (rounds[k + 1].delay.map EngineEvent.slept).toList ++ (rounds.drop (k + 2)).flatMap Round.events, round.ordinal,
    round.remaining, rounds[k + 1].ordinal, rounds[k + 1].remaining, ?_, ?_⟩
  · have events : round.events = [.executed round.ordinal round.remaining, .recorded round.attempt, .slept delay] := by
      rw [Round.events, slept]
      rfl
    conv_lhs => rw [split]
    rw [List.flatMap_append, List.flatMap_cons, List.flatMap_cons, events]
    rfl
  · rw [countP_executed, List.length_take]
    omega

end Log

section Runs

variable {E : Type*}

/-- What holds of the delay after round `k`. -/
structure Respects (deliveryId : DeliveryId) (destinationId : DestinationId) (resilience : DeliveryResilience)
    (deadline : ℕ) (turns : ℕ → Turn E) (rounds : List Round) (exit : Except E DeliveryResult) (k : ℕ) (round : Round) :
    Prop where
  /-- The delay of a decision to retry, in nanoseconds. -/
  scheduled : ∀ delayMillis, round.attempt.decision = .retryScheduled delayMillis →
    ∃ delay : ℕ, delayMillis = toMillis delay ∧ Paced resilience deadline k (turns k) delay
  /-- The next attempt starts no earlier than the delay has passed, whenever the events of the run happen. -/
  next : k + 1 < rounds.length → ∃ delay : ℕ, round.attempt.decision = .retryScheduled (toMillis delay) ∧
    ∀ begins ends, Timed turns (rounds.flatMap Round.events) begins ends →
      (turns k).decidedAt + delay ≤ (turns (k + 1)).startedAt
  /-- A Retry-After that is not strictly shorter than the remaining window ends the run. -/
  exhausted : ∀ retryAfterMillis, (turns k).outcome.retryAfterMillis = some retryAfterMillis →
    deadline - (turns k).decidedAt ≤ retryAfterMillis * nanosPerMilli →
    round.attempt.decision = .exhausted ∧ k + 1 = rounds.length ∧
      exit = (turns k).recorded.map fun _ =>
        .exhausted ⟨deliveryId, destinationId, rounds.map (·.attempt)⟩ (turns k).outcome

variable {deliveryId : DeliveryId} {destinationId : DestinationId} {resilience : DeliveryResilience}
  {startedAt firstOrdinal : ℕ} {turns : ℕ → Turn E} {rounds : List Round} {exit : Except E DeliveryResult}

theorem isRetryable_of_retryAfterMillis {outcome : DeliveryOutcome} {retryAfterMillis : ℕ}
    (given : outcome.retryAfterMillis = some retryAfterMillis) : isRetryable outcome = true := by
  cases outcome with
  | retryable => rfl
  | delivered | rejected | protocolFailure | transportFailure | timedOut =>
    simp [DeliveryOutcome.retryAfterMillis] at given

theorem Story.respects (clock : ∀ n, (turns n).Monotone)
    (story : Story deliveryId destinationId resilience (startedAt + resilience.maxElapsed) turns ⟨firstOrdinal, 0, []⟩
      rounds exit) {k : ℕ} {round : Round} (here : rounds[k]? = some round) :
    Respects deliveryId destinationId resilience (startedAt + resilience.maxElapsed) turns rounds exit k round := by
  have monotone := clock k
  by_cases more : k + 1 < rounds.length
  · obtain ⟨-, -, delay, step, slept, decision⟩ := story.retried_of_lt k round here more
    rw [Nat.zero_add] at step
    constructor
    case scheduled =>
      intro delayMillis same
      rw [decision, DeliveryAttemptDecision.retryScheduled.injEq] at same
      exact ⟨delay, same.symm, scheduleStep_paced step monotone⟩
    case next =>
      intro _
      refine ⟨delay, decision, ?_⟩
      intro begins ends timed
      obtain ⟨before, after, ordinal, remaining, ordinal', remaining', log, count⟩ := log_retried here slept more
      rw [log] at timed
      exact (timed.next count).trans (clock (k + 1)).asked
    case exhausted =>
      intro retryAfterMillis given late
      rw [scheduleStep_eq_none monotone given late] at step
      simp at step
  · obtain ⟨last, final, ending⟩ := story.ending
    have within := (List.getElem?_eq_some_iff.1 here).1
    have index : k = rounds.length - 1 := by omega
    rw [List.getLast?_eq_getElem?, ← index, here, Option.some.injEq] at final
    rw [Nat.zero_add, List.nil_append, ← index] at ending
    subst final
    constructor
    case scheduled =>
      intro delayMillis same
      generalize round.attempt.decision = decision at ending same
      cases ending with
      | terminal | exhausted => simp at same
      | @failed delay failure retryable step =>
        rw [DeliveryAttemptDecision.retryScheduled.injEq] at same
        exact ⟨delay, same.symm, scheduleStep_paced step monotone⟩
    case next =>
      intro more'
      exact absurd more' more
    case exhausted =>
      intro retryAfterMillis given late
      have retryable := isRetryable_of_retryAfterMillis given
      generalize round.attempt.decision = decision at ending
      cases ending with
      | terminal conclusive => simp [conclusive] at retryable
      | exhausted => exact ⟨rfl, by omega, rfl⟩
      | failed _ step =>
        rw [scheduleStep_eq_none monotone given late] at step
        simp at step

end Runs

end RetryEngine

namespace Sample

def pacing : DeliveryResilience where
  attemptTimeout := Nat.toPNat' 1000000000
  maxAttempts := Nat.toPNat' 3
  maxElapsed := Nat.toPNat' 10000000000
  baseDelay := Nat.toPNat' 100000000
  maxDelay := Nat.toPNat' 1000000000

/-- Six seconds apart, a rate limit asks for five each time. -/
def limited (n : ℕ) : Turn String where
  askedAt := 6000000000 * n
  startedAt := 6000000000 * n
  completedAt := 6000000000 * n
  outcome := .retryable ⟨"dst-7", by decide⟩ 429 .rateLimited (some 5000)
  fraction := 1 / 2
  clampedAt := 6000000000 * n
  decidedAt := 6000000000 * n
  recorded := .ok ()

/-- The run: five seconds are left to wait after the first attempt, and not after the second. -/
def limitedLog : List EngineEvent :=
  [.executed 1 10000000000, .recorded ⟨1, 0, 0, (limited 0).outcome, .retryScheduled 5000⟩, .slept 5000000000,
    .executed 2 4000000000, .recorded ⟨2, 6000, 6000, (limited 1).outcome, .exhausted⟩]

def limitedBegins (i : ℕ) : ℕ := if i ≤ 2 then 0 else 6000000000
def limitedEnds (i : ℕ) : ℕ := if i ≤ 1 then 0 else if i = 2 then 5000000000 else 6000000000

theorem limited_timed : RetryEngine.Timed limited limitedLog limitedBegins limitedEnds where
  ordered := by
    intro i
    simp only [limitedBegins, limitedEnds]
    grind
  sleeps := by
    intro i delay here
    match i with
    | 2 =>
      cases here
      decide
    | 0 | 1 | 3 | 4 => cases here
    | i + 5 => cases here
  asked := by
    intro i ordinal remaining here
    match i with
    | 2 => decide
    | 0 | 1 | 3 => cases here
    | i + 4 => cases here
  decided := by
    intro i attempt here
    match i with
    | 1 | 4 => decide
    | 0 | 2 | 3 => cases here
    | i + 5 => cases here

end Sample

end Relay
