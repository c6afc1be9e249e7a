import Relay.Delivery.Retries

/-!
# The history of a run

A run makes at most `maxAttempts` attempts, one after the other. Each is recorded before
the next one starts, and what a run returns lists what was recorded. A failure to record
ends the run at once, also after an attempt that was to be retried.
-/

namespace Relay

def DeliveryResult.attempts : DeliveryResult → List DeliveryAttempt
  | .delivered fields _ | .rejected fields _ | .protocolFailure fields _ | .exhausted fields _ => fields.attempts

@[simp] theorem terminalResult_attempts (deliveryId : DeliveryId) (destinationId : DestinationId)
    (outcome : DeliveryOutcome) (attempts : List DeliveryAttempt) :
    (terminalResult deliveryId destinationId outcome attempts).attempts = attempts := by
  cases outcome <;> rfl

theorem ok_of_map {ε α β : Type*} {x : Except ε α} {f : α → β} {b : β} (mapped : x.map f = .ok b) :
    ∃ a, x = .ok a ∧ f a = b := by
  cases x with
  | error failure => cases mapped
  | ok a => exact ⟨a, rfl, Except.ok.inj mapped⟩

namespace RetryEngine

/-! ## Rounds -/

section Rounds

variable {E : Type*} {deliveryId : DeliveryId} {destinationId : DestinationId} {resilience : DeliveryResilience}
  {deadline : ℕ} {turns : ℕ → Turn E} {loop : EngineLoop} {rounds : List Round} {exit : Except E DeliveryResult}

/-- A round that another one follows. -/
structure Retried (resilience : DeliveryResilience) (deadline retries : ℕ) (turn : Turn E) (round : Round) : Prop where
  recorded : turn.recorded = .ok ()
  retryable : isRetryable turn.outcome = true
  scheduled : ∃ delay, scheduleStep resilience deadline retries turn = some delay ∧ round.delay = some delay ∧
    round.attempt.decision = .retryScheduled (toMillis delay)

/-- How a story ends, with the attempts it has recorded. -/
inductive Ending (deliveryId : DeliveryId) (destinationId : DestinationId) (resilience : DeliveryResilience)
    (deadline retries : ℕ) (turn : Turn E) (attempts : List DeliveryAttempt) :
    DeliveryAttemptDecision → Except E DeliveryResult → Prop where
  | terminal : isRetryable turn.outcome = false → Ending deliveryId destinationId resilience deadline retries turn
      attempts .terminal (turn.recorded.map fun _ => terminalResult deliveryId destinationId turn.outcome attempts)
  | exhausted : isRetryable turn.outcome = true → scheduleStep resilience deadline retries turn = none →
      Ending deliveryId destinationId resilience deadline retries turn attempts .exhausted
        (turn.recorded.map fun _ => .exhausted ⟨deliveryId, destinationId, attempts⟩ turn.outcome)
  | failed {delay : ℕ} {failure : E} : isRetryable turn.outcome = true →
      scheduleStep resilience deadline retries turn = some delay → turn.recorded = .error failure →
      Ending deliveryId destinationId resilience deadline retries turn attempts (.retryScheduled (toMillis delay))
        (.error failure)

namespace Story

theorem ne_nil (story : Story deliveryId destinationId resilience deadline turns loop rounds exit) : rounds ≠ [] := by
  cases story <;> simp

/-- The rounds number their attempts, and each attempt is what its turn shows. -/
theorem numbered (story : Story deliveryId destinationId resilience deadline turns loop rounds exit) :
    ∀ k round, rounds[k]? = some round → round.ordinal = loop.ordinal + k ∧
      ∃ decision, round.attempt = withDecision ((turns (loop.retries + k)).observe (loop.ordinal + k)) decision := by
  induction story with
  | terminal loop | exhausted loop | failed loop =>
    intro k round here
    rw [List.getElem?_singleton] at here
    obtain ⟨rfl, same⟩ := Option.ite_none_right_eq_some.1 here
    rw [Option.some.injEq] at same
    subst same
    exact ⟨rfl, _, rfl⟩
  | retried loop _ _ _ _ ih =>
    intro k round here
    cases k with
    | zero =>
      rw [List.getElem?_cons_zero, Option.some.injEq] at here
      subst here
      exact ⟨rfl, _, rfl⟩
    | succ k =>
      have later := ih k round here
      simpa only [Nat.add_assoc, Nat.add_comm 1 k] using later

theorem retried_of_lt (story : Story deliveryId destinationId resilience deadline turns loop rounds exit) :
    ∀ k round, rounds[k]? = some round → k + 1 < rounds.length →
      Retried resilience deadline (loop.retries + k) (turns (loop.retries + k)) round := by
  induction story with
  | terminal loop | exhausted loop | failed loop =>
    intro k round _ more
    simp at more
  | @retried loop delay rounds exit retryable step recorded _ ih =>
    intro k round here more
    cases k with
    | zero =>
      rw [List.getElem?_cons_zero, Option.some.injEq] at here
      subst here
      exact ⟨recorded, retryable, delay, step, rfl, rfl⟩
    | succ k =>
      have later := ih k round here (by simpa using more)
      simpa only [Nat.add_assoc, Nat.add_comm 1 k] using later

theorem ending (story : Story deliveryId destinationId resilience deadline turns loop rounds exit) :
    ∃ last, rounds.getLast? = some last ∧
      Ending deliveryId destinationId resilience deadline (loop.retries + (rounds.length - 1))
        (turns (loop.retries + (rounds.length - 1))) (loop.history ++ rounds.map (·.attempt)) last.attempt.decision
        exit := by
  induction story with
  | terminal loop retryable => exact ⟨_, rfl, .terminal retryable⟩
  | exhausted loop retryable step => exact ⟨_, rfl, .exhausted retryable step⟩
  | failed loop retryable step recorded => exact ⟨_, rfl, .failed retryable step recorded⟩
  | @retried loop delay rounds exit _ _ _ story ih =>
    obtain ⟨last, final, ending⟩ := ih
    have some_left := List.length_pos_of_ne_nil story.ne_nil
    refine ⟨last, ?_, ?_⟩
    · rw [List.getLast?_cons, final]
      rfl
    · have index : loop.retries + 1 + (rounds.length - 1) = loop.retries + (rounds.length + 1 - 1) := by omega
      simpa only [List.length_cons, List.map_cons, index, List.append_assoc, List.singleton_append] using ending

end Story

end Rounds

/-- What `onAttempt` has received. -/
def recorded (events : List EngineEvent) : List DeliveryAttempt :=
  events.filterMap fun
    | .recorded attempt => some attempt
    | _ => none

/-- A round passes its attempt to `onAttempt`, and nothing else. -/
theorem recorded_rounds (rounds : List Round) : recorded (rounds.flatMap Round.events) = rounds.map (·.attempt) := by
  induction rounds with
  | nil => rfl
  | cons round rounds ih =>
    have first : recorded round.events = [round.attempt] := by
      cases delay : round.delay <;> simp [recorded, Round.events, delay]
    rw [recorded] at first ih ⊢
    rw [List.flatMap_cons, List.filterMap_append, first, ih]
    rfl

/-! ## The shape of a run -/

section History

variable {E : Type*}

/-- The rounds of a run from the first ordinal on, and what comes of it. -/
structure RetryHistory (resilience : DeliveryResilience) (firstOrdinal : ℕ) (turns : ℕ → Turn E) (rounds : List Round)
    (exit : Except E DeliveryResult) : Prop where
  nonempty : rounds ≠ []
  bounded : rounds.length ≤ resilience.maxAttempts
  numbered : ∀ k round, rounds[k]? = some round → round.ordinal = firstOrdinal + k ∧
    ∃ decision, round.attempt = withDecision ((turns k).observe (firstOrdinal + k)) decision
  /-- Every attempt but the last is retryable and is retried. -/
  scheduled : ∀ k round, rounds[k]? = some round → k + 1 < rounds.length →
    isRetryable round.attempt.outcome = true ∧ ∃ delay, round.attempt.decision = .retryScheduled (toMillis delay)
  terminal : ∀ last, rounds.getLast? = some last →
    (last.attempt.decision = .terminal ↔ isRetryable last.attempt.outcome = false)
  exhausted : ∀ last result, rounds.getLast? = some last → exit = .ok result →
    isRetryable last.attempt.outcome = true → last.attempt.decision = .exhausted
  /-- When `onAttempt` fails the run fails with that error, and makes no further attempt. -/
  fails : ∀ k failure, k < rounds.length → (turns k).recorded = .error failure →
    exit = .error failure ∧ k + 1 = rounds.length
  failed : ∀ failure, exit = .error failure → (turns (rounds.length - 1)).recorded = .error failure
  listed : ∀ result, exit = .ok result → result.attempts = rounds.map (·.attempt)

namespace Ending

variable {deliveryId : DeliveryId} {destinationId : DestinationId} {resilience : DeliveryResilience}
  {deadline retries : ℕ} {turn : Turn E} {attempts : List DeliveryAttempt} {decision : DeliveryAttemptDecision}
  {exit : Except E DeliveryResult}

theorem terminal_iff (ending : Ending deliveryId destinationId resilience deadline retries turn attempts decision exit) :
    decision = .terminal ↔ isRetryable turn.outcome = false := by
  cases ending with
  | terminal retryable => simp [retryable]
  | exhausted retryable => simp [retryable]
  | failed retryable => simp [retryable]

theorem exhausted_of_ok {result : DeliveryResult}
    (ending : Ending deliveryId destinationId resilience deadline retries turn attempts decision exit)
    (returned : exit = .ok result) (retryable : isRetryable turn.outcome = true) : decision = .exhausted := by
  cases ending with
  | terminal final => simp [final] at retryable
  | exhausted => rfl
  | failed => simp at returned

theorem exit_of_error {failure : E}
    (ending : Ending deliveryId destinationId resilience deadline retries turn attempts decision exit) :
    turn.recorded = .error failure ↔ exit = .error failure := by
  cases ending with
  | terminal | exhausted => cases turn.recorded <;> simp [Except.map]
  | failed _ _ recorded => simp [recorded]

theorem attempts_of_ok {result : DeliveryResult}
    (ending : Ending deliveryId destinationId resilience deadline retries turn attempts decision exit)
    (returned : exit = .ok result) : result.attempts = attempts := by
  cases ending with
  | terminal =>
    obtain ⟨-, -, same⟩ := ok_of_map returned
    rw [← same, terminalResult_attempts]
  | exhausted =>
    obtain ⟨-, -, same⟩ := ok_of_map returned
    rw [← same, DeliveryResult.attempts]
  | failed => simp at returned

end Ending

variable {deliveryId : DeliveryId} {destinationId : DestinationId} {resilience : DeliveryResilience}
  {deadline firstOrdinal : ℕ} {turns : ℕ → Turn E} {rounds : List Round} {exit : Except E DeliveryResult}

theorem Story.outcome
    (story : Story deliveryId destinationId resilience deadline turns ⟨firstOrdinal, 0, []⟩ rounds exit) {k : ℕ}
    {round : Round} (here : rounds[k]? = some round) : round.attempt.outcome = (turns k).outcome := by
  obtain ⟨-, decision, attempt⟩ := story.numbered k round here
  rw [attempt, Nat.zero_add]
  rfl

theorem Story.history
    (story : Story deliveryId destinationId resilience deadline turns ⟨firstOrdinal, 0, []⟩ rounds exit)
    (bounded : rounds.length ≤ resilience.maxAttempts) : RetryHistory resilience firstOrdinal turns rounds exit := by
  obtain ⟨last, final, ending⟩ := story.ending
  rw [Nat.zero_add, List.nil_append] at ending
  have outcome : last.attempt.outcome = (turns (rounds.length - 1)).outcome :=
    story.outcome (List.getLast?_eq_getElem?.symm.trans final)
  constructor
  case nonempty => exact story.ne_nil
  case bounded => exact bounded
  case numbered => simpa only [Nat.zero_add] using story.numbered
  case scheduled =>
    intro k round here more
    obtain ⟨-, retryable, delay, -, -, decision⟩ := story.retried_of_lt k round here more
    rw [Nat.zero_add] at retryable
    exact ⟨by rw [story.outcome here]; exact retryable, delay, decision⟩
  case terminal =>
    intro last' final'
    obtain rfl : last = last' := Option.some.inj (final.symm.trans final')
    rw [outcome]
    exact ending.terminal_iff
  case exhausted =>
    intro last' result final' returned retryable
    obtain rfl : last = last' := Option.some.inj (final.symm.trans final')
    rw [outcome] at retryable
    exact ending.exhausted_of_ok returned retryable
  case fails =>
    intro k failure within recorded
    by_cases more : k + 1 < rounds.length
    · have accepted := (story.retried_of_lt k _ (List.getElem?_eq_getElem within) more).recorded
      rw [Nat.zero_add, recorded] at accepted
      simp at accepted
    · have index : k = rounds.length - 1 := by omega
      subst index
      exact ⟨ending.exit_of_error.1 recorded, by omega⟩
  case failed =>
    intro failure error
    exact ending.exit_of_error.2 error
  case listed =>
    intro result returned
    exact ending.attempts_of_ok returned

/-- Every run has a story, whatever fuel it is given beyond `maxAttempts`. -/
theorem run_story (deliveryId : DeliveryId) (destinationId : DestinationId) (resilience : DeliveryResilience)
    (firstOrdinal startedAt : ℕ) (turns : ℕ → Turn E) :
    ∃ rounds exit, Story deliveryId destinationId resilience (startedAt + resilience.maxElapsed) turns
        ⟨firstOrdinal, 0, []⟩ rounds exit ∧ rounds.length ≤ resilience.maxAttempts ∧
      ∀ fuel : ℕ, resilience.maxAttempts ≤ fuel →
        runDeliveryWithRetry deliveryId destinationId resilience firstOrdinal startedAt turns fuel =
          (rounds.flatMap Round.events, some exit) := by
  obtain ⟨rounds, exit, story, bounded⟩ := exists_story deliveryId destinationId resilience
    (startedAt + resilience.maxElapsed) turns resilience.maxAttempts ⟨firstOrdinal, 0, []⟩ resilience.maxAttempts.pos
    (Nat.le_add_left _ _)
  rw [Nat.zero_add] at bounded
  refine ⟨rounds, exit, story, bounded, ?_⟩
  intro fuel enough
  exact story.run_eq fuel (bounded.trans enough)

end History

end RetryEngine

/-- **A run ends after at most `maxAttempts` attempts**, each executed and then recorded, with the history above. -/
theorem retry_history {E : Type*} (deliveryId : DeliveryId) (destinationId : DestinationId)
    (resilience : DeliveryResilience) (firstOrdinal startedAt : ℕ) (turns : ℕ → Turn E) :
    ∃ rounds exit,
      (∀ fuel : ℕ, resilience.maxAttempts ≤ fuel →
        RetryEngine.runDeliveryWithRetry deliveryId destinationId resilience firstOrdinal startedAt turns fuel =
          (rounds.flatMap RetryEngine.Round.events, some exit)) ∧
      RetryEngine.RetryHistory resilience firstOrdinal turns rounds exit := by
  obtain ⟨rounds, exit, story, bounded, run⟩ :=
    RetryEngine.run_story deliveryId destinationId resilience firstOrdinal startedAt turns
  exact ⟨rounds, exit, run, story.history bounded⟩

/-- A retry is scheduled, and the attempt cannot be recorded: the run ends on an attempt that is not exhausted. -/
theorem retry_history_aborted : ¬ ∀ (deliveryId : DeliveryId) (destinationId : DestinationId)
    (resilience : DeliveryResilience) (firstOrdinal startedAt : ℕ) (turns : ℕ → Turn String) (last : DeliveryAttempt),
    (RetryEngine.recorded (RetryEngine.runDeliveryWithRetry deliveryId destinationId resilience firstOrdinal startedAt
      turns resilience.maxAttempts).1).getLast? = some last →
    isRetryable last.outcome = true → last.decision = .exhausted := by
  intro exhausted
  have wrong := exhausted ⟨"dlv-1", by decide⟩ ⟨"dst-1", by decide⟩
    ⟨1000000000, 3, 10000000000, 100000000, 1000000000⟩ 1 0
    (fun _ => ⟨0, 0, 0, .timedOut ⟨"dst-1", by decide⟩, 1 / 2, 0, 0, .error "ClaimLostError"⟩)
    ⟨1, 0, 0, .timedOut ⟨"dst-1", by decide⟩, .retryScheduled 50⟩ (by decide +kernel) rfl
  simp at wrong

end Relay
