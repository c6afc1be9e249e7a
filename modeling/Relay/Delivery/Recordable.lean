import Relay.Delivery.Delays
import Relay.Domain.Responses

/-!
# Attempts can be recorded

`DeliveryAttemptRecord.make` throws on a delay that is not whole, on fields that
disagree and on integers that are not safe. Jitter and Retry-After are whole
milliseconds, a delay the clamp would cut is not scheduled, and the decision goes
with the outcome; so no attempt of the engine fails but for the size of its numbers,
and of these the random part of a delay is bounded by nothing but the configuration.
-/

namespace Relay

/-! ## The fields of an attempt -/

theorem DeliveryOutcome.carriesStatus_tag (outcome : DeliveryOutcome) :
    outcome.tag.carriesStatus = outcome.status?.isSome := by
  cases outcome <;> rfl

theorem DeliveryOutcome.retryable?_tag (outcome : DeliveryOutcome) : outcome.tag.retryable? = isRetryable outcome := by
  cases outcome <;> rfl

/-- A delay that passes its check is there exactly for a scheduled retry. -/
theorem DeliveryAttemptDecision.recordedDelay_isSome {decision : DeliveryAttemptDecision} {delay : Option ℕ}
    (checked : decision.recordedDelay = some delay) :
    decide (decision.tag = .retryScheduled) = delay.isSome := by
  cases decision with
  | terminal | exhausted =>
    rw [DeliveryAttemptDecision.recordedDelay, Option.some.injEq] at checked
    subst checked
    rfl
  | retryScheduled delayMillis =>
    obtain ⟨millis, -, same⟩ := Option.map_eq_some_iff.1 checked
    subst same
    rfl

/-- What is left to check of an attempt whose fields agree is the size of its integers. -/
theorem DeliveryAttempt.recordable_iff {attempt : DeliveryAttempt} {delay : Option ℕ} (numbered : 0 < attempt.ordinal)
    (time : attempt.startedAtMillis ≤ attempt.completedAtMillis)
    (checked : attempt.decision.recordedDelay = some delay)
    (decided : attempt.decision.tag = .terminal ↔ isRetryable attempt.outcome = false) (deliveryId : DeliveryId)
    (claim : DeliveryClaim) {trace : AttemptTraceCorrelation} (paired : trace.traceId.isNone = trace.spanId.isNone) :
    (∃ record, makeDeliveryAttemptRecord deliveryId claim attempt trace = some record) ↔
      (attempt.integers claim delay).all isSafeInteger = true := by
  have consistent : consistentAttempt attempt.startedAtMillis attempt.completedAtMillis attempt.outcome.tag
      attempt.decision.tag attempt.outcome.status? delay trace.traceId trace.spanId = true := by
    have scheduled := DeliveryAttemptDecision.recordedDelay_isSome checked
    simp only [consistentAttempt, Bool.and_eq_true, beq_iff_eq, decide_eq_true_eq]
    refine ⟨⟨⟨⟨time, paired⟩, attempt.outcome.carriesStatus_tag⟩, scheduled⟩, ?_⟩
    rw [DeliveryOutcome.retryable?_tag]
    by_cases final : attempt.decision.tag = .terminal
    · rw [if_pos final, decided.1 final]
      rfl
    · rw [if_neg final]
      have retryable := mt decided.2 final
      rwa [Bool.not_eq_false] at retryable
  unfold makeDeliveryAttemptRecord
  rw [checked]
  constructor
  · rintro ⟨record, made⟩
    by_contra large
    simp only at made
    rw [dif_neg fun h => large h.2.2] at made
    cases made
  · intro safe
    exact ⟨_, dif_pos ⟨numbered, consistent, safe⟩⟩

/-! ## Whole delays -/

theorem wholeMillis_toMillis (millis : ℕ) : wholeMillis (toMillis (millis * nanosPerMilli)) = some millis := by
  have nonzero : (nanosPerMilli : ℚ) ≠ 0 := by norm_num [nanosPerMilli]
  have quotient : toMillis (millis * nanosPerMilli) = (millis : Number) := by
    rw [toMillis, Nat.cast_mul, mul_div_cancel_right₀ _ nonzero]
  rw [quotient, wholeMillis_natCast]

theorem currentTimeMillis_mono {earlier later : ℕ} (before : earlier ≤ later) :
    currentTimeMillis earlier ≤ currentTimeMillis later :=
  Nat.div_le_div_right before

namespace RetryEngine

section Recordable

variable {E : Type*} {resilience : DeliveryResilience} {deadline retries delay : ℕ} {turn : Turn E}

/-- What the clamp left uncut is whole, since both of its parts are. -/
theorem scheduleStep_whole (step : scheduleStep resilience deadline retries turn = some delay)
    (clamped : turn.clampedAt ≤ turn.decidedAt) : ∃ millis, delay = millis * nanosPerMilli := by
  have uncut := scheduleStep_uncut step clamped
  rw [retryAfter_eq, jittered] at uncut
  obtain first | second := le_total (⌊toMillis (cappedBackoff resilience retries) * turn.fraction⌋₊ * nanosPerMilli)
    (turn.outcome.retryAfterMillis.getD 0 * nanosPerMilli)
  · rw [max_eq_right first] at uncut
    exact ⟨_, uncut⟩
  · rw [max_eq_left second] at uncut
    exact ⟨_, uncut⟩

/-- The numbers of a turn are safe integers: the ordinal, the instants, the status, and the random part of the delay
when there may be a retry before the deadline. -/
structure Safe (resilience : DeliveryResilience) (deadline ordinal retries : ℕ) (turn : Turn E) : Prop where
  ordinal : ordinal ≤ maxSafeInteger
  started : currentTimeMillis turn.startedAt ≤ maxSafeInteger
  completed : currentTimeMillis turn.completedAt ≤ maxSafeInteger
  status : ∀ status ∈ turn.outcome.status?, isSafeInteger status = true
  jitter : isRetryable turn.outcome = true → retries < resilience.maxAttempts - 1 →
    turn.decidedAt + jittered (cappedBackoff resilience retries) turn.fraction < deadline →
    jittered (cappedBackoff resilience retries) turn.fraction ≤ maxSafeInteger * nanosPerMilli

/-- A configuration whose delays are safe in milliseconds keeps the random parts of them safe. -/
theorem jittered_safe (usual : resilience.maxDelay ≤ maxSafeInteger * nanosPerMilli) (monotone : turn.Monotone) :
    jittered (cappedBackoff resilience retries) turn.fraction ≤ maxSafeInteger * nanosPerMilli := by
  have part := jittered_le (cappedBackoff resilience retries) monotone.fraction_nonneg monotone.fraction_lt
  have capped : cappedBackoff resilience retries ≤ resilience.maxDelay := min_le_right _ _
  omega

/-- The integers of an attempt are those of its turn and its delay. -/
theorem integers_safe {ordinal : ℕ} {decision : DeliveryAttemptDecision} {checked : Option ℕ} {claim : DeliveryClaim}
    (valid : (claim.generation : ℕ) ≤ maxSafeInteger) :
    ((withDecision (turn.observe ordinal) decision).integers claim checked).all isSafeInteger = true ↔
      ordinal ≤ maxSafeInteger ∧ currentTimeMillis turn.startedAt ≤ maxSafeInteger ∧
        currentTimeMillis turn.completedAt ≤ maxSafeInteger ∧
        (∀ status ∈ turn.outcome.status?, isSafeInteger status = true) ∧ ∀ delay ∈ checked, delay ≤ maxSafeInteger := by
  cases checked <;> simp [DeliveryAttempt.integers, withDecision, Turn.observe, valid]

/-- A turn whose attempt is recorded under this decision has safe numbers exactly if the delay is safe when the random
part of it must be. -/
theorem recordable_withDecision {ordinal : ℕ} {decision : DeliveryAttemptDecision} {checked : Option ℕ}
    (monotone : turn.Monotone) (numbered : 0 < ordinal) (whole : decision.recordedDelay = some checked)
    (decided : decision.tag = .terminal ↔ isRetryable turn.outcome = false)
    (sized : (∀ delay ∈ checked, delay ≤ maxSafeInteger) ↔
      (isRetryable turn.outcome = true → retries < resilience.maxAttempts - 1 →
        turn.decidedAt + jittered (cappedBackoff resilience retries) turn.fraction < deadline →
        jittered (cappedBackoff resilience retries) turn.fraction ≤ maxSafeInteger * nanosPerMilli))
    (deliveryId : DeliveryId) {claim : DeliveryClaim} (valid : (claim.generation : ℕ) ≤ maxSafeInteger)
    {trace : AttemptTraceCorrelation} (paired : trace.traceId.isNone = trace.spanId.isNone) :
    (∃ record, makeDeliveryAttemptRecord deliveryId claim (withDecision (turn.observe ordinal) decision) trace =
      some record) ↔ Safe resilience deadline ordinal retries turn := by
  rw [DeliveryAttempt.recordable_iff numbered (currentTimeMillis_mono monotone.started) whole decided
    deliveryId claim paired, integers_safe valid, sized]
  constructor
  · rintro ⟨ordinal, started, completed, status, jitter⟩
    exact ⟨ordinal, started, completed, status, jitter⟩
  · rintro ⟨ordinal, started, completed, status, jitter⟩
    exact ⟨ordinal, started, completed, status, jitter⟩

/-- An exhausted run has no retry whose random part would have to be safe. -/
theorem jitter_of_exhausted (prompt : retryAfter turn.outcome ≤ maxSafeInteger * nanosPerMilli)
    (step : scheduleStep resilience deadline retries turn = none) (count : retries < resilience.maxAttempts - 1)
    (before : turn.decidedAt + jittered (cappedBackoff resilience retries) turn.fraction < deadline) :
    jittered (cappedBackoff resilience retries) turn.fraction ≤ maxSafeInteger * nanosPerMilli := by
  by_contra large
  -- the random part exceeds any Retry-After, so it is the delay unless the clamp cuts it
  have dominates : retryAfter turn.outcome ≤ jittered (cappedBackoff resilience retries) turn.fraction :=
    prompt.trans (Nat.le_of_not_ge large)
  unfold scheduleStep at step
  rw [max_eq_left dominates, if_pos ⟨count, (Nat.add_le_add_left (min_le_left _ _) _).trans_lt before⟩] at step
  cases step

/-- A scheduled delay is safe exactly if its random part is. -/
theorem sized_of_scheduled (monotone : turn.Monotone) (prompt : retryAfter turn.outcome ≤ maxSafeInteger * nanosPerMilli)
    (again : isRetryable turn.outcome = true) {millis : ℕ}
    (step : scheduleStep resilience deadline retries turn = some (millis * nanosPerMilli)) :
    (∀ delay ∈ some millis, delay ≤ maxSafeInteger) ↔
      (isRetryable turn.outcome = true → retries < resilience.maxAttempts - 1 →
        turn.decidedAt + jittered (cappedBackoff resilience retries) turn.fraction < deadline →
        jittered (cappedBackoff resilience retries) turn.fraction ≤ maxSafeInteger * nanosPerMilli) := by
  obtain ⟨count, before, -⟩ := scheduleStep_eq_some step
  have uncut := scheduleStep_uncut step monotone.clamped
  have scale : millis ≤ maxSafeInteger ↔ millis * nanosPerMilli ≤ maxSafeInteger * nanosPerMilli :=
    (Nat.mul_le_mul_right_iff (by decide)).symm
  constructor
  · intro safe _ _ _
    have fits := scale.1 (safe millis rfl)
    omega
  · rintro safe delay ⟨⟩
    have part := safe again count (by omega)
    exact scale.2 (by omega)

variable {deliveryId : DeliveryId} {destinationId : DestinationId} {turns : ℕ → Turn E} {loop : EngineLoop}
  {rounds : List Round} {exit : Except E DeliveryResult} {claim : DeliveryClaim} {trace : AttemptTraceCorrelation}

/-- **Each attempt of a story can be recorded exactly if the numbers of its turn are safe.** -/
theorem Story.recordable (monotone : ∀ n, (turns n).Monotone)
    (prompt : ∀ n, retryAfter (turns n).outcome ≤ maxSafeInteger * nanosPerMilli)
    (valid : (claim.generation : ℕ) ≤ maxSafeInteger) (paired : trace.traceId.isNone = trace.spanId.isNone)
    (story : Story deliveryId destinationId resilience deadline turns loop rounds exit) : 0 < loop.ordinal →
      ∀ k round, rounds[k]? = some round →
        ((∃ record, makeDeliveryAttemptRecord deliveryId claim round.attempt trace = some record) ↔
          Safe resilience deadline (loop.ordinal + k) (loop.retries + k) (turns (loop.retries + k))) := by
  have scheduled (loop : EngineLoop) (delay : Option ℕ) {duration : ℕ} (numbered : 0 < loop.ordinal)
      (again : isRetryable (turns loop.retries).outcome = true)
      (step : scheduleStep resilience deadline loop.retries (turns loop.retries) = some duration) :
      (∃ record, makeDeliveryAttemptRecord deliveryId claim
          (round deadline turns loop (.retryScheduled (toMillis duration)) delay).attempt trace = some record) ↔
        Safe resilience deadline loop.ordinal loop.retries (turns loop.retries) := by
    obtain ⟨millis, rfl⟩ := scheduleStep_whole step (monotone loop.retries).clamped
    have whole : (DeliveryAttemptDecision.retryScheduled (toMillis (millis * nanosPerMilli))).recordedDelay =
        some (some millis) := by
      rw [DeliveryAttemptDecision.recordedDelay, wholeMillis_toMillis, Option.map_some]
    exact recordable_withDecision (monotone loop.retries) numbered whole (by simp [DeliveryAttemptDecision.tag, again])
      (sized_of_scheduled (monotone loop.retries) (prompt loop.retries) again step) deliveryId valid paired
  induction story with
  | terminal loop final =>
    intro numbered k round here
    rw [List.getElem?_singleton] at here
    obtain ⟨rfl, same⟩ := Option.ite_none_right_eq_some.1 here
    rw [Option.some.injEq] at same
    subst same
    have whole : DeliveryAttemptDecision.recordedDelay .terminal = some none := rfl
    exact recordable_withDecision (monotone loop.retries) numbered whole (by simp [DeliveryAttemptDecision.tag, final])
      (by simp [final]) deliveryId valid paired
  | exhausted loop again step =>
    intro numbered k round here
    rw [List.getElem?_singleton] at here
    obtain ⟨rfl, same⟩ := Option.ite_none_right_eq_some.1 here
    rw [Option.some.injEq] at same
    subst same
    have bounded := jitter_of_exhausted (prompt loop.retries) step
    have whole : DeliveryAttemptDecision.recordedDelay .exhausted = some none := rfl
    exact recordable_withDecision (monotone loop.retries) numbered whole (by simp [DeliveryAttemptDecision.tag, again])
      (iff_of_true nofun fun _ => bounded) deliveryId valid paired
  | failed loop again step failed =>
    intro numbered k round here
    rw [List.getElem?_singleton] at here
    obtain ⟨rfl, same⟩ := Option.ite_none_right_eq_some.1 here
    rw [Option.some.injEq] at same
    subst same
    exact scheduled loop none numbered again step
  | @retried loop delay rounds exit again step succeeded later ih =>
    intro numbered k round here
    cases k with
    | zero =>
      rw [List.getElem?_cons_zero, Option.some.injEq] at here
      subst here
      exact scheduled loop (some delay) numbered again step
    | succ k =>
      have rest := ih (Nat.succ_pos _) k round here
      simpa only [Nat.add_assoc, Nat.add_comm 1 k] using rest

/-! ## The turns of a run -/

/-- After this turn the run goes on to the next. -/
structure Continues (resilience : DeliveryResilience) (deadline retries : ℕ) (turn : Turn E) : Prop where
  retryable : isRetryable turn.outcome = true
  scheduled : (scheduleStep resilience deadline retries turn).isSome
  recorded : turn.recorded = .ok ()

/-- A story has as many rounds as turns are reached. -/
theorem Story.reaches (story : Story deliveryId destinationId resilience deadline turns loop rounds exit) :
    ∀ n, (∀ m < n, Continues resilience deadline (loop.retries + m) (turns (loop.retries + m))) ↔ n < rounds.length := by
  -- the last round is of a turn that is not continued
  have last {loop : EngineLoop} (stops : ¬ Continues resilience deadline loop.retries (turns loop.retries)) (n : ℕ) :
      (∀ m < n, Continues resilience deadline (loop.retries + m) (turns (loop.retries + m))) ↔ n < 1 := by
    constructor
    · intro continues
      by_contra more
      exact stops (continues 0 (by omega))
    · intro first m within
      omega
  induction story with
  | terminal loop final => exact last fun continues => by simp [continues.retryable] at final
  | exhausted loop again step => exact last fun continues => by simpa [step] using continues.scheduled
  | failed loop again step failed => exact last fun continues => by simpa [failed] using continues.recorded
  | @retried loop delay rounds exit again step succeeded later ih =>
    have continues : Continues resilience deadline loop.retries (turns loop.retries) := ⟨again, by rw [step]; rfl, succeeded⟩
    intro n
    cases n with
    | zero => simp
    | succ n =>
      rw [List.length_cons, Nat.add_lt_add_iff_right, ← ih n]
      simp only [Nat.add_assoc, Nat.add_comm 1]
      constructor
      · intro all m within
        exact all (m + 1) (by omega)
      · intro rest m within
        cases m with
        | zero => exact continues
        | succ m => exact rest m (by omega)

end Recordable

/-- The turns of a run whose requests end so. -/
def sending {E : Type*} (dateParse : String → Option ℤ) (destinationId : DestinationId) (turns : ℕ → Turn E)
    (exits : ℕ → SendExit) (n : ℕ) : Turn E :=
  { turns n with outcome := (exits n).outcome dateParse destinationId }

theorem sending_monotone {E : Type*} (dateParse : String → Option ℤ) (destinationId : DestinationId) {turns : ℕ → Turn E}
    (monotone : ∀ n, (turns n).Monotone) (exits : ℕ → SendExit) (n : ℕ) :
    (sending dateParse destinationId turns exits n).Monotone := by
  obtain ⟨nonneg, lt_one, asked, started, completed, clamped⟩ := monotone n
  exact ⟨nonneg, lt_one, asked, started, completed, clamped⟩

/-- No response asks for a delay that is not safe. -/
theorem retryAfter_safe {dateParse : String → Option ℤ} (clips : ClipsTime dateParse) (destinationId : DestinationId)
    (exit : SendExit) : retryAfter (exit.outcome dateParse destinationId) ≤ maxSafeInteger * nanosPerMilli := by
  rw [retryAfter_eq]
  refine Nat.mul_le_mul_right _ ?_
  cases exit with
  | transportError | timeout => exact Nat.zero_le _
  | responded response nowMillis =>
    have parsed : (classifyDeliveryResponse dateParse destinationId response nowMillis).retryAfterMillis = none ∨
        (classifyDeliveryResponse dateParse destinationId response nowMillis).retryAfterMillis =
          parseRetryAfterMillis dateParse response.retryAfter nowMillis := by
      unfold classifyDeliveryResponse
      simp only
      split_ifs <;> simp [DeliveryOutcome.retryAfterMillis]
    rw [SendExit.outcome]
    obtain none | given := parsed
    · rw [none]
      exact Nat.zero_le _
    · rw [given]
      cases delay : parseRetryAfterMillis dateParse response.retryAfter nowMillis with
      | none => exact Nat.zero_le _
      | some millis => exact parseRetryAfterMillis_safe clips delay

end RetryEngine

namespace Sample

/-- `Date.parse` on the one date of the sample. -/
def httpDate (text : String) : Option ℤ :=
  if text = "Thu, 01 Jan 2026 00:00:05 GMT" then some 1767225605000 else none

theorem httpDate_clips : ClipsTime httpDate := by
  intro text timestamp dated
  obtain ⟨-, same⟩ := Option.ite_none_right_eq_some.1 dated
  rw [Option.some.injEq] at same
  omega

/-- Half a millisecond, doubled up to a millisecond and a quarter. -/
def brief : DeliveryResilience where
  attemptTimeout := Nat.toPNat' 999999
  maxAttempts := Nat.toPNat' 4
  maxElapsed := Nat.toPNat' 20000000000
  baseDelay := Nat.toPNat' 500000
  maxDelay := Nat.toPNat' 1250000

/-- A date five seconds ahead, a timeout, a numeral, and success. -/
def answers : ℕ → SendExit
  | 0 => .responded ⟨429, some "Thu, 01 Jan 2026 00:00:05 GMT"⟩ 1767225600000
  | 1 => .timeout
  | 2 => .responded ⟨429, some " 3 "⟩ 1767225605002
  | _ => .responded ⟨204, none⟩ 1767225608003

/-- Attempts six seconds apart, read half a millisecond late. -/
def spaced (n : ℕ) : Turn String where
  askedAt := 6000000000 * n
  startedAt := 6000000000 * n + 250000
  completedAt := 6000000000 * n + 750000
  outcome := .timedOut ⟨"dst-8", by decide⟩
  fraction := 3 / 4
  clampedAt := 6000000000 * n + 750000
  decidedAt := 6000000000 * n + 800000
  recorded := .ok ()

theorem spaced_monotone (n : ℕ) : (spaced n).Monotone := by
  constructor <;> norm_num [spaced]

/-- Delays of 1e17 milliseconds, in a window ten times as long. -/
def patient : DeliveryResilience where
  attemptTimeout := Nat.toPNat' 10000000000
  maxAttempts := Nat.toPNat' 5
  maxElapsed := Nat.toPNat' 1000000000000000000000000
  baseDelay := Nat.toPNat' 100000000000000000000000
  maxDelay := Nat.toPNat' 100000000000000000000000

/-- The first request times out, and the random number is 0.95. -/
def late (_ : ℕ) : Turn String where
  askedAt := 0
  startedAt := 0
  completedAt := 10000000000
  outcome := .timedOut ⟨"dst-8", by decide⟩
  fraction := 19 / 20
  clampedAt := 10000000000
  decidedAt := 10000000000
  recorded := .ok ()

theorem late_monotone (n : ℕ) : (late n).Monotone := by
  constructor <;> norm_num [late]

end Sample

example : parseRetryAfterMillis Sample.httpDate (some " 3 ") 1767225605002 = some 3000 := by decide +kernel

end Relay
