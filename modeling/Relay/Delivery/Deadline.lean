import Relay.Delivery.Engine

/-!
# The elapsed budget (`src/deliveryWorker.ts`)

The engine tells an attempt how much of its window remains and the worker clamps
the timeout to that. The worker then waits for two permits before it starts the
attempt, and that wait is not part of the window: an attempt stays within the
budget exactly when what it waits leaves room for it.
-/

namespace Relay

/-- The attempt of `execute`: `withCapacity` around `observeDeliveryAttempt`. -/
def executeAttempt (destinationId : DestinationId) (resilience : DeliveryResilience) (ordinal now remaining : ℕ)
    (response : Response) : AttemptObservation :=
  observeDeliveryAttempt ordinal destinationId (min resilience.attemptTimeout remaining) (now + response.wait)
    response

/-- `DeliveryWorker.execute`, up to the recording and publishing of what it returns. -/
def execute (deliveryId : DeliveryId) (destinationId : DestinationId) (resilience : DeliveryResilience)
    (firstAttemptOrdinal startedAt : ℕ) (responses : List Response) : List EngineAttempt × Option DeliveryResult :=
  runDeliveryWithRetry deliveryId destinationId resilience (executeAttempt destinationId resilience)
    firstAttemptOrdinal startedAt responses

section Deadline

variable {deliveryId : DeliveryId} {destinationId : DestinationId} {resilience : DeliveryResilience}

/-- A retry is asked for before the deadline. -/
theorem retryDelay_lt {deadline now retries delay : ℕ} {fraction : ℚ} {outcome : DeliveryOutcome}
    (retry : retryDelay resilience deadline now retries fraction outcome = some delay) : now + delay < deadline := by
  obtain ⟨⟨-, before⟩, same⟩ := Option.ite_none_right_eq_some.1 retry
  rw [Option.some.injEq] at same
  rw [← same]
  exact before

/-- Every attempt is asked for within the window, and executed with what remains of it. -/
theorem runAttempts_asked {execute : (ordinal now remaining : ℕ) → Response → AttemptObservation} {deadline : ℕ}
    (responses : List Response) : ∀ {retries ordinal now : ℕ} {history : List DeliveryAttempt}, now ≤ deadline →
    ∀ a ∈ (runAttempts deliveryId destinationId resilience execute deadline retries ordinal now history responses).1,
      a.askedAt ≤ deadline ∧ ∃ ordinal, a.observed = execute ordinal a.askedAt (deadline - a.askedAt) a.response := by
  induction responses with
  | nil =>
    intro retries ordinal now history within a member
    cases member
  | cons response responses ih =>
    intro retries ordinal now history within a member
    rw [runAttempts] at member
    split at member
    · rw [List.mem_singleton.1 member]
      exact ⟨within, ordinal, rfl⟩
    · split at member
      · rw [List.mem_singleton.1 member]
        exact ⟨within, ordinal, rfl⟩
      · next delay retry =>
        rcases List.mem_cons.1 member with rfl | later
        · exact ⟨within, ordinal, rfl⟩
        · have before := retryDelay_lt retry
          apply ih _ a later
          omega

variable (deliveryId destinationId resilience) in
/-- **An attempt stays within the elapsed budget exactly when it gets its permits at once, or what it waits
and its request, cut off at the timeout, fit into the window that remained when it was asked for.** -/
theorem execute_within_budget (firstAttemptOrdinal startedAt : ℕ) (responses : List Response) :
    (∀ a ∈ (execute deliveryId destinationId resilience firstAttemptOrdinal startedAt responses).1,
      a.observed.startedAt ≤ startedAt + resilience.maxElapsed ∧
        a.observed.completedAt ≤ startedAt + resilience.maxElapsed) ↔
    ∀ a ∈ (execute deliveryId destinationId resilience firstAttemptOrdinal startedAt responses).1,
      a.response.wait = 0 ∨
        a.response.wait + min a.response.settles resilience.attemptTimeout ≤
          startedAt + resilience.maxElapsed - a.askedAt := by
  have asked : ∀ a ∈ (execute deliveryId destinationId resilience firstAttemptOrdinal startedAt responses).1,
      a.askedAt ≤ startedAt + resilience.maxElapsed ∧ ∃ ordinal, a.observed = executeAttempt destinationId resilience
        ordinal a.askedAt (startedAt + resilience.maxElapsed - a.askedAt) a.response :=
    runAttempts_asked responses (Nat.le_add_right _ _)
  refine forall₂_congr ?_
  intro a member
  obtain ⟨within, ordinal, observed⟩ := asked a member
  rw [observed]
  simp only [executeAttempt, observeDeliveryAttempt]
  constructor
  · rintro ⟨-, completed⟩
    omega
  · rintro (atOnce | fits)
    · omega
    · omega

end Deadline

/-- An attempt that waits for its permits past the deadline. -/
theorem execute_late : ¬ ∀ (deliveryId : DeliveryId) (destinationId : DestinationId)
    (resilience : DeliveryResilience) (firstAttemptOrdinal startedAt : ℕ) (responses : List Response),
    ∀ a ∈ (execute deliveryId destinationId resilience firstAttemptOrdinal startedAt responses).1,
      a.observed.startedAt ≤ startedAt + resilience.maxElapsed ∧
        a.observed.completedAt ≤ startedAt + resilience.maxElapsed := by
  intro within
  have late := (within ⟨"dlv-1", by decide⟩ ⟨"dst-1", by decide⟩ ⟨10, 1, 20, 1, 1⟩ 1 0
    [⟨30, 5, .delivered ⟨"dst-1", by decide⟩ 204, 0⟩] _ List.mem_cons_self).1
  revert late
  decide

end Relay
