import Relay.Store.Replay
import Relay.Supervisor.Protocol

/-!
# Overloaded calls

Admission turns a call away before it has written anything, but the request queue is
shared with accepted events and reconciliation, which pass no admission. A `deliverTo`
that finds the queue full has committed its delivery already: it releases the claim,
fails with `DeliveryOverloaded`, and leaves the delivery to the next reconciliation.
-/

namespace Relay

section Overload

variable {M : InspectedStore} {configuration : SupervisorConfiguration} {s s' : SupervisorState M}

/-- A `deliverTo` call that failed with `DeliveryOverloaded` has added nothing to the store. -/
def SupervisorState.LeavesNothing (s : SupervisorState M) : Prop :=
  ∀ i call error, s.calls[i]? = some call → call.entrance = .deliverTo → call.stage = .exited (.overloaded error) →
    ∀ stored, s.added i stored = false

/-- An offer of a `deliverTo` call finds room in the request queue. -/
def FindsRoom (configuration : SupervisorConfiguration) (s : SupervisorState M) (l : SupervisorLabel M) : Prop :=
  ∀ i call, l = .offer i → s.calls[i]? = some call → call.entrance = .deliverTo →
    s.queue.length < configuration.deliveryRequestsCapacity

/-! ## One step -/

namespace SupervisorState

theorem move_eq_some {i : ℕ} {f : SupervisorCall → Option (SupervisorState M × CallStage)} (moves : s.move i f = some s') :
    ∃ call moved stage, s.calls[i]? = some call ∧ f call = some (moved, stage) ∧
      s' = { moved with calls := s.calls.set i { call with stage } } := by
  obtain ⟨call, here, moves⟩ := Option.bind_eq_some_iff.1 moves
  obtain ⟨⟨moved, stage⟩, effect, rfl⟩ := Option.map_eq_some_iff.1 moves
  exact ⟨call, moved, stage, here, effect, rfl⟩

theorem wrote_added {i k : ℕ} (away : k ≠ i) (store : M.Store) (stored : Stored) :
    (s.wrote i store).added k stored = s.added k stored := by
  simp [wrote, away]

end SupervisorState

/-! ## The invariant -/

/-- Before it writes, and when it was turned away, a call has added nothing; it is never refused by the queue. -/
def SupervisorCall.Clean (call : SupervisorCall) (added : Stored → Bool) : Prop :=
  call.entrance = .deliverTo →
    match call.stage with
    | .arriving | .admitted | .exited (.overloaded _) => ∀ stored, added stored = false
    | .refused _ => False
    | .claimed _ | .submitted | .exited _ => True

structure OverloadInvariant (s : SupervisorState M) : Prop where
  unborn : ∀ i, s.calls.length ≤ i → ∀ stored, s.added i stored = false
  clean : ∀ i (call : SupervisorCall), s.calls[i]? = some call → call.Clean (s.added i)

theorem offered_clean (call : SupervisorCall) (added : Stored → Bool) : SupervisorCall.Clean
    { call with stage := if call.entrance = .enqueueClaimed then .exited .enqueued else .submitted } added := by
  intro deliverTo
  have other : call.entrance ≠ .enqueueClaimed := by
    rw [show call.entrance = .deliverTo from deliverTo]
    simp
  simp only [if_neg other]

theorem persisted_clean (call : SupervisorCall) (reply : Reply) (added : Stored → Bool) :
    SupervisorCall.Clean { call with stage := .persisted reply } added := by
  intro _
  cases reply with
  | error failure => trivial
  | ok value =>
    unfold CallStage.persisted
    generalize handedOut (.ok value : Reply) = claimed
    cases claimed <;> trivial

/-! ## The moves of one call -/

/-- What a move of call `i` leaves of the invariant. -/
structure MoveClean (s moved : SupervisorState M) (i : ℕ) (call : SupervisorCall) (stage : CallStage) : Prop where
  added : ∀ k ≠ i, moved.added k = s.added k
  clean : call.Clean (s.added i) → SupervisorCall.Clean { call with stage } (moved.added i)

namespace MoveClean

variable {moved : SupervisorState M} {i : ℕ} {call : SupervisorCall} {stage : CallStage}

theorem admitCall (moves : s.admitCall configuration call = some (moved, stage)) : MoveClean s moved i call stage := by
  unfold SupervisorState.admitCall at moves
  split at moves
  · next arriving =>
    cases moves
    refine ⟨fun _ _ => rfl, ?_⟩
    intro clean deliverTo
    have none := clean deliverTo
    rw [arriving] at none
    cases configuration.refusal s.admitted call.destinationId with
    | none => exact none
    | some error => exact none
  · cases moves

theorem invalid (moves : s.invalid call = some (moved, stage)) : MoveClean s moved i call stage := by
  unfold SupervisorState.invalid at moves
  split at moves
  · cases moves
    exact ⟨fun _ _ => rfl, fun _ _ => trivial⟩
  · cases moves

theorem persist {passage : Passage} {nowMillis : ℕ} {c : M.Call}
    (moves : s.persist configuration i call passage nowMillis c = some (moved, stage)) :
    MoveClean s moved i call stage := by
  unfold SupervisorState.persist at moves
  split at moves
  · split at moves
    · cases moves
      exact ⟨fun k away => funext (SupervisorState.wrote_added away _), fun _ => persisted_clean call _ _⟩
    · cases moves
  · cases moves

theorem offer (room : call.entrance = .deliverTo → s.queue.length < configuration.deliveryRequestsCapacity)
    (moves : s.offer configuration i call = some (moved, stage)) : MoveClean s moved i call stage := by
  unfold SupervisorState.offer at moves
  split at moves
  · split at moves
    · cases moves
      exact ⟨fun _ _ => rfl, fun _ => offered_clean call _⟩
    · next full =>
      cases moves
      refine ⟨fun _ _ => rfl, ?_⟩
      intro _ deliverTo
      exact absurd (room deliverTo) full
  · cases moves

/-- No `deliverTo` gets so far as to release its claim. -/
theorem release {passage : Passage} {nowMillis : ℕ} {c : M.Call}
    (moves : s.release configuration i call passage nowMillis c = some (moved, stage)) :
    MoveClean s moved i call stage := by
  unfold SupervisorState.release at moves
  split at moves
  · next claimed refused =>
    split at moves
    · cases moves
      refine ⟨fun k away => funext (SupervisorState.wrote_added away _), ?_⟩
      intro clean deliverTo
      have never := clean deliverTo
      rw [refused] at never
      exact never.elim
    · cases moves
  · cases moves

theorem interrupt (moves : s.interrupt call = some (moved, stage)) : MoveClean s moved i call stage := by
  unfold SupervisorState.interrupt at moves
  split at moves
  · cases moves
  · cases moves
    exact ⟨fun _ _ => rfl, fun _ _ => trivial⟩

end MoveClean

namespace OverloadInvariant

/-- One call moves; only what it adds itself can change. -/
theorem move (inv : OverloadInvariant s) {i : ℕ} {f : SupervisorCall → Option (SupervisorState M × CallStage)}
    (keeps : ∀ call moved stage, s.calls[i]? = some call → f call = some (moved, stage) → MoveClean s moved i call stage)
    (moves : s.move i f = some s') : OverloadInvariant s' := by
  obtain ⟨call, moved, stage, here, effect, rfl⟩ := SupervisorState.move_eq_some moves
  obtain ⟨added, clean⟩ := keeps call moved stage here effect
  constructor
  case unborn =>
    intro k beyond
    rw [List.length_set] at beyond
    have bound := (List.getElem?_eq_some_iff.1 here).1
    rw [added k (by omega)]
    exact inv.unborn k beyond
  case clean =>
    intro k other there
    rw [List.getElem?_set] at there
    split at there
    · next same =>
      subst same
      split at there
      · cases there
        exact clean (inv.clean i call here)
      · cases there
    · next away =>
      rw [added k (Ne.symm away)]
      exact inv.clean k other there

/-- Calls arrive that have added nothing. -/
theorem arrive (inv : OverloadInvariant s) {calls : List SupervisorCall}
    (clean : ∀ call ∈ calls, ∀ added, (∀ stored, added stored = false) → call.Clean added) {moved : SupervisorState M}
    (added : moved.added = s.added) : OverloadInvariant { moved with calls := s.calls ++ calls } where
  unborn := by
    intro i beyond
    rw [List.length_append] at beyond
    rw [added]
    exact inv.unborn i (by omega)
  clean := by
    intro i call here
    rw [added]
    rw [List.getElem?_append] at here
    split at here
    · exact inv.clean i call here
    · next beyond => exact clean call (List.mem_of_getElem? here) _ (inv.unborn i (by omega))

/-- The calls of other entrances bring their claims along. -/
theorem enter (inv : OverloadInvariant s) {entrance : Entrance} (other : entrance ≠ .deliverTo) (reply : Reply)
    (store : M.Store) : OverloadInvariant (s.enter configuration entrance reply store) := by
  have arrived : OverloadInvariant { ({ s with store } : SupervisorState M) with
      calls := s.calls ++ (handedOut reply).map (SupervisorCall.handed entrance configuration.destination) } := by
    refine inv.arrive ?_ rfl
    intro call member added _ deliverTo
    obtain ⟨c, -, rfl⟩ := List.mem_map.1 member
    exact absurd deliverTo other
  exact arrived

/-- A settled call leaves the memory of the requests alone. -/
theorem settle (inv : OverloadInvariant s) (i : ℕ) (exit : Except JobFailure DeliveryResult) (moved : SupervisorState M)
    (added : moved.added = s.added) :
    OverloadInvariant { moved with calls := s.calls.modify i (·.settle exit) } where
  unborn := by
    intro k beyond
    rw [List.length_modify] at beyond
    rw [added]
    exact inv.unborn k beyond
  clean := by
    intro k call here
    rw [added]
    rw [List.getElem?_modify] at here
    split at here
    · obtain ⟨before, there, rfl⟩ := Option.map_eq_some_iff.1 here
      have clean := inv.clean k before there
      unfold SupervisorCall.settle
      split
      · exact fun _ => trivial
      · exact clean
    · obtain ⟨before, there, rfl⟩ := Option.map_eq_some_iff.1 here
      exact inv.clean k before there

/-- **Every step in which offers of `deliverTo` find room keeps the invariant.** -/
theorem step (inv : OverloadInvariant s) {l : SupervisorLabel M} (room : FindsRoom configuration s l)
    (step : s.step configuration l = some s') : OverloadInvariant s' := by
  cases l with
  | deliverTo destinationId =>
    cases step
    refine inv.arrive ?_ rfl
    intro call member added none
    rw [List.mem_singleton] at member
    subst member
    exact fun _ => none
  | admitCall i => exact inv.move (fun _ _ _ _ => MoveClean.admitCall) step
  | invalid i => exact inv.move (fun _ _ _ _ => MoveClean.invalid) step
  | persist i passage nowMillis c => exact inv.move (fun _ _ _ _ => MoveClean.persist) step
  | accept nowMillis c =>
    simp only [SupervisorState.step] at step
    split at step
    · split at step
      · cases step
        exact inv.enter (by simp) _ _
      · cases step
    · cases step
  | reconcile nowMillis c =>
    simp only [SupervisorState.step] at step
    split at step
    · cases step
      exact inv.enter (by simp) _ _
    · cases step
  | offer i => exact inv.move (fun call _ _ here => MoveClean.offer (room i call rfl here)) step
  | release i passage nowMillis c => exact inv.move (fun _ _ _ _ => MoveClean.release) step
  | take n =>
    simp only [SupervisorState.step] at step
    split at step
    · cases step
      exact ⟨inv.unborn, inv.clean⟩
    · cases step
  | dispatch =>
    simp only [SupervisorState.step] at step
    split at step
    · cases step
    · split at step
      · cases step
        exact ⟨inv.unborn, inv.clean⟩
      · cases step
  | settle k exit =>
    obtain ⟨job, -, rfl⟩ := Option.map_eq_some_iff.1 step
    exact inv.settle job.call exit { s with deliveries := s.deliveries.eraseIdx k } rfl
  | interrupt i => exact inv.move (fun _ _ _ _ => MoveClean.interrupt) step
  | environment nowMillis c =>
    simp only [SupervisorState.step] at step
    split at step
    · cases step
      exact ⟨inv.unborn, inv.clean⟩
    · cases step

end OverloadInvariant

/-- **An overloaded `deliverTo` leaves nothing behind**, in every run in which the offers of `deliverTo` find room. -/
theorem overloaded_leavesNothing (adapter : Adapter) (configuration : SupervisorConfiguration)
    {s : SupervisorState adapter.inspected}
    (reachable : ((supervisorSystem adapter.inspected configuration).restrict (FindsRoom configuration)).Reachable s) :
    s.LeavesNothing := by
  have inv : OverloadInvariant s := by
    refine reachable.invariant_restrict OverloadInvariant ?_ ?_
    · exact ⟨fun _ _ _ => rfl, fun i call here => by cases here⟩
    · rintro s l s' - room inv step
      exact inv.step room step
  intro i call error here deliverTo overloaded
  have clean := inv.clean i call here deliverTo
  rw [overloaded] at clean
  exact clean

end Overload

/-! ## A queue of one request -/

namespace Sample

def supervision : SupervisorConfiguration := ⟨worker, destination, 10, 1000, Nat.toPNat' 1, Nat.toPNat' 1, le_refl _⟩

/-- Two calls at once: the second one is turned away by admission. -/
def crowding : List (SupervisorLabel Adapter.memory.inspected) :=
  [.deliverTo destination, .deliverTo destination, .admitCall 0, .admitCall 1]

def submittedAs (key : IngestionKey) (eventId : EventId) (deliveryId : DeliveryId) : StoreCall :=
  .accept { record with ingestionKey := key, event := { event with id := eventId }, deliveryId }

def written : DeliveryId := ⟨"dlv-4", by decide⟩

/-- Accepted events keep the only dispatch permit, the dispatcher and the queue busy. -/
def flooding : List (SupervisorLabel Adapter.memory.inspected) :=
  [.accept 0 (submittedAs key event.id delivery), .offer 0, .take 1, .dispatch,
    .accept 0 (submittedAs ⟨"key-2", by decide⟩ ⟨"evt-2", by decide⟩ ⟨"dlv-2", by decide⟩), .offer 1, .take 1,
    .accept 0 (submittedAs ⟨"key-3", by decide⟩ ⟨"evt-3", by decide⟩ ⟨"dlv-3", by decide⟩), .offer 2,
    .deliverTo destination, .admitCall 3,
    .persist 3 .answered 0 (.savePending { event with id := ⟨"evt-4", by decide⟩ } written destination ⟨worker, 1000⟩),
    .offer 3, .release 3 .answered 0 (.releaseClaim written claim)]

end Sample

theorem overloaded_leavesNothing_crowded : ∃ s : SupervisorState Adapter.memory.inspected,
    s.calls[1]? = some ⟨.deliverTo, Sample.destination,
      .exited (.overloaded ⟨1, Sample.destination, .destinationAdmission⟩)⟩ ∧ s.LeavesNothing := by
  have ends : (Sample.crowding.foldlM (SupervisorState.step Sample.supervision)
      (supervisorSystem Adapter.memory.inspected Sample.supervision).init).map (fun s => s.calls[1]?) =
      some (some ⟨.deliverTo, Sample.destination,
        .exited (.overloaded ⟨1, Sample.destination, .destinationAdmission⟩)⟩) := by
    decide +kernel
  obtain ⟨s, run, turnedAway⟩ := Option.map_eq_some_iff.1 ends
  have path : (supervisorSystem Adapter.memory.inspected Sample.supervision).Run Sample.crowding s :=
    TransitionSystem.path_of_foldlM run
  have unoffered : ∀ l ∈ Sample.crowding, ∀ s, FindsRoom Sample.supervision s l := by
    intro l member s i call offer
    subst offer
    simp [Sample.crowding] at member
  exact ⟨s, turnedAway, overloaded_leavesNothing .memory Sample.supervision ⟨_, path.restrict unoffered⟩⟩

/-- **A full queue rejects a call that has written its delivery.** -/
theorem overloaded_leaves : ¬ ∀ (adapter : Adapter) (configuration : SupervisorConfiguration)
    (s : SupervisorState adapter.inspected), (supervisorSystem adapter.inspected configuration).Reachable s →
      s.LeavesNothing := by
  intro nothing
  have ends : (Sample.flooding.foldlM (SupervisorState.step Sample.supervision)
      (supervisorSystem Adapter.memory.inspected Sample.supervision).init).map
      (fun s => (s.calls[3]?, s.added 3 (.delivery Sample.written))) =
      some (some ⟨.deliverTo, Sample.destination,
        .exited (.overloaded ⟨1, Sample.destination, .globalAdmission⟩)⟩, true) := by
    decide +kernel
  obtain ⟨s, run, final⟩ := Option.map_eq_some_iff.1 ends
  obtain ⟨call, added⟩ := Prod.mk.inj final
  have none := nothing .memory Sample.supervision s ⟨_, TransitionSystem.path_of_foldlM run⟩ 3 _ _ call rfl rfl
    (.delivery Sample.written)
  rw [added] at none
  cases none

end Relay
