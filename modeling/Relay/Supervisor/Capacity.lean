import Relay.Library.Gate
import Relay.Supervisor.Protocol

/-!
# Capacity (`src/deliveryAdmission.ts`, `src/deliverySupervisor.ts`)

Three bounds keep the supervisor's load in check. `admit` lets a `deliverTo` in or turns
it away at once; a claim that has come through the request queue waits for a dispatch
permit, which its fiber gives back; an attempt waits in `withCapacity`. The bodies of
calls and attempts are left open: they end in any way at any step, and so do
interruptions and cancellations, which unwind what is held at that moment. A semaphore's
waiters are served in any order.
-/

namespace Relay

open Gate (Limits Stage Move TaskExit Moved Holding Account)

structure DeliveryConcurrency where
  global : ℕ+
  perDestination : ℕ+

structure DeliveryFlow where
  deliveryRequestsCapacity : ℕ+
  deliveryRequestsPerDestinationCapacity : ℕ+

structure CapacityConfiguration where
  concurrency : DeliveryConcurrency
  flow : DeliveryFlow

namespace CapacityConfiguration

variable (configuration : CapacityConfiguration)

/-- The permits of `globalAdmission` and of each of the `destinationAdmissions`. -/
def admissionLimits : Limits :=
  ⟨configuration.flow.deliveryRequestsCapacity, configuration.flow.deliveryRequestsPerDestinationCapacity⟩

/-- The permits of `globalCapacity` and of each of the `destinationCapacities`. -/
def concurrencyLimits : Limits := ⟨configuration.concurrency.global, configuration.concurrency.perDestination⟩

/-- `admit` takes its permits with `withPermitsIfAvailable`. -/
def admitStep (admission : Gate DestinationId) (destinationId : DestinationId) : Stage → Move → Option (Gate DestinationId × Stage) :=
  admission.move configuration.admissionLimits destinationId false

/-- `withCapacity` takes its permits with `withPermit`. -/
def withCapacity (capacity : Gate DestinationId) (destinationId : DestinationId) :
    Stage → Move → Option (Gate DestinationId × Stage) :=
  capacity.move configuration.concurrencyLimits destinationId true

end CapacityConfiguration

/-! ## Calls and jobs -/

/-- How far a call is with what it does once it is let in. -/
inductive Body where
  | preparing
  /-- The claim is in the request queue, its result to come. -/
  | waiting
  /-- The request queue was full. -/
  | dropped
  | ended (exit : TaskExit)
deriving DecidableEq

def Body.stop (exit : TaskExit) : Body → Body
  | .ended exit' => .ended exit'
  | _ => .ended exit

structure CapacityCall where
  entrance : Entrance
  destinationId : DestinationId
  /-- Where a `deliverTo` is in `admit`; the other calls do not pass it. -/
  stage : Option Stage
  body : Body
deriving DecidableEq

namespace CapacityCall

def enter (entrance : Entrance) (destinationId : DestinationId) : CapacityCall :=
  ⟨entrance, destinationId, if entrance = .deliverTo then some .arriving else none, .preparing⟩

variable (call : CapacityCall)

def holding : Holding DestinationId := ⟨call.destinationId, call.stage.elim .nothing (·.hold)⟩

/-- The body runs. -/
def runs : Bool := (call.stage = none || call.stage = some .inside) && !(call.body matches .ended _)

/-- `admit` found no permit. -/
def isRejected : Bool := call.stage = some (.gone .refusedByKey) || call.stage = some (.gone .refusedByWhole)

def isOver : Bool :=
  (call.body matches .ended _) &&
  match call.stage with
  | none | some (.gone _) => true
  | _ => false

/-- The task leaves the gate as its body has ended. -/
def follows : Move → Bool
  | .exit exit => call.body = .ended exit
  | _ => true

def interrupt : CapacityCall :=
  { call with stage := call.stage.map (·.interrupt), body := call.body.stop .interrupted }

end CapacityCall

inductive JobProgress where
  | processing
  /-- `processJob` is done; the dispatch permit is to be released. -/
  | ended
  | finished
deriving DecidableEq

/-- A fiber of `deliveries`. -/
structure CapacityJob where
  destinationId : DestinationId
  /-- Where its last attempt is in `withCapacity`. -/
  attempt : Option Stage
  progress : JobProgress
deriving DecidableEq

namespace CapacityJob

variable (job : CapacityJob)

def holding : Holding DestinationId := ⟨job.destinationId, job.attempt.elim .nothing (·.hold)⟩

def betweenAttempts : Bool :=
  match job.attempt with
  | none | some (.gone _) => true
  | _ => false

/-- Its share of the dispatch permits. -/
def unfinished : ℤ := if job.progress = .finished then 0 else 1

/-- No attempt is under way once `processJob` is done. -/
def Sound : Prop := job.progress ≠ .processing → job.betweenAttempts = true

variable {job}

theorem gone_of_betweenAttempts {stage : Stage} (between : job.betweenAttempts = true) (attempt : job.attempt = some stage) :
    ∃ departure, stage = .gone departure := by
  cases stage <;> simp [betweenAttempts, attempt] at between ⊢

theorem holds_nothing (between : job.betweenAttempts = true) : job.holding.hold = .nothing := by
  cases attempt : job.attempt with
  | none => simp [holding, attempt]
  | some stage =>
    obtain ⟨departure, rfl⟩ := gone_of_betweenAttempts between attempt
    simp [holding, attempt, Stage.hold]

end CapacityJob

inductive Dispatcher where
  /-- What was taken from the queue waits for permits. -/
  | waiting (taken : List DestinationId)
  /-- A dispatch permit is held for a job whose fiber has not been started. -/
  | permitted (job : DestinationId) (taken : List DestinationId)
  | stopped
deriving DecidableEq

/-! ## The system -/

structure CapacityState where
  /-- `globalAdmission`, `destinationAdmissions` and `admitted`. -/
  admission : Gate DestinationId
  rejected : ℕ
  /-- `globalCapacity`, `destinationCapacities` and `active`. -/
  capacity : Gate DestinationId
  requests : List DestinationId
  dispatchPermits : Semaphore
  dispatcher : Dispatcher
  calls : List CapacityCall
  deliveries : List CapacityJob

inductive CapacityLabel where
  | call (entrance : Entrance) (destinationId : DestinationId)
  | admitStep (i : ℕ) (move : Move)
  | overload (i : ℕ)
  | offer (i : ℕ)
  | settle (i : ℕ) (exit : TaskExit)
  | interruptCall (i : ℕ)
  | take (n : ℕ)
  | takePermit
  | run
  | stop
  | executeAttempt (k : ℕ)
  | withCapacity (k : ℕ) (move : Move)
  | interruptAttempt (k : ℕ)
  | endJob (k : ℕ)
  | ensure (k : ℕ)

/-- The call a step belongs to. -/
def CapacityLabel.caller : CapacityLabel → Option ℕ
  | .admitStep i _ | .overload i | .offer i | .settle i _ | .interruptCall i => some i
  | _ => none

namespace CapacityState

variable (configuration : CapacityConfiguration) (s : CapacityState)

/-- A step of call `i`. -/
def onCall (i : ℕ) (f : CapacityCall → Option (CapacityState × CapacityCall)) : Option CapacityState :=
  s.calls[i]?.bind fun call => (f call).map fun r => { r.1 with calls := s.calls.set i r.2 }

/-- A step of the fiber of job `k`. -/
def onJob (k : ℕ) (f : CapacityJob → Option (CapacityState × CapacityJob)) : Option CapacityState :=
  s.deliveries[k]?.bind fun job => (f job).map fun r => { r.1 with deliveries := s.deliveries.set k r.2 }

section Calls

variable (call : CapacityCall)

def admitCall (move : Move) : Option (CapacityState × CapacityCall) :=
  if call.follows move then
    call.stage.bind fun stage =>
      (configuration.admitStep s.admission call.destinationId stage move).map fun r =>
        ({ s with admission := r.1 }, { call with stage := some r.2 })
  else none

/-- `overload`, after a refusal of `admit` or of the request queue; `enqueueClaimed` keeps it to itself. -/
def overload : Option (CapacityState × CapacityCall) :=
  if (call.isRejected && call.body = .preparing) || (call.runs && call.body = .dropped) then
    some ({ s with rejected := s.rejected + 1 },
      { call with body := .ended (if call.entrance = .enqueueClaimed then .succeeded else .failed) })
  else none

def offer : Option (CapacityState × CapacityCall) :=
  if call.runs && call.body = .preparing then
    if s.requests.length < configuration.flow.deliveryRequestsCapacity then
      some ({ s with requests := s.requests ++ [call.destinationId] },
        { call with body := if call.entrance = .enqueueClaimed then .ended .succeeded else .waiting })
    else some (s, { call with body := .dropped })
  else none

def settle (exit : TaskExit) : Option (CapacityState × CapacityCall) :=
  if call.runs then some (s, { call with body := .ended exit }) else none

def interruptCall : Option (CapacityState × CapacityCall) :=
  if call.isOver then none else some (s, call.interrupt)

end Calls

section Jobs

variable (job : CapacityJob)

def executeAttempt : Option (CapacityState × CapacityJob) :=
  if job.progress = .processing ∧ job.betweenAttempts then some (s, { job with attempt := some .arriving }) else none

def withCapacity (move : Move) : Option (CapacityState × CapacityJob) :=
  job.attempt.bind fun stage =>
    (configuration.withCapacity s.capacity job.destinationId stage move).map fun r =>
      ({ s with capacity := r.1 }, { job with attempt := some r.2 })

def interruptAttempt : Option (CapacityState × CapacityJob) :=
  job.attempt.map fun stage => (s, { job with attempt := some stage.interrupt })

def endJob : Option (CapacityState × CapacityJob) :=
  if job.progress = .processing ∧ job.betweenAttempts then some (s, { job with progress := .ended }) else none

/-- `Effect.ensuring` of a job's fiber. -/
def ensure : Option (CapacityState × CapacityJob) :=
  if job.progress = .ended then
    some ({ s with dispatchPermits := s.dispatchPermits.release }, { job with progress := .finished })
  else none

end Jobs

def step : CapacityLabel → Option CapacityState
  | .call entrance destinationId => some { s with calls := s.calls ++ [.enter entrance destinationId] }
  | .admitStep i move => s.onCall i fun call => s.admitCall configuration call move
  | .overload i => s.onCall i s.overload
  | .offer i => s.onCall i (s.offer configuration)
  | .settle i exit => s.onCall i fun call => s.settle call exit
  | .interruptCall i => s.onCall i s.interruptCall
  | .take n =>
    if s.dispatcher = .waiting [] ∧ 0 < n ∧ n ≤ s.requests.length then
      some { s with dispatcher := .waiting (s.requests.take n), requests := s.requests.drop n }
    else none
  | .takePermit =>
    match s.dispatcher with
    | .waiting (job :: rest) =>
      s.dispatchPermits.take.map fun dispatchPermits => { s with dispatchPermits, dispatcher := .permitted job rest }
    | _ => none
  | .run =>
    match s.dispatcher with
    | .permitted job rest =>
      some { s with deliveries := s.deliveries ++ [⟨job, none, .processing⟩], dispatcher := .waiting rest }
    | _ => none
  | .stop =>
    match s.dispatcher with
    | .waiting _ => some { s with dispatcher := .stopped }
    | _ => none
  | .executeAttempt k => s.onJob k s.executeAttempt
  | .withCapacity k move => s.onJob k fun job => s.withCapacity configuration job move
  | .interruptAttempt k => s.onJob k s.interruptAttempt
  | .endJob k => s.onJob k s.endJob
  | .ensure k => s.onJob k s.ensure

/-- The jobs dispatched and not finished. -/
def unfinished : ℕ := s.deliveries.countP fun job => job.progress ≠ .finished

/-- The dispatcher holds a permit of its own. -/
def dispatching : ℤ :=
  match s.dispatcher with
  | .permitted _ _ => 1
  | _ => 0

/-- No call is in progress, and no job. -/
def Idle : Prop :=
  (∀ call ∈ s.calls, call.isOver) ∧ (∀ job ∈ s.deliveries, job.progress = .finished) ∧ s.dispatching = 0

instance : Decidable s.Idle := inferInstanceAs (Decidable (_ ∧ _ ∧ _))

end CapacityState

namespace CapacityConfiguration

/-- `makeDeliveryAdmission` and the semaphore of `makeDeliverySupervisorLive`, before the first call. -/
def start (configuration : CapacityConfiguration) : CapacityState where
  admission := .make configuration.admissionLimits
  rejected := 0
  capacity := .make configuration.concurrencyLimits
  requests := []
  dispatchPermits := .make configuration.flow.deliveryRequestsCapacity
  dispatcher := .waiting []
  calls := []
  deliveries := []

end CapacityConfiguration

def capacitySystem (configuration : CapacityConfiguration) : TransitionSystem CapacityState CapacityLabel :=
  .ofStep configuration.start (CapacityState.step configuration)

/-! ## One step -/

section Steps

variable {configuration : CapacityConfiguration} {s s' : CapacityState}

/-- What a step of a call leaves of the rest of the state. -/
structure CallStep (configuration : CapacityConfiguration) (s s₁ : CapacityState) (call call' : CapacityCall) : Prop where
  destinationId : call'.destinationId = call.destinationId
  admission : Moved configuration.admissionLimits s.admission s₁.admission call.destinationId call.holding.hold
    call'.holding.hold
  capacity : s₁.capacity = s.capacity
  dispatchPermits : s₁.dispatchPermits = s.dispatchPermits
  dispatcher : s₁.dispatcher = s.dispatcher
  deliveries : s₁.deliveries = s.deliveries

/-- What a step of a job leaves of the rest of the state. -/
structure JobStep (configuration : CapacityConfiguration) (s s₁ : CapacityState) (job job' : CapacityJob) : Prop where
  destinationId : job'.destinationId = job.destinationId
  capacity : Moved configuration.concurrencyLimits s.capacity s₁.capacity job.destinationId job.holding.hold
    job'.holding.hold
  admission : s₁.admission = s.admission
  dispatcher : s₁.dispatcher = s.dispatcher
  calls : s₁.calls = s.calls
  permits : s₁.dispatchPermits.permits = s.dispatchPermits.permits
  /-- A dispatch permit comes back when the job finishes, and then only. -/
  taken : s₁.dispatchPermits.taken - s.dispatchPermits.taken = job'.unfinished - job.unfinished
  /-- A job ends between two attempts, and starts none afterwards. -/
  ends : job.Sound → job'.Sound

namespace CallStep

variable {s₁ : CapacityState} {call call' : CapacityCall}

theorem quiet (s : CapacityState) (rejected : ℕ) (requests : List DestinationId) {call call' : CapacityCall}
    (same : call'.holding = call.holding) : CallStep configuration s { s with rejected, requests } call call' := by
  obtain ⟨destinationId, hold⟩ := Gate.Holding.mk.inj same
  refine ⟨destinationId, ?_, rfl, rfl, rfl, rfl⟩
  rw [same]
  exact Moved.refl s.admission call.holding.hold

theorem admitCall {move : Move} (moves : s.admitCall configuration call move = some (s₁, call')) :
    CallStep configuration s s₁ call call' := by
  unfold CapacityState.admitCall at moves
  split at moves
  · obtain ⟨stage, inGate, moves⟩ := Option.bind_eq_some_iff.1 moves
    obtain ⟨⟨admission, stage'⟩, moved, after⟩ := Option.map_eq_some_iff.1 moves
    simp only [Prod.mk.injEq] at after
    obtain ⟨rfl, rfl⟩ := after
    refine ⟨rfl, ?_, rfl, rfl, rfl, rfl⟩
    simp only [CapacityCall.holding, inGate, Option.elim_some]
    exact Gate.move_moved moved
  · simp at moves

theorem overload (moves : s.overload call = some (s₁, call')) : CallStep configuration s s₁ call call' := by
  unfold CapacityState.overload at moves
  split at moves
  · simp only [Option.some.injEq, Prod.mk.injEq] at moves
    obtain ⟨rfl, rfl⟩ := moves
    exact quiet s (s.rejected + 1) s.requests rfl
  · simp at moves

theorem offer (moves : s.offer configuration call = some (s₁, call')) : CallStep configuration s s₁ call call' := by
  unfold CapacityState.offer at moves
  split at moves
  · split at moves
    · simp only [Option.some.injEq, Prod.mk.injEq] at moves
      obtain ⟨rfl, rfl⟩ := moves
      exact quiet s s.rejected (s.requests ++ [call.destinationId]) rfl
    · simp only [Option.some.injEq, Prod.mk.injEq] at moves
      obtain ⟨rfl, rfl⟩ := moves
      exact quiet s s.rejected s.requests rfl
  · simp at moves

theorem settle {exit : TaskExit} (moves : s.settle call exit = some (s₁, call')) :
    CallStep configuration s s₁ call call' := by
  unfold CapacityState.settle at moves
  split at moves
  · simp only [Option.some.injEq, Prod.mk.injEq] at moves
    obtain ⟨rfl, rfl⟩ := moves
    exact quiet s s.rejected s.requests rfl
  · simp at moves

/-- An interruption gives nothing back by itself. -/
theorem interruptCall (moves : s.interruptCall call = some (s₁, call')) : CallStep configuration s s₁ call call' := by
  unfold CapacityState.interruptCall at moves
  split at moves
  · simp at moves
  · simp only [Option.some.injEq, Prod.mk.injEq] at moves
    obtain ⟨rfl, rfl⟩ := moves
    apply quiet s s.rejected s.requests
    cases inGate : call.stage <;> simp [CapacityCall.holding, CapacityCall.interrupt, inGate]

end CallStep

namespace JobStep

variable {s₁ : CapacityState} {job job' : CapacityJob}

theorem executeAttempt (moves : s.executeAttempt job = some (s₁, job')) : JobStep configuration s s₁ job job' := by
  unfold CapacityState.executeAttempt at moves
  split at moves
  · next ready =>
    obtain ⟨processing, between⟩ := ready
    simp only [Option.some.injEq, Prod.mk.injEq] at moves
    obtain ⟨rfl, rfl⟩ := moves
    refine ⟨rfl, ?_, rfl, rfl, rfl, rfl, by simp [CapacityJob.unfinished], fun _ ended => absurd processing ended⟩
    rw [CapacityJob.holds_nothing between]
    exact Moved.refl s.capacity .nothing
  · simp at moves

theorem withCapacity {move : Move} (moves : s.withCapacity configuration job move = some (s₁, job')) :
    JobStep configuration s s₁ job job' := by
  unfold CapacityState.withCapacity at moves
  obtain ⟨stage, inGate, moves⟩ := Option.bind_eq_some_iff.1 moves
  obtain ⟨⟨capacity, stage'⟩, moved, after⟩ := Option.map_eq_some_iff.1 moves
  simp only [Prod.mk.injEq] at after
  obtain ⟨rfl, rfl⟩ := after
  refine ⟨rfl, ?_, rfl, rfl, rfl, rfl, by simp [CapacityJob.unfinished], ?_⟩
  · simp only [CapacityJob.holding, inGate, Option.elim_some]
    exact Gate.move_moved moved
  · intro sound ended
    obtain ⟨departure, gone⟩ := CapacityJob.gone_of_betweenAttempts (sound ended) inGate
    subst gone
    simp [CapacityConfiguration.withCapacity, Gate.move] at moved

theorem interruptAttempt (moves : s.interruptAttempt job = some (s₁, job')) : JobStep configuration s s₁ job job' := by
  unfold CapacityState.interruptAttempt at moves
  obtain ⟨stage, inGate, after⟩ := Option.map_eq_some_iff.1 moves
  simp only [Prod.mk.injEq] at after
  obtain ⟨rfl, rfl⟩ := after
  refine ⟨rfl, ?_, rfl, rfl, rfl, rfl, by simp [CapacityJob.unfinished], ?_⟩
  · simp only [CapacityJob.holding, inGate, Option.elim_some, Stage.hold_interrupt]
    exact Moved.refl s.capacity stage.hold
  · intro sound ended
    obtain ⟨departure, gone⟩ := CapacityJob.gone_of_betweenAttempts (sound ended) inGate
    subst gone
    rfl

theorem endJob (moves : s.endJob job = some (s₁, job')) : JobStep configuration s s₁ job job' := by
  unfold CapacityState.endJob at moves
  split at moves
  · next ready =>
    obtain ⟨processing, between⟩ := ready
    simp only [Option.some.injEq, Prod.mk.injEq] at moves
    obtain ⟨rfl, rfl⟩ := moves
    exact ⟨rfl, Moved.refl s.capacity job.holding.hold, rfl, rfl, rfl, rfl, by simp [CapacityJob.unfinished, processing],
      fun _ _ => between⟩
  · simp at moves

theorem ensure (moves : s.ensure job = some (s₁, job')) : JobStep configuration s s₁ job job' := by
  unfold CapacityState.ensure at moves
  split at moves
  · next ended =>
    simp only [Option.some.injEq, Prod.mk.injEq] at moves
    obtain ⟨rfl, rfl⟩ := moves
    refine ⟨rfl, Moved.refl s.capacity job.holding.hold, rfl, rfl, rfl, rfl, by simp [CapacityJob.unfinished, ended], ?_⟩
    intro sound _
    exact sound (by simp [ended])
  · simp at moves

end JobStep

end Steps

end Relay
