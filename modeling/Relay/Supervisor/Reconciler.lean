import Relay.Library.Sweep
import Relay.Supervisor.Capacity

/-!
# The reconciler (`src/reconciler.ts`)

A pass of `reconcileOnce` claims a batch under the mutex and resumes its deliveries, as many
at a time as attempts may run at all. Operators call it, and a loop repeats it. The calls of
a batch are put down when it is claimed; the supervisor's steps leave a call alone until its
pass has come to it. An interruption of a pass interrupts the calls that are under way, and
so does the end of a call that dies or is interrupted: only its failures are caught.
-/

namespace Relay

structure ReconcilerConfiguration extends SupervisorConfiguration where
  concurrency : DeliveryConcurrency

/-! ## Passes -/

inductive PassExit where
  | reported (claimed : ℕ)
  | failed (failure : Failure)
  /-- From outside, or as one of its calls died or was interrupted. -/
  | interrupted
deriving DecidableEq

inductive PassStage (limit : ℕ) where
  /-- For the permit of the mutex. -/
  | waiting
  | claiming
  /-- `afterClaim` runs. -/
  | claimed
  | resuming (sweep : Sweep limit)
  /-- Interrupted, while calls may be under way. -/
  | unwinding (sweep : Sweep limit)
  | exited (exit : PassExit)
deriving DecidableEq

structure Pass (limit : ℕ) where
  /-- A `safePass` of the loop. -/
  safe : Bool
  stage : PassStage limit
  claimed : List ClaimedDelivery
  /-- The call of the first of `claimed`; the others follow. -/
  first : ℕ
deriving DecidableEq

namespace Pass

variable {limit : ℕ} (pass : Pass limit)

def new (limit : ℕ) (safe : Bool) : Pass limit := ⟨safe, .waiting, [], 0⟩

/-- The pass holds the permit. -/
def atWork : Bool :=
  match pass.stage with
  | .claiming | .claimed | .resuming _ | .unwinding _ => true
  | .waiting | .exited _ => false

def running : List ℕ :=
  match pass.stage with
  | .resuming sweep | .unwinding sweep => sweep.running
  | _ => []

/-- Call `i` of the supervisor is under way in the pass. -/
def runs (i : ℕ) : Bool := pass.running.any fun k => pass.first + k = i

/-- What becomes of a pass whose scan fails; the loop goes on after a failure, and dies of a defect. -/
def failure (failure : Failure) : PassExit :=
  if pass.safe ∧ failure ≠ .defect then .reported 0 else .failed failure

end Pass

/-! ## The system -/

structure ReconcilerState (M : InspectedStore) (limit : ℕ) where
  supervisor : SupervisorState M
  mutex : Semaphore
  passes : List (Pass limit)

inductive ReconcilerLabel (M : InspectedStore) where
  | supervisor (l : SupervisorLabel M)
  | reconcileOnce
  | poll
  | enter (p : ℕ)
  | claim (p : ℕ) (passage : Passage) (nowMillis : ℕ) (c : M.Call)
  | afterClaim (p : ℕ)
  | resume (p : ℕ)
  /-- The fiber of item `i` ends with its call. -/
  | settle (p : ℕ) (i : ℕ)
  | interrupt (p : ℕ)
  | unwind (p : ℕ) (i : ℕ)
  | leave (p : ℕ)

def SupervisorCall.exit? (call : SupervisorCall) : Option CallExit :=
  match call.stage with
  | .exited exit => some exit
  | _ => none

@[simp] theorem SupervisorCall.exit?_eq_some {call : SupervisorCall} {exit : CallExit} :
    call.exit? = some exit ↔ call.stage = .exited exit := by
  unfold exit?
  split
  · next same => simp [same]
  · next other => exact ⟨nofun, fun exited => absurd exited (other exit)⟩

/-- `Effect.matchEffect` catches a failure, but neither an interruption nor a defect. -/
def CallExit.caught : CallExit → Bool
  | .completed (.ok _) | .enqueued | .overloaded _ | .invalid => true
  | .completed (.error (.store failure)) | .failed failure => failure ≠ .defect
  | .completed (.error .interrupted) | .interrupted => false

def SupervisorState.isResumed {M : InspectedStore} (s : SupervisorState M) (i : ℕ) : Bool :=
  s.calls[i]?.any fun call => call.entrance = .resumeClaimed

namespace ReconcilerState

variable {M : InspectedStore} (configuration : ReconcilerConfiguration) {limit : ℕ} (s : ReconcilerState M limit)

/-- Claims are the reconciler's own step, and the calls it makes are for its passes to run. -/
def allows : SupervisorLabel M → Bool
  | .reconcile _ _ => false
  | .offer i | .release i _ _ _ => !s.supervisor.isResumed i || s.passes.any (·.runs i)
  | .interrupt i => !s.supervisor.isResumed i
  | _ => true

def onPass (p : ℕ) (f : Pass limit → Option (SupervisorState M × Semaphore × Pass limit)) : Option (ReconcilerState M limit) :=
  s.passes[p]?.bind fun pass => (f pass).map fun r => ⟨r.1, r.2.1, s.passes.set p r.2.2⟩

section Passes

variable (pass : Pass limit)

def enter : Option (SupervisorState M × Semaphore × Pass limit) :=
  if pass.stage = .waiting then s.mutex.take.map fun mutex => (s.supervisor, mutex, { pass with stage := .claiming })
  else none

/-- `repository.claimPending`. -/
def claim (passage : Passage) (nowMillis : ℕ) (c : M.Call) : Option (SupervisorState M × Semaphore × Pass limit) :=
  if pass.stage = .claiming ∧ M.call c = .claimPending configuration.workerId configuration.destination
      configuration.claimBatchSize configuration.claimLeaseDurationMillis then
    let (reply, store) := M.ask passage nowMillis s.supervisor.store c
    let supervisor := s.supervisor.enter configuration.toSupervisorConfiguration .resumeClaimed reply store
    some <|
      match reply with
      | .error failure => (supervisor, s.mutex.release, { pass with stage := .exited (pass.failure failure) })
      | .ok _ => (supervisor, s.mutex,
          { pass with stage := .claimed, claimed := handedOut reply, first := s.supervisor.calls.length })
  else none

def afterClaim : Option (SupervisorState M × Semaphore × Pass limit) :=
  if pass.stage = .claimed then
    some (s.supervisor, s.mutex, { pass with stage := .resuming (.make limit pass.claimed.length) })
  else none

/-- `Effect.forEach` starts the next `resumeClaimed`. -/
def resume : Option (SupervisorState M × Semaphore × Pass limit) :=
  match pass.stage with
  | .resuming sweep => sweep.start.map fun sweep => (s.supervisor, s.mutex, { pass with stage := .resuming sweep })
  | _ => none

/-- A call that dies, or is interrupted, takes those next to it along. -/
def settle (i : ℕ) : Option (SupervisorState M × Semaphore × Pass limit) :=
  (s.supervisor.calls[pass.first + i]?.bind (·.exit?)).bind fun exit =>
    match pass.stage with
    | .resuming sweep => (sweep.finish i).map fun sweep =>
        (s.supervisor, s.mutex, { pass with stage := if exit.caught then .resuming sweep else .unwinding sweep })
    | .unwinding sweep => (sweep.finish i).map fun sweep => (s.supervisor, s.mutex, { pass with stage := .unwinding sweep })
    | _ => none

def interrupt : Option (SupervisorState M × Semaphore × Pass limit) :=
  match pass.stage with
  | .waiting => some (s.supervisor, s.mutex, { pass with stage := .exited .interrupted })
  | .claiming | .claimed => some (s.supervisor, s.mutex.release, { pass with stage := .exited .interrupted })
  | .resuming sweep => some (s.supervisor, s.mutex, { pass with stage := .unwinding sweep })
  | .unwinding _ | .exited _ => none

/-- The interruption reaches the call of item `i`. -/
def unwind (i : ℕ) : Option (SupervisorState M × Semaphore × Pass limit) :=
  match pass.stage with
  | .unwinding sweep =>
    if i ∈ sweep.running then
      (s.supervisor.move (pass.first + i) s.supervisor.interrupt).map fun supervisor => (supervisor, s.mutex, pass)
    else none
  | _ => none

def leave : Option (SupervisorState M × Semaphore × Pass limit) :=
  match pass.stage with
  | .resuming sweep =>
    if sweep.isDone then
      some (s.supervisor, s.mutex.release, { pass with stage := .exited (.reported pass.claimed.length) })
    else none
  | .unwinding sweep =>
    if sweep.running = [] then some (s.supervisor, s.mutex.release, { pass with stage := .exited .interrupted }) else none
  | _ => none

end Passes

/-- The loop waits for its pass, and ends when a pass of it was interrupted. -/
def polls : Bool := s.passes.all fun pass => !pass.safe || pass.stage matches .exited (.reported _)

def step : ReconcilerLabel M → Option (ReconcilerState M limit)
  | .supervisor l =>
    if s.allows l then
      (s.supervisor.step configuration.toSupervisorConfiguration l).map fun supervisor => { s with supervisor }
    else none
  | .reconcileOnce => some { s with passes := s.passes ++ [.new limit false] }
  | .poll => if s.polls then some { s with passes := s.passes ++ [.new limit true] } else none
  | .enter p => s.onPass p s.enter
  | .claim p passage nowMillis c => s.onPass p fun pass => s.claim configuration pass passage nowMillis c
  | .afterClaim p => s.onPass p s.afterClaim
  | .resume p => s.onPass p s.resume
  | .settle p i => s.onPass p fun pass => s.settle pass i
  | .interrupt p => s.onPass p s.interrupt
  | .unwind p i => s.onPass p fun pass => s.unwind pass i
  | .leave p => s.onPass p s.leave

end ReconcilerState

/-- `makeReconcilerLive`, over the supervisor it resumes deliveries with. -/
def reconcilerSystem (M : InspectedStore) (configuration : ReconcilerConfiguration) :
    TransitionSystem (ReconcilerState M configuration.concurrency.global) (ReconcilerLabel M) :=
  .ofStep ⟨⟨M.empty, [], [], [], [], fun _ _ => false⟩, .make 1, []⟩ (ReconcilerState.step configuration)

end Relay
