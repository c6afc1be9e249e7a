import Relay.Delivery.Engine
import Relay.Intake.Accept

/-!
# Workers on one store (`src/deliveryWorker.ts`, `src/deliveryEngine.ts`, `src/deliveryEvents.ts`)

Every claim the store hands out opens one job. A job is three fibers: the attempts,
the renewal of the lease, and the main fiber that races them and answers. Fibers of
all jobs, other callers of the store and the subscribers of the results interleave
at will; a process can stop anywhere, and a call can get lost on its way to the
store or on its way back.
-/

namespace Relay

/-- What one process is configured with. -/
structure WorkerProcess where
  resilience : DeliveryResilience
  claimLeaseDurationMillis : Number
  deliveryEventsCapacity : ℕ+

/-! ## Calls from afar -/

/-- What a caller sees of a call: the reply, or a failure of the way there or back. -/
inductive StoreMachine.Asks (M : StoreMachine) (s : M.Store) (call : StoreCall) :
    Option M.Event → Reply → M.Store → Prop where
  | answered {l : M.Event} {s' : M.Store} (asked : M.call l.call = call) (step : M.system.step s l s') :
      M.Asks s call (some l) l.reply s'
  | unanswered {l : M.Event} {s' : M.Store} (asked : M.call l.call = call) (step : M.system.step s l s')
      (failure : Failure) : M.Asks s call (some l) (.error failure) s'
  | unreached (failure : Failure) : M.Asks s call none (.error failure) s

/-- A call changes the ledger as it is served, whatever its caller sees of it; unserved it changes nothing. -/
theorem StoreMachine.Lawful.asks {M : StoreMachine} (lawful : M.Lawful) {s s' : M.Store} (sound : M.Sound s)
    {call : StoreCall} {event : Option M.Event} {seen : Reply} (asks : M.Asks s call event seen s') :
    M.Sound s' ∧ ((event = none ∧ (∃ failure, seen = .error failure) ∧ M.view s' = M.view s) ∨
      ∃ l, event = some l ∧ Served l.nowMillis (M.view s) call l.reply.answer (M.view s') ∧
        (seen = l.reply ∨ ∃ failure, seen = .error failure)) := by
  cases asks with
  | answered asked step =>
    obtain ⟨sound', served⟩ := lawful.step sound step
    rw [asked] at served
    exact ⟨sound', .inr ⟨_, rfl, served, .inl rfl⟩⟩
  | unanswered asked step failure =>
    obtain ⟨sound', served⟩ := lawful.step sound step
    rw [asked] at served
    exact ⟨sound', .inr ⟨_, rfl, served, .inr ⟨failure, rfl⟩⟩⟩
  | unreached failure => exact ⟨sound, .inl ⟨rfl, ⟨failure, rfl⟩, rfl⟩⟩

/-! ## Jobs -/

/-- The fiber of the attempts. -/
inductive AttemptFiber where
  | ready
  | sending (ordinal : ℕ)
  | observed (attempt : AttemptObservation)
  /-- The last attempt is recorded; the result waits to be published. -/
  | recorded (result : DeliveryResult)
  | finished (result : DeliveryResult)
deriving DecidableEq

/-- The fiber that renews the lease. -/
inductive RenewalFiber where
  | initial
  | looping
  | failed (failure : Failure)
deriving DecidableEq

inductive JobFailure where
  | store (failure : Failure)
  | interrupted
deriving DecidableEq

/-- The main fiber, down to the value of `job.result`. -/
inductive MainFiber where
  | queued
  | running
  | failing (failure : JobFailure)
  | succeeding (result : DeliveryResult)
  | completed (exit : Except JobFailure DeliveryResult)
  /-- Refused by a full queue, or its process stopped. -/
  | gone
deriving DecidableEq

structure Job where
  process : ℕ
  deliveryId : DeliveryId
  destinationId : DestinationId
  /-- The `Ref` the renewals set. -/
  claim : DeliveryClaim
  trace : AttemptTraceCorrelation
  /-- In nanoseconds, from the start of the execution. -/
  deadline : ℕ
  retries : ℕ
  nextOrdinal : ℕ
  history : List DeliveryAttempt
  attempt : AttemptFiber
  renewal : RenewalFiber
  main : MainFiber
deriving DecidableEq

namespace Job

/-- `destinationFor`: the route of the claim, or else the destination its caller has in hand. -/
def destinationFor (claimed : ClaimedDelivery) (fallback : DestinationId) : DestinationId :=
  claimed.route.elim fallback (·.destinationId)

def issued (process : ℕ) (fallback : DestinationId) (claimed : ClaimedDelivery) : Job where
  process
  deliveryId := claimed.delivery.id
  destinationId := destinationFor claimed fallback
  claim := claimed.claim
  trace := ⟨none, none⟩
  deadline := 0
  retries := 0
  nextOrdinal := claimed.nextAttemptOrdinal
  history := []
  attempt := .ready
  renewal := .initial
  main := .queued

variable (job : Job)

/-- One claim of one delivery. -/
def key : DeliveryId × ClaimGeneration := (job.deliveryId, job.claim.generation)

def start (resilience : DeliveryResilience) (trace : AttemptTraceCorrelation) (startedAt : ℕ) : Job :=
  { job with trace, deadline := startedAt + resilience.maxElapsed, main := .running }

def stop (failure : JobFailure) : Job := { job with main := .failing failure }

/-- `renewLease`, in the main fiber the first time and in the renewal fiber after that. -/
def renewed : Reply → Job
  | .ok (.renewed claim) => { job with claim, renewal := .looping }
  | .ok _ => job.stop (.store .defect)
  | .error failure =>
    if job.renewal = .initial then job.stop (.store failure) else { job with renewal := .failed failure }

/-- The engine's decision on an observed attempt. -/
def decision (resilience : DeliveryResilience) (now : ℕ) (fraction : ℚ) (outcome : DeliveryOutcome) :
    DeliveryAttemptDecision :=
  if !isRetryable outcome then .terminal
  else match retryDelay resilience job.deadline now job.retries fraction outcome with
    | none => .exhausted
    | some delay => .retryScheduled (toMillis delay)

/-- The job after `append`, given what `onAttempt` came to. -/
def appended (attempt : AttemptObservation) (decision : DeliveryAttemptDecision) : Reply → Job
  | .error failure =>
    { job with history := job.history ++ [withDecision attempt decision], main := .failing (.store failure) }
  | .ok _ =>
    let history := job.history ++ [withDecision attempt decision]
    match decision with
    | .retryScheduled _ => { job with history, retries := job.retries + 1, attempt := .ready }
    | .terminal | .exhausted =>
      { job with
        history
        attempt := .recorded (terminalResult job.deliveryId job.destinationId attempt.outcome history) }

end Job

/-! ## The system -/

structure WorkerState (M : StoreMachine) where
  store : M.Store
  /-- The store's clock at the last call. -/
  clock : ℕ
  jobs : List Job
  /-- The requests sent, with the claims they were sent under. -/
  sent : List (DeliveryId × ClaimGeneration)
  /-- For each process, how many results each subscriber has yet to take. -/
  backlogs : ℕ → List ℕ
  /-- The results published, with the jobs they are of. -/
  published : List (ℕ × DeliveryResult)

namespace WorkerState

variable {M : StoreMachine} (s : WorkerState M)

/-- The store and its clock after a call. -/
def asked (event : Option M.Event) (store : M.Store) : WorkerState M :=
  { s with store, clock := event.elim s.clock (·.nowMillis) }

def setJob (i : ℕ) (job : Job) : WorkerState M := { s with jobs := s.jobs.set i job }

end WorkerState

inductive WorkerLabel (M : StoreMachine) where
  | environment (l : M.Event)
  | drop (i : ℕ) (event : Option M.Event)
  | start (i : ℕ)
  | renew (i : ℕ) (event : Option M.Event) (seen : Reply)
  | send (i : ℕ)
  | observe (i : ℕ)
  | record (i : ℕ) (event : Option M.Event) (seen : Reply)
  | unrecordable (i : ℕ)
  | publish (i : ℕ)
  | lose (i : ℕ)
  | release (i : ℕ) (event : Option M.Event)
  | complete (i : ℕ)
  | interrupt (i : ℕ)
  | crash (i : ℕ)
  | subscribers (process : ℕ)

/-- The call on the store a step makes. -/
def WorkerLabel.event {M : StoreMachine} : WorkerLabel M → Option M.Event
  | .environment l => some l
  | .drop _ event | .renew _ event _ | .record _ event _ | .release _ event => event
  | .start _ | .send _ | .observe _ | .unrecordable _ | .publish _ | .lose _ | .complete _ | .interrupt _
  | .crash _ | .subscribers _ => none

/-- What subscribers do to their backlogs. -/
inductive SubscribersMove : List ℕ → List ℕ → Prop where
  | subscribe (backlogs : List ℕ) : SubscribersMove backlogs (backlogs ++ [0])
  | take (before after : List ℕ) (n : ℕ) : SubscribersMove (before ++ (n + 1) :: after) (before ++ n :: after)
  | unsubscribe (before after : List ℕ) (n : ℕ) : SubscribersMove (before ++ n :: after) (before ++ after)

section Steps

variable (M : StoreMachine) (processes : ℕ → WorkerProcess)

inductive WorkerStep : WorkerState M → WorkerLabel M → WorkerState M → Prop where
  /-- Intake, reconciliation and operators. The application makes no direct `save` or `completeClaim`. -/
  | environment {s : WorkerState M} {l : M.Event} {store : M.Store} (process : ℕ) (fallback : DestinationId)
      (unfenced : (M.call l.call).fence = none) (unsaved : ∀ delivery, M.call l.call ≠ .save delivery)
      (step : M.system.step s.store l store) :
      WorkerStep s (.environment l)
        { s.asked (some l) store with
          jobs := s.jobs ++ (handedOut l.reply).map (Job.issued process fallback) }
  /-- `offerClaimed` on a full queue. -/
  | drop {s : WorkerState M} {i : ℕ} {job : Job} {event : Option M.Event} {seen : Reply} {store : M.Store}
      (here : s.jobs[i]? = some job) (queued : job.main = .queued)
      (asks : M.Asks s.store (.releaseClaim job.deliveryId job.claim) event seen store) :
      WorkerStep s (.drop i event) ((s.asked event store).setJob i { job with main := .gone })
  | start {s : WorkerState M} {i : ℕ} {job : Job} (trace : AttemptTraceCorrelation) (startedAt : ℕ)
      (here : s.jobs[i]? = some job) (queued : job.main = .queued) :
      WorkerStep s (.start i) (s.setJob i (job.start (processes job.process).resilience trace startedAt))
  | renew {s : WorkerState M} {i : ℕ} {job : Job} {event : Option M.Event} {seen : Reply} {store : M.Store}
      (here : s.jobs[i]? = some job) (running : job.main = .running) (renewing : ∀ failure, job.renewal ≠ .failed failure)
      (asks : M.Asks s.store
        (.renewClaim job.deliveryId job.claim (processes job.process).claimLeaseDurationMillis) event seen store) :
      WorkerStep s (.renew i event seen) ((s.asked event store).setJob i (job.renewed seen))
  /-- The permits are held, and a request goes out. -/
  | send {s : WorkerState M} {i : ℕ} {job : Job} (here : s.jobs[i]? = some job) (running : job.main = .running)
      (leased : job.renewal ≠ .initial) (ready : job.attempt = .ready) :
      WorkerStep s (.send i)
        { s.setJob i { job with attempt := .sending job.nextOrdinal, nextOrdinal := job.nextOrdinal + 1 } with
          sent := s.sent ++ [job.key] }
  | observe {s : WorkerState M} {i : ℕ} {job : Job} {ordinal : ℕ} (startedAt completedAt : ℕ)
      (outcome : DeliveryOutcome) (here : s.jobs[i]? = some job) (running : job.main = .running)
      (sending : job.attempt = .sending ordinal) :
      WorkerStep s (.observe i)
        (s.setJob i { job with attempt := .observed ⟨ordinal, startedAt, completedAt, outcome⟩ })
  | record {s : WorkerState M} {i : ℕ} {job : Job} {attempt : AttemptObservation} {record : DeliveryAttemptRecord}
      {event : Option M.Event} {seen : Reply} {store : M.Store} (now : ℕ) (fraction : ℚ)
      (here : s.jobs[i]? = some job) (running : job.main = .running) (observed : job.attempt = .observed attempt)
      (made : makeDeliveryAttemptRecord job.deliveryId job.claim (withDecision attempt
        (job.decision (processes job.process).resilience now fraction attempt.outcome)) job.trace = some record)
      (asks : M.Asks s.store (.recordAttempt record) event seen store) :
      WorkerStep s (.record i event seen)
        ((s.asked event store).setJob i
          (job.appended attempt (job.decision (processes job.process).resilience now fraction attempt.outcome) seen))
  /-- `DeliveryAttemptRecord.make` throws. -/
  | unrecordable {s : WorkerState M} {i : ℕ} {job : Job} {attempt : AttemptObservation} (now : ℕ) (fraction : ℚ)
      (here : s.jobs[i]? = some job) (running : job.main = .running) (observed : job.attempt = .observed attempt)
      (throws : makeDeliveryAttemptRecord job.deliveryId job.claim (withDecision attempt
        (job.decision (processes job.process).resilience now fraction attempt.outcome)) job.trace = none) :
      WorkerStep s (.unrecordable i)
        (s.setJob i (job.appended attempt
          (job.decision (processes job.process).resilience now fraction attempt.outcome) (.error .defect)))
  /-- The bounded `PubSub` takes a result when every subscriber has room; the attempts end first and win the race. -/
  | publish {s : WorkerState M} {i : ℕ} {job : Job} {result : DeliveryResult} (here : s.jobs[i]? = some job)
      (running : job.main = .running) (recorded : job.attempt = .recorded result)
      (room : ∀ n ∈ s.backlogs job.process, n < (processes job.process).deliveryEventsCapacity) :
      WorkerStep s (.publish i)
        { s.setJob i { job with attempt := .finished result, main := .succeeding result } with
          backlogs := Function.update s.backlogs job.process ((s.backlogs job.process).map (· + 1))
          published := s.published ++ [(i, result)] }
  /-- The renewal has failed first and wins the race; the attempts are interrupted. -/
  | lose {s : WorkerState M} {i : ℕ} {job : Job} {failure : Failure} (here : s.jobs[i]? = some job)
      (running : job.main = .running) (failed : job.renewal = .failed failure) :
      WorkerStep s (.lose i) (s.setJob i (job.stop (.store failure)))
  /-- A failed job releases its claim, whatever comes of it, and completes. -/
  | release {s : WorkerState M} {i : ℕ} {job : Job} {failure : JobFailure} {event : Option M.Event} {seen : Reply}
      {store : M.Store} (here : s.jobs[i]? = some job) (failing : job.main = .failing failure)
      (asks : M.Asks s.store (.releaseClaim job.deliveryId job.claim) event seen store) :
      WorkerStep s (.release i event)
        ((s.asked event store).setJob i { job with main := .completed (.error failure) })
  | complete {s : WorkerState M} {i : ℕ} {job : Job} {result : DeliveryResult} (here : s.jobs[i]? = some job)
      (succeeding : job.main = .succeeding result) :
      WorkerStep s (.complete i) (s.setJob i { job with main := .completed (.ok result) })
  /-- The caller cancels the job, or its fiber is interrupted. -/
  | interrupt {s : WorkerState M} {i : ℕ} {job : Job} (here : s.jobs[i]? = some job)
      (unanswered : job.main = .running ∨ ∃ result, job.main = .succeeding result) :
      WorkerStep s (.interrupt i) (s.setJob i (job.stop .interrupted))
  | crash {s : WorkerState M} {i : ℕ} {job : Job} (here : s.jobs[i]? = some job) :
      WorkerStep s (.crash i) (s.setJob i { job with main := .gone })
  | subscribers {s : WorkerState M} (process : ℕ) {backlogs : List ℕ}
      (move : SubscribersMove (s.backlogs process) backlogs) :
      WorkerStep s (.subscribers process) { s with backlogs := Function.update s.backlogs process backlogs }

/-- The event of an executed call. -/
def StoreMachine.event (nowMillis : ℕ) (s : M.Store) (c : M.Call) : M.Event := ⟨nowMillis, c, (M.exec nowMillis s c).1⟩

variable {M} in
/-- The state after a call that was answered. -/
def WorkerState.call (s : WorkerState M) (nowMillis : ℕ) (c : M.Call) : WorkerState M :=
  s.asked (some (M.event nowMillis s.store c)) (M.exec nowMillis s.store c).2

variable {M} in
theorem StoreMachine.step_event (nowMillis : ℕ) {s : M.Store} {c : M.Call}
    (fresh : ∀ id, (M.call c).creates = some id → M.view s id = none) :
    M.system.step s (M.event nowMillis s c) (M.exec nowMillis s c).2 :=
  ⟨fresh, rfl⟩

variable {M} in
theorem StoreMachine.asks_event (nowMillis : ℕ) (s : M.Store) {c : M.Call} (existing : (M.call c).creates = none) :
    M.Asks s (M.call c) (some (M.event nowMillis s c)) (M.exec nowMillis s c).1 (M.exec nowMillis s c).2 := by
  refine .answered rfl (M.step_event nowMillis ?_)
  intro id creates
  rw [existing] at creates
  cases creates

def workerSystem : TransitionSystem (WorkerState M) (WorkerLabel M) where
  init := ⟨M.empty, 0, [], [], fun _ => [], []⟩
  step := WorkerStep M processes

end Steps

end Relay
