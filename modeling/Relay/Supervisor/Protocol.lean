import Relay.Worker.Protocol

/-!
# The delivery supervisor (`src/deliverySupervisor.ts`, `src/deliveryAdmission.ts`)

Three paths lead into one dropping queue of requests. `deliverTo` passes admission and
writes its delivery before it offers the claim; `enqueueClaimed` of an accepted event and
`resumeClaimed` of a reconciliation pass bring their claim along and pass no admission.
The dispatcher takes what the queue holds and starts one delivery after the other, as
its permits allow. Fibers interleave at will between the steps below.
-/

namespace Relay

/-! ## Stores whose contents can be inspected -/

/-- What a call can add to a store. -/
inductive Stored where
  | event (id : EventId)
  | delivery (id : DeliveryId)
deriving DecidableEq

structure InspectedStore extends StoreMachine where
  holdsEvent : Store → EventId → Bool

def InspectedStore.holds (M : InspectedStore) (s : M.Store) : Stored → Bool
  | .event id => M.holdsEvent s id
  | .delivery id => (M.view s id).isSome

def Adapter.inspected : Adapter → InspectedStore
  | .memory => ⟨Relay.memory, fun s id => (MemoryStore.events s |>.get id).isSome⟩
  | .postgres => ⟨Relay.postgres, fun db id => (Postgres.Database.relayEvents db |>.find id).isSome⟩

/-- What becomes of a call and its reply on their way. -/
inductive Passage where
  | answered
  | unanswered (failure : Failure)
  | unreached (failure : Failure)

def StoreMachine.ask (M : StoreMachine) (passage : Passage) (nowMillis : ℕ) (s : M.Store) (c : M.Call) :
    Reply × M.Store :=
  match passage with
  | .answered => M.exec nowMillis s c
  | .unanswered failure => (.error failure, (M.exec nowMillis s c).2)
  | .unreached failure => (.error failure, s)

/-! ## Admission -/

inductive AdmissionLimit where
  | globalAdmission
  | destinationAdmission
deriving DecidableEq

structure DeliveryOverloaded where
  admissionCapacity : ℕ+
  destinationId : DestinationId
  limit : AdmissionLimit
deriving DecidableEq

structure SupervisorConfiguration where
  workerId : WorkerId
  /-- The destination of `deliver`. -/
  destination : DestinationId
  claimBatchSize : Number
  claimLeaseDurationMillis : Number
  deliveryRequestsCapacity : ℕ+
  deliveryRequestsPerDestinationCapacity : ℕ+
  perDestination_le : deliveryRequestsPerDestinationCapacity ≤ deliveryRequestsCapacity

namespace SupervisorConfiguration

variable (configuration : SupervisorConfiguration)

def overload (destinationId : DestinationId) (limit : AdmissionLimit) : DeliveryOverloaded where
  admissionCapacity :=
    if limit = .globalAdmission then configuration.deliveryRequestsCapacity
    else configuration.deliveryRequestsPerDestinationCapacity
  destinationId
  limit

/-- The answer of `admit` to a call that cannot run its task; `admitted` are the destinations of those that do. -/
def refusal (admitted : List DestinationId) (destinationId : DestinationId) : Option DeliveryOverloaded :=
  if admitted.count destinationId < configuration.deliveryRequestsPerDestinationCapacity then
    if admitted.length < configuration.deliveryRequestsCapacity then none
    else some (configuration.overload destinationId .globalAdmission)
  else some (configuration.overload destinationId .destinationAdmission)

def claimRequest : ClaimRequest := ⟨configuration.workerId, configuration.claimLeaseDurationMillis⟩

end SupervisorConfiguration

/-! ## Calls and jobs -/

/-- The way a claim comes to the request queue. -/
inductive Entrance where
  | deliverTo
  | enqueueClaimed
  | resumeClaimed
deriving DecidableEq

inductive CallExit where
  | completed (exit : Except JobFailure DeliveryResult)
  | enqueued
  | overloaded (error : DeliveryOverloaded)
  /-- `InvalidEventError` or `DeliveryIdentityError`. -/
  | invalid
  | failed (failure : Failure)
  | interrupted
deriving DecidableEq

inductive CallStage where
  | arriving
  | admitted
  | claimed (claimed : ClaimedDelivery)
  /-- The queue was full; the claim is to be released. -/
  | refused (claimed : ClaimedDelivery)
  | submitted
  | exited (exit : CallExit)
deriving DecidableEq

structure SupervisorCall where
  entrance : Entrance
  destinationId : DestinationId
  stage : CallStage
deriving DecidableEq

/-- A request in the queue, with the call that waits for its result. -/
structure DeliveryJob where
  call : ℕ
  destinationId : DestinationId
  claimed : ClaimedDelivery
deriving DecidableEq

namespace SupervisorCall

variable (call : SupervisorCall)

/-- A task runs inside `admit`, and holds its permits. -/
def isAdmitted : Bool :=
  call.entrance = .deliverTo &&
  match call.stage with
  | .admitted | .claimed _ | .refused _ | .submitted => true
  | .arriving | .exited _ => false

def handed (entrance : Entrance) (fallback : DestinationId) (claimed : ClaimedDelivery) : SupervisorCall :=
  ⟨entrance, Job.destinationFor claimed fallback, .claimed claimed⟩

def settle (exit : Except JobFailure DeliveryResult) : SupervisorCall :=
  if call.stage = .submitted then { call with stage := .exited (.completed exit) } else call

end SupervisorCall

/-- After `savePending`. -/
def CallStage.persisted (reply : Reply) : CallStage :=
  match reply, handedOut reply with
  | .error failure, _ => .exited (.failed failure)
  | .ok _, delivery :: _ => .claimed delivery
  | .ok _, [] => .exited (.failed .defect)

/-! ## The system -/

structure SupervisorState (M : InspectedStore) where
  store : M.Store
  calls : List SupervisorCall
  queue : List DeliveryJob
  /-- What the dispatcher has taken and not started. -/
  hand : List DeliveryJob
  deliveries : List DeliveryJob
  /-- What each call has added to the store itself. -/
  added : ℕ → Stored → Bool

inductive SupervisorLabel (M : InspectedStore) where
  | deliverTo (destinationId : DestinationId)
  | admitCall (i : ℕ)
  | invalid (i : ℕ)
  | persist (i : ℕ) (passage : Passage) (nowMillis : ℕ) (c : M.Call)
  | accept (nowMillis : ℕ) (c : M.Call)
  | reconcile (nowMillis : ℕ) (c : M.Call)
  | offer (i : ℕ)
  | release (i : ℕ) (passage : Passage) (nowMillis : ℕ) (c : M.Call)
  | take (n : ℕ)
  | dispatch
  | settle (k : ℕ) (exit : Except JobFailure DeliveryResult)
  | interrupt (i : ℕ)
  | environment (nowMillis : ℕ) (c : M.Call)

namespace SupervisorState

variable {M : InspectedStore} (configuration : SupervisorConfiguration) (s : SupervisorState M)

def admitted : List DestinationId := (s.calls.filter (·.isAdmitted)).map (·.destinationId)

/-- Delivery ids are fresh at creation. -/
def fresh (c : M.Call) : Bool := (M.call c).creates.all fun id => (M.view s.store id).isNone

/-- The store after a call of call `i`. -/
def wrote (i : ℕ) (store : M.Store) : SupervisorState M :=
  { s with
    store
    added := fun k stored => s.added k stored || (k = i && !M.holds s.store stored && M.holds store stored) }

/-- Call `i` moves to another stage, and may change the rest of the state. -/
def move (i : ℕ) (f : SupervisorCall → Option (SupervisorState M × CallStage)) : Option (SupervisorState M) :=
  s.calls[i]?.bind fun call => (f call).map fun r =>
    { r.1 with calls := s.calls.set i { call with stage := r.2 } }

section Moves

variable (i : ℕ) (call : SupervisorCall)

def admitCall : Option (SupervisorState M × CallStage) :=
  if call.stage = .arriving then
    some (s, (configuration.refusal s.admitted call.destinationId).elim .admitted (.exited <| .overloaded ·))
  else none

def invalid : Option (SupervisorState M × CallStage) :=
  if call.stage = .admitted then some (s, .exited .invalid) else none

/-- `intakeStore.savePending`. -/
def persist (passage : Passage) (nowMillis : ℕ) (c : M.Call) : Option (SupervisorState M × CallStage) :=
  match M.call c with
  | .savePending _ _ destinationId request =>
    if call.stage = .admitted ∧ destinationId = call.destinationId ∧ request = configuration.claimRequest ∧
        s.fresh c = true then
      let (reply, store) := M.ask passage nowMillis s.store c
      some (s.wrote i store, .persisted reply)
    else none
  | _ => none

/-- `Queue.offer` on the dropping queue. -/
def offer : Option (SupervisorState M × CallStage) :=
  match call.stage with
  | .claimed claimed =>
    if s.queue.length < configuration.deliveryRequestsCapacity then
      some ({ s with queue := s.queue ++ [⟨i, call.destinationId, claimed⟩] },
        if call.entrance = .enqueueClaimed then .exited .enqueued else .submitted)
    else some (s, .refused claimed)
  | _ => none

/-- The release of a refused claim; then the call is rejected, which `enqueueClaimed` keeps to itself. -/
def release (passage : Passage) (nowMillis : ℕ) (c : M.Call) : Option (SupervisorState M × CallStage) :=
  match call.stage with
  | .refused claimed =>
    if M.call c = .releaseClaim claimed.delivery.id claimed.claim then
      let (reply, store) := M.ask passage nowMillis s.store c
      some (s.wrote i store, .exited <|
        match reply with
        | .error failure => .failed failure
        | .ok _ =>
          if call.entrance = .enqueueClaimed then .enqueued
          else .overloaded (configuration.overload call.destinationId .globalAdmission))
    else none
  | _ => none

def interrupt : Option (SupervisorState M × CallStage) :=
  match call.stage with
  | .exited _ => none
  | _ => some (s, .exited .interrupted)

end Moves

/-- Calls that come with the claims of a reply. -/
def enter (entrance : Entrance) (reply : Reply) (store : M.Store) : SupervisorState M :=
  { s with
    store
    calls := s.calls ++ (handedOut reply).map (SupervisorCall.handed entrance configuration.destination) }

def step : SupervisorLabel M → Option (SupervisorState M)
  | .deliverTo destinationId => some { s with calls := s.calls ++ [⟨.deliverTo, destinationId, .arriving⟩] }
  | .admitCall i => s.move i (s.admitCall configuration)
  | .invalid i => s.move i s.invalid
  | .persist i passage nowMillis c => s.move i fun call => s.persist configuration i call passage nowMillis c
  | .accept nowMillis c =>
    match M.call c with
    | .accept _ =>
      if s.fresh c = true then
        let (reply, store) := M.exec nowMillis s.store c
        some (s.enter configuration .enqueueClaimed reply store)
      else none
    | _ => none
  | .reconcile nowMillis c =>
    if M.call c = .claimPending configuration.workerId configuration.destination configuration.claimBatchSize
        configuration.claimLeaseDurationMillis then
      let (reply, store) := M.exec nowMillis s.store c
      some (s.enter configuration .resumeClaimed reply store)
    else none
  | .offer i => s.move i (s.offer configuration i)
  | .release i passage nowMillis c => s.move i fun call => s.release configuration i call passage nowMillis c
  | .take n =>
    if s.hand = [] ∧ 0 < n ∧ n ≤ s.queue.length then
      some { s with hand := s.queue.take n, queue := s.queue.drop n }
    else none
  | .dispatch =>
    match s.hand with
    | [] => none
    | job :: rest =>
      if s.deliveries.length < configuration.deliveryRequestsCapacity then
        some { s with hand := rest, deliveries := s.deliveries ++ [job] }
      else none
  | .settle k exit =>
    s.deliveries[k]?.map fun job =>
      { s with
        deliveries := s.deliveries.eraseIdx k
        calls := s.calls.modify job.call (·.settle exit) }
  | .interrupt i => s.move i s.interrupt
  | .environment nowMillis c =>
    if s.fresh c = true then some { s with store := (M.exec nowMillis s.store c).2 } else none

end SupervisorState

def supervisorSystem (M : InspectedStore) (configuration : SupervisorConfiguration) :
    TransitionSystem (SupervisorState M) (SupervisorLabel M) :=
  .ofStep ⟨M.empty, [], [], [], [], fun _ _ => false⟩ (SupervisorState.step configuration)

end Relay
