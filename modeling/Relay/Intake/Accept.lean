import Relay.Intake.Submission
import Relay.Store.Intake

/-!
# Concurrent intake (`src/eventIntake.ts`)

Any number of `EventIntake.accept` calls run next to each other on one store.
Each decodes its candidate, draws its ids, asks the store once, hands the claim
of an acceptance to the supervisor and answers; it may be interrupted anywhere,
before the transaction or after it. Other repository calls run in between.
-/

namespace Relay

/-- What the process a call runs in is configured with. -/
structure IntakeConfiguration where
  destination : Destination
  destinationConfigurationVersion : ConfigurationVersion
  claimLeaseDurationMillis : Number
  workerId : WorkerId

inductive IdentityOperation where
  | fingerprint
  | eventId
  | deliveryId
deriving DecidableEq

inductive IntakeFailure where
  | invalidEvent
  | eventIdentity (operation : IdentityOperation)
  | store (failure : Failure)
deriving DecidableEq

structure EventAcceptance where
  eventId : EventId
  deliveryId : DeliveryId
  acceptedAtMillis : ℕ
  replayed : Bool
deriving DecidableEq

/-! ## One call -/

/-- What a call draws from its services before it asks the store; each of them but the clock may fail. -/
structure Drawn where
  digested : Bool
  eventId : Option EventId
  deliveryId : Option DeliveryId
  acceptedAtMillis : ℕ

/-- `EventIntake.accept` up to the transaction. -/
def prepare (sha256 : Digest) (configuration : IntakeConfiguration) (ingestionKey : IngestionKey)
    (candidate : Candidate) (drawn : Drawn) : Except IntakeFailure (EventSubmission × IntakeRecord) :=
  match decodeSubmission candidate, drawn.digested, drawn.eventId, drawn.deliveryId with
  | none, _, _, _ => .error .invalidEvent
  | some _, false, _, _ => .error (.eventIdentity .fingerprint)
  | some _, true, none, _ => .error (.eventIdentity .eventId)
  | some _, true, some _, none => .error (.eventIdentity .deliveryId)
  | some submission, true, some eventId, some deliveryId => .ok (submission,
      { ingestionKey
        requestFingerprint := fingerprint sha256 submission
        event := ⟨eventId, .invoiceCreated, submission.invoiceId, submission.amountCents⟩
        deliveryId
        route := ⟨configuration.destination.id, configuration.destination.endpoint,
          configuration.destinationConfigurationVersion⟩
        acceptedAtMillis := drawn.acceptedAtMillis
        claim := ⟨configuration.workerId, configuration.claimLeaseDurationMillis⟩ })

def IntakeDecision.fields : IntakeDecision → IntakeDecisionFields
  | .accepted fields _ => fields
  | .replay fields => fields

def IntakeDecision.isReplay : IntakeDecision → Bool
  | .accepted .. => false
  | .replay _ => true

/-- What `EventIntake.accept` answers. -/
def acceptance (decision : IntakeDecision) : EventAcceptance where
  eventId := decision.fields.event.id
  deliveryId := decision.fields.delivery.id
  acceptedAtMillis := decision.fields.acceptedAtMillis
  replayed := decision.isReplay

/-- How far a call has come. -/
inductive IntakeStage where
  | called
  | prepared (submission : EventSubmission) (record : IntakeRecord)
  | decided (submission : EventSubmission) (record : IntakeRecord) (decision : IntakeDecision) (handed : Bool)
deriving DecidableEq

inductive IntakeOutcome where
  | returned (acceptance : EventAcceptance)
  | failed (failure : IntakeFailure)
  | interrupted
deriving DecidableEq

structure AcceptCall where
  ingestionKey : IngestionKey
  candidate : Candidate
  stage : IntakeStage
  /-- `none` while the call runs. -/
  outcome : Option IntakeOutcome

namespace AcceptCall

variable (call : AcceptCall)

def finish (outcome : IntakeOutcome) : AcceptCall := { call with outcome := some outcome }

def prepare (sha256 : Digest) (configuration : IntakeConfiguration) (drawn : Drawn) : AcceptCall :=
  match Relay.prepare sha256 configuration call.ingestionKey call.candidate drawn with
  | .error failure => call.finish (.failed failure)
  | .ok (submission, record) => { call with stage := .prepared submission record }

/-- The call after the transaction. The store answers `accept` with a decision. -/
def settle (submission : EventSubmission) (record : IntakeRecord) : Reply → AcceptCall
  | .ok (.decided decision) => { call with stage := .decided submission record decision false }
  | .ok _ => call.finish (.failed (.store .defect))
  | .error failure => call.finish (.failed (.store failure))

/-- What the call asked the store and what it was answered. -/
def answer : Option (IntakeRecord × IntakeDecision) :=
  match call.stage with
  | .called | .prepared .. => none
  | .decided _ record decision _ => some (record, decision)

end AcceptCall

/-! ## All calls -/

structure IntakeState (M : IntakeMachine) where
  store : M.Store
  calls : ℕ → Option AcceptCall
  /-- The claims handed to the supervisor, with the keys they were accepted under. -/
  handed : List (IngestionKey × ClaimedDelivery)

inductive IntakeLabel where
  | call (n : ℕ)
  | prepare (n : ℕ)
  | transact (n : ℕ)
  | abort (n : ℕ)
  | enqueue (n : ℕ)
  | respond (n : ℕ)
  | interrupt (n : ℕ)
  | other

namespace IntakeState

variable {M : IntakeMachine} (s : IntakeState M)

def set (n : ℕ) (call : AcceptCall) : IntakeState M := { s with calls := Function.update s.calls n (some call) }

@[simp] theorem set_calls (n : ℕ) (call : AcceptCall) :
    (s.set n call).calls = Function.update s.calls n (some call) := rfl

@[simp] theorem set_store (n : ℕ) (call : AcceptCall) : (s.set n call).store = s.store := rfl

@[simp] theorem set_handed (n : ℕ) (call : AcceptCall) : (s.set n call).handed = s.handed := rfl

structure Running (n : ℕ) (call : AcceptCall) : Prop where
  here : s.calls n = some call
  unfinished : call.outcome = none

end IntakeState

variable (M : IntakeMachine) (sha256 : Digest)

inductive IntakeStep : IntakeState M → IntakeLabel → IntakeState M → Prop where
  | call {s : IntakeState M} {n : ℕ} (ingestionKey : IngestionKey) (candidate : Candidate)
      (new : s.calls n = none) : IntakeStep s (.call n) (s.set n ⟨ingestionKey, candidate, .called, none⟩)
  | prepare {s : IntakeState M} {n : ℕ} {call : AcceptCall} (configuration : IntakeConfiguration) (drawn : Drawn)
      (running : s.Running n call) (stage : call.stage = .called) :
      IntakeStep s (.prepare n) (s.set n (call.prepare sha256 configuration drawn))
  | transact {s : IntakeState M} {n : ℕ} {call : AcceptCall} {submission : EventSubmission} {record : IntakeRecord}
      (nowMillis : ℕ) (c : M.Call) (running : s.Running n call) (stage : call.stage = .prepared submission record)
      (accept : M.call c = .accept record) :
      IntakeStep s (.transact n)
        { s.set n (call.settle submission record (M.exec nowMillis s.store c).1) with
          store := (M.exec nowMillis s.store c).2 }
  /-- The transaction fails for a reason of the infrastructure and is rolled back. -/
  | abort {s : IntakeState M} {n : ℕ} {call : AcceptCall} {submission : EventSubmission} {record : IntakeRecord}
      (cause : Cause) (running : s.Running n call) (stage : call.stage = .prepared submission record) :
      IntakeStep s (.abort n) (s.set n (call.finish (.failed (.store (.relayIntakeStore .accept cause)))))
  | enqueue {s : IntakeState M} {n : ℕ} {call : AcceptCall} {submission : EventSubmission} {record : IntakeRecord}
      {fields : IntakeDecisionFields} {claim : DeliveryClaim} (running : s.Running n call)
      (stage : call.stage = .decided submission record (.accepted fields claim) false) :
      IntakeStep s (.enqueue n)
        { s.set n { call with stage := .decided submission record (.accepted fields claim) true } with
          handed := s.handed ++ [(call.ingestionKey, enqueued fields claim)] }
  /-- `enqueueClaimed` found the queue full and could not release the claim. -/
  | unreleased {s : IntakeState M} {n : ℕ} {call : AcceptCall} {submission : EventSubmission}
      {record : IntakeRecord} {decision : IntakeDecision} (failure : Failure) (running : s.Running n call)
      (stage : call.stage = .decided submission record decision true) :
      IntakeStep s (.respond n) (s.set n (call.finish (.failed (.store failure))))
  | respond {s : IntakeState M} {n : ℕ} {call : AcceptCall} {submission : EventSubmission} {record : IntakeRecord}
      {decision : IntakeDecision} (running : s.Running n call)
      (stage : call.stage = .decided submission record decision (!decision.isReplay)) :
      IntakeStep s (.respond n) (s.set n (call.finish (.returned (acceptance decision))))
  | interrupt {s : IntakeState M} {n : ℕ} {call : AcceptCall} (running : s.Running n call) :
      IntakeStep s (.interrupt n) (s.set n (call.finish .interrupted))
  /-- A repository call of a worker, an operator or the supervisor; the application saves no delivery directly. -/
  | other {s : IntakeState M} (nowMillis : ℕ) (c : M.Call) (unsaved : M.Unsaved c)
      (repository : (M.call c).ingestionKey = none) :
      IntakeStep s .other { s with store := (M.exec nowMillis s.store c).2 }

def intakeSystem : TransitionSystem (IntakeState M) IntakeLabel where
  init := ⟨M.empty, fun _ => none, []⟩
  step := IntakeStep M sha256

end Relay
