import Relay.Adapters.PostgresReads
import Relay.Store.Atomicity
import Relay.Store.Recovery

/-!
# Operator requests (`src/deliveryOperations.ts`)

A request of an operator reads the status of a delivery, acts on it and reads the
status again, one statement after the other, while workers and other operators make
their calls. Any statement may not reach the store, or be executed and its answer be
lost, and a request may be interrupted anywhere. A log keeps what each step found and
left, and which request took it.
-/

namespace Relay

/-- An adapter whose statuses are read in statements of their own. -/
structure OperationsMachine extends OperatorMachine where
  /-- What the first statement of `findStatus` selects. -/
  Row : Type
  readRow : Store → DeliveryId → Except Failure (Option Row)
  readRest : Store → Row → Except Failure DeliveryStatus
  /-- The row was selected when the store held the entry. -/
  Shows : Row → Entry → Prop
  /-- What keeps the rest of a status as it was with its row. -/
  Kept : Store → Prop

/-- What becomes of a statement and its answer on their way. -/
inductive Contact where
  | answered
  /-- The statement was executed. -/
  | unanswered (cause : Cause)
  | unreached (cause : Cause)
deriving DecidableEq

def Contact.failure (operation : RepositoryOperation) : Contact → Option Failure
  | .answered => none
  | .unanswered cause | .unreached cause => some (.deliveryRepository operation cause)

def Recovery.operation : Recovery → RepositoryOperation
  | .retryDeadLetter _ => .retryDeadLetter
  | .repairDeadLetter .. => .repairDeadLetter
  | .terminateDeadLetter _ => .terminateDeadLetter

/-! ## Requests -/

inductive Operation where
  /-- `status`. -/
  | inspect (id : DeliveryId)
  /-- `applyAction`. -/
  | act (action : Recovery)
deriving DecidableEq

def Operation.id : Operation → DeliveryId
  | .inspect id => id
  | .act action => action.id

inductive OperationExit where
  | answered (status : Option DeliveryStatus)
  | failed (failure : Failure)
  | interrupted
deriving DecidableEq

/-- How far a request has come: the statements that are still to be made. -/
inductive OperationStage (Row : Type) where
  | reading
  | readingRest (row : Row)
  | acting
  | passed
  | rereading
  | rereadingRest (row : Row)
  | exited (exit : OperationExit)

structure OperationRequest (Row : Type) where
  operation : Operation
  stage : OperationStage Row
  /-- A statement went unanswered. -/
  disturbed : Bool
  /-- The length of the log when the request came. -/
  arrived : ℕ

/-- `status` is the last of the reads alone. -/
def Operation.firstStage {Row : Type} : Operation → OperationStage Row
  | .inspect _ => .rereading
  | .act _ => .reading

def disappeared : Failure :=
  .deliveryRepository .findStatus (.message "operated delivery disappeared from the repository")

/-- What the last read answers where there is no delivery. -/
def Operation.missing : Operation → OperationExit
  | .inspect _ => .answered none
  | .act _ => .failed disappeared

/-- What one step found and left, and the request that took it. -/
structure OperationMoment extends Moment where
  request : Option ℕ

structure Operations (M : OperationsMachine) where
  store : M.Store
  requests : List (OperationRequest M.Row)
  log : List OperationMoment

inductive OperationStep (M : OperationsMachine) where
  | call (event : M.Event)
  | arrive (operation : Operation)
  | statement (i : ℕ) (nowMillis : ℕ) (contact : Contact)
  | interrupt (i : ℕ)

/-! ## One statement -/

/-- What a statement leaves of the store, the stage of its request and the log. -/
structure StatementEffect (M : OperationsMachine) where
  store : M.Store
  stage : OperationStage M.Row
  moment : Option Moment

namespace OperationsMachine

variable (M : OperationsMachine)

def read {α : Type} (contact : Contact) (reply : Except Failure α) (next : α → OperationStage M.Row) : OperationStage M.Row :=
  match contact.failure .findStatus with
  | some failure => .exited (.failed failure)
  | none =>
    match reply with
    | .error failure => .exited (.failed failure)
    | .ok value => next value

/-- The first statement of an action. -/
def checkStatement (nowMillis : ℕ) (contact : Contact) (store : M.Store) (action : Recovery) : StatementEffect M :=
  match contact.failure action.operation with
  | some failure => ⟨store, .exited (.failed failure), none⟩
  | none =>
    match M.check store action with
    | some failure =>
      ⟨store, .exited (.failed failure), some ⟨M.view store, M.view store, some ⟨action, nowMillis, .error failure.tag⟩⟩⟩
    | none => ⟨store, .passed, none⟩

/-- What the request makes of the reply to the update of its action. -/
def acted (contact : Contact) (action : Recovery) (reply : Reply) : OperationStage M.Row :=
  match contact.failure action.operation with
  | some failure => .exited (.failed failure)
  | none =>
    match reply with
    | .error failure => .exited (.failed failure)
    | .ok _ => .rereading

/-- The update of an action. -/
def updateStatement (nowMillis : ℕ) (contact : Contact) (store : M.Store) (action : Recovery) : StatementEffect M :=
  match contact with
  | .unreached cause => ⟨store, .exited (.failed (.deliveryRepository action.operation cause)), none⟩
  | .answered | .unanswered _ =>
    let (reply, store') := M.update nowMillis store action
    ⟨store', M.acted contact action reply, some ⟨M.view store, M.view store', some ⟨action, nowMillis, reply.answer⟩⟩⟩

def statement (nowMillis : ℕ) (contact : Contact) (store : M.Store) (request : OperationRequest M.Row) :
    Option (StatementEffect M) :=
  match request.stage, request.operation with
  | .reading, operation =>
    some ⟨store, M.read contact (M.readRow store operation.id) (·.elim .acting .readingRest), none⟩
  | .readingRest row, _ => some ⟨store, M.read contact (M.readRest store row) fun _ => .acting, none⟩
  | .acting, .act action => some (M.checkStatement nowMillis contact store action)
  | .passed, .act action => some (M.updateStatement nowMillis contact store action)
  | .rereading, operation =>
    some ⟨store, M.read contact (M.readRow store operation.id) (·.elim (.exited operation.missing) .rereadingRest), none⟩
  | .rereadingRest row, _ =>
    some ⟨store, M.read contact (M.readRest store row) fun status => .exited (.answered (some status)), none⟩
  | .acting, .inspect _ | .passed, .inspect _ | .exited _, _ => none

end OperationsMachine

/-! ## The system -/

namespace Operations

variable {M : OperationsMachine} (s : Operations M)

def applyStatement (i : ℕ) (contact : Contact) (request : OperationRequest M.Row) (effect : StatementEffect M) : Operations M where
  store := effect.store
  requests := s.requests.set i
    { request with stage := effect.stage, disturbed := request.disturbed || contact ≠ .answered }
  log := s.log ++ (effect.moment.map (OperationMoment.mk · (some i))).toList

def applyInterrupt (i : ℕ) (request : OperationRequest M.Row) : Operations M :=
  match request.stage with
  | .exited _ => s
  | _ => { s with requests := s.requests.set i { request with stage := .exited .interrupted } }

end Operations

/-- Any number of requests among any other calls. -/
def OperationsMachine.system (M : OperationsMachine) : TransitionSystem (Operations M) (OperationStep M) where
  init := ⟨M.empty, [], []⟩
  step := fun s l s' =>
    match l with
    | .call event => (∀ action : Recovery, M.call event.call ≠ action.call) ∧
        M.toStoreMachine.system.step s.store event s'.store ∧ s'.requests = s.requests ∧
        s'.log = s.log ++ [⟨⟨M.view s.store, M.view s'.store, none⟩, none⟩]
    | .arrive operation =>
        s' = { s with requests := s.requests ++ [⟨operation, operation.firstStage, false, s.log.length⟩] }
    | .statement i nowMillis contact => ∃ request effect, s.requests[i]? = some request ∧
        M.statement nowMillis contact s.store request = some effect ∧ s' = s.applyStatement i contact request effect
    | .interrupt i => ∃ request, s.requests[i]? = some request ∧ s' = s.applyInterrupt i request

/-! ## The adapters -/

/-- `findStatus` on the maps reads a delivery and its attempts at one moment. -/
def memoryOperations : OperationsMachine where
  toOperatorMachine := memoryOperators
  Row := DeliveryStatus
  readRow := fun s id => .ok (s.findStatus id)
  readRest := fun _ status => .ok status
  Shows := fun status e => status = e.status
  Kept := fun _ => True

/-- The tables never hold an attempt, as the statement that records one is refused. -/
def postgresOperations : OperationsMachine where
  toOperatorMachine := postgresOperators
  Row := Delivery
  readRow := fun db id => db.findRowById .findStatus id
  readRest := fun db delivery => db.readStatus .findStatus delivery
  Shows := fun delivery e => delivery = e.delivery
  Kept := fun db => db.deliveryAttempts.rows = []

def Adapter.operations : Adapter → OperationsMachine
  | .memory => memoryOperations
  | .postgres => postgresOperations

end Relay
