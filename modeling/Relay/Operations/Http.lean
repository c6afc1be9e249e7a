import Relay.Operations.Runs
import Relay.Runtime.Configuration

/-!
# The operations of the HTTP server (`src/httpServer.ts`, `src/operationsApi.ts`)

An exchange is refused without the bearer token of the operators. Otherwise it becomes a
request of `DeliveryOperations`, and the exit of the request becomes its response. The
responses are read back: what each status code says of the delivery, of what was done
for the exchange and when.
-/

namespace Relay

/-- `sameSecret`: two secrets are compared as the bytes of their UTF-8 encodings. -/
def sameSecret (left right : String) : Bool :=
  left.toUTF8.size = right.toUTF8.size && left.toUTF8 = right.toUTF8

theorem sameSecret_iff {left right : String} : sameSecret left right = true ↔ left = right := by
  simp only [sameSecret, Bool.and_eq_true, decide_eq_true_eq, String.toUTF8_eq_toByteArray, String.toByteArray_inj]
  constructor
  · exact And.right
  · rintro rfl
    exact ⟨rfl, rfl⟩

/-! ## Responses -/

inductive OperationsProblem where
  | unauthorized
  | deliveryInternal
  | deliveryNotFound
  | deadLetterState
  | destinationMismatch
deriving DecidableEq

def OperationsProblem.error : OperationsProblem → String
  | .unauthorized => "unauthorized"
  | .deliveryInternal => "internal_error"
  | .deliveryNotFound => "delivery_not_found"
  | .deadLetterState => "not_dead_lettered"
  | .destinationMismatch => "destination_mismatch"

def OperationsProblem.httpApiStatus : OperationsProblem → ℕ
  | .unauthorized => 401
  | .deliveryInternal => 500
  | .deliveryNotFound => 404
  | .deadLetterState => 409
  | .destinationMismatch => 409

inductive OperationsResponse where
  | ok (status : DeliveryStatus)
  | problem (problem : OperationsProblem)
  /-- A failure that the endpoint does not declare. -/
  | undeclared (failure : Failure)
deriving DecidableEq

/-- The endpoints of `RelayOperationsApiGroup` about one delivery; `listDeadLetters` and `reconcile` name none. -/
inductive DeliveryEndpoint where
  | inspect (deliveryId : DeliveryId)
  | retryDeadLetter (deliveryId : DeliveryId)
  | repairDeadLetter (deliveryId : DeliveryId)
  | terminateDeadLetter (deliveryId : DeliveryId)
deriving DecidableEq

/-- The route of a repair is the one configured. -/
def AppConfiguration.route (configuration : AppConfiguration) : DeliveryRouteSnapshot where
  destinationId := configuration.destination.id
  endpoint := configuration.destination.endpoint
  configurationVersion := configuration.destinationConfigurationVersion

def recoveryProblem : RecoveryReason → OperationsProblem
  | .notFound => .deliveryNotFound
  | .notDeadLettered => .deadLetterState

namespace DeliveryEndpoint

def deliveryId : DeliveryEndpoint → DeliveryId
  | .inspect id | .retryDeadLetter id | .repairDeadLetter id | .terminateDeadLetter id => id

def operation (configuration : AppConfiguration) : DeliveryEndpoint → Operation
  | .inspect id => .inspect id
  | .retryDeadLetter id => .act (.retryDeadLetter id)
  | .repairDeadLetter id => .act (.repairDeadLetter id configuration.route)
  | .terminateDeadLetter id => .act (.terminateDeadLetter id)

/-- What an endpoint catches. -/
def catchTags : DeliveryEndpoint → Failure → Option OperationsProblem
  | _, .deliveryRepository .. => some .deliveryInternal
  | .retryDeadLetter _, .deadLetterRecovery _ reason
  | .repairDeadLetter _, .deadLetterRecovery _ reason
  | .terminateDeadLetter _, .deadLetterRecovery _ reason => some (recoveryProblem reason)
  | .repairDeadLetter _, .deadLetterDestinationMismatch .. => some .destinationMismatch
  | _, _ => none

/-- The response to the exit of a request; an interrupted one gets none. -/
def respond (endpoint : DeliveryEndpoint) : OperationExit → Option OperationsResponse
  | .answered (some status) => some (.ok status)
  | .answered none => some (.problem .deliveryNotFound)
  | .failed failure => some ((endpoint.catchTags failure).elim (.undeclared failure) .problem)
  | .interrupted => none

end DeliveryEndpoint

def OperationStage.exit {Row : Type} : OperationStage Row → Option OperationExit
  | .exited exit => some exit
  | _ => none

/-! ## Exchanges -/

structure OperationsServer where
  configuration : AppConfiguration
  /-- `RELAY_OPERATIONS_AUTHORIZATION`. -/
  token : String

structure Exchange where
  endpoint : DeliveryEndpoint
  /-- The bearer credential it came with; empty if there was none. -/
  credential : String
  /-- The request it became. -/
  request : Option ℕ
  /-- The length of the log when it came. -/
  arrived : ℕ

structure HttpOperations (M : OperationsMachine) where
  operations : Operations M
  exchanges : List Exchange

inductive HttpStep (M : OperationsMachine) where
  | receive (endpoint : DeliveryEndpoint) (credential : String)
  /-- A step of a request, or of anything else that uses the store. -/
  | proceed (step : OperationStep M)

namespace HttpOperations

variable {M : OperationsMachine} (s : HttpOperations M) (server : OperationsServer)

/-- `operationsBearerAuth` stands before the handler. -/
def receive (endpoint : DeliveryEndpoint) (credential : String) : HttpOperations M :=
  if sameSecret credential server.token then
    let operation := endpoint.operation server.configuration
    { operations := { s.operations with
        requests := s.operations.requests ++ [⟨operation, operation.firstStage, false, s.operations.log.length⟩] }
      exchanges := s.exchanges ++ [⟨endpoint, credential, some s.operations.requests.length, s.operations.log.length⟩] }
  else
    { s with exchanges := s.exchanges ++ [⟨endpoint, credential, none, s.operations.log.length⟩] }

def response (exchange : Exchange) : Option OperationsResponse :=
  match exchange.request with
  | none => some (.problem .unauthorized)
  | some i => s.operations.requests[i]?.bind fun request => request.stage.exit.bind exchange.endpoint.respond

end HttpOperations

/-- Any number of exchanges among any other calls. -/
def OperationsMachine.http (M : OperationsMachine) (server : OperationsServer) :
    TransitionSystem (HttpOperations M) (HttpStep M) where
  init := ⟨M.system.init, []⟩
  step := fun s l s' =>
    match l with
    | .receive endpoint credential => s' = s.receive server endpoint credential
    | .proceed step => (∀ operation, step ≠ .arrive operation) ∧ M.system.step s.operations step s'.operations ∧
        s'.exchanges = s.exchanges

/-! ## What a response says -/

/-- The exchange came with the token and became the request `i`. -/
structure Exchange.Authorized (exchange : Exchange) (server : OperationsServer) (i : ℕ) : Prop where
  credential : exchange.credential = server.token
  request : exchange.request = some i

/-- What is known by the response to an exchange. -/
inductive Exchange.Accounted {M : OperationsMachine} (exchange : Exchange) (server : OperationsServer) (s : HttpOperations M) :
    OperationsResponse → Prop where
  | unauthorized (wrong : exchange.credential ≠ server.token) (nobody : exchange.request = none) :
      Accounted exchange server s (.problem .unauthorized)
  /-- The status was held since the exchange came. -/
  | inspected (i k : ℕ) (authorized : exchange.Authorized server i) (id : DeliveryId) (inspects : exchange.endpoint = .inspect id)
      (absent : Absent s.operations.log i) (since : exchange.arrived ≤ k) (within : k ≤ s.operations.log.length)
      (shown : Entry) (there : held s.operations.log k id = some shown) : Accounted exchange server s (.ok shown.status)
  /-- The action ended a dead letter, once; the status is the one that was held then, or one that followed. -/
  | performed (i j k : ℕ) (authorized : exchange.Authorized server i) (action : Recovery)
      (acts : exchange.endpoint.operation server.configuration = .act action) (acted : Acted s.operations.log i action j)
      (since : exchange.arrived ≤ j) (before : j < k) (within : k ≤ s.operations.log.length) (shown : Entry)
      (there : held s.operations.log k action.id = some shown)
      (follows : ∃ e e' nowMillis, held s.operations.log j action.id = some e ∧ action.Ends nowMillis e e' ∧ e'.Follows shown)
      (terminated : ∀ id, action = .terminateDeadLetter id → shown.delivery.state = .terminated) :
      Accounted exchange server s (.ok shown.status)
  | absent (i k : ℕ) (authorized : exchange.Authorized server i) (quiet : Quiet s.operations.log i) (since : exchange.arrived ≤ k)
      (within : k ≤ s.operations.log.length) (gone : held s.operations.log k exchange.endpoint.deliveryId = none) :
      Accounted exchange server s (.problem .deliveryNotFound)
  | alive (i k : ℕ) (authorized : exchange.Authorized server i) (quiet : Quiet s.operations.log i) (since : exchange.arrived ≤ k)
      (within : k ≤ s.operations.log.length) (e : Entry) (there : held s.operations.log k exchange.endpoint.deliveryId = some e)
      (alive : Entry.isDeadLettered e.delivery.state = false) : Accounted exchange server s (.problem .deadLetterState)
  | foreign (i k : ℕ) (authorized : exchange.Authorized server i) (id : DeliveryId) (repairs : exchange.endpoint = .repairDeadLetter id)
      (quiet : Quiet s.operations.log i) (since : exchange.arrived ≤ k) (within : k ≤ s.operations.log.length) (e : Entry)
      (there : held s.operations.log k id = some e) (foreign : e.delivery.destinationId ≠ server.configuration.destination.id) :
      Accounted exchange server s (.problem .destinationMismatch)
  /-- A statement of the request went unanswered; whether its action was carried out is not known, only that it was at most once. -/
  | failed (i : ℕ) (authorized : exchange.Authorized server i)
      (disturbed : ∃ request, s.operations.requests[i]? = some request ∧ request.disturbed = true)
      (once : AtMostOnce s.operations.log i (exchange.endpoint.operation server.configuration)) :
      Accounted exchange server s (.problem .deliveryInternal)

/-! ## The invariant -/

section Inv

variable {M : OperationsMachine} {server : OperationsServer} {s : HttpOperations M}

/-- What an exchange became. -/
structure Exchange.Placed (exchange : Exchange) (server : OperationsServer) (s : Operations M) : Prop where
  refused : exchange.request = none → exchange.credential ≠ server.token
  authorized : ∀ i, exchange.request = some i → exchange.credential = server.token ∧ ∃ request, s.requests[i]? = some request ∧
    request.operation = exchange.endpoint.operation server.configuration ∧ request.arrived = exchange.arrived

structure HttpOperations.Inv (server : OperationsServer) (s : HttpOperations M) : Prop where
  operations : s.operations.Inv
  placed : ∀ exchange ∈ s.exchanges, exchange.Placed server s.operations
  /-- Every request was asked for. -/
  asked : ∀ i, i < s.operations.requests.length → ∃ exchange ∈ s.exchanges, exchange.request = some i

/-- Requests keep what they were when they came. -/
def SameRequests (s s' : Operations M) : Prop :=
  s'.requests.length = s.requests.length ∧ ∀ (i : ℕ) (request : OperationRequest M.Row), s.requests[i]? = some request →
    ∃ request', s'.requests[i]? = some request' ∧ request'.operation = request.operation ∧ request'.arrived = request.arrived

theorem sameRequests_of_eq {s s' : Operations M} (same : s'.requests = s.requests) : SameRequests s s' :=
  ⟨by rw [same], fun i request here => ⟨request, by rw [same]; exact here, rfl, rfl⟩⟩

theorem sameRequests_set {s s' : Operations M} {i : ℕ} {request request' : OperationRequest M.Row}
    (here : s.requests[i]? = some request) (set : s'.requests = s.requests.set i request')
    (operation : request'.operation = request.operation) (arrived : request'.arrived = request.arrived) : SameRequests s s' := by
  have inside := (List.getElem?_eq_some_iff.1 here).1
  refine ⟨by rw [set, List.length_set], ?_⟩
  intro j other there
  rw [set]
  by_cases same : j = i
  · subst same
    rw [here, Option.some.injEq] at there
    subst there
    exact ⟨request', List.getElem?_set_self inside, operation, arrived⟩
  · exact ⟨other, by rw [List.getElem?_set_ne (Ne.symm same)]; exact there, rfl, rfl⟩

theorem sameRequests_step {s s' : Operations M} {step : OperationStep M} (arrives : ∀ operation, step ≠ .arrive operation)
    (run : M.system.step s step s') : SameRequests s s' := by
  cases step with
  | call event => exact sameRequests_of_eq run.2.2.1
  | arrive operation => exact absurd rfl (arrives operation)
  | statement i nowMillis contact =>
    obtain ⟨request, effect, here, -, rfl⟩ := run
    exact sameRequests_set here rfl rfl rfl
  | interrupt i =>
    obtain ⟨request, here, rfl⟩ := run
    unfold Operations.applyInterrupt
    split
    · exact sameRequests_of_eq rfl
    · exact sameRequests_set here rfl rfl rfl

theorem Exchange.Placed.later {exchange : Exchange} {s s' : Operations M} (placed : exchange.Placed server s)
    (same : ∀ (i : ℕ) (request : OperationRequest M.Row), s.requests[i]? = some request →
      ∃ request', s'.requests[i]? = some request' ∧ request'.operation = request.operation ∧ request'.arrived = request.arrived) :
    exchange.Placed server s' where
  refused := placed.refused
  authorized := by
    intro i became
    obtain ⟨credential, request, here, operation, arrived⟩ := placed.authorized i became
    obtain ⟨request', here', operation', arrived'⟩ := same i request here
    exact ⟨credential, request', here', operation'.trans operation, arrived'.trans arrived⟩

theorem HttpOperations.Inv.proceed (lawful : M.Lawful) (inv : s.Inv server) {s' : HttpOperations M} {step : OperationStep M}
    (arrives : ∀ operation, step ≠ .arrive operation) (run : M.system.step s.operations step s'.operations)
    (exchanges : s'.exchanges = s.exchanges) : s'.Inv server := by
  obtain ⟨length, same⟩ := sameRequests_step arrives run
  refine ⟨inv_step lawful inv.operations run, ?_, ?_⟩
  · intro exchange member
    rw [exchanges] at member
    exact (inv.placed exchange member).later same
  · intro i inside
    rw [length] at inside
    rw [exchanges]
    exact inv.asked i inside

theorem HttpOperations.Inv.receive (inv : s.Inv server) (endpoint : DeliveryEndpoint) (credential : String) :
    (s.receive server endpoint credential).Inv server := by
  unfold HttpOperations.receive
  by_cases authorized : sameSecret credential server.token = true
  · rw [if_pos authorized]
    have credential := sameSecret_iff.1 authorized
    refine ⟨inv_arrive inv.operations _, ?_, ?_⟩
    · intro exchange member
      obtain earlier | new := List.mem_append.1 member
      · refine (inv.placed exchange earlier).later ?_
        intro i request here
        have inside := (List.getElem?_eq_some_iff.1 here).1
        exact ⟨request, (List.getElem?_append_left inside).trans here, rfl, rfl⟩
      · rw [List.mem_singleton.1 new]
        refine ⟨fun nobody => (by cases nobody), ?_⟩
        rintro i ⟨⟩
        exact ⟨credential, _, List.getElem?_concat_length, rfl, rfl⟩
    · intro i inside
      rw [List.length_append, List.length_singleton] at inside
      obtain earlier | rfl := Nat.lt_succ_iff_lt_or_eq.1 inside
      · obtain ⟨exchange, member, became⟩ := inv.asked i earlier
        exact ⟨exchange, List.mem_append_left _ member, became⟩
      · exact ⟨_, List.mem_append_right _ (List.mem_singleton_self _), rfl⟩
  · rw [if_neg authorized]
    have wrong : credential ≠ server.token := fun same => authorized (sameSecret_iff.2 same)
    refine ⟨inv.operations, ?_, ?_⟩
    · intro exchange member
      obtain earlier | new := List.mem_append.1 member
      · exact inv.placed exchange earlier
      · rw [List.mem_singleton.1 new]
        refine ⟨fun _ => wrong, ?_⟩
        rintro i ⟨⟩
    · intro i inside
      obtain ⟨exchange, member, became⟩ := inv.asked i inside
      exact ⟨exchange, List.mem_append_left _ member, became⟩

/-- **The invariant of the exchanges.** -/
theorem http_inv (lawful : M.Lawful) {tr : List (HttpStep M)} (run : (M.http server).Run tr s) : s.Inv server := by
  refine run.preserves (HttpOperations.Inv server) ?_ ?_
  · exact ⟨inv_init lawful, (fun _ member => by cases member), fun i inside => absurd inside (Nat.not_lt_zero i)⟩
  · intro s l s' inv step
    cases l with
    | receive endpoint credential =>
      obtain rfl := step
      exact inv.receive endpoint credential
    | proceed step' =>
      obtain ⟨arrives, run, exchanges⟩ := step
      exact inv.proceed lawful arrives run exchanges

end Inv

/-! ## Every response -/

section Responses

variable {M : OperationsMachine} {server : OperationsServer} {s : HttpOperations M} {exchange : Exchange} {log : List OperationMoment}
  {i j k l : ℕ} {action : Recovery}

/-- What the store held just before and after a moment of the log. -/
theorem Acted.held (chained : Chained log) (acted : Acted log i action j) : action.Carried (held log j) (held log (j + 1)) := by
  obtain ⟨m, moment, -, carried⟩ := acted.ended
  rw [chained.before j m moment] at carried
  rwa [Relay.held, moment]

theorem Recovery.serve_terminate {nowMillis : ℕ} {id : DeliveryId} {e e' : Entry}
    (served : Recovery.serve nowMillis (.terminateDeadLetter id) (some e) = (.ok .done, some e')) :
    e'.delivery.state = .terminated := by
  rw [Recovery.serve, Entry.terminateDeadLetter, Entry.recovered] at served
  split at served <;> cases served
  rfl

/-- The delivery of a carried out action, when it is shown later. -/
theorem Acted.shown (chained : Chained log) (acted : Acted log i action j) (before : j < k) (within : k ≤ log.length)
    {shown : Entry} (there : Relay.held log k action.id = some shown) :
    (∃ e e' nowMillis, Relay.held log j action.id = some e ∧ action.Ends nowMillis e e' ∧ e'.Follows shown) ∧
      ∀ id, action = .terminateDeadLetter id → shown.delivery.state = .terminated := by
  obtain ⟨nowMillis, e, e', first, served, ends, left⟩ := acted.held chained
  have after : Relay.held log (j + 1) action.id = some e' := by rw [left, Function.update_self]
  obtain ⟨shown', there', follows⟩ := chained.follows_held after before within
  rw [there, Option.some.injEq] at there'
  subst there'
  refine ⟨⟨e, e', nowMillis, first, ends, follows⟩, ?_⟩
  rintro id rfl
  have terminated := Recovery.serve_terminate served
  rw [follows.final (by rw [terminated]; rfl), terminated]

/-- What the endpoint of an action makes of a refusal. -/
theorem accounted_refused (authorized : exchange.Authorized server i) {failure : Failure}
    (acts : exchange.endpoint.operation server.configuration = .act action) (quiet : Quiet s.operations.log i)
    (since : exchange.arrived ≤ k) (within : k ≤ s.operations.log.length)
    (refuses : action.Refuses (held s.operations.log k action.id) failure.tag) {response : OperationsResponse}
    (responds : exchange.endpoint.respond (.failed failure) = some response) : exchange.Accounted server s response := by
  have named : exchange.endpoint.deliveryId = action.id := by
    cases endpoint : exchange.endpoint with
    | inspect id => rw [endpoint] at acts; cases acts
    | retryDeadLetter id | repairDeadLetter id | terminateDeadLetter id => rw [endpoint] at acts; cases acts; rfl
  rw [← named] at refuses
  generalize tagged : failure.tag = tag at refuses
  cases refuses with
  | notFound gone =>
    cases failure <;> cases tagged
    cases endpoint : exchange.endpoint with
    | inspect id => rw [endpoint] at acts; cases acts
    | retryDeadLetter id | repairDeadLetter id | terminateDeadLetter id =>
      rw [endpoint] at responds
      cases responds
      exact .absent i k authorized quiet since within gone
  | notDeadLettered e there alive =>
    cases failure <;> cases tagged
    cases endpoint : exchange.endpoint with
    | inspect id => rw [endpoint] at acts; cases acts
    | retryDeadLetter id | repairDeadLetter id | terminateDeadLetter id =>
      rw [endpoint] at responds
      cases responds
      exact .alive i k authorized quiet since within e there alive
  | mismatch e route repair there foreign =>
    cases failure <;> cases tagged
    cases endpoint : exchange.endpoint with
    | inspect id => rw [endpoint] at acts; cases acts
    | retryDeadLetter id | terminateDeadLetter id => rw [endpoint] at acts; cases acts; cases repair
    | repairDeadLetter id =>
      rw [endpoint] at responds acts there
      cases acts
      cases repair
      cases responds
      exact .foreign i k authorized id endpoint quiet since within e there foreign

/-- The exit of its request accounts for the response to an exchange. -/
theorem accounted_exited (inv : s.Inv server) {request : OperationRequest M.Row} {exit : OperationExit}
    (authorized : exchange.Authorized server i) (here : s.operations.requests[i]? = some request)
    (operation : request.operation = exchange.endpoint.operation server.configuration) (arrived : request.arrived = exchange.arrived)
    (explains : Explains s.operations.log i request exit) {response : OperationsResponse}
    (responds : exchange.endpoint.respond exit = some response) : exchange.Accounted server s response := by
  cases explains with
  | status k done within shown there =>
    cases responds
    rw [operation, arrived] at done
    rw [operation] at there
    cases endpoint : exchange.endpoint with
    | inspect id =>
      rw [endpoint] at done there
      exact .inspected i k authorized id endpoint done.1 done.2 within shown there
    | retryDeadLetter id | repairDeadLetter id | terminateDeadLetter id =>
      rw [endpoint] at done there
      obtain ⟨j, since, before, acted⟩ := done
      obtain ⟨follows, terminated⟩ := acted.shown inv.operations.chained before within there
      exact .performed i j k authorized _ (by rw [endpoint]; rfl) acted since before within shown there follows terminated
  | missing id k inspects quiet since within absent =>
    cases responds
    rw [arrived] at since
    refine .absent i k authorized quiet since within ?_
    rw [operation] at inspects
    cases endpoint : exchange.endpoint with
    | inspect id' => rw [endpoint] at inspects; cases inspects; exact absent
    | retryDeadLetter id' | repairDeadLetter id' | terminateDeadLetter id' => rw [endpoint] at inspects; cases inspects
  | refused action failure k acts quiet since within refuses =>
    rw [arrived] at since
    rw [operation] at acts
    exact accounted_refused authorized acts quiet since within refuses responds
  | lost lostOperation cause disturbed once =>
    cases endpoint : exchange.endpoint with
    | inspect id | retryDeadLetter id | repairDeadLetter id | terminateDeadLetter id =>
      rw [endpoint] at responds
      cases responds
      refine .failed i authorized ⟨request, here, disturbed⟩ ?_
      rw [← operation]
      exact once
  | interrupted once => cases responds

theorem HttpOperations.Inv.accounted (inv : s.Inv server) (member : exchange ∈ s.exchanges) {response : OperationsResponse}
    (responds : s.response exchange = some response) : exchange.Accounted server s response := by
  have placed := inv.placed exchange member
  unfold HttpOperations.response at responds
  cases became : exchange.request with
  | none =>
    rw [became] at responds
    cases responds
    exact .unauthorized (placed.refused became) became
  | some i =>
    obtain ⟨credential, request, here, operation, arrived⟩ := placed.authorized i became
    have tracks := inv.operations.tracks i request here
    simp only [became, here, Option.bind_some] at responds
    generalize reached : request.stage = stage at tracks responds
    cases tracks with
    | exited exit explains => exact accounted_exited inv ⟨credential, became⟩ here operation arrived explains responds
    | _ => cases responds

end Responses

namespace Sample

def server : OperationsServer where
  configuration := {
    destination := ⟨⟨"dst-9", by decide⟩, ⟨"https://example.test/hook"⟩, "Bearer destination"⟩
    destinationConfigurationVersion := Nat.toPNat' 3
    concurrency := ⟨Nat.toPNat' 2, Nat.toPNat' 2⟩
    flow := ⟨Nat.toPNat' 8, Nat.toPNat' 8⟩
    perDestination_le := le_rfl
    recovery := defaultDeliveryRecovery }
  token := "operators"

/-- What the maps went through until the first delivery was given up. -/
def deadLog : List OperationMoment :=
  [⟨⟨memory.view MemoryStore.empty, memory.view (MemoryStore.empty.exec 0 savePending).2, none⟩, none⟩,
    ⟨⟨memory.view (MemoryStore.empty.exec 0 savePending).2, memory.view deadMaps, none⟩, none⟩]

def deadStatus : DeliveryStatus := ⟨⟨delivery, event.id, destination, .deadLettered .retryBudgetExhausted⟩, []⟩

/-- An exchange about the dead letter. -/
def recovery (endpoint : DeliveryEndpoint) : Exchange := ⟨endpoint, "operators", some 0, 2⟩

def recovering (endpoint : DeliveryEndpoint) (action : Recovery) (store : MemoryStore) (stage : OperationStage DeliveryStatus)
    (more : List OperationMoment) : HttpOperations memoryOperations :=
  ⟨⟨store, [⟨.act action, stage, false, 2⟩], deadLog ++ more⟩, [recovery endpoint]⟩

/-- The moment at which its action is carried out. -/
def recovered (action : Recovery) (after : MemoryStore) : OperationMoment :=
  ⟨⟨memory.view deadMaps, memory.view after, some ⟨action, 3, .ok .done⟩⟩, some 0⟩

end Sample

section Recovering

open Sample

variable {endpoint : DeliveryEndpoint} {action : Recovery}

theorem recovering_step {store store' : MemoryStore} {stage stage' : OperationStage DeliveryStatus} {moment : Option Moment}
    {more : List OperationMoment}
    (made : memoryOperations.statement 3 .answered store ⟨.act action, stage, false, 2⟩ = some ⟨store', stage', moment⟩)
    (reachable : (memoryOperations.http server).Reachable (recovering endpoint action store stage more)) :
    (memoryOperations.http server).Reachable
      (recovering endpoint action store' stage' (more ++ (moment.map (OperationMoment.mk · (some 0))).toList)) := by
  refine reachable.step (l := .proceed (.statement 0 3 .answered)) ⟨fun _ => by rintro ⟨⟩, ⟨_, _, rfl, made, ?_⟩, rfl⟩
  rw [recovering, ← List.append_assoc]
  rfl

/-- An action on the dead letter, from its exchange to the answer. -/
theorem reachable_recovery {after : MemoryStore} {status : DeliveryStatus}
    (acts : endpoint.operation server.configuration = .act action) (about : action.id = delivery)
    (updated : deadMaps.exec 3 action.call = (.ok .done, after)) (left : after.findStatus delivery = some status) :
    (memoryOperations.http server).Reachable
      (recovering endpoint action after (.exited (.answered (some status))) [recovered action after]) := by
  have called : (memoryOperations.http server).Reachable ⟨⟨deadMaps, [], deadLog⟩, []⟩ := by
    have saved : (memoryOperations.http server).Reachable ⟨⟨(MemoryStore.empty.exec 0 savePending).2, [], deadLog.take 1⟩, []⟩ := by
      refine TransitionSystem.Reachable.init.step
        (l := .proceed (.call ⟨0, savePending, (MemoryStore.empty.exec 0 savePending).1⟩))
        ⟨fun _ => by rintro ⟨⟩, ⟨?_, memory.step_of_fresh 0 fun _ _ => rfl, rfl, rfl⟩, rfl⟩
      intro action same
      cases action <;> cases same
    have fresh : memory.Fresh (MemoryStore.empty.exec 0 savePending).2 exhaust := by
      intro id creates
      cases creates
    refine saved.step (l := .proceed (.call ⟨2, exhaust, ((MemoryStore.empty.exec 0 savePending).2.exec 2 exhaust).1⟩))
      ⟨fun _ => by rintro ⟨⟩, ⟨?_, memory.step_of_fresh 2 fresh, rfl, rfl⟩, rfl⟩
    intro action same
    cases action <;> cases same
  have received : (memoryOperations.http server).Reachable (recovering endpoint action deadMaps .reading []) := by
    refine called.step (l := .receive endpoint "operators") ?_
    have authorized : sameSecret "operators" server.token = true := sameSecret_iff.2 rfl
    show _ = HttpOperations.receive _ _ _ _
    rw [HttpOperations.receive, if_pos authorized, acts]
    rfl
  have dead : deadMaps.findStatus delivery = some deadStatus := by decide +kernel
  have row : (Operation.act action).id = delivery := about
  have readRow : memoryOperations.statement 3 .answered deadMaps ⟨.act action, .reading, false, 2⟩ =
      some ⟨deadMaps, .readingRest deadStatus, none⟩ := by
    show some (StatementEffect.mk _ (memoryOperations.read .answered (.ok (deadMaps.findStatus (Operation.act action).id)) _) _) = _
    rw [row, dead]
    rfl
  have update : memoryOperations.statement 3 .answered deadMaps ⟨.act action, .passed, false, 2⟩ =
      some ⟨after, .rereading, some (recovered action after).toMoment⟩ := by
    have reply : memoryOperations.update 3 deadMaps action = (.ok .done, after) := updated
    show some (StatementEffect.mk (memoryOperations.update 3 deadMaps action).2
      (memoryOperations.acted .answered action (memoryOperations.update 3 deadMaps action).1)
      (some ⟨memory.view deadMaps, memory.view (memoryOperations.update 3 deadMaps action).2,
        some ⟨action, 3, (memoryOperations.update 3 deadMaps action).1.answer⟩⟩)) = _
    rw [reply]
    rfl
  have reread : memoryOperations.statement 3 .answered after ⟨.act action, .rereading, false, 2⟩ =
      some ⟨after, .rereadingRest status, none⟩ := by
    show some (StatementEffect.mk _ (memoryOperations.read .answered (.ok (after.findStatus (Operation.act action).id)) _) _) = _
    rw [row, left]
    rfl
  have readRest : memoryOperations.statement 3 .answered deadMaps ⟨.act action, .readingRest deadStatus, false, 2⟩ =
      some ⟨deadMaps, .acting, none⟩ := rfl
  have check : memoryOperations.statement 3 .answered deadMaps ⟨.act action, .acting, false, 2⟩ =
      some ⟨deadMaps, .passed, none⟩ := rfl
  have answer : memoryOperations.statement 3 .answered after ⟨.act action, .rereadingRest status, false, 2⟩ =
      some ⟨after, .exited (.answered (some status)), none⟩ := rfl
  have passed := recovering_step check (recovering_step readRest (recovering_step readRow received))
  exact recovering_step answer (recovering_step reread (recovering_step update passed))

end Recovering

namespace Sample

/-- The maps after the dead letter was terminated. -/
def terminatedMaps : MemoryStore := (deadMaps.exec 3 (.terminateDeadLetter delivery)).2

def terminatedStatus : DeliveryStatus := ⟨⟨delivery, event.id, destination, .terminated⟩, []⟩

def terminated : HttpOperations memoryOperations :=
  recovering (.terminateDeadLetter delivery) (.terminateDeadLetter delivery) terminatedMaps
    (.exited (.answered (some terminatedStatus))) [recovered (.terminateDeadLetter delivery) terminatedMaps]

end Sample

theorem reachable_terminated : (memoryOperations.http Sample.server).Reachable Sample.terminated := by
  have done : (Sample.deadMaps.exec 3 (.terminateDeadLetter Sample.delivery)).1 = .ok .done := by decide +kernel
  exact reachable_recovery rfl rfl (Prod.ext done rfl) (by decide +kernel)

/-- **Every response is accounted for**, in every run, with both adapters: a status was held after the one action of its
exchange, a problem names what was the case while the exchange lasted and nothing was changed for it, and only an exchange that
lost a statement ends in an internal error. -/
theorem exchanges_accounted (adapter : Adapter) {server : OperationsServer} {tr : List (HttpStep adapter.operations)}
    {s : HttpOperations adapter.operations} (run : (adapter.operations.http server).Run tr s) {exchange : Exchange}
    (member : exchange ∈ s.exchanges) {response : OperationsResponse} (responds : s.response exchange = some response) :
    exchange.Accounted server s response :=
  (http_inv (operations_lawful adapter) run).accounted member responds

theorem exchanges_accounted_termination :
    (Sample.recovery (.terminateDeadLetter Sample.delivery)).Accounted Sample.server Sample.terminated
      (.ok Sample.terminatedStatus) := by
  obtain ⟨tr, run⟩ := reachable_terminated
  exact exchanges_accounted .memory run (List.mem_singleton_self _) rfl

/-- Whatever its exit, a request acted at most once. -/
theorem Explains.atMostOnce {Row : Type} {log : List OperationMoment} {i : ℕ} {request : OperationRequest Row} {exit : OperationExit}
    (explains : Explains log i request exit) : AtMostOnce log i request.operation := by
  cases explains with
  | status k done => exact done.atMostOnce
  | missing id k inspects quiet | refused action failure k inspects quiet => exact .inl quiet
  | lost operation cause disturbed once => exact once
  | interrupted once => exact once

/-- **Operators change what they are authorized to, once**: each step of the log that was taken for a request changed nothing, or
it carried out the action of the endpoint of an exchange that came with the token, the only step of that request. -/
theorem changes_authorized (adapter : Adapter) {server : OperationsServer} {tr : List (HttpStep adapter.operations)}
    {s : HttpOperations adapter.operations} (run : (adapter.operations.http server).Run tr s) {i j : ℕ} {m : OperationMoment}
    (moment : s.operations.log[j]? = some m) (taken : m.request = some i) :
    m.after = m.before ∨ ∃ exchange ∈ s.exchanges, exchange.Authorized server i ∧ ∃ action,
      exchange.endpoint.operation server.configuration = .act action ∧ Acted s.operations.log i action j := by
  have inv := http_inv (operations_lawful adapter) run
  have among := List.mem_of_getElem? moment
  obtain ⟨exchange, member, became⟩ := inv.asked i (inv.operations.owners m among i taken)
  obtain ⟨credential, request, here, operation, -⟩ := (inv.placed exchange member).authorized i became
  have once : AtMostOnce s.operations.log i request.operation := by
    have tracks := inv.operations.tracks i request here
    by_cases exits : ∃ exit, request.stage = .exited exit
    · obtain ⟨exit, exited⟩ := exits
      rw [exited] at tracks
      cases tracks with
      | exited _ explains => exact explains.atMostOnce
    · exact tracks.atMostOnce fun exit exited => exits ⟨exit, exited⟩
  obtain quiet | ⟨action, j', acts, acted⟩ := once
  · exact .inl (quiet m among taken)
  · obtain rfl := acted.only j m moment taken
    exact .inr ⟨exchange, member, ⟨credential, became⟩, action, operation.symm.trans acts, acted⟩

theorem changes_authorized_termination : ∃ exchange ∈ Sample.terminated.exchanges, exchange.Authorized Sample.server 0 ∧
    ∃ action, exchange.endpoint.operation Sample.server.configuration = .act action ∧
      Acted Sample.terminated.operations.log 0 action 2 := by
  obtain ⟨tr, run⟩ := reachable_terminated
  refine (changes_authorized .memory run (j := 2) rfl rfl).resolve_left ?_
  intro same
  have before : (memory.view Sample.deadMaps Sample.delivery).map (·.delivery.state) =
      some (.deadLettered .retryBudgetExhausted) := by decide +kernel
  have after : (memory.view Sample.terminatedMaps Sample.delivery).map (·.delivery.state) = some .terminated := by decide +kernel
  have kept : memory.view Sample.terminatedMaps = memory.view Sample.deadMaps := same
  rw [kept, before] at after
  cases after

end Relay
