import Relay.Operations.Http
import Relay.Store.Events
import Relay.Wire.Api
import Relay.Wire.Schemas

/-!
# The operations API over HTTP (`src/operationsApi.ts`, `src/adminClient.ts`)

An endpoint has a method, a path and the problems it declares. A client writes the request
line and reads the answer: what it asks is what the server takes, and what the server
responds is what it reads.
-/

namespace Relay

/-! ## The endpoints -/

theorem OperationsProblem.error_injective : Function.Injective OperationsProblem.error := by
  intro p q same
  revert same
  cases p <;> cases q <;> decide

instance : HttpApiProblem OperationsProblem where
  error := OperationsProblem.error
  httpApiStatus := OperationsProblem.httpApiStatus
  error_injective := OperationsProblem.error_injective

theorem OperationsProblem.httpApiStatus_ne (p : OperationsProblem) : p.httpApiStatus ≠ 200 := by
  cases p <;> decide

/-- A success is answered with 200. -/
abbrev OperationsApiEndpoint (α : Type) : Type := HttpApiEndpoint α OperationsProblem

def InspectDelivery : OperationsApiEndpoint DeliveryStatus where
  success := DeliveryStatus.codec
  status := 200
  error := [.deliveryNotFound, .deliveryInternal, .unauthorized]
  apart := fun problem _ => problem.httpApiStatus_ne

def ListDeadLetters : OperationsApiEndpoint (List DeliveryStatus) where
  success := DeliveryStatus.codec.list
  status := 200
  error := [.deliveryInternal, .unauthorized]
  apart := fun problem _ => problem.httpApiStatus_ne

def RetryDeadLetter : OperationsApiEndpoint DeliveryStatus where
  success := DeliveryStatus.codec
  status := 200
  error := [.deliveryNotFound, .deadLetterState, .deliveryInternal, .unauthorized]
  apart := fun problem _ => problem.httpApiStatus_ne

def RepairDeadLetter : OperationsApiEndpoint DeliveryStatus where
  success := DeliveryStatus.codec
  status := 200
  error := [.deliveryNotFound, .deadLetterState, .destinationMismatch, .deliveryInternal, .unauthorized]
  apart := fun problem _ => problem.httpApiStatus_ne

def TerminateDeadLetter : OperationsApiEndpoint DeliveryStatus where
  success := DeliveryStatus.codec
  status := 200
  error := [.deliveryNotFound, .deadLetterState, .deliveryInternal, .unauthorized]
  apart := fun problem _ => problem.httpApiStatus_ne

inductive HttpMethod where
  | get
  | post
deriving DecidableEq

structure RequestLine where
  method : HttpMethod
  path : String
deriving DecidableEq

namespace DeliveryEndpoint

def api : DeliveryEndpoint → OperationsApiEndpoint DeliveryStatus
  | .inspect _ => InspectDelivery
  | .retryDeadLetter _ => RetryDeadLetter
  | .repairDeadLetter _ => RepairDeadLetter
  | .terminateDeadLetter _ => TerminateDeadLetter

def method : DeliveryEndpoint → HttpMethod
  | .inspect _ => .get
  | .retryDeadLetter _ | .repairDeadLetter _ | .terminateDeadLetter _ => .post

/-- The path between its slashes; the parameter is a `DeliveryId`. -/
def segments : DeliveryEndpoint → List String
  | .inspect id => ["", "operations", "deliveries", id.text]
  | .retryDeadLetter id => ["", "operations", "dead-letters", id.text, "retry"]
  | .repairDeadLetter id => ["", "operations", "dead-letters", id.text, "repair"]
  | .terminateDeadLetter id => ["", "operations", "dead-letters", id.text, "terminate"]

def requestLine (endpoint : DeliveryEndpoint) : RequestLine :=
  ⟨endpoint.method, String.intercalate (String.singleton '/') endpoint.segments⟩

/-- The endpoint that serves a request line, with its parameter decoded. -/
def route (line : RequestLine) : Option DeliveryEndpoint :=
  match line.method, (line.path.split '/').toList.map (·.copy) with
  | .get, ["", "operations", "deliveries", id] => (Postgres.slug? "dlv-" id).map .inspect
  | .post, ["", "operations", "dead-letters", id, "retry"] => (Postgres.slug? "dlv-" id).map .retryDeadLetter
  | .post, ["", "operations", "dead-letters", id, "repair"] => (Postgres.slug? "dlv-" id).map .repairDeadLetter
  | .post, ["", "operations", "dead-letters", id, "terminate"] => (Postgres.slug? "dlv-" id).map .terminateDeadLetter
  | _, _ => none

/-- A failure that is not declared is a defect, and its answer has no body. -/
def encodeResponse (endpoint : DeliveryEndpoint) : OperationsResponse → HttpAnswer
  | .ok status => endpoint.api.encode (.ok status)
  | .problem problem => endpoint.api.encode (.error problem)
  | .undeclared _ => ⟨500, ""⟩

def decodeAnswer (endpoint : DeliveryEndpoint) (answer : HttpAnswer) : Option OperationsResponse :=
  (endpoint.api.decode answer).map fun reply => match reply with
    | .ok status => .ok status
    | .error problem => .problem problem

theorem segments_clean (endpoint : DeliveryEndpoint) : ∀ segment ∈ endpoint.segments, '/' ∉ segment.toList := by
  have id : '/' ∉ endpoint.deliveryId.text.toList := endpoint.deliveryId.plain (by decide) (by decide)
  intro segment member
  cases endpoint with
  | inspect _ | retryDeadLetter _ | repairDeadLetter _ | terminateDeadLetter _ =>
    simp only [segments, List.mem_cons, List.not_mem_nil, or_false] at member
    rcases member with rfl | rfl | rfl | rfl | rfl <;> first | exact id | decide

theorem route_requestLine (endpoint : DeliveryEndpoint) : route endpoint.requestLine = some endpoint := by
  have split := String.toList_split_intercalate endpoint.segments_clean
  unfold route requestLine
  cases endpoint with
  | inspect id | retryDeadLetter id | repairDeadLetter id | terminateDeadLetter id =>
    simp only [split]
    simp [segments, method, Postgres.slug?_text]

/-- What every endpoint declares. -/
theorem common_declared (endpoint : DeliveryEndpoint) {problem : OperationsProblem}
    (common : problem ∈ [.deliveryNotFound, .deliveryInternal, .unauthorized]) : problem ∈ endpoint.api.error := by
  simp only [List.mem_cons, List.not_mem_nil, or_false] at common
  cases endpoint <;> simp only [api, InspectDelivery, RetryDeadLetter, RepairDeadLetter, TerminateDeadLetter, List.mem_cons,
    List.not_mem_nil, or_false] <;> tauto

/-- What the endpoints of actions declare besides. -/
theorem recovery_declared {endpoint : DeliveryEndpoint} (acts : endpoint.method = .post) (reason : RecoveryReason) :
    recoveryProblem reason ∈ endpoint.api.error := by
  cases reason with
  | notFound => exact endpoint.common_declared (by simp [recoveryProblem])
  | notDeadLettered =>
    cases endpoint with
    | inspect id => cases acts
    | retryDeadLetter id | repairDeadLetter id | terminateDeadLetter id =>
      simp [recoveryProblem, api, RetryDeadLetter, RepairDeadLetter, TerminateDeadLetter]

/-- A handler gives only what its endpoint declares. -/
theorem respond_declared {endpoint : DeliveryEndpoint} {exit : OperationExit} {problem : OperationsProblem}
    (responds : endpoint.respond exit = some (.problem problem)) : problem ∈ endpoint.api.error := by
  cases exit with
  | answered status =>
    cases status <;> cases responds
    exact endpoint.common_declared (by simp)
  | failed failure =>
    rw [respond, Option.some.injEq] at responds
    cases caught : endpoint.catchTags failure with
    | none =>
      rw [caught] at responds
      cases responds
    | some problem' =>
      rw [caught] at responds
      cases responds
      unfold catchTags at caught
      split at caught <;> cases caught
      · exact endpoint.common_declared (by simp)
      · exact recovery_declared rfl _
      · exact recovery_declared rfl _
      · exact recovery_declared rfl _
      · simp [api, RepairDeadLetter]
  | interrupted => cases responds

theorem api_success (endpoint : DeliveryEndpoint) : endpoint.api.success = DeliveryStatus.codec := by
  cases endpoint <;> rfl

end DeliveryEndpoint

/-! ## What the client learns -/

/-- The bytes that answer an exchange. -/
def HttpOperations.answer {M : OperationsMachine} (s : HttpOperations M) (exchange : Exchange) : Option HttpAnswer :=
  (s.response exchange).map exchange.endpoint.encodeResponse

theorem HttpOperations.response_declared {M : OperationsMachine} {s : HttpOperations M} {exchange : Exchange}
    {problem : OperationsProblem} (responds : s.response exchange = some (.problem problem)) :
    problem ∈ exchange.endpoint.api.error := by
  unfold HttpOperations.response at responds
  cases became : exchange.request with
  | none =>
    rw [became] at responds
    cases responds
    exact exchange.endpoint.common_declared (by simp)
  | some i =>
    simp only [became] at responds
    obtain ⟨request, -, responds⟩ := Option.bind_eq_some_iff.1 responds
    obtain ⟨exit, -, responds⟩ := Option.bind_eq_some_iff.1 responds
    exact DeliveryEndpoint.respond_declared responds

/-- **A client knows what became of its request**, in every run, with both adapters: its request line is taken for the endpoint
it asked, and what it reads of the answer is a response of that endpoint that accounts for the exchange. -/
theorem answers_understood (adapter : Adapter) {server : OperationsServer} {tr : List (HttpStep adapter.operations)}
    {s : HttpOperations adapter.operations} (run : (adapter.operations.http server).Run tr s) {exchange : Exchange}
    (member : exchange ∈ s.exchanges) (safe : ∀ status, s.response exchange = some (.ok status) → status.Safe)
    {answer : HttpAnswer} (answers : s.answer exchange = some answer) :
    DeliveryEndpoint.route exchange.endpoint.requestLine = some exchange.endpoint ∧
      ∃ response, exchange.endpoint.decodeAnswer answer = some response ∧ s.response exchange = some response ∧
        exchange.Accounted server s response := by
  obtain ⟨response, responds, rfl⟩ := Option.map_eq_some_iff.1 answers
  have accounted := (http_inv (operations_lawful adapter) run).accounted member responds
  refine ⟨exchange.endpoint.route_requestLine, response, ?_, responds, accounted⟩
  have read {reply : Except OperationsProblem DeliveryStatus} (declares : exchange.endpoint.api.Declares reply) :=
    exchange.endpoint.api.decode_encode declares
  cases response with
  | ok status =>
    have declares : exchange.endpoint.api.Declares (.ok status) := by
      show exchange.endpoint.api.success.Fits status
      rw [exchange.endpoint.api_success]
      exact (safe status responds).fits
    rw [DeliveryEndpoint.decodeAnswer, DeliveryEndpoint.encodeResponse, read declares]
    rfl
  | problem problem =>
    have declares : exchange.endpoint.api.Declares (.error problem) := HttpOperations.response_declared responds
    rw [DeliveryEndpoint.decodeAnswer, DeliveryEndpoint.encodeResponse, read declares]
    rfl
  | undeclared failure => cases accounted

/-! ### An inspection -/

namespace Sample

def inspection : Exchange := ⟨.inspect delivery, "operators", some 0, 0⟩

def inspected : DeliveryStatus := ⟨⟨delivery, event.id, destination, .pending⟩, []⟩

/-- A delivery is saved while its inspection is under way. -/
def inspecting (stage : OperationStage DeliveryStatus) : HttpOperations memoryOperations :=
  ⟨⟨saved, [⟨.inspect delivery, stage, false, 0⟩],
    [⟨⟨memory.view MemoryStore.empty, memory.view saved, none⟩, none⟩]⟩, [inspection]⟩

end Sample

theorem inspected_safe : Sample.inspected.Safe where
  state := trivial
  attempts := by
    intro a member
    cases member

theorem runs_inspection : (memoryOperations.http Sample.server).Run
    [.receive (.inspect Sample.delivery) "operators",
      .proceed (.call ⟨0, Sample.savePending, (MemoryStore.empty.exec 0 Sample.savePending).1⟩),
      .proceed (.statement 0 0 .answered), .proceed (.statement 0 0 .answered)]
    (Sample.inspecting (.exited (.answered (some Sample.inspected)))) := by
  have received : (memoryOperations.http Sample.server).Run [.receive (.inspect Sample.delivery) "operators"]
      ⟨⟨MemoryStore.empty, [⟨.inspect Sample.delivery, .rereading, false, 0⟩], []⟩, [Sample.inspection]⟩ := by
    refine .snoc .nil ?_
    have authorized : sameSecret "operators" Sample.server.token = true := sameSecret_iff.2 rfl
    show _ = HttpOperations.receive _ _ _ _
    rw [HttpOperations.receive, if_pos authorized]
    rfl
  have called : (memoryOperations.http Sample.server).Run
      [.receive (.inspect Sample.delivery) "operators",
        .proceed (.call ⟨0, Sample.savePending, (MemoryStore.empty.exec 0 Sample.savePending).1⟩)]
      (Sample.inspecting .rereading) := by
    refine received.snoc ⟨fun _ => by rintro ⟨⟩, ⟨?_, memory.step_of_fresh 0 Sample.fresh_savePending, rfl, rfl⟩, rfl⟩
    intro action same
    cases action <;> cases same
  have found : Sample.saved.findStatus Sample.delivery = some Sample.inspected := by decide +kernel
  have read : (memoryOperations.http Sample.server).Run
      [.receive (.inspect Sample.delivery) "operators",
        .proceed (.call ⟨0, Sample.savePending, (MemoryStore.empty.exec 0 Sample.savePending).1⟩),
        .proceed (.statement 0 0 .answered)] (Sample.inspecting (.rereadingRest Sample.inspected)) := by
    refine called.snoc ⟨fun _ => by rintro ⟨⟩, ?_, rfl⟩
    refine ⟨_, ⟨Sample.saved, .rereadingRest Sample.inspected, none⟩, rfl, ?_, rfl⟩
    show some (StatementEffect.mk _ (memoryOperations.read .answered (.ok (Sample.saved.findStatus Sample.delivery)) _) _) = _
    rw [found]
    rfl
  refine read.snoc ⟨fun _ => by rintro ⟨⟩, ?_, rfl⟩
  exact ⟨_, ⟨Sample.saved, .exited (.answered (some Sample.inspected)), none⟩, rfl, rfl, rfl⟩

theorem answers_understood_inspection : ∃ answer, ∃ response,
    Sample.inspection.endpoint.decodeAnswer answer = some response ∧
      Sample.inspection.Accounted Sample.server (Sample.inspecting (.exited (.answered (some Sample.inspected)))) response := by
  have safe : ∀ status, (Sample.inspecting (.exited (.answered (some Sample.inspected)))).response Sample.inspection =
      some (.ok status) → status.Safe := by
    intro status responds
    cases responds
    exact inspected_safe
  obtain ⟨-, response, read, -, accounted⟩ :=
    answers_understood .memory runs_inspection (List.mem_singleton_self Sample.inspection) safe rfl
  exact ⟨_, response, read, accounted⟩

end Relay
