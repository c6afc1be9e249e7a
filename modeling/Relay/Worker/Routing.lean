import Relay.Ledger.Routes
import Relay.Ledger.Recovery
import Relay.Store.Replay
import Relay.Worker.Ledger

/-!
# Routing (`src/deliverySupervisor.ts`, `src/effectSender.ts`)

A job is opened with the destination its requests go to: the route that came with
the claim, or else the destination its caller has in hand. Processes may be
configured anew at any time, and operators repair routes, while the jobs of old
claims still send. The log of the calls says which route a claim was issued under.
-/

namespace Relay

/-- `destinationFor`. -/
def destinationFor (claimed : ClaimedDelivery) (fallback : Destination) : Destination :=
  claimed.route.elim fallback fun route => ⟨route.destinationId, route.endpoint, fallback.authorization⟩

structure DeliveryRequest where
  deliveryId : DeliveryId
  destinationId : DestinationId
  endpoint : URL
  authorization : String
  /-- Serialised by `JSON.stringify`. -/
  body : RelayEvent
deriving DecidableEq

def makeDeliveryRequest (deliveryId : DeliveryId) (event : RelayEvent) (destination : Destination) : DeliveryRequest where
  deliveryId
  destinationId := destination.id
  endpoint := destination.endpoint
  authorization := destination.authorization
  body := event

/-- What a job is opened with besides its claim. -/
structure Assignment where
  destination : Destination
  event : RelayEvent
  /-- The calls up to the one that issued the claim. -/
  issuedAt : List Serving

structure SentRequest where
  request : DeliveryRequest
  /-- Of the claim the request is sent under. -/
  generation : ClaimGeneration
  issuedAt : List Serving

structure RoutedState (M : StoreMachine) where
  worker : WorkerState M
  /-- One for each job. -/
  assignments : List Assignment
  /-- The destination each process is configured with. -/
  configured : ℕ → Destination
  calls : List Serving
  requests : List SentRequest

inductive RoutedLabel (M : StoreMachine) where
  | call (process : ℕ) (l : M.Event)
  | configure (process : ℕ)
  | work (l : WorkerLabel M)

/-- The calls of intake, reconciliation and operators, each with the destination its caller falls back to. A record that is
accepted and a repair bring the route of the configuration they were made under. -/
inductive CallsWith (configured : Destination) : StoreCall → Destination → Prop where
  | accept (record : IntakeRecord) : CallsWith configured (.accept record) configured
  | deliverTo (event : RelayEvent) (id : DeliveryId) (destination : Destination) (request : ClaimRequest) :
      CallsWith configured (.savePending event id destination.id request) destination
  | reconcile (ownerId : WorkerId) (destinationId : DestinationId) (limit lease : Number) :
      CallsWith configured (.claimPending ownerId destinationId limit lease) configured
  | recover (action : Recovery) : CallsWith configured action.call configured
  | find (id : DeliveryId) : CallsWith configured (.findById id) configured

namespace RoutedState

variable {M : StoreMachine} (s : RoutedState M)

/-- After a call, with a job for every claim it handed out. -/
def opened (process : ℕ) (fallback : Destination) (l : M.Event) (store : M.Store) : RoutedState M :=
  { s with
    worker := { s.worker.asked (some l) store with
      jobs := s.worker.jobs ++ (handedOut l.reply).map (Job.issued process fallback.id) }
    assignments := s.assignments ++
      (handedOut l.reply).map fun c => ⟨destinationFor c fallback, c.event, s.calls ++ [l.serving]⟩
    calls := s.calls ++ [l.serving] }

/-- The request a step of a job sends, if any. -/
def dispatched : WorkerLabel M → List SentRequest
  | .send i =>
    match s.worker.jobs[i]?, s.assignments[i]? with
    | some job, some assignment =>
      [⟨makeDeliveryRequest job.deliveryId assignment.event assignment.destination, job.claim.generation,
        assignment.issuedAt⟩]
    | _, _ => []
  | _ => []

/-- After a step of a job. -/
def worked (l : WorkerLabel M) (worker : WorkerState M) : RoutedState M :=
  { s with
    worker
    calls := s.calls ++ (l.event.map StoreMachine.Event.serving).toList
    requests := s.requests ++ s.dispatched l }

end RoutedState

section Steps

variable (M : StoreMachine) (processes : ℕ → WorkerProcess)

inductive RoutedStep : RoutedState M → RoutedLabel M → RoutedState M → Prop where
  | call {s : RoutedState M} {l : M.Event} {store : M.Store} (process : ℕ) (fallback : Destination)
      (asks : CallsWith (s.configured process) (M.call l.call) fallback) (step : M.system.step s.worker.store l store) :
      RoutedStep s (.call process l) (s.opened process fallback l store)
  /-- A process starts over with another configuration; its jobs crash one by one. -/
  | configure {s : RoutedState M} (process : ℕ) (destination : Destination) :
      RoutedStep s (.configure process) { s with configured := Function.update s.configured process destination }
  | work {s : RoutedState M} {l : WorkerLabel M} {worker : WorkerState M} (inside : ∀ event, l ≠ .environment event)
      (step : WorkerStep M processes s.worker l worker) : RoutedStep s (.work l) (s.worked l worker)

def routedSystem (configured : ℕ → Destination) : TransitionSystem (RoutedState M) (RoutedLabel M) where
  init := ⟨(workerSystem M processes).init, [], configured, [], []⟩
  step := RoutedStep M processes

end Steps

/-! ## What holds of a claim -/

/-- The claim of generation `generation` was issued by the last of the calls `issuedAt`, and what is sent under it goes to
`destination`. -/
structure FollowsRoute (calls : List Serving) (L : Ledger) (id : DeliveryId) (generation : ClaimGeneration)
    (issuedAt : List Serving) (destinationId : DestinationId) (endpoint : URL) : Prop where
  past : issuedAt <+: calls
  issue : ∃ before l c, issuedAt = before ++ [l] ∧ c ∈ handedOut l.answer ∧ c.delivery.id = id ∧
    c.claim.generation = generation
  /-- To the endpoint of the last repair before, or else the accepted one. -/
  endpoint : ∀ route, acceptedRoute id calls = some route → endpoint = ((lastRepair id issuedAt).getD route).endpoint
  destination : ∃ e, L id = some e ∧
    ∀ route, acceptedRoute id calls = some route → destinationId = e.delivery.destinationId

structure RoutesKept {M : StoreMachine} (s : RoutedState M) : Prop where
  /-- The store holds the route the calls so far put there. -/
  stored : ∀ id e, M.view s.worker.store id = some e → e.route = routeAfter id s.calls
  requests : ∀ r ∈ s.requests, FollowsRoute s.calls (M.view s.worker.store) r.request.deliveryId r.generation r.issuedAt
    r.request.destinationId r.request.endpoint
  /-- The id a job is admitted and recorded under is that of the destination it sends to. -/
  jobs : ∀ (i : ℕ) (job : Job) (assignment : Assignment), s.worker.jobs[i]? = some job → s.assignments[i]? = some assignment →
    assignment.destination.id = job.destinationId ∧ FollowsRoute s.calls (M.view s.worker.store) job.deliveryId
      job.claim.generation assignment.issuedAt job.destinationId assignment.destination.endpoint

section Follows

variable {nowMillis : ℕ} {L L' : Ledger} {call : StoreCall} {answer : Answer} {calls issuedAt : List Serving}
  {id : DeliveryId} {generation : ClaimGeneration} {destinationId : DestinationId} {endpoint : URL}

/-- **Where a claim is sent does not change**, whatever is called after it was issued. -/
theorem FollowsRoute.served (follows : FollowsRoute calls L id generation issuedAt destinationId endpoint)
    (served : Served nowMillis L call answer L') :
    FollowsRoute (calls ++ [⟨nowMillis, call, answer⟩]) L' id generation issuedAt destinationId endpoint := by
  obtain ⟨e, held, own⟩ := follows.destination
  obtain ⟨e', held', identical, -⟩ := served.rerouted held
  have same : acceptedRoute id (calls ++ [⟨nowMillis, call, answer⟩]) = acceptedRoute id calls := by
    rw [acceptedRoute_snoc, served.unaccepted held, Option.or_none]
  refine ⟨follows.past.trans (List.prefix_append _ _), follows.issue, ?_, e', held', ?_⟩
  · rw [same]
    exact follows.endpoint
  · intro route accepted
    rw [same] at accepted
    rw [own route accepted, identical.destinationId]

theorem destinationFor_id (c : ClaimedDelivery) (fallback : Destination) :
    (destinationFor c fallback).id = Job.destinationFor c fallback.id := by
  unfold destinationFor Job.destinationFor
  cases c.route <;> rfl

/-- A claim that was just issued goes where the store has its delivery go. -/
theorem FollowsRoute.issued {l : Serving} {c : ClaimedDelivery} (routes : Routes (calls ++ [l]) L')
    (served : Served l.nowMillis L l.call l.answer L') (member : c ∈ handedOut l.answer) (fallback : Destination) :
    FollowsRoute (calls ++ [l]) L' c.delivery.id c.claim.generation (calls ++ [l]) (destinationFor c fallback).id
      (destinationFor c fallback).endpoint := by
  obtain ⟨e, held, route⟩ := served.handsOut_route member
  have routed : ∀ accepted, acceptedRoute c.delivery.id (calls ++ [l]) = some accepted →
      c.route = some ((lastRepair c.delivery.id (calls ++ [l])).getD accepted) := by
    intro accepted has
    rw [route, routes.stored _ e held, routeAfter, has]
    cases lastRepair c.delivery.id (calls ++ [l]) <;> rfl
  refine ⟨List.prefix_rfl, ⟨calls, l, c, rfl, member, rfl, rfl⟩, ?_, e, held, ?_⟩
  · intro accepted has
    rw [destinationFor, routed accepted has]
    rfl
  · intro accepted has
    have own := routes.own _ e held _ (by rw [← route]; exact routed accepted has)
    rw [destinationFor, routed accepted has]
    exact own

end Follows

/-! ## The invariant -/

section Run

variable {M : StoreMachine} {processes : ℕ → WorkerProcess}

/-- A step of a job keeps every job the one it was. -/
structure WorkerState.Keeps (s s' : WorkerState M) : Prop where
  length : s'.jobs.length = s.jobs.length
  each : ∀ (i : ℕ) (job' : Job), s'.jobs[i]? = some job' →
    ∃ job, s.jobs[i]? = some job ∧ job'.key = job.key ∧ job'.destinationId = job.destinationId

theorem WorkerState.Keeps.refl {s s' : WorkerState M} (same : s'.jobs = s.jobs) : s.Keeps s' := by
  refine ⟨by rw [same], ?_⟩
  intro i job here
  rw [same] at here
  exact ⟨job, here, rfl, rfl⟩

theorem WorkerState.Keeps.set {s s' : WorkerState M} {i : ℕ} {job job' : Job} (here : s.jobs[i]? = some job)
    (set : s'.jobs = s.jobs.set i job') (key : job'.key = job.key) (destination : job'.destinationId = job.destinationId) :
    s.Keeps s' := by
  refine ⟨by rw [set, List.length_set], ?_⟩
  intro k job'' at_k
  rw [set] at at_k
  by_cases same : i = k
  · subst same
    rw [List.getElem?_set_self (List.getElem?_eq_some_iff.1 here).1, Option.some.injEq] at at_k
    subst at_k
    exact ⟨job, here, key, destination⟩
  · rw [List.getElem?_set_ne same] at at_k
    exact ⟨job'', at_k, rfl, rfl⟩

/-- What a step of a job does to the store. -/
inductive Asked (M : StoreMachine) (s : M.Store) : Option M.Event → M.Store → Prop where
  | quiet {s' : M.Store} (same : M.view s' = M.view s) : Asked M s none s'
  | served {l : M.Event} {s' : M.Store}
      (served : Served l.nowMillis (M.view s) (M.call l.call) l.reply.answer (M.view s')) : Asked M s (some l) s'

theorem StoreMachine.Lawful.asked (lawful : M.Lawful) {s s' : M.Store} (sound : M.Sound s) {call : StoreCall}
    {event : Option M.Event} {seen : Reply} (asks : M.Asks s call event seen s') : Asked M s event s' := by
  cases asks with
  | answered asked step => exact .served (lawful.step sound step).2
  | unanswered asked step failure => exact .served (lawful.step sound step).2
  | unreached failure => exact .quiet rfl

theorem Job.renewed_destination (job : Job) (seen : Reply) : (job.renewed seen).destinationId = job.destinationId := by
  unfold Job.renewed
  split
  · rfl
  · rfl
  · split <;> rfl

theorem Job.appended_destination (job : Job) (attempt : AttemptObservation) (decision : DeliveryAttemptDecision) (seen : Reply) :
    (job.appended attempt decision seen).destinationId = job.destinationId := by
  unfold Job.appended
  split
  · rfl
  · cases decision <;> rfl

/-- **The jobs stay what they are**, and the store is asked at most once, by any step inside a job. -/
theorem WorkerStep.inside (lawful : M.Lawful) {s s' : WorkerState M} (sound : M.Sound s.store) {l : WorkerLabel M}
    (inside : ∀ event, l ≠ .environment event) (step : WorkerStep M processes s l s') :
    s.Keeps s' ∧ Asked M s.store l.event s'.store := by
  cases step with
  | @environment l => exact absurd rfl (inside l)
  | drop here queued asks => exact ⟨.set here rfl rfl rfl, lawful.asked sound asks⟩
  | start trace startedAt here queued => exact ⟨.set here rfl rfl rfl, .quiet rfl⟩
  | @renew i job event seen store here running renewing asks =>
    have key : (job.renewed seen).key = job.key := by
      obtain ⟨-, ⟨-, ⟨failure, rfl⟩, -⟩ | ⟨l, -, served, rfl | ⟨failure, rfl⟩⟩⟩ := lawful.asks sound asks
      · exact job.renewed_error failure
      · exact job.renewed_key served
      · exact job.renewed_error failure
    exact ⟨.set here rfl key (job.renewed_destination seen), lawful.asked sound asks⟩
  | send here running leased ready => exact ⟨.set here rfl rfl rfl, .quiet rfl⟩
  | observe startedAt completedAt outcome here running sending => exact ⟨.set here rfl rfl rfl, .quiet rfl⟩
  | record now fraction here running observed made asks =>
    exact ⟨.set here rfl (Job.appended_key _ _ _) (Job.appended_destination _ _ _ _), lawful.asked sound asks⟩
  | unrecordable now fraction here running observed throws =>
    exact ⟨.set here rfl (Job.appended_key _ _ _) (Job.appended_destination _ _ _ _), .quiet rfl⟩
  | publish here running recorded room => exact ⟨.set here rfl rfl rfl, .quiet rfl⟩
  | lose here running failed => exact ⟨.set here rfl rfl rfl, .quiet rfl⟩
  | release here failing asks => exact ⟨.set here rfl rfl rfl, lawful.asked sound asks⟩
  | complete here succeeding => exact ⟨.set here rfl rfl rfl, .quiet rfl⟩
  | interrupt here unanswered => exact ⟨.set here rfl rfl rfl, .quiet rfl⟩
  | crash here => exact ⟨.set here rfl rfl rfl, .quiet rfl⟩
  | subscribers process move => exact ⟨.refl rfl, .quiet rfl⟩

structure RoutedState.Inv (s : RoutedState M) : Prop where
  worker : WorkerInvariant s.worker
  routes : Routes s.calls (M.view s.worker.store)
  length : s.assignments.length = s.worker.jobs.length
  kept : RoutesKept s

theorem CallsWith.unfenced {configured fallback : Destination} {call : StoreCall} (asks : CallsWith configured call fallback) :
    call.fence = none := by
  cases asks with
  | recover action => exact action.unfenced
  | accept | deliverTo | reconcile | find => rfl

theorem CallsWith.unsaved {configured fallback : Destination} {call : StoreCall} (asks : CallsWith configured call fallback)
    (delivery : Delivery) : call ≠ .save delivery := by
  cases asks with
  | recover action => cases action <;> simp [Recovery.call]
  | accept | deliverTo | reconcile | find => simp

/-- Every routed step is a step of the workers. -/
theorem RoutedStep.worker {s s' : RoutedState M} {l : RoutedLabel M} (step : RoutedStep M processes s l s') :
    s'.worker = s.worker ∨ ∃ l', WorkerStep M processes s.worker l' s'.worker := by
  cases step with
  | call process fallback asks step =>
    exact .inr ⟨_, .environment process fallback.id asks.unfenced asks.unsaved step⟩
  | configure => exact .inl rfl
  | work inside step => exact .inr ⟨_, step⟩

theorem Routes.asked {calls : List Serving} {s s' : M.Store} {event : Option M.Event} (routes : Routes calls (M.view s))
    (asked : Asked M s event s') : Routes (calls ++ (event.map StoreMachine.Event.serving).toList) (M.view s') := by
  cases asked with
  | quiet same =>
    rw [same]
    simpa using routes
  | served served => exact routes.served served

theorem FollowsRoute.asked {calls issuedAt : List Serving} {s s' : M.Store} {event : Option M.Event} {id : DeliveryId}
    {generation : ClaimGeneration} {destinationId : DestinationId} {endpoint : URL}
    (follows : FollowsRoute calls (M.view s) id generation issuedAt destinationId endpoint) (asked : Asked M s event s') :
    FollowsRoute (calls ++ (event.map StoreMachine.Event.serving).toList) (M.view s') id generation issuedAt destinationId
      endpoint := by
  cases asked with
  | quiet same =>
    rw [same]
    simpa using follows
  | served served => exact follows.served served

theorem RoutedState.Inv.call (processes : ℕ → WorkerProcess) (lawful : M.Lawful) {s : RoutedState M} (inv : s.Inv) {l : M.Event} {store : M.Store}
    (process : ℕ) {fallback : Destination} (asks : CallsWith (s.configured process) (M.call l.call) fallback)
    (step : M.system.step s.worker.store l store) : (s.opened process fallback l store).Inv := by
  obtain ⟨-, served⟩ := lawful.step inv.worker.sound step
  have routes : Routes (s.calls ++ [l.serving]) (M.view store) := inv.routes.served served
  have opens : WorkerStep M processes s.worker (.environment l) (s.opened process fallback l store).worker :=
    .environment process fallback.id asks.unfenced asks.unsaved step
  refine ⟨inv.worker.step lawful opens, routes, ?_, ?_, ?_, ?_⟩
  · simp only [RoutedState.opened, List.length_append, List.length_map, inv.length]
  · exact routes.stored
  · intro r member
    exact (inv.kept.requests r member).served served
  · intro i job assignment here there
    simp only [RoutedState.opened] at here there
    by_cases old : i < s.worker.jobs.length
    · rw [List.getElem?_append_left old] at here
      rw [List.getElem?_append_left (by rw [inv.length]; exact old)] at there
      obtain ⟨same, follows⟩ := inv.kept.jobs i job assignment here there
      exact ⟨same, follows.served served⟩
    · rw [List.getElem?_append_right (by omega), List.getElem?_map, Option.map_eq_some_iff] at here
      rw [List.getElem?_append_right (by rw [inv.length]; omega), List.getElem?_map, Option.map_eq_some_iff, inv.length] at there
      obtain ⟨c, found, rfl⟩ := here
      obtain ⟨c', found', rfl⟩ := there
      rw [found, Option.some.injEq] at found'
      subst found'
      have member : c ∈ handedOut l.serving.answer := by
        rw [show l.serving.answer = l.reply.answer from rfl, handedOut_answer]
        exact List.mem_of_getElem? found
      have follows := FollowsRoute.issued routes served member fallback
      rw [destinationFor_id] at follows
      exact ⟨destinationFor_id c fallback, follows⟩

theorem RoutedState.mem_dispatched {s : RoutedState M} {l : WorkerLabel M} {r : SentRequest} (sent : r ∈ s.dispatched l) :
    ∃ (i : ℕ) (job : Job) (assignment : Assignment), s.worker.jobs[i]? = some job ∧ s.assignments[i]? = some assignment ∧
      r = ⟨makeDeliveryRequest job.deliveryId assignment.event assignment.destination, job.claim.generation,
        assignment.issuedAt⟩ := by
  unfold RoutedState.dispatched at sent
  split at sent
  · next i =>
    split at sent
    · next job assignment here there => exact ⟨i, job, assignment, here, there, List.mem_singleton.1 sent⟩
    · cases sent
  · cases sent

theorem RoutedState.Inv.work (lawful : M.Lawful) {s : RoutedState M} (inv : s.Inv) {l : WorkerLabel M} {worker : WorkerState M}
    (inside : ∀ event, l ≠ .environment event) (step : WorkerStep M processes s.worker l worker) : (s.worked l worker).Inv := by
  obtain ⟨keeps, asked⟩ := step.inside lawful inv.worker.sound inside
  have routes := inv.routes.asked asked
  refine ⟨inv.worker.step lawful step, routes, ?_, routes.stored, ?_, ?_⟩
  · exact inv.length.trans keeps.length.symm
  · intro r member
    obtain earlier | sent := List.mem_append.1 member
    · exact (inv.kept.requests r earlier).asked asked
    · obtain ⟨i, job, assignment, here, there, rfl⟩ := RoutedState.mem_dispatched sent
      obtain ⟨same, follows⟩ := inv.kept.jobs i job assignment here there
      rw [← same] at follows
      exact follows.asked asked
  · intro i job' assignment here there
    obtain ⟨job, before, key, destination⟩ := keeps.each i job' here
    obtain ⟨same, follows⟩ := inv.kept.jobs i job assignment before there
    obtain ⟨named, generation⟩ := Prod.mk.inj key
    rw [named, generation, destination]
    exact ⟨same, follows.asked asked⟩

/-- **Every claim is sent along the route it was issued under**, in every run of any processes. -/
theorem RoutedState.Inv.reachable (lawful : M.Lawful) {configured : ℕ → Destination} {s : RoutedState M}
    (reachable : (routedSystem M processes configured).Reachable s) : s.Inv := by
  refine reachable.invariant RoutedState.Inv ?_ ?_
  · have start : Routes [] (M.view M.empty) := by
      rw [lawful.view_empty]
      exact routes_init
    have workers : WorkerInvariant (workerSystem M processes).init := .init lawful
    refine ⟨workers, start, rfl, start.stored, (fun _ member => by cases member), ?_⟩
    intro i job assignment here
    cases here
  · intro s l s' inv step
    cases step with
    | call process fallback asks step => exact inv.call processes lawful process asks step
    | configure process destination => exact ⟨inv.worker, inv.routes, inv.length, inv.kept.stored, inv.kept.requests, inv.kept.jobs⟩
    | work inside step => exact inv.work lawful inside step

end Run

/-- **Requests follow the route of their claim**, with either adapter, whatever the processes are configured with and when
they are configured anew. -/
theorem adapters_keep_routes (adapter : Adapter) (processes : ℕ → WorkerProcess) (configured : ℕ → Destination)
    {s : RoutedState adapter.intake.toStoreMachine}
    (reachable : (routedSystem adapter.intake.toStoreMachine processes configured).Reachable s) : RoutesKept s :=
  (RoutedState.Inv.reachable adapter.lawful.store reachable).kept

/-! ## A request after a change of configuration -/

namespace Sample

def oldDestination : Destination := ⟨destination, ⟨"https://old.example/"⟩, "secret"⟩
def newDestination : Destination := ⟨destination, ⟨"https://new.example/"⟩, "secret"⟩
def acceptance : StoreCall := .accept record

def unrouted : RoutedState machine := (routedSystem machine processes fun _ => oldDestination).init

def acceptedJob : RoutedState machine :=
  unrouted.opened 0 oldDestination (machine.event 0 machine.empty acceptance) (machine.exec 0 machine.empty acceptance).2

def reconfigured : RoutedState machine :=
  { acceptedJob with configured := Function.update acceptedJob.configured 0 newDestination }

def startedJob : RoutedState machine :=
  reconfigured.worked (.start 0)
    (reconfigured.worker.setJob 0 ((Job.issued 0 destination claimed).start resilience untraced 0))

def leasedJob : RoutedState machine :=
  startedJob.worked (.renew 0 (some (machine.event 0 startedJob.worker.store renewal)) (.ok (.renewed claim)))
    ((startedJob.worker.call 0 renewal).setJob 0 job)

def sentJob : RoutedState machine :=
  leasedJob.worked (.send 0) { leasedJob.worker.setJob 0 flying with sent := leasedJob.worker.sent ++ [job.key] }

theorem accepts_job : RoutedStep machine processes unrouted (.call 0 (machine.event 0 machine.empty acceptance)) acceptedJob := by
  refine .call 0 oldDestination (.accept record) ?_
  exact StoreMachine.step_event (c := acceptance) 0 fun id _ => congrFun memory_lawful.view_empty id

theorem reconfigures : RoutedStep machine processes acceptedJob (.configure 0) reconfigured := .configure 0 newDestination

theorem starts_job : RoutedStep machine processes reconfigured (.work (.start 0)) startedJob := by
  have here : reconfigured.worker.jobs[0]? = some (Job.issued 0 destination claimed) := by decide +kernel
  exact .work (fun _ => by simp) (.start untraced 0 here rfl)

theorem renews_job : RoutedStep machine processes startedJob
    (.work (.renew 0 (some (machine.event 0 startedJob.worker.store renewal)) (.ok (.renewed claim)))) leasedJob := by
  have renewed : (machine.exec 0 startedJob.worker.store renewal).1 = .ok (.renewed claim) := by decide +kernel
  have asks := machine.asks_event (c := renewal) 0 startedJob.worker.store rfl
  rw [renewed] at asks
  have here : startedJob.worker.jobs[0]? = some ((Job.issued 0 destination claimed).start resilience untraced 0) := by
    decide +kernel
  exact .work (fun _ => by simp)
    (@WorkerStep.renew machine processes startedJob.worker 0 _ _ _ _ here rfl (fun _ => by simp [Job.start, Job.issued]) asks)

theorem sends_job : RoutedStep machine processes leasedJob (.work (.send 0)) sentJob := by
  have here : leasedJob.worker.jobs[0]? = some job := by decide +kernel
  exact .work (fun _ => by simp) (.send here rfl (by simp [job]) rfl)

theorem sentJob_reachable : (routedSystem machine processes fun _ => oldDestination).Reachable sentJob :=
  ((((TransitionSystem.Reachable.init.step accepts_job).step reconfigures).step starts_job).step renews_job).step sends_job

end Sample

/-- The process is configured anew between an acceptance and its request. -/
theorem adapters_keep_routes_reconfigured :
    Sample.sentJob.requests.map (fun r => (r.request.deliveryId, r.request.endpoint.href)) =
        [(Sample.delivery, "https://old.example/")] ∧ RoutesKept Sample.sentJob :=
  ⟨by decide +kernel,
    adapters_keep_routes .memory Sample.processes (fun _ => Sample.oldDestination) Sample.sentJob_reachable⟩

end Relay
