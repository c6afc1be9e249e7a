import Relay.Store.Events
import Relay.Worker.Routing

/-!
# The event of a request (`src/deliveryWorker.ts`)

A job is opened with the event of its claim and sends it with every attempt. While no
event id is used for a second event, all requests for a delivery carry the same event,
under whatever claims, by whatever processes and how often they are sent.
-/

namespace Relay

namespace EventMachine

variable {M : EventMachine} {store store' : M.Store} {id : DeliveryId} {event : RelayEvent}

/-- The store has the event under the event id of the delivery. -/
def Carries (M : EventMachine) (store : M.Store) (id : DeliveryId) (event : RelayEvent) : Prop :=
  ∃ e, M.view store id = some e ∧ M.stored store e.delivery.eventId = some event

theorem Carries.unique {event' : RelayEvent} (carries : M.Carries store id event) (carries' : M.Carries store id event') :
    event = event' := by
  obtain ⟨e, held, stored⟩ := carries
  obtain ⟨e', held', stored'⟩ := carries'
  rw [held, Option.some.injEq] at held'
  subst held'
  exact Option.some.inj (stored.symm.trans stored')

/-- The call leaves every event in its place. -/
def KeepsEvents (M : EventMachine) (store : M.Store) (l : M.Event) : Prop :=
  ∀ id, ¬ M.Replaces id l.nowMillis store l.call

/-- A delivery keeps its event. -/
theorem Lawful.carries (lawful : M.Lawful) (sound : M.Sound store) {l : M.Event} (step : M.system.step store l store')
    (keeps : M.KeepsEvents store l) (carries : M.Carries store id event) : M.Carries store' id event := by
  obtain ⟨e, held, stored⟩ := carries
  obtain ⟨fresh, run⟩ := step
  obtain ⟨-, served⟩ := lawful.store.step sound ⟨fresh, run⟩
  obtain ⟨e', held', identical, -⟩ := served.rerouted held
  have stored' := lawful.keeps l.nowMillis sound (keeps e.delivery.eventId) stored
  rw [run] at stored'
  exact ⟨e', held', by rw [identical.eventId]; exact stored'⟩

/-- What is handed out has the event of its delivery. -/
theorem Lawful.handed_carries (lawful : M.Lawful) (sound : M.Sound store) {l : M.Event} (step : M.system.step store l store')
    (keeps : M.KeepsEvents store l) {c : ClaimedDelivery} (member : c ∈ handedOut l.reply) :
    M.Carries store' c.delivery.id c.event := by
  obtain ⟨fresh, run⟩ := step
  obtain ⟨-, served⟩ := lawful.store.step sound ⟨fresh, run⟩
  have reply : (M.exec l.nowMillis store l.call).1 = l.reply := by rw [run]
  obtain ⟨creates, brings⟩ | ⟨e, held, stored⟩ := lawful.carried sound fresh (reply ▸ member)
  · have absent := fresh _ creates
    rw [← handedOut_answer] at member
    obtain ⟨e, created, -⟩ := served.handsOut_route member
    have exists' : M.view (M.exec l.nowMillis store l.call).2 c.delivery.id ≠ none := by
      rw [run, created]
      simp
    have stored := lawful.created l.nowMillis sound creates brings absent exists'
    rw [run] at stored
    have effect := served.effect c.delivery.id
    rw [absent, created] at effect
    refine ⟨e, created, ?_⟩
    obtain ⟨delivery, saved⟩ | named := effect.created
    · rw [saved] at brings
      cases brings
    · rw [brings] at named
      rw [← Option.some.inj named]
      exact stored
  · exact lawful.carries sound ⟨fresh, run⟩ keeps ⟨e, held, stored⟩

end EventMachine

/-! ## The requests of a run -/

section Run

variable {M : EventMachine} {processes : ℕ → WorkerProcess} {s s' : RoutedState M.toStoreMachine}

/-- The call on the store a step makes. -/
def RoutedLabel.event {M : StoreMachine} : RoutedLabel M → Option M.Event
  | .call _ l => some l
  | .configure _ => none
  | .work l => l.event

/-- No event takes the place of another one under its id. -/
def KeepsEvents (M : EventMachine) (s : RoutedState M.toStoreMachine) (l : RoutedLabel M.toStoreMachine) : Prop :=
  ∀ event, l.event = some event → M.KeepsEvents s.worker.store event

/-- A step makes one call on the store or none. -/
theorem StoreMachine.Asks.store {M : StoreMachine} {s s' : M.Store} {call : StoreCall} {event : Option M.Event} {seen : Reply}
    (asks : M.Asks s call event seen s') :
    event = none ∧ s' = s ∨ ∃ l, event = some l ∧ M.system.step s l s' := by
  cases asks with
  | answered asked step => exact .inr ⟨_, rfl, step⟩
  | unanswered asked step failure => exact .inr ⟨_, rfl, step⟩
  | unreached failure => exact .inl ⟨rfl, rfl⟩

theorem WorkerStep.store {M : StoreMachine} {processes : ℕ → WorkerProcess} {s s' : WorkerState M} {l : WorkerLabel M}
    (step : WorkerStep M processes s l s') :
    l.event = none ∧ s'.store = s.store ∨ ∃ event, l.event = some event ∧ M.system.step s.store event s'.store := by
  cases step with
  | environment process fallback unfenced unsaved step => exact .inr ⟨_, rfl, step⟩
  | drop here queued asks => exact asks.store
  | renew here running renewing asks => exact asks.store
  | record now fraction here running observed made asks => exact asks.store
  | release here failing asks => exact asks.store
  | start | send | observe | unrecordable | publish | lose | complete | interrupt | crash | subscribers =>
    exact .inl ⟨rfl, rfl⟩

/-- What the jobs and the requests carry is what the store has. -/
structure RoutedState.Carrying (s : RoutedState M.toStoreMachine) : Prop where
  jobs : ∀ (i : ℕ) (job : Job) (assignment : Assignment), s.worker.jobs[i]? = some job →
    s.assignments[i]? = some assignment → M.Carries s.worker.store job.deliveryId assignment.event
  requests : ∀ r ∈ s.requests, M.Carries s.worker.store r.request.deliveryId r.request.body

theorem RoutedState.Carrying.call (lawful : M.Lawful) (inv : s.Inv) (carrying : s.Carrying) {l : M.Event} {store : M.Store}
    (process : ℕ) (fallback : Destination) (step : M.system.step s.worker.store l store)
    (keeps : M.KeepsEvents s.worker.store l) : (s.opened process fallback l store).Carrying where
  jobs := by
    intro i job assignment here there
    simp only [RoutedState.opened] at here there
    by_cases old : i < s.worker.jobs.length
    · rw [List.getElem?_append_left old] at here
      rw [List.getElem?_append_left (by rw [inv.length]; exact old)] at there
      exact lawful.carries inv.worker.sound step keeps (carrying.jobs i job assignment here there)
    · rw [List.getElem?_append_right (by omega), List.getElem?_map, Option.map_eq_some_iff] at here
      rw [List.getElem?_append_right (by rw [inv.length]; omega), List.getElem?_map, Option.map_eq_some_iff, inv.length] at there
      obtain ⟨c, found, rfl⟩ := here
      obtain ⟨c', found', rfl⟩ := there
      rw [found, Option.some.injEq] at found'
      subst found'
      exact lawful.handed_carries inv.worker.sound step keeps (List.mem_of_getElem? found)
  requests := fun r member => lawful.carries inv.worker.sound step keeps (carrying.requests r member)

theorem RoutedState.Carrying.work (lawful : M.Lawful) (inv : s.Inv) (carrying : s.Carrying) {l : WorkerLabel M.toStoreMachine}
    {worker : WorkerState M.toStoreMachine} (inside : ∀ event, l ≠ .environment event)
    (step : WorkerStep M.toStoreMachine processes s.worker l worker)
    (keeps : ∀ event, l.event = some event → M.KeepsEvents s.worker.store event) : (s.worked l worker).Carrying := by
  have kept {id : DeliveryId} {event : RelayEvent} (carries : M.Carries s.worker.store id event) :
      M.Carries worker.store id event := by
    obtain ⟨-, same⟩ | ⟨call, called, asked⟩ := step.store
    · rw [same]
      exact carries
    · exact lawful.carries inv.worker.sound asked (keeps call called) carries
  refine ⟨?_, ?_⟩
  · intro i job' assignment here there
    obtain ⟨job, before, key, -⟩ := (step.inside lawful.store inv.worker.sound inside).1.each i job' here
    rw [(Prod.mk.inj key).1]
    exact kept (carrying.jobs i job assignment before there)
  · intro r member
    obtain earlier | sent := List.mem_append.1 member
    · exact kept (carrying.requests r earlier)
    · obtain ⟨i, job, assignment, here, there, rfl⟩ := RoutedState.mem_dispatched sent
      exact kept (carrying.jobs i job assignment here there)

/-- **Every request carries the event of its delivery**, in every run that keeps the events. -/
theorem RoutedState.Carrying.reachable (lawful : M.Lawful) {configured : ℕ → Destination}
    (reachable : ((routedSystem M.toStoreMachine processes configured).restrict (KeepsEvents M)).Reachable s) : s.Carrying := by
  refine reachable.invariant_restrict RoutedState.Carrying ?_ ?_
  · refine ⟨?_, fun _ member => by cases member⟩
    intro i job assignment here
    cases here
  · intro s l s' before keeps carrying step
    have inv := RoutedState.Inv.reachable lawful.store before
    cases step with
    | call process fallback asks step => exact carrying.call lawful inv process fallback step (keeps _ rfl)
    | configure process destination => exact ⟨carrying.jobs, carrying.requests⟩
    | work inside step => exact carrying.work lawful inv inside step keeps

end Run

end Relay
