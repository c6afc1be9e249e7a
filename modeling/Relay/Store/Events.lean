import Relay.Adapters.MemoryEvents
import Relay.Adapters.PostgresEvents
import Relay.Store.Intake

/-!
# The event of a delivery

A delivery names its event by an id; the event is looked up when the delivery is
claimed. Intake stores it. The tables refuse a second event under an id, the maps
write it over the first, and from then on the deliveries of the first are handed
out with the second.
-/

namespace Relay

structure EventMachine extends StoreMachine where
  /-- The event stored under an id. -/
  stored : Store → EventId → Option RelayEvent
  /-- At this clock the call puts another event in the place of the one under the id. -/
  Replaces : EventId → ℕ → Store → Call → Prop

/-- What is handed out was just created with its event, or was claimed. -/
theorem Served.handsOut_origin {nowMillis : ℕ} {L L' : Ledger} {call : StoreCall} {answer : Answer}
    {c : ClaimedDelivery} (served : Served nowMillis L call answer L') (member : c ∈ handedOut answer) :
    call.creates = some c.delivery.id ∧ call.event = some c.event ∨
      ∃ ownerId destinationId limit lease deliveries e,
        call = .claimPending ownerId destinationId limit lease ∧ answer = .ok (.claimed deliveries) ∧ c ∈ deliveries ∧
        L c.delivery.id = some e ∧ c.delivery = e.delivery ∧ e.due destinationId nowMillis = true := by
  cases served with
  | onEntry call id op about => simp [handedOut_eq_nil (onEntry_does about).issues] at member
  | regranted id claim lease expires odd =>
    simp [handedOut_eq_nil (renewClaim_does nowMillis id (L id) claim lease expires).issues] at member
  | claimPending ownerId destinationId limit lease expires claimed L' granted batch =>
    obtain ⟨e, held, due, same, -⟩ := batch.each c member
    exact .inr ⟨ownerId, destinationId, limit, lease, claimed, e, rfl, rfl, member, held, same, due⟩
  | accepted record delivery expires eligibleAt granted fresh created =>
    obtain rfl := List.mem_singleton.1 member
    rw [created]
    exact .inl ⟨rfl, rfl⟩
  | saved event delivery request expires granted fresh pending created =>
    obtain rfl := List.mem_singleton.1 member
    exact .inl ⟨rfl, rfl⟩
  | replayed | stranded | refused => cases member

namespace EventMachine

structure Lawful (M : EventMachine) : Prop where
  store : M.toStoreMachine.Lawful
  /-- A delivery is created with its event stored. -/
  created : ∀ {s : M.Store} (nowMillis : ℕ) {c : M.Call} {id : DeliveryId} {event : RelayEvent}, M.Sound s →
    (M.call c).creates = some id → (M.call c).event = some event → M.view s id = none →
    M.view (M.exec nowMillis s c).2 id ≠ none → M.stored (M.exec nowMillis s c).2 event.id = some event
  /-- A claimed delivery carries the event stored under its event id. -/
  claimed : ∀ {s : M.Store} (nowMillis : ℕ) {c : M.Call} {ownerId : WorkerId} {destinationId : DestinationId}
    {limit lease : Number} {deliveries : List ClaimedDelivery},
    M.call c = .claimPending ownerId destinationId limit lease →
    (M.exec nowMillis s c).1 = .ok (.claimed deliveries) →
    ∀ d ∈ deliveries, M.stored s d.delivery.eventId = some d.event
  keeps : ∀ {s : M.Store} (nowMillis : ℕ) {c : M.Call} {id : EventId} {event : RelayEvent}, M.Sound s →
    ¬ M.Replaces id nowMillis s c → M.stored s id = some event → M.stored (M.exec nowMillis s c).2 id = some event

/-- A delivery created by an intake in a reachable state. -/
structure Creation (M : EventMachine) where
  store : M.Store
  reachable : M.system.Reachable store
  nowMillis : ℕ
  call : M.Call
  fresh : M.Fresh store call
  id : DeliveryId
  event : RelayEvent
  creates : (M.call call).creates = some id
  brings : (M.call call).event = some event
  created : M.view (M.exec nowMillis store call).2 id ≠ none

/-- The reply of the intake, and the store it leaves. -/
def Creation.result {M : EventMachine} (c : M.Creation) : Reply × M.Store := M.exec c.nowMillis c.store c.call

/-- Along the runs whose steps meet the condition for the event of a delivery, the delivery is only handed out
with the event it was created with. -/
structure Immutable (M : EventMachine) (condition : EventId → M.Store → M.Event → Prop) : Prop where
  first : ∀ (creation : M.Creation), ∀ c ∈ handedOut creation.result.1, c.delivery.id = creation.id →
    c.event = creation.event
  later : ∀ (creation : M.Creation) {calls s},
    (M.system.restrict (condition creation.event.id)).Path creation.result.2 calls s →
    ∀ l ∈ calls, ∀ c ∈ handedOut l.reply, c.delivery.id = creation.id → c.event = creation.event

/-- The call leaves the event stored under the id in its place. -/
def Undisturbed (M : EventMachine) (id : EventId) (s : M.Store) (l : M.Event) : Prop :=
  ¬ M.Replaces id l.nowMillis s l.call

variable {M : EventMachine} {s : M.Store}

/-- What a reply hands out it has created with its event, or found with the event stored. -/
theorem Lawful.carried (lawful : M.Lawful) (sound : M.Sound s) {nowMillis : ℕ} {c : M.Call} (fresh : M.Fresh s c)
    {d : ClaimedDelivery} (member : d ∈ handedOut (M.exec nowMillis s c).1) :
    (M.call c).creates = some d.delivery.id ∧ (M.call c).event = some d.event ∨
      ∃ e, M.view s d.delivery.id = some e ∧ M.stored s e.delivery.eventId = some d.event := by
  have served := lawful.store.served nowMillis c sound fresh
  rw [← handedOut_answer] at member
  obtain created | ⟨ownerId, destinationId, limit, lease, deliveries, e, call, answer, among, held, same, -⟩ :=
    served.handsOut_origin member
  · exact .inl created
  · have reply : (M.exec nowMillis s c).1 = .ok (.claimed deliveries) := by
      cases replied : (M.exec nowMillis s c).1 with
      | ok value =>
        rw [replied] at answer
        obtain rfl : value = .claimed deliveries := Except.ok.inj answer
        rfl
      | error failure =>
        rw [replied] at answer
        cases answer
    have stored := lawful.claimed nowMillis call reply d among
    rw [same] at stored
    exact .inr ⟨e, held, stored⟩

/-- The delivery of a creation is there, under the id of its event. -/
theorem Lawful.creation (lawful : M.Lawful) (creation : M.Creation) :
    M.Sound creation.store ∧ M.view creation.store creation.id = none ∧ M.Sound creation.result.2 ∧
      (∃ e, M.view creation.result.2 creation.id = some e ∧ e.delivery.eventId = creation.event.id) ∧
      M.stored creation.result.2 creation.event.id = some creation.event := by
  obtain ⟨tr, run⟩ := creation.reachable
  have sound := (lawful.store.run run).1
  have absent := creation.fresh creation.id creation.creates
  have stored := lawful.created creation.nowMillis sound creation.creates creation.brings absent creation.created
  obtain ⟨e, held⟩ := Option.ne_none_iff_exists'.1 creation.created
  have effect := (lawful.store.served creation.nowMillis creation.call sound creation.fresh).effect creation.id
  rw [absent, held] at effect
  refine ⟨sound, absent, lawful.store.sound creation.nowMillis creation.call sound, ⟨e, held, ?_⟩, stored⟩
  obtain ⟨delivery, saved⟩ | event := effect.created
  · have brings := creation.brings
    rw [saved] at brings
    cases brings
  · rw [creation.brings] at event
    exact (Option.some.inj event).symm

/-- **The event of a delivery is kept** while it is left in its place. -/
theorem Lawful.immutable (lawful : M.Lawful) : M.Immutable M.Undisturbed where
  first := by
    intro creation c member same
    obtain ⟨sound, absent, -⟩ := lawful.creation creation
    obtain ⟨-, event⟩ | ⟨e, held, -⟩ := lawful.carried sound creation.fresh member
    · rw [creation.brings] at event
      exact (Option.some.inj event).symm
    · rw [same, absent] at held
      cases held
  later := by
    intro creation calls s path
    obtain ⟨-, -, sound, there, stored⟩ := lawful.creation creation
    -- the delivery stays under its event id, and the event under that id stays the one it came with
    have both := path.invariant
      (fun calls s => (M.Sound s ∧ (∃ e, M.view s creation.id = some e ∧ e.delivery.eventId = creation.event.id) ∧
        M.stored s creation.event.id = some creation.event) ∧
        ∀ l ∈ calls, ∀ c ∈ handedOut l.reply, c.delivery.id = creation.id → c.event = creation.event)
      ⟨⟨sound, there, stored⟩, by simp⟩ ?_
    · exact both.2
    · rintro calls s l s' ⟨⟨sound, ⟨e, held, named⟩, stored⟩, carried⟩ ⟨step, undisturbed⟩
      obtain ⟨fresh, run⟩ := step
      obtain ⟨sound', served⟩ := lawful.store.step sound ⟨fresh, run⟩
      obtain ⟨e', held', identical, -⟩ := served.rerouted held
      have stored' := lawful.keeps l.nowMillis sound undisturbed stored
      have reply : (M.exec l.nowMillis s l.call).1 = l.reply := by rw [run]
      rw [run] at stored'
      refine ⟨⟨sound', ⟨e', held', by rw [identical.eventId, named]⟩, stored'⟩, ?_⟩
      intro l' member c handed same
      obtain earlier | now := List.mem_append.1 member
      · exact carried l' earlier c handed same
      · rw [List.mem_singleton] at now
        subst now
        rw [← reply] at handed
        obtain ⟨creates, -⟩ | ⟨e₀, held₀, found⟩ := lawful.carried sound fresh handed
        · rw [same] at creates
          rw [fresh _ creates] at held
          cases held
        · rw [same, held, Option.some.injEq] at held₀
          subst held₀
          rw [named, stored, Option.some.injEq] at found
          exact found.symm

end EventMachine

/-! ## The adapters -/

def memoryEvents : EventMachine where
  toStoreMachine := memory
  stored := fun s id => s.events.get id
  Replaces := fun id nowMillis s call =>
    ∃ event there, MemoryStore.writes nowMillis s call = some event ∧ event.id = id ∧
      s.events.get id = some there ∧ there ≠ event

theorem memoryEvents_lawful : memoryEvents.Lawful where
  store := memory_lawful
  created := by
    intro s nowMillis call id event _ creates brings absent created
    obtain written | same := MemoryStore.exec_brings brings
    · exact written
    · exact absurd absent (same ▸ created)
  claimed := by
    intro s nowMillis call ownerId destinationId limit lease deliveries claims reply
    obtain rfl : call = .claimPending ownerId destinationId limit lease := claims
    exact MemoryStore.claimPending_event reply
  keeps := by
    intro s nowMillis call id event _ undisturbed stored
    refine MemoryStore.exec_keeps stored ?_
    intro event' written here
    by_contra other
    exact undisturbed ⟨event', event, written, here, stored, fun same => other same.symm⟩

/-- The primary key refuses a second event under an id. -/
def postgresEvents : EventMachine where
  toStoreMachine := postgres
  stored := Postgres.Database.storedEvent
  Replaces := fun _ _ _ _ => False

theorem postgres_claimPending {c : Statement} {ownerId : WorkerId} {destinationId : DestinationId} {limit lease : Number}
    (claims : c.call = .claimPending ownerId destinationId limit lease) (nowMillis : ℕ) (db : Postgres.Database) :
    postgres.exec nowMillis db c = db.claimPending nowMillis ownerId destinationId limit lease := by
  show (if c.resumed then db.resume nowMillis c.call else db.exec nowMillis c.call) = _
  rw [claims]
  split <;> rfl

theorem postgresEvents_lawful : postgresEvents.Lawful where
  store := postgres_lawful
  created := by
    rintro db nowMillis c id event ⟨L, rep⟩ creates brings absent created
    obtain stored | same := (postgres_events rep nowMillis c).brings brings
    · exact stored
    · have same : (postgresEvents.exec nowMillis db c).2 = db := same
      exact absurd absent (same ▸ created)
  claimed := by
    intro db nowMillis c ownerId destinationId limit lease deliveries claims reply d member
    have run := postgres_claimPending claims nowMillis db
    obtain ⟨cause, refused⟩ := Postgres.Database.claimPending_eq nowMillis db ownerId destinationId limit lease
    rw [show (postgresEvents.exec nowMillis db c) = _ from run, refused] at reply
    cases reply
  keeps := by
    rintro db nowMillis c id event ⟨L, rep⟩ - stored
    exact (postgres_events rep nowMillis c).keeps stored

def Adapter.events : Adapter → EventMachine
  | .memory => memoryEvents
  | .postgres => postgresEvents

/-- **The event of a delivery is immutable**: in the tables always, in the maps while no later intake writes a
different event under its id. -/
theorem adapters_keep_event (adapter : Adapter) : adapter.events.Immutable adapter.events.Undisturbed := by
  cases adapter with
  | memory => exact memoryEvents_lawful.immutable
  | postgres => exact postgresEvents_lawful.immutable

/-! ## An event id that is used twice -/

namespace Sample

def secondDelivery : DeliveryId := ⟨"dlv-12", by decide⟩

/-- Another event under the id of the first. -/
def secondEvent : RelayEvent := { event with amountCents := Nat.toPNat' 200 }

def saved : MemoryStore := (MemoryStore.empty.exec 0 savePending).2
def savePendingAgain : StoreCall := .savePending secondEvent secondDelivery destination ⟨worker, 1000⟩
def savedAgain : MemoryStore := (saved.exec 0 savePendingAgain).2
def reclaim : StoreCall := .claimPending worker destination 1 1000

theorem fresh_savePending : memory.Fresh MemoryStore.empty savePending := fun _ _ => rfl

theorem fresh_savePendingAgain : memory.Fresh saved savePendingAgain := by
  intro id creates
  obtain rfl : secondDelivery = id := Option.some.inj creates
  show saved.view secondDelivery = none
  decide +kernel

theorem fresh_reclaim : memory.Fresh savedAgain reclaim := by
  intro id creates
  cases creates

def firstCreation : memoryEvents.Creation where
  store := MemoryStore.empty
  reachable := .init
  nowMillis := 0
  call := savePending
  fresh := fresh_savePending
  id := delivery
  event := event
  creates := rfl
  brings := rfl
  created := by
    show saved.view delivery ≠ none
    decide +kernel

/-- The first delivery is claimed again, with the event of the second. -/
theorem reclaim_carries : (handedOut (savedAgain.exec 2000 reclaim).1).map (fun c => (c.delivery.id, c.event)) =
    [(delivery, secondEvent)] := by
  decide +kernel

end Sample

/-- The event of a delivery is not immutable when an event id may be used twice. -/
theorem event_replaced : ¬ ∀ adapter : Adapter, adapter.events.Immutable fun _ _ _ => True := by
  intro immutable
  have path : memory.system.Path Sample.saved
      [⟨0, Sample.savePendingAgain, (Sample.saved.exec 0 Sample.savePendingAgain).1⟩,
        ⟨2000, Sample.reclaim, (Sample.savedAgain.exec 2000 Sample.reclaim).1⟩] (Sample.savedAgain.exec 2000 Sample.reclaim).2 :=
    .snoc (.snoc .nil (memory.step_of_fresh 0 Sample.fresh_savePendingAgain)) (memory.step_of_fresh 2000 Sample.fresh_reclaim)
  have kept := (immutable .memory).later Sample.firstCreation (path.restrict fun _ _ _ => trivial) _
    (List.mem_cons_of_mem _ (List.mem_singleton_self _))
  obtain ⟨c, member, same⟩ := List.mem_map.1
    (Sample.reclaim_carries ▸ List.mem_singleton_self (Sample.delivery, Sample.secondEvent))
  obtain ⟨id, other⟩ := Prod.mk.inj same
  have replaced := (kept c member id).symm.trans other
  exact absurd replaced (by decide +kernel)

end Relay
