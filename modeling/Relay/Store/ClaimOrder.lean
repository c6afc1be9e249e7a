import Relay.Store.Agreement
import Relay.Store.Claiming

/-!
# The order of claims

Stores that hold the same content do not claim alike. The maps hand out the due
deliveries that came in first, as many as the limit allows; the tables, whose claim the
database refuses, hand out nothing and answer with a failure even where nothing is due.
-/

namespace Relay

/-- The two stores hold the same entries and the same events. -/
structure SameContent (s : MemoryStore) (db : Postgres.Database) : Prop where
  entries : Related s db
  events : ∀ id, s.events.get id = db.storedEvent id

/-- The call gets the same reply from both stores and leaves them related. -/
structure ServedAlike (s : MemoryStore) (db : Postgres.Database) (nowMillis : ℕ) (call : StoreCall) : Prop where
  reply : (s.serve nowMillis call).1 = (db.serve nowMillis call).1
  after : Related (s.serve nowMillis call).2 (db.serve nowMillis call).2

/-! ## Entries that are the same -/

namespace Entry

variable {e e' : Entry}

theorem same_of_rel {x y : Option Entry} (both : Option.Rel Same x y) (held : x = some e) :
    ∃ e', y = some e' ∧ e.Same e' := by
  subst held
  cases both with
  | some same => exact ⟨_, rfl, same⟩

theorem same_of_rel_right {x y : Option Entry} (both : Option.Rel Same x y) (held : y = some e') :
    ∃ e, x = some e ∧ e.Same e' := by
  subst held
  cases both with
  | some same => exact ⟨_, rfl, same⟩

end Entry

/-! ## Claims of stores that hold the same -/

section Stores

variable {s : MemoryStore} {db : Postgres.Database}

/-- The event of every record is there. -/
theorem SameContent.stored (same : SameContent s db) (sound : s.Sound) {L : Ledger} (rep : db.Represents L) :
    ∀ d ∈ s.records.values, s.events.get d.eventId ≠ none := by
  intro d member
  have held := MemoryStore.view_of_record (sound.values.1 d member)
  have both := same.entries d.id
  rw [rep.view] at both
  obtain ⟨e, row, entry⟩ := Entry.same_of_rel both held
  have event := rep.events d.id e row
  rw [← entry.delivery] at event
  rw [same.events]
  exact Postgres.Database.storedEvent_ne_none event

end Stores

/-! ## Two stores with one delivery -/

section Created

variable {s : MemoryStore} {db : Postgres.Database} {nowMillis : ℕ} {event : RelayEvent} {id : DeliveryId}
  {destinationId : DestinationId} {request : ClaimRequest} {value : StoreValue} {p : ℕ+}

/-- A delivery created in both stores leaves them holding the same. -/
theorem SameContent.savePending (same : SameContent s db) (sound : s.Sound) (sound' : db.Sound)
    (whole : positiveInteger request.leaseDurationMillis = some p) (fresh : s.view id = none)
    (created : (s.exec nowMillis (.savePending event id destinationId request)).1.answer = .ok value)
    (created' : (db.exec nowMillis (.savePending event id destinationId request)).1.answer = .ok value) :
    SameContent (s.exec nowMillis (.savePending event id destinationId request)).2
      (db.exec nowMillis (.savePending event id destinationId request)).2 where
  entries := savePending_related sound sound' same.entries whole fresh created created'
  events := by
    obtain ⟨L, rep⟩ := sound'
    intro id'
    rw [MemoryStore.exec_events, MemoryStore.writes, Option.elim_some, OrderedMap.get_set, same.events]
    cases Postgres.Database.exec_events rep nowMillis (.savePending event id destinationId request) with
    | kept quiet => cases quiet
    | added event' intake brings _ _ rows =>
      cases brings
      exact (Postgres.Database.storedEvent_append rows id').symm
    | refused unchanged =>
      obtain ⟨L', rep', served⟩ := Postgres.Database.exec_represents rep nowMillis
        (.savePending event id destinationId request)
      rw [created'] at served
      have before := same.entries id
      have after := congrFun rep'.view id
      rw [unchanged, served.savePending_ok whole, Function.update_self] at after
      rw [fresh, after] at before
      cases before

end Created

theorem SameContent.empty : SameContent .empty .empty where
  entries := by
    intro id
    rw [MemoryStore.view_empty, Postgres.Database.represents_empty.view]
    exact .none
  events := fun _ => rfl

namespace Sample

def laterEvent : RelayEvent := ⟨⟨"evt-7", by decide⟩, .invoiceCreated, ⟨"inv-7", by decide⟩, Nat.toPNat' 100⟩
def laterDelivery : DeliveryId := ⟨"dlv-7", by decide⟩
def saveLater : StoreCall := .savePending laterEvent laterDelivery destination ⟨worker, 1000⟩
def later : MemoryStore := (MemoryStore.empty.exec 0 saveLater).2
def laterRows : Postgres.Database := (Postgres.Database.empty.exec 0 saveLater).2
def laterClaimed : ClaimedDelivery :=
  ⟨claim, ⟨laterDelivery, laterEvent.id, destination, .pending⟩, laterEvent, 0, 1, none⟩

theorem whole_lease : positiveInteger 1000 = some 1000 := by decide +kernel

theorem later_reachable : memory.anyCalls.Reachable later :=
  TransitionSystem.Reachable.init.step (memory.exec_step 0 MemoryStore.empty saveLater)

theorem laterRows_reachable : postgres.anyCalls.Reachable laterRows :=
  TransitionSystem.Reachable.init.step (postgres.exec_step 0 Postgres.Database.empty ⟨saveLater, false⟩)

theorem later_same : SameContent later laterRows := by
  have created : (MemoryStore.empty.exec 0 saveLater).1.answer = .ok (.claimed [laterClaimed]) := by decide +kernel
  have created' : (Postgres.Database.empty.exec 0 saveLater).1.answer = .ok (.claimed [laterClaimed]) := by
    decide +kernel
  exact SameContent.empty.savePending MemoryStore.sound_empty ⟨_, Postgres.Database.represents_empty⟩ whole_lease rfl
    created created'

end Sample

section Adapters

variable {s : MemoryStore} {db : Postgres.Database} (reachable : memory.anyCalls.Reachable s)
  (reachable' : postgres.anyCalls.Reachable db) (same : SameContent s db) (nowMillis : ℕ) (ownerId : WorkerId)
  (destinationId : DestinationId) (limit lease : ℕ+)
include reachable reachable' same

/-- The maps claim the first due deliveries in the order in which these came in. -/
theorem claims_first : ∃ claimed s',
    s.exec nowMillis (.claimPending ownerId destinationId ((limit : ℕ) : Number) ((lease : ℕ) : Number)) =
      (.ok (.claimed claimed), s') ∧
    (claimed.map fun c => c.delivery.id) = (s.dueIds nowMillis destinationId).take limit := by
  have sound : s.Sound := memory_lawful.sound_of_reachable reachable
  obtain ⟨L, rep⟩ : db.Sound := postgres_lawful.sound_of_reachable reachable'
  have instant : wholeMillis ((nowMillis : Number) + ((lease : ℕ) : Number)) = some (nowMillis + lease) :=
    wholeMillis_add (positiveInteger_natCast lease)
  obtain ⟨claimed, s', run, -, ids⟩ :=
    MemoryStore.claimPending_first nowMillis sound (same.stored sound rep) ownerId destinationId limit instant
  exact ⟨claimed, s', run, ids⟩

/-- **The adapters never claim alike**: the maps answer with the due deliveries, or throw where these cannot be leased, and
the tables with a failure. Even a failure that counts as handing out nothing differs from the maps wherever a delivery is due
and the leases end at a safe integer. -/
theorem adapters_claim_alike :
    ¬ ServedAlike s db nowMillis (.claimPending ownerId destinationId ((limit : ℕ) : Number) ((lease : ℕ) : Number)) ∧
    (handedOut (s.serve nowMillis (.claimPending ownerId destinationId ((limit : ℕ) : Number) ((lease : ℕ) : Number))).1 =
        handedOut
          (db.serve nowMillis (.claimPending ownerId destinationId ((limit : ℕ) : Number) ((lease : ℕ) : Number))).1 ↔
      s.view.due destinationId nowMillis = ∅ ∨ maxSafeInteger < nowMillis + lease) := by
  obtain ⟨cause, refused⟩ :=
    db.serve_claimPending nowMillis ownerId destinationId ((limit : ℕ) : Number) ((lease : ℕ) : Number)
  by_cases safe : (nowMillis : Number) + ((lease : ℕ) : Number) ≤ maxSafeInteger
  · have bound : ¬ maxSafeInteger < nowMillis + lease := by
      rw [not_lt]
      exact_mod_cast safe
    obtain ⟨claimed, s', run, ids⟩ := claims_first reachable reachable' same nowMillis ownerId destinationId limit lease
    rw [← MemoryStore.serve_claimPending ownerId destinationId _ safe] at run
    constructor
    · rintro ⟨reply, -⟩
      rw [run, refused] at reply
      cases reply
    · rw [run, refused, handedOut, handedOut, or_iff_left bound]
      have sound : s.Sound := memory_lawful.sound_of_reachable reachable
      have positive := limit.pos
      constructor
      · rintro rfl
        rw [List.map_nil, eq_comm, List.take_eq_nil_iff] at ids
        have none : s.dueIds nowMillis destinationId = [] := ids.resolve_left (by omega)
        refine Set.eq_empty_iff_forall_notMem.2 ?_
        intro id due
        have listed := (MemoryStore.mem_dueIds sound).2 due
        rw [none] at listed
        cases listed
      · intro nothing
        have none : s.dueIds nowMillis destinationId = [] := by
          refine List.eq_nil_iff_forall_not_mem.2 ?_
          intro id listed
          exact Set.eq_empty_iff_forall_notMem.1 nothing id ((MemoryStore.mem_dueIds sound).1 listed)
        rw [none, List.take_nil] at ids
        exact List.map_eq_nil_iff.1 ids
  · have bound : maxSafeInteger < nowMillis + lease := by
      rw [not_le] at safe
      exact_mod_cast safe
    obtain run | run := MemoryStore.serve_claimPending_beyond (s := s) ownerId destinationId ((limit : ℕ) : Number) safe
    all_goals
      constructor
      · rintro ⟨reply, -⟩
        rw [run, refused] at reply
        cases reply
      · rw [run, refused]
        exact iff_of_true rfl (.inr bound)

end Adapters

/-- One delivery is due, and only the maps hand it out. -/
theorem adapters_claim_alike_later :
    ¬ ServedAlike Sample.later Sample.laterRows 5000
      (.claimPending Sample.worker Sample.destination (((1 : ℕ+) : ℕ) : Number) (((1000 : ℕ+) : ℕ) : Number)) ∧
    (handedOut (Sample.later.serve 5000
        (.claimPending Sample.worker Sample.destination (((1 : ℕ+) : ℕ) : Number) (((1000 : ℕ+) : ℕ) : Number))).1 =
      handedOut (Sample.laterRows.serve 5000
        (.claimPending Sample.worker Sample.destination (((1 : ℕ+) : ℕ) : Number) (((1000 : ℕ+) : ℕ) : Number))).1 ↔
      Sample.later.view.due Sample.destination 5000 = ∅ ∨ maxSafeInteger < 5000 + ((1000 : ℕ+) : ℕ)) :=
  adapters_claim_alike Sample.later_reachable Sample.laterRows_reachable Sample.later_same 5000 Sample.worker
    Sample.destination 1 1000

/-- Two stores with the same one delivery, which is due: the maps hand it out and the tables do not. -/
theorem adapters_claim_differently : ¬ ∀ (s : MemoryStore) (db : Postgres.Database), memory.anyCalls.Reachable s →
    postgres.anyCalls.Reachable db → SameContent s db → ∀ (nowMillis : ℕ) (ownerId : WorkerId)
    (destinationId : DestinationId) (limit lease : ℕ+), ServedAlike s db nowMillis
      (.claimPending ownerId destinationId ((limit : ℕ) : Number) ((lease : ℕ) : Number)) := by
  intro alike
  have same := alike Sample.later Sample.laterRows Sample.later_reachable Sample.laterRows_reachable Sample.later_same 5000
    Sample.worker Sample.destination 1 1000
  have inMemory : (handedOut (Sample.later.serve 5000 (.claimPending Sample.worker Sample.destination
      (((1 : ℕ+) : ℕ) : Number) (((1000 : ℕ+) : ℕ) : Number))).1).map (fun c => c.delivery.id) = [Sample.laterDelivery] := by
    decide +kernel
  have inTables : (handedOut (Sample.laterRows.serve 5000 (.claimPending Sample.worker Sample.destination
      (((1 : ℕ+) : ℕ) : Number) (((1000 : ℕ+) : ℕ) : Number))).1).map (fun c => c.delivery.id) = [] := by
    decide +kernel
  rw [same.reply, inTables] at inMemory
  exact absurd inMemory (by decide)

end Relay
