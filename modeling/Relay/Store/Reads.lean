import Relay.Adapters.PostgresReads
import Relay.Store.Atomicity
import Relay.Store.ClaimOrder

/-!
# The adapters read alike

A status shows a delivery with its attempts in the order of their ordinals, and a listing
the first dead letters in the order of their ids. The maps and the tables that hold the
same entries answer every such read with the same value, however the records and the rows
are ordered in them.
-/

namespace Relay

/-! ## The reads of the tables, with nothing in between -/

namespace Postgres

namespace Database

variable (db : Database)

def findStatus (id : DeliveryId) : Except Failure (Option DeliveryStatus) :=
  match db.findRowById .findStatus id with
  | .error failure => .error failure
  | .ok none => .ok none
  | .ok (some delivery) => (db.readStatus .findStatus delivery).map some

/-- The rows first, then the attempts of each. -/
def listDeadLetters (collation : Collation) (limit : Number) : Except Failure (List DeliveryStatus) :=
  match db.listDeadLetterRows collation limit with
  | .error failure => .error failure
  | .ok deliveries => deliveries.mapM (db.readStatus .listDeadLetters)

/-- The dead letters in the order of their rows. -/
def deadIds : List DeliveryId :=
  (db.deliveries.select fun r => Sql.eq (some r.state) (some .deadLettered)).map (·.deliveryId)

end Database

end Postgres

def MemoryStore.deadIds (s : MemoryStore) : List DeliveryId :=
  (s.records.values.filter fun delivery => Entry.isDeadLettered delivery.state).map (·.id)

/-- What a listing of at most `limit` dead letters is. -/
structure Listing (collation : Collation) (L : Ledger) (limit : ℕ) (statuses : List DeliveryStatus) : Prop where
  ascending : (statuses.map (·.delivery.id)).Pairwise fun a b => collation.le a b ∧ a ≠ b
  bounded : statuses.length ≤ limit
  dead : ∀ status ∈ statuses, ∃ e, L status.delivery.id = some e ∧
    Entry.isDeadLettered e.delivery.state = true ∧ status = e.status
  /-- A dead letter that is not listed comes behind a full listing. -/
  complete : ∀ id e, L id = some e → Entry.isDeadLettered e.delivery.state = true →
    (∃ status ∈ statuses, status.delivery.id = id) ∨
      statuses.length = limit ∧ ∀ status ∈ statuses, collation.le status.delivery.id id

/-! ## Listings -/

section Listing

variable {collation : Collation} {L : Ledger} {limit : ℕ} {ids : List DeliveryId} {statuses statuses' : List DeliveryStatus}

/-- The first of all the dead letters in the order of their ids make a listing. -/
theorem Listing.of_ids (distinct : ids.Nodup)
    (listed : ∀ id, id ∈ ids ↔ ∃ e, L id = some e ∧ Entry.isDeadLettered e.delivery.state = true)
    (first : statuses.map (·.delivery.id) = (ids.insertionSort collation.le).take limit)
    (each : ∀ status ∈ statuses, ∃ e, L status.delivery.id = some e ∧ status = e.status) : Listing collation L limit statuses := by
  have sorted := List.pairwise_insertionSort collation.le ids
  have perm := List.perm_insertionSort collation.le ids
  have length : statuses.length = min limit ids.length := by
    have counted := congrArg List.length first
    rwa [List.length_map, List.length_take, perm.length_eq] at counted
  refine ⟨?_, by omega, ?_, ?_⟩
  · rw [first]
    exact (sorted.and (perm.nodup_iff.2 distinct)).sublist (List.take_sublist _ _)
  · intro status member
    have among : status.delivery.id ∈ ids := by
      refine perm.mem_iff.1 (List.mem_of_mem_take (i := limit) ?_)
      rw [← first]
      exact List.mem_map_of_mem member
    obtain ⟨e, there, dead⟩ := (listed _).1 among
    obtain ⟨e', there', same⟩ := each status member
    rw [there, Option.some.injEq] at there'
    exact ⟨e, there, dead, there' ▸ same⟩
  · intro id e there dead
    have among : id ∈ ids.insertionSort collation.le := perm.mem_iff.2 ((listed id).2 ⟨e, there, dead⟩)
    rw [← List.take_append_drop limit (ids.insertionSort collation.le)] at among sorted
    obtain early | late := List.mem_append.1 among
    · rw [← first] at early
      obtain ⟨status, member, named⟩ := List.mem_map.1 early
      exact .inl ⟨status, member, named⟩
    · right
      have long : limit < ids.length := by
        have some := List.length_pos_of_mem late
        rw [List.length_drop, perm.length_eq] at some
        omega
      refine ⟨by omega, ?_⟩
      intro status member
      refine (List.pairwise_append.1 sorted).2.2 _ ?_ id late
      rw [← first]
      exact List.mem_map_of_mem member

/-- Statuses of the same deliveries, one by one. -/
theorem statuses_eq (ids : statuses.map (·.delivery.id) = statuses'.map (·.delivery.id))
    (each : ∀ status ∈ statuses, ∀ status' ∈ statuses', status.delivery.id = status'.delivery.id → status = status') :
    statuses = statuses' := by
  have length := congrArg List.length ids
  rw [List.length_map, List.length_map] at length
  refine List.ext_getElem length ?_
  intro i inside inside'
  refine each _ (List.getElem_mem inside) _ (List.getElem_mem inside') ?_
  have here := List.getElem_of_eq ids (by rw [List.length_map]; exact inside : i < _)
  rwa [List.getElem_map, List.getElem_map] at here

end Listing

/-- Entries that are the same show the same status, when no ordinal was used twice. -/
theorem Entry.Same.status {e e' : Entry} (same : e.Same e') (distinct : (e'.attempts.map (·.ordinal)).Nodup) :
    e.status = e'.status := by
  have attempts : e.status.attempts = e'.status.attempts := by
    refine @List.Perm.eq_of_pairwise _ (fun a b => a.ordinal ≤ b.ordinal) _ _ ?_ (List.pairwise_insertionSort _ _)
      (List.pairwise_insertionSort _ _) ?_
    · intro a b member member' below above
      have in' : a ∈ e'.attempts := by
        rw [Entry.status, List.mem_insertionSort] at member
        exact same.attempts.mem_iff.1 member
      have in'' : b ∈ e'.attempts := by
        rw [Entry.status, List.mem_insertionSort] at member'
        exact member'
      exact List.inj_on_of_nodup_map distinct in' in'' (le_antisymm below above)
    · exact ((List.perm_insertionSort _ _).trans same.attempts).trans (List.perm_insertionSort _ _).symm
  have delivery : e.status.delivery = e'.status.delivery := same.delivery
  calc e.status = ⟨e.status.delivery, e.status.attempts⟩ := rfl
    _ = ⟨e'.status.delivery, e'.status.attempts⟩ := by rw [delivery, attempts]
    _ = e'.status := rfl

/-! ## The reads of the maps -/

namespace MemoryStore

variable {s : MemoryStore} {id : DeliveryId}

theorem statusFor_held (sound : s.Sound) {delivery : Delivery} (record : s.records.get id = some delivery) :
    s.statusFor delivery = (s.held id delivery).status := by
  have named : delivery.id = id := ((sound id).keyed delivery record).1
  rw [statusFor, Entry.status, held, named]

theorem findStatus_eq (sound : s.Sound) (id : DeliveryId) : s.findStatus id = (s.view id).map Entry.status := by
  rw [findStatus, view]
  cases record : s.records.get id with
  | none => rfl
  | some delivery => simp only [Option.map_some, statusFor_held sound record]

theorem mem_deadIds (sound : s.Sound) :
    id ∈ s.deadIds ↔ ∃ e, s.view id = some e ∧ Entry.isDeadLettered e.delivery.state = true := by
  constructor
  · intro listed
    obtain ⟨d, selected, rfl⟩ := List.mem_map.1 listed
    obtain ⟨member, dead⟩ := List.mem_filter.1 selected
    exact ⟨_, view_of_record (sound.values.1 d member), dead⟩
  · rintro ⟨e, there, dead⟩
    obtain ⟨d, record, rfl⟩ := Option.map_eq_some_iff.1 there
    have named : d.id = id := ((sound id).keyed d record).1
    exact List.mem_map.2 ⟨d, List.mem_filter.2 ⟨OrderedMap.mem_values_iff.2 ⟨id, record⟩, dead⟩, named⟩

theorem listDeadLetters_ids (s : MemoryStore) (collation : Collation) (limit : ℕ) :
    (s.listDeadLetters collation limit).map (·.delivery.id) = (s.deadIds.insertionSort collation.le).take limit := by
  have ids : (fun status : DeliveryStatus => status.delivery.id) ∘ s.statusFor = fun d => d.id := rfl
  rw [listDeadLetters, List.map_map, ids, List.map_take, deadIds]
  congr 1
  refine List.map_insertionSort _ _ _ _ ?_
  intro a _ b _
  rfl

/-- **A listing of the maps.** -/
theorem listDeadLetters_listing (sound : s.Sound) (collation : Collation) (limit : ℕ) : Listing collation s.view limit (s.listDeadLetters collation limit) := by
  have distinct : s.deadIds.Nodup := sound.values.2.sublist (List.filter_sublist.map _)
  refine .of_ids distinct (fun _ => mem_deadIds sound) (s.listDeadLetters_ids collation limit) ?_
  intro status member
  obtain ⟨d, selected, rfl⟩ := List.mem_map.1 member
  have sorted := List.mem_of_mem_take selected
  rw [List.mem_insertionSort] at sorted
  have record := sound.values.1 d (List.mem_filter.1 sorted).1
  exact ⟨_, view_of_record record, statusFor_held sound record⟩

end MemoryStore

/-! ## The reads of the tables -/

namespace Postgres

namespace Database

open Sql

variable {db : Database} {L : Ledger} {id : DeliveryId}

theorem findStatus_eq (rep : db.Represents L) (id : DeliveryId) : db.findStatus id = .ok ((L id).map Entry.status) := by
  rw [findStatus, findRowById_eq rep]
  cases there : L id with
  | none => rfl
  | some e =>
    have named : e.delivery.id = id := (rep.valid id e there).named
    rw [← named] at there
    simp only [Option.map_some, readStatus, readAttempts_held rep .findStatus there]
    rfl

theorem mem_deadIds (rep : db.Represents L) :
    id ∈ db.deadIds ↔ ∃ e, L id = some e ∧ Entry.isDeadLettered e.delivery.state = true := by
  have dead : ∀ e : Entry, (eq (some (rowOf e).state) (some .deadLettered)).holds = Entry.isDeadLettered e.delivery.state := by
    intro e
    simp only [rowOf, newRow]
    cases e.delivery.state <;> rfl
  constructor
  · intro listed
    obtain ⟨r, selected, rfl⟩ := List.mem_map.1 listed
    obtain ⟨member, holds⟩ := List.mem_filter.1 selected
    obtain ⟨e, there, rfl⟩ := rep.delivery_row member
    exact ⟨e, there, by rw [← dead]; exact holds⟩
  · rintro ⟨e, there, isDead⟩
    have row : db.deliveries.find id = some (rowOf e) := by rw [rep.rows, there]; rfl
    refine List.mem_map.2 ⟨rowOf e, List.mem_filter.2 ⟨Keyed.mem_of_find row, ?_⟩, (rep.valid id e there).named⟩
    rw [dead]
    exact isDead

theorem deadLetterRows_ids (db : Database) (collation : Collation) (limit : ℕ+) :
    (db.deadLetterRows collation limit).map (·.deliveryId) = (db.deadIds.insertionSort collation.le).take limit := by
  rw [deadLetterRows, List.map_take, deadIds]
  congr 1
  refine List.map_insertionSort _ _ _ _ ?_
  intro a _ b _
  rfl

/-- The second statements of a listing read the attempts of each delivery. -/
theorem mapM_readStatus (rep : db.Represents L) (deliveries : List Delivery)
    (there : ∀ delivery ∈ deliveries, ∃ e, L delivery.id = some e ∧ e.delivery = delivery) :
    ∃ statuses, deliveries.mapM (db.readStatus .listDeadLetters) = .ok statuses ∧
      statuses.map (·.delivery) = deliveries ∧ ∀ status ∈ statuses, ∃ e, L status.delivery.id = some e ∧ status = e.status := by
  induction deliveries with
  | nil => exact ⟨[], rfl, rfl, fun _ member => by cases member⟩
  | cons delivery deliveries ih =>
    obtain ⟨statuses, run, rows, each⟩ := ih fun d member => there d (List.mem_cons_of_mem _ member)
    obtain ⟨e, held, rfl⟩ := there delivery List.mem_cons_self
    have read : db.readStatus .listDeadLetters e.delivery = .ok e.status := by
      rw [readStatus, readAttempts_held rep .listDeadLetters held]
      rfl
    refine ⟨e.status :: statuses, ?_, ?_, ?_⟩
    · rw [List.mapM_cons, read, run]
      rfl
    · rw [List.map_cons, rows]
      rfl
    · intro status member
      obtain rfl | later := List.mem_cons.1 member
      · exact ⟨e, held, rfl⟩
      · exact each status later

/-- **A listing of the tables.** -/
theorem listDeadLetters_listing (rep : db.Represents L) (collation : Collation) (limit : ℕ+) :
    ∃ statuses, db.listDeadLetters collation ((limit : ℕ) : Number) = .ok statuses ∧
      statuses.map (·.delivery.id) = (db.deadIds.insertionSort collation.le).take limit ∧ Listing collation L limit statuses := by
  obtain ⟨deliveries, listed⟩ := listDeadLetterRows_ok rep collation limit
  obtain ⟨statuses, run, rows, each⟩ := mapM_readStatus rep deliveries fun d member => listDeadLetterRows_held rep listed member
  have ids : deliveries.map (·.id) = (db.deadIds.insertionSort collation.le).take limit := by
    rw [← deadLetterRows_ids]
    unfold listDeadLetterRows at listed
    rw [positiveInteger_natCast] at listed
    simp only at listed
    split at listed
    · cases listed
    · next decoded =>
      cases listed
      refine mapM_map (f := rowToDelivery) ?_ decoded
      intro r delivery decodes
      obtain ⟨state, -, rfl⟩ := Option.map_eq_some_iff.1 decodes
      rfl
  have first : statuses.map (·.delivery.id) = (db.deadIds.insertionSort collation.le).take limit := by
    rw [← ids, ← rows, List.map_map]
    rfl
  have distinct : db.deadIds.Nodup := db.deliveries.nodup.sublist (List.filter_sublist.map _)
  refine ⟨statuses, ?_, first, .of_ids distinct (fun _ => mem_deadIds rep) first each⟩
  rw [listDeadLetters, listed]
  exact run

/-- The primary key keeps the ordinals of a delivery apart. -/
theorem Represents.ordinals_nodup (rep : db.Represents L) {e : Entry} (there : L id = some e) :
    (e.attempts.map (·.ordinal)).Nodup := by
  have keys : ((db.attemptsOf id).map DeliveryAttemptsRow.key).Nodup :=
    db.deliveryAttempts.nodup.sublist (List.filter_sublist.map _)
  rw [rep.attempts id e there, List.map_map] at keys
  have own : ∀ a ∈ e.attempts, a.deliveryId = id := by
    intro a member
    have row : attemptToRow a ∈ db.attemptsOf id := by
      rw [rep.attempts id e there]
      exact List.mem_map_of_mem member
    exact (mem_attemptsOf.1 row).2
  rw [List.Nodup, List.pairwise_map] at keys ⊢
  refine keys.imp_of_mem ?_
  intro a b member member' apart same
  refine apart ?_
  show (a.deliveryId, ((a.ordinal : ℕ) : ℤ)) = (b.deliveryId, ((b.ordinal : ℕ) : ℤ))
  rw [own a member, own b member', same]

end Database

end Postgres

/-! ## The two adapters -/

namespace Sample

/-- The first delivery, given up under its first claim. -/
def deadMaps : MemoryStore := ((MemoryStore.empty.exec 0 savePending).2.exec 2 exhaust).2
def deadTables : Postgres.Database := ((Postgres.Database.empty.exec 0 savePending).2.exec 2 exhaust).2

theorem dead_related : Related deadMaps deadTables :=
  (heard_agree (memory_lawful.sound_of_reachable savedMaps_reachable) (postgres_lawful.sound_of_reachable savedTables_reachable)
    saved_related 2 exhaust trivial (by rintro attempt ⟨⟩)).2

theorem deadMaps_reachable : memory.anyCalls.Reachable deadMaps :=
  savedMaps_reachable.step (memory.exec_step 2 _ exhaust)

theorem deadTables_reachable : postgres.anyCalls.Reachable deadTables :=
  savedTables_reachable.step (postgres.exec_step 2 _ ⟨exhaust, false⟩)

end Sample

end Relay
