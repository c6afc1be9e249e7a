import Relay.Adapters.PostgresDecisions

/-!
# Events in the tables

An event is inserted once and never rewritten, so what is stored under an id reads
back as it came.
-/

namespace Relay

namespace Postgres

open Sql

namespace Database

variable {db db' : Database} {L : Ledger} {nowMillis : ℕ}

/-! ## The stored event -/

/-- The event columns of a row, as `rowToClaimedDelivery` reads them. -/
def rowToEvent (r : RelayEventsRow) : Option RelayEvent :=
  (positiveColumn r.amountCents).map fun amountCents => ⟨r.eventId, r.eventType, r.invoiceId, amountCents⟩

def storedEvent (db : Database) (id : EventId) : Option RelayEvent := (db.relayEvents.find id).bind rowToEvent

theorem rowToEvent_eventRow (event : RelayEvent) (intake : Option (IngestionKey × RequestFingerprint × ℕ)) :
    rowToEvent (eventRow event intake) = some event := by
  simp [rowToEvent, eventRow]

theorem storedEvent_added {event : RelayEvent} {intake : Option (IngestionKey × RequestFingerprint × ℕ)}
    (rows : db'.relayEvents.rows = db.relayEvents.rows ++ [eventRow event intake]) :
    db'.storedEvent event.id = some event := by
  have member : eventRow event intake ∈ db'.relayEvents.rows := by simp [rows]
  rw [storedEvent, show event.id = (eventRow event intake).eventId from rfl, Keyed.find_of_mem member,
    Option.bind_some, rowToEvent_eventRow]

/-- A new event is stored under its id; nothing else changes. -/
theorem storedEvent_append {event : RelayEvent} {intake : Option (IngestionKey × RequestFingerprint × ℕ)}
    (rows : db'.relayEvents.rows = db.relayEvents.rows ++ [eventRow event intake]) (id : EventId) :
    db'.storedEvent id = if id = event.id then some event else db.storedEvent id := by
  by_cases here : id = event.id
  · rw [if_pos here, here, storedEvent_added rows]
  · have away : ¬ (eventRow event intake).eventId = id := Ne.symm here
    rw [if_neg here, storedEvent, storedEvent, Keyed.find, Keyed.find, rows, List.find?_append,
      List.find?_cons_of_neg (by simpa using away), List.find?_nil, Option.or_none]

/-- Every row of an event reads back. -/
theorem storedEvent_ne_none {id : EventId} (held : db.relayEvents.find id ≠ none) : db.storedEvent id ≠ none := by
  obtain ⟨r, found⟩ := Option.ne_none_iff_exists'.1 held
  have amount := amountCents_positive (Keyed.mem_of_find found)
  rw [storedEvent, found, Option.bind_some, rowToEvent, positiveColumn, dif_pos amount]
  exact Option.some_ne_none _

/-- A stored event stays as it is. -/
theorem Events.keeps {call : StoreCall} (events : Events db call db') {id : EventId} {event : RelayEvent}
    (stored : db.storedEvent id = some event) : db'.storedEvent id = some event := by
  cases events with
  | kept _ same => rw [storedEvent, same]; exact stored
  | refused same => rw [same]; exact stored
  | added event' intake _ _ _ rows =>
    obtain ⟨r, found, decoded⟩ := Option.bind_eq_some_iff.1 stored
    have found' : db'.relayEvents.find id = some r := by
      rw [Keyed.find_eq_some_iff] at found ⊢
      exact ⟨by rw [rows]; exact List.mem_append_left _ found.1, found.2⟩
    rw [storedEvent, found', Option.bind_some, decoded]

/-- An intake stores the event it brings, or changes nothing. -/
theorem Events.brings {call : StoreCall} (events : Events db call db') {event : RelayEvent}
    (brings : call.event = some event) : db'.storedEvent event.id = some event ∨ db' = db := by
  cases events with
  | kept quiet =>
    rw [brings] at quiet
    cases quiet
  | refused same => exact .inr same
  | added event' intake brings' _ _ rows =>
    rw [brings, Option.some.injEq] at brings'
    subst brings'
    exact .inl (storedEvent_added rows)

end Database

end Postgres

end Relay
