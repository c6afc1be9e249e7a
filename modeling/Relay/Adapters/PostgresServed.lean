import Relay.Adapters.Postgres
import Relay.Ledger.Fencing

/-!
# The SQL adapter serves the ledger

`Represents db L`: the rows of `db` are those the entries of `L` are stored as. A
fenced or operator statement pins one delivery, selects it exactly when the
ledger allows the operation, and writes the row of the entry the ledger writes.
-/

namespace Relay

/-- The snapshot of a delivery is a route to its own destination. -/
def Entry.Routed (e : Entry) : Prop :=
  ∀ route, e.route = some route → route.destinationId = e.delivery.destinationId

structure Entry.Valid (id : DeliveryId) (e : Entry) : Prop where
  named : e.delivery.id = id
  fenced : e.Fenced
  routed : e.Routed

namespace Postgres

open Sql

namespace Database

/-! ## Entries as rows -/

def rowOf (e : Entry) : DeliveriesRow :=
  { newRow e.delivery e.nextEligibleAt with
    destinationUrl := e.route.map (·.endpoint.href)
    configurationVersion := e.route.map fun route => (route.configurationVersion : ℤ)
    claimOwner := e.claim.map (·.ownerId)
    claimGeneration := e.generation
    leaseExpiresAtMs := e.claim.map fun claim => (claim.leaseExpiresAtMillis : ℤ) }

def entryOf (db : Database) (r : DeliveriesRow) : Option Entry :=
  (rowToDelivery r).map fun delivery =>
    { delivery
      generation := r.claimGeneration.toNat
      claim := rowToClaim r.claimOwner r.claimGeneration r.leaseExpiresAtMs
      route := rowToRoute r.destinationId r.destinationUrl (r.configurationVersion.bind positiveColumn)
      attempts := (db.attemptsOf r.deliveryId).filterMap rowToAttempt
      nextEligibleAt := (r.nextEligibleAtMs.bind wholeColumn).getD 0 }

def view (db : Database) : Ledger := fun id => (db.deliveries.find id).bind db.entryOf

structure Represents (db : Database) (L : Ledger) : Prop where
  rows : ∀ id, db.deliveries.find id = (L id).map rowOf
  valid : ∀ id e, L id = some e → e.Valid id
  attempts : ∀ id e, L id = some e → db.attemptsOf id = e.attempts.map attemptToRow
  orphans : ∀ id, L id = none → db.attemptsOf id = []
  events : ∀ id e, L id = some e → db.relayEvents.find e.delivery.eventId ≠ none

def Sound (db : Database) : Prop := ∃ L, Represents db L

section Rows

variable {e : Entry} {id : DeliveryId}

theorem rowToClaim_rowOf (fenced : e.Fenced) :
    rowToClaim (rowOf e).claimOwner (rowOf e).claimGeneration (rowOf e).leaseExpiresAtMs = e.claim := by
  cases held : e.claim with
  | none => simp [rowOf, rowToClaim, held]
  | some claim =>
    have counted := (fenced claim held).2
    simp [rowOf, rowToClaim, held, ← counted]

theorem rowToRoute_rowOf (routed : e.Routed) :
    rowToRoute (rowOf e).destinationId (rowOf e).destinationUrl
      ((rowOf e).configurationVersion.bind positiveColumn) = e.route := by
  cases held : e.route with
  | none => simp [rowOf, rowToRoute, held]
  | some route => simp [rowOf, newRow, rowToRoute, held, ← routed route held]

theorem rowToDelivery_rowOf : rowToDelivery (rowOf e) = some e.delivery := by
  simp [rowToDelivery, rowOf, newRow]

/-- **An entry reads back from its rows.** -/
theorem entryOf_rowOf {db : Database} (valid : e.Valid id)
    (attempts : db.attemptsOf id = e.attempts.map attemptToRow) : db.entryOf (rowOf e) = some e := by
  have named : (rowOf e).deliveryId = id := valid.named
  rw [entryOf, rowToDelivery_rowOf, rowToClaim_rowOf valid.fenced, rowToRoute_rowOf valid.routed, named, attempts,
    List.filterMap_map]
  have readBack : (rowToAttempt ∘ attemptToRow) = some := by
    funext attempt
    exact rowToAttempt_attemptToRow attempt
  rw [readBack, List.filterMap_some]
  simp [rowOf, newRow]

theorem Represents.view {db : Database} {L : Ledger} (rep : Represents db L) : db.view = L := by
  funext id
  rw [Database.view, rep.rows]
  cases held : L id with
  | none => rfl
  | some e => exact entryOf_rowOf (rep.valid id e held) (rep.attempts id e held)

/-- **The row of a valid entry satisfies the constraints of its table.** -/
theorem rowOf_checked (fenced : e.Fenced) : violation deliveriesChecks (rowOf e) = none := by
  rw [violation_eq_none]
  intro c hc
  simp only [deliveriesChecks, List.mem_cons, List.not_mem_nil, or_false] at hc
  obtain rfl | rfl | rfl | rfl | rfl | rfl := hc
  · simp [rowOf, newRow]
  · cases held : e.route <;> simp [rowOf, held]
  · simp [rowOf]
  · cases held : e.claim with
    | none => simp [rowOf, newRow, held]
    | some claim =>
      obtain ⟨pending, counted⟩ := fenced claim held
      have owner := claim.ownerId.wf
      have positive : 0 < e.generation := by rw [← counted]; exact claim.generation.pos
      simp [rowOf, newRow, held, pending, stateColumns, owner, positive]
  · simp [rowOf, newRow]
  · cases state : e.delivery.state with
    | deadLettered reason => cases reason <;> simp [rowOf, newRow, state, stateColumns]
    | pending | delivered | rejected | terminated => simp [rowOf, newRow, state, stateColumns]

end Rows

/-! ## Updates of one delivery -/

section Update

variable {db : Database} {L : Ledger} {id : DeliveryId} {nowMillis : ℕ} {condition : DeliveriesRow → Truth}
  {set : DeliveriesRow → DeliveriesRow} {h : ∀ r, (set r).deliveryId = r.deliveryId}

theorem represents_empty : Represents .empty (fun _ => none) where
  rows := fun _ => rfl
  valid := nofun
  attempts := nofun
  orphans := fun _ _ => rfl
  events := nofun

theorem attemptsOf_congr {db' : Database} (same : db'.deliveryAttempts = db.deliveryAttempts)
    (k : DeliveryId) : db'.attemptsOf k = db.attemptsOf k := by
  simp only [attemptsOf, same]

/-- Tables that read the same represent the same. -/
theorem Represents.congr {db' : Database} (rep : Represents db L)
    (deliveries : ∀ k, db'.deliveries.find k = db.deliveries.find k)
    (attempts : db'.deliveryAttempts = db.deliveryAttempts) (events : db'.relayEvents = db.relayEvents) :
    Represents db' L where
  rows := fun k => by rw [deliveries, rep.rows]
  valid := rep.valid
  attempts := fun k e held => by rw [attemptsOf_congr attempts]; exact rep.attempts k e held
  orphans := fun k absent => by rw [attemptsOf_congr attempts]; exact rep.orphans k absent
  events := by rw [events]; exact rep.events

/-- The row of one delivery is rewritten to that of another entry with the same attempts. -/
theorem Represents.rewrite {db' : Database} {e e' : Entry} (rep : Represents db L) (held : L id = some e)
    (deliveries : ∀ k, db'.deliveries.find k = if k = id then some (rowOf e') else db.deliveries.find k)
    (same : db'.deliveryAttempts = db.deliveryAttempts) (events : db'.relayEvents = db.relayEvents)
    (valid : e'.Valid id) (attempts : e'.attempts = e.attempts)
    (event : e'.delivery.eventId = e.delivery.eventId) : Represents db' (Function.update L id (some e')) := by
  have elsewhere : ∀ k e₀, Function.update L id (some e') k = some e₀ → (k = id ∧ e₀ = e') ∨ L k = some e₀ := by
    intro k e₀ hk
    by_cases away : k = id
    · subst away
      rw [Function.update_self, Option.some.injEq] at hk
      exact .inl ⟨rfl, hk.symm⟩
    · rw [Function.update_of_ne away] at hk
      exact .inr hk
  refine ⟨?_, ?_, ?_, ?_, ?_⟩
  · intro k
    rw [deliveries]
    by_cases away : k = id
    · subst away; rw [if_pos rfl, Function.update_self]; rfl
    · rw [if_neg away, Function.update_of_ne away, rep.rows]
  · intro k e₀ hk
    obtain ⟨rfl, rfl⟩ | hk := elsewhere k e₀ hk
    · exact valid
    · exact rep.valid k e₀ hk
  · intro k e₀ hk
    rw [attemptsOf_congr same]
    obtain ⟨rfl, rfl⟩ | hk := elsewhere k e₀ hk
    · rw [attempts]; exact rep.attempts k e held
    · exact rep.attempts k e₀ hk
  · intro k hk
    rw [attemptsOf_congr same]
    by_cases away : k = id
    · subst away; rw [Function.update_self] at hk; cases hk
    · rw [Function.update_of_ne away] at hk; exact rep.orphans k hk
  · intro k e₀ hk
    rw [events]
    obtain ⟨rfl, rfl⟩ | hk := elsewhere k e₀ hk
    · rw [event]; exact rep.events k e held
    · exact rep.events k e₀ hk

variable (condition set h) in
theorem updateDeliveries_skip (rep : Represents db L)
    (pin : ∀ r, (condition r).holds = true → r.deliveryId = id)
    (skip : ∀ e, L id = some e → (condition (rowOf e)).holds = false) :
    ∃ db', db.updateDeliveries condition set h = .ok ([], db') ∧ Represents db' L ∧
      db'.deliveryAttempts = db.deliveryAttempts := by
  have unselected : ∀ r, db.deliveries.find id = some r → (condition r).holds = false := by
    intro r hr
    rw [rep.rows, Option.map_eq_some_iff] at hr
    obtain ⟨e, held, rfl⟩ := hr
    exact skip e held
  obtain ⟨t', run, -, find⟩ := Table.update_skip (h := h) pin unselected
  refine ⟨{ db with deliveries := t' }, ?_, rep.congr find rfl rfl, rfl⟩
  rw [updateDeliveries, run]
  rfl

variable (condition set h) in
theorem updateDeliveries_hit {e e' : Entry} (rep : Represents db L)
    (pin : ∀ r, (condition r).holds = true → r.deliveryId = id) (held : L id = some e)
    (hit : (condition (rowOf e)).holds = true) (new : set (rowOf e) = rowOf e') (valid : e'.Valid id)
    (attempts : e'.attempts = e.attempts) (event : e'.delivery.eventId = e.delivery.eventId) :
    ∃ db', db.updateDeliveries condition set h = .ok ([rowOf e'], db') ∧
      Represents db' (Function.update L id (some e')) ∧ db'.deliveryAttempts = db.deliveryAttempts := by
  have found : db.deliveries.find id = some (rowOf e) := by rw [rep.rows, held]; rfl
  have ok : violation deliveriesChecks (set (rowOf e)) = none := by
    rw [new]; exact rowOf_checked valid.fenced
  obtain ⟨t', run, find⟩ := Table.update_hit (h := h) pin found hit ok
  rw [new] at run find
  refine ⟨{ db with deliveries := t' }, ?_, rep.rewrite held find rfl rfl valid attempts event, rfl⟩
  rw [updateDeliveries, run]
  rfl

end Update

/-! ## Fences -/

section Fence

variable {e : Entry} {id : DeliveryId} {ownerId : WorkerId} {generation : ClaimGeneration} {nowMillis : ℕ}

theorem fence_pin (r : DeliveriesRow) (holds : (fence id ownerId generation r).holds = true) :
    r.deliveryId = id := by
  simp only [fence, Truth.holds_and, Bool.and_eq_true, eq_some_some, Truth.holds_some, decide_eq_true_eq] at holds
  exact holds.1.1.1

theorem stateColumns_pending (state : DeliveryState) :
    decide ((stateColumns state).1 = .pending) = decide (state = .pending) := by
  cases state <;> rfl

theorem stateColumns_deadLettered (state : DeliveryState) :
    decide ((stateColumns state).1 = .deadLettered) = Entry.isDeadLettered state := by
  cases state <;> rfl

/-- The fence of the statements is the fence of the ledger. -/
theorem fence_rowOf (valid : e.Valid id) :
    (fence id ownerId generation (rowOf e)).holds = e.holds ownerId generation none := by
  have named : e.delivery.id = id := valid.named
  cases held : e.claim with
  | none => simp [fence, rowOf, newRow, Entry.holds, held]
  | some claim =>
    have counted := (valid.fenced claim held).2
    have generations : decide ((e.generation : ℤ) = (generation : ℤ)) = decide (claim.generation = generation) := by
      rw [← counted]
      simp
    simp only [fence, rowOf, newRow, Entry.holds, held, named, Option.map_some, eq_some_some, Truth.holds_and,
      Truth.holds_some, stateColumns_pending, generations, decide_true, Bool.true_and, Bool.and_assoc,
      Bool.and_true]

theorem fence_live_rowOf (valid : e.Valid id) :
    ((fence id ownerId generation (rowOf e)).and (leaseLive nowMillis (rowOf e))).holds =
      e.holds ownerId generation (some nowMillis) := by
  rw [Truth.holds_and, fence_rowOf valid]
  cases held : e.claim with
  | none => simp [Entry.holds, held]
  | some claim => simp [Entry.holds, leaseLive, rowOf, newRow, held, Bool.and_assoc]

end Fence

end Database

end Postgres

end Relay
