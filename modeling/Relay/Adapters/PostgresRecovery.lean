import Relay.Adapters.PostgresClaim
import Relay.Ledger.Recovery

/-!
# The two statements of an operator action

An action reads the row of its delivery (`check`) and, unless that refuses it,
runs its conditional update (`resume`) on whatever the tables hold by then.
-/

namespace Relay

namespace Postgres

open Sql

namespace Database

section Check

variable (db : Database)

/-- `requireDeadLetter` and, for a repair, the comparison of the destinations: the failure that ends the action, if
any. -/
def check : Recovery → Option Failure
  | .retryDeadLetter id =>
    match db.requireDeadLetter .retryDeadLetter id with
    | .error failure => some failure
    | .ok _ => none
  | .repairDeadLetter id route =>
    match db.requireDeadLetter .repairDeadLetter id with
    | .error failure => some failure
    | .ok delivery =>
      if delivery.destinationId ≠ route.destinationId then
        some (.deadLetterDestinationMismatch id delivery.destinationId route.destinationId)
      else none
  | .terminateDeadLetter id =>
    match db.requireDeadLetter .terminateDeadLetter id with
    | .error failure => some failure
    | .ok _ => none

/-- **A whole action is its two statements**, run without anything in between. -/
theorem exec_recovery (nowMillis : ℕ) (action : Recovery) : db.exec nowMillis action.call =
    match db.check action with
    | some failure => (.error failure, db)
    | none => db.resume nowMillis action.call := by
  cases action with
  | retryDeadLetter id =>
    show db.retryDeadLetter nowMillis id = _
    cases read : db.requireDeadLetter .retryDeadLetter id with
    | error failure => simp only [retryDeadLetter, check, read]
    | ok delivery =>
      simp only [retryDeadLetter, check, read]
      rfl
  | repairDeadLetter id route =>
    show db.repairDeadLetter nowMillis id route = _
    cases read : db.requireDeadLetter .repairDeadLetter id with
    | error failure => simp only [repairDeadLetter, check, read]
    | ok delivery =>
      simp only [repairDeadLetter, check, read]
      by_cases foreign : delivery.destinationId ≠ route.destinationId
      · rw [if_pos foreign, if_pos foreign]
      · rw [if_neg foreign, if_neg foreign]
        rfl
  | terminateDeadLetter id =>
    show db.terminateDeadLetter id = _
    cases read : db.requireDeadLetter .terminateDeadLetter id with
    | error failure => simp only [terminateDeadLetter, check, read]
    | ok delivery =>
      simp only [terminateDeadLetter, check, read]
      rfl

end Check

variable {db : Database} {L : Ledger} {action : Recovery}

/-- What the ledger holds for an action that was let through: its delivery, on the destination of the repair. -/
def Recoverable (L : Ledger) (action : Recovery) : Prop :=
  ∃ e, L action.id = some e ∧ ∀ route, action.route = some route → e.delivery.destinationId = route.destinationId

theorem requireDeadLetter_cases (rep : Represents db L) (operation : RepositoryOperation) (id : DeliveryId) :
    (L id = none ∧ db.requireDeadLetter operation id = .error (.deadLetterRecovery id .notFound)) ∨
      ∃ e, L id = some e ∧
        (Entry.isDeadLettered e.delivery.state = false ∧
            db.requireDeadLetter operation id = .error (.deadLetterRecovery id .notDeadLettered) ∨
          db.requireDeadLetter operation id = .ok e.delivery) := by
  unfold requireDeadLetter
  rw [findRowById_eq rep]
  cases L id with
  | none => exact .inl ⟨rfl, rfl⟩
  | some e =>
    right
    refine ⟨e, rfl, ?_⟩
    simp only [Option.map_some]
    cases e.delivery.state with
    | deadLettered reason => exact .inr rfl
    | pending | delivered | rejected | terminated => exact .inl ⟨rfl, rfl⟩

/-- A check refuses for a reason that holds, or lets the action through. -/
theorem check_cases (rep : Represents db L) (action : Recovery) :
    (∃ failure, db.check action = some failure ∧ action.Refuses (L action.id) failure.tag) ∨
      db.check action = none ∧ Recoverable L action := by
  cases action with
  | retryDeadLetter id =>
    obtain ⟨absent, run⟩ | ⟨e, held, ⟨alive, run⟩ | run⟩ := requireDeadLetter_cases rep .retryDeadLetter id
    · exact .inl ⟨_, by rw [check, run], .notFound absent⟩
    · exact .inl ⟨_, by rw [check, run], .notDeadLettered e held alive⟩
    · exact .inr ⟨by rw [check, run], e, held, fun _ brings => by cases brings⟩
  | repairDeadLetter id route =>
    obtain ⟨absent, run⟩ | ⟨e, held, ⟨alive, run⟩ | run⟩ := requireDeadLetter_cases rep .repairDeadLetter id
    · exact .inl ⟨_, by rw [check, run], .notFound absent⟩
    · exact .inl ⟨_, by rw [check, run], .notDeadLettered e held alive⟩
    · by_cases own : e.delivery.destinationId = route.destinationId
      · refine .inr ⟨by rw [check, run]; exact if_neg (by simpa using own), e, held, ?_⟩
        intro route' brings
        cases brings
        exact own
      · exact .inl ⟨_, by rw [check, run]; exact if_pos own, .mismatch e route rfl held own⟩
  | terminateDeadLetter id =>
    obtain ⟨absent, run⟩ | ⟨e, held, ⟨alive, run⟩ | run⟩ := requireDeadLetter_cases rep .terminateDeadLetter id
    · exact .inl ⟨_, by rw [check, run], .notFound absent⟩
    · exact .inl ⟨_, by rw [check, run], .notDeadLettered e held alive⟩
    · exact .inr ⟨by rw [check, run], e, held, fun _ brings => by cases brings⟩

section Update

variable {id : DeliveryId} {condition : DeliveriesRow → Truth} {set : DeliveriesRow → DeliveriesRow}
  {h : ∀ r, (set r).deliveryId = r.deliveryId} {operation : RepositoryOperation} {onNone : Failure}

/-- The update of an action on a delivery there is does what the action does. -/
theorem update_serves {e : Entry} {act : Entry → Answer × Option Entry} (rep : Represents db L) (held : L id = some e)
    (pin : ∀ r, (condition r).holds = true → r.deliveryId = id)
    (selects : (condition (rowOf e)).holds = Entry.isDeadLettered e.delivery.state)
    (acts : ∃ e', set (rowOf e) = rowOf e' ∧ e'.Valid id ∧ e'.attempts = e.attempts ∧
      e'.delivery.eventId = e.delivery.eventId ∧ act e = (.ok .done, some e'))
    (refuses : onNone.tag = .deadLetterRecoveryError .notDeadLettered) :
    Serves L id (Entry.recovered act)
      (db.findOne operation onNone (fun _ => .ok .done) (db.updateDeliveries condition set h)) := by
  by_cases dead : Entry.isDeadLettered e.delivery.state = true
  · obtain ⟨e', new, valid, attempts, event, done⟩ := acts
    refine operator_hit operation rep held pin (selects.trans dead) new valid attempts event ?_ onNone
    rw [held, Entry.recovered, if_pos dead, done]
  · have skip : ∀ e', L id = some e' → (condition (rowOf e')).holds = false := by
      intro e' held'
      rw [held, Option.some.injEq] at held'
      rw [← held', selects]
      simpa using dead
    obtain ⟨db', run, rep', -⟩ := updateDeliveries_skip condition set h rep pin skip
    rw [run]
    refine .unchanged rep' ?_
    rw [held, Entry.recovered, if_neg dead, findOne, Reply.answer, refuses]

end Update

/-- **The update of an action that was let through does what the action does now**, whatever happened since. -/
theorem resume_serves (rep : Represents db L) (nowMillis : ℕ) (recoverable : Recoverable L action) :
    Serves L action.id (action.serve nowMillis) (db.resume nowMillis action.call) := by
  obtain ⟨e, held, own⟩ := recoverable
  have valid := rep.valid _ e held
  cases action with
  | retryDeadLetter id =>
    exact update_serves rep held deadLetter_pin (deadLetter_rowOf valid) ⟨_, rfl, valid.retry nowMillis, rfl, rfl, rfl⟩ rfl
  | repairDeadLetter id route =>
    have own := own route rfl
    refine update_serves rep held ?_ ?_ ⟨_, rfl, valid.repair nowMillis own, rfl, rfl, if_pos own⟩ rfl
    · intro r selected
      rw [Truth.holds_and, Bool.and_eq_true] at selected
      exact deadLetter_pin r selected.1
    · have dead : (deadLetter id (rowOf e)).holds = Entry.isDeadLettered e.delivery.state := deadLetter_rowOf valid
      rw [Truth.holds_and, dead]
      simp [rowOf, newRow, own]
  | terminateDeadLetter id =>
    exact update_serves rep held deadLetter_pin (deadLetter_rowOf valid) ⟨_, rfl, valid.withState .terminated, rfl, rfl, rfl⟩ rfl

end Database

end Postgres

end Relay
