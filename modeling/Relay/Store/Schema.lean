import Relay.Adapters.PostgresChecks
import Relay.Store.Agreement

/-!
# The schema invariant of the SQL tables

The tables satisfy their constraints in every state, so the reads decode; and no
call aborts on a constraint, so it is the program and not the constraints that
keeps the rows well formed.
-/

namespace Relay

namespace Postgres

open Sql

/-- The rows of the tables pass the constraints, and no well-formed call runs into one. -/
structure Database.Constrained (db : Database) : Prop where
  relayEvents : ∀ r ∈ db.relayEvents.rows, violation relayEventsChecks r = none
  deliveries : ∀ r ∈ db.deliveries.rows, violation deliveriesChecks r = none
  deliveryAttempts : ∀ r ∈ db.deliveryAttempts.rows, violation deliveryAttemptsChecks r = none
  calls : ∀ (nowMillis : ℕ) (c : Statement), c.call.wellFormed = true →
    Reply.violated (postgres.exec nowMillis db c).1 = none
  /-- The two statements that are refused for their names would run into none either. -/
  attempt : ∀ (nowMillis : ℕ) (attempt : DeliveryAttemptRecord),
    Table.Passes (db.recordAttemptRows nowMillis (attemptToRow attempt) attempt.claimGeneration)
  claim : ∀ (nowMillis : ℕ) (ownerId : WorkerId) (destinationId : DestinationId) (limit lease : ℕ+),
    Table.Passes (db.claimPendingRows nowMillis ownerId destinationId limit lease)

/-- Every row decodes, and every read answers with what it decoded. -/
structure Database.Readable (db : Database) : Prop where
  deliveryRow : ∀ r ∈ db.deliveries.rows, ∃ delivery, rowToDelivery r = some delivery
  attemptRow : ∀ r ∈ db.deliveryAttempts.rows, attemptColumns r = true ∧ ∃ attempt, rowToAttempt r = some attempt
  findById : ∀ id, ∃ found, (db.findById id).1 = .ok (.found found)
  findStatus : ∀ id, ∃ found, db.findRowById .findStatus id = .ok found
  findAttempts : ∀ (operation : RepositoryOperation) (id : DeliveryId), ∃ attempts, db.readAttempts operation id = .ok attempts
  listDeadLetters : ∀ (collation : Collation) (limit : ℕ+), ∃ deliveries, db.listDeadLetterRows collation ((limit : ℕ) : Number) = .ok deliveries
  claimPending : ∀ (nowMillis : ℕ) (ownerId : WorkerId) (destinationId : DestinationId) (limit lease : ℕ+),
    ∃ rows claimed db', db.claimPendingRows nowMillis ownerId destinationId limit lease = .ok (rows, db') ∧
      rows.mapM rowToClaimedDelivery = some claimed

namespace Database

variable {db : Database} {L : Ledger}

theorem Represents.constrained (rep : Represents db L) : db.Constrained where
  relayEvents := db.relayEvents.checked
  deliveries := db.deliveries.checked
  deliveryAttempts := db.deliveryAttempts.checked
  calls := by
    intro nowMillis c whole
    show Reply.violated (if c.resumed then db.resume nowMillis c.call else db.exec nowMillis c.call).1 = none
    split
    · exact resume_passes rep nowMillis whole
    · exact exec_passes rep nowMillis whole
  attempt := fun _ => recordAttemptRows_passes rep
  claim := fun _ => claimPendingRows_passes rep

theorem Represents.readable (rep : Represents db L) : db.Readable where
  deliveryRow := by
    intro r member
    obtain ⟨e, -, rfl⟩ := rep.delivery_row member
    exact ⟨e.delivery, rowToDelivery_rowOf⟩
  attemptRow := by
    intro r member
    obtain ⟨-, attempt, -, -, rfl⟩ := rep.attempt_row member
    exact ⟨attemptColumns_attemptToRow attempt, attempt, rowToAttempt_attemptToRow attempt⟩
  findById := by
    intro id
    refine ⟨(L id).map (·.delivery), ?_⟩
    unfold findById
    rw [findRowById_eq rep]
    rfl
  findStatus := fun id => ⟨(L id).map (·.delivery), findRowById_eq rep .findStatus⟩
  findAttempts := by
    intro operation id
    obtain ⟨attempts, -, read⟩ := readAttempts_ok rep operation id
    exact ⟨attempts, read⟩
  listDeadLetters := listDeadLetterRows_ok rep
  claimPending := by
    intro nowMillis ownerId destinationId limit lease
    obtain ⟨rows, claimed, db', run, decoded, -⟩ := @claimPendingRows_run db L nowMillis ownerId rep destinationId limit lease
    exact ⟨rows, claimed, db', run, decoded⟩

end Database

/-- **The schema invariant**, in every state any sequence of calls leads to. -/
theorem tables_keep_schema {db : Database} (reachable : postgres.anyCalls.Reachable db) : db.Constrained ∧ db.Readable := by
  obtain ⟨L, rep⟩ := postgres_lawful.sound_of_reachable reachable
  exact ⟨rep.constrained, rep.readable⟩

/-- The tables after a first delivery. -/
theorem tables_keep_schema_saved :
    (postgres.exec 0 .empty ⟨Sample.savePending, false⟩).2.deliveries.rows.length = 1 ∧
      (postgres.exec 0 .empty ⟨Sample.savePending, false⟩).2.Constrained ∧
      (postgres.exec 0 .empty ⟨Sample.savePending, false⟩).2.Readable :=
  ⟨by decide +kernel,
    tables_keep_schema (TransitionSystem.Reachable.init.step (postgres.exec_step 0 .empty ⟨Sample.savePending, false⟩))⟩

end Postgres

end Relay
