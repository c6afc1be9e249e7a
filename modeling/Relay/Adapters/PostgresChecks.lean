import Relay.Adapters.PostgresReads

/-!
# No call fails on a check constraint

Every statement writes the row of a valid entry, an attempt record or an event,
and these satisfy the constraints of their tables, whatever state the row came
from.
-/

namespace Relay

/-- The check constraint a failed statement violated. -/
def Cause.violated : Cause → Option String
  | .sqlError (.check name) => some name
  | .sqlError _ | .message _ | .schemaError => none

def Failure.violated : Failure → Option String
  | .deliveryRepository _ cause | .relayIntakeStore _ cause => cause.violated
  | .claimLost .. | .deadLetterRecovery .. | .deadLetterDestinationMismatch .. | .ingestionConflict .. | .defect => none

def Reply.violated : Reply → Option String
  | .ok _ => none
  | .error failure => failure.violated

namespace Postgres

open Sql

namespace Database

variable {db : Database} {L : Ledger} {nowMillis : ℕ}

/-! ## Statements -/

theorem updateDeliveries_passes {condition : DeliveriesRow → Truth} {set : DeliveriesRow → DeliveriesRow}
    {h : ∀ r, (set r).deliveryId = r.deliveryId} (rep : Represents db L)
    (writes : ∀ id e, L id = some e → e.Valid id → (condition (rowOf e)).holds = true →
      ∃ e', set (rowOf e) = rowOf e' ∧ e'.Fenced) :
    Table.Passes (db.updateDeliveries condition set h) := by
  refine (Table.update_passes ?_).bind fun result _ => Table.passes_ok _
  intro r member selected
  obtain ⟨e, held, rfl⟩ := rep.delivery_row member
  obtain ⟨e', same, fenced⟩ := writes _ e held (rep.valid _ e held) selected
  rw [same]
  exact rowOf_checked fenced

theorem insertDelivery_passes {r : DeliveriesRow} (ok : violation deliveriesChecks r = none) :
    Table.Passes (db.insertDelivery r) := by
  refine (Table.insert_passes ok).bind ?_
  intro deliveries _
  split
  · intro name failed
    cases failed
  · exact Table.passes_ok _

theorem saveStatement_passes (delivery : Delivery) : Table.Passes (db.saveStatement nowMillis delivery) := by
  have ok : violation deliveriesChecks (newRow delivery nowMillis) = none :=
    rowOf_checked (new_valid delivery nowMillis).fenced
  unfold saveStatement
  simp only
  split
  · exact insertDelivery_passes ok
  · exact (Table.insertOrIgnore_passes ok).bind fun _ _ => Table.passes_ok _

theorem insertAttempts_passes (attempt : DeliveryAttemptRecord) (owned : List DeliveriesRow) :
    ∀ t : Table DeliveryAttemptsRow.key deliveryAttemptsChecks,
      Table.Passes (owned.foldlM (fun t _ => t.insert "delivery_attempts_pkey" (attemptToRow attempt)) t) := by
  induction owned with
  | nil =>
    intro t
    exact Table.passes_ok t
  | cons r owned ih =>
    intro t
    rw [List.foldlM_cons]
    exact (Table.insert_passes (attemptToRow_checked attempt)).bind fun t' _ => ih t'

theorem recordAttemptRows_passes (rep : Represents db L) (attempt : DeliveryAttemptRecord) :
    Table.Passes (db.recordAttemptRows nowMillis (attemptToRow attempt) attempt.claimGeneration) := by
  refine (updateDeliveries_passes rep ?_).bind ?_
  · intro id e held valid selected
    have pinned : (rowOf e).deliveryId = attempt.deliveryId :=
      fence_live_pin attempt.deliveryId nowMillis attempt.workerId attempt.claimGeneration _ selected
    have named : attempt.deliveryId = id := pinned.symm.trans valid.named
    subst named
    have holds := fence_live_rowOf valid ▸ selected
    exact ⟨recorded e attempt, recordAttemptSet_rowOf (Entry.holds_iff.1 holds).1, (recorded_valid valid).fenced⟩
  · rintro ⟨owned, db'⟩ -
    exact (insertAttempts_passes attempt owned _).bind fun _ _ => Table.passes_ok _

theorem claimPendingRows_passes (rep : Represents db L) (ownerId : WorkerId) (destinationId : DestinationId)
    (limit lease : ℕ+) : Table.Passes (db.claimPendingRows nowMillis ownerId destinationId limit lease) := by
  refine (updateDeliveries_passes rep ?_).bind fun _ _ => Table.passes_ok _
  intro id e held valid selected
  have chosen : (rowOf e).deliveryId ∈ db.candidates nowMillis destinationId limit := by simpa using selected
  obtain ⟨e', held', due⟩ := due_of_candidate nowMillis destinationId rep limit chosen
  rw [show (rowOf e).deliveryId = id from valid.named, held, Option.some.injEq] at held'
  subst held'
  exact ⟨e.issue ownerId (nowMillis + lease), claimSet_rowOf ownerId, (issue_valid ownerId valid due _).fenced⟩

section Fenced

variable {id : DeliveryId} {claim : DeliveryClaim}

/-- A fenced statement selects the delivery it names, pending under the claim. -/
theorem selected_holds {e : Entry} {id' : DeliveryId} (valid : e.Valid id')
    (selected : ((fence id claim.ownerId claim.generation (rowOf e)).and (leaseLive nowMillis (rowOf e))).holds = true) :
    e.Valid id ∧ e.holds claim.ownerId claim.generation (some nowMillis) = true := by
  have pinned : (rowOf e).deliveryId = id := fence_live_pin id nowMillis claim.ownerId claim.generation _ selected
  have named : id = id' := pinned.symm.trans valid.named
  subst named
  exact ⟨valid, fence_live_rowOf valid ▸ selected⟩

theorem renewClaimStatement_passes (rep : Represents db L) (lease : ℕ+) :
    Table.Passes (db.renewClaimStatement nowMillis id claim lease) := by
  refine updateDeliveries_passes rep ?_
  intro id' e held valid selected
  obtain ⟨valid, holds⟩ := selected_holds valid selected
  obtain ⟨-, current, under, owner, -, -⟩ := Entry.holds_iff.1 holds
  refine ⟨e.renew { claim with leaseExpiresAtMillis := nowMillis + lease }, ?_, (valid.renew _ holds).fenced⟩
  simp [rowOf, newRow, Entry.renew, under, owner]

theorem completeClaimStatement_passes (rep : Represents db L) (result : DeliveryResult) :
    Table.Passes (db.completeClaimStatement nowMillis id claim result) := by
  refine updateDeliveries_passes rep ?_
  intro id' e held valid selected
  refine ⟨e.withState (deliveryStateFromResult result), ?_, (valid.withState _).fenced⟩
  rw [completionColumns_result]
  rfl

theorem releaseClaimStatement_passes (rep : Represents db L) : Table.Passes (db.releaseClaimStatement id claim) := by
  refine updateDeliveries_passes rep ?_
  intro id' e held valid selected
  exact ⟨e.release, rfl, valid.release.fenced⟩

theorem retryDeadLetterStatement_passes (rep : Represents db L) : Table.Passes (db.retryDeadLetterStatement nowMillis id) := by
  refine updateDeliveries_passes rep ?_
  intro id' e held valid selected
  exact ⟨e.retry nowMillis, rfl, (valid.retry nowMillis).fenced⟩

theorem repairDeadLetterStatement_passes (rep : Represents db L) (route : DeliveryRouteSnapshot) :
    Table.Passes (db.repairDeadLetterStatement nowMillis id route) := by
  refine updateDeliveries_passes rep ?_
  intro id' e held valid selected
  refine ⟨e.repair nowMillis route, rfl, ?_⟩
  intro claim under
  cases under

theorem terminateDeadLetterStatement_passes (rep : Represents db L) : Table.Passes (db.terminateDeadLetterStatement id) := by
  refine updateDeliveries_passes rep ?_
  intro id' e held valid selected
  exact ⟨e.withState .terminated, rfl, (valid.withState .terminated).fenced⟩

end Fenced

/-! ## Calls -/

theorem passes_violated {α : Type} {statement : Except Error α} (passes : Table.Passes statement) {error : Error}
    (failed : statement = .error error) : (Cause.sqlError error).violated = none := by
  cases error with
  | check name => exact absurd failed (passes name)
  | unique | foreignKey | invalidInput | unresolved => rfl

/-- Reading the first row adds no failure of a constraint. -/
theorem findOne_passes {α : Type} (operation : RepositoryOperation) {onNone : Failure} {onSome : α → Reply}
    {statement : Except Error (List α × Database)} (passes : Table.Passes statement) (none : onNone.violated = none)
    (some : ∀ row, Reply.violated (onSome row) = Option.none) :
    Reply.violated (db.findOne operation onNone onSome statement).1 = Option.none := by
  cases run : statement with
  | error error => exact passes_violated passes run
  | ok result =>
    obtain ⟨rows, db'⟩ := result
    cases rows with
    | nil => exact none
    | cons row rows => exact some row

theorem requireDeadLetter_passes (rep : Represents db L) {operation : RepositoryOperation} {id : DeliveryId}
    {act : Delivery → Reply × Database} (acts : ∀ delivery, Reply.violated (act delivery).1 = none) :
    Reply.violated (match db.requireDeadLetter operation id with
      | .error failure => ((.error failure : Reply), db)
      | .ok delivery => act delivery).1 = none := by
  unfold requireDeadLetter
  rw [findRowById_eq rep]
  cases L id with
  | none => rfl
  | some e =>
    simp only [Option.map_some]
    cases e.delivery.state with
    | deadLettered reason => exact acts e.delivery
    | pending | delivered | rejected | terminated => rfl

/-- The row of a first claim is the row of the entry the intake admits. -/
theorem claimedNewRow_admitted (delivery : Delivery) (route : Option DeliveryRouteSnapshot) {claim : ClaimRequest} {lease : ℕ+}
    (whole : positiveInteger claim.leaseDurationMillis = some lease) : claimedNewRow nowMillis delivery route claim =
      .ok (rowOf (.admitted delivery ⟨claim.ownerId, 1, nowMillis + lease⟩ route nowMillis)) := by
  obtain ⟨den, num⟩ := positiveInteger_eq_some whole
  unfold claimedNewRow
  rw [if_pos den, num]
  rfl

/-- A first claim for a positive whole lease ends with it. -/
theorem insertClaimed_whole (operation : IntakeOperation) {delivery : Delivery} (route : Option DeliveryRouteSnapshot)
    {claim : ClaimRequest} {lease : ℕ+} (whole : positiveInteger claim.leaseDurationMillis = some lease)
    (pending : delivery.state = .pending) :
    (∃ error, db.insertDelivery (rowOf (.admitted delivery ⟨claim.ownerId, 1, nowMillis + lease⟩ route nowMillis)) =
        .error error ∧
      insertClaimed nowMillis db operation delivery route claim = .error (.relayIntakeStore operation (.sqlError error))) ∨
    ∃ db', insertClaimed nowMillis db operation delivery route claim = .ok (⟨claim.ownerId, 1, nowMillis + lease⟩, db') := by
  have fenced : (Entry.admitted delivery ⟨claim.ownerId, 1, nowMillis + lease⟩ route nowMillis).Fenced :=
    Entry.admitted_fenced pending rfl route nowMillis
  unfold insertClaimed
  rw [claimedNewRow_admitted delivery route whole]
  simp only [bind, Except.bind, pure, Except.pure]
  cases db.insertDelivery (rowOf (.admitted delivery ⟨claim.ownerId, 1, nowMillis + lease⟩ route nowMillis)) with
  | error error => exact .inl ⟨error, rfl, rfl⟩
  | ok db' =>
    simp only [rowToClaim_rowOf fenced]
    exact .inr ⟨db', rfl⟩

theorem insertClaimed_passes (operation : IntakeOperation) {delivery : Delivery} (route : Option DeliveryRouteSnapshot)
    {claim : ClaimRequest} {lease : ℕ+} (whole : positiveInteger claim.leaseDurationMillis = some lease)
    (pending : delivery.state = .pending) {failure : Failure}
    (failed : insertClaimed nowMillis db operation delivery route claim = .error failure) : failure.violated = none := by
  obtain ⟨error, run, aborts⟩ | ⟨db', inserted⟩ := @insertClaimed_whole db nowMillis operation delivery route claim lease whole pending
  · rw [aborts] at failed
    cases failed
    exact passes_violated (insertDelivery_passes (rowOf_checked (Entry.admitted_fenced pending rfl route nowMillis))) run
  · rw [inserted] at failed
    cases failed

theorem accept_passes {record : IntakeRecord} {lease : ℕ+}
    (whole : positiveInteger record.claim.leaseDurationMillis = some lease) :
    Reply.violated (db.accept nowMillis record).1 = none := by
  unfold accept
  cases db.findIntake record.ingestionKey with
  | some row =>
    simp only
    cases db.existingIntake record.ingestionKey with
    | none => rfl
    | some existing =>
      simp only
      cases decodeExistingIntake existing.1 existing.2 with
      | none => rfl
      | some decoded =>
        simp only
        split <;> rfl
  | none =>
    simp only
    cases run : db.relayEvents.insert "relay_events_pkey" (eventRow record.event
        (some (record.ingestionKey, record.requestFingerprint, record.acceptedAtMillis))) with
    | error error => exact passes_violated (Table.insert_passes (eventRow_intake_checked _ _ _ _)) run
    | ok relayEvents =>
      simp only
      split
      · next failure failed => exact insertClaimed_passes .accept (some record.route) whole rfl failed
      · rfl

theorem savePending_passes {event : RelayEvent} {id : DeliveryId} {destinationId : DestinationId} {request : ClaimRequest}
    {lease : ℕ+} (whole : positiveInteger request.leaseDurationMillis = some lease) :
    Reply.violated (db.savePending nowMillis event id destinationId request).1 = none := by
  unfold savePending
  cases run : db.relayEvents.insert "relay_events_pkey" (eventRow event none) with
  | error error => exact passes_violated (Table.insert_passes (eventRow_checked event)) run
  | ok relayEvents =>
    simp only
    split
    · next failure failed => exact insertClaimed_passes .savePending none whole rfl failed
    · rfl

/-- **No call fails on a check constraint.** -/
theorem exec_passes (rep : Represents db L) (nowMillis : ℕ) {call : StoreCall} (whole : call.wellFormed = true) :
    Reply.violated (db.exec nowMillis call).1 = none := by
  cases call with
  | save delivery =>
    show Reply.violated (db.save nowMillis delivery).1 = none
    unfold save
    cases run : db.saveStatement nowMillis delivery with
    | error error => exact passes_violated (saveStatement_passes delivery) run
    | ok db' => rfl
  | findById id =>
    show Reply.violated (db.findById id).1 = none
    unfold findById
    rw [findRowById_eq rep]
    rfl
  | accept record =>
    obtain ⟨lease, whole⟩ := Option.isSome_iff_exists.1 whole
    exact accept_passes whole
  | savePending event id destinationId request =>
    obtain ⟨lease, whole⟩ := Option.isSome_iff_exists.1 whole
    exact savePending_passes whole
  | claimPending ownerId destinationId limit lease =>
    show Reply.violated (db.claimPending nowMillis ownerId destinationId limit lease).1 = none
    cases counted : positiveInteger limit with
    | none => rw [claimPending, counted]; rfl
    | some limit' =>
      cases whole : positiveInteger lease with
      | none => rw [claimPending, counted, whole]; rfl
      | some lease' => rw [db.claimPending_refused nowMillis ownerId destinationId counted whole]; rfl
  | renewClaim id claim lease =>
    show Reply.violated (db.renewClaim nowMillis id claim lease).1 = none
    unfold renewClaim
    cases positiveInteger lease with
    | none => rfl
    | some lease =>
      refine findOne_passes .renewClaim (renewClaimStatement_passes rep lease) rfl ?_
      intro r
      split <;> rfl
  | recordAttempt attempt =>
    show Reply.violated (db.recordAttempt nowMillis attempt).1 = none
    rw [recordAttempt_eq]
    rfl
  | completeClaim id claim result =>
    exact findOne_passes .completeClaim (completeClaimStatement_passes rep result) rfl fun _ => rfl
  | releaseClaim id claim => exact findOne_passes .releaseClaim (releaseClaimStatement_passes rep) rfl fun _ => rfl
  | retryDeadLetter id =>
    refine requireDeadLetter_passes rep ?_
    intro delivery
    exact findOne_passes .retryDeadLetter (retryDeadLetterStatement_passes rep) rfl fun _ => rfl
  | repairDeadLetter id route =>
    refine requireDeadLetter_passes rep ?_
    intro delivery
    split
    · rfl
    · exact findOne_passes .repairDeadLetter (repairDeadLetterStatement_passes rep route) rfl fun _ => rfl
  | terminateDeadLetter id =>
    refine requireDeadLetter_passes rep ?_
    intro delivery
    exact findOne_passes .terminateDeadLetter (terminateDeadLetterStatement_passes rep) rfl fun _ => rfl

theorem resume_passes (rep : Represents db L) (nowMillis : ℕ) {call : StoreCall} (whole : call.wellFormed = true) :
    Reply.violated (db.resume nowMillis call).1 = none := by
  cases call with
  | retryDeadLetter id =>
    exact findOne_passes .retryDeadLetter (retryDeadLetterStatement_passes rep) rfl fun _ => rfl
  | repairDeadLetter id route =>
    exact findOne_passes .repairDeadLetter (repairDeadLetterStatement_passes rep route) rfl fun _ => rfl
  | terminateDeadLetter id =>
    exact findOne_passes .terminateDeadLetter (terminateDeadLetterStatement_passes rep) rfl fun _ => rfl
  | save | findById | accept | savePending | claimPending | renewClaim | recordAttempt | completeClaim | releaseClaim =>
    exact exec_passes rep nowMillis whole

end Database

end Postgres

end Relay
