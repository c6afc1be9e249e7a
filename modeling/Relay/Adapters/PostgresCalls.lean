import Relay.Adapters.PostgresServed

/-!
# Calls on one delivery, in SQL

Every repository function that concerns one delivery answers and writes what its
specification does to the entry the rows represent.
-/

namespace Relay

namespace Entry.Valid

variable {id : DeliveryId} {e : Entry}

theorem withState (valid : e.Valid id) (state : DeliveryState) : (e.withState state).Valid id where
  named := valid.named
  fenced := nofun
  routed := valid.routed

theorem release (valid : e.Valid id) : e.release.Valid id where
  named := valid.named
  fenced := nofun
  routed := valid.routed

theorem retry (valid : e.Valid id) (nowMillis : ℕ) : (e.retry nowMillis).Valid id where
  named := valid.named
  fenced := nofun
  routed := valid.routed

theorem repair (valid : e.Valid id) (nowMillis : ℕ) {route : DeliveryRouteSnapshot}
    (own : e.delivery.destinationId = route.destinationId) : (e.repair nowMillis route).Valid id where
  named := valid.named
  fenced := nofun
  routed := by
    intro route' held
    cases held
    exact own.symm

theorem renew (valid : e.Valid id) {claim : DeliveryClaim} {live : Option ℕ} (expires : ℕ)
    (holds : e.holds claim.ownerId claim.generation live = true) :
    (e.renew { claim with leaseExpiresAtMillis := expires }).Valid id where
  named := valid.named
  fenced := by
    intro claim' held
    cases held
    exact ⟨(Entry.holds_iff.1 holds).1, Entry.holds_generation (e := e) valid.fenced holds⟩
  routed := valid.routed

end Entry.Valid

namespace Postgres

open Sql

namespace Database

variable {db : Database} {L : Ledger} {id : DeliveryId} {nowMillis : ℕ}

/-- The reply and the tables after a call that does `op` to the entry under `id`. -/
structure Serves (L : Ledger) (id : DeliveryId) (op : Option Entry → Answer × Option Entry)
    (r : Reply × Database) : Prop where
  answer : r.1.answer = (op (L id)).1
  represents : Represents r.2 (Function.update L id (op (L id)).2)

theorem Serves.unchanged {op : Option Entry → Answer × Option Entry} {r : Reply × Database}
    (rep : Represents r.2 L) (served : op (L id) = (r.1.answer, L id)) : Serves L id op r where
  answer := by rw [served]
  represents := by rw [served, Function.update_eq_self]; exact rep

/-! ## Fenced calls -/

section Fenced

variable {condition : DeliveriesRow → Truth} {set : DeliveriesRow → DeliveriesRow}
  {h : ∀ r, (set r).deliveryId = r.deliveryId} {operation : RepositoryOperation} {onNone : Failure}
  {onSome : DeliveriesRow → Reply}

/-- A fenced statement and its reading serve the fenced operation. -/
theorem fenced_serves {ownerId : WorkerId} {generation : ClaimGeneration} {live : Option ℕ}
    (value : StoreValue) (act : Entry → Entry) (rep : Represents db L)
    (pin : ∀ r, (condition r).holds = true → r.deliveryId = id)
    (fence : ∀ e, e.Valid id → (condition (rowOf e)).holds = e.holds ownerId generation live)
    (lost : onNone.tag = .claimLostError)
    (writes : ∀ e, e.Valid id → e.holds ownerId generation live = true → set (rowOf e) = rowOf (act e) ∧
      (act e).Valid id ∧ (act e).attempts = e.attempts ∧ (act e).delivery.eventId = e.delivery.eventId)
    (reads : ∀ e, e.Valid id → e.holds ownerId generation live = true →
      onSome (rowOf (act e)) = .ok value) :
    Serves L id (Entry.fenced ownerId generation live fun e => (.ok value, some (act e)))
      (db.findOne operation onNone onSome (db.updateDeliveries condition set h)) := by
  have refuse : (∀ e, L id = some e → e.holds ownerId generation live = false) →
      Serves L id (Entry.fenced ownerId generation live fun e => (.ok value, some (act e)))
        (db.findOne operation onNone onSome (db.updateDeliveries condition set h)) := by
    intro away
    have skip : ∀ e, L id = some e → (condition (rowOf e)).holds = false := by
      intro e held
      rw [fence e (rep.valid id e held)]
      exact away e held
    obtain ⟨db', run, rep', -⟩ := updateDeliveries_skip condition set h rep pin skip
    rw [run]
    refine .unchanged rep' ?_
    cases held : L id with
    | none => rw [findOne, Reply.answer, lost]; rfl
    | some e =>
      rw [Entry.fenced, away e held, if_neg Bool.false_ne_true, findOne, Reply.answer, lost]
  cases held : L id with
  | none => exact refuse fun e held' => by rw [held] at held'; cases held'
  | some e =>
    have valid := rep.valid id e held
    cases holds : e.holds ownerId generation live with
    | false =>
      refine refuse ?_
      intro e' held'
      rw [held, Option.some.injEq] at held'
      exact held' ▸ holds
    | true =>
      obtain ⟨new, valid', attempts, event⟩ := writes e valid holds
      have hit : (condition (rowOf e)).holds = true := by rw [fence e valid]; exact holds
      obtain ⟨db', run, rep', -⟩ := updateDeliveries_hit condition set h rep pin held hit new valid' attempts event
      have acted : Entry.fenced ownerId generation live (fun e => (.ok value, some (act e))) (L id) =
          (.ok value, some (act e)) := by
        rw [held, Entry.fenced, if_pos holds]
      rw [run]
      refine ⟨?_, ?_⟩
      · rw [acted, findOne, reads e valid holds]; rfl
      · rw [acted]; exact rep'

variable (id nowMillis) in
theorem fence_live_pin (ownerId : WorkerId) (generation : ClaimGeneration) (r : DeliveriesRow)
    (holds : ((fence id ownerId generation r).and (leaseLive nowMillis r)).holds = true) : r.deliveryId = id := by
  rw [Truth.holds_and, Bool.and_eq_true] at holds
  exact fence_pin r holds.1

theorem renewClaim_serves (rep : Represents db L) (claim : DeliveryClaim) {lease : Number} {p : ℕ+}
    (whole : positiveInteger lease = some p) :
    Serves L id (Entry.renewClaim nowMillis claim (nowMillis + p)) (db.renewClaim nowMillis id claim lease) := by
  unfold renewClaim
  rw [whole]
  refine fenced_serves (.renewed { claim with leaseExpiresAtMillis := nowMillis + p })
    (fun e => e.renew { claim with leaseExpiresAtMillis := nowMillis + p }) rep (fence_live_pin id nowMillis _ _)
    (fun e valid => fence_live_rowOf valid) rfl ?_ ?_
  · intro e valid holds
    refine ⟨?_, valid.renew _ holds, rfl, rfl⟩
    obtain ⟨-, current, held, owner, -, -⟩ := Entry.holds_iff.1 holds
    simp [rowOf, newRow, Entry.renew, held, owner]
  · intro e valid holds
    have fenced := (valid.renew (nowMillis + p) holds).fenced
    rw [rowToClaim_rowOf fenced]
    rfl

theorem completionColumns_result (result : DeliveryResult) :
    completionColumns (deliveryStateFromResult result) = stateColumns (deliveryStateFromResult result) := by
  cases result <;> rfl

theorem completeClaim_serves (rep : Represents db L) (claim : DeliveryClaim) (result : DeliveryResult) :
    Serves L id (Entry.completeClaim nowMillis claim result) (db.completeClaim nowMillis id claim result) := by
  refine fenced_serves .done (fun e => e.withState (deliveryStateFromResult result)) rep (fence_live_pin id nowMillis _ _)
    (fun e valid => fence_live_rowOf valid) rfl ?_ (fun _ _ _ => rfl)
  intro e valid holds
  refine ⟨?_, valid.withState _, rfl, rfl⟩
  rw [completionColumns_result]
  rfl

theorem releaseClaim_serves (rep : Represents db L) (claim : DeliveryClaim) :
    Serves L id (Entry.releaseClaim claim) (db.releaseClaim id claim) := by
  refine fenced_serves .done (fun e => e.release) rep fence_pin (fun e valid => fence_rowOf valid) rfl ?_
    (fun _ _ _ => rfl)
  intro e valid holds
  exact ⟨rfl, valid.release, rfl, rfl⟩

end Fenced

/-! ## Operator calls -/

section Operator

theorem findRowById_eq (rep : Represents db L) (operation : RepositoryOperation) :
    db.findRowById operation id = .ok ((L id).map (·.delivery)) := by
  unfold findRowById
  rw [rep.rows]
  cases held : L id with
  | none => rfl
  | some e => simp only [Option.map_some, rowToDelivery_rowOf]

theorem deadLetter_pin (r : DeliveriesRow) (holds : (deadLetter id r).holds = true) : r.deliveryId = id := by
  simp only [deadLetter, Truth.holds_and, Bool.and_eq_true, eq_some_some, Truth.holds_some, decide_eq_true_eq] at holds
  exact holds.1

theorem deadLetter_rowOf {e : Entry} (valid : e.Valid id) :
    (deadLetter id (rowOf e)).holds = Entry.isDeadLettered e.delivery.state := by
  simp [deadLetter, rowOf, newRow, valid.named, stateColumns_deadLettered]

variable {condition : DeliveriesRow → Truth} {set : DeliveriesRow → DeliveriesRow}
  {h : ∀ r, (set r).deliveryId = r.deliveryId} {operation : RepositoryOperation}

variable (operation) in
/-- The update of an operator action on a delivery it applies to. -/
theorem operator_hit {e e' : Entry} (rep : Represents db L) (held : L id = some e)
    (pin : ∀ r, (condition r).holds = true → r.deliveryId = id) (hit : (condition (rowOf e)).holds = true)
    (new : set (rowOf e) = rowOf e') (valid : e'.Valid id) (attempts : e'.attempts = e.attempts)
    (event : e'.delivery.eventId = e.delivery.eventId) {op : Option Entry → Answer × Option Entry}
    (served : op (L id) = (.ok .done, some e')) (onNone : Failure) :
    Serves L id op (db.findOne operation onNone (fun _ => .ok .done) (db.updateDeliveries condition set h)) := by
  obtain ⟨db', run, rep', -⟩ := updateDeliveries_hit condition set h rep pin held hit new valid attempts event
  rw [run]
  exact ⟨by rw [served]; rfl, by rw [served]; exact rep'⟩

/-- `requireDeadLetter` finds what the ledger holds. -/
theorem requireDeadLetter_serves {act : Entry → Answer × Option Entry}
    {rest : Delivery → Reply × Database} (rep : Represents db L)
    (acts : ∀ e, L id = some e → Entry.isDeadLettered e.delivery.state = true →
      Serves L id (fun _ => act e) (rest e.delivery)) :
    Serves L id (Entry.recovered act)
      (match db.requireDeadLetter operation id with
      | .error failure => (.error failure, db)
      | .ok delivery => rest delivery) := by
  unfold requireDeadLetter
  rw [findRowById_eq rep]
  cases held : L id with
  | none => exact .unchanged rep (by rw [held]; rfl)
  | some e =>
    simp only [Option.map_some]
    cases state : e.delivery.state with
    | deadLettered reason =>
      have dead : Entry.isDeadLettered e.delivery.state = true := by rw [state]; rfl
      have acted : Entry.recovered act (L id) = act e := by rw [held, Entry.recovered, if_pos dead]
      have done := acts e held dead
      exact ⟨by rw [acted]; exact done.answer, by rw [acted]; exact done.represents⟩
    | pending | delivered | rejected | terminated =>
      refine .unchanged rep ?_
      rw [held, Entry.recovered, if_neg]
      · rfl
      · rw [state]; exact Bool.false_ne_true

theorem retryDeadLetter_serves (rep : Represents db L) :
    Serves L id (Entry.retryDeadLetter nowMillis) (db.retryDeadLetter nowMillis id) := by
  refine requireDeadLetter_serves rep ?_
  intro e held dead
  have valid := rep.valid id e held
  exact operator_hit _ rep held deadLetter_pin (by rw [deadLetter_rowOf valid]; exact dead) rfl
    (valid.retry nowMillis) rfl rfl rfl _

theorem terminateDeadLetter_serves (rep : Represents db L) :
    Serves L id Entry.terminateDeadLetter (db.terminateDeadLetter id) := by
  refine requireDeadLetter_serves rep ?_
  intro e held dead
  have valid := rep.valid id e held
  exact operator_hit _ rep held deadLetter_pin (by rw [deadLetter_rowOf valid]; exact dead) rfl
    (valid.withState .terminated) rfl rfl rfl _

theorem repairDeadLetter_serves (rep : Represents db L) (route : DeliveryRouteSnapshot) :
    Serves L id (Entry.repairDeadLetter nowMillis route) (db.repairDeadLetter nowMillis id route) := by
  refine requireDeadLetter_serves rep ?_
  intro e held dead
  have valid := rep.valid id e held
  by_cases own : e.delivery.destinationId = route.destinationId
  · simp only [ne_eq, own, not_true_eq_false, if_false, if_true]
    refine operator_hit _ rep held (fun r holds => ?_) ?_ rfl (valid.repair nowMillis own) rfl rfl rfl _
    · rw [Truth.holds_and, Bool.and_eq_true] at holds
      exact deadLetter_pin r holds.1
    · rw [Truth.holds_and, deadLetter_rowOf valid, dead]
      simp [rowOf, newRow, own]
  · simp only [ne_eq, own, not_false_eq_true, if_true, if_false]
    exact .unchanged rep (by rw [held]; rfl)

end Operator

/-! ## Saving and reading -/

theorem findById_serves (rep : Represents db L) :
    Serves L id (fun e => (.ok (.found (e.map (·.delivery))), e)) (db.findById id) := by
  refine .unchanged rep ?_
  rw [findById, findRowById_eq rep]
  rfl

end Database

end Postgres

end Relay
