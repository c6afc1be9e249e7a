import Relay.Adapters.PostgresCalls

/-!
# Recording an attempt in the SQL store

What is written of an attempt updates the delivery and inserts the attempt, or
neither, as the ledger does; but no attempt gets so far, since the statement is
refused before.
-/

namespace Relay

namespace Postgres

open Sql

namespace Database

variable {db : Database} {L : Ledger} {id : DeliveryId} {nowMillis : ℕ}

/-! ## Recording an attempt -/

section Record

variable {attempt : DeliveryAttemptRecord} {e : Entry}

theorem mem_attemptsOf {r : DeliveryAttemptsRow} :
    r ∈ db.attemptsOf id ↔ r ∈ db.deliveryAttempts.rows ∧ r.deliveryId = id := by
  simp [attemptsOf, Keyed.select]

/-- The primary key of the attempts is the ordinal check of the ledger. -/
theorem attempt_key (rep : Represents db L) (held : L attempt.deliveryId = some e) :
    db.deliveryAttempts.find (attemptToRow attempt).key = none ↔ e.hasOrdinal attempt.ordinal = false := by
  have stored := rep.attempts attempt.deliveryId e held
  rw [Keyed.find_eq_none_iff]
  constructor
  · intro free
    rw [Entry.hasOrdinal, List.any_eq_false]
    intro a ha same
    have row : attemptToRow a ∈ db.attemptsOf attempt.deliveryId := by
      rw [stored]; exact List.mem_map_of_mem ha
    obtain ⟨member, named⟩ := mem_attemptsOf.1 row
    refine free _ member ?_
    have same : a.ordinal = attempt.ordinal := by simpa using same
    have named : a.deliveryId = attempt.deliveryId := named
    simp [DeliveryAttemptsRow.key, attemptToRow, same, named]
  · intro free r hr same
    have named : r.deliveryId = attempt.deliveryId := congrArg Prod.fst same
    have ordinal : r.ordinal = ((attempt.ordinal : ℕ) : ℤ) := congrArg Prod.snd same
    have row : r ∈ db.attemptsOf attempt.deliveryId := mem_attemptsOf.2 ⟨hr, named⟩
    rw [stored] at row
    obtain ⟨a, ha, rfl⟩ := List.mem_map.1 row
    rw [Entry.hasOrdinal, List.any_eq_false] at free
    refine free a ha ?_
    have ordinal : ((a.ordinal : ℕ) : ℤ) = ((attempt.ordinal : ℕ) : ℤ) := ordinal
    simpa using ordinal

/-- The attempt is inserted behind those its delivery has. -/
theorem insertAttempt_represents (rep : Represents db L) (held : L attempt.deliveryId = some e)
    (new : e.hasOrdinal attempt.ordinal = false) :
    ∃ t', db.deliveryAttempts.insert "delivery_attempts_pkey" (attemptToRow attempt) = .ok t' ∧
      Represents { db with deliveryAttempts := t' }
        (Function.update L attempt.deliveryId (some { e with attempts := e.attempts ++ [attempt] })) := by
  obtain ⟨t', run, rows, -⟩ := Table.insert_new (p := "delivery_attempts_pkey")
    (attemptToRow_checked attempt) ((attempt_key rep held).2 new)
  refine ⟨t', run, ?_⟩
  have here : Database.attemptsOf { db with deliveryAttempts := t' } attempt.deliveryId =
      db.attemptsOf attempt.deliveryId ++ [attemptToRow attempt] := by
    simp [attemptsOf, Keyed.select, rows, attemptToRow]
  have elsewhere : ∀ k, k ≠ attempt.deliveryId →
      Database.attemptsOf { db with deliveryAttempts := t' } k = db.attemptsOf k := by
    intro k away
    simp [attemptsOf, Keyed.select, rows, attemptToRow, Ne.symm away]
  have cases : ∀ k e₀, Function.update L attempt.deliveryId
      (some { e with attempts := e.attempts ++ [attempt] }) k = some e₀ →
      (k = attempt.deliveryId ∧ e₀ = { e with attempts := e.attempts ++ [attempt] }) ∨
        (k ≠ attempt.deliveryId ∧ L k = some e₀) := by
    intro k e₀ hk
    by_cases away : k = attempt.deliveryId
    · rw [away, Function.update_self, Option.some.injEq] at hk
      exact .inl ⟨away, hk.symm⟩
    · rw [Function.update_of_ne away] at hk
      exact .inr ⟨away, hk⟩
  refine ⟨?_, ?_, ?_, ?_, ?_⟩
  · intro k
    by_cases away : k = attempt.deliveryId
    · rw [away, Function.update_self, rep.rows, held]; rfl
    · rw [Function.update_of_ne away, rep.rows]
  · intro k e₀ hk
    obtain ⟨rfl, rfl⟩ | ⟨-, hk⟩ := cases k e₀ hk
    · have valid := rep.valid _ e held
      exact ⟨valid.named, valid.fenced, valid.routed⟩
    · exact rep.valid k e₀ hk
  · intro k e₀ hk
    obtain ⟨rfl, rfl⟩ | ⟨away, hk⟩ := cases k e₀ hk
    · rw [here, rep.attempts _ e held, List.map_append]; rfl
    · rw [elsewhere k away]; exact rep.attempts k e₀ hk
  · intro k hk
    by_cases away : k = attempt.deliveryId
    · rw [away, Function.update_self] at hk; cases hk
    · rw [Function.update_of_ne away] at hk
      rw [elsewhere k away]
      exact rep.orphans k hk
  · intro k e₀ hk
    obtain ⟨rfl, rfl⟩ | ⟨-, hk⟩ := cases k e₀ hk
    · exact rep.events _ e held
    · exact rep.events k e₀ hk

/-- What the `CASE` expressions make of the row, against the policy of the memory adapter. -/
theorem recordAttemptSet_scheduled (scheduled : attempt.decision = .retryScheduled) :
    recordAttemptSet (attemptToRow attempt) (rowOf e) =
      rowOf { e with nextEligibleAt := attempt.completedAtMillis + attempt.retryDelayMillis.getD 0 } := by
  have delay := attempt.delay_iff
  rw [scheduled] at delay
  obtain ⟨d, hd⟩ := Option.isSome_iff_exists.1 (delay.symm.trans (by decide))
  simp [recordAttemptSet, attemptToRow, rowOf, newRow, scheduled, hd]

theorem recordAttemptSet_settled {state : DeliveryState} (pending : e.delivery.state = .pending)
    (last : terminalStateFromAttempt attempt = some state) :
    recordAttemptSet (attemptToRow attempt) (rowOf e) = rowOf (e.withState state) := by
  unfold terminalStateFromAttempt at last
  split at last
  · next exhausted =>
    cases last
    simp [recordAttemptSet, attemptToRow, rowOf, newRow, Entry.withState, exhausted, pending, stateColumns]
  · cases last
  · next terminal =>
    split at last
    · next outcome =>
      obtain ⟨status, hs, rfl⟩ := Option.map_eq_some_iff.1 last
      simp [recordAttemptSet, attemptToRow, rowOf, newRow, Entry.withState, terminal, outcome, pending,
        stateColumns, hs]
    · next outcome =>
      obtain ⟨status, hs, rfl⟩ := Option.map_eq_some_iff.1 last
      simp [recordAttemptSet, attemptToRow, rowOf, newRow, Entry.withState, terminal, outcome, pending,
        stateColumns, hs]
    · next outcome =>
      cases last
      simp [recordAttemptSet, attemptToRow, rowOf, newRow, Entry.withState, terminal, outcome, pending,
        stateColumns]
    · cases last
    · cases last
    · cases last

/-- The entry after the update of the delivery and before the insert of the attempt. -/
def recorded (e : Entry) (attempt : DeliveryAttemptRecord) : Entry :=
  match terminalStateFromAttempt attempt with
  | none => { e with nextEligibleAt := attempt.completedAtMillis + attempt.retryDelayMillis.getD 0 }
  | some state => e.withState state

theorem recordAttemptSet_rowOf (pending : e.delivery.state = .pending) :
    recordAttemptSet (attemptToRow attempt) (rowOf e) = rowOf (recorded e attempt) := by
  unfold recorded
  cases last : terminalStateFromAttempt attempt with
  | some state => exact recordAttemptSet_settled pending last
  | none =>
    refine recordAttemptSet_scheduled ?_
    by_contra other
    obtain ⟨state, some, -⟩ := terminalStateFromAttempt_some other
    rw [last] at some
    cases some

theorem recorded_valid (valid : e.Valid id) : (recorded e attempt).Valid id := by
  unfold recorded
  cases terminalStateFromAttempt attempt with
  | none => exact ⟨valid.named, valid.fenced, valid.routed⟩
  | some state => exact valid.withState state

theorem recorded_attempts : (recorded e attempt).attempts = e.attempts := by
  unfold recorded
  cases terminalStateFromAttempt attempt <;> rfl

theorem recorded_event : (recorded e attempt).delivery.eventId = e.delivery.eventId := by
  unfold recorded
  cases terminalStateFromAttempt attempt <;> rfl

/-- The condition of the statement. -/
abbrev recordCondition (nowMillis : ℕ) (attempt : DeliveryAttemptRecord) (r : DeliveriesRow) : Truth :=
  (fence attempt.deliveryId attempt.workerId attempt.claimGeneration r).and (leaseLive nowMillis r)

/-- No fenced row: the statement updates and inserts nothing. -/
theorem recordAttemptRows_away (rep : Represents db L)
    (away : ∀ e, L attempt.deliveryId = some e → e.holds attempt.workerId attempt.claimGeneration (some nowMillis) = false) :
    ∃ db', db.recordAttemptRows nowMillis (attemptToRow attempt) attempt.claimGeneration = .ok ([], db') ∧
      Represents db' L := by
  have pin := fence_live_pin attempt.deliveryId nowMillis attempt.workerId attempt.claimGeneration
  obtain ⟨db', run, rep', -⟩ := updateDeliveries_skip (recordCondition nowMillis attempt)
    (recordAttemptSet (attemptToRow attempt)) (fun _ => rfl) rep pin (by
      intro e held
      rw [fence_live_rowOf (rep.valid _ e held)]
      exact away e held)
  refine ⟨db', ?_, rep'⟩
  unfold recordAttemptRows
  erw [run]
  rfl

/-- The fenced row is updated and the attempt inserted, unless its ordinal is taken: then neither is. -/
theorem recordAttemptRows_held (rep : Represents db L) (held : L attempt.deliveryId = some e)
    (holds : e.holds attempt.workerId attempt.claimGeneration (some nowMillis) = true) :
    if e.hasOrdinal attempt.ordinal then
      db.recordAttemptRows nowMillis (attemptToRow attempt) attempt.claimGeneration =
        .error (.unique "delivery_attempts_pkey")
    else
      ∃ db', db.recordAttemptRows nowMillis (attemptToRow attempt) attempt.claimGeneration =
          .ok ([rowOf (recorded e attempt)], db') ∧
        Represents db' (Function.update L attempt.deliveryId
          (some { recorded e attempt with attempts := (recorded e attempt).attempts ++ [attempt] })) := by
  have pin := fence_live_pin attempt.deliveryId nowMillis attempt.workerId attempt.claimGeneration
  have valid := rep.valid _ e held
  obtain ⟨db', run, rep', -⟩ := updateDeliveries_hit (recordCondition nowMillis attempt)
    (recordAttemptSet (attemptToRow attempt)) (fun _ => rfl) rep pin held
    (by rw [fence_live_rowOf valid]; exact holds) (recordAttemptSet_rowOf (Entry.holds_iff.1 holds).1)
    (recorded_valid valid) recorded_attempts recorded_event
  have held' : Function.update L attempt.deliveryId (some (recorded e attempt)) attempt.deliveryId =
      some (recorded e attempt) := Function.update_self ..
  have ordinals : (recorded e attempt).hasOrdinal attempt.ordinal = e.hasOrdinal attempt.ordinal := by
    rw [Entry.hasOrdinal, recorded_attempts]
    rfl
  split
  · next taken =>
    have occupied : db'.deliveryAttempts.find (attemptToRow attempt).key ≠ none := by
      intro free
      rw [attempt_key rep' held', ordinals, taken] at free
      cases free
    have abort := Table.insert_taken (p := "delivery_attempts_pkey") (attemptToRow_checked attempt) occupied
    unfold recordAttemptRows
    erw [run]
    simp only [bind, Except.bind, List.foldlM, abort]
  · next free =>
    obtain ⟨t', insert, rep''⟩ := insertAttempt_represents rep' held' (ordinals.trans (Bool.eq_false_iff.2 free))
    rw [Function.update_idem] at rep''
    refine ⟨{ db' with deliveryAttempts := t' }, ?_, rep''⟩
    unfold recordAttemptRows
    erw [run]
    simp only [bind, Except.bind, List.foldlM, insert]
    rfl

/-- What the repository makes of the rows, were the statement to reach them. -/
def recordAttemptReply (db : Database) (nowMillis : ℕ) (attempt : DeliveryAttemptRecord) : Reply × Database :=
  db.findOne .recordAttempt
    (lost .recordAttempt attempt.deliveryId ⟨attempt.workerId, attempt.claimGeneration, 0⟩)
    (fun _ => .ok .done) (db.recordAttemptRows nowMillis (attemptToRow attempt) attempt.claimGeneration)

/-- **What the statement says about the rows is what the ledger records.** -/
theorem recordAttemptRows_serves (rep : Represents db L) (attempt : DeliveryAttemptRecord) :
    Serves L attempt.deliveryId (Entry.recordAttempt nowMillis attempt) (db.recordAttemptReply nowMillis attempt) := by
  have refuse : (∀ e, L attempt.deliveryId = some e →
      e.holds attempt.workerId attempt.claimGeneration (some nowMillis) = false) →
      Serves L attempt.deliveryId (Entry.recordAttempt nowMillis attempt) (db.recordAttemptReply nowMillis attempt) := by
    intro away
    obtain ⟨db', statement, rep'⟩ := recordAttemptRows_away rep away
    rw [recordAttemptReply, statement]
    refine .unchanged rep' ?_
    cases held : L attempt.deliveryId with
    | none => rfl
    | some e => rw [Entry.recordAttempt, Entry.fenced, away e held, if_neg Bool.false_ne_true]; rfl
  cases held : L attempt.deliveryId with
  | none => exact refuse fun e held' => by rw [held] at held'; cases held'
  | some e =>
    cases holds : e.holds attempt.workerId attempt.claimGeneration (some nowMillis) with
    | false =>
      refine refuse ?_
      intro e' held'
      rw [held, Option.some.injEq] at held'
      exact held' ▸ holds
    | true =>
      have acted : Entry.recordAttempt nowMillis attempt (L attempt.deliveryId) =
          if e.hasOrdinal attempt.ordinal then (.error .deliveryRepositoryError, some e)
          else match terminalStateFromAttempt attempt with
            | none => (.ok .done, some (e.schedule attempt))
            | some state => (.ok .done, some (e.settle attempt state)) := by
        rw [held]
        exact if_pos holds
      have statement := recordAttemptRows_held rep held holds
      cases taken : e.hasOrdinal attempt.ordinal with
      | true =>
        rw [if_pos taken] at statement
        rw [recordAttemptReply, statement]
        refine .unchanged rep ?_
        rw [acted, taken, if_pos rfl, held]
        rfl
      | false =>
        rw [if_neg (Bool.eq_false_iff.1 taken)] at statement
        obtain ⟨db', statement, rep'⟩ := statement
        have entry : Entry.recordAttempt nowMillis attempt (L attempt.deliveryId) =
            (.ok .done, some { recorded e attempt with attempts := (recorded e attempt).attempts ++ [attempt] }) := by
          rw [acted, taken, if_neg Bool.false_ne_true]
          unfold recorded
          cases terminalStateFromAttempt attempt <;> rfl
        rw [recordAttemptReply, statement]
        refine ⟨?_, ?_⟩
        · rw [entry]
          rfl
        · rw [entry]
          exact rep'

end Record

end Database

end Postgres

end Relay
