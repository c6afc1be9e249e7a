import Relay.Adapters.PostgresRefines

/-!
# Creating deliveries in SQL

`save`, `accept` and `savePending` insert at most one delivery, after its event.
A transaction that fails anywhere leaves the tables as they were.
-/

namespace Relay

namespace Postgres

open Sql

namespace Database

variable {db : Database} {L : Ledger} {nowMillis : ℕ}

/-- Tables with more events represent the same ledger. -/
theorem Represents.moreEvents (rep : Represents db L)
    {relayEvents : Table RelayEventsRow.eventId relayEventsChecks}
    (more : ∀ k, db.relayEvents.find k ≠ none → relayEvents.find k ≠ none) :
    Represents { db with relayEvents } L where
  rows := rep.rows
  valid := rep.valid
  attempts := rep.attempts
  orphans := rep.orphans
  events := fun id e held => more _ (rep.events id e held)

/-- A delivery without attempts is inserted under a new id. -/
theorem insertDelivery_represents {e : Entry} {id : DeliveryId} (rep : Represents db L) (fresh : L id = none)
    (valid : e.Valid id) (unused : e.attempts = []) (stored : db.relayEvents.find e.delivery.eventId ≠ none) :
    ∃ db', db.insertDelivery (rowOf e) = .ok db' ∧ Represents db' (Function.update L id (some e)) ∧
      db'.relayEvents = db.relayEvents := by
  have named : (rowOf e).deliveryId = id := valid.named
  have absent : db.deliveries.find (rowOf e).deliveryId = none := by rw [named, rep.rows, fresh]; rfl
  obtain ⟨t', run, -, find⟩ := Table.insert_new (p := "deliveries_pkey") (rowOf_checked valid.fenced) absent
  refine ⟨{ db with deliveries := t' }, ?_, ?_, rfl⟩
  · have stored : db.relayEvents.find (rowOf e).eventId ≠ none := stored
    simp only [insertDelivery, run, bind, Except.bind, if_neg stored]
    rfl
  · refine ⟨?_, ?_, ?_, ?_, ?_⟩
    · intro k
      rw [find, named]
      by_cases away : k = id
      · rw [if_pos away, away, Function.update_self]; rfl
      · rw [if_neg away, Function.update_of_ne away, rep.rows]
    · intro k e₀ hk
      by_cases away : k = id
      · rw [away, Function.update_self, Option.some.injEq] at hk
        rw [away, ← hk]; exact valid
      · rw [Function.update_of_ne away] at hk; exact rep.valid k e₀ hk
    · intro k e₀ hk
      by_cases away : k = id
      · rw [away, Function.update_self, Option.some.injEq] at hk
        rw [away, ← hk, unused]
        exact rep.orphans id fresh
      · rw [Function.update_of_ne away] at hk; exact rep.attempts k e₀ hk
    · intro k hk
      by_cases away : k = id
      · rw [away, Function.update_self] at hk; cases hk
      · rw [Function.update_of_ne away] at hk; exact rep.orphans k hk
    · intro k e₀ hk
      by_cases away : k = id
      · rw [away, Function.update_self, Option.some.injEq] at hk
        rw [← hk]; exact stored
      · rw [Function.update_of_ne away] at hk; exact rep.events k e₀ hk

theorem insertDelivery_ok {r : DeliveriesRow} {db' : Database} (run : db.insertDelivery r = .ok db') :
    violation deliveriesChecks r = none ∧ db.deliveries.find r.deliveryId = none := by
  unfold insertDelivery at run
  cases insert : db.deliveries.insert "deliveries_pkey" r with
  | error error => rw [insert] at run; cases run
  | ok t' =>
    obtain ⟨ok, free, -⟩ := Table.insert_eq_ok insert
    exact ⟨ok, free⟩

theorem insertDelivery_unstored {r : DeliveriesRow} (unstored : db.relayEvents.find r.eventId = none) :
    ∃ error, db.insertDelivery r = .error error := by
  unfold insertDelivery
  cases db.deliveries.insert "deliveries_pkey" r with
  | error error => exact ⟨error, rfl⟩
  | ok t' => simp only [bind, Except.bind, if_pos unstored]; exact ⟨_, rfl⟩

/-! ## `save` -/

theorem rowOf_new (delivery : Delivery) (nowMillis : ℕ) :
    rowOf (.new delivery nowMillis) = newRow delivery nowMillis := rfl

theorem new_valid (delivery : Delivery) (nowMillis : ℕ) : (Entry.new delivery nowMillis).Valid delivery.id where
  named := rfl
  fenced := nofun
  routed := nofun

theorem saveStatement_absent {delivery : Delivery} (rep : Represents db L) (absent : L delivery.id = none) :
    db.saveStatement nowMillis delivery = db.insertDelivery (newRow delivery nowMillis) := by
  have free : db.deliveries.find (newRow delivery nowMillis).deliveryId = none := by
    rw [rep.rows]
    exact congrArg (Option.map rowOf) absent
  exact if_pos free

theorem saveStatement_present {delivery : Delivery} {e : Entry} (rep : Represents db L)
    (held : L delivery.id = some e) : db.saveStatement nowMillis delivery = .ok db := by
  have taken : db.deliveries.find (newRow delivery nowMillis).deliveryId ≠ none := by
    have row : db.deliveries.find delivery.id = some (rowOf e) := by rw [rep.rows, held]; rfl
    rw [show (newRow delivery nowMillis).deliveryId = delivery.id from rfl, row]
    exact nofun
  have ok := rowOf_checked (new_valid delivery nowMillis).fenced
  rw [rowOf_new] at ok
  have ignored : db.deliveries.insertOrIgnore "deliveries_pkey" (newRow delivery nowMillis) =
      .ok db.deliveries := by
    unfold Table.insertOrIgnore
    rw [ok]
    exact if_neg taken
  have second : db.saveStatement nowMillis delivery = (do
      let deliveries ← db.deliveries.insertOrIgnore "deliveries_pkey" (newRow delivery nowMillis)
      pure { db with deliveries }) := if_neg taken
  rw [second, ignored]
  rfl

/-- A delivery that is there stays as it is. -/
theorem save_present {delivery : Delivery} {e : Entry} (rep : Represents db L) (held : L delivery.id = some e) :
    Serves L delivery.id (Entry.save nowMillis delivery) (db.save nowMillis delivery) := by
  rw [save, saveStatement_present rep held]
  exact .unchanged rep (by rw [held]; rfl)

/-- A new delivery whose event is stored is saved. -/
theorem save_serves (rep : Represents db L) (delivery : Delivery)
    (stored : db.relayEvents.find delivery.eventId ≠ none) :
    Serves L delivery.id (Entry.save nowMillis delivery) (db.save nowMillis delivery) := by
  cases held : L delivery.id with
  | some e => exact save_present rep held
  | none =>
    obtain ⟨db', run, rep', -⟩ := insertDelivery_represents rep held (new_valid delivery nowMillis) rfl stored
    rw [rowOf_new] at run
    rw [save, saveStatement_absent rep held, run]
    exact ⟨by rw [held]; rfl, by rw [held]; exact rep'⟩

variable (nowMillis) in
/-- A new delivery whose event is not stored is refused. -/
theorem save_refused {delivery : Delivery} (rep : Represents db L) (absent : L delivery.id = none)
    (unstored : db.relayEvents.find delivery.eventId = none) :
    (db.save nowMillis delivery).2 = db ∧
      (db.save nowMillis delivery).1.answer = .error .deliveryRepositoryError := by
  obtain ⟨error, run⟩ := insertDelivery_unstored (r := newRow delivery nowMillis) unstored
  rw [save, saveStatement_absent rep absent, run]
  exact ⟨rfl, rfl⟩

/-! ## The first claim -/

/-- The delivery of an intake is inserted under its first claim, or the transaction fails. -/
theorem insertClaimed_cases (rep : Represents db L) (nowMillis : ℕ) (operation : IntakeOperation)
    (delivery : Delivery) (route : Option DeliveryRouteSnapshot) (claim : ClaimRequest)
    (stored : db.relayEvents.find delivery.eventId ≠ none) (pending : delivery.state = .pending)
    (own : ∀ r, route = some r → r.destinationId = delivery.destinationId) :
    (∃ failure, insertClaimed nowMillis db operation delivery route claim = .error failure) ∨
      ∃ expires db', insertClaimed nowMillis db operation delivery route claim =
          .ok (⟨claim.ownerId, 1, expires⟩, db') ∧ L delivery.id = none ∧
        LeaseEnd nowMillis claim.leaseDurationMillis expires ∧ db'.relayEvents = db.relayEvents ∧
        Represents db' (Function.update L delivery.id
          (some (.admitted delivery ⟨claim.ownerId, 1, expires⟩ route nowMillis))) := by
  unfold insertClaimed claimedNewRow
  by_cases whole : claim.leaseDurationMillis.den = 1
  · rw [if_pos whole]
    simp only [bind, Except.bind, pure, Except.pure]
    generalize hrow : ({ newRow delivery nowMillis with
      destinationUrl := route.map (·.endpoint.href)
      configurationVersion := route.map fun route => (route.configurationVersion : ℤ)
      claimOwner := some claim.ownerId
      claimGeneration := 1
      leaseExpiresAtMs := some (nowMillis + claim.leaseDurationMillis.num) } : DeliveriesRow) = row
    cases run : db.insertDelivery row with
    | error error => exact .inl ⟨_, rfl⟩
    | ok db' =>
      obtain ⟨ok, free⟩ := insertDelivery_ok run
      have running : 0 ≤ (nowMillis : ℤ) + claim.leaseDurationMillis.num := by
        have check := violation_eq_none.1 ok _ (List.mem_of_getElem? (i := 3) rfl)
        rw [← hrow] at check
        simp only [newRow, isNull_some, isNotNull_some, test_some, eq_some_some, le_some_some, lt_some_some,
          Truth.admits_or, Truth.admits_and, Truth.admits_some, Bool.false_and, Bool.false_or, Bool.and_eq_true,
          decide_eq_true_eq] at check
        exact check.1.2
      obtain ⟨expires, hexpires⟩ := Int.eq_ofNat_of_zero_le running
      have valid : (Entry.admitted delivery ⟨claim.ownerId, 1, expires⟩ route nowMillis).Valid delivery.id :=
        ⟨rfl, Entry.admitted_fenced pending rfl route nowMillis, own⟩
      have image : row = rowOf (.admitted delivery ⟨claim.ownerId, 1, expires⟩ route nowMillis) := by
        rw [← hrow, hexpires]; rfl
      subst image
      have fresh : L delivery.id = none := by
        rw [rep.rows, Option.map_eq_none_iff] at free
        exact free
      obtain ⟨db'', run', rep', events⟩ := insertDelivery_represents rep fresh valid rfl stored
      rw [run, Except.ok.injEq] at run'
      subst run'
      have granted : LeaseEnd nowMillis claim.leaseDurationMillis expires := by
        intro p hp
        rw [(positiveInteger_eq_some hp).2] at hexpires
        exact_mod_cast hexpires.symm
      refine .inr ⟨expires, db', ?_, fresh, granted, events, rep'⟩
      simp only [rowToClaim_rowOf valid.fenced]
      rfl
  · rw [if_neg whole]
    exact .inl ⟨_, rfl⟩

/-! ## `accept` and `savePending` -/

theorem eventRow_intake_checked (event : RelayEvent) (ingestionKey : IngestionKey)
    (requestFingerprint : RequestFingerprint) (acceptedAtMillis : ℕ) :
    violation relayEventsChecks (eventRow event (some (ingestionKey, requestFingerprint, acceptedAtMillis))) =
      none := by
  have text := requestFingerprint.wf
  rw [violation_eq_none]
  intro c hc
  simp only [relayEventsChecks, List.mem_cons, List.not_mem_nil, or_false] at hc
  obtain rfl | rfl := hc <;> simp [eventRow, text]

theorem eventRow_checked (event : RelayEvent) : violation relayEventsChecks (eventRow event none) = none := by
  rw [violation_eq_none]
  intro c hc
  simp only [relayEventsChecks, List.mem_cons, List.not_mem_nil, or_false] at hc
  obtain rfl | rfl := hc <;> simp [eventRow]

/-- Inserting an event keeps the others and stores this one. -/
theorem insert_event {r : RelayEventsRow} {relayEvents : Table RelayEventsRow.eventId relayEventsChecks}
    (run : db.relayEvents.insert "relay_events_pkey" r = .ok relayEvents) :
    relayEvents.find r.eventId = some r ∧ ∀ k, db.relayEvents.find k ≠ none → relayEvents.find k ≠ none := by
  obtain ⟨-, -, -, find⟩ := Table.insert_eq_ok run
  refine ⟨by rw [find, if_pos rfl], ?_⟩
  intro k hk
  rw [find]
  split
  · exact Option.some_ne_none r
  · exact hk

theorem accept_represents (rep : Represents db L) (record : IntakeRecord) :
    ∃ L', Represents (db.accept nowMillis record).2 L' ∧
      Served nowMillis L (.accept record) (db.accept nowMillis record).1.answer L' := by
  unfold accept
  cases db.findIntake record.ingestionKey with
  | some _ =>
    simp only
    cases db.existingIntake record.ingestionKey with
    | none => exact ⟨L, rep, .refused _ _ (.inl rfl)⟩
    | some existing =>
      obtain ⟨event, delivery⟩ := existing
      simp only
      cases decodeExistingIntake event delivery with
      | none => exact ⟨L, rep, .refused _ _ (.inl rfl)⟩
      | some decoded =>
        obtain ⟨requestFingerprint, fields⟩ := decoded
        by_cases conflict : requestFingerprint ≠ record.requestFingerprint
        · simp only [if_pos conflict]
          exact ⟨L, rep, .refused _ _ (.inl rfl)⟩
        · simp only [if_neg conflict]
          exact ⟨L, rep, .replayed record fields⟩
  | none =>
    simp only
    cases run : db.relayEvents.insert "relay_events_pkey" (eventRow record.event
        (some (record.ingestionKey, record.requestFingerprint, record.acceptedAtMillis))) with
    | error error => exact ⟨L, rep, .refused _ _ (.inl rfl)⟩
    | ok relayEvents =>
      obtain ⟨stored, more⟩ := insert_event run
      have rep₁ := rep.moreEvents more
      simp only
      obtain ⟨failure, fails⟩ | ⟨expires, db', inserted, fresh, granted, -, rep'⟩ :=
        insertClaimed_cases rep₁ nowMillis .accept
          ⟨record.deliveryId, record.event.id, record.route.destinationId, .pending⟩ (some record.route)
          record.claim (Option.ne_none_iff_exists'.2 ⟨_, stored⟩) rfl (by intro r hr; cases hr; rfl)
      · rw [fails]
        exact ⟨L, rep, .refused _ _ (.inl rfl)⟩
      · rw [inserted]
        exact ⟨_, rep', .accepted record _ expires nowMillis granted fresh rfl⟩

theorem savePending_represents (rep : Represents db L) (event : RelayEvent) (id : DeliveryId)
    (destinationId : DestinationId) (request : ClaimRequest) :
    ∃ L', Represents (db.savePending nowMillis event id destinationId request).2 L' ∧
      Served nowMillis L (.savePending event id destinationId request)
        (db.savePending nowMillis event id destinationId request).1.answer L' := by
  unfold savePending
  cases run : db.relayEvents.insert "relay_events_pkey" (eventRow event none) with
  | error error => exact ⟨L, rep, .refused _ _ (.inl rfl)⟩
  | ok relayEvents =>
    obtain ⟨stored, more⟩ := insert_event run
    have rep₁ := rep.moreEvents more
    simp only
    obtain ⟨failure, fails⟩ | ⟨expires, db', inserted, fresh, granted, -, rep'⟩ :=
      insertClaimed_cases rep₁ nowMillis .savePending ⟨id, event.id, destinationId, .pending⟩ none request
        (Option.ne_none_iff_exists'.2 ⟨_, stored⟩) rfl (by intro r hr; cases hr)
    · rw [fails]
      exact ⟨L, rep, .refused _ _ (.inl rfl)⟩
    · rw [inserted]
      exact ⟨_, rep', .saved event ⟨id, event.id, destinationId, .pending⟩ request expires granted fresh rfl rfl⟩

end Database

end Postgres

end Relay
