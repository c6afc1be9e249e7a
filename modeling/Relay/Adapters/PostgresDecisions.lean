import Relay.Adapters.PostgresClaim
import Relay.Ledger.Identity

/-!
# What the tables keep of an acceptance

No statement rewrites an event, so the row a key was accepted with stays; and
none writes an attempt, since the one that would is refused. The replay branch of
`accept` joins the event with its delivery, and that row can be repaired: what a
replay reports as the route is the current one.
-/

namespace Relay

namespace Postgres

open Sql

namespace Database

variable {db db' : Database} {L : Ledger} {nowMillis : ℕ} {call : StoreCall}

/-! ## Events are only added -/

/-- What a call did to the events. -/
inductive Events (db : Database) (call : StoreCall) (db' : Database) : Prop where
  | kept (quiet : call.event = none) (same : db'.relayEvents = db.relayEvents)
  | refused (same : db' = db)
  | added (event : RelayEvent) (intake : Option (IngestionKey × RequestFingerprint × ℕ))
      (brings : call.event = some event) (keyed : intake.map (·.1) = call.ingestionKey)
      (new : db.relayEvents.find event.id = none)
      (rows : db'.relayEvents.rows = db.relayEvents.rows ++ [eventRow event intake])

/-- Nothing but the deliveries has changed. -/
structure OnlyDeliveries (db db' : Database) : Prop where
  relayEvents : db'.relayEvents = db.relayEvents
  deliveryAttempts : db'.deliveryAttempts = db.deliveryAttempts

theorem OnlyDeliveries.refl (db : Database) : OnlyDeliveries db db := ⟨rfl, rfl⟩

theorem updateDeliveries_only {condition : DeliveriesRow → Truth} {set : DeliveriesRow → DeliveriesRow}
    {h : ∀ r, (set r).deliveryId = r.deliveryId} {returned : List DeliveriesRow}
    (run : db.updateDeliveries condition set h = .ok (returned, db')) : OnlyDeliveries db db' := by
  unfold updateDeliveries at run
  cases update : db.deliveries.update condition set h with
  | error error => rw [update] at run; cases run
  | ok result => rw [update] at run; cases run; exact ⟨rfl, rfl⟩

theorem findOne_only {α : Type} {operation : RepositoryOperation} {onNone : Failure} {onSome : α → Reply}
    {statement : Except Error (List α × Database)}
    (keeps : ∀ rows db', statement = .ok (rows, db') → OnlyDeliveries db db') :
    OnlyDeliveries db (db.findOne operation onNone onSome statement).2 := by
  unfold findOne
  split
  · exact .refl db
  · next db' => exact keeps _ _ rfl
  · next row rows db' => exact keeps _ _ rfl

theorem insertDelivery_only {r : DeliveriesRow} (run : db.insertDelivery r = .ok db') : OnlyDeliveries db db' := by
  unfold insertDelivery at run
  simp only [bind, Except.bind, pure, Except.pure] at run
  split at run
  · cases run
  · split at run
    · cases run
    · cases run; exact ⟨rfl, rfl⟩

theorem save_only (delivery : Delivery) : OnlyDeliveries db (db.save nowMillis delivery).2 := by
  unfold save
  cases run : db.saveStatement nowMillis delivery with
  | error error => exact .refl db
  | ok db' =>
    unfold saveStatement at run
    simp only [bind, Except.bind, pure, Except.pure] at run
    split at run
    · exact insertDelivery_only run
    · split at run
      · cases run
      · cases run; exact ⟨rfl, rfl⟩

theorem operatorRow_only {operation : RepositoryOperation} {id : DeliveryId}
    {act : Delivery → Reply × Database} (acts : ∀ delivery, OnlyDeliveries db (act delivery).2) :
    OnlyDeliveries db (match db.requireDeadLetter operation id with
      | .error failure => ((.error failure : Reply), db)
      | .ok delivery => act delivery).2 := by
  split
  · exact .refl db
  · exact acts _

/-- The calls that bring no event write deliveries at most. -/
theorem exec_quiet (db : Database) (nowMillis : ℕ) (quiet : call.event = none) :
    OnlyDeliveries db (db.exec nowMillis call).2 := by
  cases call with
  | accept | savePending => cases quiet
  | save delivery => exact save_only delivery
  | findById id => exact .refl db
  | claimPending ownerId destinationId limit lease =>
    obtain ⟨cause, refused⟩ := db.claimPending_eq nowMillis ownerId destinationId limit lease
    rw [exec, refused]
    exact .refl db
  | renewClaim id claim lease =>
    rw [exec, renewClaim]
    split
    · exact .refl db
    · exact findOne_only fun _ _ => updateDeliveries_only
  | recordAttempt attempt => rw [exec, recordAttempt_eq]; exact .refl db
  | completeClaim id claim result => exact findOne_only fun _ _ => updateDeliveries_only
  | releaseClaim id claim => exact findOne_only fun _ _ => updateDeliveries_only
  | retryDeadLetter id => exact operatorRow_only fun _ => findOne_only fun _ _ => updateDeliveries_only
  | repairDeadLetter id route =>
    refine operatorRow_only ?_
    intro delivery
    split
    · exact .refl db
    · exact findOne_only fun _ _ => updateDeliveries_only
  | terminateDeadLetter id => exact operatorRow_only fun _ => findOne_only fun _ _ => updateDeliveries_only

theorem resume_quiet (db : Database) (nowMillis : ℕ) (quiet : call.event = none) :
    OnlyDeliveries db (db.resume nowMillis call).2 := by
  cases call with
  | retryDeadLetter | repairDeadLetter | terminateDeadLetter => exact findOne_only fun _ _ => updateDeliveries_only
  | save | findById | accept | savePending | claimPending | renewClaim | recordAttempt | completeClaim
  | releaseClaim => exact exec_quiet db nowMillis quiet

/-! ## Attempts are never written -/

theorem insertClaimed_only {operation : IntakeOperation} {delivery : Delivery} {route : Option DeliveryRouteSnapshot}
    {request : ClaimRequest} {claim : DeliveryClaim}
    (inserted : insertClaimed nowMillis db operation delivery route request = .ok (claim, db')) :
    OnlyDeliveries db db' := by
  unfold insertClaimed at inserted
  simp only [bind, Except.bind, pure, Except.pure] at inserted
  split at inserted
  · cases inserted
  · next row db₁ run =>
    split at inserted
    · cases inserted
    · cases inserted
      split at run
      · cases run
      · split at run
        · cases run
        · next inserts => cases run; exact insertDelivery_only inserts

theorem accept_attempts (record : IntakeRecord) :
    (db.accept nowMillis record).2.deliveryAttempts = db.deliveryAttempts := by
  unfold accept
  simp only
  split
  · split
    · rfl
    · split
      · rfl
      · next inserted => exact (insertClaimed_only inserted).deliveryAttempts
  · split
    · rfl
    · split
      · rfl
      · split <;> rfl

theorem savePending_attempts (event : RelayEvent) (id : DeliveryId) (destinationId : DestinationId) (request : ClaimRequest) :
    (db.savePending nowMillis event id destinationId request).2.deliveryAttempts = db.deliveryAttempts := by
  unfold savePending
  simp only
  split
  · rfl
  · split
    · rfl
    · next inserted => exact (insertClaimed_only inserted).deliveryAttempts

/-- **No call writes an attempt.** -/
theorem exec_attempts (db : Database) (nowMillis : ℕ) (call : StoreCall) :
    (db.exec nowMillis call).2.deliveryAttempts = db.deliveryAttempts := by
  cases call with
  | accept record => exact accept_attempts record
  | savePending event id destinationId request => exact savePending_attempts event id destinationId request
  | save | findById | claimPending | renewClaim | recordAttempt | completeClaim | releaseClaim | retryDeadLetter
  | repairDeadLetter | terminateDeadLetter => exact (exec_quiet db nowMillis rfl).deliveryAttempts

theorem resume_attempts (db : Database) (nowMillis : ℕ) (call : StoreCall) :
    (db.resume nowMillis call).2.deliveryAttempts = db.deliveryAttempts := by
  cases call with
  | retryDeadLetter | repairDeadLetter | terminateDeadLetter => exact (resume_quiet db nowMillis rfl).deliveryAttempts
  | save | findById | accept | savePending | claimPending | renewClaim | recordAttempt | completeClaim
  | releaseClaim => exact exec_attempts db nowMillis _

/-! ## The decision of a key -/

/-- The tables hold the acceptance of `key`: its event, and one delivery of that event under its route. -/
structure Kept (db : Database) (key : IngestionKey) (fingerprint : RequestFingerprint)
    (fields : IntakeDecisionFields) : Prop where
  event : db.findIntake key = some (eventRow fields.event (some (key, fingerprint, fields.acceptedAtMillis)))
  shape : fields.delivery = ⟨fields.delivery.id, fields.event.id, fields.route.destinationId, .pending⟩
  delivery : ∃ e, db.view fields.delivery.id = some e ∧ e.delivery.eventId = fields.event.id ∧
    e.delivery.destinationId = fields.route.destinationId ∧ e.route = some fields.route
  sole : ∀ id e, db.view id = some e → e.delivery.eventId = fields.event.id → id = fields.delivery.id

section Kept

variable {key : IngestionKey} {fingerprint : RequestFingerprint} {fields : IntakeDecisionFields}

theorem mem_of_findIntake {row : RelayEventsRow} (found : db.findIntake key = some row) :
    row ∈ db.relayEvents.rows ∧ row.ingestionKey = some key := by
  have member := List.mem_of_mem_head? (Option.mem_def.2 found)
  obtain ⟨member, selected⟩ := List.mem_filter.1 member
  have selected : (eq row.ingestionKey (some key)).holds = true := selected
  refine ⟨member, ?_⟩
  cases h : row.ingestionKey with
  | none => rw [h] at selected; cases selected
  | some key' => rw [h] at selected; simpa using selected

/-- The first row of a key stays the first. -/
theorem Events.findIntake {row : RelayEventsRow} (events : Events db call db')
    (found : db.findIntake key = some row) : db'.findIntake key = some row := by
  cases events with
  | kept _ same => rw [Database.findIntake, same]; exact found
  | refused same => rw [same]; exact found
  | added event intake _ _ _ rows =>
    unfold Database.findIntake Keyed.select at found ⊢
    rw [rows, List.filter_append, List.head?_append, found]
    rfl

/-- A key stays unknown under calls that do not accept it. -/
theorem Events.findIntake_none (events : Events db call db') (away : call.ingestionKey ≠ some key)
    (unknown : db.findIntake key = none) : db'.findIntake key = none := by
  cases events with
  | kept _ same => rw [Database.findIntake, same]; exact unknown
  | refused same => rw [same]; exact unknown
  | added event intake _ keyed _ rows =>
    have other : (eq (eventRow event intake).ingestionKey (some key)).holds = false := by
      rw [← keyed] at away
      cases h : intake.map (·.1) with
      | none => simp [eventRow, h]
      | some key' =>
        rw [h] at away
        have differs : key' ≠ key := fun same => away (by rw [same])
        simp [eventRow, h, differs]
    unfold Database.findIntake Keyed.select at unknown ⊢
    rw [rows, List.filter_append, List.head?_append, unknown, List.filter_cons, other]
    rfl

/-- The replay branch selects the event and its delivery. -/
theorem Kept.existingIntake (kept : Kept db key fingerprint fields) (rep : Represents db L) :
    ∃ e, db.existingIntake key =
        some (eventRow fields.event (some (key, fingerprint, fields.acceptedAtMillis)), rowOf e) ∧
      e.delivery.id = fields.delivery.id ∧ e.delivery.destinationId = fields.route.destinationId ∧
      e.route = some fields.route := by
  obtain ⟨e, held, event, destination, route⟩ := kept.delivery
  have sole := kept.sole
  rw [rep.view] at held sole
  have pin : ∀ r ∈ db.deliveries.rows, (eq (some r.eventId) (some fields.event.id)).holds →
      r.deliveryId = fields.delivery.id := by
    intro r member selected
    have row := Keyed.find_of_mem member
    rw [rep.rows, Option.map_eq_some_iff] at row
    obtain ⟨e', held', rfl⟩ := row
    exact sole _ e' held' (by simpa [rowOf, newRow] using selected)
  have found : db.deliveries.find fields.delivery.id = some (rowOf e) := by rw [rep.rows, held]; rfl
  have selected : (eq (some (rowOf e).eventId) (some fields.event.id)).holds = true := by
    simp [rowOf, newRow, event]
  have only : db.deliveries.select (fun r => eq (some r.eventId) (some fields.event.id)) = [rowOf e] := by
    rw [Keyed.select_pinned pin, found]
    exact if_pos selected
  refine ⟨e, ?_, (rep.valid _ e held).named, destination, route⟩
  unfold Database.existingIntake
  rw [kept.event]
  simp only [eventRow, only, List.insertionSort_cons, List.insertionSort_nil, List.orderedInsert_nil,
    List.head?_cons, Option.map_some]

/-- **An accepted key replays its decision, or conflicts**, and changes nothing. -/
theorem Kept.accept (kept : Kept db key fingerprint fields) (rep : Represents db L) {record : IntakeRecord}
    (same : record.ingestionKey = key) :
    db.accept nowMillis record =
      (if fingerprint = record.requestFingerprint then .ok (.decided (.replay fields))
        else .error (.ingestionConflict key fields.event.id), db) := by
  obtain ⟨e, existing, named, destination, route⟩ := kept.existingIntake rep
  have decoded : decodeExistingIntake
      (eventRow fields.event (some (key, fingerprint, fields.acceptedAtMillis))) (rowOf e) =
        some (fingerprint, fields) := by
    have whole : fields = ⟨fields.event, ⟨fields.delivery.id, fields.event.id, fields.route.destinationId, .pending⟩,
        fields.route, fields.acceptedAtMillis⟩ := by
      rw [← kept.shape]
    conv_rhs => rw [whole]
    simp [decodeExistingIntake, eventRow, rowOf, newRow, route, named, destination]
  unfold Database.accept
  rw [same, kept.event, existing]
  simp only [decoded]
  by_cases conflict : fingerprint = record.requestFingerprint
  · rw [if_neg (not_not.2 conflict), if_pos conflict]
  · rw [if_pos conflict, if_neg conflict]

end Kept

/-- The delivery of an accepted event is the only one of its event. -/
theorem Represents.sole_insert {delivery : Delivery} {e : Entry} (rep : Represents db L)
    (new : db.relayEvents.find delivery.eventId = none) :
    ∀ id e', Function.update L delivery.id (some e) id = some e' → e'.delivery.eventId = delivery.eventId →
      id = delivery.id := by
  intro id e' held same
  by_cases here : id = delivery.id
  · exact here
  · rw [Function.update_of_ne here] at held
    exact absurd (same ▸ new) (rep.events id e' held)

theorem insertClaimed_tag {operation : IntakeOperation} {delivery : Delivery} {route : Option DeliveryRouteSnapshot}
    {claim : ClaimRequest} {failure : Failure}
    (fails : insertClaimed nowMillis db operation delivery route claim = .error failure) :
    failure.tag = .relayIntakeStoreError := by
  unfold insertClaimed at fails
  split at fails
  · cases fails; rfl
  · split at fails
    · cases fails; rfl
    · cases fails

variable (nowMillis) in
/-- **An unknown key is accepted and kept**, or the transaction fails without a trace. -/
theorem accept_unknown (rep : Represents db L) {record : IntakeRecord}
    (unknown : db.findIntake record.ingestionKey = none) :
    (∃ failure, db.accept nowMillis record = (.error failure, db) ∧ failure.tag = .relayIntakeStoreError) ∨
      ∃ claim db', db.accept nowMillis record = (.ok (.decided (.accepted record.decision claim)), db') ∧
        Kept db' record.ingestionKey record.requestFingerprint record.decision ∧
        Events db (.accept record) db' := by
  unfold Database.accept
  rw [unknown]
  simp only
  cases run : db.relayEvents.insert "relay_events_pkey" (eventRow record.event
      (some (record.ingestionKey, record.requestFingerprint, record.acceptedAtMillis))) with
  | error error => exact .inl ⟨_, rfl, rfl⟩
  | ok relayEvents =>
    obtain ⟨stored, more⟩ := insert_event run
    obtain ⟨-, new, rows, -⟩ := Table.insert_eq_ok run
    have rep₁ := rep.moreEvents more
    simp only
    obtain ⟨failure, fails⟩ | ⟨expires, db', inserted, fresh, granted, events, rep'⟩ :=
      insertClaimed_cases rep₁ nowMillis .accept
        ⟨record.deliveryId, record.event.id, record.route.destinationId, .pending⟩ (some record.route)
        record.claim (Option.ne_none_iff_exists'.2 ⟨_, stored⟩) rfl (by intro r hr; cases hr; rfl)
    · rw [fails]
      exact .inl ⟨failure, rfl, insertClaimed_tag fails⟩
    · rw [inserted]
      have rows' : db'.relayEvents.rows = db.relayEvents.rows ++ [eventRow record.event
          (some (record.ingestionKey, record.requestFingerprint, record.acceptedAtMillis))] := by
        rw [events, rows]
      refine .inr ⟨_, db', rfl, ⟨?_, rfl, ?_, ?_⟩, .added _ _ rfl rfl new rows'⟩
      · unfold Database.findIntake Keyed.select at unknown ⊢
        rw [rows', List.filter_append, List.head?_append, unknown]
        simp [eventRow, IntakeRecord.decision]
      · rw [rep'.view]
        exact ⟨_, Function.update_self _ _ _, rfl, rfl, rfl⟩
      · rw [rep'.view]
        exact rep.sole_insert new

/-- A known key is not accepted again, and nothing is written. -/
theorem accept_found {record : IntakeRecord} {row : RelayEventsRow}
    (found : db.findIntake record.ingestionKey = some row) :
    (db.accept nowMillis record).2 = db ∧
      ∀ fields claim, (db.accept nowMillis record).1 ≠ .ok (.decided (.accepted fields claim)) := by
  unfold Database.accept
  rw [found]
  simp only
  split
  · exact ⟨rfl, nofun⟩
  · split
    · exact ⟨rfl, nofun⟩
    · split <;> exact ⟨rfl, nofun⟩

theorem accepted_unknown {record : IntakeRecord} {fields : IntakeDecisionFields} {claim : DeliveryClaim}
    (accepted : (db.accept nowMillis record).1 = .ok (.decided (.accepted fields claim))) :
    db.findIntake record.ingestionKey = none := by
  cases found : db.findIntake record.ingestionKey with
  | none => rfl
  | some row => exact absurd accepted ((accept_found found).2 fields claim)

/-- `savePending` adds its event, or does nothing. -/
theorem savePending_events (rep : Represents db L) (event : RelayEvent) (id : DeliveryId)
    (destinationId : DestinationId) (request : ClaimRequest) :
    Events db (.savePending event id destinationId request)
      (db.savePending nowMillis event id destinationId request).2 := by
  unfold savePending
  cases run : db.relayEvents.insert "relay_events_pkey" (eventRow event none) with
  | error error => exact .refused rfl
  | ok relayEvents =>
    obtain ⟨stored, more⟩ := insert_event run
    obtain ⟨-, new, rows, -⟩ := Table.insert_eq_ok run
    simp only
    obtain ⟨failure, fails⟩ | ⟨expires, db', inserted, -, -, events, -⟩ :=
      insertClaimed_cases (rep.moreEvents more) nowMillis .savePending ⟨id, event.id, destinationId, .pending⟩ none
        request (Option.ne_none_iff_exists'.2 ⟨_, stored⟩) rfl (by intro r hr; cases hr)
    · rw [fails]
      exact .refused rfl
    · rw [inserted]
      refine .added event none rfl rfl new ?_
      rw [events, rows]

/-- **Events are only ever added.** -/
theorem exec_events (rep : Represents db L) (nowMillis : ℕ) (call : StoreCall) :
    Events db call (db.exec nowMillis call).2 := by
  cases call with
  | accept record =>
    cases found : db.findIntake record.ingestionKey with
    | none =>
      obtain ⟨failure, fails, -⟩ | ⟨claim, db', accepts, -, events⟩ :=
        accept_unknown nowMillis rep found
      · rw [exec, fails]; exact .refused rfl
      · rw [exec, accepts]; exact events
    | some row => exact .refused (accept_found found).1
  | savePending event id destinationId request => exact savePending_events rep event id destinationId request
  | save | findById | claimPending | renewClaim | recordAttempt | completeClaim | releaseClaim | retryDeadLetter
  | repairDeadLetter | terminateDeadLetter => exact .kept rfl (exec_quiet db nowMillis rfl).relayEvents

theorem resume_events (rep : Represents db L) (nowMillis : ℕ) (call : StoreCall) :
    Events db call (db.resume nowMillis call).2 := by
  cases call with
  | retryDeadLetter | repairDeadLetter | terminateDeadLetter => exact .kept rfl (resume_quiet db nowMillis rfl).relayEvents
  | save | findById | accept | savePending | claimPending | renewClaim | recordAttempt | completeClaim
  | releaseClaim => exact exec_events rep nowMillis _

section Keeps

variable {key : IngestionKey} {fingerprint : RequestFingerprint} {fields : IntakeDecisionFields} {L' : Ledger}
  {answer : Answer}

/-- The decision after a call: a successful repair of its delivery replaces the route. -/
def rerouted (call : StoreCall) (answer : Answer) (fields : IntakeDecisionFields) : IntakeDecisionFields :=
  { fields with route := (call.repairs fields.delivery.id answer).getD fields.route }

/-- **No call but a repair changes what is kept of an acceptance**, and a repair only its route. -/
theorem Kept.keeps (kept : Kept db key fingerprint fields) (rep : Represents db L) (rep' : Represents db' L')
    (served : Served nowMillis L call answer L') (events : Events db call db')
    (unsaved : ∀ delivery, call ≠ .save delivery) : Kept db' key fingerprint (rerouted call answer fields) := by
  obtain ⟨e, held, event, destination, route⟩ := kept.delivery
  have sole := kept.sole
  rw [rep.view] at held sole
  obtain ⟨e', after, same, routed⟩ := served.rerouted held
  have own : (rerouted call answer fields).route.destinationId = fields.route.destinationId ∧
      e'.route = some (rerouted call answer fields).route := by
    unfold rerouted
    obtain ⟨keptRoute, none⟩ | ⟨route', new, repaired, own⟩ := routed
    · rw [none]
      exact ⟨rfl, keptRoute.trans route⟩
    · rw [repaired]
      exact ⟨own.symm.trans destination, new⟩
  refine ⟨events.findIntake kept.event, ?_, ?_, ?_⟩
  · rw [own.1]
    exact kept.shape
  · rw [rep'.view]
    exact ⟨e', after, same.eventId.trans event, by rw [same.destinationId, destination, own.1], own.2⟩
  · rw [rep'.view]
    intro id e₁ held₁ (theirs : e₁.delivery.eventId = fields.event.id)
    have effect := served.effect id
    rw [held₁] at effect
    cases before : L id with
    | some e₀ =>
      rw [before] at effect
      obtain ⟨e₂, is, same⟩ := effect.identical
      cases is
      exact sole id e₀ before (same.eventId.symm.trans theirs)
    | none =>
      -- a delivery that was not there came with an event that was not there
      rw [before] at effect
      exfalso
      obtain ⟨delivery, saved⟩ | brought := effect.created
      · exact unsaved delivery saved
      · rw [theirs] at brought
        cases events with
        | kept quiet => rw [quiet] at brought; cases brought
        | refused nothing =>
          subst nothing
          rw [← rep'.view, rep.view, before] at held₁
          cases held₁
        | added event' intake brings keyed new rows =>
          rw [brings, Option.map_some, Option.some.injEq] at brought
          have stored : db.relayEvents.find fields.event.id = some _ :=
            Keyed.find_of_mem (mem_of_findIntake kept.event).1
          rw [brought, stored] at new
          cases new

end Keeps

end Database

end Postgres

end Relay
