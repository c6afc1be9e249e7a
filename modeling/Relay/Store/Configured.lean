import Relay.Adapters.PostgresChecks
import Relay.Store.Atomicity

/-!
# Configured values in the stores

The configuration checks its durations and its version by rules of its own. What the
stores require of the same values stands elsewhere: a claim ends at a safe integer, a
request asks for a positive integer, a column has its width. A call is malformed when
it fails one of these, and not because of what the store holds.
-/

namespace Relay

/-! ## The machines -/

/-- The adapters within the bounds. -/
def Adapter.limited : Adapter → IntakeMachine
  | .memory => { memoryIntake with exec := MemoryStore.serve }
  | .postgres => { postgresIntake with exec := Postgres.Database.serveStatement }

theorem Adapter.limited_sound (adapter : Adapter) {s : adapter.limited.Store} (nowMillis : ℕ) (c : adapter.limited.Call)
    (sound : adapter.limited.Sound s) : adapter.limited.Sound (adapter.limited.exec nowMillis s c).2 := by
  cases adapter with
  | memory => exact memory_lawful.sound nowMillis (StoreCall.mapLease (checkedLease nowMillis) c) sound
  | postgres =>
    obtain same | ⟨c', served⟩ := Postgres.Database.serveStatement_store s nowMillis c
    · show Postgres.Database.Sound (Postgres.Database.serveStatement nowMillis s c).2
      rw [same]
      exact sound
    · show Postgres.Database.Sound (Postgres.Database.serveStatement nowMillis s c).2
      rw [served]
      exact postgres_lawful.sound nowMillis c' sound

theorem Adapter.limited_sound_of_reachable (adapter : Adapter) {s : adapter.limited.Store}
    (reachable : adapter.limited.anyCalls.Reachable s) : adapter.limited.Sound s := by
  refine reachable.invariant adapter.limited.Sound ?_ ?_
  · cases adapter with
    | memory => exact memory_lawful.sound_empty
    | postgres => exact postgres_lawful.sound_empty
  · intro s l s' sound run
    have sound' := adapter.limited_sound l.nowMillis l.call sound
    rw [show adapter.limited.exec l.nowMillis s l.call = (l.reply, s') from run] at sound'
    exact sound'

/-! ## Malformed calls -/

/-- A value does not pass its schema, or its column does not take it. -/
def Cause.malformed : Cause → Bool
  | .schemaError | .sqlError .invalidInput => true
  | .sqlError (.check _) | .sqlError (.unique _) | .sqlError (.foreignKey _) | .sqlError (.unresolved _) | .message _ => false

def Failure.malformed : Failure → Bool
  | .defect => true
  | .deliveryRepository _ cause | .relayIntakeStore _ cause => cause.malformed
  | .claimLost .. | .deadLetterRecovery .. | .deadLetterDestinationMismatch .. | .ingestionConflict .. => false

/-- The reply is no malformed failure, and what it hands out ends when it should. -/
def Reply.Fine (expires : ℕ) : Reply → Prop
  | .ok value => ∀ lease ∈ value.ends, lease = expires
  | .error failure => failure.malformed = false

theorem Reply.Fine.failure {expires : ℕ} {reply : Reply} (fine : reply.Fine expires) {failure : Failure}
    (failed : reply = .error failure) : failure.malformed = false := by
  subst failed
  exact fine

theorem Reply.fine_of_lost {expires : ℕ} {reply : Reply} (lost : reply.answer = .error .claimLostError) :
    reply.Fine expires := by
  cases reply with
  | ok value => cases lost
  | error failure =>
    cases failure with
    | claimLost => rfl
    | _ => cases lost

namespace AppConfiguration

/-- The call carries the values of the configuration. -/
def Hands (configuration : AppConfiguration) : StoreCall → Prop
  | .accept record => record.claim.leaseDurationMillis = configuration.recovery.claimLeaseDuration.millis ∧
      record.route.configurationVersion = configuration.destinationConfigurationVersion
  | .savePending _ _ _ request => request.leaseDurationMillis = configuration.recovery.claimLeaseDuration.millis
  | .claimPending _ _ limit lease => limit = ((configuration.recovery.claimBatchSize.value : ℕ) : Number) ∧
      lease = configuration.recovery.claimLeaseDuration.millis
  | .renewClaim _ _ lease => lease = configuration.recovery.claimLeaseDuration.millis
  | .save _ | .findById _ | .recordAttempt _ | .completeClaim .. | .releaseClaim .. | .retryDeadLetter _
  | .repairDeadLetter .. | .terminateDeadLetter _ => False

theorem Hands.leased {configuration : AppConfiguration} {call : StoreCall} (hands : configuration.Hands call) :
    call.lease = some configuration.recovery.claimLeaseDuration.millis := by
  cases call with
  | accept record => exact congrArg some hands.1
  | savePending event id destinationId request => exact congrArg some hands
  | claimPending ownerId destinationId limit lease => exact congrArg some hands.2
  | renewClaim id claim lease => exact congrArg some hands
  | _ => exact hands.elim

/-- The call uses them: an `accept` that finds its key replays and claims nothing. -/
def Uses (adapter : Adapter) (s : adapter.limited.Store) (call : StoreCall) : Prop :=
  ∀ record, call = .accept record → adapter.limited.Unknown s record.ingestionKey

/-- No call that uses the configured values is malformed, in any state of either adapter. -/
def Usable (configuration : AppConfiguration) (nowMillis : ℕ) : Prop :=
  ∀ (adapter : Adapter) (s : adapter.limited.Store) (c : adapter.limited.Call), adapter.limited.anyCalls.Reachable s →
    configuration.Hands (adapter.limited.call c) → Uses adapter s (adapter.limited.call c) →
    ∀ failure, (adapter.limited.exec nowMillis s c).1 = .error failure → failure.malformed = false

end AppConfiguration

/-! ## The memory adapter -/

namespace MemoryStore

variable {s : MemoryStore} {nowMillis expires : ℕ}

theorem accept_throws {record : IntakeRecord} (unknown : s.intakes.get record.ingestionKey = none)
    (endless : wholeMillis (nowMillis + record.claim.leaseDurationMillis) = none) :
    s.accept nowMillis record = (.error .defect, s) := by
  unfold accept
  rw [unknown]
  simp only [DeliveryClaim.make, endless, Option.map_none]

/-- Only a lease without an end makes a call throw. -/
theorem exec_fine {call : StoreCall} {lease : Number} (leased : call.lease = some lease)
    (ends : wholeMillis (nowMillis + lease) = some expires) {failure : Failure}
    (failed : (s.exec nowMillis call).1 = .error failure) : failure.malformed = false := by
  cases call with
  | accept record =>
    cases leased
    rw [exec, accept] at failed
    split at failed
    · split at failed
      · cases failed; rfl
      · cases failed
    · simp only [DeliveryClaim.make, ends, Option.map_some] at failed
      cases failed
  | savePending event id destinationId request =>
    cases leased
    rw [exec, savePending] at failed
    simp only [DeliveryClaim.make, ends, Option.map_some] at failed
    cases failed
  | claimPending ownerId destinationId limit lease' =>
    cases leased
    obtain ⟨all, s', run⟩ := claimPendingLoop_completes ownerId destinationId limit ends s.records.values [] s
    rw [exec, claimPending, run] at failed
    cases failed
  | renewClaim id claim lease' =>
    cases leased
    rw [exec, renewClaim] at failed
    split at failed
    · cases failed; rfl
    · simp only [DeliveryClaim.make, ends, Option.map_some] at failed
      cases failed
  | _ => cases leased

end MemoryStore

/-! ## The SQL adapter -/

namespace Postgres

open Sql

theorem malformed_constraint {error : Error} (constraint : error ≠ .invalidInput) : (Cause.sqlError error).malformed = false := by
  cases error with
  | invalidInput => exact absurd rfl constraint
  | check | unique | foreignKey | unresolved => rfl

namespace Database

variable {db : Database} {L : Ledger} {nowMillis expires : ℕ}

theorem insertDelivery_error {r : DeliveriesRow} {error : Error} (failed : db.insertDelivery r = .error error) :
    error ≠ .invalidInput := by
  unfold insertDelivery at failed
  cases run : db.deliveries.insert "deliveries_pkey" r with
  | error error' =>
    rw [run] at failed
    cases failed
    exact Table.insert_error run
  | ok deliveries =>
    rw [run] at failed
    simp only [bind, Except.bind] at failed
    split at failed
    · cases failed
      rintro ⟨⟩
    · cases failed

/-- A positive whole lease: the delivery is inserted under a claim that ends with it, or a constraint stands against it. -/
theorem insertClaimed_fine (operation : IntakeOperation) {delivery : Delivery} (route : Option DeliveryRouteSnapshot)
    {claim : ClaimRequest} {lease : ℕ+} (whole : positiveInteger claim.leaseDurationMillis = some lease)
    (pending : delivery.state = .pending) :
    (∃ failure, insertClaimed nowMillis db operation delivery route claim = .error failure ∧ failure.malformed = false) ∨
      ∃ db', insertClaimed nowMillis db operation delivery route claim =
        .ok (⟨claim.ownerId, 1, nowMillis + lease⟩, db') := by
  obtain ⟨error, run, aborts⟩ | inserted :=
    @insertClaimed_whole db nowMillis operation delivery route claim lease whole pending
  · exact .inl ⟨_, aborts, malformed_constraint (insertDelivery_error run)⟩
  · exact .inr inserted

theorem accept_fine {record : IntakeRecord} {lease : ℕ+}
    (whole : positiveInteger record.claim.leaseDurationMillis = some lease)
    (unknown : db.findIntake record.ingestionKey = none) : (db.accept nowMillis record).1.Fine (nowMillis + lease) := by
  unfold accept
  rw [unknown]
  simp only
  cases run : db.relayEvents.insert "relay_events_pkey" (eventRow record.event
      (some (record.ingestionKey, record.requestFingerprint, record.acceptedAtMillis))) with
  | error error => exact malformed_constraint (Table.insert_error run)
  | ok relayEvents =>
    simp only
    obtain ⟨failure, failed, fine⟩ | ⟨db', inserted⟩ := @insertClaimed_fine { db with relayEvents } nowMillis .accept
      ⟨record.deliveryId, record.event.id, record.route.destinationId, .pending⟩ (some record.route) record.claim lease whole rfl
    · rw [failed]
      exact fine
    · rw [inserted]
      intro ends member
      exact List.mem_singleton.1 member

theorem savePending_fine {event : RelayEvent} {id : DeliveryId} {destinationId : DestinationId} {request : ClaimRequest}
    {lease : ℕ+} (whole : positiveInteger request.leaseDurationMillis = some lease) :
    (db.savePending nowMillis event id destinationId request).1.Fine (nowMillis + lease) := by
  unfold savePending
  simp only
  cases run : db.relayEvents.insert "relay_events_pkey" (eventRow event none) with
  | error error => exact malformed_constraint (Table.insert_error run)
  | ok relayEvents =>
    simp only
    obtain ⟨failure, failed, fine⟩ | ⟨db', inserted⟩ := @insertClaimed_fine { db with relayEvents } nowMillis .savePending
      ⟨id, event.id, destinationId, .pending⟩ none request lease whole rfl
    · rw [failed]
      exact fine
    · rw [inserted]
      intro ends member
      exact List.mem_singleton.1 member

/-- The refused claim carries no malformed value. -/
theorem claimPending_fine (ownerId : WorkerId) (destinationId : DestinationId) {limit lease : Number} {limit' p : ℕ+}
    (counted : positiveInteger limit = some limit') (whole : positiveInteger lease = some p) :
    (db.claimPending nowMillis ownerId destinationId limit lease).1.Fine (nowMillis + p) := by
  rw [db.claimPending_refused nowMillis ownerId destinationId counted whole]
  rfl

theorem renewClaim_fine (rep : Represents db L) (id : DeliveryId) (claim : DeliveryClaim) {lease : Number} {p : ℕ+}
    (whole : positiveInteger lease = some p) : (db.renewClaim nowMillis id claim lease).1.Fine (nowMillis + p) := by
  have serves : Serves L id (Entry.renewClaim nowMillis claim (nowMillis + p)) (db.renewClaim nowMillis id claim lease) :=
    renewClaim_serves rep claim whole
  have answer := serves.answer
  unfold Entry.renewClaim Entry.fenced at answer
  split at answer
  · exact Reply.fine_of_lost answer
  · split at answer
    · rw [Reply.answer_eq_ok answer]
      intro ends member
      exact List.mem_singleton.1 member
    · exact Reply.fine_of_lost answer

/-! ### Within the bounds -/

/-- What ends at a safe integer is read back as it was written. -/
theorem readBack_fine {fail : Cause → Failure} {transaction : Bool} {r : Reply × Database} (fine : r.1.Fine expires)
    (safe : expires ≤ maxSafeInteger) : (readBack fail transaction db r).1 = r.1 := by
  obtain ⟨reply, db'⟩ := r
  unfold readBack
  cases reply with
  | error failure => rfl
  | ok value =>
    have bound : ∀ limit, maxSafeInteger ≤ limit → value.ends.any (limit < ·) = false := by
      intro limit wide
      rw [List.any_eq_false]
      intro lease member
      have same := fine lease member
      simp only [decide_eq_true_eq]
      omega
    simp only
    rw [if_neg (by rw [bound _ (by decide)]; exact Bool.false_ne_true),
      if_neg (by rw [bound _ le_rfl]; exact Bool.false_ne_true)]

theorem fits_of_safe {request : ClaimRequest} {p : ℕ+} (lease : request.leaseDurationMillis = ((p : ℕ) : Number))
    (safe : nowMillis + (p : ℕ) ≤ maxSafeInteger) {route : Option DeliveryRouteSnapshot}
    (version : ∀ r, route = some r → (r.configurationVersion : ℕ) ≤ maxIntegerColumn) :
    fits nowMillis request route = true := by
  have wide : maxSafeInteger ≤ maxBigintColumn := by decide
  have room : (nowMillis : Number) + request.leaseDurationMillis ≤ maxBigintColumn := by
    rw [lease]
    exact_mod_cast safe.trans wide
  unfold fits
  rw [decide_eq_true room, Bool.true_and]
  cases route with
  | none => rfl
  | some r => simpa using version r rfl

/-- A call that hands over the configured values is served as if there were no bounds. -/
theorem serve_fine (rep : Represents db L) {configuration : AppConfiguration} {call : StoreCall} {p : ℕ+}
    (hands : configuration.Hands call) (lease : configuration.recovery.claimLeaseDuration.millis = ((p : ℕ) : Number))
    (safe : nowMillis + (p : ℕ) ≤ maxSafeInteger)
    (version : (configuration.destinationConfigurationVersion : ℕ) ≤ maxIntegerColumn)
    (uses : ∀ record, call = .accept record → db.findIntake record.ingestionKey = none) :
    (db.serve nowMillis call).1.Fine (nowMillis + p) := by
  have short : ((p : ℕ) : Number) ≤ (maxSafeInteger : Number) := by
    have bound : (p : ℕ) ≤ maxSafeInteger := by omega
    exact_mod_cast bound
  cases call with
  | accept record =>
    obtain ⟨leased, versioned⟩ := hands
    rw [lease] at leased
    have fine : (db.accept nowMillis record).1.Fine (nowMillis + p) :=
      accept_fine (by rw [leased]; exact positiveInteger_natCast p) (uses record rfl)
    have fit : fits nowMillis record.claim (some record.route) = true := by
      refine fits_of_safe leased safe ?_
      rintro r ⟨⟩
      rw [versioned]
      exact version
    rw [serve, fit, Bool.not_true, Bool.and_false, if_neg Bool.false_ne_true, readBack_fine fine safe]
    exact fine
  | savePending event id destinationId request =>
    have leased : request.leaseDurationMillis = ((p : ℕ) : Number) := hands.trans lease
    have fine : (db.savePending nowMillis event id destinationId request).1.Fine (nowMillis + p) :=
      savePending_fine (by rw [leased]; exact positiveInteger_natCast p)
    rw [serve, fits_of_safe leased safe (by rintro r ⟨⟩), Bool.not_true, Bool.and_false, if_neg Bool.false_ne_true,
      readBack_fine fine safe]
    exact fine
  | claimPending ownerId destinationId limit lease' =>
    obtain ⟨rfl, leased⟩ := hands
    have whole : lease' = ((p : ℕ) : Number) := leased.trans lease
    subst whole
    have fine := @claimPending_fine db nowMillis ownerId destinationId _ _ _ _
      (positiveInteger_natCast configuration.recovery.claimBatchSize.value) (positiveInteger_natCast p)
    have counted : ((configuration.recovery.claimBatchSize.value : ℕ) : Number) ≤ (maxSafeInteger : Number) := by
      exact_mod_cast configuration.recovery.claimBatchSize.safe
    rw [serve, if_pos ⟨counted, short⟩, readBack_fine fine safe]
    exact fine
  | renewClaim id claim lease' =>
    have whole : lease' = ((p : ℕ) : Number) := Eq.trans hands lease
    subst whole
    have fine := @renewClaim_fine db L nowMillis rep id claim _ _ (positiveInteger_natCast p)
    rw [serve, if_pos short, readBack_fine fine safe]
    exact fine
  | _ => exact hands.elim

theorem serveStatement_fine (rep : Represents db L) {configuration : AppConfiguration} {c : Statement} {p : ℕ+}
    (hands : configuration.Hands c.call) (lease : configuration.recovery.claimLeaseDuration.millis = ((p : ℕ) : Number))
    (safe : nowMillis + (p : ℕ) ≤ maxSafeInteger)
    (version : (configuration.destinationConfigurationVersion : ℕ) ≤ maxIntegerColumn)
    (uses : ∀ record, c.call = .accept record → db.findIntake record.ingestionKey = none) :
    (db.serveStatement nowMillis c).1.Fine (nowMillis + p) := by
  have leased : ¬ (c.resumed ∧ c.call.lease = none) := by
    rintro ⟨-, unleased⟩
    rw [hands.leased] at unleased
    cases unleased
  rw [serveStatement, if_neg leased]
  exact serve_fine rep hands lease safe version uses

/-- A version its column does not take fails the first acceptance. -/
theorem serve_wide_version (record : IntakeRecord) (wide : maxIntegerColumn < (record.route.configurationVersion : ℕ)) :
    (Database.empty.serve nowMillis (.accept record)).1 = .error (.relayIntakeStore .accept (.sqlError .invalidInput)) := by
  have inserts : ∃ relayEvents, Database.empty.relayEvents.insert "relay_events_pkey" (eventRow record.event
      (some (record.ingestionKey, record.requestFingerprint, record.acceptedAtMillis))) = .ok relayEvents := by
    obtain ⟨t', run, -⟩ := Table.insert_new (t := Database.empty.relayEvents) (p := "relay_events_pkey")
      (eventRow_intake_checked record.event record.ingestionKey record.requestFingerprint record.acceptedAtMillis) rfl
    exact ⟨t', run⟩
  obtain ⟨relayEvents, run⟩ := inserts
  have unfit : fits nowMillis record.claim (some record.route) = false := by
    unfold fits
    simp [wide]
  rw [serve, run, unfit]
  rfl

end Database

end Postgres

/-! ## Usable configurations -/

namespace AppConfiguration

variable {configuration : AppConfiguration} {nowMillis : ℕ}

/-- The record of a first acceptance under the configuration. -/
def firstRecord (configuration : AppConfiguration) : IntakeRecord where
  ingestionKey := Sample.key
  requestFingerprint := ⟨String.ofList (List.replicate 64 'a'), by decide +kernel⟩
  event := Sample.event
  deliveryId := Sample.delivery
  route := ⟨configuration.destination.id, configuration.destination.endpoint, configuration.destinationConfigurationVersion⟩
  acceptedAtMillis := 0
  claim := (configuration.supervisor Sample.worker).claimRequest

/-- A lease without an end makes the first acceptance of a memory store throw. -/
theorem Usable.ends (usable : configuration.Usable nowMillis) :
    leaseEnd nowMillis configuration.recovery.claimLeaseDuration.millis ≠ none := by
  intro endless
  have throws : wholeMillis (nowMillis + checkedLease nowMillis configuration.recovery.claimLeaseDuration.millis) = none := by
    rw [wholeMillis_checkedLease]
    exact endless
  have fine := usable .memory MemoryStore.empty (.accept configuration.firstRecord) .init ⟨rfl, rfl⟩ (fun _ _ => rfl) .defect
    (congrArg Prod.fst (MemoryStore.accept_throws rfl throws))
  cases fine

theorem Usable.version (usable : configuration.Usable nowMillis) :
    (configuration.destinationConfigurationVersion : ℕ) ≤ maxIntegerColumn := by
  by_contra wide
  have fine := usable .postgres .empty ⟨.accept configuration.firstRecord, false⟩ .init ⟨rfl, rfl⟩ (fun _ _ => rfl) _
    (Postgres.Database.serve_wide_version configuration.firstRecord (not_le.1 wide))
  cases fine

end AppConfiguration

/-- **An accepted configuration is usable** exactly when its lease is a whole number of milliseconds that ends at a safe
integer and its version fits its column; the batch size always does. -/
theorem configuration_usable (environment : Environment) (nowMillis : ℕ) :
    ∀ configuration ∈ appConfigurationLive environment, configuration.Usable nowMillis ↔
      configuration.recovery.claimLeaseDuration.millis.den = 1 ∧
        nowMillis + configuration.recovery.claimLeaseDuration.millis ≤ maxSafeInteger ∧
        (configuration.destinationConfigurationVersion : ℕ) ≤ maxIntegerColumn := by
  intro configuration _
  have positive := configuration.recovery.claimLeaseDuration.positive
  constructor
  · intro usable
    obtain ⟨whole, safe⟩ := (leaseEnd_ne_none positive).1 usable.ends
    exact ⟨whole, safe, usable.version⟩
  · rintro ⟨whole, safe, version⟩ adapter s c reachable hands uses failure failed
    have sound := adapter.limited_sound_of_reachable reachable
    cases adapter with
    | memory =>
      obtain ⟨expires, ends⟩ := Option.ne_none_iff_exists'.1 ((leaseEnd_ne_none positive).2 ⟨whole, safe⟩)
      refine MemoryStore.exec_fine ?_ ((wholeMillis_checkedLease nowMillis _).trans ends) failed
      exact (StoreCall.lease_mapLease (checkedLease nowMillis) c).trans (congrArg _ hands.leased)
    | postgres =>
      obtain ⟨p, lease⟩ := exists_positive positive whole
      have bound : nowMillis + (p : ℕ) ≤ maxSafeInteger := by
        rw [lease] at safe
        exact_mod_cast safe
      obtain ⟨L, rep⟩ := sound
      have fine := Postgres.Database.serveStatement_fine rep hands lease bound version uses
      exact fine.failure failed

/-- A lease of one second. -/
theorem configuration_usable_second : ∃ configuration ∈ appConfigurationLive (Sample.leaseEnvironment 1000),
    configuration.Usable 0 := by
  obtain ⟨configuration, accepted, leaseOf, version⟩ := @accepts_lease 1000 (by norm_num)
  refine ⟨configuration, accepted, (configuration_usable _ 0 configuration accepted).2 ?_⟩
  rw [leaseOf, version]
  exact ⟨by decide +kernel, by decide +kernel, by decide⟩

/-- Half a millisecond is accepted, and the first intake throws. -/
theorem configuration_not_usable : ¬ ∀ (environment : Environment) (nowMillis : ℕ),
    ∀ configuration ∈ appConfigurationLive environment, configuration.Usable nowMillis := by
  intro claim
  obtain ⟨configuration, accepted, leaseOf, -⟩ := @accepts_lease (1 / 2) (by norm_num)
  have ends := (claim _ 0 configuration accepted).ends
  rw [leaseOf] at ends
  exact ends (by decide +kernel)

end Relay
