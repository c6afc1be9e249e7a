import Relay.Domain.Responses
import Relay.Store.Machine

/-!
# Integers of bounded width

`Schema.Int` takes the safe integers, an `integer` column 32 bits and a `bigint`
column 64. The adapters as modelled so far compute with integers of any size; `serve`
is a call served within these bounds. What overflows a column aborts its statement, and
a lease end past the safe integers fails the schema of the claim that carries it.
-/

namespace Relay

/-- The largest value of an `integer` column. -/
def maxIntegerColumn : ℕ := 2 ^ 31 - 1

/-- The largest value of a `bigint` column. -/
def maxBigintColumn : ℕ := 2 ^ 63 - 1

/-! ## Leases -/

def StoreCall.lease : StoreCall → Option Number
  | .accept record => some record.claim.leaseDurationMillis
  | .savePending _ _ _ request => some request.leaseDurationMillis
  | .claimPending _ _ _ lease | .renewClaim _ _ lease => some lease
  | .save _ | .findById _ | .recordAttempt _ | .completeClaim .. | .releaseClaim .. | .retryDeadLetter _
  | .repairDeadLetter .. | .terminateDeadLetter _ => none

def StoreCall.mapLease (f : Number → Number) : StoreCall → StoreCall
  | .accept record =>
    .accept { record with claim := ⟨record.claim.ownerId, f record.claim.leaseDurationMillis⟩ }
  | .savePending event id destinationId request =>
    .savePending event id destinationId ⟨request.ownerId, f request.leaseDurationMillis⟩
  | .claimPending ownerId destinationId limit lease => .claimPending ownerId destinationId limit (f lease)
  | .renewClaim id claim lease => .renewClaim id claim (f lease)
  | call => call

@[simp] theorem StoreCall.lease_mapLease (f : Number → Number) (call : StoreCall) :
    (call.mapLease f).lease = call.lease.map f := by
  cases call <;> rfl

/-- A call without a lease is left alone. -/
theorem StoreCall.mapLease_eq (f : Number → Number) {call : StoreCall} (leaseless : call.lease = none) :
    call.mapLease f = call := by
  cases call with
  | accept | savePending | claimPending | renewClaim => cases leaseless
  | _ => rfl

/-- The end of a lease that starts now, as `DeliveryClaim` takes it. -/
def leaseEnd (nowMillis : ℕ) (lease : Number) : Option ℕ :=
  (wholeMillis (nowMillis + lease)).filter (· ≤ maxSafeInteger)

/-- The lease, or one that `DeliveryClaim.make` refuses alike: half a millisecond is no integer either. -/
def checkedLease (nowMillis : ℕ) (lease : Number) : Number :=
  if nowMillis + lease ≤ maxSafeInteger then lease else 1 / 2

theorem den_add_natCast (n : ℕ) (x : Number) : ((n : Number) + x).den = x.den := by
  rw [add_comm]
  exact Rat.add_natCast_den x n

theorem wholeMillis_eq_some {x : Number} {n : ℕ} : wholeMillis x = some n ↔ x = (n : Number) := by
  constructor
  · intro whole
    unfold wholeMillis at whole
    split at whole
    · next integer =>
      have value : (x.num.toNat : ℤ) = x.num := Int.toNat_of_nonneg integer.2
      cases whole
      rw [← Rat.coe_int_num_of_den_eq_one integer.1, ← value]
      rfl
    · cases whole
  · rintro rfl
    exact wholeMillis_natCast n

/-- A half never completes a whole instant. -/
theorem wholeMillis_half (nowMillis : ℕ) : wholeMillis (nowMillis + 1 / 2) = none := by
  unfold wholeMillis
  rw [if_neg]
  rintro ⟨whole, -⟩
  rw [den_add_natCast] at whole
  revert whole
  decide +kernel

theorem wholeMillis_checkedLease (nowMillis : ℕ) (lease : Number) :
    wholeMillis (nowMillis + checkedLease nowMillis lease) = leaseEnd nowMillis lease := by
  unfold checkedLease leaseEnd
  split
  · next safe =>
    cases whole : wholeMillis (nowMillis + lease) with
    | none => rfl
    | some expires =>
      rw [wholeMillis_eq_some.1 whole] at safe
      have bound : expires ≤ maxSafeInteger := by exact_mod_cast safe
      rw [Option.filter_some, if_pos (decide_eq_true bound)]
  · next beyond =>
    rw [wholeMillis_half]
    cases whole : wholeMillis (nowMillis + lease) with
    | none => rfl
    | some expires =>
      rw [wholeMillis_eq_some.1 whole] at beyond
      have bound : ¬ expires ≤ maxSafeInteger := by exact_mod_cast beyond
      rw [Option.filter_some, if_neg (by simpa using bound)]

/-- A positive whole number is one of the integers the request schemas take. -/
theorem exists_positive {x : Number} (positive : 0 < x) (whole : x.den = 1) : ∃ p : ℕ+, x = ((p : ℕ) : Number) := by
  have num : 0 < x.num := Rat.num_pos.2 positive
  have value : (x.num.toNat : ℤ) = x.num := Int.toNat_of_nonneg num.le
  refine ⟨⟨x.num.toNat, by omega⟩, ?_⟩
  rw [PNat.mk_coe, ← Rat.coe_int_num_of_den_eq_one whole, ← value]
  rfl

/-- **A positive lease has an end** when it is whole and its end is a safe integer. -/
theorem leaseEnd_ne_none {nowMillis : ℕ} {lease : Number} (positive : 0 < lease) :
    leaseEnd nowMillis lease ≠ none ↔ lease.den = 1 ∧ nowMillis + lease ≤ maxSafeInteger := by
  constructor
  · intro ends
    cases whole : wholeMillis (nowMillis + lease) with
    | none => rw [leaseEnd, whole] at ends; exact absurd rfl ends
    | some expires =>
      have value := wholeMillis_eq_some.1 whole
      rw [leaseEnd, whole] at ends
      have bound : expires ≤ maxSafeInteger := by
        by_contra beyond
        exact ends (by simpa using beyond)
      refine ⟨?_, ?_⟩
      · rw [← den_add_natCast nowMillis lease, value]
        exact Rat.den_natCast expires
      · rw [value]
        exact_mod_cast bound
  · rintro ⟨den, safe⟩
    obtain ⟨p, rfl⟩ := exists_positive positive den
    have ends := wholeMillis_add (n := nowMillis) (positiveInteger_natCast p)
    rw [wholeMillis_eq_some.1 ends] at safe
    have bound : nowMillis + (p : ℕ) ≤ maxSafeInteger := by exact_mod_cast safe
    rw [leaseEnd, ends]
    simp [bound]

/-! ## The memory adapter -/

namespace MemoryStore

def serve (nowMillis : ℕ) (s : MemoryStore) (call : StoreCall) : Reply × MemoryStore :=
  s.exec nowMillis (call.mapLease (checkedLease nowMillis))

theorem serve_eq (s : MemoryStore) (nowMillis : ℕ) {call : StoreCall} (leaseless : call.lease = none) :
    s.serve nowMillis call = s.exec nowMillis call := by
  rw [serve, StoreCall.mapLease_eq _ leaseless]

section Claims

variable {s : MemoryStore} {nowMillis : ℕ} (ownerId : WorkerId) (destinationId : DestinationId) (limit : Number) {lease : Number}

/-- Every claim of a batch ends at the same instant, so when it has none the first delivery to be claimed throws. -/
theorem claimPendingLoop_throws (endless : wholeMillis (nowMillis + lease) = none) (deliveries : List Delivery) :
    ∀ (claimed : List ClaimedDelivery) (s : MemoryStore),
      claimPendingLoop nowMillis ownerId destinationId limit lease deliveries claimed s = (.ok (.claimed claimed), s) ∨
      claimPendingLoop nowMillis ownerId destinationId limit lease deliveries claimed s = (.error .defect, s) := by
  induction deliveries with
  | nil => exact fun claimed s => .inl rfl
  | cons delivery rest ih =>
    intro claimed s
    rw [claimPendingLoop]
    split
    · exact ih claimed s
    · split
      · exact ih claimed s
      · simp only [DeliveryClaim.make, endless, Option.map_none]
        exact .inr trivial

theorem serve_claimPending (safe : nowMillis + lease ≤ maxSafeInteger) :
    s.serve nowMillis (.claimPending ownerId destinationId limit lease) =
      s.exec nowMillis (.claimPending ownerId destinationId limit lease) := by
  rw [serve, StoreCall.mapLease, checkedLease, if_pos safe]

/-- Leases past the safe integers are not granted. -/
theorem serve_claimPending_beyond (beyond : ¬ nowMillis + lease ≤ maxSafeInteger) :
    s.serve nowMillis (.claimPending ownerId destinationId limit lease) = (.ok (.claimed []), s) ∨
      s.serve nowMillis (.claimPending ownerId destinationId limit lease) = (.error .defect, s) := by
  rw [serve, StoreCall.mapLease, checkedLease, if_neg beyond]
  exact claimPendingLoop_throws ownerId destinationId limit (wholeMillis_half nowMillis) s.records.values [] s

end Claims

section Renewals

variable {s : MemoryStore} {nowMillis : ℕ} {id : DeliveryId} {claim : DeliveryClaim} {lease : Number}

theorem serve_renewClaim (safe : nowMillis + lease ≤ maxSafeInteger) :
    s.serve nowMillis (.renewClaim id claim lease) = s.exec nowMillis (.renewClaim id claim lease) := by
  rw [serve, StoreCall.mapLease, checkedLease, if_pos safe]

/-- A renewal past the safe integers looks at its claim before it throws. -/
theorem serve_renewClaim_beyond (beyond : ¬ nowMillis + lease ≤ maxSafeInteger) :
    s.serve nowMillis (.renewClaim id claim lease) =
      (.error (if s.owns id claim.ownerId claim.generation (some nowMillis) then .defect else lost .renew id claim), s) := by
  rw [serve, StoreCall.mapLease, checkedLease, if_neg beyond]
  show s.renewClaim nowMillis id claim (1 / 2) = _
  unfold renewClaim
  rw [DeliveryClaim.make, wholeMillis_half]
  cases s.owns id claim.ownerId claim.generation (some nowMillis) <;> rfl

/-- A renewal that is served returns the claim with its new end. -/
theorem renewClaim_reply {p : ℕ+} (whole : positiveInteger lease = some p) :
    (s.exec nowMillis (.renewClaim id claim lease)).1 =
      if s.owns id claim.ownerId claim.generation (some nowMillis) then
        .ok (.renewed { claim with leaseExpiresAtMillis := nowMillis + p })
      else .error (lost .renew id claim) := by
  show (s.renewClaim nowMillis id claim lease).1 = _
  unfold renewClaim
  rw [DeliveryClaim.make, wholeMillis_add whole]
  cases s.owns id claim.ownerId claim.generation (some nowMillis) <;> rfl

end Renewals

end MemoryStore

/-! ## The SQL adapter -/

/-- The ends of the leases a reply reads back. -/
def StoreValue.ends : StoreValue → List ℕ
  | .decided (.accepted _ claim) | .renewed claim => [claim.leaseExpiresAtMillis]
  | .claimed deliveries => deliveries.map fun c => c.claim.leaseExpiresAtMillis
  | .done | .found _ | .decided (.replay _) => []

namespace Postgres

namespace Database

/-- A statement that writes leases: an end past its column aborts it, one past the safe integers is written and fails
to decode, inside the transaction of an intake and after that of a claim. -/
def readBack (fail : Cause → Failure) (transaction : Bool) (db : Database) : Reply × Database → Reply × Database
  | (.error failure, db') => (.error failure, db')
  | (.ok value, db') =>
    if value.ends.any (maxBigintColumn < ·) then (.error (fail (.sqlError .invalidInput)), db)
    else if value.ends.any (maxSafeInteger < ·) then (.error (fail .schemaError), if transaction then db else db')
    else (.ok value, db')

/-- The integers an intake binds fit their columns. -/
def fits (nowMillis : ℕ) (request : ClaimRequest) (route : Option DeliveryRouteSnapshot) : Bool :=
  nowMillis + request.leaseDurationMillis ≤ maxBigintColumn &&
    route.all fun route => (route.configurationVersion : ℕ) ≤ maxIntegerColumn

def serve (nowMillis : ℕ) (db : Database) : StoreCall → Reply × Database
  | .accept record =>
    let event := eventRow record.event
      (some (record.ingestionKey, record.requestFingerprint, record.acceptedAtMillis))
    -- the delivery is inserted after the event, when the key is new
    let inserts := (db.findIntake record.ingestionKey).isNone && (db.relayEvents.insert "relay_events_pkey" event).isOk
    if inserts && !fits nowMillis record.claim (some record.route) then
      (.error (.relayIntakeStore .accept (.sqlError .invalidInput)), db)
    else readBack (.relayIntakeStore .accept) true db (db.accept nowMillis record)
  | .savePending event id destinationId request =>
    let inserts := (db.relayEvents.insert "relay_events_pkey" (eventRow event none)).isOk
    if inserts && !fits nowMillis request none then
      (.error (.relayIntakeStore .savePending (.sqlError .invalidInput)), db)
    else readBack (.relayIntakeStore .savePending) true db (db.savePending nowMillis event id destinationId request)
  | .claimPending ownerId destinationId limit lease =>
    if limit ≤ maxSafeInteger ∧ lease ≤ maxSafeInteger then
      readBack (.deliveryRepository .claimPending) false db
        (db.claimPending nowMillis ownerId destinationId limit lease)
    else (.error (.deliveryRepository .claimPending .schemaError), db)
  | .renewClaim id claim lease =>
    if lease ≤ maxSafeInteger then
      readBack (.deliveryRepository .renewClaim) false db (db.renewClaim nowMillis id claim lease)
    else (.error (.deliveryRepository .renewClaim .schemaError), db)
  | call => db.exec nowMillis call

/-- A resumed call is the second statement of an operator action, and hands over no lease. -/
def serveStatement (nowMillis : ℕ) (db : Database) (c : Statement) : Reply × Database :=
  if c.resumed ∧ c.call.lease = none then db.resume nowMillis c.call else db.serve nowMillis c.call

theorem serve_eq (db : Database) (nowMillis : ℕ) {call : StoreCall} (leaseless : call.lease = none) :
    db.serve nowMillis call = db.exec nowMillis call := by
  cases call with
  | accept | savePending | claimPending | renewClaim => cases leaseless
  | _ => rfl

/-- A claim is refused within the bounds too. -/
theorem serve_claimPending (db : Database) (nowMillis : ℕ) (ownerId : WorkerId) (destinationId : DestinationId)
    (limit lease : Number) : ∃ cause, db.serve nowMillis (.claimPending ownerId destinationId limit lease) =
      (.error (.deliveryRepository .claimPending cause), db) := by
  obtain ⟨cause, refused⟩ := db.claimPending_eq nowMillis ownerId destinationId limit lease
  rw [serve, refused]
  split
  · exact ⟨cause, rfl⟩
  · exact ⟨_, rfl⟩

/-- Leases that end at safe integers are read back as they were written. -/
theorem readBack_eq {fail : Cause → Failure} {transaction : Bool} {db : Database} {r : Reply × Database}
    (safe : ∀ value, r.1 = .ok value → ∀ expires ∈ value.ends, expires ≤ maxSafeInteger) :
    readBack fail transaction db r = r := by
  obtain ⟨reply, db'⟩ := r
  unfold readBack
  cases reply with
  | error failure => rfl
  | ok value =>
    have wide : maxSafeInteger ≤ maxBigintColumn := by decide
    have fits := safe value rfl
    have inColumn : value.ends.any (maxBigintColumn < ·) = false := by
      rw [List.any_eq_false]
      intro expires member
      have bound := fits expires member
      simp only [decide_eq_true_eq]
      omega
    have inSchema : value.ends.any (maxSafeInteger < ·) = false := by
      rw [List.any_eq_false]
      intro expires member
      have bound := fits expires member
      simp only [decide_eq_true_eq]
      omega
    simp only [inColumn, inSchema, Bool.false_eq_true, if_false]

/-- A lease that ends past them is not. -/
theorem readBack_beyond {fail : Cause → Failure} {transaction : Bool} {db : Database} {r : Reply × Database} {value : StoreValue}
    (answered : r.1 = .ok value) {expires : ℕ} (member : expires ∈ value.ends) (beyond : maxSafeInteger < expires) :
    ∃ cause, (readBack fail transaction db r).1 = .error (fail cause) := by
  obtain ⟨reply, db'⟩ := r
  cases answered
  have past : value.ends.any (maxSafeInteger < ·) = true := List.any_eq_true.2 ⟨expires, member, decide_eq_true beyond⟩
  unfold readBack
  simp only [past, if_true]
  split
  · exact ⟨_, rfl⟩
  · exact ⟨_, rfl⟩

theorem readBack_store (fail : Cause → Failure) (transaction : Bool) (db : Database) (r : Reply × Database) :
    (readBack fail transaction db r).2 = db ∨ (readBack fail transaction db r).2 = r.2 := by
  obtain ⟨reply, db'⟩ := r
  unfold readBack
  cases reply with
  | error failure => exact .inr rfl
  | ok value =>
    simp only
    split
    · exact .inl rfl
    · split
      · cases transaction with
        | true => exact .inl rfl
        | false => exact .inr rfl
      · exact .inr rfl

/-- A call served within the bounds leaves the tables as they were, or as the call leaves them without bounds. -/
theorem serve_store (db : Database) (nowMillis : ℕ) (call : StoreCall) :
    (db.serve nowMillis call).2 = db ∨ (db.serve nowMillis call).2 = (db.exec nowMillis call).2 := by
  cases call with
  | accept record =>
    rw [serve]
    split
    · exact .inl rfl
    · exact readBack_store _ _ _ _
  | savePending event id destinationId request =>
    rw [serve]
    split
    · exact .inl rfl
    · exact readBack_store _ _ _ _
  | claimPending ownerId destinationId limit lease =>
    rw [serve]
    split
    · exact readBack_store _ _ _ _
    · exact .inl rfl
  | renewClaim id claim lease =>
    rw [serve]
    split
    · exact readBack_store _ _ _ _
    · exact .inl rfl
  | _ => exact .inr rfl

theorem serveStatement_store (db : Database) (nowMillis : ℕ) (c : Statement) :
    (db.serveStatement nowMillis c).2 = db ∨
      ∃ c', (db.serveStatement nowMillis c).2 = (postgres.exec nowMillis db c').2 := by
  unfold serveStatement
  split
  · next operator => exact .inr ⟨c, by rw [show postgres.exec nowMillis db c = _ from if_pos operator.1]⟩
  · obtain same | served := serve_store db nowMillis c.call
    · exact .inl same
    · exact .inr ⟨⟨c.call, false⟩, served⟩

end Database

end Postgres

end Relay
