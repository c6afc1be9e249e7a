import Relay.Adapters.PostgresIntake

/-!
# Claiming in SQL, and the whole SQL store

What is written of a claim takes the candidates, which are the due deliveries;
each claimed row joins its delivery, its event and its attempts, and decodes. The
statement is refused before it takes any. With the calls of the previous modules
every call on tables that represent a ledger is a step of that ledger.
-/

namespace Relay

namespace Postgres

open Sql

namespace Database

variable {db : Database} {L : Ledger} {nowMillis : ℕ}

section Claim

variable {destinationId : DestinationId} (ownerId : WorkerId)

/-- The `WHERE` of the candidates is the condition of the ledger. -/
theorem claimable_rowOf {e : Entry} : (claimable nowMillis destinationId (rowOf e)).holds =
    e.due destinationId nowMillis := by
  cases held : e.claim with
  | none =>
    simp [claimable, rowOf, newRow, Entry.due, held, stateColumns_pending]
  | some claim =>
    simp [claimable, rowOf, newRow, Entry.due, held, stateColumns_pending]

/-- A row that the statement selects is a due delivery's. -/
theorem due_of_selected (rep : Represents db L) {r : DeliveriesRow}
    (selected : r ∈ db.deliveries.select (claimable nowMillis destinationId)) :
    ∃ e, L r.deliveryId = some e ∧ e.due destinationId nowMillis = true := by
  obtain ⟨member, condition⟩ := List.mem_filter.1 selected
  have row := Keyed.find_of_mem member
  rw [rep.rows, Option.map_eq_some_iff] at row
  obtain ⟨e, held, rfl⟩ := row
  rw [claimable_rowOf] at condition
  exact ⟨e, held, condition⟩

variable (nowMillis destinationId) in
theorem due_of_candidate (rep : Represents db L) (limit : ℕ+) {id : DeliveryId}
    (chosen : id ∈ db.candidates nowMillis destinationId limit) :
    ∃ e, L id = some e ∧ e.due destinationId nowMillis = true := by
  have among := List.mem_of_mem_take chosen
  rw [List.mem_insertionSort] at among
  obtain ⟨r, selected, rfl⟩ := List.mem_map.1 among
  exact due_of_selected rep selected

/-- `MAX(ordinal) + 1`, or 1. -/
theorem nextOrdinal_eq (l : List ℕ) :
    (((l.map fun n : ℕ => (n : ℤ)).max?.map (· + 1)).getD 1) = ((l.foldl max 0 + 1 : ℕ) : ℤ) := by
  have cast : ∀ (l : List ℕ) (a : ℕ), (l.map fun n : ℕ => (n : ℤ)).foldl max (a : ℤ) = ((l.foldl max a : ℕ) : ℤ) := by
    intro l
    induction l with
    | nil => intro a; rfl
    | cons b l ih =>
      intro a
      rw [List.map_cons, List.foldl_cons, List.foldl_cons, ← Nat.cast_max, ih]
  cases l with
  | nil => rfl
  | cons a l =>
    rw [List.map_cons, List.max?_cons', Option.map_some, Option.getD_some, cast, List.foldl_cons, Nat.zero_max]
    rfl

theorem claimSet_rowOf {e : Entry} {lease : ℕ+} : claimSet nowMillis ownerId lease (rowOf e) =
    rowOf (e.issue ownerId (nowMillis + lease)) := rfl

theorem issue_valid {e : Entry} {id : DeliveryId} (valid : e.Valid id) (due : e.due destinationId nowMillis = true)
    (expires : ℕ) : (e.issue ownerId expires).Valid id where
  named := valid.named
  fenced := by
    intro claim held
    cases held
    simp only [Entry.due, Bool.and_eq_true, decide_eq_true_eq] at due
    exact ⟨due.1.1.1, rfl⟩
  routed := valid.routed

theorem amountCents_positive {r : RelayEventsRow} (member : r ∈ db.relayEvents.rows) : 0 < r.amountCents := by
  have check := violation_eq_none.1 (db.relayEvents.checked r member) _ (List.mem_of_getElem? (i := 0) rfl)
  simpa using check

/-- What a claimed row is decoded to. -/
structure Claimed (db : Database) (nowMillis : ℕ) (ownerId : WorkerId) (expires : ℕ) (r : DeliveriesRow)
    (e : Entry) (c : ClaimedDelivery) : Prop where
  decoded : (db.claimedRow nowMillis r).bind rowToClaimedDelivery = some c
  delivery : c.delivery = e.delivery
  claim : c.claim = e.issuedClaim ownerId expires
  route : c.route = e.route
  ordinal : c.nextAttemptOrdinal = e.nextOrdinal
  lag : c.claimLagMillis = nowMillis - e.nextEligibleAt

theorem claimed_decodes (rep : Represents db L) {id : DeliveryId} {e : Entry} (held : L id = some e)
    (due : e.due destinationId nowMillis = true) (expires : ℕ) :
    ∃ c, Claimed db nowMillis ownerId expires (rowOf (e.issue ownerId expires)) e c := by
  have valid := rep.valid id e held
  obtain ⟨event, stored⟩ := Option.ne_none_iff_exists'.1 (rep.events id e held)
  have found : db.deliveries.find (rowOf (e.issue ownerId expires)).deliveryId = some (rowOf e) := by
    rw [show (rowOf (e.issue ownerId expires)).deliveryId = id from valid.named, rep.rows, held]; rfl
  have stored : db.relayEvents.find (rowOf (e.issue ownerId expires)).eventId = some event := stored
  have named : (rowOf (e.issue ownerId expires)).deliveryId = id := valid.named
  have amount := amountCents_positive (Keyed.mem_of_find stored)
  have ordinals : (((db.attemptsOf id).map (·.ordinal)).max?.map (· + 1)).getD 1 = ((e.nextOrdinal : ℕ) : ℤ) := by
    rw [rep.attempts id e held, List.map_map]
    have each : ((fun r : DeliveryAttemptsRow => r.ordinal) ∘ attemptToRow) =
        (fun n : ℕ => (n : ℤ)) ∘ fun a : DeliveryAttemptRecord => (a.ordinal : ℕ) := rfl
    rw [each, ← List.map_map, nextOrdinal_eq]
    rfl
  have positive : positiveColumn ((e.nextOrdinal : ℕ) : ℤ) =
      some ((e.attempts.map fun a => (a.ordinal : ℕ)).foldl max 0).succPNat := by
    have above := positiveColumn_coe ((e.attempts.map fun a => (a.ordinal : ℕ)).foldl max 0).succPNat
    rw [Nat.succPNat_coe] at above
    exact above
  obtain ⟨pending, eligible⟩ : e.delivery.state = .pending ∧ e.nextEligibleAt ≤ nowMillis := by
    simp only [Entry.due, Bool.and_eq_true, decide_eq_true_eq] at due
    exact ⟨due.1.1.1, due.1.2⟩
  have lag : wholeColumn ((nowMillis : ℤ) - (e.nextEligibleAt : ℤ)) = some (nowMillis - e.nextEligibleAt) := by
    rw [← Nat.cast_sub eligible, wholeColumn_natCast]
  have version : positiveNullable (rowOf e).configurationVersion = some (e.route.map (·.configurationVersion)) := by
    cases h : e.route <;> simp [rowOf, h, positiveNullable]
  have route : rowToRoute e.delivery.destinationId (rowOf e).destinationUrl
      (e.route.map (·.configurationVersion)) = e.route := by
    cases h : e.route with
    | none => simp [rowOf, rowToRoute, h]
    | some route => simp [rowOf, rowToRoute, h, ← valid.routed route h]
  have amountCents : positiveColumn event.amountCents = some ⟨event.amountCents.toNat, by omega⟩ := by
    rw [positiveColumn, dif_pos amount]
  have claim := rowToClaim_rowOf (issue_valid ownerId valid due expires).fenced
  refine ⟨
    { claim := e.issuedClaim ownerId expires
      delivery := e.delivery
      event := ⟨e.delivery.eventId, event.eventType, event.invoiceId, ⟨event.amountCents.toNat, by omega⟩⟩
      claimLagMillis := nowMillis - e.nextEligibleAt
      nextAttemptOrdinal := e.nextOrdinal
      route := e.route }, ?_, rfl, rfl, rfl, rfl, rfl⟩
  rw [claimedRow, found, stored]
  simp only [Option.bind_some, rowToClaimedDelivery, claim, amountCents, version, named, ordinals, positive]
  have lagColumn : ((rowOf (e.issue ownerId expires)).nextEligibleAtMs.map
      fun eligible => (nowMillis : ℤ) - eligible).bind wholeColumn = some (nowMillis - e.nextEligibleAt) := lag
  have issued : (e.issue ownerId expires).claim = some (e.issuedClaim ownerId expires) := rfl
  have delivery : (⟨id, e.delivery.eventId, e.delivery.destinationId, .pending⟩ : Delivery) = e.delivery := by
    rw [← valid.named, ← pending]
  simp only [lagColumn, issued, Option.some.injEq, ClaimedDelivery.mk.injEq]
  exact ⟨trivial, delivery, rfl, trivial, rfl, route⟩

variable (db nowMillis) in
/-- Rows that all join and decode give deliveries one for one. -/
theorem decode_all (expires : ℕ) (Q : Entry → Prop) (rows : List DeliveriesRow)
    (each : ∀ r ∈ rows, ∃ e c, r = rowOf (e.issue ownerId expires) ∧ Q e ∧
      Claimed db nowMillis ownerId expires r e c) :
    ∃ cs, (rows.filterMap (db.claimedRow nowMillis)).mapM rowToClaimedDelivery = some cs ∧
      cs.map (fun c => c.delivery.id) = rows.map (·.deliveryId) ∧
      ∀ c ∈ cs, ∃ e, Q e ∧ Claimed db nowMillis ownerId expires (rowOf (e.issue ownerId expires)) e c := by
  induction rows with
  | nil => exact ⟨[], rfl, rfl, nofun⟩
  | cons r rows ih =>
    obtain ⟨cs, run, ids, among⟩ := ih fun r' hr' => each r' (List.mem_cons_of_mem _ hr')
    obtain ⟨e, c, rfl, holds, claimed⟩ := each r List.mem_cons_self
    obtain ⟨row, joined, decoded⟩ := Option.bind_eq_some_iff.1 claimed.decoded
    refine ⟨c :: cs, ?_, ?_, ?_⟩
    · rw [List.filterMap_cons_some joined, List.mapM_cons, decoded, run]
      rfl
    · rw [List.map_cons, List.map_cons, ids, claimed.delivery]
      rfl
    · intro c' hc'
      obtain rfl | hc' := List.mem_cons.1 hc'
      · exact ⟨e, holds, claimed⟩
      · exact among c' hc'

/-- The ledger after the chosen deliveries were claimed. -/
def claimAll (L : Ledger) (chosen : List DeliveryId) (ownerId : WorkerId) (expires : ℕ) : Ledger :=
  fun id => if id ∈ chosen then (L id).map fun e => e.issue ownerId expires else L id

section Chosen

variable {chosen : List DeliveryId} (lease : ℕ+) (rep : Represents db L)
  (due : ∀ id ∈ chosen, ∃ e, L id = some e ∧ e.due destinationId nowMillis = true)
include rep due

/-- A chosen row is the row of a due entry. -/
theorem chosen_row {r : DeliveriesRow} (member : r ∈ db.deliveries.rows)
    (selected : (isIn (some r.deliveryId) chosen).holds = true) :
    ∃ e, L r.deliveryId = some e ∧ e.due destinationId nowMillis = true ∧ r = rowOf e := by
  rw [isIn_some, Truth.holds_some, decide_eq_true_eq] at selected
  obtain ⟨e, held, isDue⟩ := due r.deliveryId selected
  have row := Keyed.find_of_mem member
  rw [rep.rows, held, Option.map_some, Option.some.injEq] at row
  exact ⟨e, held, isDue, row.symm⟩

theorem claimAll_represents : ∃ t', db.deliveries.update (fun r => isIn (some r.deliveryId) chosen)
      (claimSet nowMillis ownerId lease) (fun _ => rfl) =
        .ok (t', (db.deliveries.select fun r => isIn (some r.deliveryId) chosen).map
          (claimSet nowMillis ownerId lease)) ∧
    Represents { db with deliveries := t' } (claimAll L chosen ownerId (nowMillis + lease)) := by
  obtain ⟨t', run, -, find⟩ := Table.update_ok db.deliveries (fun r => isIn (some r.deliveryId) chosen)
    (claimSet nowMillis ownerId lease) (fun _ => rfl) (by
      intro r member selected
      obtain ⟨e, held, isDue, row⟩ := chosen_row rep due member selected
      rw [row, claimSet_rowOf]
      exact rowOf_checked (issue_valid ownerId (rep.valid _ e held) isDue _).fenced)
  refine ⟨t', run, ?_⟩
  have claimed : ∀ id e₀, claimAll L chosen ownerId (nowMillis + lease) id = some e₀ → ∃ e, L id = some e ∧
      ((id ∈ chosen ∧ e.due destinationId nowMillis = true ∧ e₀ = e.issue ownerId (nowMillis + lease)) ∨
        (id ∉ chosen ∧ e₀ = e)) := by
    intro id e₀ held
    by_cases member : id ∈ chosen
    · obtain ⟨e, held', isDue⟩ := due id member
      rw [claimAll, if_pos member, held', Option.map_some, Option.some.injEq] at held
      exact ⟨e, held', .inl ⟨member, isDue, held.symm⟩⟩
    · rw [claimAll, if_neg member] at held
      exact ⟨e₀, held, .inr ⟨member, rfl⟩⟩
  refine ⟨?_, ?_, ?_, ?_, ?_⟩
  · intro id
    rw [find, rep.rows, claimAll]
    by_cases member : id ∈ chosen
    · obtain ⟨e, held, -⟩ := due id member
      have named : (rowOf e).deliveryId = id := (rep.valid id e held).named
      rw [if_pos member, held, Option.map_some, Option.map_some, isIn_some, Truth.holds_some,
        if_pos (decide_eq_true (named ▸ member))]
      rfl
    · rw [if_neg member]
      cases held : L id with
      | none => rfl
      | some e =>
        have named : (rowOf e).deliveryId = id := (rep.valid id e held).named
        rw [Option.map_some, Option.map_some, isIn_some, Truth.holds_some, named, decide_eq_false member,
          if_neg Bool.false_ne_true]
  · intro id e₀ held
    obtain ⟨e, held', ⟨-, isDue, rfl⟩ | ⟨-, rfl⟩⟩ := claimed id e₀ held
    · exact issue_valid ownerId (rep.valid id e held') isDue _
    · exact rep.valid id e₀ held'
  · intro id e₀ held
    obtain ⟨e, held', ⟨-, -, rfl⟩ | ⟨-, rfl⟩⟩ := claimed id e₀ held
    · exact rep.attempts id e held'
    · exact rep.attempts id e₀ held'
  · intro id none
    refine rep.orphans id ?_
    by_cases member : id ∈ chosen
    · obtain ⟨e, held, -⟩ := due id member
      rw [claimAll, if_pos member, held] at none
      cases none
    · rw [claimAll, if_neg member] at none
      exact none
  · intro id e₀ held
    obtain ⟨e, held', ⟨-, -, rfl⟩ | ⟨-, rfl⟩⟩ := claimed id e₀ held
    · exact rep.events id e held'
    · exact rep.events id e₀ held'

/-- The rows the statement returns decode to a batch of the ledger. -/
theorem claimAll_batch {rows : List DeliveriesRow}
    (returned : rows.Perm ((db.deliveries.select fun r => isIn (some r.deliveryId) chosen).map
      (claimSet nowMillis ownerId lease))) :
    ∃ cs, (rows.filterMap (db.claimedRow nowMillis)).mapM rowToClaimedDelivery = some cs ∧
      ClaimBatch nowMillis ownerId destinationId (nowMillis + lease) L cs
        (claimAll L chosen ownerId (nowMillis + lease)) := by
  have origin : ∀ r ∈ rows, ∃ e, r = rowOf (e.issue ownerId (nowMillis + lease)) ∧
      L e.delivery.id = some e ∧ e.delivery.id ∈ chosen ∧ e.due destinationId nowMillis = true := by
    intro r hr
    obtain ⟨r₀, hr₀, rfl⟩ := List.mem_map.1 (returned.mem_iff.1 hr)
    obtain ⟨member, selected⟩ := List.mem_filter.1 hr₀
    obtain ⟨e, held, isDue, row⟩ := chosen_row rep due member selected
    have named : e.delivery.id = r₀.deliveryId := (rep.valid _ e held).named
    have among : r₀.deliveryId ∈ chosen := by simpa using selected
    exact ⟨e, by rw [row, claimSet_rowOf], by rw [named]; exact held, by rw [named]; exact among, isDue⟩
  obtain ⟨cs, run, ids, among⟩ := decode_all db nowMillis ownerId (nowMillis + lease)
    (fun e => L e.delivery.id = some e ∧ e.delivery.id ∈ chosen ∧ e.due destinationId nowMillis = true) rows (by
      intro r hr
      obtain ⟨e, rfl, held, member, isDue⟩ := origin r hr
      obtain ⟨c, claimed⟩ := claimed_decodes ownerId rep held isDue (nowMillis + lease)
      exact ⟨e, c, rfl, ⟨held, member, isDue⟩, claimed⟩)
  have keys : (rows.map (·.deliveryId)).Perm
      ((db.deliveries.select fun r => isIn (some r.deliveryId) chosen).map (·.deliveryId)) := by
    have mapped := returned.map (·.deliveryId)
    rw [List.map_map] at mapped
    exact mapped
  refine ⟨cs, run, ?_, ?_, ?_⟩
  · rw [ids]
    exact keys.nodup_iff.2 (db.deliveries.nodup.sublist (List.filter_sublist.map _))
  · intro c hc
    obtain ⟨e, ⟨held, member, isDue⟩, claimed⟩ := among c hc
    rw [claimed.delivery]
    refine ⟨e, held, isDue, rfl, claimed.claim, claimed.route, claimed.ordinal, claimed.lag, ?_⟩
    rw [claimAll, if_pos member, held]
    rfl
  · intro id absent
    by_cases member : id ∈ chosen
    · obtain ⟨e, held, -⟩ := due id member
      have named : (rowOf e).deliveryId = id := (rep.valid id e held).named
      have row : db.deliveries.find id = some (rowOf e) := by rw [rep.rows, held]; rfl
      have listed : id ∈ (db.deliveries.select fun r => isIn (some r.deliveryId) chosen).map (·.deliveryId) := by
        refine List.mem_map.2 ⟨rowOf e, List.mem_filter.2 ⟨Keyed.mem_of_find row, ?_⟩, named⟩
        simpa [named] using member
      rw [← keys.mem_iff, ← ids] at listed
      obtain ⟨c, hc, same⟩ := List.mem_map.1 listed
      exact absurd same (absent c hc)
    · rw [claimAll, if_neg member]

end Chosen

variable (nowMillis) in
/-- **What the statement says about the rows**: it claims the candidates, and what it claims decodes. -/
theorem claimPendingRows_run (rep : Represents db L) (destinationId : DestinationId) (limit p : ℕ+) :
    ∃ rows cs db', db.claimPendingRows nowMillis ownerId destinationId limit p = .ok (rows, db') ∧
      rows.mapM rowToClaimedDelivery = some cs ∧
      Represents db' (claimAll L (db.candidates nowMillis destinationId limit) ownerId (nowMillis + p)) ∧
      ClaimBatch nowMillis ownerId destinationId (nowMillis + p) L cs
        (claimAll L (db.candidates nowMillis destinationId limit) ownerId (nowMillis + p)) := by
  have due : ∀ id ∈ db.candidates nowMillis destinationId limit, ∃ e, L id = some e ∧
      e.due destinationId nowMillis = true := fun _ => due_of_candidate nowMillis destinationId rep limit
  obtain ⟨t', run, rep'⟩ := claimAll_represents ownerId p rep due
  obtain ⟨cs, decoded, batch⟩ := claimAll_batch ownerId p rep due
    (List.perm_insertionSort (fun a b => idOrder a.deliveryId b.deliveryId) _)
  have update : db.updateDeliveries
      (fun r => isIn (some r.deliveryId) (db.candidates nowMillis destinationId limit))
      (claimSet nowMillis ownerId p) (fun _ => rfl) =
        .ok ((db.deliveries.select fun r => isIn (some r.deliveryId)
          (db.candidates nowMillis destinationId limit)).map (claimSet nowMillis ownerId p),
          { db with deliveries := t' }) := by
    simp only [updateDeliveries, run, bind, Except.bind, pure, Except.pure]
  refine ⟨_, cs, { db with deliveries := t' }, ?_, decoded, rep', batch⟩
  simp only [claimPendingRows, update, bind, Except.bind, pure, Except.pure]

end Claim

/-! ## The whole store -/

/-- **Every call on one delivery does to the rows what its specification does to the entry**, unless its statement
is refused. -/
theorem exec_serves (rep : Represents db L) {call : StoreCall} {id : DeliveryId}
    {op : Option Entry → Answer × Option Entry} (about : call.onEntry nowMillis = some (id, op))
    (resolved : ∀ attempt, call ≠ .recordAttempt attempt)
    (stored : ∀ delivery, call = .save delivery → db.relayEvents.find delivery.eventId ≠ none) :
    Serves L id op (db.exec nowMillis call) := by
  cases call with
  | save delivery => cases about; exact save_serves rep delivery (stored delivery rfl)
  | findById id => cases about; exact findById_serves rep
  | recordAttempt attempt => exact absurd rfl (resolved attempt)
  | completeClaim id claim result => cases about; exact completeClaim_serves rep claim result
  | releaseClaim id claim => cases about; exact releaseClaim_serves rep claim
  | retryDeadLetter id => cases about; exact retryDeadLetter_serves rep
  | repairDeadLetter id route => cases about; exact repairDeadLetter_serves rep route
  | terminateDeadLetter id => cases about; exact terminateDeadLetter_serves rep
  | renewClaim id claim lease =>
    obtain ⟨p, whole, hp⟩ := Option.map_eq_some_iff.1 about
    cases hp
    exact renewClaim_serves rep claim whole
  | accept | savePending | claimPending => cases about

theorem exec_onEntry {call : StoreCall} {id : DeliveryId}
    {op : Option Entry → Answer × Option Entry} (about : call.onEntry nowMillis = some (id, op))
    (serves : Serves L id op (db.exec nowMillis call)) :
    ∃ L', Represents (db.exec nowMillis call).2 L' ∧ Served nowMillis L call (db.exec nowMillis call).1.answer L' :=
  ⟨_, serves.represents, by rw [serves.answer]; exact .onEntry call id op about⟩

/-- Every call on tables that represent a ledger is a call of that ledger. -/
theorem exec_represents (rep : Represents db L) (nowMillis : ℕ) (call : StoreCall) :
    ∃ L', Represents (db.exec nowMillis call).2 L' ∧ Served nowMillis L call (db.exec nowMillis call).1.answer L' := by
  cases call with
  | save delivery =>
    by_cases stored : db.relayEvents.find delivery.eventId = none
    · cases held : L delivery.id with
      | some e => exact exec_onEntry rfl (save_present rep held)
      | none =>
        obtain ⟨same, refused⟩ := save_refused nowMillis rep held stored
        refine ⟨L, ?_, ?_⟩
        · rw [exec, same]; exact rep
        · rw [exec, refused]; exact .refused _ _ (.inl rfl)
    · exact exec_onEntry rfl (save_serves rep delivery stored)
  | accept record => exact accept_represents rep record
  | savePending event id destinationId request => exact savePending_represents rep event id destinationId request
  | claimPending ownerId destinationId limit lease =>
    obtain ⟨cause, refused⟩ := db.claimPending_eq nowMillis ownerId destinationId limit lease
    refine ⟨L, ?_, ?_⟩
    · rw [exec, refused]; exact rep
    · rw [exec, refused]; exact .refused _ _ (.inl rfl)
  | recordAttempt attempt =>
    refine ⟨L, ?_, ?_⟩
    · rw [exec, recordAttempt_eq]; exact rep
    · rw [exec, recordAttempt_eq]; exact .refused _ _ (.inr ⟨rfl, nofun⟩)
  | renewClaim id claim lease =>
    cases whole : positiveInteger lease with
    | none =>
      refine ⟨L, ?_, ?_⟩
      · rw [exec, renewClaim, whole]; exact rep
      · rw [exec, renewClaim, whole]
        have odd : (!(positiveInteger lease).isSome) = true := by rw [whole]; rfl
        exact .refused _ _ (.inr ⟨odd, nofun⟩)
    | some p =>
      have about : (StoreCall.renewClaim id claim lease).onEntry nowMillis =
          some (id, Entry.renewClaim nowMillis claim (nowMillis + p)) := by
        rw [StoreCall.onEntry, whole]; rfl
      exact exec_onEntry about (exec_serves rep about (by rintro _ ⟨⟩) (by rintro _ ⟨⟩))
  | findById | completeClaim | releaseClaim | retryDeadLetter | repairDeadLetter | terminateDeadLetter =>
    exact exec_onEntry rfl (exec_serves rep rfl (by rintro _ ⟨⟩) (by rintro _ ⟨⟩))

section Resume

variable {id : DeliveryId} {condition : DeliveriesRow → Truth} {set : DeliveriesRow → DeliveriesRow}
  {h : ∀ r, (set r).deliveryId = r.deliveryId} {operation : RepositoryOperation} {onNone : Failure}

/-- The update of an operator action, whatever its `requireDeadLetter` read before. -/
theorem operator_represents {call : StoreCall} {op : Option Entry → Answer × Option Entry}
    (rep : Represents db L) (about : call.onEntry nowMillis = some (id, op)) (unfenced : call.fence = none)
    (pin : ∀ r, (condition r).holds = true → r.deliveryId = id)
    (acts : ∀ e, L id = some e → (condition (rowOf e)).holds = true → ∃ e', set (rowOf e) = rowOf e' ∧
      e'.Valid id ∧ e'.attempts = e.attempts ∧ e'.delivery.eventId = e.delivery.eventId ∧
      op (some e) = (.ok .done, some e')) :
    ∃ L', Represents (db.findOne operation onNone (fun _ => .ok .done)
        (db.updateDeliveries condition set h)).2 L' ∧
      Served nowMillis L call (db.findOne operation onNone (fun _ => .ok .done)
        (db.updateDeliveries condition set h)).1.answer L' := by
  by_cases hit : ∃ e, L id = some e ∧ (condition (rowOf e)).holds = true
  · obtain ⟨e, held, selected⟩ := hit
    obtain ⟨e', new, valid, attempts, event, done⟩ := acts e held selected
    have serves := operator_hit (h := h) operation rep held pin selected new valid attempts event
      (by rw [held]; exact done) onNone
    exact ⟨_, serves.represents, by rw [serves.answer]; exact .onEntry call id op about⟩
  · have skip : ∀ e, L id = some e → (condition (rowOf e)).holds = false := by
      intro e held
      rw [← Bool.not_eq_true]
      exact fun selected => hit ⟨e, held, selected⟩
    obtain ⟨db', run, rep', -⟩ := updateDeliveries_skip condition set h rep pin skip
    rw [run]
    exact ⟨L, rep', .refused _ _ (.inl unfenced)⟩

end Resume

theorem resume_represents (rep : Represents db L) (nowMillis : ℕ) (call : StoreCall) :
    ∃ L', Represents (db.resume nowMillis call).2 L' ∧
      Served nowMillis L call (db.resume nowMillis call).1.answer L' := by
  have dead : ∀ {id : DeliveryId} {e : Entry}, L id = some e → (deadLetter id (rowOf e)).holds = true →
      Entry.isDeadLettered e.delivery.state = true := by
    intro id e held selected
    rw [deadLetter_rowOf (rep.valid id e held)] at selected
    exact selected
  cases call with
  | retryDeadLetter id =>
    refine operator_represents rep rfl rfl deadLetter_pin ?_
    intro e held selected
    refine ⟨e.retry nowMillis, rfl, (rep.valid id e held).retry nowMillis, rfl, rfl, ?_⟩
    rw [Entry.retryDeadLetter, Entry.recovered, if_pos (dead held selected)]
  | terminateDeadLetter id =>
    refine operator_represents rep rfl rfl deadLetter_pin ?_
    intro e held selected
    refine ⟨e.withState .terminated, rfl, (rep.valid id e held).withState _, rfl, rfl, ?_⟩
    rw [Entry.terminateDeadLetter, Entry.recovered, if_pos (dead held selected)]
  | repairDeadLetter id route =>
    refine operator_represents rep rfl rfl ?_ ?_
    · intro r selected
      rw [Truth.holds_and, Bool.and_eq_true] at selected
      exact deadLetter_pin r selected.1
    · intro e held selected
      rw [Truth.holds_and, Bool.and_eq_true] at selected
      have own : e.delivery.destinationId = route.destinationId := by simpa [rowOf, newRow] using selected.2
      refine ⟨e.repair nowMillis route, rfl, (rep.valid id e held).repair nowMillis own, rfl, rfl, ?_⟩
      rw [Entry.repairDeadLetter, Entry.recovered, if_pos (dead held selected.1), if_pos own]
  | save | findById | accept | savePending | claimPending | renewClaim | recordAttempt | completeClaim
  | releaseClaim => exact exec_represents rep nowMillis _

end Database

end Postgres

end Relay
