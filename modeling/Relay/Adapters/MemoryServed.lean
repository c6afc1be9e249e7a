import Relay.Adapters.Memory

/-!
# The memory adapter serves the ledger

What the maps hold under one delivery id is a `Slot`; a sound slot is an `Entry`
or nothing. Every call that concerns one delivery changes one slot, to the entry
its specification gives, so the maps refine the ledger call by call.
-/

namespace Relay

namespace MemoryStore

/-! ## Slots -/

structure Slot where
  record : Option Delivery
  claim : Option DeliveryClaim
  generation : Option ℕ
  route : Option DeliveryRouteSnapshot
  attempts : Option (List DeliveryAttemptRecord)
  nextEligibleAt : Option ℕ

def slot (s : MemoryStore) (id : DeliveryId) : Slot :=
  ⟨s.records.get id, s.claims.get id, s.generations.get id, s.routes.get id, s.attempts.get id,
    s.nextEligibleAt.get id⟩

/-- The entry of a recorded delivery; the defaults are those of the source. -/
def held (s : MemoryStore) (id : DeliveryId) (delivery : Delivery) : Entry :=
  ⟨delivery, (s.generations.get id).getD 0, s.claims.get id, s.routes.get id,
    (s.attempts.get id).getD [], (s.nextEligibleAt.get id).getD 0⟩

def view (s : MemoryStore) : Ledger := fun id => (s.records.get id).map (s.held id)

/-- Without a record there is nothing else; a claim stands on a pending record and carries the
generation counter. -/
structure Slot.Sound (id : DeliveryId) (x : Slot) : Prop where
  keyed : ∀ d, x.record = some d → d.id = id ∧ x.nextEligibleAt ≠ none
  absent : x.record = none → x = ⟨none, none, none, none, none, none⟩
  claimed : ∀ c, x.claim = some c →
    x.generation = some (c.generation : ℕ) ∧ ∃ d, x.record = some d ∧ d.state = .pending

def Sound (s : MemoryStore) : Prop := ∀ id, (s.slot id).Sound id

theorem sound_empty : empty.Sound := by
  intro id
  exact { keyed := nofun, absent := fun _ => rfl, claimed := nofun }

theorem view_empty : empty.view = fun _ => none := rfl

variable {s : MemoryStore} {id : DeliveryId} {nowMillis : ℕ}

theorem view_of_record {d : Delivery} (h : s.records.get id = some d) :
    s.view id = some (s.held id d) := by
  rw [view, h]; rfl

theorem view_eq_none : s.view id = none ↔ s.records.get id = none := by
  rw [view, Option.map_eq_none_iff]

theorem record_of_view {e : Entry} (h : s.view id = some e) :
    s.records.get id = some e.delivery ∧ e = s.held id e.delivery := by
  obtain ⟨d, hd, rfl⟩ := Option.map_eq_some_iff.1 h
  exact ⟨hd, rfl⟩

/-- The entry depends on the slot only. -/
theorem view_of_slot {t : MemoryStore} (h : t.slot id = s.slot id) : t.view id = s.view id := by
  injection h with record claim generation route attempts eligible
  have same : t.held id = s.held id := by
    funext d
    simp only [held, claim, generation, route, attempts, eligible]
  rw [view, view, record, same]

variable (id) in
theorem holds_held (d : Delivery) (ownerId : WorkerId) (generation : ClaimGeneration)
    (live : Option ℕ) : (s.held id d).holds ownerId generation live =
      (decide (d.state = .pending) && s.owns id ownerId generation live) := rfl

/-! ## Calls on one delivery -/

/-- The reply and the maps after a call that does `op` to the entry under `id`. -/
structure Serves (s : MemoryStore) (id : DeliveryId) (op : Option Entry → Answer × Option Entry)
    (r : Reply × MemoryStore) : Prop where
  answer : r.1.answer = (op (s.view id)).1
  view : r.2.view = Function.update s.view id (op (s.view id)).2
  sound : r.2.Sound

/-- Writes under one id leave the other slots alone. -/
theorem sound_write {t : MemoryStore} (sound : s.Sound)
    (others : ∀ id', id' ≠ id → t.slot id' = s.slot id') (here : (t.slot id).Sound id) : t.Sound := by
  intro id'
  by_cases h : id' = id
  · exact h ▸ here
  · rw [others id' h]; exact sound id'

theorem view_write {t : MemoryStore} (others : ∀ id', id' ≠ id → t.slot id' = s.slot id') :
    t.view = Function.update s.view id (t.view id) := by
  funext id'
  by_cases h : id' = id
  · rw [h, Function.update_self]
  · rw [Function.update_of_ne h, view_of_slot (others id' h)]

theorem Serves.write {op : Option Entry → Answer × Option Entry} {r : Reply × MemoryStore}
    (sound : s.Sound) (others : ∀ id', id' ≠ id → r.2.slot id' = s.slot id')
    (here : (r.2.slot id).Sound id) (served : op (s.view id) = (r.1.answer, r.2.view id)) :
    Serves s id op r where
  answer := by rw [served]
  view := by rw [served]; exact view_write others
  sound := sound_write sound others here

theorem Serves.unchanged {op : Option Entry → Answer × Option Entry} {reply : Reply} (sound : s.Sound)
    (served : op (s.view id) = (reply.answer, s.view id)) : Serves s id op (reply, s) :=
  .write sound (fun _ _ => rfl) (sound id) served

/-- The conditions on a slot whose record stays pending or gives up its claim. -/
theorem Slot.Sound.rewrite {x y : Slot} (sound : x.Sound id) {d d' : Delivery} (old : x.record = some d)
    (new : y.record = some d') (same : d'.id = d.id) (eligible : y.nextEligibleAt ≠ none)
    (claim : y.claim = none) : y.Sound id where
  keyed := by
    intro a ha
    rw [new, Option.some.injEq] at ha
    exact ⟨by rw [← ha, same]; exact (sound.keyed d old).1, eligible⟩
  absent := by
    intro h
    rw [new] at h
    cases h
  claimed := by
    intro c hc
    rw [claim] at hc
    cases hc

theorem save_serves (sound : s.Sound) (delivery : Delivery) :
    Serves s delivery.id (Entry.save nowMillis delivery) (s.save nowMillis delivery) := by
  unfold save
  cases h : s.records.get delivery.id with
  | some d => exact .unchanged sound (by rw [view_of_record h]; rfl)
  | none =>
    injection (sound delivery.id).absent h with _ claim generation route attempts
    refine .write sound ?_ ⟨?_, ?_, ?_⟩ ?_
    · intro id' away
      simp [slot, away]
    · intro d hd
      simp only [slot, OrderedMap.get_set, if_true, Option.some.injEq] at hd ⊢
      exact ⟨hd ▸ rfl, nofun⟩
    · intro hd
      simp [slot] at hd
    · intro c hc
      simp only [slot, claim] at hc
      cases hc
    · rw [view_eq_none.2 h]
      simp [view, held, Entry.save, Entry.new, Reply.answer, claim, route, attempts]

theorem findById_serves (sound : s.Sound) (id : DeliveryId) :
    Serves s id (fun e => (.ok (.found (e.map (·.delivery))), e)) (s.findById id) := by
  refine .unchanged sound ?_
  cases h : s.records.get id with
  | none => rw [view_eq_none.2 h]; rfl
  | some d => rw [view_of_record h]; rfl

/-- A held claim carries the counter, on a pending record. -/
theorem Sound.held_claim (sound : s.Sound) {d : Delivery} {ownerId : WorkerId}
    {generation : ClaimGeneration} {live : Option ℕ}
    (holds : (s.held id d).holds ownerId generation live = true) :
    d.state = .pending ∧ s.generations.get id = some (generation : ℕ) := by
  rw [holds_held, Bool.and_eq_true, decide_eq_true_eq] at holds
  refine ⟨holds.1, ?_⟩
  have owned := holds.2
  unfold owns at owned
  split at owned
  · cases owned
  · next c hc =>
    simp only [Bool.and_eq_true, decide_eq_true_eq] at owned
    rw [← owned.1.2]
    exact ((sound id).claimed c hc).1

/-- The opening check of the fenced calls is the check of the ledger. -/
theorem fencedAction_serves (sound : s.Sound) (operation : ClaimOperation) (claim : DeliveryClaim)
    {live : Option ℕ} {act : Delivery → Reply × MemoryStore} {op : Entry → Answer × Option Entry}
    (acts : ∀ d, s.records.get id = some d → d.state = .pending →
      s.generations.get id = some (claim.generation : ℕ) →
      Serves s id (fun _ => op (s.held id d)) (act d)) :
    Serves s id (Entry.fenced claim.ownerId claim.generation live op)
      (s.fencedAction operation id claim live act) := by
  unfold fencedAction
  cases h : s.records.get id with
  | none => exact .unchanged sound (by rw [view_eq_none.2 h]; rfl)
  | some d =>
    have check := s.holds_held id d claim.ownerId claim.generation live
    by_cases holds : (s.held id d).holds claim.ownerId claim.generation live = true
    · have pass : ¬ (decide (d.state ≠ .pending) || !s.owns id claim.ownerId claim.generation live) = true := by
        rw [holds] at check
        simpa using check.symm
      have acted : Entry.fenced claim.ownerId claim.generation live op (s.view id) = op (s.held id d) := by
        rw [view_of_record h, Entry.fenced, if_pos holds]
      simp only [if_neg pass]
      have done := acts d h (sound.held_claim holds).1 (sound.held_claim holds).2
      exact ⟨by rw [acted]; exact done.answer, by rw [acted]; exact done.view, done.sound⟩
    · have fail : (decide (d.state ≠ .pending) || !s.owns id claim.ownerId claim.generation live) = true := by
        rw [Bool.not_eq_true] at holds
        rw [holds, eq_comm, Bool.and_eq_false_iff] at check
        simpa using check
      simp only [if_pos fail]
      exact .unchanged sound (by rw [view_of_record h, Entry.fenced, if_neg holds]; rfl)

theorem recordAttempt_serves (sound : s.Sound) (attempt : DeliveryAttemptRecord) :
    Serves s attempt.deliveryId (Entry.recordAttempt nowMillis attempt)
      (s.recordAttempt nowMillis attempt) := by
  refine fencedAction_serves sound .recordAttempt ⟨attempt.workerId, attempt.claimGeneration, 0⟩ ?_
  intro d record pending counter
  have eligible := ((sound attempt.deliveryId).keyed d record).2
  have ordinal : (s.held attempt.deliveryId d).hasOrdinal attempt.ordinal =
      ((s.attempts.get attempt.deliveryId).getD []).any fun a => a.ordinal = attempt.ordinal := rfl
  rw [ordinal]
  by_cases taken : (((s.attempts.get attempt.deliveryId).getD []).any fun a => a.ordinal = attempt.ordinal) = true
  · simp only [if_pos taken]
    exact .unchanged sound (by rw [view_of_record record]; rfl)
  · simp only [if_neg taken]
    by_cases scheduled : attempt.decision = .retryScheduled
    · have none : terminalStateFromAttempt attempt = none := by
        rw [terminalStateFromAttempt, scheduled]
      simp only [if_pos scheduled, none]
      refine .write sound ?_ ⟨?_, ?_, ?_⟩ ?_
      · intro id' away
        simp [slot, away]
      · intro d' hd'
        exact ⟨((sound _).keyed d' hd').1, by simp [slot]⟩
      · intro absent
        rw [show s.records.get attempt.deliveryId = Option.none from absent] at record
        cases record
      · intro c hc
        exact (sound attempt.deliveryId).claimed c hc
      · simp [view, held, Entry.schedule, Reply.answer, record]
    · obtain ⟨state, terminal, -⟩ := terminalStateFromAttempt_some scheduled
      simp only [if_neg scheduled, terminal]
      refine .write sound ?_ ?_ ?_
      · intro id' away
        simp [slot, away]
      · have record' : (s.records.set attempt.deliveryId { d with state }).get attempt.deliveryId =
            some { d with state } := by simp
        have claim : (s.claims.delete attempt.deliveryId).get attempt.deliveryId = none := by simp
        exact (sound attempt.deliveryId).rewrite record record' rfl eligible claim
      · simp [view, held, Entry.settle, Entry.withState, Reply.answer]

/-- A record rewritten without its claim, with the eligibility instant it had or a new one. -/
theorem Serves.unclaim {op : Option Entry → Answer × Option Entry} {d d' : Delivery}
    {reply : Reply} {t : MemoryStore} (sound : s.Sound) (record : s.records.get id = some d)
    (records : t.records = s.records.set id d') (same : d'.id = d.id) (claims : t.claims = s.claims.delete id)
    (generations : t.generations = s.generations) (attempts : t.attempts = s.attempts)
    (routes : ∀ id', id' ≠ id → t.routes.get id' = s.routes.get id')
    (eligible : t.nextEligibleAt = s.nextEligibleAt ∨ ∃ at', t.nextEligibleAt = s.nextEligibleAt.set id at')
    (served : op (s.view id) = (reply.answer, t.view id)) : Serves s id op (reply, t) := by
  refine .write sound ?_ ?_ served
  · intro id' away
    have instant : t.nextEligibleAt.get id' = s.nextEligibleAt.get id' := by
      obtain h | ⟨at', h⟩ := eligible
      · rw [h]
      · rw [h, OrderedMap.get_set, if_neg away]
    simp only [slot, records, claims, generations, attempts, routes id' away, instant,
      OrderedMap.get_set, OrderedMap.get_delete, if_neg away]
  · have record' : t.records.get id = some d' := by rw [records, OrderedMap.get_set, if_pos rfl]
    have claim : t.claims.get id = none := by rw [claims, OrderedMap.get_delete, if_pos rfl]
    have instant : t.nextEligibleAt.get id ≠ none := by
      obtain h | ⟨at', h⟩ := eligible
      · rw [h]; exact ((sound id).keyed d record).2
      · rw [h, OrderedMap.get_set, if_pos rfl]; exact nofun
    exact (sound id).rewrite record record' same instant claim

theorem completeClaim_serves (sound : s.Sound) (id : DeliveryId) (claim : DeliveryClaim)
    (result : DeliveryResult) : Serves s id (Entry.completeClaim nowMillis claim result)
      (s.completeClaim nowMillis id claim result) := by
  refine fencedAction_serves sound .complete claim ?_
  intro d record pending counter
  refine .unclaim sound record rfl rfl rfl rfl rfl (fun _ _ => rfl) (.inl rfl) ?_
  simp [view, held, Entry.withState, Reply.answer]

theorem releaseClaim_serves (sound : s.Sound) (id : DeliveryId) (claim : DeliveryClaim) :
    Serves s id (Entry.releaseClaim claim) (s.releaseClaim id claim) := by
  refine fencedAction_serves sound .release claim ?_
  intro d record pending counter
  have eligible := ((sound id).keyed d record).2
  refine .write sound ?_ ?_ ?_
  · intro id' away
    simp [slot, away]
  · have gone : (s.claims.delete id).get id = none := by simp
    exact (sound id).rewrite record record rfl eligible gone
  · simp [view, held, Entry.release, Reply.answer, record]

/-- A renewal of a claim that is not held is turned away, whatever its lease. -/
theorem renewClaim_unowned (sound : s.Sound) {id : DeliveryId} {claim : DeliveryClaim} (lease : Number) (expires : ℕ)
    (owned : s.owns id claim.ownerId claim.generation (some nowMillis) = false) :
    Serves s id (Entry.renewClaim nowMillis claim expires) (s.renewClaim nowMillis id claim lease) := by
  unfold renewClaim Entry.renewClaim
  simp only [owned, Bool.not_false, if_true]
  refine .unchanged sound ?_
  cases h : s.records.get id with
  | none => rw [view_eq_none.2 h]; rfl
  | some d =>
    rw [view_of_record h, Entry.fenced, if_neg]
    · rfl
    · rw [holds_held, owned, Bool.and_false]; exact nofun

/-- A renewal finds a pending record although it never looks at one. -/
theorem renewClaim_serves (sound : s.Sound) (id : DeliveryId) (claim : DeliveryClaim)
    {lease : Number} {expires : ℕ} (instant : wholeMillis (nowMillis + lease) = some expires) :
    Serves s id (Entry.renewClaim nowMillis claim expires) (s.renewClaim nowMillis id claim lease) := by
  by_cases owned : s.owns id claim.ownerId claim.generation (some nowMillis) = true
  · unfold renewClaim Entry.renewClaim
    have granted : DeliveryClaim.make claim.ownerId claim.generation (nowMillis + lease) =
        some { claim with leaseExpiresAtMillis := expires } := by
      rw [DeliveryClaim.make, instant]; rfl
    simp only [owned, Bool.not_true, if_neg Bool.false_ne_true, granted]
    obtain ⟨c, hc⟩ : ∃ c, s.claims.get id = some c := by
      unfold owns at owned
      split at owned
      · cases owned
      · next c hc => exact ⟨c, hc⟩
    obtain ⟨-, d, record, pending⟩ := (sound id).claimed c hc
    have record : s.records.get id = some d := record
    have holds : (s.held id d).holds claim.ownerId claim.generation (some nowMillis) = true := by
      rw [holds_held, decide_eq_true pending, owned]; rfl
    have generation := (sound.held_claim holds).2
    refine .write sound ?_ ⟨?_, ?_, ?_⟩ ?_
    · intro id' away
      simp [slot, away]
    · exact (sound id).keyed
    · intro absent
      rw [show s.records.get id = none from absent] at record
      cases record
    · intro c' hc'
      simp only [slot, OrderedMap.get_set, if_true, Option.some.injEq] at hc'
      subst hc'
      exact ⟨generation, d, record, pending⟩
    · rw [view_of_record record, Entry.fenced, if_pos holds]
      simp [view, held, Entry.renew, Reply.answer, record]
  · rw [Bool.not_eq_true] at owned
    exact renewClaim_unowned sound lease expires owned

/-- The opening check of the operator actions is the check of the ledger. -/
theorem deadLetterAction_serves (sound : s.Sound) {act : Delivery → Reply × MemoryStore}
    {op : Entry → Answer × Option Entry}
    (acts : ∀ d, s.records.get id = some d → Serves s id (fun _ => op (s.held id d)) (act d)) :
    Serves s id (Entry.recovered op) (s.deadLetterAction id act) := by
  unfold deadLetterAction
  cases h : s.records.get id with
  | none => exact .unchanged sound (by rw [view_eq_none.2 h]; rfl)
  | some d =>
    simp only
    cases state : d.state with
    | deadLettered reason =>
      have acted : Entry.recovered op (s.view id) = op (s.held id d) := by
        rw [view_of_record h, Entry.recovered, if_pos]
        rw [show (s.held id d).delivery = d from rfl, state]
        rfl
      have done := acts d h
      exact ⟨by rw [acted]; exact done.answer, by rw [acted]; exact done.view, done.sound⟩
    | pending | delivered | rejected | terminated =>
      refine .unchanged sound ?_
      rw [view_of_record h, Entry.recovered, if_neg]
      · rfl
      · rw [show (s.held id d).delivery = d from rfl, state]; exact nofun

theorem retryDeadLetter_serves (sound : s.Sound) (id : DeliveryId) :
    Serves s id (Entry.retryDeadLetter nowMillis) (s.retryDeadLetter nowMillis id) := by
  refine deadLetterAction_serves sound ?_
  intro d record
  refine .unclaim sound record rfl rfl rfl rfl rfl (fun _ _ => rfl) (.inr ⟨_, rfl⟩) ?_
  simp [view, held, Entry.retry, Entry.withState, Reply.answer]

theorem repairDeadLetter_serves (sound : s.Sound) (id : DeliveryId) (route : DeliveryRouteSnapshot) :
    Serves s id (Entry.repairDeadLetter nowMillis route) (s.repairDeadLetter nowMillis id route) := by
  refine deadLetterAction_serves sound ?_
  intro d record
  rw [show (s.held id d).delivery = d from rfl]
  by_cases match' : d.destinationId = route.destinationId
  · simp only [ne_eq, match', not_true_eq_false, if_false, if_true]
    refine .unclaim sound record rfl rfl rfl rfl rfl ?_ (.inr ⟨_, rfl⟩) ?_
    · intro id' away
      simp [away]
    · simp [view, held, Entry.repair, Entry.retry, Entry.withState, Reply.answer, match']
  · simp only [ne_eq, match', not_false_eq_true, if_true, if_false]
    exact .unchanged sound (by rw [view_of_record record]; rfl)

theorem terminateDeadLetter_serves (sound : s.Sound) (id : DeliveryId) :
    Serves s id Entry.terminateDeadLetter (s.terminateDeadLetter id) := by
  refine deadLetterAction_serves sound ?_
  intro d record
  refine .unclaim sound record rfl rfl rfl rfl rfl (fun _ _ => rfl) (.inl rfl) ?_
  simp [view, held, Entry.withState, Reply.answer]

/-- **Every call on one delivery does to the maps what its specification does to the entry.** -/
theorem exec_serves (sound : s.Sound) {call : StoreCall} {op : Option Entry → Answer × Option Entry}
    (about : call.onEntry nowMillis = some (id, op)) : Serves s id op (s.exec nowMillis call) := by
  cases call with
  | save delivery => cases about; exact save_serves sound delivery
  | findById id => cases about; exact findById_serves sound id
  | recordAttempt attempt => cases about; exact recordAttempt_serves sound attempt
  | completeClaim id claim result => cases about; exact completeClaim_serves sound id claim result
  | releaseClaim id claim => cases about; exact releaseClaim_serves sound id claim
  | retryDeadLetter id => cases about; exact retryDeadLetter_serves sound id
  | repairDeadLetter id route => cases about; exact repairDeadLetter_serves sound id route
  | terminateDeadLetter id => cases about; exact terminateDeadLetter_serves sound id
  | renewClaim id claim lease =>
    obtain ⟨p, whole, hp⟩ := Option.map_eq_some_iff.1 about
    cases hp
    exact renewClaim_serves sound id claim (wholeMillis_add whole)
  | accept | savePending | claimPending => cases about

end MemoryStore

end Relay
