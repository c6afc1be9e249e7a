import Relay.Ledger.Attempts
import Relay.Ledger.Lifecycle
import Relay.Store.Events
import Relay.Store.Fencing
import Mathlib.Data.Set.Card

/-!
# When pending work is claimable

One claim of the maps takes as many due deliveries as its limit allows and nothing
else, unless their leases would end past the safe integers: then the first of them
throws. A recorded retry postpones the delivery until its delay is over, and every
pending delivery falls due: from then on claims reach it after finitely many calls,
whatever their limit. The tables give nothing to a claim, which the database refuses;
whatever is pending there stays where it is. The runs are those of the calls without
bounds, which are more; the claims are served within them.
-/

namespace Relay

/-- The deliveries a claim for the destination may take. -/
def Ledger.due (L : Ledger) (destinationId : DestinationId) (nowMillis : ℕ) : Set DeliveryId :=
  {id | ∃ e, L id = some e ∧ e.due destinationId nowMillis = true}

/-- A claim that took all it may: the batch is as long as the limit and the due deliveries allow. -/
structure ExactBatch (nowMillis : ℕ) (ownerId : WorkerId) (destinationId : DestinationId) (limit lease : ℕ+)
    (L : Ledger) (claimed : List ClaimedDelivery) (L' : Ledger) : Prop
    extends ClaimBatch nowMillis ownerId destinationId (nowMillis + lease) L claimed L' where
  finite : (L.due destinationId nowMillis).Finite
  count : claimed.length = min (limit : ℕ) (L.due destinationId nowMillis).ncard

section Batch

variable {nowMillis expires : ℕ} {ownerId : WorkerId} {destinationId : DestinationId} {limit lease : ℕ+}
  {L L' : Ledger} {claimed : List ClaimedDelivery}

/-- The due deliveries counted by a list of them. -/
theorem Ledger.due_listed {ids : List DeliveryId} (distinct : ids.Nodup)
    (listed : ∀ id, id ∈ ids ↔ ∃ e, L id = some e ∧ e.due destinationId nowMillis = true) :
    (L.due destinationId nowMillis).Finite ∧ (L.due destinationId nowMillis).ncard = ids.length := by
  have same : L.due destinationId nowMillis = (ids.toFinset : Set DeliveryId) := by
    ext id
    rw [Finset.mem_coe, List.mem_toFinset, listed]
    rfl
  rw [same]
  exact ⟨Finset.finite_toSet _, by rw [Set.ncard_coe_finset, List.toFinset_card_of_nodup distinct]⟩

theorem ClaimBatch.exact (batch : ClaimBatch nowMillis ownerId destinationId (nowMillis + lease) L claimed L')
    {ids : List DeliveryId} (distinct : ids.Nodup)
    (listed : ∀ id, id ∈ ids ↔ ∃ e, L id = some e ∧ e.due destinationId nowMillis = true)
    (count : claimed.length = min (limit : ℕ) ids.length) :
    ExactBatch nowMillis ownerId destinationId limit lease L claimed L' := by
  obtain ⟨finite, counted⟩ := Ledger.due_listed distinct listed
  exact ⟨batch, finite, by rw [count, counted]⟩

/-- A claim takes the deliveries in its batch out of those that are due, and no others. -/
theorem ExactBatch.due_after (batch : ExactBatch nowMillis ownerId destinationId limit lease L claimed L') :
    L'.due destinationId nowMillis = {id ∈ L.due destinationId nowMillis | ∀ c ∈ claimed, c.delivery.id ≠ id} := by
  ext id
  by_cases taken : ∀ c ∈ claimed, c.delivery.id ≠ id
  · have same := batch.others id taken
    simp only [Ledger.due, Set.mem_ofPred_eq, same]
    exact ⟨fun due => ⟨due, taken⟩, fun both => both.1⟩
  · have never : id ∉ L'.due destinationId nowMillis := by
      rintro ⟨e', after, due⟩
      push Not at taken
      obtain ⟨c, member, rfl⟩ := taken
      obtain ⟨e, -, -, -, -, -, -, -, issued⟩ := batch.each c member
      rw [issued, Option.some.injEq] at after
      subst after
      have positive := lease.pos
      simp only [Entry.due, Entry.issue, Entry.issuedClaim, Bool.and_eq_true, decide_eq_true_eq] at due
      omega
    exact ⟨fun due => absurd due never, fun both => absurd both.2 taken⟩

theorem ExactBatch.taken (batch : ExactBatch nowMillis ownerId destinationId limit lease L claimed L') :
    ∀ c ∈ claimed, c.delivery.id ∈ L.due destinationId nowMillis := by
  intro c member
  obtain ⟨e, held, due, -⟩ := batch.each c member
  exact ⟨e, held, due⟩

/-- While something is due, each claim leaves less of it. -/
theorem ExactBatch.decreases (batch : ExactBatch nowMillis ownerId destinationId limit lease L claimed L')
    {id : DeliveryId} (due : id ∈ L.due destinationId nowMillis) :
    (L'.due destinationId nowMillis).ncard < (L.due destinationId nowMillis).ncard := by
  have some : 0 < (L.due destinationId nowMillis).ncard := (Set.ncard_pos batch.finite).2 ⟨id, due⟩
  have nonempty : 0 < claimed.length := by
    have positive := limit.pos
    have count := batch.count
    omega
  obtain ⟨c, member⟩ := List.exists_mem_of_length_pos nonempty
  refine Set.ncard_lt_ncard ?_ batch.finite
  rw [batch.due_after, Set.ssubset_iff_of_subset (Set.sep_subset _ _)]
  exact ⟨c.delivery.id, batch.taken c member, fun both => both.2 c member rfl⟩

end Batch

/-! ## When a delivery falls due -/

/-- From this instant on nothing but its state keeps the delivery from being claimed. -/
def Entry.dueFrom (e : Entry) : ℕ := max e.nextEligibleAt (e.claim.elim 0 (·.leaseExpiresAtMillis))

theorem Entry.due_from {e : Entry} (pending : e.delivery.state = .pending) {nowMillis : ℕ}
    (later : e.dueFrom ≤ nowMillis) : e.due e.delivery.destinationId nowMillis = true := by
  unfold Entry.dueFrom at later
  cases held : e.claim with
  | none =>
    rw [held] at later
    simp only [Option.elim_none] at later
    simp only [Entry.due, pending, held, decide_true, Bool.true_and, Bool.and_true, decide_eq_true_eq]
    omega
  | some claim =>
    rw [held] at later
    simp only [Option.elim_some] at later
    simp only [Entry.due, pending, held, decide_true, Bool.true_and, Bool.and_eq_true, decide_eq_true_eq]
    omega

/-- The call moves the instant the delivery becomes eligible: it schedules a retry, or an operator reopens it. -/
def StoreCall.Reschedules (id : DeliveryId) (call : StoreCall) (answer : Answer) : Prop :=
  (∃ value, answer = .ok value) ∧
    ((∃ attempt, call = .recordAttempt attempt ∧ attempt.deliveryId = id ∧ attempt.decision = .retryScheduled) ∨
      call = .retryDeadLetter id ∨ ∃ route, call = .repairDeadLetter id route)

section Eligible

variable {nowMillis : ℕ} {L L' : Ledger} {call : StoreCall} {answer : Answer} {id : DeliveryId} {e : Entry}

theorem Served.eligible (served : Served nowMillis L call answer L') (held : L id = some e)
    (still : ¬ call.Reschedules id answer) : ∃ e', L' id = some e' ∧ e'.nextEligibleAt = e.nextEligibleAt := by
  cases answer with
  | error tag => exact ⟨e, served.failed held, rfl⟩
  | ok value =>
    obtain ⟨e', after, -⟩ := served.advances held
    have effect := served.effect id
    rw [held, after] at effect
    refine ⟨e', after, ?_⟩
    generalize issued id (.ok value : Answer) = generations at effect
    cases effect with
    | same | issued | settled | renewed | completed | released | terminated => rfl
    | scheduled attempt named e holds new retry =>
      have scheduled : attempt.decision = .retryScheduled := by
        by_contra other
        obtain ⟨state, last, -⟩ := terminalStateFromAttempt_some other
        rw [retry] at last
        cases last
      exact absurd ⟨⟨value, rfl⟩, .inl ⟨attempt, rfl, named, scheduled⟩⟩ still
    | retried => exact absurd ⟨⟨value, rfl⟩, .inr (.inl rfl)⟩ still
    | repaired route => exact absurd ⟨⟨value, rfl⟩, .inr (.inr ⟨route, rfl⟩)⟩ still

/-- A recorded retry postpones the delivery to the end of its delay. -/
theorem Served.postponed {attempt : DeliveryAttemptRecord} {value : StoreValue}
    (served : Served nowMillis L (.recordAttempt attempt) (.ok value) L') (retry : attempt.decision = .retryScheduled) :
    ∃ e, L' attempt.deliveryId = some e ∧
      e.nextEligibleAt = attempt.completedAtMillis + attempt.retryDelayMillis.getD 0 := by
  obtain ⟨-, e, e', -, -, after, ⟨-, rfl⟩ | ⟨state, last, -⟩⟩ | ⟨⟨tag, failed⟩, -⟩ := served.recordAttempt
  · exact ⟨_, by rw [after, Function.update_self], rfl⟩
  · rw [terminalStateFromAttempt, retry] at last
    cases last
  · cases failed

end Eligible

/-! ## Claims of a store -/

namespace EventMachine

/-- The runs of the application, which creates deliveries through intake only. -/
def application (M : EventMachine) : TransitionSystem M.Store M.Event :=
  M.system.restrict fun _ l => ∀ delivery, M.call l.call ≠ .save delivery

/-- What a claim for as many as `limit` due deliveries does to the store. -/
structure Claims (M : EventMachine) (nowMillis : ℕ) (ownerId : WorkerId) (destinationId : DestinationId)
    (limit lease : ℕ+) (s : M.Store) (claimed : List ClaimedDelivery) (s' : M.Store) : Prop
    extends ExactBatch nowMillis ownerId destinationId limit lease (M.view s) claimed (M.view s') where
  events : ∀ c ∈ claimed, M.stored s c.delivery.eventId = some c.event

/-- Every delivery has its event stored. -/
def AllStored (M : EventMachine) (s : M.Store) : Prop :=
  ∀ id e, M.view s id = some e → M.stored s e.delivery.eventId ≠ none

/-- What claiming exactly asks of an adapter that serves calls so. -/
structure Claiming (M : EventMachine) (serve : ℕ → M.Store → M.Call → Reply × M.Store) : Prop where
  lawful : M.Lawful
  stays : ∀ {s : M.Store} (nowMillis : ℕ) (c : M.Call) {id : EventId}, M.Sound s → M.stored s id ≠ none →
    M.stored (M.exec nowMillis s c).2 id ≠ none
  claims : ∀ {s : M.Store} (nowMillis : ℕ) (ownerId : WorkerId) (destinationId : DestinationId) (limit lease : ℕ+)
    {c : M.Call}, M.call c = .claimPending ownerId destinationId ((limit : ℕ) : Number) ((lease : ℕ) : Number) →
    M.Sound s → M.AllStored s → ∃ claimed s', M.exec nowMillis s c = (.ok (.claimed claimed), s') ∧
      ExactBatch nowMillis ownerId destinationId limit lease (M.view s) claimed (M.view s')
  within : ∀ {s : M.Store} {nowMillis : ℕ} {ownerId : WorkerId} {destinationId : DestinationId} {limit lease : ℕ+}
    {c : M.Call},
    M.call c = .claimPending ownerId destinationId ((limit : ℕ) : Number) ((lease : ℕ) : Number) →
    nowMillis + (lease : ℕ) ≤ maxSafeInteger → serve nowMillis s c = M.exec nowMillis s c
  /-- Leases past the safe integers are not granted, and where nothing is due none has to be. -/
  beyond : ∀ {s : M.Store} {nowMillis : ℕ} {ownerId : WorkerId} {destinationId : DestinationId} {limit lease : ℕ+}
    {c : M.Call},
    M.call c = .claimPending ownerId destinationId ((limit : ℕ) : Number) ((lease : ℕ) : Number) →
    ¬ nowMillis + (lease : ℕ) ≤ maxSafeInteger → M.Sound s → ∃ reply, serve nowMillis s c = (reply, s) ∧
      handedOut reply = [] ∧ ((M.view s).due destinationId nowMillis = ∅ → reply = .ok (.claimed []))

/-- A claim for the destination at this clock, under any owner, limit and lease. -/
def ClaimsFor (M : EventMachine) (destinationId : DestinationId) (c : M.Call) : Prop :=
  ∃ (ownerId : WorkerId) (limit lease : ℕ+),
    M.call c = .claimPending ownerId destinationId ((limit : ℕ) : Number) ((lease : ℕ) : Number)

/-- The store after the same call was served `n` times at one clock reading. -/
def repeated (M : EventMachine) (serve : ℕ → M.Store → M.Call → Reply × M.Store) (nowMillis : ℕ) (c : M.Call) (s : M.Store)
    (n : ℕ) : M.Store :=
  (fun s => (serve nowMillis s c).2)^[n] s

/-- **Pending work is claimable exactly when it is due**, each time it is asked for, exactly if claims run and a lease that is
granted ends at a safe integer. -/
structure ClaimsDue (M : EventMachine) (serve : ℕ → M.Store → M.Call → Reply × M.Store) (ClaimsRun : Prop) : Prop where
  exact : ∀ {s}, M.application.Reachable s → ∀ nowMillis ownerId destinationId (limit lease : ℕ+) c,
    M.call c = .claimPending ownerId destinationId ((limit : ℕ) : Number) ((lease : ℕ) : Number) →
    ((∃ claimed s', serve nowMillis s c = (.ok (.claimed claimed), s') ∧
      M.Claims nowMillis ownerId destinationId limit lease s claimed s') ↔
      ClaimsRun ∧ (((M.view s).due destinationId nowMillis).Nonempty → nowMillis + (lease : ℕ) ≤ maxSafeInteger))
  /-- No claim before the delay of the last scheduled retry is over, unless an operator acted. -/
  postponed : ∀ {s}, M.application.Reachable s → ∀ l s₁ attempt value, M.application.step s l s₁ →
    M.call l.call = .recordAttempt attempt → attempt.decision = .retryScheduled → l.reply = .ok value →
    ∀ calls s', M.application.Path s₁ calls s' →
    (∀ l' ∈ calls, ¬ (M.call l'.call).Reschedules attempt.deliveryId l'.reply.answer) →
    ∀ nowMillis c, M.Fresh s' c → ∀ d ∈ handedOut (M.exec nowMillis s' c).1, d.delivery.id = attempt.deliveryId →
      attempt.completedAtMillis + attempt.retryDelayMillis.getD 0 ≤ nowMillis
  /-- Every pending delivery falls due, and then finitely many claims reach it. -/
  claimable : ∀ {s}, M.application.Reachable s → ∀ id e, M.view s id = some e → e.delivery.state = .pending →
    ∀ nowMillis ≥ e.dueFrom, e.due e.delivery.destinationId nowMillis = true ∧ ∀ ownerId (limit lease : ℕ+) c,
      M.call c = .claimPending ownerId e.delivery.destinationId ((limit : ℕ) : Number) ((lease : ℕ) : Number) →
      ((∃ n, ∃ d ∈ handedOut (serve nowMillis (M.repeated serve nowMillis c s n) c).1, d.delivery.id = id) ↔
        ClaimsRun ∧ nowMillis + (lease : ℕ) ≤ maxSafeInteger)

variable {M : EventMachine} {serve : ℕ → M.Store → M.Call → Reply × M.Store} {s s' : M.Store}

/-- In the runs of the application every delivery has its event stored. -/
theorem Claiming.allStored (claiming : M.Claiming serve) (reachable : M.application.Reachable s) : M.Sound s ∧ M.AllStored s := by
  apply reachable.invariant fun s => M.Sound s ∧ M.AllStored s
  · refine ⟨claiming.lawful.store.sound_empty, ?_⟩
    intro id e held
    have absent : M.view M.application.init id = none := congrFun claiming.lawful.store.view_empty id
    rw [absent] at held
    cases held
  · rintro s l s' ⟨sound, stored⟩ ⟨⟨fresh, run⟩, unsaved⟩
    obtain ⟨sound', served⟩ := claiming.lawful.store.step sound ⟨fresh, run⟩
    refine ⟨sound', ?_⟩
    intro id e' held'
    have after : s' = (M.exec l.nowMillis s l.call).2 := by rw [run]
    cases held : M.view s id with
    | some e =>
      obtain ⟨e'', held'', identical, -⟩ := served.rerouted held
      rw [held', Option.some.injEq] at held''
      subst held''
      rw [identical.eventId, after]
      exact claiming.stays l.nowMillis l.call sound (stored id e held)
    | none =>
      have effect := served.effect id
      rw [held, held'] at effect
      obtain ⟨delivery, saved⟩ | event := effect.created
      · exact absurd saved (unsaved delivery)
      · obtain ⟨event, brings, same⟩ := Option.map_eq_some_iff.1 event
        have there : M.view (M.exec l.nowMillis s l.call).2 id ≠ none := by
          rw [← after, held']
          exact Option.some_ne_none e'
        have kept := claiming.lawful.created l.nowMillis sound (effect.creates brings) brings held there
        rw [← same, after, kept]
        exact Option.some_ne_none event

/-- A call that claims is one of the application's, and leaves a reachable store. -/
theorem step_claims (reachable : M.application.Reachable s) {destinationId : DestinationId} {c : M.Call}
    (claims : M.ClaimsFor destinationId c) (nowMillis : ℕ) : M.application.Reachable (M.exec nowMillis s c).2 := by
  obtain ⟨ownerId, limit, lease, call⟩ := claims
  have fresh : M.Fresh s c := by
    intro id creates
    rw [call] at creates
    cases creates
  refine reachable.step (l := ⟨nowMillis, c, (M.exec nowMillis s c).1⟩) ⟨M.step_of_fresh nowMillis fresh, ?_⟩
  intro delivery saved
  rw [show M.call c = _ from call] at saved
  cases saved

/-- Claims at one instant reach a delivery that is due, by induction on how many are due. -/
theorem Claiming.reached (claiming : M.Claiming serve) {nowMillis : ℕ} {destinationId : DestinationId} {c : M.Call}
    (claims : M.ClaimsFor destinationId c) {id : DeliveryId} (count : ℕ) :
    ∀ {s : M.Store}, M.application.Reachable s → id ∈ (M.view s).due destinationId nowMillis →
      ((M.view s).due destinationId nowMillis).ncard ≤ count →
      ∃ n, ∃ d ∈ handedOut (M.exec nowMillis (M.repeated M.exec nowMillis c s n) c).1, d.delivery.id = id := by
  obtain ⟨ownerId, limit, lease, call⟩ := claims
  induction count with
  | zero =>
    intro s reachable due few
    obtain ⟨sound, stored⟩ := claiming.allStored reachable
    obtain ⟨claimed, s', run, batch⟩ := claiming.claims nowMillis ownerId destinationId limit lease call sound stored
    have fewer := batch.decreases due
    omega
  | succ count ih =>
    intro s reachable due few
    obtain ⟨sound, stored⟩ := claiming.allStored reachable
    obtain ⟨claimed, s', run, batch⟩ := claiming.claims nowMillis ownerId destinationId limit lease call sound stored
    by_cases taken : ∃ d ∈ claimed, d.delivery.id = id
    · refine ⟨0, ?_⟩
      show ∃ d ∈ handedOut (M.exec nowMillis s c).1, d.delivery.id = id
      rw [run]
      exact taken
    · push Not at taken
      have fewer := batch.decreases due
      have still : id ∈ (M.view s').due destinationId nowMillis := by
        rw [batch.due_after]
        exact ⟨due, taken⟩
      have reachable' : M.application.Reachable s' := by
        have next := step_claims reachable ⟨ownerId, limit, lease, call⟩ nowMillis
        rw [run] at next
        exact next
      obtain ⟨n, reached⟩ := ih reachable' still (by omega)
      refine ⟨n + 1, ?_⟩
      have next : M.repeated M.exec nowMillis c s (n + 1) = M.repeated M.exec nowMillis c s' n := by
        unfold repeated
        rw [Function.iterate_succ_apply, run]
      rw [next]
      exact reached

theorem Lawful.eligible_along (lawful : M.Lawful) {id : DeliveryId} {instant : ℕ} {calls : List M.Event}
    (path : M.application.Path s calls s') (sound : M.Sound s)
    (start : ∃ e, M.view s id = some e ∧ e.nextEligibleAt = instant)
    (still : ∀ l ∈ calls, ¬ (M.call l.call).Reschedules id l.reply.answer) :
    M.Sound s' ∧ ∃ e, M.view s' id = some e ∧ e.nextEligibleAt = instant := by
  induction path with
  | nil => exact ⟨sound, start⟩
  | snoc _ step ih =>
    obtain ⟨sound₁, e, held, eligible⟩ := ih fun l earlier => still l (List.mem_append_left _ earlier)
    obtain ⟨sound₂, served⟩ := lawful.store.step sound₁ step.1
    obtain ⟨e', held', same⟩ := served.eligible held (still _ (List.mem_append_right _ (List.mem_singleton_self _)))
    exact ⟨sound₂, e', held', same.trans eligible⟩

theorem Lawful.sound_application (lawful : M.Lawful) (reachable : M.application.Reachable s) : M.Sound s := by
  apply reachable.invariant M.Sound lawful.store.sound_empty
  intro s l s' sound step
  exact (lawful.store.step sound step.1).1

/-- A scheduled retry is not claimed early, in any lawful store. -/
theorem Lawful.postponed (lawful : M.Lawful) (reachable : M.application.Reachable s) {l : M.Event} {s₁ : M.Store}
    {attempt : DeliveryAttemptRecord} {value : StoreValue} (step : M.application.step s l s₁)
    (call : M.call l.call = .recordAttempt attempt) (retry : attempt.decision = .retryScheduled)
    (reply : l.reply = .ok value) {calls : List M.Event} (path : M.application.Path s₁ calls s')
    (still : ∀ l' ∈ calls, ¬ (M.call l'.call).Reschedules attempt.deliveryId l'.reply.answer) (nowMillis : ℕ) {c : M.Call}
    (fresh : M.Fresh s' c) : ∀ d ∈ handedOut (M.exec nowMillis s' c).1, d.delivery.id = attempt.deliveryId →
      attempt.completedAtMillis + attempt.retryDelayMillis.getD 0 ≤ nowMillis := by
  intro d member same
  obtain ⟨sound₁, served⟩ := lawful.store.step (lawful.sound_application reachable) step.1
  rw [show M.call l.call = _ from call, reply] at served
  obtain ⟨sound', e, held, eligible⟩ := lawful.eligible_along path sound₁ (served.postponed retry) still
  have claims := lawful.store.served nowMillis c sound' fresh
  rw [← handedOut_answer] at member
  obtain ⟨creates, -⟩ | ⟨ownerId, destinationId, limit, lease, deliveries, e', -, -, -, held', -, due⟩ :=
    claims.handsOut_origin member
  · rw [same] at creates
    rw [fresh _ creates] at held
    cases held
  · rw [same, held, Option.some.injEq] at held'
    subst held'
    simp only [Entry.due, Bool.and_eq_true, decide_eq_true_eq] at due
    rw [← eligible]
    exact due.1.2

/-- Claims that are not granted leave the store where it is. -/
theorem repeated_same {nowMillis : ℕ} {c : M.Call} (same : (serve nowMillis s c).2 = s) (n : ℕ) :
    M.repeated serve nowMillis c s n = s :=
  Function.iterate_fixed same n

section Granted

variable {nowMillis : ℕ} {ownerId : WorkerId} {destinationId : DestinationId} {limit lease : ℕ+} {c : M.Call}

/-- Leases that end at a safe integer are granted to all the call may take. -/
theorem Claiming.granted (claiming : M.Claiming serve) (reachable : M.application.Reachable s)
    (call : M.call c = .claimPending ownerId destinationId ((limit : ℕ) : Number) ((lease : ℕ) : Number))
    (safe : nowMillis + (lease : ℕ) ≤ maxSafeInteger) :
    ∃ claimed s', serve nowMillis s c = (.ok (.claimed claimed), s') ∧
      M.Claims nowMillis ownerId destinationId limit lease s claimed s' := by
  obtain ⟨sound, stored⟩ := claiming.allStored reachable
  obtain ⟨claimed, s', run, batch⟩ := claiming.claims nowMillis ownerId destinationId limit lease call sound stored
  refine ⟨claimed, s', (claiming.within call safe).trans run, batch, ?_⟩
  exact claiming.lawful.claimed nowMillis call (by rw [run])

/-- Others only to nothing. -/
theorem Claiming.ungranted (claiming : M.Claiming serve) (reachable : M.application.Reachable s)
    (call : M.call c = .claimPending ownerId destinationId ((limit : ℕ) : Number) ((lease : ℕ) : Number))
    (beyond : ¬ nowMillis + (lease : ℕ) ≤ maxSafeInteger) :
    (∃ claimed s', serve nowMillis s c = (.ok (.claimed claimed), s') ∧
      M.Claims nowMillis ownerId destinationId limit lease s claimed s') ↔
      (M.view s).due destinationId nowMillis = ∅ := by
  obtain ⟨reply, served, nobody, idle⟩ := claiming.beyond call beyond (claiming.allStored reachable).1
  constructor
  · rintro ⟨claimed, s', run, claims⟩
    rw [served, Prod.mk.injEq] at run
    obtain ⟨rfl, -⟩ := run
    have none : claimed = [] := nobody
    have count := claims.count
    have positive := limit.pos
    rw [none, List.length_nil] at count
    have uncounted : ((M.view s).due destinationId nowMillis).ncard = 0 := by omega
    exact (Set.ncard_eq_zero claims.finite).1 uncounted
  · intro empty
    refine ⟨[], s, by rw [served, idle empty], ⟨⟨.nil, ?_, ?_⟩, fun c member => by cases member⟩⟩
    · rw [empty]
      exact Set.finite_empty
    · rw [empty, Set.ncard_empty, Nat.min_zero, List.length_nil]

end Granted

/-- **Every adapter that claims exactly claims what is due.** -/
theorem Claiming.claimsDue (claiming : M.Claiming serve) : M.ClaimsDue serve True where
  exact := by
    intro s reachable nowMillis ownerId destinationId limit lease c call
    rw [true_and]
    by_cases safe : nowMillis + (lease : ℕ) ≤ maxSafeInteger
    · exact iff_of_true (claiming.granted reachable call safe) fun _ => safe
    · rw [claiming.ungranted reachable call safe, ← Set.not_nonempty_iff_eq_empty]
      exact ⟨fun nothing due => absurd due nothing, fun safely due => safe (safely due)⟩
  postponed := fun reachable _ _ _ _ step call retry reply _ _ path still nowMillis _ fresh =>
    claiming.lawful.postponed reachable step call retry reply path still nowMillis fresh
  claimable := by
    intro s reachable id e held pending nowMillis later
    have due := Entry.due_from pending later
    refine ⟨due, ?_⟩
    intro ownerId limit lease c call
    rw [true_and]
    by_cases safe : nowMillis + (lease : ℕ) ≤ maxSafeInteger
    · obtain ⟨n, reached⟩ := claiming.reached ⟨ownerId, limit, lease, call⟩ _ reachable ⟨e, held, due⟩ le_rfl
      have same : (fun s => (serve nowMillis s c).2) = fun s => (M.exec nowMillis s c).2 := by
        funext s
        rw [claiming.within call safe]
      refine iff_of_true ⟨n, ?_⟩ safe
      rw [claiming.within call safe, repeated, same]
      exact reached
    · obtain ⟨reply, served, nobody, -⟩ := claiming.beyond call safe (claiming.allStored reachable).1
      have still : (serve nowMillis s c).2 = s := by rw [served]
      refine iff_of_false ?_ safe
      rintro ⟨n, d, member, -⟩
      rw [repeated_same still n, served, nobody] at member
      cases member

/-- An adapter that refuses every claim never claims what is due. -/
theorem Lawful.claimsNone (lawful : M.Lawful) (refused : ∀ (s : M.Store) (nowMillis : ℕ) {c : M.Call}
    {destinationId : DestinationId}, M.ClaimsFor destinationId c → ∃ failure, (serve nowMillis s c).1 = .error failure) :
    M.ClaimsDue serve False where
  exact := by
    intro s reachable nowMillis ownerId destinationId limit lease c call
    refine iff_of_false ?_ fun both => both.1
    rintro ⟨claimed, s', run, -⟩
    obtain ⟨failure, refused⟩ := refused s nowMillis ⟨ownerId, limit, lease, call⟩
    rw [run] at refused
    cases refused
  postponed := fun reachable _ _ _ _ step call retry reply _ _ path still nowMillis _ fresh =>
    lawful.postponed reachable step call retry reply path still nowMillis fresh
  claimable := by
    intro s reachable id e held pending nowMillis later
    refine ⟨Entry.due_from pending later, ?_⟩
    intro ownerId limit lease c call
    refine iff_of_false ?_ fun both => both.1
    rintro ⟨n, d, member, -⟩
    obtain ⟨failure, refused⟩ := refused (M.repeated serve nowMillis c s n) nowMillis ⟨ownerId, limit, lease, call⟩
    rw [refused] at member
    cases member

end EventMachine

/-! ## The adapters -/

/-- The calls within the bounds of the schemas and the columns. -/
def Adapter.serve : (adapter : Adapter) → ℕ → adapter.events.Store → adapter.events.Call → Reply × adapter.events.Store
  | .memory => MemoryStore.serve
  | .postgres => Postgres.Database.serveStatement

/-- When nothing is due the loop skips every delivery, whatever leases would be. -/
theorem MemoryStore.claimPendingLoop_idle {nowMillis : ℕ} (ownerId : WorkerId) {destinationId : DestinationId}
    (limit lease : Number) {s : MemoryStore} (deliveries : List Delivery)
    (idle : ∀ d ∈ deliveries, (s.held d.id d).due destinationId nowMillis = false) :
    claimPendingLoop nowMillis ownerId destinationId limit lease deliveries [] s = (.ok (.claimed []), s) := by
  induction deliveries with
  | nil => rfl
  | cons delivery rest ih =>
    have skips : s.skips nowMillis destinationId limit [] delivery = true := by
      rw [skips_eq, idle delivery List.mem_cons_self, Bool.not_false, Bool.or_true]
    rw [claimPendingLoop, if_pos skips]
    exact ih fun d member => idle d (List.mem_cons_of_mem _ member)

theorem memory_claiming : memoryEvents.Claiming MemoryStore.serve where
  lawful := memoryEvents_lawful
  stays := by
    intro s nowMillis call id _ stored
    exact MemoryStore.exec_stays stored
  claims := by
    intro s nowMillis ownerId destinationId limit lease call claims sound stored
    obtain rfl : call = _ := claims
    have instant : wholeMillis ((nowMillis : Number) + ((lease : ℕ) : Number)) = some (nowMillis + lease) :=
      wholeMillis_add (positiveInteger_natCast lease)
    have everyEvent : ∀ d ∈ s.records.values, s.events.get d.eventId ≠ none := by
      intro d member
      exact stored d.id _ (MemoryStore.view_of_record (MemoryStore.Sound.values sound |>.1 d member))
    obtain ⟨claimed, s', run, batch, count⟩ :=
      MemoryStore.claimPending_exact nowMillis sound everyEvent ownerId destinationId limit instant
    exact ⟨claimed, s', run, batch.exact (MemoryStore.dueIds_nodup sound) (fun _ => MemoryStore.mem_dueIds sound) count⟩
  within := by
    intro s nowMillis ownerId destinationId limit lease call claims safe
    obtain rfl : call = _ := claims
    exact MemoryStore.serve_claimPending ownerId destinationId _ (by exact_mod_cast safe)
  beyond := by
    intro s nowMillis ownerId destinationId limit lease call claims beyond sound
    obtain rfl : call = _ := claims
    have past : ¬ (nowMillis : Number) + ((lease : ℕ) : Number) ≤ maxSafeInteger := by exact_mod_cast beyond
    by_cases nothing : Ledger.due (memoryEvents.view s) destinationId nowMillis = ∅
    · refine ⟨_, ?_, rfl, fun _ => rfl⟩
      show MemoryStore.claimPendingLoop nowMillis ownerId destinationId _ _ s.records.values [] s = _
      refine MemoryStore.claimPendingLoop_idle ownerId _ _ _ fun d member => ?_
      by_contra due
      have held := MemoryStore.view_of_record (MemoryStore.Sound.values sound |>.1 d member)
      exact Set.eq_empty_iff_forall_notMem.1 nothing d.id ⟨_, held, by simpa using due⟩
    · obtain served | served := MemoryStore.serve_claimPending_beyond (s := s) ownerId destinationId ((limit : ℕ) : Number) past
      · exact ⟨_, served, rfl, fun empty => absurd empty nothing⟩
      · exact ⟨_, served, rfl, fun empty => absurd empty nothing⟩

theorem postgres_claim_refused {c : Statement} {ownerId : WorkerId} {destinationId : DestinationId} {limit lease : Number}
    (call : c.call = .claimPending ownerId destinationId limit lease) (nowMillis : ℕ) (db : Postgres.Database) :
    ∃ failure, (db.serveStatement nowMillis c).1 = .error failure := by
  obtain ⟨cause, refused⟩ := db.serve_claimPending nowMillis ownerId destinationId limit lease
  have run : db.serveStatement nowMillis c = db.serve nowMillis c.call := by
    rw [Postgres.Database.serveStatement, if_neg]
    rintro ⟨-, leaseless⟩
    rw [call] at leaseless
    cases leaseless
  exact ⟨_, by rw [run, call, refused]⟩

/-- **Claims take exactly what is due in the maps, and nothing from the tables.** -/
theorem adapters_claim_due (adapter : Adapter) : adapter.events.ClaimsDue adapter.serve (adapter = .memory) := by
  cases adapter with
  | memory =>
    rw [eq_self]
    exact memory_claiming.claimsDue
  | postgres =>
    rw [show (Adapter.postgres = Adapter.memory) = False from eq_false nofun]
    refine postgresEvents_lawful.claimsNone ?_
    rintro db nowMillis c destinationId ⟨ownerId, limit, lease, call⟩
    exact postgres_claim_refused call nowMillis db

/-- A delivery saved pending under a lease that has ended is not handed out from the tables. -/
theorem claims_refused : ¬ ∀ adapter : Adapter, adapter.events.ClaimsDue adapter.serve True := by
  intro due
  let claim : Statement :=
    ⟨.claimPending Sample.worker Sample.destination (((1 : ℕ+) : ℕ) : Number) (((1000 : ℕ+) : ℕ) : Number), false⟩
  have fresh : postgres.Fresh postgres.empty ⟨Sample.savePending, false⟩ := fun _ _ => rfl
  have reachable : postgresEvents.application.Reachable Sample.savedTables :=
    TransitionSystem.Reachable.init.step (l := ⟨0, ⟨Sample.savePending, false⟩, _⟩)
      ⟨postgres.step_of_fresh 0 fresh, by rintro delivery ⟨⟩⟩
  have safe : 5000 + ((1000 : ℕ+) : ℕ) ≤ maxSafeInteger := by decide
  obtain ⟨claimed, s', run, -⟩ := ((due .postgres).exact reachable 5000 Sample.worker Sample.destination 1 1000 claim rfl).2
    ⟨trivial, fun _ => safe⟩
  obtain ⟨failure, refused⟩ := @postgres_claim_refused claim _ _ _ _ rfl 5000 Sample.savedTables
  rw [show Postgres.Database.serveStatement 5000 Sample.savedTables claim = _ from run] at refused
  cases refused

end Relay
