import Relay.Adapters.MemoryServed

/-!
# Claiming, intake and the whole memory store

`claimPending` walks the records once, so each delivery is claimed at most once;
the batch grows delivery by delivery. Intake creates a delivery under its first
claim. With the calls on one delivery this makes every call of a sound store a
step of the ledger.
-/

namespace Relay

namespace MemoryStore

variable {s : MemoryStore} {nowMillis : ℕ}

/-! ## Claiming -/

/-- The maps after one turn of the loop that claims. -/
def grant (s : MemoryStore) (id : DeliveryId) (claim : DeliveryClaim) : MemoryStore :=
  { s with
    generations := s.generations.set id ((s.generations.get id).getD 0 + 1)
    claims := s.claims.set id claim }

theorem grant_spec (sound : s.Sound) {id : DeliveryId} {d : Delivery} (record : s.records.get id = some d)
    (pending : d.state = .pending) (ownerId : WorkerId) (expires : ℕ) :
    (s.grant id ((s.held id d).issuedClaim ownerId expires)).Sound ∧
      (s.grant id ((s.held id d).issuedClaim ownerId expires)).view =
        Function.update s.view id (some ((s.held id d).issue ownerId expires)) := by
  have others : ∀ id', id' ≠ id →
      (s.grant id ((s.held id d).issuedClaim ownerId expires)).slot id' = s.slot id' := by
    intro id' away
    simp [grant, slot, away]
  constructor
  · refine sound_write sound others ⟨?_, ?_, ?_⟩
    · exact (sound id).keyed
    · intro absent
      rw [show s.records.get id = none from absent] at record
      cases record
    · intro c hc
      simp only [grant, slot, OrderedMap.get_set, if_true, Option.some.injEq] at hc ⊢
      subst hc
      exact ⟨rfl, d, record, pending⟩
  · rw [view_write others]
    congr 1
    simp [view, held, grant, Entry.issue, Entry.issuedClaim, record]

theorem due_of_not_skips {destinationId : DestinationId} {limit : Number} {claimed : List ClaimedDelivery}
    {d : Delivery} (h : ¬ s.skips nowMillis destinationId limit claimed d = true) :
    (s.held d.id d).due destinationId nowMillis = true ∧ d.state = .pending := by
  rw [Bool.not_eq_true] at h
  simp only [skips, Bool.or_eq_false_iff, decide_eq_false_iff_not, ne_eq, not_not, not_lt, gt_iff_lt] at h
  obtain ⟨⟨⟨⟨-, pending⟩, destination⟩, eligible⟩, lease⟩ := h
  refine ⟨?_, pending⟩
  simp only [Entry.due, held, pending, destination, eligible, decide_true, Bool.true_and]
  cases hc : s.claims.get d.id with
  | none => rfl
  | some claim =>
    rw [hc] at lease
    simpa using lease

/-- One run of the loop: a batch over the deliveries still to be visited. -/
theorem claimPendingLoop_batch {ownerId : WorkerId} {destinationId : DestinationId} {limit lease : Number}
    {expires : ℕ} (instant : wholeMillis (nowMillis + lease) = some expires) (rest : List Delivery) :
    ∀ (s : MemoryStore) (claimed : List ClaimedDelivery), s.Sound →
      (∀ d ∈ rest, s.records.get d.id = some d) → (rest.map (·.id)).Nodup →
      ∃ more s', claimPendingLoop nowMillis ownerId destinationId limit lease rest claimed s =
          (.ok (.claimed (claimed ++ more)), s') ∧ s'.Sound ∧
        (∀ c ∈ more, c.delivery ∈ rest) ∧
        ClaimBatch nowMillis ownerId destinationId expires s.view more s'.view := by
  induction rest with
  | nil =>
    intro s claimed sound _ _
    exact ⟨[], s, by simp [claimPendingLoop], sound, by simp, .nil⟩
  | cons d rest ih =>
    intro s claimed sound records distinct
    rw [List.map_cons, List.nodup_cons] at distinct
    have record := records d List.mem_cons_self
    have skipped : ∃ more s', claimPendingLoop nowMillis ownerId destinationId limit lease rest claimed s =
          (.ok (.claimed (claimed ++ more)), s') ∧ s'.Sound ∧ (∀ c ∈ more, c.delivery ∈ d :: rest) ∧
        ClaimBatch nowMillis ownerId destinationId expires s.view more s'.view := by
      obtain ⟨more, s', run, sound', among, batch⟩ :=
        ih s claimed sound (fun d' hd' => records d' (List.mem_cons_of_mem _ hd')) distinct.2
      exact ⟨more, s', run, sound', fun c hc => List.mem_cons_of_mem _ (among c hc), batch⟩
    rw [claimPendingLoop]
    by_cases skip : s.skips nowMillis destinationId limit claimed d = true
    · simp only [if_pos skip]
      exact skipped
    · simp only [if_neg skip]
      cases found : s.events.get d.eventId with
      | none => exact skipped
      | some event =>
        obtain ⟨due, pending⟩ := due_of_not_skips skip
        have made : DeliveryClaim.make ownerId ((s.generations.get d.id).getD 0).succPNat (nowMillis + lease) =
            some ((s.held d.id d).issuedClaim ownerId expires) := by
          rw [DeliveryClaim.make, instant]; rfl
        simp only [made]
        obtain ⟨sound₁, view₁⟩ := grant_spec sound record pending ownerId expires
        have records₁ : ∀ d' ∈ rest, (s.grant d.id ((s.held d.id d).issuedClaim ownerId expires)).records.get
            d'.id = some d' := fun d' hd' => records d' (List.mem_cons_of_mem _ hd')
        obtain ⟨more, s', run, sound', among, batch⟩ := ih _ (claimed ++ [
          { claim := (s.held d.id d).issuedClaim ownerId expires
            claimLagMillis := nowMillis - (s.nextEligibleAt.get d.id).getD nowMillis
            delivery := d
            event
            nextAttemptOrdinal := s.nextAttemptOrdinal d.id
            route := s.routes.get d.id }]) sound₁ records₁ distinct.2
        rw [view₁] at batch
        rw [List.append_assoc] at run
        refine ⟨_ :: more, s', run, sound', ?_, ?_⟩
        · intro c hc
          obtain rfl | hc := List.mem_cons.1 hc
          · exact List.mem_cons_self
          · exact List.mem_cons_of_mem _ (among c hc)
        · refine .cons (view_of_record record) due rfl rfl rfl rfl ?_ ?_ batch
          · obtain ⟨instant', eligible⟩ := Option.ne_none_iff_exists'.1 ((sound d.id).keyed d record).2
            have eligible : s.nextEligibleAt.get d.id = some instant' := eligible
            simp only [held, eligible, Option.getD_some]
          · intro c hc same
            exact distinct.1 (List.mem_map.2 ⟨c.delivery, among c hc, same⟩)

/-- With a lease that is no whole instant the loop stops at the first delivery it would claim. -/
theorem claimPendingLoop_aborts (ownerId : WorkerId) (destinationId : DestinationId) (limit : Number)
    {lease : Number} (instant : wholeMillis (nowMillis + lease) = none) (rest : List Delivery) (claimed : List ClaimedDelivery) :
    (claimPendingLoop nowMillis ownerId destinationId limit lease rest claimed s).2 = s ∧
      ((claimPendingLoop nowMillis ownerId destinationId limit lease rest claimed s).1 = .ok (.claimed claimed) ∨
        (claimPendingLoop nowMillis ownerId destinationId limit lease rest claimed s).1 = .error .defect) := by
  induction rest with
  | nil => exact ⟨rfl, .inl rfl⟩
  | cons d rest ih =>
    rw [claimPendingLoop]
    by_cases skip : s.skips nowMillis destinationId limit claimed d = true
    · simp only [if_pos skip]; exact ih
    · simp only [if_neg skip]
      cases s.events.get d.eventId with
      | none => exact ih
      | some event =>
        have made : DeliveryClaim.make ownerId ((s.generations.get d.id).getD 0).succPNat (nowMillis + lease) =
            none := by rw [DeliveryClaim.make, instant]; rfl
        simp only [made]
        exact ⟨trivial, .inr trivial⟩

theorem Sound.values (sound : s.Sound) :
    (∀ d ∈ s.records.values, s.records.get d.id = some d) ∧ (s.records.values.map (·.id)).Nodup := by
  have keyed : ∀ id d, s.records.get id = some d → d.id = id := fun id d h => ((sound id).keyed d h).1
  refine ⟨?_, OrderedMap.values_nodup keyed⟩
  intro d hd
  obtain ⟨id, h⟩ := OrderedMap.mem_values_iff.1 hd
  rw [keyed id d h]
  exact h

theorem leaseEnd_of_wholeMillis {lease : Number} {expires : ℕ}
    (instant : wholeMillis (nowMillis + lease) = some expires) : LeaseEnd nowMillis lease expires := by
  intro p whole
  rw [wholeMillis_add whole, Option.some.injEq] at instant
  exact instant.symm

variable (nowMillis) in
theorem claimPending_served (sound : s.Sound) (ownerId : WorkerId) (destinationId : DestinationId)
    (limit lease : Number) :
    Served nowMillis s.view (.claimPending ownerId destinationId limit lease)
        (s.claimPending nowMillis ownerId destinationId limit lease).1.answer
        (s.claimPending nowMillis ownerId destinationId limit lease).2.view ∧
      (s.claimPending nowMillis ownerId destinationId limit lease).2.Sound := by
  unfold claimPending
  cases instant : wholeMillis (nowMillis + lease) with
  | none =>
    obtain ⟨same, done | died⟩ :=
      claimPendingLoop_aborts (s := s) ownerId destinationId limit instant s.records.values []
    · have granted : LeaseEnd nowMillis lease 0 := by
        intro p whole
        rw [wholeMillis_add whole] at instant
        cases instant
      rw [same, done]
      exact ⟨.claimPending ownerId destinationId limit lease 0 [] _ granted .nil, sound⟩
    · rw [same, died]
      exact ⟨.refused _ _ (.inl rfl), sound⟩
  | some expires =>
    obtain ⟨more, s', run, sound', -, batch⟩ :=
      claimPendingLoop_batch instant s.records.values s [] sound sound.values.1 sound.values.2
    rw [run]
    exact ⟨.claimPending ownerId destinationId limit lease expires more _
      (leaseEnd_of_wholeMillis instant) batch, sound'⟩

/-! ## Intake -/

/-- The maps of deliveries after a delivery, new or written over, came under its first claim. -/
def createClaimed (s : MemoryStore) (d : Delivery) (claim : DeliveryClaim)
    (routes : OrderedMap DeliveryId DeliveryRouteSnapshot) (eligibleAt : ℕ) : MemoryStore :=
  { s with
    records := s.records.set d.id d
    routes
    generations := s.generations.set d.id 1
    claims := s.claims.set d.id claim
    nextEligibleAt := s.nextEligibleAt.set d.id eligibleAt }

section Admit

variable (d : Delivery) (claim : DeliveryClaim) (routes : OrderedMap DeliveryId DeliveryRouteSnapshot)
  (eligibleAt : ℕ)

theorem createClaimed_slot (elsewhere : ∀ id, id ≠ d.id → routes.get id = s.routes.get id) :
    ∀ id, id ≠ d.id → (s.createClaimed d claim routes eligibleAt).slot id = s.slot id := by
  intro id away
  simp [createClaimed, slot, away, elsewhere id away]

theorem createClaimed_sound (sound : s.Sound) (elsewhere : ∀ id, id ≠ d.id → routes.get id = s.routes.get id)
    (pending : d.state = .pending) (first : claim.generation = 1) :
    (s.createClaimed d claim routes eligibleAt).Sound := by
  refine sound_write sound (createClaimed_slot d claim routes eligibleAt elsewhere) ⟨?_, ?_, ?_⟩
  · intro d' hd'
    simp only [slot, createClaimed, OrderedMap.get_set, if_true, Option.some.injEq] at hd' ⊢
    refine ⟨by rw [hd'], ?_⟩
    intro zero
    cases zero
  · intro absent
    simp [slot, createClaimed] at absent
  · intro c hc
    simp only [slot, createClaimed, OrderedMap.get_set, if_true, Option.some.injEq] at hc ⊢
    subst hc
    exact ⟨by rw [first]; rfl, d, rfl, pending⟩

theorem createClaimed_view (sound : s.Sound) (elsewhere : ∀ id, id ≠ d.id → routes.get id = s.routes.get id)
    (fresh : s.view d.id = none) : (s.createClaimed d claim routes eligibleAt).view =
      Function.update s.view d.id (some (.admitted d claim (routes.get d.id) eligibleAt)) := by
  injection (sound d.id).absent (view_eq_none.1 fresh) with _ _ _ _ attempts
  rw [view_write (createClaimed_slot d claim routes eligibleAt elsewhere)]
  congr 1
  simp [view, held, createClaimed, Entry.admitted, attempts]

end Admit

variable (nowMillis) in
theorem accept_served (sound : s.Sound) (record : IntakeRecord) :
    (s.accept nowMillis record).2.Sound ∧ (s.view record.deliveryId = none →
      Served nowMillis s.view (.accept record) (s.accept nowMillis record).1.answer
        (s.accept nowMillis record).2.view) := by
  unfold accept
  cases s.intakes.get record.ingestionKey with
  | some existing =>
    obtain ⟨requestFingerprint, decision⟩ := existing
    by_cases conflict : requestFingerprint ≠ record.requestFingerprint
    · simp only [if_pos conflict]
      exact ⟨sound, fun _ => .refused _ _ (.inl rfl)⟩
    · simp only [if_neg conflict]
      exact ⟨sound, fun _ => .replayed record decision⟩
  | none =>
    cases instant : wholeMillis (nowMillis + record.claim.leaseDurationMillis) with
    | none =>
      simp only [DeliveryClaim.make, instant, Option.map_none]
      exact ⟨sound, fun _ => .refused _ _ (.inl rfl)⟩
    | some expires =>
      simp only [DeliveryClaim.make, instant, Option.map_some]
      have elsewhere : ∀ id, id ≠ record.deliveryId →
          (s.routes.set record.deliveryId record.route).get id = s.routes.get id := by
        intro id away
        rw [OrderedMap.get_set, if_neg away]
      have admitted := createClaimed_sound ⟨record.deliveryId, record.event.id, record.route.destinationId, .pending⟩
        ⟨record.claim.ownerId, 1, expires⟩ (s.routes.set record.deliveryId record.route)
        record.acceptedAtMillis sound elsewhere rfl rfl
      refine ⟨admitted, ?_⟩
      intro fresh
      have served : Served nowMillis s.view (.accept record) _ _ := .accepted record _ expires
        record.acceptedAtMillis (leaseEnd_of_wholeMillis instant) fresh rfl
      have viewed := createClaimed_view ⟨record.deliveryId, record.event.id, record.route.destinationId, .pending⟩
        ⟨record.claim.ownerId, 1, expires⟩ (s.routes.set record.deliveryId record.route)
        record.acceptedAtMillis sound elsewhere fresh
      rw [OrderedMap.get_set, if_pos rfl] at viewed
      rw [← viewed] at served
      exact served

/-- The maps after `savePending` wrote the delivery and before it built the claim. -/
def strand (s : MemoryStore) (d : Delivery) (nowMillis : ℕ) : MemoryStore :=
  { s with
    records := s.records.set d.id d
    nextEligibleAt := s.nextEligibleAt.set d.id nowMillis }

theorem strand_slot (d : Delivery) : ∀ id, id ≠ d.id → (s.strand d nowMillis).slot id = s.slot id := by
  intro id away
  simp [strand, slot, away]

theorem strand_sound (sound : s.Sound) {d : Delivery} (pending : d.state = .pending) :
    (s.strand d nowMillis).Sound := by
  refine sound_write sound (strand_slot d) ⟨?_, ?_, ?_⟩
  · intro d' hd'
    simp only [slot, strand, OrderedMap.get_set, if_true, Option.some.injEq] at hd' ⊢
    refine ⟨by rw [hd'], ?_⟩
    intro zero
    cases zero
  · intro absent
    simp [slot, strand] at absent
  · intro c hc
    refine ⟨((sound d.id).claimed c hc).1, d, ?_, pending⟩
    simp [slot, strand]

theorem strand_view (sound : s.Sound) {d : Delivery} (fresh : s.view d.id = none) :
    (s.strand d nowMillis).view = Function.update s.view d.id (some (.new d nowMillis)) := by
  injection (sound d.id).absent (view_eq_none.1 fresh) with _ claim generation route attempts
  rw [view_write (strand_slot d)]
  congr 1
  simp [view, held, strand, Entry.new, claim, generation, route, attempts]

variable (nowMillis) in
theorem savePending_served (sound : s.Sound) (event : RelayEvent) (id : DeliveryId)
    (destinationId : DestinationId) (request : ClaimRequest) :
    (s.savePending nowMillis event id destinationId request).2.Sound ∧ (s.view id = none →
      Served nowMillis s.view (.savePending event id destinationId request)
        (s.savePending nowMillis event id destinationId request).1.answer
        (s.savePending nowMillis event id destinationId request).2.view) := by
  unfold savePending
  cases instant : wholeMillis (nowMillis + request.leaseDurationMillis) with
  | none =>
    simp only [DeliveryClaim.make, instant, Option.map_none]
    have stranded : (s.strand ⟨id, event.id, destinationId, .pending⟩ nowMillis).Sound :=
      strand_sound sound rfl
    refine ⟨stranded, ?_⟩
    intro fresh
    have served : Served nowMillis s.view (.savePending event id destinationId request) _ _ :=
      .stranded event ⟨id, event.id, destinationId, .pending⟩ request fresh rfl rfl
    rw [← strand_view (d := ⟨id, event.id, destinationId, .pending⟩) sound fresh] at served
    exact served
  | some expires =>
    simp only [DeliveryClaim.make, instant, Option.map_some]
    have elsewhere : ∀ id', id' ≠ id → s.routes.get id' = s.routes.get id' := fun _ _ => rfl
    have admitted := createClaimed_sound ⟨id, event.id, destinationId, .pending⟩ ⟨request.ownerId, 1, expires⟩
      s.routes nowMillis sound elsewhere rfl rfl
    refine ⟨admitted, ?_⟩
    intro fresh
    injection (sound id).absent (view_eq_none.1 fresh) with _ _ _ route
    have served : Served nowMillis s.view (.savePending event id destinationId request) _ _ :=
      .saved event ⟨id, event.id, destinationId, .pending⟩ request expires
        (leaseEnd_of_wholeMillis instant) fresh rfl rfl
    have viewed := createClaimed_view ⟨id, event.id, destinationId, .pending⟩ ⟨request.ownerId, 1, expires⟩
      s.routes nowMillis sound elsewhere fresh
    rw [route] at viewed
    rw [← viewed] at served
    exact served

/-! ## The whole store -/

variable (nowMillis) in
/-- A renewal by a lease the request schema would refuse. -/
theorem renewClaim_served (sound : s.Sound) (id : DeliveryId) (claim : DeliveryClaim) {lease : Number}
    (odd : positiveInteger lease = none) :
    (s.renewClaim nowMillis id claim lease).2.Sound ∧
      Served nowMillis s.view (.renewClaim id claim lease) (s.renewClaim nowMillis id claim lease).1.answer
        (s.renewClaim nowMillis id claim lease).2.view := by
  cases instant : wholeMillis (nowMillis + lease) with
  | some expires =>
    have serves := renewClaim_serves sound id claim instant
    refine ⟨serves.sound, ?_⟩
    rw [serves.answer, serves.view]
    exact .regranted id claim lease expires odd
  | none =>
    have malformed : (StoreCall.renewClaim id claim lease).refusable = true := by
      show (!(positiveInteger lease).isSome) = true
      rw [odd]; rfl
    cases owned : s.owns id claim.ownerId claim.generation (some nowMillis) with
    | false =>
      have serves := renewClaim_unowned sound lease 0 owned
      refine ⟨serves.sound, ?_⟩
      rw [serves.answer, serves.view]
      exact .regranted id claim lease 0 odd
    | true =>
      unfold renewClaim
      rw [DeliveryClaim.make, instant, owned]
      refine ⟨sound, .refused _ _ (.inr ⟨malformed, ?_⟩)⟩
      intro same
      cases same

/-- Every call is served whole: the maps stay sound, and a call that creates no delivery twice is
a call of the ledger. -/
theorem exec_refines (sound : s.Sound) (nowMillis : ℕ) (call : StoreCall) :
    (s.exec nowMillis call).2.Sound ∧ ((∀ id, call.creates = some id → s.view id = none) →
      Served nowMillis s.view call (s.exec nowMillis call).1.answer (s.exec nowMillis call).2.view) := by
  cases about : call.onEntry nowMillis with
  | some target =>
    obtain ⟨id, op⟩ := target
    have serves := exec_serves sound about
    refine ⟨serves.sound, ?_⟩
    intro _
    rw [serves.answer, serves.view]
    exact .onEntry call id op about
  | none =>
    cases call with
    | accept record =>
      have served := accept_served nowMillis sound record
      exact ⟨served.1, fun fresh => served.2 (fresh _ rfl)⟩
    | savePending event id destinationId request =>
      have served := savePending_served nowMillis sound event id destinationId request
      exact ⟨served.1, fun fresh => served.2 (fresh _ rfl)⟩
    | claimPending ownerId destinationId limit lease =>
      have served := claimPending_served nowMillis sound ownerId destinationId limit lease
      exact ⟨served.2, fun _ => served.1⟩
    | renewClaim id claim lease =>
      have served := renewClaim_served nowMillis sound id claim (Option.map_eq_none_iff.1 about)
      exact ⟨served.1, fun _ => served.2⟩
    | _ => cases about

end MemoryStore

end Relay
