import Relay.Ledger.Spec

/-!
# What one call can do to one entry

`Effect` lists every way a served call can change the entry of a delivery, with
the condition under which it does and the generations it issues. Everything
proved of runs is proved from these cases.
-/

namespace Relay

inductive Effect (nowMillis : ℕ) (id : DeliveryId) :
    StoreCall → Option Entry → List ℕ → Option Entry → Prop where
  | same (call : StoreCall) (e : Option Entry) : Effect nowMillis id call e [] e
  | saved (delivery : Delivery) (named : delivery.id = id) :
      Effect nowMillis id (.save delivery) none [] (some (.new delivery nowMillis))
  | stranded (event : RelayEvent) (delivery : Delivery) (request : ClaimRequest) (named : delivery.id = id)
      (pending : delivery.state = .pending) (created : delivery.eventId = event.id) :
      Effect nowMillis id (.savePending event delivery.id delivery.destinationId request) none []
        (some (.new delivery nowMillis))
  | admitted (call : StoreCall) (delivery : Delivery) (claim : DeliveryClaim)
      (route : Option DeliveryRouteSnapshot) (eligibleAt : ℕ) (creates : call.creates = some id)
      (event : call.event.map (·.id) = some delivery.eventId)
      (named : delivery.id = id) (pending : delivery.state = .pending) (first : claim.generation = 1) :
      Effect nowMillis id call none [1] (some (.admitted delivery claim route eligibleAt))
  | issued (ownerId : WorkerId) (destinationId : DestinationId) (limit lease : Number) (expires : ℕ)
      (e : Entry) (due : e.due destinationId nowMillis = true) :
      Effect nowMillis id (.claimPending ownerId destinationId limit lease) (some e) [e.generation + 1]
        (some (e.issue ownerId expires))
  | scheduled (attempt : DeliveryAttemptRecord) (named : attempt.deliveryId = id) (e : Entry)
      (holds : e.holds attempt.workerId attempt.claimGeneration (some nowMillis) = true)
      (new : e.hasOrdinal attempt.ordinal = false) (retry : terminalStateFromAttempt attempt = none) :
      Effect nowMillis id (.recordAttempt attempt) (some e) [] (some (e.schedule attempt))
  | settled (attempt : DeliveryAttemptRecord) (named : attempt.deliveryId = id) (e : Entry)
      (state : DeliveryState)
      (holds : e.holds attempt.workerId attempt.claimGeneration (some nowMillis) = true)
      (new : e.hasOrdinal attempt.ordinal = false) (last : terminalStateFromAttempt attempt = some state) :
      Effect nowMillis id (.recordAttempt attempt) (some e) [] (some (e.settle attempt state))
  | renewed (claim : DeliveryClaim) (lease : Number) (expires : ℕ) (e : Entry)
      (holds : e.holds claim.ownerId claim.generation (some nowMillis) = true) :
      Effect nowMillis id (.renewClaim id claim lease) (some e) []
        (some (e.renew { claim with leaseExpiresAtMillis := expires }))
  | completed (claim : DeliveryClaim) (result : DeliveryResult) (e : Entry)
      (holds : e.holds claim.ownerId claim.generation (some nowMillis) = true) :
      Effect nowMillis id (.completeClaim id claim result) (some e) []
        (some (e.withState (deliveryStateFromResult result)))
  | released (claim : DeliveryClaim) (e : Entry)
      (holds : e.holds claim.ownerId claim.generation none = true) :
      Effect nowMillis id (.releaseClaim id claim) (some e) [] (some e.release)
  | retried (e : Entry) (dead : Entry.isDeadLettered e.delivery.state = true) :
      Effect nowMillis id (.retryDeadLetter id) (some e) [] (some (e.retry nowMillis))
  | repaired (route : DeliveryRouteSnapshot) (e : Entry)
      (dead : Entry.isDeadLettered e.delivery.state = true)
      (destination : e.delivery.destinationId = route.destinationId) :
      Effect nowMillis id (.repairDeadLetter id route) (some e) [] (some (e.repair nowMillis route))
  | terminated (e : Entry) (dead : Entry.isDeadLettered e.delivery.state = true) :
      Effect nowMillis id (.terminateDeadLetter id) (some e) [] (some (e.withState .terminated))

/-! ## Calls on one delivery -/

/-- An operation on one entry that issues nothing and has an effect listed above. -/
structure Does (nowMillis : ℕ) (id : DeliveryId) (call : StoreCall) (x : Option Entry)
    (r : Answer × Option Entry) : Prop where
  issues : ∀ id', issued id' r.1 = []
  effect : Effect nowMillis id call x [] r.2

section Does

variable {nowMillis : ℕ} {id : DeliveryId} {call : StoreCall} {x : Option Entry}
  {act : Entry → Answer × Option Entry}

theorem Does.refuse (tag : ErrorTag) : Does nowMillis id call x (.error tag, x) := ⟨fun _ => rfl, .same _ _⟩

/-- A fenced operation is refused, or done by the holder of the claim. -/
theorem Does.fenced {ownerId : WorkerId} {generation : ClaimGeneration} {live : Option ℕ}
    (acts : ∀ e, e.holds ownerId generation live = true → Does nowMillis id call (some e) (act e)) :
    Does nowMillis id call x (Entry.fenced ownerId generation live act x) := by
  cases x with
  | none => exact .refuse _
  | some e =>
    by_cases holds : e.holds ownerId generation live = true
    · rw [Entry.fenced, if_pos holds]; exact acts e holds
    · rw [Entry.fenced, if_neg holds]; exact .refuse _

/-- An operator action is refused, or done to a dead letter. -/
theorem Does.recovered
    (acts : ∀ e, Entry.isDeadLettered e.delivery.state = true → Does nowMillis id call (some e) (act e)) :
    Does nowMillis id call x (Entry.recovered act x) := by
  cases x with
  | none => exact .refuse _
  | some e =>
    by_cases dead : Entry.isDeadLettered e.delivery.state = true
    · rw [Entry.recovered, if_pos dead]; exact acts e dead
    · rw [Entry.recovered, if_neg dead]; exact .refuse _

variable (nowMillis id x) in
theorem renewClaim_does (claim : DeliveryClaim) (lease : Number) (expires : ℕ) :
    Does nowMillis id (.renewClaim id claim lease) x (Entry.renewClaim nowMillis claim expires x) :=
  .fenced fun e holds => ⟨fun _ => rfl, .renewed claim lease expires e holds⟩

theorem recordAttempt_does {attempt : DeliveryAttemptRecord} (named : attempt.deliveryId = id) :
    Does nowMillis id (.recordAttempt attempt) x (Entry.recordAttempt nowMillis attempt x) := by
  refine .fenced ?_
  intro e holds
  by_cases taken : e.hasOrdinal attempt.ordinal = true
  · rw [if_pos taken]; exact .refuse _
  · rw [if_neg taken]
    rw [Bool.not_eq_true] at taken
    cases last : terminalStateFromAttempt attempt with
    | none => exact ⟨fun _ => rfl, .scheduled attempt named e holds taken last⟩
    | some state => exact ⟨fun _ => rfl, .settled attempt named e state holds taken last⟩

theorem onEntry_does {op : Option Entry → Answer × Option Entry}
    (about : call.onEntry nowMillis = some (id, op)) : Does nowMillis id call x (op x) := by
  cases call with
  | save delivery =>
    cases about
    cases x with
    | none => exact ⟨fun _ => rfl, .saved delivery rfl⟩
    | some e => exact ⟨fun _ => rfl, .same _ _⟩
  | findById id => cases about; exact ⟨fun _ => rfl, .same _ _⟩
  | recordAttempt attempt => cases about; exact recordAttempt_does rfl
  | renewClaim id claim lease =>
    obtain ⟨p, -, hp⟩ := Option.map_eq_some_iff.1 about
    cases hp
    exact renewClaim_does _ _ _ claim lease _
  | completeClaim id claim result =>
    cases about
    exact .fenced fun e holds => ⟨fun _ => rfl, .completed claim result e holds⟩
  | releaseClaim id claim =>
    cases about
    exact .fenced fun e holds => ⟨fun _ => rfl, .released claim e holds⟩
  | retryDeadLetter id => cases about; exact .recovered fun e dead => ⟨fun _ => rfl, .retried e dead⟩
  | repairDeadLetter id route =>
    cases about
    refine .recovered ?_
    intro e dead
    by_cases destination : e.delivery.destinationId = route.destinationId
    · rw [if_pos destination]; exact ⟨fun _ => rfl, .repaired route e dead destination⟩
    · rw [if_neg destination]; exact .refuse _
  | terminateDeadLetter id => cases about; exact .recovered fun e dead => ⟨fun _ => rfl, .terminated e dead⟩
  | accept | savePending | claimPending => cases about

end Does

/-! ## All calls -/

section Served

variable {nowMillis : ℕ} {L L' : Ledger} {call : StoreCall} {answer : Answer}

/-- A claim that is handed out is issued. -/
theorem issued_of_handedOut {c : ClaimedDelivery} (member : c ∈ handedOut answer) :
    (c.claim.generation : ℕ) ∈ issued c.delivery.id answer := by
  unfold handedOut at member
  split at member
  · rw [List.mem_singleton] at member
    subst member
    simp [issued, StoreValue.issues, enqueued]
  · refine List.mem_map.2 ⟨(c.delivery.id, c.claim), List.mem_filter.2 ⟨?_, ?_⟩, rfl⟩
    · exact List.mem_map.2 ⟨c, member, rfl⟩
    · exact decide_eq_true rfl
  · cases member
  · cases member
  · cases member
  · cases member
  · cases member

theorem handedOut_eq_nil (silent : ∀ id, issued id answer = []) : handedOut answer = [] := by
  rw [List.eq_nil_iff_forall_not_mem]
  intro c member
  have generation := issued_of_handedOut member
  simp [silent] at generation

/-- A batch issues one generation for a delivery in it and none for any other. -/
theorem issued_claimed {claimed : List ClaimedDelivery} (distinct : (claimed.map fun c => c.delivery.id).Nodup)
    (id : DeliveryId) {ε : Type} :
    (∃ c ∈ claimed, c.delivery.id = id ∧
        issued id (.ok (.claimed claimed) : Except ε StoreValue) = [(c.claim.generation : ℕ)]) ∨
      ((∀ c ∈ claimed, c.delivery.id ≠ id) ∧ issued id (.ok (.claimed claimed) : Except ε StoreValue) = []) := by
  let table : Keyed (fun c : ClaimedDelivery => c.delivery.id) := ⟨claimed, distinct⟩
  have chosen : issued id (.ok (.claimed claimed) : Except ε StoreValue) =
      (table.select fun c => some (decide (c.delivery.id = id))).map fun c => (c.claim.generation : ℕ) := by
    simp [issued, StoreValue.issues, Keyed.select, table, List.filter_map, Function.comp_def]
  rw [chosen, Keyed.select_pinned (k := id) (by simp)]
  cases found : table.find id with
  | none => exact .inr ⟨Keyed.find_eq_none_iff.1 found, rfl⟩
  | some c =>
    obtain ⟨member, named⟩ := Keyed.find_eq_some_iff.1 found
    exact .inl ⟨c, member, named, by simp [named]⟩

/-- An update at one key, seen from every key. -/
theorem effect_update {id' : DeliveryId} {x y : Option Entry} {gs : List ℕ} (held : L id' = x)
    (here : Effect nowMillis id' call x gs y) (id : DeliveryId) :
    Effect nowMillis id call (L id) (if id = id' then gs else []) (Function.update L id' y id) := by
  by_cases h : id = id'
  · subst h; rw [if_pos rfl, Function.update_self, held]; exact here
  · rw [if_neg h, Function.update_of_ne h]; exact .same _ _

/-- **Every served call has one of the listed effects on every entry**, and issues for the delivery
exactly the generations the effect lists. -/
theorem Served.effect (served : Served nowMillis L call answer L') (id : DeliveryId) :
    Effect nowMillis id call (L id) (issued id answer) (L' id) := by
  cases served with
  | onEntry call id' op about =>
    have does := onEntry_does (x := L id') about
    rw [does.issues]
    simpa using effect_update rfl does.effect id
  | regranted id' claim lease expires odd =>
    have does := renewClaim_does nowMillis id' (L id') claim lease expires
    rw [does.issues]
    simpa using effect_update rfl does.effect id
  | claimPending ownerId destinationId limit lease expires claimed L' granted batch =>
    obtain ⟨c, member, rfl, gs⟩ | ⟨absent, gs⟩ := issued_claimed (ε := ErrorTag) batch.distinct id
    · obtain ⟨e, held, due, -, claim, -, -, -, after⟩ := batch.each c member
      have counter : (c.claim.generation : ℕ) = e.generation + 1 := by rw [claim]; rfl
      rw [gs, held, after, counter]
      exact .issued ownerId destinationId limit lease expires e due
    · rw [gs, batch.others id absent]
      exact .same _ _
  | accepted record delivery expires eligibleAt granted fresh created =>
    have here : Effect nowMillis record.deliveryId (.accept record) none [1] _ :=
      .admitted (.accept record) delivery ⟨record.claim.ownerId, 1, expires⟩ (some record.route) eligibleAt
        rfl (by rw [created]; rfl) (by rw [created]) (by rw [created]) rfl
    have gs : issued id (.ok (.decided (.accepted ⟨record.event, delivery, record.route, record.acceptedAtMillis⟩
        ⟨record.claim.ownerId, 1, expires⟩)) : Answer) = if id = record.deliveryId then [1] else [] := by
      by_cases h : id = record.deliveryId
      · simp [issued, StoreValue.issues, created, h]
      · simp [issued, StoreValue.issues, created, h, Ne.symm h]
    rw [gs]
    exact effect_update fresh here id
  | replayed record fields => exact .same _ _
  | saved event delivery request expires granted fresh pending created =>
    have here : Effect nowMillis delivery.id (.savePending event delivery.id delivery.destinationId request)
        none [1] _ :=
      .admitted (.savePending event delivery.id delivery.destinationId request) delivery
        ⟨request.ownerId, 1, expires⟩ none nowMillis rfl (by rw [created]; rfl) rfl pending rfl
    have gs : issued id (.ok (.claimed [⟨⟨request.ownerId, 1, expires⟩, delivery, event, 0, 1, none⟩]) : Answer) =
        if id = delivery.id then [1] else [] := by
      by_cases h : id = delivery.id
      · simp [issued, StoreValue.issues, h]
      · simp [issued, StoreValue.issues, h, Ne.symm h]
    rw [gs]
    exact effect_update fresh here id
  | stranded event delivery request fresh pending created =>
    have here : Effect nowMillis delivery.id (.savePending event delivery.id delivery.destinationId request)
        none [] _ := .stranded event delivery request rfl pending created
    simpa [issued] using effect_update fresh here id
  | refused call tag unfenced => exact .same _ _

end Served

end Relay
