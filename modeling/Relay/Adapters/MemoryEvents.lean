import Relay.Adapters.MemoryDecisions
import Relay.Adapters.MemoryRefines

/-!
# Events in the memory maps

The map of events is written by intake only, over whatever stood under the id.
`claimPending` hands out the event it finds there, and a delivery whose event is
missing is passed over; while none is missing it hands out the first due
deliveries in the order of the records, up to the limit.
-/

namespace Relay

namespace MemoryStore

variable {s : MemoryStore} {nowMillis : ℕ}

/-! ## What is written -/

/-- The event a call writes into the map. -/
def writes (nowMillis : ℕ) (s : MemoryStore) : StoreCall → Option RelayEvent
  | .savePending event _ _ _ => some event
  | .accept record =>
    if s.intakes.get record.ingestionKey = none ∧
        wholeMillis (nowMillis + record.claim.leaseDurationMillis) ≠ none then some record.event
    else none
  | _ => none

/-- What is written is what the call brings. -/
theorem writes_event {nowMillis : ℕ} {s : MemoryStore} {call : StoreCall} {event : RelayEvent}
    (written : writes nowMillis s call = some event) : call.event = some event := by
  unfold writes at written
  split at written
  · exact written
  · split at written
    · exact written
    · cases written
  · cases written

/-- The loop hands out the events it finds. -/
theorem claimPendingLoop_events (ownerId : WorkerId) (destinationId : DestinationId) (limit lease : Number)
    (rest : List Delivery) : ∀ (claimed : List ClaimedDelivery) (s : MemoryStore),
    (∀ c ∈ claimed, s.events.get c.delivery.eventId = some c.event) →
    ∀ all, (claimPendingLoop nowMillis ownerId destinationId limit lease rest claimed s).1 = .ok (.claimed all) →
      ∀ c ∈ all, s.events.get c.delivery.eventId = some c.event := by
  induction rest with
  | nil =>
    intro claimed s stored all reply
    cases reply
    exact stored
  | cons delivery rest ih =>
    intro claimed s stored all reply
    rw [claimPendingLoop] at reply
    split at reply
    · exact ih claimed s stored all reply
    · split at reply
      · exact ih claimed s stored all reply
      · next event found =>
        simp only at reply
        split at reply
        · cases reply
        · next claim made =>
          refine ih _ (s.grant delivery.id claim) ?_ all reply
          intro c member
          obtain member | rfl := List.mem_append.1 member |>.imp_right List.mem_singleton.1
          · exact stored c member
          · exact found

/-- Every call but an intake leaves the events alone. -/
theorem exec_events (s : MemoryStore) (nowMillis : ℕ) (call : StoreCall) :
    (s.exec nowMillis call).2.events =
      (s.writes nowMillis call).elim s.events fun event => s.events.set event.id event := by
  cases call with
  | accept record =>
    rw [exec, accept, writes]
    cases s.intakes.get record.ingestionKey with
    | some existing =>
      rw [if_neg (fun both => Option.some_ne_none _ both.1)]
      simp only
      split <;> rfl
    | none =>
      simp only [DeliveryClaim.make]
      cases wholeMillis (nowMillis + record.claim.leaseDurationMillis) with
      | none => rfl
      | some expires => rfl
  | savePending event id destinationId request =>
    rw [exec, savePending]
    simp only
    split <;> rfl
  | _ => exact (exec_frame s nowMillis rfl).events

/-- An intake stores the event it brings, or changes nothing. -/
theorem exec_brings {call : StoreCall} {event : RelayEvent} (brings : call.event = some event) :
    (s.exec nowMillis call).2.events.get event.id = some event ∨ (s.exec nowMillis call).2 = s := by
  cases call with
  | savePending event' id destinationId request =>
    obtain rfl : event' = event := Option.some.inj brings
    left
    rw [exec_events, writes]
    simp
  | accept record =>
    obtain rfl : record.event = event := Option.some.inj brings
    cases known : s.intakes.get record.ingestionKey with
    | some decision =>
      right
      rw [exec, accept, known]
      simp only
      split <;> rfl
    | none =>
      cases instant : wholeMillis (nowMillis + record.claim.leaseDurationMillis) with
      | none =>
        right
        rw [exec, accept, known]
        simp only [DeliveryClaim.make, instant, Option.map_none]
      | some expires =>
        left
        rw [exec_events, writes, if_pos ⟨known, by rw [instant]; exact Option.some_ne_none _⟩]
        simp
  | _ => cases brings

/-- An event that no call writes over stays. -/
theorem exec_keeps {call : StoreCall} {id : EventId} {event : RelayEvent} (stored : s.events.get id = some event)
    (same : ∀ event', s.writes nowMillis call = some event' → event'.id = id → event' = event) :
    (s.exec nowMillis call).2.events.get id = some event := by
  rw [exec_events]
  cases written : s.writes nowMillis call with
  | none => exact stored
  | some event' =>
    rw [Option.elim_some, OrderedMap.get_set]
    by_cases here : id = event'.id
    · rw [if_pos here, same event' written here.symm]
    · rw [if_neg here]
      exact stored

/-- Something stays stored under an id. -/
theorem exec_stays {call : StoreCall} {id : EventId} (stored : s.events.get id ≠ none) :
    (s.exec nowMillis call).2.events.get id ≠ none := by
  rw [exec_events]
  cases s.writes nowMillis call with
  | none => exact stored
  | some event =>
    rw [Option.elim_some, OrderedMap.get_set]
    split
    · exact Option.some_ne_none event
    · exact stored

theorem claimPending_event {ownerId : WorkerId} {destinationId : DestinationId} {limit lease : Number}
    {claimed : List ClaimedDelivery}
    (reply : (s.claimPending nowMillis ownerId destinationId limit lease).1 = .ok (.claimed claimed)) :
    ∀ c ∈ claimed, s.events.get c.delivery.eventId = some c.event :=
  claimPendingLoop_events ownerId destinationId limit lease s.records.values [] s (by simp) claimed reply

/-! ## Which deliveries are claimed -/

section Due

variable {destinationId : DestinationId}

/-- The loop passes over a delivery when the limit is reached or it is not due. -/
theorem skips_eq (limit : Number) (claimed : List ClaimedDelivery) (d : Delivery) :
    s.skips nowMillis destinationId limit claimed d =
      (decide (limit ≤ (claimed.length : Number)) || !(s.held d.id d).due destinationId nowMillis) := by
  rw [Bool.eq_iff_iff]
  cases hc : s.claims.get d.id with
  | none => simp [skips, Entry.due, held, hc]; tauto
  | some claim => simp [skips, Entry.due, held, hc]; tauto

/-- A claim on one delivery changes nothing about whether another one is due. -/
theorem due_grant {id : DeliveryId} (claim : DeliveryClaim) {d : Delivery} (away : d.id ≠ id) :
    ((s.grant id claim).held d.id d).due destinationId nowMillis = (s.held d.id d).due destinationId nowMillis := by
  have same : (s.grant id claim).held d.id d = s.held d.id d := by simp [held, grant, away]
  rw [same]

/-- The loop claims the first due deliveries, as many as the limit leaves. -/
theorem claimPendingLoop_first {ownerId : WorkerId} {limit : ℕ} {lease : Number} {expires : ℕ}
    (instant : wholeMillis (nowMillis + lease) = some expires) (rest : List Delivery) :
    ∀ (s : MemoryStore) (claimed : List ClaimedDelivery),
      (rest.map (·.id)).Nodup → (∀ d ∈ rest, s.events.get d.eventId ≠ none) →
      ∃ all, (claimPendingLoop nowMillis ownerId destinationId limit lease rest claimed s).1 = .ok (.claimed all) ∧
        all.map (·.delivery) = claimed.map (·.delivery) ++
          (rest.filter fun d => (s.held d.id d).due destinationId nowMillis).take (limit - claimed.length) := by
  induction rest with
  | nil =>
    intro s claimed _ _
    exact ⟨claimed, rfl, by simp⟩
  | cons d rest ih =>
    intro s claimed distinct stored
    rw [List.map_cons, List.nodup_cons] at distinct
    have storedRest := fun d' member => stored d' (List.mem_cons_of_mem _ member)
    rw [claimPendingLoop, skips_eq]
    by_cases full : limit ≤ claimed.length
    · have none : limit - claimed.length = 0 := Nat.sub_eq_zero_of_le full
      have reached : ((limit : Number) ≤ (claimed.length : Number)) := by exact_mod_cast full
      obtain ⟨all, run, deliveries⟩ := ih s claimed distinct.2 storedRest
      rw [decide_eq_true reached, Bool.true_or, if_pos rfl]
      refine ⟨all, run, ?_⟩
      rw [deliveries, none, List.take_zero, List.take_zero]
    · have room : ¬ ((limit : Number) ≤ (claimed.length : Number)) := by exact_mod_cast full
      rw [decide_eq_false room, Bool.false_or]
      cases due : (s.held d.id d).due destinationId nowMillis with
      | false =>
        obtain ⟨all, run, deliveries⟩ := ih s claimed distinct.2 storedRest
        rw [Bool.not_false, if_pos rfl]
        refine ⟨all, run, ?_⟩
        rw [deliveries, List.filter_cons, due, if_neg Bool.false_ne_true]
      | true =>
        rw [Bool.not_true, if_neg Bool.false_ne_true]
        obtain ⟨event, found⟩ := Option.ne_none_iff_exists'.1 (stored d List.mem_cons_self)
        simp only [found, DeliveryClaim.make, instant, Option.map_some]
        obtain ⟨all, run, deliveries⟩ := ih (s.grant d.id ⟨ownerId, ((s.generations.get d.id).getD 0).succPNat, expires⟩)
          (claimed ++ [
            { claim := ⟨ownerId, ((s.generations.get d.id).getD 0).succPNat, expires⟩
              claimLagMillis := nowMillis - (s.nextEligibleAt.get d.id).getD nowMillis
              delivery := d
              event
              nextAttemptOrdinal := s.nextAttemptOrdinal d.id
              route := s.routes.get d.id }]) distinct.2 storedRest
        refine ⟨all, run, ?_⟩
        have others : (rest.filter fun d' => ((s.grant d.id
              ⟨ownerId, ((s.generations.get d.id).getD 0).succPNat, expires⟩).held d'.id d').due destinationId nowMillis) =
            rest.filter fun d' => (s.held d'.id d').due destinationId nowMillis := by
          apply List.filter_congr
          intro d' member
          apply due_grant
          intro same
          exact distinct.1 (List.mem_map.2 ⟨d', member, same⟩)
        have more : limit - claimed.length = limit - (claimed.length + 1) + 1 := by omega
        rw [deliveries, others, List.filter_cons, due, if_pos rfl, more, List.take_succ_cons]
        simp

/-- The due deliveries, in the order of the records. -/
def dueIds (s : MemoryStore) (nowMillis : ℕ) (destinationId : DestinationId) : List DeliveryId :=
  (s.records.values.filter fun d => (s.held d.id d).due destinationId nowMillis).map (·.id)

theorem dueIds_nodup (sound : s.Sound) : (s.dueIds nowMillis destinationId).Nodup :=
  sound.values.2.sublist (List.filter_sublist.map _)

theorem mem_dueIds (sound : s.Sound) {id : DeliveryId} :
    id ∈ s.dueIds nowMillis destinationId ↔ ∃ e, s.view id = some e ∧ e.due destinationId nowMillis = true := by
  constructor
  · intro listed
    obtain ⟨d, selected, rfl⟩ := List.mem_map.1 listed
    obtain ⟨member, due⟩ := List.mem_filter.1 selected
    exact ⟨_, view_of_record (sound.values.1 d member), due⟩
  · rintro ⟨e, held, due⟩
    obtain ⟨record, same⟩ := record_of_view held
    have named : e.delivery.id = id := ((sound id).keyed e.delivery record).1
    refine List.mem_map.2 ⟨e.delivery, List.mem_filter.2 ⟨OrderedMap.mem_values_iff.2 ⟨id, record⟩, ?_⟩, named⟩
    rw [named, ← same]
    exact due

variable (nowMillis) in
/-- **The loop claims the first due deliveries in the order of the records**, as many as the limit allows, when every
event is there. -/
theorem claimPending_first (sound : s.Sound) (stored : ∀ d ∈ s.records.values, s.events.get d.eventId ≠ none)
    (ownerId : WorkerId) (destinationId : DestinationId) (limit : ℕ) {lease : Number} {expires : ℕ}
    (instant : wholeMillis (nowMillis + lease) = some expires) :
    ∃ claimed s', s.claimPending nowMillis ownerId destinationId limit lease = (.ok (.claimed claimed), s') ∧
      ClaimBatch nowMillis ownerId destinationId expires s.view claimed s'.view ∧
      (claimed.map fun c => c.delivery.id) = (s.dueIds nowMillis destinationId).take limit := by
  obtain ⟨claimed, s', run, -, -, batch⟩ :=
    @claimPendingLoop_batch nowMillis ownerId destinationId limit lease expires instant s.records.values s [] sound sound.values.1 sound.values.2
  obtain ⟨all, reply, deliveries⟩ :=
    @claimPendingLoop_first nowMillis destinationId ownerId limit lease expires instant s.records.values s [] sound.values.2 stored
  rw [run, Except.ok.injEq, StoreValue.claimed.injEq] at reply
  rw [List.nil_append] at run reply
  subst reply
  refine ⟨claimed, s', run, batch, ?_⟩
  have ids := congrArg (List.map fun d : Delivery => d.id) deliveries
  rw [List.map_nil, List.nil_append, List.length_nil, Nat.sub_zero, List.map_map, List.map_take] at ids
  exact ids

variable (nowMillis) in
/-- **The loop claims as many due deliveries as the limit allows**, when every event is there. -/
theorem claimPending_exact (sound : s.Sound) (stored : ∀ d ∈ s.records.values, s.events.get d.eventId ≠ none)
    (ownerId : WorkerId) (destinationId : DestinationId) (limit : ℕ) {lease : Number} {expires : ℕ}
    (instant : wholeMillis (nowMillis + lease) = some expires) :
    ∃ claimed s', s.claimPending nowMillis ownerId destinationId limit lease = (.ok (.claimed claimed), s') ∧
      ClaimBatch nowMillis ownerId destinationId expires s.view claimed s'.view ∧
      claimed.length = min limit (s.dueIds nowMillis destinationId).length := by
  obtain ⟨claimed, s', run, batch, ids⟩ := claimPending_first nowMillis sound stored ownerId destinationId limit instant
  have length := congrArg List.length ids
  rw [List.length_map, List.length_take] at length
  exact ⟨claimed, s', run, batch, length⟩

end Due

end MemoryStore

end Relay
