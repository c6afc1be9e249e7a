import Relay.Ledger.Effect

/-!
# What a delivery keeps

The id, the event and the destination of a delivery never change, and its route
changes only by a repair that succeeds.
-/

namespace Relay

/-- The same delivery, whatever happened to it. -/
structure Entry.Identical (e e' : Entry) : Prop where
  id : e'.delivery.id = e.delivery.id
  eventId : e'.delivery.eventId = e.delivery.eventId
  destinationId : e'.delivery.destinationId = e.delivery.destinationId

theorem Entry.Identical.trans {e e' e'' : Entry} (first : e.Identical e') (next : e'.Identical e'') : e.Identical e'' where
  id := next.id.trans first.id
  eventId := next.eventId.trans first.eventId
  destinationId := next.destinationId.trans first.destinationId

section Effect

variable {nowMillis : ℕ} {id : DeliveryId} {call : StoreCall} {e e' : Entry} {y : Option Entry} {gs : List ℕ}

/-- No call removes a delivery or makes it another one. -/
theorem Effect.identical (effect : Effect nowMillis id call (some e) gs y) : ∃ e', y = some e' ∧ e.Identical e' := by
  cases effect with
  | same => exact ⟨e, rfl, rfl, rfl, rfl⟩
  | issued | scheduled | settled | renewed | completed | released | retried | repaired | terminated =>
    exact ⟨_, rfl, rfl, rfl, rfl⟩

theorem Effect.route (effect : Effect nowMillis id call (some e) gs (some e')) :
    e'.route = e.route ∨ ∃ route, call = .repairDeadLetter id route := by
  cases effect with
  | repaired route => exact .inr ⟨route, rfl⟩
  | same | issued | scheduled | settled | renewed | completed | released | retried | terminated => exact .inl rfl

/-- A delivery comes with its event, unless it was saved. -/
theorem Effect.created (effect : Effect nowMillis id call none gs (some e)) :
    (∃ delivery, call = .save delivery) ∨ call.event.map (·.id) = some e.delivery.eventId := by
  cases effect with
  | saved delivery => exact .inl ⟨delivery, rfl⟩
  | stranded event delivery request named pending created =>
    right
    show some event.id = some delivery.eventId
    rw [created]
  | admitted call delivery claim route eligibleAt creates event => exact .inr event

/-- A delivery that comes with an event is the one the call names. -/
theorem Effect.creates {event : RelayEvent} (effect : Effect nowMillis id call none gs (some e))
    (brings : call.event = some event) : call.creates = some id := by
  cases effect with
  | saved delivery => cases brings
  | stranded event delivery request named => rw [← named]; rfl
  | admitted call delivery claim route eligibleAt creates => exact creates

end Effect

section Repair

variable {nowMillis : ℕ} {L L' : Ledger} {id : DeliveryId} {route : DeliveryRouteSnapshot} {answer : Answer}

/-- A repair takes the route it is given, or changes nothing. -/
theorem Served.repairDeadLetter (served : Served nowMillis L (.repairDeadLetter id route) answer L') :
    (answer = .ok .done ∧ ∃ e, L id = some e ∧ e.delivery.destinationId = route.destinationId ∧
        L' = Function.update L id (some (e.repair nowMillis route))) ∨
      (∃ tag, answer = .error tag) ∧ L' = L := by
  cases served with
  | onEntry call id op about =>
    cases about
    have back : ∀ x, L id = x → Function.update L id x = L := by
      rintro x rfl
      exact Function.update_eq_self id L
    cases held : L id with
    | none => exact .inr ⟨⟨_, rfl⟩, back _ held⟩
    | some e =>
      by_cases dead : Entry.isDeadLettered e.delivery.state = true
      · rw [Entry.repairDeadLetter, Entry.recovered, if_pos dead]
        by_cases own : e.delivery.destinationId = route.destinationId
        · rw [if_pos own]
          exact .inl ⟨rfl, e, rfl, own, rfl⟩
        · rw [if_neg own]
          exact .inr ⟨⟨_, rfl⟩, back _ held⟩
      · rw [Entry.repairDeadLetter, Entry.recovered, if_neg dead]
        exact .inr ⟨⟨_, rfl⟩, back _ held⟩
  | refused call tag unfenced => exact .inr ⟨⟨tag, rfl⟩, rfl⟩

end Repair

/-- A delivery after any call: the same one, on its old route or the one it was repaired to. -/
theorem Served.rerouted {nowMillis : ℕ} {L L' : Ledger} {call : StoreCall} {answer : Answer} {id : DeliveryId}
    {e : Entry} (served : Served nowMillis L call answer L') (held : L id = some e) :
    ∃ e', L' id = some e' ∧ e.Identical e' ∧
      (e'.route = e.route ∧ call.repairs id answer = none ∨
        ∃ route, e'.route = some route ∧ call.repairs id answer = some route ∧
          e.delivery.destinationId = route.destinationId) := by
  have effect := served.effect id
  rw [held] at effect
  obtain ⟨e', after, same⟩ := effect.identical
  refine ⟨e', after, same, ?_⟩
  rw [after] at effect
  by_cases repair : ∃ route, call = .repairDeadLetter id route
  · obtain ⟨route, rfl⟩ := repair
    obtain ⟨rfl, e₀, held₀, own, update⟩ | ⟨⟨tag, rfl⟩, rfl⟩ := served.repairDeadLetter
    · rw [held, Option.some.injEq] at held₀
      subst held₀
      rw [update, Function.update_self, Option.some.injEq] at after
      subst after
      exact .inr ⟨route, rfl, if_pos rfl, own⟩
    · rw [held, Option.some.injEq] at after
      subst after
      exact .inl ⟨rfl, rfl⟩
  · left
    obtain route | repaired := effect.route
    · refine ⟨route, ?_⟩
      unfold StoreCall.repairs
      split
      · next id' route' _ =>
        rw [if_neg]
        rintro rfl
        exact repair ⟨route', rfl⟩
      · rfl
    · exact absurd repaired repair

end Relay
