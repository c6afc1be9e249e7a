import Relay.Adapters.PostgresServed
import Relay.Ledger.Identity

/-!
# Where a delivery is sent

The route an entry holds is the accepted one, or that of the last repair: it can
be read off the calls that were served. A claim is handed out with the route the
entry holds then.
-/

namespace Relay

/-- The route a call accepts the delivery with. -/
def Serving.accepts (id : DeliveryId) (l : Serving) : Option DeliveryRouteSnapshot :=
  match l.call, l.answer with
  | .accept record, .ok (.decided (.accepted _ _)) => if record.deliveryId = id then some record.route else none
  | _, _ => none

/-- The route a call repairs the delivery with. -/
def Serving.repairs (id : DeliveryId) (l : Serving) : Option DeliveryRouteSnapshot := l.call.repairs id l.answer

def acceptedRoute (id : DeliveryId) (calls : List Serving) : Option DeliveryRouteSnapshot :=
  calls.findSome? fun l => l.accepts id

def lastRepair (id : DeliveryId) (calls : List Serving) : Option DeliveryRouteSnapshot :=
  (calls.filterMap fun l => l.repairs id).getLast?

def routeAfter (id : DeliveryId) (calls : List Serving) : Option DeliveryRouteSnapshot :=
  (lastRepair id calls).or (acceptedRoute id calls)

section Calls

variable {id : DeliveryId} {calls : List Serving} {l : Serving}

theorem acceptedRoute_snoc : acceptedRoute id (calls ++ [l]) = (acceptedRoute id calls).or (l.accepts id) := by
  rw [acceptedRoute, List.findSome?_append]
  cases accepts : l.accepts id <;> simp [acceptedRoute, accepts]

theorem lastRepair_snoc : lastRepair id (calls ++ [l]) = (l.repairs id).or (lastRepair id calls) := by
  rw [lastRepair, List.filterMap_append, List.getLast?_append]
  cases repairs : l.repairs id <;> simp [lastRepair, repairs]

end Calls

/-- The routes of the ledger are those the calls so far put there. -/
structure Routes (calls : List Serving) (L : Ledger) : Prop where
  absent : ∀ id, L id = none → acceptedRoute id calls = none ∧ lastRepair id calls = none
  stored : ∀ id e, L id = some e → e.route = routeAfter id calls
  own : ∀ id e, L id = some e → e.Routed

section Served

variable {nowMillis : ℕ} {L L' : Ledger} {call : StoreCall} {answer : Answer} {id : DeliveryId}

/-- A delivery there is is not accepted again. -/
theorem Served.unaccepted (served : Served nowMillis L call answer L') {e : Entry} (held : L id = some e) :
    Serving.accepts id ⟨nowMillis, call, answer⟩ = none := by
  cases served with
  | accepted record delivery expires eligibleAt granted fresh =>
    refine if_neg ?_
    rintro rfl
    rw [fresh] at held
    cases held
  | onEntry call id' op about =>
    cases call with
    | accept => cases about
    | _ => rfl
  | refused call => cases call <;> rfl
  | regranted | claimPending | replayed | saved | stranded => rfl

/-- A delivery there is not yet is not repaired. -/
theorem Served.unrepaired (served : Served nowMillis L call answer L') (absent : L id = none) :
    Serving.repairs id ⟨nowMillis, call, answer⟩ = none := by
  cases call with
  | repairDeadLetter id' route =>
    obtain ⟨rfl, e, held, -⟩ | ⟨⟨tag, rfl⟩, -⟩ := served.repairDeadLetter
    · refine if_neg ?_
      rintro rfl
      rw [absent] at held
      cases held
    · rfl
  | _ => rfl

/-- A new delivery has the route it is accepted with, or none. -/
theorem Served.routed_new (served : Served nowMillis L call answer L') (absent : L id = none) :
    (L' id = none ∧ Serving.accepts id ⟨nowMillis, call, answer⟩ = none) ∨
      ∃ e, L' id = some e ∧ e.route = Serving.accepts id ⟨nowMillis, call, answer⟩ ∧ e.Routed := by
  have silent : ∀ {id' : DeliveryId} {e : Entry}, Serving.accepts id ⟨nowMillis, call, answer⟩ = none → e.route = none →
      (Function.update L id' (some e) id = none ∧ Serving.accepts id ⟨nowMillis, call, answer⟩ = none) ∨
        ∃ e', Function.update L id' (some e) id = some e' ∧
          e'.route = Serving.accepts id ⟨nowMillis, call, answer⟩ ∧ e'.Routed := by
    intro id' e unaccepted unrouted
    by_cases here : id = id'
    · subst here
      refine .inr ⟨e, Function.update_self _ _ L, by rw [unrouted, unaccepted], ?_⟩
      intro route held
      rw [unrouted] at held
      cases held
    · exact .inl ⟨by rw [Function.update_of_ne here, absent], unaccepted⟩
  cases served with
  | onEntry call id' op about =>
    have unaccepted : Serving.accepts id ⟨nowMillis, call, (op (L id')).1⟩ = none := by
      cases call with
      | accept => cases about
      | _ => rfl
    by_cases here : id = id'
    · subst here
      have effect := (onEntry_does (x := L id) about).effect
      generalize (op (L id)).2 = y at effect ⊢
      rw [absent] at effect
      cases effect with
      | same => exact .inl ⟨Function.update_self _ _ L, unaccepted⟩
      | saved | stranded => exact silent unaccepted rfl
    · exact .inl ⟨by rw [Function.update_of_ne here, absent], unaccepted⟩
  | regranted id' claim lease expires odd =>
    by_cases here : id = id'
    · subst here
      refine .inl ⟨?_, rfl⟩
      rw [Function.update_self, absent]
      rfl
    · exact .inl ⟨by rw [Function.update_of_ne here, absent], rfl⟩
  | claimPending ownerId destinationId limit lease expires claimed L' granted batch =>
    refine .inl ⟨?_, rfl⟩
    rw [batch.others id, absent]
    rintro c member rfl
    obtain ⟨e, held, -⟩ := batch.each c member
    rw [absent] at held
    cases held
  | accepted record delivery expires eligibleAt granted fresh created =>
    by_cases here : record.deliveryId = id
    · subst here
      refine .inr ⟨_, Function.update_self _ _ L, (if_pos rfl).symm, ?_⟩
      intro route held
      cases held
      rw [created]
      rfl
    · exact .inl ⟨by rw [Function.update_of_ne (Ne.symm here), absent], if_neg here⟩
  | saved | stranded => exact silent rfl rfl
  | replayed => exact .inl ⟨absent, rfl⟩
  | refused call => exact .inl ⟨absent, by cases call <;> rfl⟩

/-- **Every call keeps the routes what the calls say they are.** -/
theorem Routes.served {calls : List Serving} (routes : Routes calls L) (served : Served nowMillis L call answer L') :
    Routes (calls ++ [⟨nowMillis, call, answer⟩]) L' where
  absent := by
    intro id gone
    cases held : L id with
    | some e =>
      obtain ⟨e', held', -⟩ := served.rerouted held
      rw [gone] at held'
      cases held'
    | none =>
      obtain ⟨unaccepted, unrepaired⟩ := routes.absent id held
      obtain ⟨-, here⟩ | ⟨e, held', -⟩ := served.routed_new held
      · rw [acceptedRoute_snoc, lastRepair_snoc, unaccepted, unrepaired, here, served.unrepaired held]
        exact ⟨rfl, rfl⟩
      · rw [gone] at held'
        cases held'
  stored := by
    intro id e' held'
    cases held : L id with
    | some e =>
      obtain ⟨e'', same, -, kept⟩ := served.rerouted held
      rw [held', Option.some.injEq] at same
      subst same
      have before := routes.stored id e held
      rw [routeAfter, acceptedRoute_snoc, lastRepair_snoc, served.unaccepted held, Option.or_none]
      obtain ⟨unmoved, quiet⟩ | ⟨route, moved, repairs, -⟩ := kept
      · rw [show Serving.repairs id ⟨nowMillis, call, answer⟩ = none from quiet, Option.none_or, unmoved, before, routeAfter]
      · rw [show Serving.repairs id ⟨nowMillis, call, answer⟩ = some route from repairs, moved]
        rfl
    | none =>
      obtain ⟨unaccepted, unrepaired⟩ := routes.absent id held
      rw [routeAfter, acceptedRoute_snoc, lastRepair_snoc, unaccepted, unrepaired, served.unrepaired held, Option.none_or,
        Option.none_or, Option.none_or]
      obtain ⟨gone, -⟩ | ⟨e, new, route, -⟩ := served.routed_new held
      · rw [held'] at gone
        cases gone
      · rw [held', Option.some.injEq] at new
        rw [new, route]
  own := by
    intro id e' held'
    cases held : L id with
    | some e =>
      obtain ⟨e'', same, identical, kept⟩ := served.rerouted held
      rw [held', Option.some.injEq] at same
      subst same
      intro route now
      rw [identical.destinationId]
      obtain ⟨unmoved, -⟩ | ⟨route', moved, -, destination⟩ := kept
      · exact routes.own id e held route (by rw [← unmoved, now])
      · rw [moved, Option.some.injEq] at now
        rw [← now, destination]
    | none =>
      obtain ⟨gone, -⟩ | ⟨e, new, -, routed⟩ := served.routed_new held
      · rw [held'] at gone
        cases gone
      · rw [held', Option.some.injEq] at new
        rw [new]
        exact routed

/-- A claim is handed out with the route its delivery has then. -/
theorem Served.handsOut_route (served : Served nowMillis L call answer L') {c : ClaimedDelivery}
    (member : c ∈ handedOut answer) : ∃ e, L' c.delivery.id = some e ∧ c.route = e.route := by
  cases served with
  | onEntry call id op about => simp [handedOut_eq_nil (onEntry_does about).issues] at member
  | regranted id claim lease expires odd =>
    simp [handedOut_eq_nil (renewClaim_does nowMillis id (L id) claim lease expires).issues] at member
  | claimPending ownerId destinationId limit lease expires claimed L' granted batch =>
    obtain ⟨e, -, -, -, -, route, -, -, after⟩ := batch.each c member
    exact ⟨_, after, route⟩
  | accepted record delivery expires eligibleAt granted fresh created =>
    obtain rfl := List.mem_singleton.1 member
    rw [created]
    exact ⟨_, Function.update_self .., rfl⟩
  | saved event delivery request expires granted fresh pending created =>
    obtain rfl := List.mem_singleton.1 member
    exact ⟨_, Function.update_self .., rfl⟩
  | replayed | stranded | refused => cases member

end Served

theorem routes_init : Routes [] fun _ => none where
  absent := fun _ _ => ⟨rfl, rfl⟩
  stored := fun _ _ held => by cases held
  own := fun _ _ held => by cases held

end Relay
