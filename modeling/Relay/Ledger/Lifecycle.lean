import Relay.Ledger.Fencing
import Relay.Ledger.Identity

/-!
# The life of a delivery

What one call may do to a delivery that exists: its state moves along the edges of
the lifecycle, its history grows at the end, its generation does not go back. A
call leaves alone the deliveries it does not name and does not hand out.
-/

namespace Relay

/-- The moves of the state under one call that names, or may hand out, the delivery `id`. -/
inductive DeliveryState.Moves (id : DeliveryId) : StoreCall → DeliveryState → DeliveryState → Prop where
  | stays (call : StoreCall) (state : DeliveryState) : Moves id call state state
  | delivered (call : StoreCall) (status : ℤ) : Moves id call .pending (.delivered status)
  | rejected (call : StoreCall) (status : ℤ) : Moves id call .pending (.rejected status)
  | deadLettered (call : StoreCall) (reason : DeadLetterReason) : Moves id call .pending (.deadLettered reason)
  | retried (reason : DeadLetterReason) : Moves id (.retryDeadLetter id) (.deadLettered reason) .pending
  | repaired (route : DeliveryRouteSnapshot) (reason : DeadLetterReason) :
      Moves id (.repairDeadLetter id route) (.deadLettered reason) .pending
  | terminated (reason : DeadLetterReason) : Moves id (.terminateDeadLetter id) (.deadLettered reason) .terminated

/-- The states nothing leads out of. -/
def DeliveryState.isFinal : DeliveryState → Bool
  | .delivered _ | .rejected _ | .terminated => true
  | .pending | .deadLettered _ => false

theorem DeliveryState.Moves.final {id : DeliveryId} {call : StoreCall} {state state' : DeliveryState}
    (moves : DeliveryState.Moves id call state state') (final : state.isFinal = true) : state' = state := by
  cases moves with
  | stays => rfl
  | delivered | rejected | deadLettered | retried | repaired | terminated => cases final

/-- The delivery a call names. -/
def StoreCall.names : StoreCall → Option DeliveryId
  | .save delivery => some delivery.id
  | .findById id => some id
  | .accept record => some record.deliveryId
  | .savePending _ id _ _ => some id
  | .claimPending .. => none
  | .renewClaim id _ _ => some id
  | .recordAttempt attempt => some attempt.deliveryId
  | .completeClaim id _ _ => some id
  | .releaseClaim id _ => some id
  | .retryDeadLetter id => some id
  | .repairDeadLetter id _ => some id
  | .terminateDeadLetter id => some id

/-- The call names the delivery, or hands it out. -/
def StoreCall.Concerns (call : StoreCall) (answer : Answer) (id : DeliveryId) : Prop :=
  call.names = some id ∨ ∃ c ∈ handedOut answer, c.delivery.id = id

/-- What one call, answered `answer`, may make of the entry `e`. -/
structure Entry.Advances (id : DeliveryId) (call : StoreCall) (answer : Answer) (e e' : Entry) : Prop where
  state : DeliveryState.Moves id call e.delivery.state e'.delivery.state
  /-- An operator action that is answered with a failure moves nothing. -/
  failed : ∀ tag, answer = .error tag → e' = e
  attempts : e.attempts <+: e'.attempts
  generation : e.generation ≤ e'.generation
  identical : e.Identical e'
  route : e'.route = e.route ∨ ∃ route, call = .repairDeadLetter id route ∧ answer = .ok .done ∧
    e'.route = some route ∧ route.destinationId = e'.delivery.destinationId

/-! ## One call -/

section Effect

variable {nowMillis : ℕ} {id : DeliveryId} {call : StoreCall} {e e' : Entry} {gs : List ℕ}

/-- The states a record of a last attempt settles a delivery in. -/
theorem terminalStateFromAttempt_moves {attempt : DeliveryAttemptRecord} {state : DeliveryState}
    (last : terminalStateFromAttempt attempt = some state) (call : StoreCall) :
    DeliveryState.Moves id call .pending state := by
  unfold terminalStateFromAttempt at last
  split at last
  · cases last
    exact .deadLettered call _
  · cases last
  · split at last
    · obtain ⟨status, -, rfl⟩ := Option.map_eq_some_iff.1 last
      exact .delivered call status
    · obtain ⟨status, -, rfl⟩ := Option.map_eq_some_iff.1 last
      exact .rejected call status
    · cases last
      exact .deadLettered call _
    · cases last
    · cases last
    · cases last

theorem deliveryStateFromResult_moves (call : StoreCall) (result : DeliveryResult) :
    DeliveryState.Moves id call .pending (deliveryStateFromResult result) := by
  cases result with
  | delivered _ status => exact .delivered call status
  | rejected _ status => exact .rejected call status
  | protocolFailure => exact .deadLettered call _
  | exhausted => exact .deadLettered call _

theorem Entry.isDeadLettered_iff {state : DeliveryState} :
    Entry.isDeadLettered state = true ↔ ∃ reason, state = .deadLettered reason := by
  cases state <;> simp [Entry.isDeadLettered]

/-- The state moves along an edge, whatever the call does. -/
theorem Effect.moves (effect : Effect nowMillis id call (some e) gs (some e')) :
    DeliveryState.Moves id call e.delivery.state e'.delivery.state := by
  cases effect with
  | same | issued | scheduled | renewed | released => exact .stays _ _
  | settled attempt named e state holds new last =>
    rw [(Entry.holds_iff.1 holds).1]
    exact terminalStateFromAttempt_moves last _
  | completed claim result e holds =>
    rw [(Entry.holds_iff.1 holds).1]
    exact deliveryStateFromResult_moves _ result
  | retried e dead =>
    obtain ⟨reason, state⟩ := Entry.isDeadLettered_iff.1 dead
    rw [state]
    exact .retried reason
  | repaired route e dead =>
    obtain ⟨reason, state⟩ := Entry.isDeadLettered_iff.1 dead
    rw [state]
    exact .repaired route reason
  | terminated e dead =>
    obtain ⟨reason, state⟩ := Entry.isDeadLettered_iff.1 dead
    rw [state]
    exact .terminated reason

theorem Effect.attempts (effect : Effect nowMillis id call (some e) gs (some e')) : e.attempts <+: e'.attempts := by
  cases effect with
  | scheduled attempt | settled attempt => exact List.prefix_append _ _
  | same | issued | renewed | completed | released | retried | repaired | terminated => exact List.prefix_rfl

theorem Effect.generation (effect : Effect nowMillis id call (some e) gs (some e')) : e.generation ≤ e'.generation := by
  cases effect with
  | issued => exact Nat.le_succ _
  | same | scheduled | settled | renewed | completed | released | retried | repaired | terminated => exact le_rfl

/-- The history grows by a recorded attempt, and a scheduled retry leaves the delivery as it is. -/
theorem Effect.recorded (effect : Effect nowMillis id call (some e) gs (some e')) : e'.attempts = e.attempts ∨
    ∃ attempt, call = .recordAttempt attempt ∧ attempt.deliveryId = id ∧
      (terminalStateFromAttempt attempt = none → e'.delivery = e.delivery ∧ e.delivery.state = .pending) := by
  cases effect with
  | scheduled attempt named e holds =>
    exact .inr ⟨attempt, rfl, named, fun _ => ⟨rfl, (Entry.holds_iff.1 holds).1⟩⟩
  | settled attempt named e state holds new last =>
    refine .inr ⟨attempt, rfl, named, ?_⟩
    intro retry
    rw [last] at retry
    cases retry
  | same | issued | renewed | completed | released | retried | repaired | terminated => exact .inl rfl

end Effect

/-! ## Failed calls -/

/-- An operation on one entry that leaves it alone when it fails. -/
def Entry.Harmless (op : Option Entry → Answer × Option Entry) : Prop :=
  ∀ x tag, (op x).1 = .error tag → (op x).2 = x

section Harmless

variable {act : Entry → Answer × Option Entry}

theorem Entry.harmless_fenced (ownerId : WorkerId) (generation : ClaimGeneration) (live : Option ℕ)
    (acts : ∀ e tag, (act e).1 = .error tag → (act e).2 = some e) :
    Entry.Harmless (Entry.fenced ownerId generation live act) := by
  intro x tag failed
  cases x with
  | none => rfl
  | some e =>
    by_cases holds : e.holds ownerId generation live = true
    · rw [Entry.fenced, if_pos holds] at failed ⊢
      exact acts e tag failed
    · rw [Entry.fenced, if_neg holds]

theorem Entry.harmless_recovered (acts : ∀ e tag, (act e).1 = .error tag → (act e).2 = some e) :
    Entry.Harmless (Entry.recovered act) := by
  intro x tag failed
  cases x with
  | none => rfl
  | some e =>
    by_cases dead : Entry.isDeadLettered e.delivery.state = true
    · rw [Entry.recovered, if_pos dead] at failed ⊢
      exact acts e tag failed
    · rw [Entry.recovered, if_neg dead]

theorem StoreCall.harmless {nowMillis : ℕ} {id : DeliveryId} {call : StoreCall}
    {op : Option Entry → Answer × Option Entry} (about : call.onEntry nowMillis = some (id, op)) :
    Entry.Harmless op := by
  cases call with
  | save delivery =>
    cases about
    intro x tag failed
    cases failed
  | findById id =>
    cases about
    intro x tag failed
    cases failed
  | recordAttempt attempt =>
    cases about
    apply Entry.harmless_fenced
    intro e tag failed
    by_cases taken : e.hasOrdinal attempt.ordinal = true
    · rw [if_pos taken]
    · rw [if_neg taken] at failed
      split at failed <;> cases failed
  | renewClaim id claim lease =>
    obtain ⟨p, -, hp⟩ := Option.map_eq_some_iff.1 about
    cases hp
    exact Entry.harmless_fenced _ _ _ fun e tag failed => by cases failed
  | completeClaim id claim result =>
    cases about
    exact Entry.harmless_fenced _ _ _ fun e tag failed => by cases failed
  | releaseClaim id claim =>
    cases about
    exact Entry.harmless_fenced _ _ _ fun e tag failed => by cases failed
  | retryDeadLetter id =>
    cases about
    exact Entry.harmless_recovered fun e tag failed => by cases failed
  | repairDeadLetter id route =>
    cases about
    apply Entry.harmless_recovered
    intro e tag failed
    by_cases own : e.delivery.destinationId = route.destinationId
    · rw [if_pos own] at failed
      cases failed
    · rw [if_neg own]
  | terminateDeadLetter id =>
    cases about
    exact Entry.harmless_recovered fun e tag failed => by cases failed
  | accept | savePending | claimPending => cases about

end Harmless

/-! ## The whole store -/

section Served

variable {nowMillis : ℕ} {L L' : Ledger} {call : StoreCall} {answer : Answer} {id : DeliveryId}

/-- **A failed call changes no delivery there was.** -/
theorem Served.failed {tag : ErrorTag} (served : Served nowMillis L call (.error tag) L') {e : Entry}
    (held : L id = some e) : L' id = some e := by
  generalize replied : (.error tag : Answer) = answer at served
  cases served with
  | onEntry call id' op about =>
    have same := StoreCall.harmless about (L id') tag replied.symm
    rw [same, Function.update_eq_self]
    exact held
  | regranted id' claim lease expires odd =>
    have same := Entry.harmless_fenced claim.ownerId claim.generation (some nowMillis)
      (fun e tag failed => by cases failed) (L id') tag replied.symm
    rw [Entry.renewClaim, same, Function.update_eq_self]
    exact held
  | claimPending | accepted | replayed | saved => cases replied
  | stranded event delivery request fresh pending created =>
    have away : id ≠ delivery.id := by
      rintro rfl
      rw [fresh] at held
      cases held
    rw [Function.update_of_ne away]
    exact held
  | refused => exact held

/-- **A call leaves alone every delivery it does not concern.** -/
theorem Served.frame (served : Served nowMillis L call answer L') (apart : ¬ call.Concerns answer id) :
    L' id = L id := by
  rw [StoreCall.Concerns, not_or] at apart
  obtain ⟨unnamed, kept⟩ := apart
  have away : ∀ id' y, call.names = some id' → Function.update L id' y id = L id := by
    intro id' y named
    refine Function.update_of_ne ?_ _ _
    rintro rfl
    exact unnamed named
  cases served with
  | onEntry call id' op about =>
    refine away id' _ ?_
    cases call with
    | renewClaim id claim lease =>
      obtain ⟨p, -, hp⟩ := Option.map_eq_some_iff.1 about
      cases hp
      rfl
    | accept | savePending | claimPending => cases about
    | _ => cases about; rfl
  | regranted id' claim lease expires odd => exact away id' _ rfl
  | claimPending ownerId destinationId limit lease expires claimed L' granted batch =>
    refine batch.others id ?_
    intro c member same
    exact kept ⟨c, member, same⟩
  | accepted record => exact away record.deliveryId _ rfl
  | saved event delivery => exact away delivery.id _ rfl
  | stranded event delivery => exact away delivery.id _ rfl
  | replayed | refused => rfl

/-- **Every call keeps to the lifecycle** of every delivery there is. -/
theorem Served.advances (served : Served nowMillis L call answer L') {e : Entry} (held : L id = some e) :
    ∃ e', L' id = some e' ∧ e.Advances id call answer e' := by
  obtain ⟨e', after, identical, route⟩ := served.rerouted held
  have effect := served.effect id
  rw [held, after] at effect
  refine ⟨e', after, effect.moves, ?_, effect.attempts, effect.generation, identical, ?_⟩
  · rintro tag rfl
    rw [served.failed held, Option.some.injEq] at after
    exact after.symm
  · obtain ⟨same, -⟩ | ⟨route, repaired, repairs, own⟩ := route
    · exact .inl same
    · right
      cases call with
      | repairDeadLetter id' route' =>
        obtain ⟨rfl, -⟩ | ⟨⟨tag, rfl⟩, -⟩ := served.repairDeadLetter
        · obtain ⟨rfl, rfl⟩ : id' = id ∧ route' = route := by
            simpa [StoreCall.repairs] using repairs
          exact ⟨route', rfl, rfl, repaired, by rw [identical.destinationId, own]⟩
        · cases repairs
      | _ => cases repairs

end Served

end Relay
