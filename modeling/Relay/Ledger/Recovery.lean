import Relay.Ledger.Lifecycle

/-!
# Recovering a dead letter

A retry, a repair or a termination either ends the dead letter it is for, keeping
everything but what it is meant to change, or is refused for a reason that holds.
-/

namespace Relay

/-- The actions of an operator. -/
inductive Recovery where
  | retryDeadLetter (id : DeliveryId)
  | repairDeadLetter (id : DeliveryId) (route : DeliveryRouteSnapshot)
  | terminateDeadLetter (id : DeliveryId)
deriving DecidableEq

namespace Recovery

def id : Recovery → DeliveryId
  | .retryDeadLetter id | .repairDeadLetter id _ | .terminateDeadLetter id => id

def call : Recovery → StoreCall
  | .retryDeadLetter id => .retryDeadLetter id
  | .repairDeadLetter id route => .repairDeadLetter id route
  | .terminateDeadLetter id => .terminateDeadLetter id

/-- The route a repair brings. -/
def route : Recovery → Option DeliveryRouteSnapshot
  | .repairDeadLetter _ route => some route
  | .retryDeadLetter _ | .terminateDeadLetter _ => none

/-- What the action does to the entry of its delivery. -/
def serve (nowMillis : ℕ) : Recovery → Option Entry → Answer × Option Entry
  | .retryDeadLetter _ => Entry.retryDeadLetter nowMillis
  | .repairDeadLetter _ route => Entry.repairDeadLetter nowMillis route
  | .terminateDeadLetter _ => Entry.terminateDeadLetter

/-- The action ends the dead letter `e` at `nowMillis` and leaves `e'`. -/
structure Ends (action : Recovery) (nowMillis : ℕ) (e e' : Entry) : Prop where
  dead : Entry.isDeadLettered e.delivery.state = true
  undead : Entry.isDeadLettered e'.delivery.state = false
  attempts : e'.attempts = e.attempts
  generation : e'.generation = e.generation
  identical : e.Identical e'
  route : e'.route = action.route.or e.route
  own : ∀ route, action.route = some route → route.destinationId = e'.delivery.destinationId
  /-- A retried or repaired delivery is anyone's to claim at once. -/
  eligible : (∀ id, action ≠ .terminateDeadLetter id) →
    e'.claim = none ∧ ∀ later, nowMillis ≤ later → e'.due e.delivery.destinationId later = true

/-- The reasons an action on `x` is refused for. -/
inductive Refuses (action : Recovery) (x : Option Entry) : ErrorTag → Prop where
  | notFound (absent : x = none) : Refuses action x (.deadLetterRecoveryError .notFound)
  | notDeadLettered (e : Entry) (held : x = some e) (alive : Entry.isDeadLettered e.delivery.state = false) :
      Refuses action x (.deadLetterRecoveryError .notDeadLettered)
  | mismatch (e : Entry) (route : DeliveryRouteSnapshot) (repair : action.route = some route) (held : x = some e)
      (foreign : e.delivery.destinationId ≠ route.destinationId) :
      Refuses action x .deadLetterDestinationMismatchError

variable {action : Recovery} {nowMillis : ℕ} {e : Entry}

theorem onEntry (action : Recovery) (nowMillis : ℕ) :
    action.call.onEntry nowMillis = some (action.id, action.serve nowMillis) := by
  cases action <;> rfl

theorem unfenced (action : Recovery) : action.call.fence = none := by
  cases action <;> rfl

theorem ends_retry {id : DeliveryId} (dead : Entry.isDeadLettered e.delivery.state = true) :
    Ends (.retryDeadLetter id) nowMillis e (e.retry nowMillis) where
  dead := dead
  undead := rfl
  attempts := rfl
  generation := rfl
  identical := ⟨rfl, rfl, rfl⟩
  route := rfl
  own := fun _ brings => by cases brings
  eligible := by
    intro _
    refine ⟨rfl, ?_⟩
    intro later after
    simp [Entry.due, Entry.retry, Entry.withState, after]

theorem ends_repair {id : DeliveryId} {route : DeliveryRouteSnapshot} (dead : Entry.isDeadLettered e.delivery.state = true)
    (own : e.delivery.destinationId = route.destinationId) :
    Ends (.repairDeadLetter id route) nowMillis e (e.repair nowMillis route) where
  dead := dead
  undead := rfl
  attempts := rfl
  generation := rfl
  identical := ⟨rfl, rfl, rfl⟩
  route := rfl
  own := by
    intro route' brings
    cases brings
    exact own.symm
  eligible := by
    intro _
    refine ⟨rfl, ?_⟩
    intro later after
    simp [Entry.due, Entry.repair, Entry.retry, Entry.withState, after]

theorem ends_terminate {id : DeliveryId} (dead : Entry.isDeadLettered e.delivery.state = true) :
    Ends (.terminateDeadLetter id) nowMillis e (e.withState .terminated) where
  dead := dead
  undead := rfl
  attempts := rfl
  generation := rfl
  identical := ⟨rfl, rfl, rfl⟩
  route := rfl
  own := fun _ brings => by cases brings
  eligible := fun other => absurd rfl (other id)

/-- **An action ends the dead letter it is for, or changes nothing and says why.** -/
theorem serve_cases (action : Recovery) (nowMillis : ℕ) (x : Option Entry) :
    (∃ e e', x = some e ∧ action.serve nowMillis x = (.ok .done, some e') ∧ action.Ends nowMillis e e') ∨
      ∃ tag, action.serve nowMillis x = (.error tag, x) ∧ action.Refuses x tag := by
  cases x with
  | none => exact .inr ⟨_, by cases action <;> rfl, .notFound rfl⟩
  | some e =>
    by_cases dead : Entry.isDeadLettered e.delivery.state = true
    · cases action with
      | retryDeadLetter id => exact .inl ⟨e, _, rfl, if_pos dead, ends_retry dead⟩
      | terminateDeadLetter id => exact .inl ⟨e, _, rfl, if_pos dead, ends_terminate dead⟩
      | repairDeadLetter id route =>
        by_cases own : e.delivery.destinationId = route.destinationId
        · exact .inl ⟨e, _, rfl, (if_pos dead).trans (if_pos own), ends_repair dead own⟩
        · exact .inr ⟨_, (if_pos dead).trans (if_neg own), .mismatch e route rfl rfl own⟩
    · have alive : Entry.isDeadLettered e.delivery.state = false := by simpa using dead
      refine .inr ⟨_, ?_, .notDeadLettered e rfl alive⟩
      cases action <;> exact if_neg dead

end Recovery

/-- No call but an action of an operator brings a dead letter back. -/
theorem Served.stays_dead {nowMillis : ℕ} {L L' : Ledger} {call : StoreCall} {answer : Answer} {id : DeliveryId} {e : Entry}
    (served : Served nowMillis L call answer L') (other : ∀ action : Recovery, call ≠ action.call) (held : L id = some e)
    (dead : Entry.isDeadLettered e.delivery.state = true) :
    ∃ e', L' id = some e' ∧ Entry.isDeadLettered e'.delivery.state = true := by
  obtain ⟨e', held', advances⟩ := served.advances held
  refine ⟨e', held', ?_⟩
  have moves := advances.state
  generalize e.delivery.state = state at moves dead
  generalize e'.delivery.state = state' at moves
  cases moves with
  | stays => exact dead
  | delivered | rejected | deadLettered => cases dead
  | retried => exact absurd rfl (other (.retryDeadLetter id))
  | repaired route => exact absurd rfl (other (.repairDeadLetter id route))
  | terminated => exact absurd rfl (other (.terminateDeadLetter id))

end Relay
