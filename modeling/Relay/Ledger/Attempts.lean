import Relay.Ledger.Fencing
import Relay.Ledger.Identity

/-!
# The recorded attempts of a delivery

While attempts are recorded in order, their ordinals count up from 1, their
generations never fall, and the state of the delivery is the one its last attempt
implies, up to what operators do to a dead letter.
-/

namespace Relay

/-- The state of a delivery, given the one its last attempt implies. -/
inductive DeliveryState.Follows : Option DeliveryState → DeliveryState → Prop where
  | unsettled : Follows none .pending
  | delivered (status : ℤ) : Follows (some (.delivered status)) (.delivered status)
  | rejected (status : ℤ) : Follows (some (.rejected status)) (.rejected status)
  | deadLettered (reason : DeadLetterReason) : Follows (some (.deadLettered reason)) (.deadLettered reason)
  | recovered (reason : DeadLetterReason) : Follows (some (.deadLettered reason)) .pending
  | terminated (reason : DeadLetterReason) : Follows (some (.deadLettered reason)) .terminated

namespace Entry

/-- The state the last attempt implies. -/
def implied (e : Entry) : Option DeliveryState := e.attempts.getLast?.bind terminalStateFromAttempt

/-- The attempts recorded under a generation. -/
def recordedUnder (e : Entry) (generation : ℕ) : ℕ :=
  e.attempts.countP fun a => (a.claimGeneration : ℕ) = generation

structure Accounted (e : Entry) : Prop where
  ordinals : (e.attempts.map fun a => (a.ordinal : ℕ)) = List.range' 1 e.attempts.length
  ascending : (e.attempts.map fun a => (a.claimGeneration : ℕ)).Pairwise (· ≤ ·)
  bounded : ∀ a ∈ e.attempts, (a.claimGeneration : ℕ) ≤ e.generation
  follows : DeliveryState.Follows e.implied e.delivery.state

/-- One attempt more, in the state it implies. -/
structure Appends (e : Entry) (attempt : DeliveryAttemptRecord) (e' : Entry) : Prop where
  attempts : e'.attempts = e.attempts ++ [attempt]
  generation : e'.generation = e.generation
  follows : DeliveryState.Follows (terminalStateFromAttempt attempt) e'.delivery.state

/-- The same attempts, in a state that still follows from them. -/
structure Keeps (e e' : Entry) : Prop where
  attempts : e'.attempts = e.attempts
  generation : e.generation ≤ e'.generation
  follows : DeliveryState.Follows e.implied e.delivery.state → DeliveryState.Follows e.implied e'.delivery.state

section Accounted

variable {e e' : Entry} {attempt : DeliveryAttemptRecord}

theorem Keeps.refl (e : Entry) : e.Keeps e := ⟨rfl, le_refl _, id⟩

theorem Keeps.accounted (keeps : e.Keeps e') (accounted : e.Accounted) : e'.Accounted where
  ordinals := by
    rw [keeps.attempts]
    exact accounted.ordinals
  ascending := by
    rw [keeps.attempts]
    exact accounted.ascending
  bounded := by
    rw [keeps.attempts]
    intro a member
    exact le_trans (accounted.bounded a member) keeps.generation
  follows := by
    have same : e'.implied = e.implied := by rw [implied, implied, keeps.attempts]
    rw [same]
    exact keeps.follows accounted.follows

/-- A new entry has no attempts. -/
theorem accounted_of_new (none : e.attempts = []) (pending : e.delivery.state = .pending) : e.Accounted where
  ordinals := by rw [none]; rfl
  ascending := by rw [none]; exact .nil
  bounded := by simp [none]
  follows := by
    rw [implied, none, pending]
    exact .unsettled

/-- With the ordinals counted, the next one is one above their number. -/
theorem Accounted.nextOrdinal (accounted : e.Accounted) : e.nextOrdinal = e.attempts.length + 1 := by
  have top : ∀ n : ℕ, (List.range' 1 n).foldl max 0 = n := by
    intro n
    induction n with
    | zero => rfl
    | succ n ih =>
      rw [List.range'_concat, List.foldl_append, ih]
      show max n (1 + 1 * n) = n + 1
      omega
  rw [Entry.nextOrdinal, accounted.ordinals, top]

/-- No generation above the last issued one has attempts. -/
theorem Accounted.recordedUnder_eq_zero (accounted : e.Accounted) {generation : ℕ} (above : e.generation < generation) :
    e.recordedUnder generation = 0 := by
  rw [recordedUnder, List.countP_eq_zero]
  intro a member same
  have bound := accounted.bounded a member
  rw [decide_eq_true_eq] at same
  omega

theorem Appends.recordedUnder (appends : e.Appends attempt e') (generation : ℕ) :
    e'.recordedUnder generation =
      e.recordedUnder generation + if (attempt.claimGeneration : ℕ) = generation then 1 else 0 := by
  rw [Entry.recordedUnder, appends.attempts, List.countP_append, List.countP_singleton]
  simp only [decide_eq_true_eq]
  rfl

/-- What a terminal record implies is a state an attempt can end in. -/
theorem follows_terminalStateFromAttempt {state : DeliveryState}
    (last : terminalStateFromAttempt attempt = some state) : DeliveryState.Follows (some state) state := by
  unfold terminalStateFromAttempt at last
  split at last
  · cases last
    exact .deadLettered _
  · cases last
  · split at last
    · obtain ⟨status, -, rfl⟩ := Option.map_eq_some_iff.1 last
      exact .delivered status
    · obtain ⟨status, -, rfl⟩ := Option.map_eq_some_iff.1 last
      exact .rejected status
    · cases last
      exact .deadLettered _
    · cases last
    · cases last
    · cases last

/-- What a record makes of a pending entry. -/
theorem appends_of_written (pending : e.delivery.state = .pending)
    (written : terminalStateFromAttempt attempt = none ∧ e' = e.schedule attempt ∨
      ∃ state, terminalStateFromAttempt attempt = some state ∧ e' = e.settle attempt state) :
    e.Appends attempt e' := by
  rcases written with ⟨retry, rfl⟩ | ⟨state, last, rfl⟩
  · refine ⟨rfl, rfl, ?_⟩
    rw [retry, show (e.schedule attempt).delivery.state = .pending from pending]
    exact .unsettled
  · refine ⟨rfl, rfl, ?_⟩
    rw [last]
    exact follows_terminalStateFromAttempt last

/-- An attempt recorded under the last issued generation, with the next ordinal, extends the account. -/
theorem Accounted.append (accounted : e.Accounted) (appends : e.Appends attempt e')
    (current : (attempt.claimGeneration : ℕ) = e.generation)
    (next : (attempt.ordinal : ℕ) = e.attempts.length + 1) : e'.Accounted where
  ordinals := by
    rw [appends.attempts, List.map_append, accounted.ordinals, List.length_append, List.length_singleton,
      List.range'_concat, List.map_singleton, next]
    congr 2
    omega
  ascending := by
    rw [appends.attempts, List.map_append, List.pairwise_append]
    refine ⟨accounted.ascending, List.pairwise_singleton _ _, ?_⟩
    intro g member g' last
    obtain ⟨a, early, rfl⟩ := List.mem_map.1 member
    rw [List.map_singleton, List.mem_singleton] at last
    have bound := accounted.bounded a early
    omega
  bounded := by
    intro a member
    rw [appends.attempts, List.mem_append, List.mem_singleton] at member
    rw [appends.generation]
    rcases member with early | rfl
    · exact accounted.bounded a early
    · exact current.le
  follows := by
    rw [implied, appends.attempts, List.getLast?_append]
    exact appends.follows

end Accounted

end Entry

/-! ## What the calls do to the account -/

/-- A call that neither records an attempt nor settles a delivery from outside the worker protocol. -/
def StoreCall.Clerical (call : StoreCall) : Prop :=
  (∀ delivery, call ≠ .save delivery) ∧ (∀ attempt, call ≠ .recordAttempt attempt) ∧
    ∀ id claim result, call ≠ .completeClaim id claim result

section Effect

variable {nowMillis : ℕ} {id : DeliveryId} {call : StoreCall} {x : Option Entry} {e e' : Entry} {gs : List ℕ}

theorem Effect.keeps (effect : Effect nowMillis id call (some e) gs (some e')) (clerical : call.Clerical) :
    e.Keeps e' := by
  cases effect with
  | same => exact .refl e
  | issued => exact ⟨rfl, Nat.le_succ _, fun follows => follows⟩
  | renewed | released => exact ⟨rfl, le_refl _, fun follows => follows⟩
  | scheduled attempt => exact absurd rfl (clerical.2.1 attempt)
  | settled attempt => exact absurd rfl (clerical.2.1 attempt)
  | completed claim result => exact absurd rfl (clerical.2.2 id claim result)
  | retried e dead | repaired route e dead =>
    refine ⟨rfl, le_refl _, ?_⟩
    intro follows
    show DeliveryState.Follows e.implied .pending
    generalize e.implied = implied at follows ⊢
    generalize e.delivery.state = state at follows dead
    cases follows with
    | deadLettered reason => exact .recovered reason
    | unsettled | delivered | rejected | recovered | terminated => cases dead
  | terminated e dead =>
    refine ⟨rfl, le_refl _, ?_⟩
    intro follows
    show DeliveryState.Follows e.implied .terminated
    generalize e.implied = implied at follows ⊢
    generalize e.delivery.state = state at follows dead
    cases follows with
    | deadLettered reason => exact .terminated reason
    | unsettled | delivered | rejected | recovered | terminated => cases dead

theorem Effect.born (effect : Effect nowMillis id call none gs (some e)) (clerical : call.Clerical) : e.Accounted := by
  cases effect with
  | saved delivery => exact absurd rfl (clerical.1 delivery)
  | stranded event delivery request named pending created => exact Entry.accounted_of_new rfl pending
  | admitted call delivery claim route eligibleAt creates event named pending first =>
    exact Entry.accounted_of_new rfl pending

end Effect

section Served

variable {nowMillis : ℕ} {L L' : Ledger} {call : StoreCall} {answer : Answer}

/-- A clerical call keeps every entry, or adds new ones. -/
theorem Served.keeps (served : Served nowMillis L call answer L') (clerical : call.Clerical) {id : DeliveryId} {e : Entry}
    (held : L id = some e) : ∃ e', L' id = some e' ∧ e.Keeps e' := by
  have effect := served.effect id
  rw [held] at effect
  obtain ⟨e', after, -⟩ := effect.identical
  rw [after] at effect
  exact ⟨e', after, effect.keeps clerical⟩

theorem Served.accounted (served : Served nowMillis L call answer L') (clerical : call.Clerical)
    (accounted : ∀ id e, L id = some e → e.Accounted) (id : DeliveryId) (e : Entry) (held : L' id = some e) :
    e.Accounted := by
  have effect := served.effect id
  rw [held] at effect
  cases before : L id with
  | none =>
    rw [before] at effect
    exact effect.born clerical
  | some e₀ =>
    rw [before] at effect
    exact (effect.keeps clerical).accounted (accounted id e₀ before)

/-- A record is written under the fence, with a new ordinal, or changes nothing. -/
theorem Served.recordAttempt {attempt : DeliveryAttemptRecord}
    (served : Served nowMillis L (.recordAttempt attempt) answer L') :
    (answer = .ok .done ∧ ∃ e e', L attempt.deliveryId = some e ∧
        e.holds attempt.workerId attempt.claimGeneration (some nowMillis) = true ∧
        L' = Function.update L attempt.deliveryId (some e') ∧
        (terminalStateFromAttempt attempt = none ∧ e' = e.schedule attempt ∨
          ∃ state, terminalStateFromAttempt attempt = some state ∧ e' = e.settle attempt state)) ∨
      (∃ tag, answer = .error tag) ∧ L' = L := by
  cases served with
  | onEntry call id op about =>
    cases about
    have back : ∀ x, L attempt.deliveryId = x → Function.update L attempt.deliveryId x = L := by
      rintro x rfl
      exact Function.update_eq_self attempt.deliveryId L
    cases held : L attempt.deliveryId with
    | none => exact .inr ⟨⟨_, rfl⟩, back _ held⟩
    | some e =>
      by_cases holds : e.holds attempt.workerId attempt.claimGeneration (some nowMillis) = true
      · rw [Entry.recordAttempt, Entry.fenced, if_pos holds]
        by_cases taken : e.hasOrdinal attempt.ordinal = true
        · rw [if_pos taken]
          exact .inr ⟨⟨_, rfl⟩, back _ held⟩
        · rw [if_neg taken]
          left
          cases last : terminalStateFromAttempt attempt with
          | none => exact ⟨rfl, e, e.schedule attempt, rfl, holds, rfl, .inl ⟨rfl, rfl⟩⟩
          | some state => exact ⟨rfl, e, e.settle attempt state, rfl, holds, rfl, .inr ⟨state, rfl, rfl⟩⟩
      · rw [Entry.recordAttempt, Entry.fenced, if_neg holds]
        exact .inr ⟨⟨_, rfl⟩, back _ held⟩
  | refused call tag unfenced => exact .inr ⟨⟨tag, rfl⟩, rfl⟩

end Served

end Relay
