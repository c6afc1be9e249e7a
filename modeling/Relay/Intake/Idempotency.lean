import Mathlib
import Relay.Intake.Invariant

/-!
# Intake is idempotent

Under each key at most one call is accepted, and its claim is handed over once.
Every other answer under the key repeats that acceptance to the same submission,
another submission is a conflict, and nothing but an acceptance writes.
-/

namespace Relay

section Idempotency

variable {M : IntakeMachine} {sha256 : Digest} {s s' : IntakeState M} {n m : ℕ} {call call₀ : AcceptCall}
  {submission : EventSubmission} {record : IntakeRecord} {claim : DeliveryClaim}

/-- Call `n` was accepted. -/
structure IntakeState.Accepted (s : IntakeState M) (n : ℕ) (call : AcceptCall) (submission : EventSubmission)
    (record : IntakeRecord) (claim : DeliveryClaim) : Prop where
  here : s.calls n = some call
  decided : ∃ handed, call.stage = .decided submission record (.accepted record.decision claim) handed

/-- No two submissions of these calls have texts with the same SHA-256 digest. -/
def IntakeState.CollisionFree (sha256 : Digest) (s : IntakeState M) : Prop :=
  ∀ n m call call' submission submission', s.calls n = some call → s.calls m = some call' →
    decodeSubmission call.candidate = some submission → decodeSubmission call'.candidate = some submission' →
    sha256.Separates submission submission'

structure Idempotent (sha256 : Digest) (s : IntakeState M) : Prop where
  /-- At most one call is accepted under a key. -/
  once : ∀ {n m call call' submission submission' record record' claim claim'},
    s.Accepted n call submission record claim → s.Accepted m call' submission' record' claim' →
    call.ingestionKey = call'.ingestionKey → n = m
  /-- At most one claim is handed over under a key, and it is the accepted call's. -/
  handsOnce : (s.handed.map Prod.fst).Nodup
  hands : ∀ p ∈ s.handed, ∃ n call submission record claim, s.Accepted n call submission record claim ∧
    call.ingestionKey = p.1 ∧ p.2 = enqueued record.decision claim
  /-- A successful call repeats the acceptance, and its submission is the accepted one. -/
  returns : ∀ {n call a}, s.calls n = some call → call.outcome = some (.returned a) →
    ∃ m call₀ submission record claim, s.Accepted m call₀ submission record claim ∧
      call₀.ingestionKey = call.ingestionKey ∧ decodeSubmission call₀.candidate = some submission ∧
      decodeSubmission call.candidate = some submission ∧
      a = ⟨record.event.id, record.deliveryId, record.acceptedAtMillis, decide (n ≠ m)⟩
  /-- Another submission under an accepted key fails as a conflict. -/
  conflicts : ∀ {n m call call₀ submission record claim s'}, s.Accepted m call₀ submission record claim →
    s.calls n = some call → call.ingestionKey = call₀.ingestionKey →
    decodeSubmission call.candidate ≠ some submission → IntakeStep M sha256 s (.transact n) s' →
    s'.calls n = some (call.finish (.failed (.store (.ingestionConflict call.ingestionKey record.event.id)))) ∧
      s'.store = s.store
  /-- A step of a call that does not accept it leaves the store as it was. -/
  unchanged : ∀ {l s'}, IntakeStep M sha256 s l s' → l ≠ .other → s'.store = s.store ∨
    ∃ n call submission record claim, l = .transact n ∧ s'.Accepted n call submission record claim

/-! ## The six laws -/

theorem IntakeState.Accepted.answer (accepted : s.Accepted n call submission record claim) :
    s.answers n = some (call.ingestionKey, record, .accepted record.decision claim) := by
  obtain ⟨handed, stage⟩ := accepted.decided
  rw [IntakeState.answers_of accepted.here, AcceptCall.answer, stage]
  rfl

section Laws

variable (inv : IntakeInvariant sha256 s)

include inv

theorem IntakeInvariant.hands {p : IngestionKey × ClaimedDelivery} (member : p ∈ s.handed) :
    ∃ n call submission record claim, s.Accepted n call submission record claim ∧
      call.ingestionKey = p.1 ∧ p.2 = enqueued record.decision claim := by
  obtain ⟨n, call, submission, record, fields, claim, here, key, stage, same⟩ := inv.handed.each p member
  have answer : s.answers n = some (call.ingestionKey, record, .accepted fields claim) := by
    rw [IntakeState.answers_of here, AcceptCall.answer, stage]
    rfl
  obtain rfl := (inv.keys call.ingestionKey).decision answer
  exact ⟨n, call, submission, record, claim, ⟨here, true, stage⟩, key, same⟩

/-- Whoever owns a key is a call that was accepted under it. -/
theorem IntakeInvariant.accepted_of_owned {key : IngestionKey} {fields : IntakeDecisionFields}
    (owned : Owned M s.store s.answers key m record claim fields) :
    ∃ call₀ submission, s.Accepted m call₀ submission record claim ∧ call₀.ingestionKey = key ∧
      decodeSubmission call₀.candidate = some submission ∧
      record.requestFingerprint = fingerprint sha256 submission := by
  have accepted := owned.accepted
  unfold IntakeState.answers at accepted
  obtain ⟨call₀, here, answer⟩ := Option.bind_eq_some_iff.1 accepted
  obtain ⟨p, answered, same⟩ := Option.map_eq_some_iff.1 answer
  cases same
  unfold AcceptCall.answer at answered
  split at answered
  · cases answered
  · cases answered
  · next submission record' decision handed stage =>
    cases answered
    obtain ⟨decoded, -, print⟩ := (inv.staged m call₀ here).asked submission record (by
      rw [AcceptCall.asked, stage])
    exact ⟨call₀, submission, ⟨here, handed, stage⟩, rfl, decoded, print⟩

theorem IntakeInvariant.returns (collisionFree : s.CollisionFree sha256) {a : EventAcceptance}
    (here : s.calls n = some call) (returned : call.outcome = some (.returned a)) :
    ∃ m call₀ submission record claim, s.Accepted m call₀ submission record claim ∧
      call₀.ingestionKey = call.ingestionKey ∧ decodeSubmission call₀.candidate = some submission ∧
      decodeSubmission call.candidate = some submission ∧
      a = ⟨record.event.id, record.deliveryId, record.acceptedAtMillis, decide (n ≠ m)⟩ := by
  have staged := inv.staged n call here
  obtain ⟨submission, record, decision, handed, stage, rfl⟩ := staged.returned a returned
  obtain ⟨decoded, -, print⟩ := staged.asked submission record (by rw [AcceptCall.asked, stage])
  have answer : s.answers n = some (call.ingestionKey, record, decision) := by
    rw [IntakeState.answers_of here, AcceptCall.answer, stage]
    rfl
  obtain untouched | ⟨m, record₀, claim, fields, owned⟩ := inv.keys call.ingestionKey
  · exact absurd answer (untouched.unanswered n record decision)
  · obtain ⟨call₀, submission₀, accepted, key, decoded₀, print₀⟩ := inv.accepted_of_owned owned
    rcases eq_or_ne n m with rfl | other
    · have same := answer.symm.trans owned.accepted
      simp only [Option.some.injEq, Prod.mk.injEq, true_and] at same
      obtain ⟨rfl, rfl⟩ := same
      have equal := here.symm.trans accepted.here
      cases equal
      refine ⟨n, call, submission₀, record, claim, accepted, key, decoded₀, decoded₀, ?_⟩
      rw [decide_eq_false (not_not.2 rfl)]
      rfl
    · obtain ⟨same, fields', rfl, reports⟩ := owned.others n record decision answer other
      have equal : submission = submission₀ :=
        fingerprint_injective (collisionFree n m call call₀ _ _ here accepted.here decoded decoded₀)
          (print.symm.trans (same.trans print₀))
      refine ⟨m, call₀, submission₀, record₀, claim, accepted, key, decoded₀, equal ▸ decoded, ?_⟩
      rw [decide_eq_true other, acceptance, IntakeDecision.fields, reports.event, reports.delivery,
        reports.acceptedAtMillis]
      rfl

theorem IntakeInvariant.conflicts (lawful : M.Lawful) (collisionFree : s.CollisionFree sha256)
    (accepted : s.Accepted m call₀ submission record claim) (here : s.calls n = some call)
    (key : call.ingestionKey = call₀.ingestionKey) (differs : decodeSubmission call.candidate ≠ some submission)
    (step : IntakeStep M sha256 s (.transact n) s') :
    s'.calls n = some (call.finish (.failed (.store (.ingestionConflict call.ingestionKey record.event.id)))) ∧
      s'.store = s.store := by
  cases step with
  | @transact _ call' submission' record' nowMillis c running stage accept =>
    have equal := here.symm.trans running.here
    cases equal
    obtain ⟨decoded, recordKey, print⟩ := (inv.staged n call here).asked submission' record' (by
      rw [AcceptCall.asked, stage])
    obtain ⟨handed, stage₀⟩ := accepted.decided
    obtain ⟨decoded₀, -, print₀⟩ := (inv.staged m call₀ accepted.here).asked submission record (by
      rw [AcceptCall.asked, stage₀])
    obtain ⟨fields, owned⟩ := (inv.keys call₀.ingestionKey).owned accepted.answer
    have kept := owned.kept
    rw [← key, ← recordKey] at kept
    have replies := lawful.replays nowMillis inv.sound accept kept
    rw [if_neg] at replies
    · rw [replies]
      refine ⟨?_, rfl⟩
      show Function.update s.calls n _ n = _
      rw [Function.update_self, recordKey, owned.reports.event]
      rfl
    · intro same
      refine differs ?_
      rw [decoded, fingerprint_injective (collisionFree n m call call₀ _ _ here accepted.here decoded decoded₀)
        (print.symm.trans (same.symm.trans print₀))]

theorem IntakeInvariant.unchanged (lawful : M.Lawful) {l : IntakeLabel} (step : IntakeStep M sha256 s l s')
    (own : l ≠ .other) : s'.store = s.store ∨
      ∃ n call submission record claim, l = .transact n ∧ s'.Accepted n call submission record claim := by
  cases step with
  | call | prepare | abort | enqueue | unreleased | respond | interrupt => exact .inl rfl
  | other => exact absurd rfl own
  | @transact n call submission record nowMillis c running stage accept =>
    obtain ⟨-, key, -⟩ := (inv.staged n call running.here).asked submission record (by rw [AcceptCall.asked, stage])
    obtain untouched | ⟨m, record₀, claim, fields, owned⟩ := inv.keys record.ingestionKey
    · obtain ⟨failure, fails, -⟩ | ⟨claim, store', accepts, -⟩ :=
        lawful.accepts nowMillis inv.sound accept untouched.unknown
      · left
        rw [fails]
      · right
        refine ⟨n, _, submission, record, claim, rfl, Function.update_self .., false, ?_⟩
        rw [accepts]
        rfl
    · left
      rw [lawful.replays nowMillis inv.sound accept owned.kept]

end Laws

/-- **Intake is idempotent** over either adapter, for every interleaving of calls. -/
theorem intake_idempotent (adapter : Adapter) (sha256 : Digest) {s : IntakeState adapter.intake}
    (reachable : (intakeSystem adapter.intake sha256).Reachable s) (collisionFree : s.CollisionFree sha256) :
    Idempotent sha256 s := by
  have lawful := adapter.lawful
  have inv := IntakeInvariant.reachable lawful reachable
  refine ⟨?_, inv.handed.nodup, fun _ => inv.hands, inv.returns collisionFree, inv.conflicts lawful collisionFree,
    inv.unchanged lawful⟩
  intro n m call call' submission submission' record record' claim claim' accepted accepted' key
  have second := accepted'.answer
  rw [← key] at second
  exact (inv.keys call.ingestionKey).once accepted.answer second

end Idempotency

/-! ## Two submissions under one key -/

namespace Sample

def hundred : AmountCents := Nat.toPNat' 100
def twoHundred : AmountCents := Nat.toPNat' 200

def submission (amountCents : AmountCents) : EventSubmission := ⟨.invoiceCreated, event.invoiceId, amountCents⟩

/-- SHA-256 on the texts of the two submissions below. -/
def sha256 : Digest := fun bytes =>
  if bytes = (normalized (submission hundred)).toByteArray then
    #v[147, 52, 220, 154, 109, 114, 25, 168, 35, 255, 39, 84, 60, 61, 6, 115,
      3, 207, 198, 92, 14, 121, 25, 184, 182, 84, 173, 6, 121, 12, 189, 162]
  else
    #v[78, 98, 145, 36, 174, 180, 34, 139, 214, 154, 113, 229, 92, 93, 132, 47,
      157, 147, 72, 52, 145, 229, 16, 177, 117, 32, 253, 239, 224, 176, 38, 138]

def configuration : IntakeConfiguration where
  destination := ⟨destination, ⟨"https://old.example/"⟩, "secret"⟩
  destinationConfigurationVersion := Nat.toPNat' 1
  claimLeaseDurationMillis := 1000
  workerId := worker

def called (amountCents : AmountCents) : AcceptCall where
  ingestionKey := key
  candidate := encodeSubmission (submission amountCents)
  stage := .called
  outcome := none

def drawn : Drawn := ⟨true, some event.id, some delivery, 0⟩

/-- What the call asks the store. -/
def request (amountCents : AmountCents) : IntakeRecord where
  ingestionKey := key
  requestFingerprint := fingerprint sha256 (submission amountCents)
  event := ⟨event.id, .invoiceCreated, (submission amountCents).invoiceId, amountCents⟩
  deliveryId := delivery
  route := ⟨destination, ⟨"https://old.example/"⟩, Nat.toPNat' 1⟩
  acceptedAtMillis := 0
  claim := ⟨worker, 1000⟩

def asked (amountCents : AmountCents) : AcceptCall := (called amountCents).prepare sha256 configuration drawn

def transaction (amountCents : AmountCents) : Statement := ⟨.accept (request amountCents), false⟩

/-- Two calls have prepared different submissions under one key. -/
def racing : IntakeState Adapter.postgres.intake :=
  ((((intakeSystem Adapter.postgres.intake sha256).init.set 0 (called hundred)).set 1 (called twoHundred)).set 0 (asked hundred)).set
    1 (asked twoHundred)

/-- The first transaction is accepted. -/
def decided : IntakeState Adapter.postgres.intake :=
  { racing.set 0 ((asked hundred).settle (submission hundred) (request hundred)
      (postgres.exec 0 racing.store (transaction hundred)).1) with
    store := (postgres.exec 0 racing.store (transaction hundred)).2 }

/-- The second one is a conflict. -/
def contested : IntakeState Adapter.postgres.intake :=
  { decided.set 1 ((asked twoHundred).settle (submission twoHundred) (request twoHundred)
      (postgres.exec 1 decided.store (transaction twoHundred)).1) with
    store := (postgres.exec 1 decided.store (transaction twoHundred)).2 }

theorem asked_stage : (asked hundred).stage = .prepared (submission hundred) (request hundred) ∧
    (asked twoHundred).stage = .prepared (submission twoHundred) (request twoHundred) := by
  decide +kernel

theorem racing_reachable : (intakeSystem Adapter.postgres.intake sha256).Reachable racing := by
  have zero : (intakeSystem Adapter.postgres.intake sha256).Reachable
    (intakeSystem Adapter.postgres.intake sha256).init := ⟨[], .nil⟩
  have one := zero.step (.call (n := 0) key (called hundred).candidate (by rfl))
  have two := one.step (.call (n := 1) key (called twoHundred).candidate (by rfl))
  have three := two.step (.prepare (n := 0) configuration drawn ⟨by rfl, by rfl⟩ (by rfl))
  exact three.step (.prepare (n := 1) configuration drawn ⟨by rfl, by rfl⟩ (by rfl))

theorem contested_reachable : (intakeSystem Adapter.postgres.intake sha256).Reachable contested := by
  have first : (intakeSystem Adapter.postgres.intake sha256).Reachable decided :=
    racing_reachable.step (.transact (M := Adapter.postgres.intake) (s := racing) (n := 0) 0 (transaction hundred)
      ⟨by rfl, by decide +kernel⟩ asked_stage.1 rfl)
  exact first.step (.transact (M := Adapter.postgres.intake) (s := decided) (n := 1) 1 (transaction twoHundred)
    ⟨by rfl, by decide +kernel⟩ asked_stage.2 rfl)

theorem sha256_separates {a b : EventSubmission} (left : a = submission hundred ∨ a = submission twoHundred)
    (right : b = submission hundred ∨ b = submission twoHundred) : sha256.Separates a b := by
  have apart : sha256 (normalized (submission hundred)).toByteArray ≠ sha256 (normalized (submission twoHundred)).toByteArray := by
    decide +kernel
  intro same
  obtain rfl | rfl := left <;> obtain rfl | rfl := right
  · rfl
  · exact absurd same apart
  · exact absurd same.symm apart
  · rfl

theorem contested_collisionFree : contested.CollisionFree sha256 := by
  have submitted : ∀ n call a, contested.calls n = some call → decodeSubmission call.candidate = some a →
      a = submission hundred ∨ a = submission twoHundred := by
    intro n call a here decoded
    rcases n with _ | _ | n
    · left
      cases here
      have same : decodeSubmission (encodeSubmission (submission hundred)) = some a := decoded
      rw [decodeSubmission_encode] at same
      exact (Option.some.inj same).symm
    · right
      cases here
      have same : decodeSubmission (encodeSubmission (submission twoHundred)) = some a := decoded
      rw [decodeSubmission_encode] at same
      exact (Option.some.inj same).symm
    · cases here
  intro n m call call' a b here here' decoded decoded'
  exact sha256_separates (submitted n call a here decoded) (submitted m call' b here' decoded')

end Sample

/-- The run in which a second submission under the key is refused. -/
theorem intake_idempotent_contested : Idempotent Sample.sha256 Sample.contested ∧
    (Sample.contested.calls 1).bind AcceptCall.outcome =
      some (.failed (.store (.ingestionConflict Sample.key Sample.event.id))) :=
  ⟨intake_idempotent .postgres Sample.sha256 Sample.contested_reachable Sample.contested_collisionFree,
    by decide +kernel⟩

end Relay
