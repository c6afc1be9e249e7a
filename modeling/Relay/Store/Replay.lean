import Relay.Store.Intake

/-!
# Replay of an acceptance

A key that was accepted is submitted again after any calls of workers and
operators. The memory store replays the acceptance. The SQL store replays it with
the route the delivery has by then: the original one until a repair replaces it.
-/

namespace Relay

namespace IntakeMachine

variable {M : IntakeMachine}

/-- The route of the last successful repair of a delivery. -/
def lastRepair (M : IntakeMachine) (id : DeliveryId) (calls : List M.Event) : Option DeliveryRouteSnapshot :=
  (calls.filterMap fun l => (M.call l.call).repairs id l.reply).getLast?

/-- An accepted key, the calls since then, and a resubmission under the same key and fingerprint. -/
structure Resubmission (M : IntakeMachine) where
  store : M.Store
  reachable : M.anyCalls.Reachable store
  nowMillis : ℕ
  call : M.Call
  record : IntakeRecord
  submitted : M.call call = .accept record
  fields : IntakeDecisionFields
  claim : DeliveryClaim
  accepted : (M.exec nowMillis store call).1 = .ok (.decided (.accepted fields claim))
  calls : List M.Event
  later : M.Store
  path : M.anyCalls.Path (M.exec nowMillis store call).2 calls later
  /-- The application saves no delivery directly. -/
  unsaved : ∀ l ∈ calls, M.Unsaved l.call
  again : M.Call
  record' : IntakeRecord
  resubmitted : M.call again = .accept record'
  sameKey : record'.ingestionKey = record.ingestionKey
  sameFingerprint : record'.requestFingerprint = record.requestFingerprint

namespace Resubmission

/-- The resubmission returns the original acceptance, whenever it is made. -/
def Replays (r : M.Resubmission) : Prop :=
  ∀ nowMillis, (M.exec nowMillis r.later r.again).1 = .ok (.decided (.replay r.fields))

end Resubmission

/-- Along any calls that save nothing, what is kept of an acceptance follows its repairs. -/
theorem Lawful.kept_along (lawful : M.Lawful) {s s' : M.Store} {calls : List M.Event}
    (path : M.anyCalls.Path s calls s') (unsaved : ∀ l ∈ calls, M.Unsaved l.call) (sound : M.Sound s)
    {key : IngestionKey} {fingerprint : RequestFingerprint} {fields : IntakeDecisionFields}
    (kept : M.Kept s key fingerprint fields) :
    M.Sound s' ∧ M.Kept s' key fingerprint (calls.foldl M.after fields) := by
  induction path with
  | nil => exact ⟨sound, kept⟩
  | @snoc calls l s' s'' _ run ih =>
    obtain ⟨sound', kept'⟩ := ih fun l' member => unsaved l' (List.mem_append_left _ member)
    have run : M.exec l.nowMillis s' l.call = (l.reply, s'') := run
    have sound'' := lawful.store.sound l.nowMillis l.call sound'
    have kept'' := lawful.keeps l.nowMillis l.call sound' (unsaved l (by simp)) kept'
    rw [run] at sound'' kept''
    rw [List.foldl_append]
    exact ⟨sound'', kept''⟩

/-- A resubmission replays the decision as the repairs have left it. -/
theorem Lawful.replay (lawful : M.Lawful) (r : M.Resubmission) (nowMillis : ℕ) :
    (M.exec nowMillis r.later r.again).1 = .ok (.decided (.replay (r.calls.foldl M.after r.fields))) := by
  have sound := lawful.store.sound_of_reachable r.reachable
  have sound₁ := lawful.store.sound r.nowMillis r.call sound
  have first : M.Kept (M.exec r.nowMillis r.store r.call).2 r.record.ingestionKey r.record.requestFingerprint
      r.fields := by
    have accepted := r.accepted
    have unknown := lawful.accepted r.nowMillis r.submitted accepted
    obtain ⟨failure, fails, -⟩ | ⟨claim, s', accepts, kept⟩ := lawful.accepts r.nowMillis sound r.submitted unknown
    · rw [fails] at accepted
      cases accepted
    · rw [accepts] at accepted ⊢
      simp only [Except.ok.injEq, StoreValue.decided.injEq, IntakeDecision.accepted.injEq] at accepted
      rw [← accepted.1]
      exact kept
  obtain ⟨sound', kept⟩ := lawful.kept_along r.path r.unsaved sound₁ first
  rw [← r.sameKey, ← r.sameFingerprint] at kept
  rw [lawful.replays nowMillis sound' r.resubmitted kept, if_pos rfl]

theorem lastRepair_append (id : DeliveryId) (calls : List M.Event) (l : M.Event) :
    M.lastRepair id (calls ++ [l]) = ((M.call l.call).repairs id l.reply).or (M.lastRepair id calls) := by
  unfold lastRepair
  rw [List.filterMap_append, List.getLast?_append]
  cases repaired : (M.call l.call).repairs id l.reply <;> simp [repaired]

end IntakeMachine

/-- The memory maps forget repairs when they replay. -/
theorem memoryIntake_along (fields : IntakeDecisionFields) (calls : List memoryIntake.Event) :
    calls.foldl memoryIntake.after fields = fields := by
  induction calls with
  | nil => rfl
  | cons l calls ih => rw [List.foldl_cons, memoryIntake_after, ih]

/-- The rows replay the last repair. -/
theorem postgresIntake_along (fields : IntakeDecisionFields) (calls : List postgresIntake.Event) :
    calls.foldl postgresIntake.after fields =
      { fields with route := (postgresIntake.lastRepair fields.delivery.id calls).getD fields.route } := by
  induction calls using List.reverseRecOn with
  | nil => rfl
  | append_singleton calls l ih =>
    rw [List.foldl_append, ih, IntakeMachine.lastRepair_append]
    show IntakeMachine.after _ _ l = _
    unfold IntakeMachine.after
    cases (postgresIntake.call l.call).repairs fields.delivery.id l.reply <;> rfl

/-- The last repair of the delivery since the acceptance, if any, kept the original route; the memory maps
do not mind. -/
def Adapter.KeepsRoute : (adapter : Adapter) → adapter.intake.Resubmission → Prop
  | .memory, _ => True
  | .postgres, r =>
    ∀ route, postgresIntake.lastRepair r.fields.delivery.id r.calls = some route → route = r.fields.route

/-- **Replay of an acceptance.** The memory store always returns the original one; the SQL store exactly
when the last repair of the delivery since, if any, kept the original route. -/
theorem replays_original (adapter : Adapter) (r : adapter.intake.Resubmission) : r.Replays ↔ adapter.KeepsRoute r := by
  cases adapter with
  | memory =>
    refine ⟨fun _ => trivial, ?_⟩
    intro _ nowMillis
    exact (memoryIntake_lawful.replay r nowMillis).trans (by rw [memoryIntake_along])
  | postgres =>
    have replay := postgresIntake_lawful.replay r
    simp only [postgresIntake_along] at replay
    show IntakeMachine.Resubmission.Replays (M := postgresIntake) r ↔
      ∀ route, postgresIntake.lastRepair r.fields.delivery.id r.calls = some route → route = r.fields.route
    cases last : postgresIntake.lastRepair r.fields.delivery.id r.calls with
    | none =>
      rw [last] at replay
      exact ⟨fun _ _ => nofun, fun _ => replay⟩
    | some route =>
      rw [last] at replay
      constructor
      · intro original route' same
        cases same
        have both := (replay 0).symm.trans (original 0)
        simp only [Except.ok.injEq, StoreValue.decided.injEq, IntakeDecision.replay.injEq] at both
        rw [← both]
        rfl
      · intro kept nowMillis
        rw [replay nowMillis, kept route rfl]
        rfl

/-! ## A repair to another route -/

namespace Sample

def record : IntakeRecord where
  ingestionKey := key
  requestFingerprint := ⟨"0000000000000000000000000000000000000000000000000000000000000001", by decide⟩
  event := event
  deliveryId := delivery
  route := ⟨destination, ⟨"https://old.example/"⟩, Nat.toPNat' 1⟩
  acceptedAtMillis := 0
  claim := ⟨worker, 1000⟩

def repair : StoreCall := .repairDeadLetter delivery ⟨destination, ⟨"https://new.example/"⟩, Nat.toPNat' 2⟩

def accepted : Postgres.Database := (Postgres.Database.empty.exec 0 (.accept record)).2
def deadLettered : Postgres.Database := (accepted.exec 2 exhaust).2
def repaired : Postgres.Database := (deadLettered.exec 3 repair).2

def resubmission : postgresIntake.Resubmission where
  store := Postgres.Database.empty
  reachable := ⟨[], .nil⟩
  nowMillis := 0
  call := ⟨.accept record, false⟩
  record := record
  submitted := rfl
  fields := record.decision
  claim := claim
  accepted := by decide +kernel
  calls := [⟨2, ⟨exhaust, false⟩, (accepted.exec 2 exhaust).1⟩,
    ⟨3, ⟨repair, false⟩, (deadLettered.exec 3 repair).1⟩]
  later := repaired
  path := .snoc (.snoc .nil (postgres.exec_step 2 accepted ⟨exhaust, false⟩))
    (postgres.exec_step 3 deadLettered ⟨repair, false⟩)
  unsaved := by
    intro l member delivery saved
    simp only [List.mem_cons, List.not_mem_nil, or_false] at member
    obtain rfl | rfl := member <;> cases saved
  again := ⟨.accept record, false⟩
  record' := record
  resubmitted := rfl
  sameKey := rfl
  sameFingerprint := rfl

end Sample

/-- The tables do not always replay the original acceptance. -/
theorem replay_repaired : ¬ ∀ r : postgresIntake.Resubmission, r.Replays := by
  intro original
  have replayed := original Sample.resubmission 4
  have rerouted : (Sample.repaired.exec 4 (.accept Sample.record)).1 ≠
      .ok (.decided (.replay Sample.record.decision)) := by
    decide +kernel
  exact rerouted replayed

end Relay
