import Relay.Store.Machine

/-!
# Fencing over whole runs

Along every run of a lawful store machine, whatever calls its workers and
operators interleave and whatever the clock reads, generations of a delivery
increase, one claim at most can act on it, and a claim that was superseded or
whose lease has ended is turned away without a trace. The SQL adapter turns none
away that records an attempt: the database refuses the statement before it looks
at the claim, and the failure says so.
-/

namespace Relay

/-- The request schemas take the numbers of a fenced call: a lease is a positive safe integer. -/
def StoreCall.decodes (call : StoreCall) : Bool :=
  call.wellFormed &&
    match call with
    | .renewClaim _ _ lease => lease ≤ maxSafeInteger
    | _ => true

namespace StoreMachine

variable (M : StoreMachine)

/-- The generations issued for one delivery along a run, in order. -/
def issuedAlong (id : DeliveryId) (tr : List M.Event) : List ℕ := tr.flatMap fun l => issued id l.reply

/-- The call succeeds. -/
def Succeeds (nowMillis : ℕ) (s : M.Store) (c : M.Call) : Prop :=
  ∃ value, (M.exec nowMillis s c).1 = .ok value

/-- The call fails and changes nothing; it fails with `ClaimLostError` unless the request schema
refuses its numbers first. -/
structure TurnedAway (nowMillis : ℕ) (s : M.Store) (c : M.Call) : Prop where
  fails : Reply.tag (M.exec nowMillis s c).1 ≠ none
  claimLost : (M.call c).decodes = true → Reply.tag (M.exec nowMillis s c).1 = some .claimLostError
  unchanged : M.view (M.exec nowMillis s c).2 = M.view s

/-- The machine fences; `Hears` are the calls it looks at the claim of. -/
structure Fenced (Hears : StoreCall → Prop) : Prop where
  increasing : ∀ {tr s}, M.system.Run tr s → ∀ id, (M.issuedAlong id tr).Pairwise (· < ·)
  pending : ∀ {tr s}, M.system.Run tr s → ∀ id e claim, M.view s id = some e → e.claim = some claim →
    e.delivery.state = .pending
  exclusive : ∀ {tr s}, M.system.Run tr s → ∀ nowMillis nowMillis' c c' f f',
    (M.call c).fence = some f → (M.call c').fence = some f' → f.deliveryId = f'.deliveryId →
    M.Succeeds nowMillis s c → M.Succeeds nowMillis' s c' →
    f.ownerId = f'.ownerId ∧ f.generation = f'.generation
  superseded : ∀ {tr s}, M.system.Run tr s → ∀ nowMillis c f g, (M.call c).fence = some f →
    g ∈ M.issuedAlong f.deliveryId tr → (f.generation : ℕ) < g → (M.TurnedAway nowMillis s c ↔ Hears (M.call c))
  expired : ∀ {tr s}, M.system.Run tr s → ∀ nowMillis c f, (M.call c).fence = some f →
    f.operation ≠ .release →
    (∀ e claim, M.view s f.deliveryId = some e → e.claim = some claim →
      claim.leaseExpiresAtMillis ≤ nowMillis) →
    (M.TurnedAway nowMillis s c ↔ Hears (M.call c))

/-- A record the machine hears it answers as the ledger does, and a call it does not hear it never answers so. -/
structure Hearing (Hears : StoreCall → Prop) : Prop where
  recorded : ∀ {s c attempt} (nowMillis : ℕ), M.Sound s → M.call c = .recordAttempt attempt → Hears (M.call c) →
    (M.exec nowMillis s c).1.answer = (Entry.recordAttempt nowMillis attempt (M.view s attempt.deliveryId)).1
  unheard : ∀ {s c} (nowMillis : ℕ), ¬ Hears (M.call c) → (M.call c).decodes = true ∧
    Reply.tag (M.exec nowMillis s c).1 ≠ some .claimLostError

variable {M}

theorem issuedAlong_serving (id : DeliveryId) (tr : List M.Event) :
    Relay.issuedAlong id (tr.map Event.serving) = M.issuedAlong id tr := by
  have each : ∀ l : M.Event, issued id l.serving.answer = issued id l.reply := by
    intro l
    unfold Event.serving Reply.answer
    cases l.reply <;> rfl
  simp only [Relay.issuedAlong, issuedAlong, List.flatMap_map, each]

section Lawful

variable {tr : List M.Event} {s : M.Store} {nowMillis : ℕ} {c : M.Call} {f : Fence}

variable (nowMillis) in
/-- A fenced call creates nothing, so it is served at any state. -/
theorem Lawful.served_fenced (lawful : M.Lawful) (sound : M.Sound s) (fence : (M.call c).fence = some f) :
    Served nowMillis (M.view s) (M.call c) (M.exec nowMillis s c).1.answer (M.view (M.exec nowMillis s c).2) := by
  refine lawful.served nowMillis c sound ?_
  intro id creates
  rw [StoreCall.creates_of_fence fence] at creates
  cases creates

/-- A fenced call that succeeds finds the claim it presents. -/
theorem Lawful.succeeds (lawful : M.Lawful) (sound : M.Sound s) (fence : (M.call c).fence = some f)
    (succeeds : M.Succeeds nowMillis s c) : ∃ e, M.view s f.deliveryId = some e ∧
      e.holds f.ownerId f.generation (f.live nowMillis) = true := by
  obtain holds | ⟨tag, failed, -, -⟩ := (lawful.served_fenced nowMillis sound fence).fence fence
  · exact holds
  · obtain ⟨value, ok⟩ := succeeds
    rw [ok] at failed
    cases failed

/-- A fenced call that does not find the claim it presents is turned away, if it is heard. -/
theorem Lawful.turnedAway {Hears : StoreCall → Prop} (lawful : M.Lawful) (hearing : M.Hearing Hears) (sound : M.Sound s)
    (fence : (M.call c).fence = some f)
    (away : ∀ e, M.view s f.deliveryId = some e → ¬ e.holds f.ownerId f.generation (f.live nowMillis) = true) :
    M.TurnedAway nowMillis s c ↔ Hears (M.call c) := by
  constructor
  · intro turned
    by_contra unheard
    obtain ⟨whole, other⟩ := hearing.unheard (s := s) nowMillis unheard
    exact other (turned.claimLost whole)
  · intro heard
    obtain ⟨e, held, holds⟩ | ⟨tag, failed, same, lost⟩ :=
      (lawful.served_fenced nowMillis sound fence).fence fence
    · exact absurd holds (away e held)
    · have claimLost : (M.call c).wellFormed = true → tag = .claimLostError := by
        intro whole
        by_cases record : ∃ attempt, M.call c = .recordAttempt attempt
        · obtain ⟨attempt, record⟩ := record
          have answer := hearing.recorded nowMillis sound record heard
          rw [record] at fence
          cases fence
          rw [failed, Entry.recordAttempt_away away] at answer
          cases answer
          rfl
        · refine lost ?_
          cases call : M.call c with
          | recordAttempt attempt => exact absurd ⟨attempt, call⟩ record
          | _ =>
            rw [call] at whole
            simpa [StoreCall.refusable] using whole
      have tagged : Reply.tag (M.exec nowMillis s c).1 = some tag := by
        cases reply : (M.exec nowMillis s c).1 with
        | ok value =>
          rw [reply] at failed
          cases failed
        | error failure =>
          rw [reply] at failed
          cases failed
          rfl
      refine ⟨?_, ?_, same⟩
      · rw [tagged]; exact nofun
      · intro decodes
        rw [tagged, claimLost (Bool.and_eq_true_iff.1 decodes).1]

/-- **Fencing holds of every lawful store machine**, of the calls it hears. -/
theorem Lawful.fenced {Hears : StoreCall → Prop} (lawful : M.Lawful) (hearing : M.Hearing Hears) : M.Fenced Hears where
  increasing := by
    intro tr s run id
    rw [← issuedAlong_serving]
    exact (run_issued (lawful.run run).2 id).1
  pending := by
    intro tr s run id e claim held under
    exact (run_fenced (lawful.run run).2 id e held claim under).1
  exclusive := by
    intro tr s run nowMillis nowMillis' c c' f f' fence fence' same succeeds succeeds'
    obtain ⟨e, held, holds⟩ := lawful.succeeds (lawful.run run).1 fence succeeds
    obtain ⟨e', held', holds'⟩ := lawful.succeeds (lawful.run run).1 fence' succeeds'
    rw [same, held', Option.some.injEq] at held
    subst held
    obtain ⟨-, claim, under, owner, generation, -⟩ := Entry.holds_iff.1 holds
    obtain ⟨-, claim', under', owner', generation', -⟩ := Entry.holds_iff.1 holds'
    rw [under, Option.some.injEq] at under'
    subst under'
    exact ⟨owner.symm.trans owner', generation.symm.trans generation'⟩
  superseded := by
    intro tr s run nowMillis c f g fence issued older
    obtain ⟨sound, run'⟩ := lawful.run run
    refine lawful.turnedAway hearing sound fence ?_
    intro e held holds
    have current := Entry.holds_generation (run_fenced run' _ e held) holds
    rw [← issuedAlong_serving] at issued
    have bound := (run_issued run' f.deliveryId).2 g issued
    rw [counter, held] at bound
    simp only [Option.map_some, Option.getD_some] at bound
    omega
  expired := by
    intro tr s run nowMillis c f fence looks ended
    refine lawful.turnedAway hearing (lawful.run run).1 fence ?_
    intro e held holds
    obtain ⟨-, claim, under, -, -, live⟩ := Entry.holds_iff.1 holds
    have running := live nowMillis (by rw [Fence.live, if_neg looks])
    have past := ended e claim held under
    omega

end Lawful

end StoreMachine

/-- The calls the SQL adapter looks at the claim of. -/
def Postgres.Hears (call : StoreCall) : Prop := ∀ attempt, call ≠ .recordAttempt attempt

theorem memory_hearing : memory.Hearing fun _ => True where
  recorded := by
    intro s c attempt nowMillis sound record _
    cases record
    exact (MemoryStore.recordAttempt_serves sound attempt).answer
  unheard := fun _ unheard => absurd trivial unheard

theorem postgres_hearing : postgres.Hearing Postgres.Hears where
  recorded := fun _ _ record heard => absurd record (heard _)
  unheard := by
    intro db c nowMillis unheard
    obtain ⟨attempt, record⟩ := not_forall.1 unheard
    rw [not_not] at record
    have refused : (postgres.exec nowMillis db c).1 =
        .error (.deliveryRepository .recordAttempt (.sqlError (.unresolved .ambiguousFunction))) := by
      show (if c.resumed then Postgres.Database.resume nowMillis db c.call
        else Postgres.Database.exec nowMillis db c.call).1 = _
      rw [show c.call = .recordAttempt attempt from record]
      exact (congrArg Prod.fst (ite_self _)).trans (congrArg Prod.fst (db.recordAttempt_eq nowMillis attempt))
    rw [refused, record]
    exact ⟨rfl, nofun⟩

/-- The calls an adapter looks at the claim of. -/
def Adapter.Hears : Adapter → StoreCall → Prop
  | .memory => fun _ => True
  | .postgres => Postgres.Hears

/-- **Both adapters fence**, the SQL one all calls but the record of an attempt. -/
theorem adapters_fence (adapter : Adapter) : adapter.machine.Fenced adapter.Hears := by
  cases adapter with
  | memory => exact memory_lawful.fenced memory_hearing
  | postgres => exact postgres_lawful.fenced postgres_hearing

namespace Sample

/-- The tables after the first delivery, under a lease that ends at 1000. -/
def savedTables : postgres.Store := (postgres.exec 0 postgres.empty ⟨savePending, false⟩).2

/-- Its first attempt, recorded too late. -/
def lateRecord : DeliveryAttemptRecord where
  deliveryId := delivery
  ordinal := Nat.toPNat' 1
  workerId := worker
  claimGeneration := claim.generation
  startedAtMillis := 0
  completedAtMillis := 1
  outcome := .delivered
  decision := .terminal
  status := some 204
  retryDelayMillis := none
  traceId := none
  spanId := none
  consistent := by decide

theorem savedTables_run : postgres.system.Run
    [⟨0, ⟨savePending, false⟩, (postgres.exec 0 postgres.empty ⟨savePending, false⟩).1⟩] savedTables :=
  .single (postgres.step_of_fresh 0 fun _ _ => rfl)

end Sample

/-- The lease has ended, and the record fails with the infrastructure and not with the claim. -/
theorem fencing_refused : ¬ ∀ adapter : Adapter, adapter.machine.Fenced fun _ => True := by
  intro always
  have fenced : postgres.Fenced fun _ => True := always .postgres
  have claim : (postgres.view Sample.savedTables Sample.delivery).bind (·.claim) = some Sample.claim := by decide +kernel
  have turned := (fenced.expired Sample.savedTables_run 2000 ⟨.recordAttempt Sample.lateRecord, false⟩ _ rfl nofun (by
    intro e standing held under
    rw [show postgres.view Sample.savedTables Sample.delivery = some e from held, Option.bind_some, under,
      Option.some.injEq] at claim
    rw [claim]
    decide)).2 trivial
  have refused := turned.claimLost rfl
  rw [show (postgres.exec 2000 Sample.savedTables ⟨.recordAttempt Sample.lateRecord, false⟩).1 = _ from
    congrArg Prod.fst (Postgres.Database.recordAttempt_eq 2000 Sample.savedTables Sample.lateRecord)] at refused
  cases refused

end Relay
