import Relay.Worker.Progress

/-!
# The attempt ledger of the workers

Whatever the workers, their crashes and the operators do, the recorded attempts of
a delivery are numbered without gap or repeat, each claim sends at most one request
that is not recorded, and the delivery is in the state its last attempt implies.
-/

namespace Relay

section Job

variable {job : Job} {resilience : DeliveryResilience} {trace : AttemptTraceCorrelation} {startedAt ordinal : ℕ}

theorem Job.start_progress (sane : job.Sane) (queued : job.main = .queued) :
    (job.start resilience trace startedAt).progress = job.progress := by
  simp only [Job.progress, Job.start, queued, sane.queued queued]

theorem Job.start_sane (sane : job.Sane) (queued : job.main = .queued) :
    (job.start resilience trace startedAt).Sane where
  queued := by exact nofun
  counted := by
    intro ordinal flying
    rw [Job.start_progress sane queued] at flying
    exact sane.counted ordinal flying

/-- A renewal does not touch the attempts, unless the job stops. -/
theorem Job.renewed_progress (job : Job) (seen : Reply) :
    (job.renewed seen).progress = job.progress ∧ (job.renewed seen).nextOrdinal = job.nextOrdinal ∨
      (job.renewed seen).progress = .ended := by
  unfold Job.renewed
  split
  · exact .inl ⟨rfl, rfl⟩
  · exact .inr rfl
  · split
    · exact .inr rfl
    · exact .inl ⟨rfl, rfl⟩

theorem Job.renewed_main (running : job.main = .running) (seen : Reply) : (job.renewed seen).main ≠ .queued := by
  unfold Job.renewed
  split
  · rw [show Job.main _ = .running from running]
    exact nofun
  · exact nofun
  · split
    · exact nofun
    · rw [show Job.main _ = .running from running]
      exact nofun

theorem Job.appended_main (running : job.main = .running) (attempt : AttemptObservation)
    (decision : DeliveryAttemptDecision) (seen : Reply) : (job.appended attempt decision seen).main ≠ .queued := by
  unfold Job.appended
  split
  · exact nofun
  · split <;> (rw [show Job.main _ = .running from running]; exact nofun)

theorem Job.appended_key (attempt : AttemptObservation) (decision : DeliveryAttemptDecision) (seen : Reply) :
    (job.appended attempt decision seen).key = job.key := by
  unfold Job.appended
  split
  · rfl
  · split <;> rfl

/-- After a record the job is ready for the next ordinal, or over with its attempts. -/
theorem Job.appended_progress (running : job.main = .running) (attempt : AttemptObservation)
    (decision : DeliveryAttemptDecision) (seen : Reply) :
    (job.appended attempt decision seen).progress = .ended ∨
      (job.appended attempt decision seen).progress = .idle job.nextOrdinal ∧ ∃ value, seen = .ok value := by
  unfold Job.appended
  split
  · exact .inl rfl
  · next value =>
    split
    · right
      exact ⟨by simp only [Job.progress, running], value, rfl⟩
    · left
      simp only [Job.progress, running]
    · left
      simp only [Job.progress, running]

theorem Job.appended_sane (running : job.main = .running) (attempt : AttemptObservation)
    (decision : DeliveryAttemptDecision) (seen : Reply) : (job.appended attempt decision seen).Sane where
  queued := fun queued => absurd queued (job.appended_main running attempt decision seen)
  counted := by
    intro ordinal flying
    rcases job.appended_progress running attempt decision seen with ended | ⟨idle, -⟩
    · rw [ended] at flying
      cases flying
    · rw [idle] at flying
      cases flying

end Job

/-- A renewal that succeeds renews the claim it was given. -/
theorem Served.renewClaim_ok {nowMillis : ℕ} {L L' : Ledger} {id : DeliveryId} {claim : DeliveryClaim} {lease : Number}
    {value : StoreValue} (served : Served nowMillis L (.renewClaim id claim lease) (.ok value) L') :
    ∃ expires, value = .renewed { claim with leaseExpiresAtMillis := expires } := by
  have grants : ∀ expires, (Entry.renewClaim nowMillis claim expires (L id)).1 = .ok value →
      ∃ expires, value = .renewed { claim with leaseExpiresAtMillis := expires } := by
    intro expires granted
    unfold Entry.renewClaim Entry.fenced at granted
    split at granted
    · cases granted
    · split at granted
      · cases granted
        exact ⟨expires, rfl⟩
      · cases granted
  generalize answered : (.ok value : Answer) = answer at served
  cases served with
  | onEntry call id op about =>
    obtain ⟨p, -, hp⟩ := Option.map_eq_some_iff.1 about
    cases hp
    exact grants _ answered.symm
  | regranted id claim lease expires odd => exact grants expires answered.symm
  | refused => cases answered

theorem Job.renewed_error (job : Job) (failure : Failure) : (job.renewed (.error failure)).key = job.key := by
  show (if job.renewal = .initial then _ else _ : Job).key = _
  split <;> rfl

/-- A renewal keeps the generation of the claim. -/
theorem Job.renewed_key (job : Job) {nowMillis : ℕ} {L L' : Ledger} {lease : Number} {seen : Reply}
    (served : Served nowMillis L (.renewClaim job.deliveryId job.claim lease) seen.answer L') :
    (job.renewed seen).key = job.key := by
  cases seen with
  | error failure => exact job.renewed_error failure
  | ok value =>
    obtain ⟨expires, rfl⟩ := Served.renewClaim_ok served
    rfl

/-! ## The run -/

structure WorkerInvariant {M : StoreMachine} (s : WorkerState M) : Prop where
  sound : M.Sound s.store
  consistent : Consistent (M.view s.store) s.jobs s.sent

section Run

variable {M : StoreMachine} {processes : ℕ → WorkerProcess} {s s' : WorkerState M}

theorem clerical_of_unfenced {call : StoreCall} (unfenced : call.fence = none)
    (unsaved : ∀ delivery, call ≠ .save delivery) : call.Clerical := by
  refine ⟨unsaved, ?_, ?_⟩
  · rintro attempt rfl
    cases unfenced
  · rintro id claim result rfl
    cases unfenced

theorem clerical_releaseClaim (id : DeliveryId) (claim : DeliveryClaim) :
    (StoreCall.releaseClaim id claim).Clerical :=
  ⟨fun _ => nofun, fun _ => nofun, fun _ _ _ => nofun⟩

theorem clerical_renewClaim (id : DeliveryId) (claim : DeliveryClaim) (lease : Number) :
    (StoreCall.renewClaim id claim lease).Clerical :=
  ⟨fun _ => nofun, fun _ => nofun, fun _ _ _ => nofun⟩

/-- A clerical call of a job, whatever it sees of it. -/
theorem WorkerInvariant.asks (lawful : M.Lawful) (inv : WorkerInvariant s) {call : StoreCall} {event : Option M.Event}
    {seen : Reply} {store : M.Store} (asks : M.Asks s.store call event seen store) (clerical : call.Clerical) :
    WorkerInvariant (s.asked event store) := by
  obtain ⟨sound, ⟨-, -, same⟩ | ⟨l, -, served, -⟩⟩ := lawful.asks inv.sound asks
  · refine ⟨sound, ?_⟩
    show Consistent (M.view store) s.jobs s.sent
    rw [same]
    exact inv.consistent
  · exact ⟨sound, inv.consistent.clerical served clerical⟩

/-- A job ends or keeps its progress. -/
theorem WorkerInvariant.advance (inv : WorkerInvariant s) {i : ℕ} {job job' : Job} (here : s.jobs[i]? = some job)
    (key : job'.key = job.key) (sane : job'.Sane) (progress : job'.progress = job.progress ∨ job'.progress = .ended) :
    WorkerInvariant (s.setJob i job') :=
  ⟨inv.sound, inv.consistent.advance here key sane progress⟩

theorem WorkerInvariant.finish (inv : WorkerInvariant s) {i : ℕ} {job job' : Job} (here : s.jobs[i]? = some job)
    (key : job'.key = job.key) (started : job'.main ≠ .queued) (ended : job'.progress = .ended) :
    WorkerInvariant (s.setJob i job') :=
  inv.advance here key (Job.sane_of_ended started ended) (.inr ended)

theorem WorkerInvariant.record (lawful : M.Lawful) (inv : WorkerInvariant s) {i : ℕ} {job : Job}
    {attempt : AttemptObservation} {decision : DeliveryAttemptDecision} {record : DeliveryAttemptRecord}
    {event : Option M.Event} {seen : Reply} {store : M.Store} (here : s.jobs[i]? = some job)
    (running : job.main = .running) (observed : job.attempt = .observed attempt)
    (made : makeDeliveryAttemptRecord job.deliveryId job.claim (withDecision attempt decision) job.trace = some record)
    (asks : M.Asks s.store (.recordAttempt record) event seen store) :
    WorkerInvariant ((s.asked event store).setJob i (job.appended attempt decision seen)) := by
  have flying : job.progress = .flying attempt.ordinal := by
    simp only [Job.progress, running, observed]
  obtain ⟨delivery, count, -, generation, -⟩ := makeDeliveryAttemptRecord_eq_some made
  have sane := job.appended_sane running attempt decision seen
  have key := job.appended_key attempt decision seen
  have progress := job.appended_progress running attempt decision seen
  rw [(inv.consistent.sane job (List.mem_of_getElem? here)).counted attempt.ordinal flying] at progress
  obtain ⟨sound, ⟨-, ⟨failure, rfl⟩, same⟩ | ⟨l, -, served, sees⟩⟩ := lawful.asks inv.sound asks
  · refine ⟨sound, ?_⟩
    show Consistent (M.view store) (s.jobs.set i _) s.sent
    rw [same]
    refine inv.consistent.advance here key sane (.inr ?_)
    rfl
  · refine ⟨sound, inv.consistent.record here flying delivery count generation served key sane ?_⟩
    rcases progress with ended | ⟨idle, value, rfl⟩
    · exact .inl ended
    · refine .inr ⟨idle, value, ?_⟩
      rcases sees with same | ⟨failure, error⟩
      · rw [← same]
        rfl
      · cases error

/-- Every step of the workers keeps the invariant. -/
theorem WorkerInvariant.step (lawful : M.Lawful) (inv : WorkerInvariant s) {l : WorkerLabel M}
    (step : WorkerStep M processes s l s') : WorkerInvariant s' := by
  cases step with
  | @environment l store process fallback unfenced unsaved step =>
    obtain ⟨sound, served⟩ := lawful.step inv.sound step
    have issued := inv.consistent.issue served (clerical_of_unfenced unfenced unsaved) process fallback
    rw [handedOut_answer] at issued
    exact ⟨sound, issued⟩
  | drop here queued asks =>
    exact (inv.asks lawful asks (clerical_releaseClaim _ _)).finish here rfl (by simp) rfl
  | start trace startedAt here queued =>
    have sane := inv.consistent.sane _ (List.mem_of_getElem? here)
    exact inv.advance here rfl (Job.start_sane sane queued) (.inl (Job.start_progress sane queued))
  | @renew i job event seen store here running renewing asks =>
    have renews := inv.asks lawful asks (clerical_renewClaim _ _ _)
    have key : (job.renewed seen).key = job.key := by
      obtain ⟨-, ⟨-, ⟨failure, rfl⟩, -⟩ | ⟨l, -, served, rfl | ⟨failure, rfl⟩⟩⟩ := lawful.asks inv.sound asks
      · exact job.renewed_error failure
      · exact job.renewed_key served
      · exact job.renewed_error failure
    have sane := inv.consistent.sane job (List.mem_of_getElem? here)
    rcases job.renewed_progress seen with ⟨same, next⟩ | ended
    · refine renews.advance here key ⟨fun queued => absurd queued (job.renewed_main running seen), ?_⟩ (.inl same)
      intro ordinal flying
      rw [same] at flying
      rw [next]
      exact sane.counted ordinal flying
    · exact renews.finish here key (job.renewed_main running seen) ended
  | send here running leased ready => exact ⟨inv.sound, inv.consistent.send here running ready⟩
  | @observe i job ordinal startedAt completedAt outcome here running sending =>
    have flying : job.progress = .flying ordinal := by
      simp only [Job.progress, running, sending]
    have same : Job.progress { job with attempt := .observed ⟨ordinal, startedAt, completedAt, outcome⟩ } =
        .flying ordinal := by
      simp only [Job.progress, running]
    refine inv.advance here rfl ⟨?_, ?_⟩ (.inl (same.trans flying.symm))
    · intro queued
      rw [show Job.main _ = .running from running] at queued
      cases queued
    · intro ordinal' flying'
      rw [same] at flying'
      cases flying'
      exact (inv.consistent.sane job (List.mem_of_getElem? here)).counted ordinal flying
  | record now fraction here running observed made asks => exact inv.record lawful here running observed made asks
  | unrecordable now fraction here running observed throws =>
    exact inv.finish here (Job.appended_key _ _ _) (Job.appended_main running _ _ _) rfl
  | @publish i job result here running recorded room =>
    have moved : WorkerInvariant (s.setJob i { job with attempt := .finished result, main := .succeeding result }) :=
      inv.finish here rfl (by simp) rfl
    exact ⟨moved.sound, moved.consistent⟩
  | lose here running failed => exact inv.finish here rfl (by simp [Job.stop]) rfl
  | release here failing asks =>
    exact (inv.asks lawful asks (clerical_releaseClaim _ _)).finish here rfl (by simp) rfl
  | complete here succeeding => exact inv.finish here rfl (by simp) rfl
  | interrupt here unanswered => exact inv.finish here rfl (by simp [Job.stop]) rfl
  | crash here => exact inv.finish here rfl (by simp) rfl
  | subscribers process move => exact ⟨inv.sound, inv.consistent⟩

theorem WorkerInvariant.init (lawful : M.Lawful) : WorkerInvariant (workerSystem M processes).init where
  sound := lawful.sound_empty
  consistent := by
    show Consistent (M.view M.empty) [] []
    rw [lawful.view_empty]
    exact ⟨by exact nofun, by exact nofun, List.forall_mem_nil _, List.forall_mem_nil _, List.forall_mem_nil _, .nil⟩

theorem WorkerInvariant.reachable (lawful : M.Lawful) (reachable : (workerSystem M processes).Reachable s) :
    WorkerInvariant s :=
  reachable.invariant WorkerInvariant (.init lawful) fun _ _ _ inv step => inv.step lawful step

end Run

/-! ## The attempt ledger -/

/-- What holds of the attempts of every delivery. -/
structure AttemptLedger (L : Ledger) (sent : List (DeliveryId × ClaimGeneration)) : Prop where
  /-- Ordinals are 1, 2, … without gap or repeat. -/
  ordinals : ∀ {id e}, L id = some e →
    (e.attempts.map fun a => (a.ordinal : ℕ)) = List.range' 1 e.attempts.length
  generations : ∀ {id e}, L id = some e → (e.attempts.map fun a => (a.claimGeneration : ℕ)).Pairwise (· ≤ ·)
  /-- At most one request of a claim is not recorded under its generation. -/
  requests : ∀ (id : DeliveryId) (generation : ClaimGeneration), sent.count (id, generation) ≤
    (L id).elim 0 (fun e => e.recordedUnder generation) + 1
  delivered : ∀ {id e status}, L id = some e → (e.delivery.state = .delivered status ↔
    ∃ a, e.attempts.getLast? = some a ∧ a.decision = .terminal ∧ a.outcome = .delivered ∧ a.status = some status)
  rejected : ∀ {id e status}, L id = some e → (e.delivery.state = .rejected status ↔
    ∃ a, e.attempts.getLast? = some a ∧ a.decision = .terminal ∧ a.outcome = .rejected ∧ a.status = some status)
  deadLettered : ∀ {id e reason}, L id = some e → e.delivery.state = .deadLettered reason →
    ∃ a, e.attempts.getLast? = some a ∧ (a.decision = .exhausted ∧ reason = .retryBudgetExhausted ∨
      a.decision = .terminal ∧ a.outcome = .protocolFailure ∧ reason = .providerProtocolFailure)
  terminated : ∀ {id e}, L id = some e → e.delivery.state = .terminated →
    ∃ a, e.attempts.getLast? = some a ∧ (a.decision = .exhausted ∨
      a.decision = .terminal ∧ a.outcome = .protocolFailure)

section Account

variable {a : DeliveryAttemptRecord} {e : Entry} {status : ℤ} {reason : DeadLetterReason}

theorem terminalStateFromAttempt_delivered : terminalStateFromAttempt a = some (.delivered status) ↔
    a.decision = .terminal ∧ a.outcome = .delivered ∧ a.status = some status := by
  unfold terminalStateFromAttempt
  cases a.decision with
  | exhausted | retryScheduled => simp
  | terminal => cases a.outcome <;> simp

theorem terminalStateFromAttempt_rejected : terminalStateFromAttempt a = some (.rejected status) ↔
    a.decision = .terminal ∧ a.outcome = .rejected ∧ a.status = some status := by
  unfold terminalStateFromAttempt
  cases a.decision with
  | exhausted | retryScheduled => simp
  | terminal => cases a.outcome <;> simp

theorem terminalStateFromAttempt_deadLettered (last : terminalStateFromAttempt a = some (.deadLettered reason)) :
    a.decision = .exhausted ∧ reason = .retryBudgetExhausted ∨
      a.decision = .terminal ∧ a.outcome = .protocolFailure ∧ reason = .providerProtocolFailure := by
  unfold terminalStateFromAttempt at last
  split at last
  · next exhausted =>
    cases last
    exact .inl ⟨exhausted, rfl⟩
  · cases last
  · next terminal =>
    split at last
    · obtain ⟨status, -, other⟩ := Option.map_eq_some_iff.1 last
      cases other
    · obtain ⟨status, -, other⟩ := Option.map_eq_some_iff.1 last
      cases other
    · next failure =>
      cases last
      exact .inr ⟨terminal, failure, rfl⟩
    · cases last
    · cases last
    · cases last

namespace Entry

theorem implied_eq_some {state : DeliveryState} : e.implied = some state ↔
    ∃ a, e.attempts.getLast? = some a ∧ terminalStateFromAttempt a = some state := by
  rw [implied, Option.bind_eq_some_iff]

theorem Accounted.delivered (accounted : e.Accounted) :
    e.delivery.state = .delivered status ↔ e.implied = some (.delivered status) := by
  have follows := accounted.follows
  generalize e.implied = implied at follows ⊢
  generalize e.delivery.state = state at follows ⊢
  cases follows <;> simp

theorem Accounted.rejected (accounted : e.Accounted) :
    e.delivery.state = .rejected status ↔ e.implied = some (.rejected status) := by
  have follows := accounted.follows
  generalize e.implied = implied at follows ⊢
  generalize e.delivery.state = state at follows ⊢
  cases follows <;> simp

theorem Accounted.deadLettered (accounted : e.Accounted) (dead : e.delivery.state = .deadLettered reason) :
    e.implied = some (.deadLettered reason) := by
  have follows := accounted.follows
  rw [dead] at follows
  generalize e.implied = implied at follows ⊢
  cases follows
  rfl

theorem Accounted.terminated (accounted : e.Accounted) (ended : e.delivery.state = .terminated) :
    ∃ reason, e.implied = some (.deadLettered reason) := by
  have follows := accounted.follows
  rw [ended] at follows
  generalize e.implied = implied at follows ⊢
  cases follows with
  | terminated reason => exact ⟨reason, rfl⟩

end Entry

end Account

theorem Consistent.attemptLedger {L : Ledger} {jobs : List Job} {sent : List (DeliveryId × ClaimGeneration)}
    (consistent : Consistent L jobs sent) : AttemptLedger L sent where
  ordinals := fun held => (consistent.accounted _ _ held).ordinals
  generations := fun held => (consistent.accounted _ _ held).ascending
  requests := by
    intro id generation
    by_cases sends : (id, generation) ∈ sent
    · obtain ⟨job, among, same⟩ := consistent.sends _ sends
      obtain ⟨e, tied⟩ := consistent.tied job among
      have bound := tied.progress.le
      obtain ⟨rfl, rfl⟩ := Prod.mk.inj same
      rw [tied.held]
      exact bound
    · rw [List.count_eq_zero.2 sends]
      exact Nat.zero_le _
  delivered := by
    intro id e status held
    rw [(consistent.accounted _ _ held).delivered, Entry.implied_eq_some]
    simp only [terminalStateFromAttempt_delivered]
  rejected := by
    intro id e status held
    rw [(consistent.accounted _ _ held).rejected, Entry.implied_eq_some]
    simp only [terminalStateFromAttempt_rejected]
  deadLettered := by
    intro id e reason held dead
    obtain ⟨a, last, state⟩ := Entry.implied_eq_some.1 ((consistent.accounted _ _ held).deadLettered dead)
    exact ⟨a, last, terminalStateFromAttempt_deadLettered state⟩
  terminated := by
    intro id e held ended
    obtain ⟨reason, implied⟩ := (consistent.accounted _ _ held).terminated ended
    obtain ⟨a, last, state⟩ := Entry.implied_eq_some.1 implied
    refine ⟨a, last, ?_⟩
    rcases terminalStateFromAttempt_deadLettered state with ⟨exhausted, -⟩ | ⟨terminal, failure, -⟩
    · exact .inl exhausted
    · exact .inr ⟨terminal, failure⟩

/-! ## A first attempt -/

namespace Sample

abbrev machine : StoreMachine := Adapter.memory.intake.toStoreMachine

def resilience : DeliveryResilience := ⟨Nat.toPNat' 10, Nat.toPNat' 2, Nat.toPNat' 1000, Nat.toPNat' 1, Nat.toPNat' 1⟩

def processes : ℕ → WorkerProcess := fun _ => ⟨resilience, 1000, Nat.toPNat' 1⟩

def untraced : AttemptTraceCorrelation := ⟨none, none⟩

def creation : StoreCall := savePending

/-- The first delivery was created under its first claim. -/
def opened : WorkerState machine :=
  { (workerSystem machine processes).init.call 0 creation with jobs := [Job.issued 0 destination claimed] }

def started : WorkerState machine := opened.setJob 0 ((Job.issued 0 destination claimed).start resilience untraced 0)

def job : Job :=
  { (Job.issued 0 destination claimed).start resilience untraced 0 with renewal := .looping }

def renewal : StoreCall := .renewClaim delivery claim 1000

def leased : WorkerState machine := (started.call 0 renewal).setJob 0 job

def flying : Job := { job with attempt := .sending 1, nextOrdinal := 2 }

def sent : WorkerState machine := { leased.setJob 0 flying with sent := [(delivery, claim.generation)] }

def answered : Job := { flying with attempt := .observed ⟨1, 0, 0, .delivered destination 204⟩ }

def observed : WorkerState machine := sent.setJob 0 answered

def attempt : DeliveryAttempt := ⟨1, 0, 0, .delivered destination 204, .terminal⟩

def attemptRecord : DeliveryAttemptRecord where
  deliveryId := delivery
  ordinal := Nat.toPNat' 1
  workerId := worker
  claimGeneration := claim.generation
  startedAtMillis := 0
  completedAtMillis := 0
  outcome := .delivered
  decision := .terminal
  status := some 204
  retryDelayMillis := none
  traceId := none
  spanId := none
  consistent := by decide

def recording : StoreCall := .recordAttempt attemptRecord

def result : DeliveryResult := .delivered ⟨delivery, destination, [attempt]⟩ 204

def settled : Job := { answered with history := [attempt], attempt := .recorded result }

def recorded : WorkerState machine := (observed.call 1 recording).setJob 0 settled

theorem opens : WorkerStep machine processes (workerSystem machine processes).init
    (.environment (machine.event 0 machine.empty creation)) opened := by
  have step : machine.system.step machine.empty _ _ :=
    StoreMachine.step_event (c := creation) 0 fun id _ => congrFun memory_lawful.view_empty id
  have opens := @WorkerStep.environment machine processes (workerSystem machine processes).init _ _ 0 destination rfl
    (by exact fun _ => nofun) step
  have handed : handedOut (machine.event 0 machine.empty creation).reply = [claimed] := by decide +kernel
  rw [handed] at opens
  exact opens

theorem starts : WorkerStep machine processes opened (.start 0) started := .start untraced 0 rfl rfl

theorem renews : WorkerStep machine processes started
    (.renew 0 (some (machine.event 0 started.store renewal)) (.ok (.renewed claim))) leased := by
  have renewed : (machine.exec 0 started.store renewal).1 = .ok (.renewed claim) := by decide +kernel
  have asks := machine.asks_event (c := renewal) 0 started.store rfl
  rw [renewed] at asks
  have here : started.jobs[0]? = some ((Job.issued 0 destination claimed).start resilience untraced 0) := rfl
  exact @WorkerStep.renew machine processes started 0 _ _ _ _ here rfl (by exact fun failure same => nomatch same) asks

theorem sends : WorkerStep machine processes leased (.send 0) sent := .send rfl rfl (by exact nofun) rfl

theorem observes : WorkerStep machine processes sent (.observe 0) observed := .observe 0 0 _ rfl rfl rfl

theorem records : WorkerStep machine processes observed
    (.record 0 (some (machine.event 1 observed.store recording)) (.ok .done)) recorded := by
  have done : (machine.exec 1 observed.store recording).1 = .ok .done := by decide +kernel
  have asks := machine.asks_event (c := recording) 1 observed.store rfl
  rw [done] at asks
  have here : observed.jobs[0]? = some answered := rfl
  exact @WorkerStep.record machine processes _ 0 _ _ attemptRecord _ _ _ 0 0 here rfl rfl rfl asks

theorem recorded_reachable : (workerSystem machine processes).Reachable recorded :=
  (((((TransitionSystem.Reachable.init.step opens).step starts).step renews).step sends).step observes).step records

end Sample

/-- **The attempt ledger holds in every reachable state** of any workers on either adapter. -/
theorem worker_attemptLedger (adapter : Adapter) (processes : ℕ → WorkerProcess)
    {s : WorkerState adapter.intake.toStoreMachine}
    (reachable : (workerSystem adapter.intake.toStoreMachine processes).Reachable s) :
    AttemptLedger (adapter.intake.view s.store) s.sent :=
  (WorkerInvariant.reachable adapter.lawful.store reachable).consistent.attemptLedger

theorem worker_attemptLedger_recorded : AttemptLedger (memory.view Sample.recorded.store) [(Sample.delivery, 1)] :=
  worker_attemptLedger .memory Sample.processes Sample.recorded_reachable

end Relay
