import Relay.Worker.Ledger

/-!
# The attempt budget of a delivery

The retry schedule lives in the memory of one job: the next claim of the delivery
starts with a full budget. While every claim is handed out before the first attempt
is recorded, all attempts are counted by one schedule, and the budget of a claim is
the budget of the delivery.
-/

namespace Relay

/-- No more than `m` attempts, and `m` retryable ones settle the delivery. -/
structure Entry.WithinBudget (e : Entry) (m : ℕ) : Prop where
  bounded : e.attempts.length ≤ m
  settled : m ≤ e.attempts.countP (fun a => a.outcome.retryable?) → e.delivery.state ≠ .pending

section Conditions

variable {M : StoreMachine}

/-- No operator retries or repairs the delivery. -/
def Unrecovered (id : DeliveryId) (l : WorkerLabel M) : Prop :=
  ∀ event, l.event = some event →
    M.call event.call ≠ .retryDeadLetter id ∧ ∀ route, M.call event.call ≠ .repairDeadLetter id route

/-- The delivery is handed out only while no attempt of it is recorded. -/
def HandedOutUntried (id : DeliveryId) (s : WorkerState M) (l : WorkerLabel M) : Prop :=
  ∀ event, l.event = some event → ∀ c ∈ handedOut event.reply, c.delivery.id = id →
    ∀ e, M.view s.store id = some e → e.attempts = []

end Conditions

/-! ## What a job may still do -/

/-- A job that counts every attempt of its delivery, with retries left in its budget. -/
def Progress.Counts (retries budget : ℕ) : Progress → Prop
  | .idle next => next = retries + 1 ∧ retries < budget
  | .flying ordinal => ordinal = retries + 1 ∧ retries < budget
  | .ended => True

def Job.Counts (budget : ℕ) (job : Job) : Prop := job.progress.Counts job.retries budget

/-- What the calls leave of the budget of one entry. -/
structure Entry.Budgeted (e : Entry) (m : ℕ) : Prop where
  bounded : e.attempts.length ≤ m
  unspent : e.delivery.state = .pending → e.attempts.length < m

theorem Entry.Budgeted.withinBudget {e : Entry} {m : ℕ} (budgeted : e.Budgeted m) : e.WithinBudget m where
  bounded := budgeted.bounded
  settled := by
    intro spent pending
    have recorded : e.attempts.countP (fun a => a.outcome.retryable?) ≤ e.attempts.length := List.countP_le_length
    have unspent := budgeted.unspent pending
    omega

/-! ## The ledger -/

section Served

variable {nowMillis m : ℕ} {L L' : Ledger} {call : StoreCall} {answer : Answer} {id : DeliveryId} {gs : List ℕ}
  {e e' : Entry}

theorem Effect.untried (effect : Effect nowMillis id call none gs (some e)) : e.attempts = [] := by
  cases effect with
  | saved | stranded | admitted => rfl

/-- Only a record settles a delivery or an operator reopens it. -/
theorem Effect.pending_of (effect : Effect nowMillis id call (some e) gs (some e')) (clerical : call.Clerical)
    (retry : call ≠ .retryDeadLetter id) (repair : ∀ route, call ≠ .repairDeadLetter id route)
    (pending : e'.delivery.state = .pending) : e.delivery.state = .pending := by
  cases effect with
  | same | issued | renewed | released => exact pending
  | scheduled attempt | settled attempt => exact absurd rfl (clerical.2.1 attempt)
  | completed claim result => exact absurd rfl (clerical.2.2 id claim result)
  | retried => exact absurd rfl retry
  | repaired route => exact absurd rfl (repair route)
  | terminated => cases pending

/-- A call that neither records nor recovers leaves the budget as it was. -/
theorem Served.budgeted (served : Served nowMillis L call answer L') (clerical : call.Clerical)
    (retry : call ≠ .retryDeadLetter id) (repair : ∀ route, call ≠ .repairDeadLetter id route) (positive : 0 < m)
    (budgeted : ∀ e, L id = some e → e.Budgeted m) (held : L' id = some e') : e'.Budgeted m := by
  have effect := served.effect id
  rw [held] at effect
  cases before : L id with
  | none =>
    rw [before] at effect
    rw [← List.length_eq_zero_iff.2 effect.untried] at positive
    exact ⟨positive.le, fun _ => positive⟩
  | some e =>
    rw [before] at effect
    have same := (effect.keeps clerical).attempts
    have budget := budgeted e before
    constructor
    · rw [same]
      exact budget.bounded
    · intro pending
      rw [same]
      exact budget.unspent (effect.pending_of clerical retry repair pending)

/-- A record within the budget of its job: one more attempt, and the last one settles the delivery. -/
theorem Served.budgeted_record {attempt : DeliveryAttemptRecord}
    (served : Served nowMillis L (.recordAttempt attempt) answer L') (budgeted : ∀ e, L id = some e → e.Budgeted m)
    (within : ∀ e, L id = some e → attempt.deliveryId = id →
      e.holds attempt.workerId attempt.claimGeneration (some nowMillis) = true →
      e.attempts.length < m ∧ (attempt.decision = .retryScheduled → e.attempts.length + 1 < m))
    (held : L' id = some e') : e'.Budgeted m := by
  obtain ⟨-, e, next, before, holds, rfl, written⟩ | ⟨-, rfl⟩ := served.recordAttempt
  · by_cases about : attempt.deliveryId = id
    · subst about
      rw [Function.update_self] at held
      obtain rfl := Option.some.inj held
      obtain ⟨room, retry⟩ := within e before rfl holds
      obtain ⟨unsettled, rfl⟩ | ⟨state, last, rfl⟩ := written
      · have scheduled : attempt.decision = .retryScheduled := by
          by_contra other
          obtain ⟨state, last, -⟩ := terminalStateFromAttempt_some other
          rw [unsettled] at last
          cases last
        have length : (e.schedule attempt).attempts.length = e.attempts.length + 1 := List.length_append
        constructor
        · omega
        · intro _
          rw [length]
          exact retry scheduled
      · have length : (e.settle attempt state).attempts.length = e.attempts.length + 1 := List.length_append
        constructor
        · omega
        · intro pending
          have other : attempt.decision ≠ .retryScheduled := by
            intro same
            rw [terminalStateFromAttempt, same] at last
            cases last
          obtain ⟨state', last', settled⟩ := terminalStateFromAttempt_some other
          rw [last, Option.some.injEq] at last'
          exact absurd (last'.symm.trans pending) settled
    · rw [Function.update_of_ne (Ne.symm about)] at held
      exact budgeted e' held
  · exact budgeted e' held

end Served

/-! ## The jobs -/

namespace Job

variable {job job' : Job} {budget : ℕ}

theorem Counts.keep (counts : job.Counts budget)
    (same : job'.progress = job.progress ∧ job'.retries = job.retries ∨ job'.progress = .ended) : job'.Counts budget := by
  unfold Counts at counts ⊢
  rcases same with ⟨progress, retries⟩ | ended
  · rw [progress, retries]
    exact counts
  · rw [ended]
    trivial

theorem renewed_retries (job : Job) (seen : Reply) : (job.renewed seen).retries = job.retries := by
  unfold renewed
  split
  · rfl
  · rfl
  · split <;> rfl

theorem renewed_process (job : Job) (seen : Reply) : (job.renewed seen).process = job.process := by
  unfold renewed
  split
  · rfl
  · rfl
  · split <;> rfl

theorem appended_process (job : Job) (attempt : AttemptObservation) (decision : DeliveryAttemptDecision) (seen : Reply) :
    (job.appended attempt decision seen).process = job.process := by
  unfold appended
  split
  · rfl
  · split <;> rfl

/-- A retry is scheduled only while the budget lasts. -/
theorem retries_of_retryScheduled {resilience : DeliveryResilience} {now : ℕ} {fraction : ℚ} {outcome : DeliveryOutcome}
    (scheduled : (job.decision resilience now fraction outcome).tag = .retryScheduled) :
    job.retries + 1 < resilience.maxAttempts := by
  unfold decision at scheduled
  split at scheduled
  · cases scheduled
  · split at scheduled
    · cases scheduled
    · next delay lasts =>
      dsimp only [retryDelay] at lasts
      split at lasts
      · next guard =>
        have room := guard.1
        omega
      · cases lasts

/-- After a record the job counts on, or is over with its attempts. -/
theorem Counts.appended {resilience : DeliveryResilience} {now : ℕ} {fraction : ℚ} {attempt : AttemptObservation}
    (counts : job.Counts resilience.maxAttempts) (sane : job.Sane) (running : job.main = .running)
    (observed : job.attempt = .observed attempt) (seen : Reply) :
    (job.appended attempt (job.decision resilience now fraction attempt.outcome) seen).Counts resilience.maxAttempts := by
  have flying : job.progress = .flying attempt.ordinal := by
    simp only [progress, running, observed]
  have next := sane.counted attempt.ordinal flying
  unfold Counts at counts
  rw [flying] at counts
  generalize decided : job.decision resilience now fraction attempt.outcome = decision
  unfold Job.appended
  split
  · trivial
  · split
    · next delay =>
      have scheduled : (job.decision resilience now fraction attempt.outcome).tag = .retryScheduled := by
        rw [decided]
        rfl
      have room := retries_of_retryScheduled scheduled
      simp only [Counts, progress, running]
      exact ⟨by rw [next, counts.1], room⟩
    · simp only [Counts, progress, running]
      trivial
    · simp only [Counts, progress, running]
      trivial

end Job

/-! ## The run -/

structure BudgetInvariant {M : StoreMachine} (processes : ℕ → WorkerProcess) (m : ℕ) (id : DeliveryId)
    (s : WorkerState M) : Prop where
  ledger : ∀ e, M.view s.store id = some e → e.Budgeted m
  counts : ∀ job ∈ s.jobs, job.deliveryId = id → job.Counts (processes job.process).resilience.maxAttempts

section Run

variable {M : StoreMachine} {processes : ℕ → WorkerProcess} {m : ℕ} {id : DeliveryId} {s s' : WorkerState M}
  {i : ℕ} {job job' : Job}

/-- One job moves, and still counts. -/
theorem BudgetInvariant.move (inv : BudgetInvariant processes m id s) (here : s.jobs[i]? = some job)
    (key : job'.key = job.key) (process : job'.process = job.process)
    (counts : job.deliveryId = id → job.Counts (processes job.process).resilience.maxAttempts →
      job'.Counts (processes job.process).resilience.maxAttempts) : BudgetInvariant processes m id (s.setJob i job') where
  ledger := inv.ledger
  counts := by
    intro other member about
    obtain rfl | ⟨k, -, there⟩ := mem_setJob member
    · have same : job.deliveryId = id := (congrArg Prod.fst key).symm.trans about
      rw [process]
      exact counts same (inv.counts job (List.mem_of_getElem? here) same)
    · exact inv.counts other (List.mem_of_getElem? there) about

theorem BudgetInvariant.keep (inv : BudgetInvariant processes m id s) (here : s.jobs[i]? = some job)
    (key : job'.key = job.key) (process : job'.process = job.process)
    (same : job'.progress = job.progress ∧ job'.retries = job.retries ∨ job'.progress = .ended) :
    BudgetInvariant processes m id (s.setJob i job') :=
  inv.move here key process fun _ counts => counts.keep same

/-- A claim call of a job leaves the ledger's budget as it was. -/
theorem BudgetInvariant.asks (lawful : M.Lawful) (sound : M.Sound s.store) (positive : 0 < m)
    (inv : BudgetInvariant processes m id s) {call : StoreCall} {event : Option M.Event} {seen : Reply} {store : M.Store}
    (asks : M.Asks s.store call event seen store) (clerical : call.Clerical) (fenced : call.fence ≠ none) :
    BudgetInvariant processes m id (s.asked event store) where
  ledger := by
    intro e held
    obtain ⟨-, ⟨-, -, same⟩ | ⟨l, -, served, -⟩⟩ := lawful.asks sound asks
    · rw [show (s.asked event store).store = store from rfl, same] at held
      exact inv.ledger e held
    · refine served.budgeted clerical ?_ ?_ positive inv.ledger held
      · rintro rfl
        exact fenced rfl
      · rintro route rfl
        exact fenced rfl
  counts := inv.counts

theorem BudgetInvariant.record (lawful : M.Lawful) (worker : WorkerInvariant s)
    (bound : ∀ process, (processes process).resilience.maxAttempts ≤ m) (inv : BudgetInvariant processes m id s)
    {attempt : AttemptObservation} {record : DeliveryAttemptRecord} {event : Option M.Event} {seen : Reply}
    {store : M.Store} {now : ℕ} {fraction : ℚ} (here : s.jobs[i]? = some job) (running : job.main = .running)
    (observed : job.attempt = .observed attempt)
    (made : makeDeliveryAttemptRecord job.deliveryId job.claim (withDecision attempt
      (job.decision (processes job.process).resilience now fraction attempt.outcome)) job.trace = some record)
    (asks : M.Asks s.store (.recordAttempt record) event seen store) :
    BudgetInvariant processes m id ((s.asked event store).setJob i
      (job.appended attempt (job.decision (processes job.process).resilience now fraction attempt.outcome) seen)) := by
  have member := List.mem_of_getElem? here
  have flying : job.progress = .flying attempt.ordinal := by
    simp only [Job.progress, running, observed]
  obtain ⟨delivery, -, -, generation, -, decision, -⟩ := makeDeliveryAttemptRecord_eq_some made
  have recorded : BudgetInvariant processes m id (s.asked event store) := by
    refine ⟨?_, inv.counts⟩
    intro e held
    obtain ⟨-, ⟨-, -, same⟩ | ⟨l, -, served, -⟩⟩ := lawful.asks worker.sound asks
    · rw [show (s.asked event store).store = store from rfl, same] at held
      exact inv.ledger e held
    · refine served.budgeted_record inv.ledger ?_ held
      intro e before about holds
      have counts := inv.counts job member (delivery.symm.trans about)
      have most := bound job.process
      obtain ⟨e', tied⟩ := worker.consistent.tied job member
      obtain rfl : e = e' := by
        rw [← about, delivery, tied.held] at before
        exact (Option.some.inj before).symm
      have current : (job.claim.generation : ℕ) = e.generation := by
        rw [← generation]
        exact Entry.holds_generation (worker.consistent.fenced _ _ before) holds
      have progress := tied.progress
      unfold Job.Counts at counts
      rw [flying] at counts progress
      have length := progress.2 current
      rw [counts.1] at length
      constructor
      · have room := counts.2
        omega
      · intro scheduled
        have room := job.retries_of_retryScheduled (decision.symm.trans scheduled)
        omega
  refine recorded.move here (job.appended_key _ _ _) (job.appended_process _ _ _) ?_
  intro _ counts
  exact counts.appended (worker.consistent.sane job member) running observed seen

/-- Jobs made from what a call hands out start with the first ordinal and a full budget. -/
theorem BudgetInvariant.environment (lawful : M.Lawful) (sound : M.Sound s.store) (positive : 0 < m)
    (inv : BudgetInvariant processes m id s) {l : M.Event} {store : M.Store} (process : ℕ) (fallback : DestinationId)
    (unfenced : (M.call l.call).fence = none) (unsaved : ∀ delivery, M.call l.call ≠ .save delivery)
    (retry : M.call l.call ≠ .retryDeadLetter id) (repair : ∀ route, M.call l.call ≠ .repairDeadLetter id route)
    (untried : ∀ c ∈ handedOut l.reply, c.delivery.id = id → ∀ e, M.view s.store id = some e → e.attempts = [])
    (step : M.system.step s.store l store) : BudgetInvariant processes m id
      { s.asked (some l) store with jobs := s.jobs ++ (handedOut l.reply).map (Job.issued process fallback) } := by
  obtain ⟨-, served⟩ := lawful.step sound step
  constructor
  · intro e held
    exact served.budgeted (clerical_of_unfenced unfenced unsaved) retry repair positive inv.ledger held
  · intro job member about
    rcases List.mem_append.1 member with before | opened
    · exact inv.counts job before about
    · obtain ⟨c, handed, rfl⟩ := List.mem_map.1 opened
      change c.delivery.id = id at about
      rw [← handedOut_answer] at handed
      obtain ⟨e, -, -, -, next, attempts⟩ := served.handsOut handed
      rw [handedOut_answer] at handed
      have empty : e.attempts = [] := by
        rw [attempts]
        cases before : M.view s.store c.delivery.id with
        | none => rfl
        | some e₀ =>
          rw [about] at before
          exact untried c handed about e₀ before
      refine ⟨?_, (processes process).resilience.maxAttempts.pos⟩
      show c.nextAttemptOrdinal = 1
      rw [next, Entry.nextOrdinal, empty]
      rfl

/-- **Every step that hands out untried deliveries only keeps the invariant.** -/
theorem BudgetInvariant.step (lawful : M.Lawful) (worker : WorkerInvariant s) (positive : 0 < m)
    (bound : ∀ process, (processes process).resilience.maxAttempts ≤ m) (inv : BudgetInvariant processes m id s)
    {l : WorkerLabel M} (unrecovered : Unrecovered id l) (untried : HandedOutUntried id s l)
    (step : WorkerStep M processes s l s') : BudgetInvariant processes m id s' := by
  cases step with
  | @environment l store process fallback unfenced unsaved step =>
    obtain ⟨retry, repair⟩ := unrecovered l rfl
    exact inv.environment lawful worker.sound positive process fallback unfenced unsaved retry repair
      (untried l rfl) step
  | drop here queued asks =>
    exact (inv.asks lawful worker.sound positive asks (clerical_releaseClaim _ _) (by exact nofun)).keep here rfl rfl
      (.inr rfl)
  | start trace startedAt here queued =>
    have sane := worker.consistent.sane _ (List.mem_of_getElem? here)
    exact inv.keep here rfl rfl (.inl ⟨Job.start_progress sane queued, rfl⟩)
  | @renew i job event seen store here running renewing asks =>
    have key : (job.renewed seen).key = job.key := by
      obtain ⟨-, ⟨-, ⟨failure, rfl⟩, -⟩ | ⟨l, -, served, rfl | ⟨failure, rfl⟩⟩⟩ := lawful.asks worker.sound asks
      · exact job.renewed_error failure
      · exact job.renewed_key served
      · exact job.renewed_error failure
    refine (inv.asks lawful worker.sound positive asks (clerical_renewClaim _ _ _) (by exact nofun)).keep here key
      (job.renewed_process seen) ?_
    rcases job.renewed_progress seen with ⟨same, -⟩ | ended
    · exact .inl ⟨same, job.renewed_retries seen⟩
    · exact .inr ended
  | @send i job here running leased ready =>
    have moved : BudgetInvariant processes m id (s.setJob i
        { job with attempt := .sending job.nextOrdinal, nextOrdinal := job.nextOrdinal + 1 }) := by
      refine inv.move here rfl rfl ?_
      intro _ counts
      simp only [Job.Counts, Job.progress, running, ready] at counts ⊢
      exact counts
    exact ⟨moved.ledger, moved.counts⟩
  | @observe i job ordinal startedAt completedAt outcome here running sending =>
    refine inv.keep here rfl rfl (.inl ⟨?_, rfl⟩)
    simp only [Job.progress, running, sending]
  | record now fraction here running observed made asks =>
    exact inv.record lawful worker bound here running observed made asks
  | unrecordable now fraction here running observed throws =>
    exact inv.keep here (Job.appended_key _ _ _) (Job.appended_process _ _ _ _) (.inr rfl)
  | @publish i job result here running recorded room =>
    have moved : BudgetInvariant processes m id (s.setJob i
        { job with attempt := .finished result, main := .succeeding result }) := inv.keep here rfl rfl (.inr rfl)
    exact ⟨moved.ledger, moved.counts⟩
  | lose here running failed => exact inv.keep here rfl rfl (.inr rfl)
  | release here failing asks =>
    exact (inv.asks lawful worker.sound positive asks (clerical_releaseClaim _ _) (by exact nofun)).keep here rfl rfl
      (.inr rfl)
  | complete here succeeding => exact inv.keep here rfl rfl (.inr rfl)
  | interrupt here unanswered => exact inv.keep here rfl rfl (.inr rfl)
  | crash here => exact inv.keep here rfl rfl (.inr rfl)
  | subscribers process move => exact ⟨inv.ledger, inv.counts⟩

theorem BudgetInvariant.init (lawful : M.Lawful) : BudgetInvariant processes m id (workerSystem M processes).init where
  ledger := by
    intro e held
    rw [show M.view (workerSystem M processes).init.store = _ from lawful.view_empty] at held
    cases held
  counts := List.forall_mem_nil _

end Run

/-! ## Two claims of one delivery -/

namespace Sample

/-- The request of the first claim times out. -/
def unanswered : Job := { flying with attempt := .observed ⟨1, 0, 0, .timedOut destination⟩ }

def unheard : WorkerState machine := sent.setJob 0 unanswered

def firstRecord : DeliveryAttemptRecord :=
  { attemptRecord with
    outcome := .timedOut, decision := .retryScheduled, status := none, retryDelayMillis := some 0, consistent := by decide }

def waiting : Job :=
  { unanswered with
    history := [⟨1, 0, 0, .timedOut destination, .retryScheduled 0⟩], retries := 1, attempt := .ready }

def recordingFirst : StoreCall := .recordAttempt firstRecord

def postponed : WorkerState machine := (unheard.call 1 recordingFirst).setJob 0 waiting

/-- The process stops, and another claims the delivery when the lease has run out. -/
def abandoned : WorkerState machine := postponed.setJob 0 { waiting with main := .gone }

def reclaiming : StoreCall := .claimPending worker destination 1 1000

def secondClaim : DeliveryClaim := ⟨worker, Nat.toPNat' 2, 3000⟩

def secondClaimed : ClaimedDelivery := { claimed with claim := secondClaim, claimLagMillis := 2000, nextAttemptOrdinal := 2 }

def second : Job := Job.issued 0 destination secondClaimed

def reclaimed : WorkerState machine :=
  { abandoned.call 2000 reclaiming with jobs := abandoned.jobs ++ [second] }

def restarted : WorkerState machine := reclaimed.setJob 1 (second.start resilience untraced 2000000000)

def secondRenewal : StoreCall := .renewClaim delivery secondClaim 1000

def secondLeased : Job := { second.start resilience untraced 2000000000 with renewal := .looping }

def leasedAgain : WorkerState machine := (restarted.call 2000 secondRenewal).setJob 1 secondLeased

def secondFlying : Job := { secondLeased with attempt := .sending 2, nextOrdinal := 3 }

def resent : WorkerState machine :=
  { leasedAgain.setJob 1 secondFlying with sent := [(delivery, claim.generation), (delivery, secondClaim.generation)] }

def secondUnanswered : Job :=
  { secondFlying with attempt := .observed ⟨2, 2000000000, 2000000010, .timedOut destination⟩ }

def unheardAgain : WorkerState machine := resent.setJob 1 secondUnanswered

def secondRecord : DeliveryAttemptRecord :=
  { firstRecord with
    ordinal := Nat.toPNat' 2, claimGeneration := secondClaim.generation, startedAtMillis := 2000, completedAtMillis := 2000, consistent := by decide }

def recordingSecond : StoreCall := .recordAttempt secondRecord

def secondWaiting : Job :=
  { secondUnanswered with
    history := [⟨2, 2000, 2000, .timedOut destination, .retryScheduled 0⟩], retries := 1, attempt := .ready }

def postponedAgain : WorkerState machine := (unheardAgain.call 2000 recordingSecond).setJob 1 secondWaiting

theorem unhears : WorkerStep machine processes sent (.observe 0) unheard := .observe 0 0 _ rfl rfl rfl

theorem postpones : WorkerStep machine processes unheard
    (.record 0 (some (machine.event 1 unheard.store recordingFirst)) (.ok .done)) postponed := by
  have done : (machine.exec 1 unheard.store recordingFirst).1 = .ok .done := by decide +kernel
  have asks := machine.asks_event (c := recordingFirst) 1 unheard.store rfl
  rw [done] at asks
  have here : unheard.jobs[0]? = some unanswered := rfl
  have step := @WorkerStep.record machine processes _ 0 _ _ firstRecord _ _ _ 0 0 here rfl rfl (by decide +kernel) asks
  have decided : unanswered.decision (processes unanswered.process).resilience 0 0 (.timedOut destination) =
      .retryScheduled 0 := by decide +kernel
  rw [decided] at step
  exact step

theorem abandons : WorkerStep machine processes postponed (.crash 0) abandoned := .crash rfl

theorem reclaims : WorkerStep machine processes abandoned
    (.environment (machine.event 2000 abandoned.store reclaiming)) reclaimed := by
  have step : machine.system.step abandoned.store _ _ :=
    StoreMachine.step_event (c := reclaiming) 2000 (by exact nofun)
  have claims := @WorkerStep.environment machine processes abandoned _ _ 0 destination rfl (by exact fun _ => nofun) step
  have handed : handedOut (machine.event 2000 abandoned.store reclaiming).reply = [secondClaimed] := by decide +kernel
  rw [handed] at claims
  exact claims

theorem restarts : WorkerStep machine processes reclaimed (.start 1) restarted := .start untraced 2000000000 rfl rfl

theorem renewsAgain : WorkerStep machine processes restarted
    (.renew 1 (some (machine.event 2000 restarted.store secondRenewal)) (.ok (.renewed secondClaim))) leasedAgain := by
  have renewed : (machine.exec 2000 restarted.store secondRenewal).1 = .ok (.renewed secondClaim) := by decide +kernel
  have asks := machine.asks_event (c := secondRenewal) 2000 restarted.store rfl
  rw [renewed] at asks
  have here : restarted.jobs[1]? = some (second.start resilience untraced 2000000000) := rfl
  exact @WorkerStep.renew machine processes restarted 1 _ _ _ _ here rfl (by exact fun failure same => nomatch same) asks

theorem resends : WorkerStep machine processes leasedAgain (.send 1) resent := by
  have here : leasedAgain.jobs[1]? = some secondLeased := rfl
  exact @WorkerStep.send machine processes leasedAgain 1 _ here rfl (by exact nofun) rfl

theorem unhearsAgain : WorkerStep machine processes resent (.observe 1) unheardAgain := by
  have here : resent.jobs[1]? = some secondFlying := rfl
  exact @WorkerStep.observe machine processes resent 1 _ _ 2000000000 2000000010 (.timedOut destination) here rfl rfl

theorem postponesAgain : WorkerStep machine processes unheardAgain
    (.record 1 (some (machine.event 2000 unheardAgain.store recordingSecond)) (.ok .done)) postponedAgain := by
  have done : (machine.exec 2000 unheardAgain.store recordingSecond).1 = .ok .done := by decide +kernel
  have asks := machine.asks_event (c := recordingSecond) 2000 unheardAgain.store rfl
  rw [done] at asks
  have here : unheardAgain.jobs[1]? = some secondUnanswered := rfl
  have step := @WorkerStep.record machine processes _ 1 _ _ secondRecord _ _ _ 2000000010 0 here rfl rfl
    (by decide +kernel) asks
  have decided : secondUnanswered.decision (processes secondUnanswered.process).resilience 2000000010 0
      (.timedOut destination) = .retryScheduled 0 := by decide +kernel
  rw [decided] at step
  exact step

/-- The calls of the run are neither retries nor repairs of the delivery. -/
theorem unrecovered {l : WorkerLabel machine} {nowMillis : ℕ} {db : machine.Store} {c : StoreCall}
    (calls : l.event = some (machine.event nowMillis db c)) (retry : c ≠ .retryDeadLetter delivery)
    (repair : ∀ route, c ≠ .repairDeadLetter delivery route) : Unrecovered delivery l := by
  intro event same
  obtain rfl := Option.some.inj (calls.symm.trans same)
  exact ⟨retry, repair⟩

def Budgeted (s : WorkerState machine) (l : WorkerLabel machine) : Prop :=
  Unrecovered delivery l ∧ HandedOutUntried delivery s l

theorem budgeted_of_silent {s : WorkerState machine} {l : WorkerLabel machine} (silent : l.event = none) :
    Budgeted s l := by
  constructor
  · intro event same
    rw [silent] at same
    cases same
  · intro event same
    rw [silent] at same
    cases same

theorem budgeted_of_fenced {s : WorkerState machine} {l : WorkerLabel machine} {nowMillis : ℕ} {db : machine.Store}
    {c : StoreCall} (calls : l.event = some (machine.event nowMillis db c)) (fenced : c.fence ≠ none)
    (nothing : handedOut (machine.event nowMillis db c).reply = []) : Budgeted s l := by
  constructor
  · refine unrecovered calls ?_ ?_
    · intro same
      rw [same] at fenced
      exact fenced rfl
    · intro route same
      rw [same] at fenced
      exact fenced rfl
  · intro event same c handed
    obtain rfl := Option.some.inj (calls.symm.trans same)
    rw [nothing] at handed
    cases handed

theorem postponed_reachable : ((workerSystem machine processes).restrict Budgeted).Reachable postponed := by
  have opening : Budgeted (workerSystem machine processes).init (.environment (machine.event 0 machine.empty creation)) := by
    refine ⟨unrecovered rfl (by exact nofun) (by exact fun _ => nofun), ?_⟩
    intro event _ c _ _ e held
    rw [show machine.view (workerSystem machine processes).init.store = _ from memory_lawful.view_empty] at held
    cases held
  have renewing : Budgeted started (.renew 0 (some (machine.event 0 started.store renewal)) (.ok (.renewed claim))) :=
    budgeted_of_fenced rfl (by exact nofun) (by decide +kernel)
  have recording : Budgeted unheard (.record 0 (some (machine.event 1 unheard.store recordingFirst)) (.ok .done)) :=
    budgeted_of_fenced rfl (by exact nofun) (by decide +kernel)
  have start : ((workerSystem machine processes).restrict Budgeted).Reachable (workerSystem machine processes).init := .init
  exact (((((start.step ⟨opens, opening⟩).step ⟨starts, budgeted_of_silent rfl⟩).step ⟨renews, renewing⟩).step
    ⟨sends, budgeted_of_silent rfl⟩).step ⟨unhears, budgeted_of_silent rfl⟩).step ⟨postpones, recording⟩

theorem postponedAgain_reachable :
    ((workerSystem machine processes).restrict fun _ l => Unrecovered delivery l).Reachable postponedAgain := by
  have first : ((workerSystem machine processes).restrict fun _ l => Unrecovered delivery l).Reachable postponed :=
    postponed_reachable.weaken fun _ _ budgeted => budgeted.1
  have silently {l : WorkerLabel machine} (silent : l.event = none) : Unrecovered delivery l :=
    (budgeted_of_silent (s := postponed) silent).1
  have reclaiming : Unrecovered delivery (.environment (machine.event 2000 abandoned.store reclaiming)) :=
    unrecovered rfl (by exact nofun) (by exact fun _ => nofun)
  have renewing : Unrecovered delivery
      (.renew 1 (some (machine.event 2000 restarted.store secondRenewal)) (.ok (.renewed secondClaim))) :=
    unrecovered rfl (by exact nofun) (by exact fun _ => nofun)
  have recording : Unrecovered delivery
      (.record 1 (some (machine.event 2000 unheardAgain.store recordingSecond)) (.ok .done)) :=
    unrecovered rfl (by exact nofun) (by exact fun _ => nofun)
  exact ((((((first.step ⟨abandons, silently rfl⟩).step ⟨reclaims, reclaiming⟩).step ⟨restarts, silently rfl⟩).step
    ⟨renewsAgain, renewing⟩).step ⟨resends, silently rfl⟩).step ⟨unhearsAgain, silently rfl⟩).step
    ⟨postponesAgain, recording⟩

end Sample

/-- **The budget of a claim is the budget of the delivery**, in every run that hands the delivery out only while no
attempt of it is recorded. -/
theorem delivery_within_budget (adapter : Adapter) (processes : ℕ → WorkerProcess) (m : ℕ+)
    (bound : ∀ process, (processes process).resilience.maxAttempts ≤ m) (id : DeliveryId)
    {s : WorkerState adapter.intake.toStoreMachine}
    (reachable : ((workerSystem adapter.intake.toStoreMachine processes).restrict fun s l =>
      Unrecovered id l ∧ HandedOutUntried id s l).Reachable s) {e : Entry}
    (held : adapter.intake.view s.store id = some e) : e.WithinBudget m := by
  have lawful := adapter.lawful.store
  have inv : BudgetInvariant processes m id s := by
    refine reachable.invariant_restrict (BudgetInvariant processes m id) (.init lawful) ?_
    rintro s l s' before ⟨unrecovered, untried⟩ inv step
    exact inv.step lawful (.reachable lawful before) m.pos bound unrecovered untried step
  exact (inv.ledger e held).withinBudget

theorem delivery_within_budget_postponed :
    ∃ e, memory.view Sample.postponed.store Sample.delivery = some e ∧ e.WithinBudget 2 := by
  have held : (memory.view Sample.postponed.store Sample.delivery).isSome = true := by decide +kernel
  obtain ⟨e, held⟩ := Option.isSome_iff_exists.1 held
  exact ⟨e, held, delivery_within_budget .memory Sample.processes 2 (fun _ => le_refl _) Sample.delivery
    Sample.postponed_reachable held⟩

/-- **A reclaimed delivery overspends**: with two attempts allowed, two retryable ones are recorded, by two claims,
and the delivery is still pending. -/
theorem delivery_overspends : ¬ ∀ (adapter : Adapter) (processes : ℕ → WorkerProcess) (m : ℕ+)
    (_ : ∀ process, (processes process).resilience.maxAttempts = m) (id : DeliveryId)
    (s : WorkerState adapter.intake.toStoreMachine),
    ((workerSystem adapter.intake.toStoreMachine processes).restrict fun _ l => Unrecovered id l).Reachable s →
      ∀ e, adapter.intake.view s.store id = some e → e.WithinBudget m := by
  intro always
  have spent : (memory.view Sample.postponedAgain.store Sample.delivery).map (fun e =>
      (e.attempts.countP (fun a => a.outcome.retryable?), e.delivery.state)) = some (2, .pending) := by decide +kernel
  obtain ⟨e, held, spent⟩ := Option.map_eq_some_iff.1 spent
  obtain ⟨two, pending⟩ := Prod.mk.inj spent
  have budget := always .memory Sample.processes 2 (fun _ => rfl) Sample.delivery _ Sample.postponedAgain_reachable e held
  exact budget.settled two.ge pending

end Relay
