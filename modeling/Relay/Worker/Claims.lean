import Relay.Ledger.Claims
import Relay.Worker.Outcome

/-!
# A job and its claim (`src/deliveryWorker.ts`, `src/deliverySupervisor.ts`)

The ways a claim can go once it is offered: the queue may refuse it, its submitter then
releases it, hooks may die, and a call may still be on its way when its fiber is gone.
A job that comes to its end leaves no claim behind, unless it was stopped from outside,
or the submitter was while it carried the refused claim; then the lease has to run out.
-/

namespace Relay

/-! ## Paths -/

structure PathState (M : StoreMachine) where
  worker : WorkerState M
  /-- Refused by the full queue; the submitter has yet to release the claim. -/
  refused : ℕ → Bool

inductive PathLabel (M : StoreMachine) where
  | worker (l : WorkerLabel M)
  | refuse (i : ℕ)
  | dismiss (i : ℕ) (event : Option M.Event)
  | abandon (i : ℕ)
  | defect (i : ℕ)
  | late (i : ℕ) (l : M.Event)

/-- The claim a job works under. -/
def Job.holder (job : Job) : DeliveryId × WorkerId × ClaimGeneration :=
  (job.deliveryId, job.claim.ownerId, job.claim.generation)

section Steps

variable (M : StoreMachine) (processes : ℕ → WorkerProcess)

inductive PathStep : PathState M → PathLabel M → PathState M → Prop where
  | worker {s : PathState M} {l : WorkerLabel M} {worker : WorkerState M}
      (queued : ∀ i, l = .start i → s.refused i = false) (undropped : ∀ i event, l ≠ .drop i event)
      (step : WorkerStep M processes s.worker l worker) : PathStep s (.worker l) { s with worker }
  /-- `Queue.offer` finds the queue full. -/
  | refuse {s : PathState M} {i : ℕ} {job : Job} (here : s.worker.jobs[i]? = some job) (queued : job.main = .queued) :
      PathStep s (.refuse i) { s with refused := Function.update s.refused i true }
  /-- The submitter releases the refused claim. -/
  | dismiss {s : PathState M} {i : ℕ} {event : Option M.Event} {worker : WorkerState M} (refused : s.refused i = true)
      (step : WorkerStep M processes s.worker (.drop i event) worker) : PathStep s (.dismiss i event) { s with worker }
  /-- The submitter is interrupted before it releases the refused claim. -/
  | abandon {s : PathState M} {i : ℕ} {job : Job} (here : s.worker.jobs[i]? = some job) (queued : job.main = .queued)
      (refused : s.refused i = true) :
      PathStep s (.abandon i) { s with worker := s.worker.setJob i { job with main := .gone } }
  /-- A hook dies. -/
  | defect {s : PathState M} {i : ℕ} {job : Job} (here : s.worker.jobs[i]? = some job) (running : job.main = .running) :
      PathStep s (.defect i) { s with worker := s.worker.setJob i (job.stop (.store .defect)) }
  /-- A call of the job reaches the store when nobody waits for its answer any more. -/
  | late {s : PathState M} {i : ℕ} {job : Job} {l : M.Event} {f : Fence} {store : M.Store}
      (here : s.worker.jobs[i]? = some job) (fence : (M.call l.call).fence = some f)
      (own : (f.deliveryId, f.ownerId, f.generation) = job.holder) (step : M.system.step s.worker.store l store) :
      PathStep s (.late i l) { s with worker := s.worker.asked (some l) store }

def pathSystem : TransitionSystem (PathState M) (PathLabel M) where
  init := ⟨(workerSystem M processes).init, fun _ => false⟩
  step := PathStep M processes

end Steps

/-- The job whose fibers or whose submitter makes the step. -/
def WorkerLabel.job {M : StoreMachine} : WorkerLabel M → Option ℕ
  | .drop i _ | .start i | .renew i _ _ | .send i | .observe i | .record i _ _ | .unrecordable i | .publish i | .lose i
  | .release i _ | .complete i | .interrupt i | .crash i => some i
  | .environment _ | .subscribers _ => none

def PathLabel.job {M : StoreMachine} : PathLabel M → Option ℕ
  | .worker l => l.job
  | .refuse i | .dismiss i _ | .abandon i | .defect i | .late i _ => some i

/-- Job `i` is not stopped from outside, and its releases reach the store. -/
structure Attended {M : StoreMachine} (i : ℕ) (l : PathLabel M) : Prop where
  running : l ≠ .worker (.crash i)
  released : l ≠ .worker (.release i none)
  dismissed : l ≠ .dismiss i none

/-- The path of the job is over. -/
def Job.Ended (job : Job) : Prop := job.main = .gone ∨ ∃ exit, job.main = .completed exit

/-- No claim is left to release: the last attempt is recorded, or the job has ended. -/
def Job.Done (job : Job) : Prop := job.Committed ∨ (∃ result, job.main = .succeeding result) ∨ job.Ended

/-- The claim of the job is gone from the store for good. -/
abbrev Job.Gone (L : Ledger) (job : Job) : Prop :=
  Relinquished L job.deliveryId job.claim.ownerId job.claim.generation

structure LeavesNoClaim (M : StoreMachine) (processes : ℕ → WorkerProcess) (i : ℕ) : Prop where
  /-- A job keeps the claim it was offered with. -/
  same : ∀ {s s' : PathState M} {labels : List (PathLabel M)} {job : Job},
    (pathSystem M processes).Reachable s → s.worker.jobs[i]? = some job → (pathSystem M processes).Path s labels s' →
    ∃ job', s'.worker.jobs[i]? = some job' ∧ job'.holder = job.holder
  /-- Once the job has ended, its claim is nowhere, and nothing brings it back. -/
  ended : ∀ {s s' : PathState M} {labels : List (PathLabel M)} {job : Job},
    ((pathSystem M processes).restrict fun _ l => Attended i l ∧ l ≠ .abandon i).Reachable s →
    s.worker.jobs[i]? = some job → job.Ended → (pathSystem M processes).Path s labels s' →
    job.Gone (M.view s'.worker.store)
  /-- No step of the job takes another claim away. -/
  others : ∀ {s s' : PathState M} {l : PathLabel M} {job : Job} {id : DeliveryId} {e : Entry} {claim : DeliveryClaim},
    (pathSystem M processes).Reachable s → s.worker.jobs[i]? = some job → (pathSystem M processes).step s l s' →
    l.job = some i → M.view s.worker.store id = some e → e.claim = some claim →
    (id, claim.ownerId, claim.generation) ≠ job.holder → ∃ e', M.view s'.worker.store id = some e' ∧ e'.claim = some claim

/-! ## What a step does to the store -/

section Store

variable {M : StoreMachine} {processes : ℕ → WorkerProcess}

/-- Nothing, or what one served call does. -/
def Moved (L L' : Ledger) : Prop :=
  L' = L ∨ ∃ nowMillis call answer, Served nowMillis L call answer L'

section Moved

variable {L L' : Ledger} {id : DeliveryId} {ownerId : WorkerId} {generation : ClaimGeneration}

theorem Moved.relinquished (moved : Moved L L') (gone : Relinquished L id ownerId generation) :
    Relinquished L' id ownerId generation := by
  obtain rfl | ⟨nowMillis, call, answer, served⟩ := moved
  · exact gone
  · exact served.relinquished gone

theorem Moved.counter_le (moved : Moved L L') (id : DeliveryId) : counter (L id) ≤ counter (L' id) := by
  obtain rfl | ⟨nowMillis, call, answer, served⟩ := moved
  · exact Nat.le_refl _
  · exact served.counter_le id

theorem Moved.fenced (moved : Moved L L') (fenced : L.Fenced) : L'.Fenced := by
  obtain rfl | ⟨nowMillis, call, answer, served⟩ := moved
  · exact fenced
  · exact served.fenced fenced

end Moved

theorem StoreMachine.Lawful.asks_moved (lawful : M.Lawful) {store store' : M.Store} (sound : M.Sound store)
    {call : StoreCall} {event : Option M.Event} {seen : Reply} (asks : M.Asks store call event seen store') :
    M.Sound store' ∧ Moved (M.view store) (M.view store') := by
  obtain ⟨sound', ⟨-, -, same⟩ | ⟨l, -, served, -⟩⟩ := lawful.asks sound asks
  · exact ⟨sound', .inl same⟩
  · exact ⟨sound', .inr ⟨_, _, _, served⟩⟩

theorem WorkerStep.moved (lawful : M.Lawful) {s s' : WorkerState M} {l : WorkerLabel M} (sound : M.Sound s.store)
    (step : WorkerStep M processes s l s') : M.Sound s'.store ∧ Moved (M.view s.store) (M.view s'.store) := by
  cases step with
  | environment process fallback unfenced unsaved step =>
    obtain ⟨sound', served⟩ := lawful.step sound step
    exact ⟨sound', .inr ⟨_, _, _, served⟩⟩
  | drop here queued asks => exact lawful.asks_moved sound asks
  | renew here running renewing asks => exact lawful.asks_moved sound asks
  | record now fraction here running observed made asks => exact lawful.asks_moved sound asks
  | release here failing asks => exact lawful.asks_moved sound asks
  | start | send | observe | unrecordable | publish | lose | complete | interrupt | crash | subscribers =>
    exact ⟨sound, .inl rfl⟩

theorem PathStep.moved (lawful : M.Lawful) {s s' : PathState M} {l : PathLabel M} (sound : M.Sound s.worker.store)
    (step : PathStep M processes s l s') :
    M.Sound s'.worker.store ∧ Moved (M.view s.worker.store) (M.view s'.worker.store) := by
  cases step with
  | worker queued undropped step => exact step.moved lawful sound
  | dismiss refused step => exact step.moved lawful sound
  | late here fence own step =>
    obtain ⟨sound', served⟩ := lawful.step sound step
    exact ⟨sound', .inr ⟨_, _, _, served⟩⟩
  | refuse | abandon | defect => exact ⟨sound, .inl rfl⟩

end Store

/-! ## What a step does to the jobs -/

section Jobs

variable {M : StoreMachine} {processes : ℕ → WorkerProcess} {L' : Ledger}

/-- Where a job stands after a step, given the jobs before it: it was there before, with the same claim, and is done
only if it was or its claim is gone; or it is new. -/
structure JobChange (L' : Ledger) (before : Option Job) (job' : Job) : Prop where
  old : ∀ job, before = some job → job'.holder = job.holder ∧ (job'.Done → job.Done ∨ job.Gone L')
  new : before = none → ¬ job'.Done ∧ (job'.claim.generation : ℕ) ≤ counter (L' job'.deliveryId)

/-- One job is replaced. -/
theorem JobChange.set {jobs : List Job} {k i : ℕ} {job moved job' : Job} (here : jobs[k]? = some job)
    (here' : (jobs.set k moved)[i]? = some job') (holder : moved.holder = job.holder)
    (done : k = i → moved.Done → job.Done ∨ job.Gone L') : JobChange L' jobs[i]? job' := by
  have bound := (List.getElem?_eq_some_iff.1 here).1
  by_cases own : k = i
  · subst own
    rw [List.getElem?_set_self bound, Option.some.injEq] at here'
    subst here'
    constructor
    · intro before same
      rw [here, Option.some.injEq] at same
      subst same
      exact ⟨holder, done rfl⟩
    · intro none
      rw [here] at none
      cases none
  · rw [List.getElem?_set_ne own] at here'
    constructor
    · intro before same
      rw [here', Option.some.injEq] at same
      subst same
      exact ⟨rfl, .inl⟩
    · intro none
      rw [here'] at none
      cases none

/-- No job is touched. -/
theorem JobChange.kept {jobs : List Job} {i : ℕ} {job' : Job} (here' : jobs[i]? = some job') :
    JobChange L' jobs[i]? job' := by
  constructor
  · intro before same
    rw [here', Option.some.injEq] at same
    subst same
    exact ⟨rfl, .inl⟩
  · intro none
    rw [here'] at none
    cases none

/-- New jobs come after the others. -/
theorem JobChange.append {jobs opened : List Job} {i : ℕ} {job' : Job} (here' : (jobs ++ opened)[i]? = some job')
    (fresh : ∀ job ∈ opened, ¬ job.Done ∧ (job.claim.generation : ℕ) ≤ counter (L' job.deliveryId)) :
    JobChange L' jobs[i]? job' := by
  rw [List.getElem?_append] at here'
  split at here'
  · exact .kept here'
  · next beyond =>
    have none : jobs[i]? = none := List.getElem?_eq_none (Nat.le_of_not_lt beyond)
    constructor
    · intro before same
      rw [none] at same
      cases same
    · exact fun _ => fresh job' (List.mem_of_getElem? here')

/-! ### One job -/

section Job

variable {job job' : Job}

/-- The main fiber still has the claim to release. -/
def Job.Active (job : Job) : Prop := job.main = .queued ∨ job.main = .running ∨ ∃ failure, job.main = .failing failure

theorem Job.Done.committed (done : job.Done) (active : job.Active) : job.Committed := by
  obtain committed | ⟨result, succeeding⟩ | gone | ⟨exit, completed⟩ := done
  · exact committed
  · rw [Job.Active, succeeding] at active
    simp at active
  · rw [Job.Active, gone] at active
    simp at active
  · rw [Job.Active, completed] at active
    simp at active

/-- A job that goes on working is done only if it was. -/
theorem Job.Done.before (done : job'.Done) (active : job'.Active) (attempt : job'.attempt = job.attempt) : job.Done := by
  obtain ⟨result, committed⟩ := done.committed active
  rw [attempt] at committed
  exact .inl ⟨result, committed⟩

theorem Job.not_done (active : job.Active) (underway : job.Underway) : ¬ job.Done := by
  intro done
  obtain ⟨result, recorded | finished⟩ := done.committed active
  · exact (underway result).1 recorded
  · exact (underway result).2 finished

theorem Job.renewed_active (running : job.main = .running) (seen : Reply) : (job.renewed seen).Active := by
  unfold renewed
  split
  · exact .inr (.inl running)
  · exact .inr (.inr ⟨_, rfl⟩)
  · split
    · exact .inr (.inr ⟨_, rfl⟩)
    · exact .inr (.inl running)

/-- After a record that was refused or schedules a retry there is a claim to release. -/
theorem Job.appended_done (running : job.main = .running) {attempt observed : AttemptObservation}
    (stage : job.attempt = .observed observed) {decision : DeliveryAttemptDecision} {seen : Reply}
    (done : (job.appended attempt decision seen).Done) :
    decision.tag ≠ .retryScheduled ∧ ∃ value, seen = .ok value := by
  unfold appended at done
  split at done
  · refine absurd done (Job.not_done (.inr (.inr ⟨_, rfl⟩)) ?_)
    intro result
    rw [show Job.attempt _ = _ from stage]
    exact ⟨nofun, nofun⟩
  · next value =>
    split at done
    · exact absurd done (Job.not_done (.inr (.inl running)) fun _ => ⟨nofun, nofun⟩)
    · exact ⟨nofun, value, rfl⟩
    · exact ⟨nofun, value, rfl⟩

theorem Job.appended_holder (job : Job) (attempt : AttemptObservation) (decision : DeliveryAttemptDecision)
    (seen : Reply) : (job.appended attempt decision seen).holder = job.holder := by
  obtain ⟨-, id, claim⟩ := job.appended_renewal attempt decision seen
  rw [holder, holder, id, claim]

theorem Job.renewed_error_holder (job : Job) (failure : Failure) : (job.renewed (.error failure)).holder = job.holder := by
  show (if job.renewal = .initial then _ else _ : Job).holder = _
  split <;> rfl

/-- A renewal keeps the owner and the generation of the claim. -/
theorem Job.renewed_holder {M : StoreMachine} (lawful : M.Lawful) {store store' : M.Store} (sound : M.Sound store)
    {lease : Number} {event : Option M.Event} {seen : Reply}
    (asks : M.Asks store (.renewClaim job.deliveryId job.claim lease) event seen store') :
    (job.renewed seen).holder = job.holder := by
  cases seen with
  | error failure => exact job.renewed_error_holder failure
  | ok value =>
    obtain ⟨-, ⟨-, ⟨failure, failed⟩, -⟩ | ⟨l, -, served, same | ⟨failure, failed⟩⟩⟩ := lawful.asks sound asks
    · cases failed
    · rw [← same] at served
      obtain ⟨expires, rfl⟩ := Served.renewClaim_ok served
      rfl
    · cases failed

end Job

/-! ### All jobs -/

/-- What carries the claim of job `i` along. -/
structure ClaimInvariant (i : ℕ) (s : PathState M) : Prop where
  sound : M.Sound s.worker.store
  fenced : (M.view s.worker.store).Fenced
  issued : ∀ job, s.worker.jobs[i]? = some job →
    (job.claim.generation : ℕ) ≤ counter (M.view s.worker.store job.deliveryId)
  gone : ∀ job, s.worker.jobs[i]? = some job → job.Done → job.Gone (M.view s.worker.store)

/-- A release that reaches the store takes the claim away. -/
theorem released_gone (lawful : M.Lawful) {store store' : M.Store} {job : Job} (sound : M.Sound store)
    (fenced : (M.view store).Fenced) (issued : (job.claim.generation : ℕ) ≤ counter (M.view store job.deliveryId))
    {event : Option M.Event} {seen : Reply}
    (asks : M.Asks store (.releaseClaim job.deliveryId job.claim) event seen store') (reaches : event ≠ none) :
    job.Gone (M.view store') := by
  obtain ⟨-, ⟨none, -⟩ | ⟨l, -, served, -⟩⟩ := lawful.asks sound asks
  · exact absurd none reaches
  · exact served.releaseClaim_relinquished fenced issued

/-- The record of a last attempt takes the claim away. -/
theorem recorded_gone (lawful : M.Lawful) {store store' : M.Store} {job : Job} (sound : M.Sound store)
    (fenced : (M.view store).Fenced) {attempt : DeliveryAttempt} {record : DeliveryAttemptRecord}
    (made : makeDeliveryAttemptRecord job.deliveryId job.claim attempt job.trace = some record)
    (last : attempt.decision.tag ≠ .retryScheduled) {event : Option M.Event} {value : StoreValue}
    (asks : M.Asks store (.recordAttempt record) event (.ok value) store') : job.Gone (M.view store') := by
  obtain ⟨named, -, owner, generation, -, decided, -⟩ := makeDeliveryAttemptRecord_eq_some made
  obtain ⟨-, ⟨-, ⟨failure, failed⟩, -⟩ | ⟨l, -, served, same | ⟨failure, failed⟩⟩⟩ := lawful.asks sound asks
  · cases failed
  · rw [← same] at served
    have gone := served.recordAttempt_relinquished fenced (by rw [decided]; exact last)
    rwa [named, owner, generation] at gone
  · cases failed

/-- **One step of the workers**, seen from job `i`. -/
theorem WorkerStep.job (lawful : M.Lawful) {s s' : WorkerState M} {l : WorkerLabel M} {i : ℕ} (sound : M.Sound s.store)
    (fenced : (M.view s.store).Fenced)
    (issued : ∀ job, s.jobs[i]? = some job → (job.claim.generation : ℕ) ≤ counter (M.view s.store job.deliveryId))
    (uncrashed : l ≠ .crash i) (released : l ≠ .release i none) (dismissed : l ≠ .drop i none)
    (step : WorkerStep M processes s l s') {job' : Job} (here' : s'.jobs[i]? = some job') :
    JobChange (M.view s'.store) s.jobs[i]? job' := by
  cases step with
  | environment process fallback unfenced unsaved step =>
    refine .append here' ?_
    intro job opened
    obtain ⟨c, member, rfl⟩ := List.mem_map.1 opened
    obtain ⟨-, served⟩ := lawful.step sound step
    rw [← handedOut_answer] at member
    exact ⟨Job.not_done (.inl rfl) fun _ => ⟨nofun, nofun⟩, served.handedOut_issued member⟩
  | drop here queued asks =>
    refine .set here here' rfl ?_
    rintro rfl -
    refine .inr (released_gone lawful sound fenced (issued _ here) asks ?_)
    rintro rfl
    exact dismissed rfl
  | start trace startedAt here queued =>
    exact .set here here' rfl fun _ done => .inl (done.before (.inr (.inl rfl)) rfl)
  | @renew k job event seen store here running renewing asks =>
    refine .set here here' (Job.renewed_holder lawful sound asks) ?_
    intro _ done
    exact .inl (done.before (Job.renewed_active running seen) (job.renewed_attempt seen))
  | send here running leased ready =>
    exact .set here here' rfl fun _ done => absurd done (Job.not_done (.inr (.inl running)) fun _ => ⟨nofun, nofun⟩)
  | observe startedAt completedAt outcome here running sending =>
    exact .set here here' rfl fun _ done => absurd done (Job.not_done (.inr (.inl running)) fun _ => ⟨nofun, nofun⟩)
  | record now fraction here running observed made asks =>
    refine .set here here' (Job.appended_holder _ _ _ _) ?_
    intro _ done
    obtain ⟨last, value, rfl⟩ := Job.appended_done running observed done
    exact .inr (recorded_gone lawful sound fenced made last asks)
  | unrecordable now fraction here running observed throws =>
    refine .set here here' (Job.appended_holder _ _ _ _) ?_
    intro _ done
    obtain ⟨-, value, refused⟩ := Job.appended_done running observed done
    cases refused
  | publish here running recorded room =>
    exact .set here here' rfl fun _ _ => .inl (.inl ⟨_, .inl recorded⟩)
  | lose here running failed =>
    exact .set here here' rfl fun _ done => .inl (done.before (.inr (.inr ⟨_, rfl⟩)) rfl)
  | release here failing asks =>
    refine .set here here' rfl ?_
    rintro rfl -
    refine .inr (released_gone lawful sound fenced (issued _ here) asks ?_)
    rintro rfl
    exact released rfl
  | complete here succeeding => exact .set here here' rfl fun _ _ => .inl (.inr (.inl ⟨_, succeeding⟩))
  | interrupt here unanswered =>
    exact .set here here' rfl fun _ done => .inl (done.before (.inr (.inr ⟨_, rfl⟩)) rfl)
  | crash here =>
    refine .set here here' rfl ?_
    rintro rfl
    exact absurd rfl uncrashed
  | subscribers process move => exact .kept here'

/-- **One step of the paths**, seen from job `i`. -/
theorem PathStep.job (lawful : M.Lawful) {s s' : PathState M} {l : PathLabel M} {i : ℕ} (inv : ClaimInvariant i s)
    (attended : Attended i l) (carried : l ≠ .abandon i) (step : PathStep M processes s l s') {job' : Job}
    (here' : s'.worker.jobs[i]? = some job') : JobChange (M.view s'.worker.store) s.worker.jobs[i]? job' := by
  cases step with
  | worker queued undropped step =>
    refine step.job lawful inv.sound inv.fenced inv.issued ?_ ?_ (undropped i none) here'
    · rintro rfl
      exact attended.running rfl
    · rintro rfl
      exact attended.released rfl
  | dismiss refused step =>
    refine step.job lawful inv.sound inv.fenced inv.issued (by exact nofun) (by exact nofun) ?_ here'
    intro same
    cases same
    exact attended.dismissed rfl
  | abandon here queued refused =>
    refine .set here here' rfl ?_
    rintro rfl
    exact absurd rfl carried
  | defect here running =>
    exact .set here here' rfl fun _ done => .inl (done.before (.inr (.inr ⟨_, rfl⟩)) rfl)
  | refuse | late => exact .kept here'

theorem holder_set {jobs : List Job} {k i : ℕ} {job before moved : Job} (here : jobs[i]? = some job)
    (there : jobs[k]? = some before) (same : moved.holder = before.holder) :
    ∃ job', (jobs.set k moved)[i]? = some job' ∧ job'.holder = job.holder := by
  by_cases own : k = i
  · subst own
    rw [here, Option.some.injEq] at there
    subst there
    exact ⟨moved, List.getElem?_set_self (List.getElem?_eq_some_iff.1 here).1, same⟩
  · exact ⟨job, by rw [List.getElem?_set_ne own, here], rfl⟩

/-- A step keeps every job, with its claim. -/
theorem WorkerStep.holder (lawful : M.Lawful) {s s' : WorkerState M} {l : WorkerLabel M} {i : ℕ} {job : Job}
    (sound : M.Sound s.store) (step : WorkerStep M processes s l s') (here : s.jobs[i]? = some job) :
    ∃ job', s'.jobs[i]? = some job' ∧ job'.holder = job.holder := by
  cases step with
  | environment process fallback unfenced unsaved step =>
    exact ⟨job, by rw [List.getElem?_append_left (List.getElem?_eq_some_iff.1 here).1, here], rfl⟩
  | renew there running renewing asks => exact holder_set here there (Job.renewed_holder lawful sound asks)
  | record now fraction there running observed made asks => exact holder_set here there (Job.appended_holder _ _ _ _)
  | unrecordable now fraction there running observed throws =>
    exact holder_set here there (Job.appended_holder _ _ _ _)
  | drop there | start trace startedAt there | send there | observe startedAt completedAt outcome there | publish there
  | lose there | release there | complete there | interrupt there | crash there => exact holder_set here there rfl
  | subscribers => exact ⟨job, here, rfl⟩

theorem PathStep.holder (lawful : M.Lawful) {s s' : PathState M} {l : PathLabel M} {i : ℕ} {job : Job}
    (sound : M.Sound s.worker.store) (step : PathStep M processes s l s') (here : s.worker.jobs[i]? = some job) :
    ∃ job', s'.worker.jobs[i]? = some job' ∧ job'.holder = job.holder := by
  cases step with
  | worker queued undropped step => exact step.holder lawful sound here
  | dismiss refused step => exact step.holder lawful sound here
  | abandon there | defect there => exact holder_set here there rfl
  | refuse | late => exact ⟨job, here, rfl⟩

end Jobs

/-! ## Runs -/

section Runs

variable {M : StoreMachine} {processes : ℕ → WorkerProcess} {i : ℕ} {s s' : PathState M} {l : PathLabel M}
  {labels : List (PathLabel M)} {job : Job}

theorem Job.gone_congr {job' : Job} {L : Ledger} (same : job'.holder = job.holder) (gone : job.Gone L) : job'.Gone L := by
  simp only [Job.holder, Prod.mk.injEq] at same
  obtain ⟨id, owner, generation⟩ := same
  rwa [Job.Gone, id, owner, generation]

theorem ClaimInvariant.init (lawful : M.Lawful) : ClaimInvariant i (pathSystem M processes).init where
  sound := lawful.sound_empty
  fenced := by
    show (M.view M.empty).Fenced
    rw [lawful.view_empty]
    intro id e held
    cases held
  issued := by
    intro job here
    cases (List.getElem?_nil).symm.trans here
  gone := by
    intro job here
    cases (List.getElem?_nil).symm.trans here

/-- **Every step of an attended job keeps the invariant.** -/
theorem ClaimInvariant.step (lawful : M.Lawful) (inv : ClaimInvariant i s) (attended : Attended i l)
    (carried : l ≠ .abandon i) (step : PathStep M processes s l s') : ClaimInvariant i s' := by
  obtain ⟨sound, moved⟩ := step.moved lawful inv.sound
  refine ⟨sound, moved.fenced inv.fenced, ?_, ?_⟩
  · intro job' here'
    have stood := step.job lawful inv attended carried here'
    cases here : s.worker.jobs[i]? with
    | none => exact (stood.new here).2
    | some job =>
      have same := (stood.old job here).1
      simp only [Job.holder, Prod.mk.injEq] at same
      rw [same.1, same.2.2]
      exact (inv.issued job here).trans (moved.counter_le _)
  · intro job' here' done
    have stood := step.job lawful inv attended carried here'
    cases here : s.worker.jobs[i]? with
    | none => exact absurd done (stood.new here).1
    | some job =>
      obtain ⟨same, before⟩ := stood.old job here
      refine Job.gone_congr same ?_
      rcases before done with done | gone
      · exact moved.relinquished (inv.gone job here done)
      · exact gone

theorem path_sound (lawful : M.Lawful) (sound : M.Sound s.worker.store) (path : (pathSystem M processes).Path s labels s') :
    M.Sound s'.worker.store :=
  path.preserves (fun s => M.Sound s.worker.store) sound fun _ _ _ sound step => (step.moved lawful sound).1

theorem sound_of_reachable (lawful : M.Lawful) (reachable : (pathSystem M processes).Reachable s) :
    M.Sound s.worker.store := by
  obtain ⟨labels, run⟩ := reachable
  exact path_sound lawful lawful.sound_empty run

/-- What a job's own call leaves alone. -/
theorem StoreMachine.Lawful.asks_claim_kept (lawful : M.Lawful) {store store' : M.Store} (sound : M.Sound store)
    {call : StoreCall} {f : Fence} (fence : call.fence = some f) {event : Option M.Event} {seen : Reply}
    (asks : M.Asks store call event seen store') {id : DeliveryId} {e : Entry} {claim : DeliveryClaim}
    (held : M.view store id = some e) (under : e.claim = some claim)
    (other : (id, claim.ownerId, claim.generation) ≠ (f.deliveryId, f.ownerId, f.generation)) :
    ∃ e', M.view store' id = some e' ∧ e'.claim = some claim := by
  simp only [ne_eq, Prod.mk.injEq] at other
  obtain ⟨-, ⟨-, -, same⟩ | ⟨l, -, served, -⟩⟩ := lawful.asks sound asks
  · exact ⟨e, by rw [same, held], under⟩
  · exact served.claim_kept fence held under other

theorem WorkerStep.others (lawful : M.Lawful) {s s' : WorkerState M} {l : WorkerLabel M} (sound : M.Sound s.store)
    (here : s.jobs[i]? = some job) (step : WorkerStep M processes s l s') (own : l.job = some i) {id : DeliveryId}
    {e : Entry} {claim : DeliveryClaim} (held : M.view s.store id = some e) (under : e.claim = some claim)
    (other : (id, claim.ownerId, claim.generation) ≠ job.holder) :
    ∃ e', M.view s'.store id = some e' ∧ e'.claim = some claim := by
  have self : ∀ {k : ℕ} {job' : Job}, some k = some i → s.jobs[k]? = some job' → job' = job := by
    rintro k job' same there
    cases same
    exact Option.some.inj (there.symm.trans here)
  cases step with
  | environment | subscribers => cases own
  | drop there queued asks =>
    obtain rfl := self own there
    exact lawful.asks_claim_kept sound rfl asks held under other
  | renew there running renewing asks =>
    obtain rfl := self own there
    exact lawful.asks_claim_kept sound rfl asks held under other
  | release there failing asks =>
    obtain rfl := self own there
    exact lawful.asks_claim_kept sound rfl asks held under other
  | record now fraction there running observed made asks =>
    obtain rfl := self own there
    obtain ⟨named, -, owner, generation, -⟩ := makeDeliveryAttemptRecord_eq_some made
    refine lawful.asks_claim_kept sound rfl asks held under ?_
    rw [named, owner, generation]
    exact other
  | start | send | observe | unrecordable | publish | lose | complete | interrupt | crash => exact ⟨e, held, under⟩

end Runs

/-- **A job leaves no claim behind.** -/
theorem job_leaves_no_claim (adapter : Adapter) (processes : ℕ → WorkerProcess) (i : ℕ) :
    LeavesNoClaim adapter.intake.toStoreMachine processes i where
  same := by
    intro s s' labels job reachable here path
    have lawful := adapter.lawful.store
    refine (path.preserves (fun s => adapter.intake.Sound s.worker.store ∧
      ∃ job', s.worker.jobs[i]? = some job' ∧ job'.holder = job.holder)
      ⟨sound_of_reachable lawful reachable, job, here, rfl⟩ ?_).2
    rintro s l s' ⟨sound, job', here', same⟩ step
    obtain ⟨job'', here'', same'⟩ := step.holder lawful sound here'
    exact ⟨(step.moved lawful sound).1, job'', here'', same'.trans same⟩
  ended := by
    intro s s' labels job reachable here ended path
    have lawful := adapter.lawful.store
    have inv : ClaimInvariant i s := by
      refine reachable.invariant_restrict (ClaimInvariant i) (.init lawful) ?_
      rintro s l s' - ⟨attended, carried⟩ inv step
      exact inv.step lawful attended carried step
    refine (path.preserves (fun s => adapter.intake.Sound s.worker.store ∧ job.Gone (adapter.intake.view s.worker.store))
      ⟨inv.sound, inv.gone job here (.inr (.inr ended))⟩ ?_).2
    rintro s l s' ⟨sound, gone⟩ step
    obtain ⟨sound', moved⟩ := step.moved lawful sound
    exact ⟨sound', moved.relinquished gone⟩
  others := by
    intro s s' l job id e claim reachable here step own held under other
    have lawful := adapter.lawful.store
    have sound := sound_of_reachable lawful reachable
    cases step with
    | worker queued undropped step => exact step.others lawful sound here own held under other
    | dismiss refused step => exact step.others lawful sound here own held under other
    | refuse | abandon | defect => exact ⟨e, held, under⟩
    | late there fence holder step =>
      cases own
      obtain rfl := Option.some.inj (there.symm.trans here)
      obtain ⟨-, served⟩ := lawful.step sound step
      refine served.claim_kept fence held under ?_
      rintro ⟨rfl, owner, generation⟩
      rw [owner, generation] at other
      exact other holder

/-! ## A claim that is kept, and one that is left -/

section Plain

variable {M : StoreMachine} {processes : ℕ → WorkerProcess}

/-- No claim is refused. -/
def PathState.unrefused (worker : WorkerState M) : PathState M := ⟨worker, fun _ => false⟩

/-- Neither a release nor the end of a process. -/
def WorkerLabel.plain : WorkerLabel M → Bool
  | .drop .. | .release .. | .crash _ => false
  | .environment _ | .start _ | .renew .. | .send _ | .observe _ | .record .. | .unrecordable _ | .publish _ | .lose _
  | .complete _ | .interrupt _ | .subscribers _ => true

theorem attended_of_plain {l : WorkerLabel M} (i : ℕ) (plain : l.plain = true) : Attended i (.worker l) := by
  constructor
  · rintro ⟨⟩
    cases plain
  · rintro ⟨⟩
    cases plain
  · exact nofun

theorem pathStep_of_plain {worker worker' : WorkerState M} {l : WorkerLabel M} (plain : l.plain = true)
    (step : WorkerStep M processes worker l worker') :
    PathStep M processes (.unrefused worker) (.worker l) (.unrefused worker') := by
  refine .worker (fun _ _ => rfl) ?_ step
  rintro i event rfl
  cases plain

/-- Plain steps are steps of an attended job. -/
theorem reachable_plain {i : ℕ} {worker worker' : WorkerState M} {l : WorkerLabel M}
    (reachable : ((pathSystem M processes).restrict fun _ l => Attended i l ∧ l ≠ .abandon i).Reachable
      (.unrefused worker)) (step : WorkerStep M processes worker l worker') (plain : l.plain = true) :
    ((pathSystem M processes).restrict fun _ l => Attended i l ∧ l ≠ .abandon i).Reachable (.unrefused worker') :=
  reachable.step ⟨pathStep_of_plain plain step, attended_of_plain i plain, nofun⟩

/-- A claim is offered to a full queue, and its submitter goes away. -/
theorem reachable_abandoned {i : ℕ} {worker : WorkerState M} {job : Job} {l : WorkerLabel M}
    (step : WorkerStep M processes (workerSystem M processes).init l worker) (plain : l.plain = true)
    (here : worker.jobs[i]? = some job) (queued : job.main = .queued) :
    ((pathSystem M processes).restrict fun _ l => Attended i l).Reachable
      ⟨worker.setJob i { job with main := .gone }, Function.update (fun _ => false) i true⟩ := by
  have opening : PathStep M processes (pathSystem M processes).init (.worker l) (.unrefused worker) :=
    pathStep_of_plain plain step
  have refusing : PathStep M processes (.unrefused worker) (.refuse i) ⟨worker, Function.update (fun _ => false) i true⟩ :=
    .refuse here queued
  have abandoning : PathStep M processes ⟨worker, Function.update (fun _ => false) i true⟩ (.abandon i)
      ⟨worker.setJob i { job with main := .gone }, Function.update (fun _ => false) i true⟩ :=
    .abandon here queued (by simp)
  have start : ((pathSystem M processes).restrict fun _ l => Attended i l).Reachable (pathSystem M processes).init := .init
  exact ((start.step ⟨opening, attended_of_plain i plain⟩).step ⟨refusing, nofun, nofun, nofun⟩).step
    ⟨abandoning, nofun, nofun, nofun⟩

end Plain

theorem job_leaves_no_claim_completed :
    Relinquished (memory.view Sample.completed.store) Sample.delivery Sample.worker 1 := by
  have start : ((pathSystem Sample.machine Sample.processes).restrict fun _ l => Attended 0 l ∧ l ≠ .abandon 0).Reachable
      (.unrefused (workerSystem Sample.machine Sample.processes).init) := .init
  have recorded := reachable_plain (reachable_plain (reachable_plain (reachable_plain (reachable_plain (reachable_plain start
    Sample.opens rfl) Sample.starts rfl) Sample.renews rfl) Sample.sends rfl) Sample.observes rfl) Sample.records rfl
  have completed := reachable_plain (reachable_plain recorded Sample.publishes rfl) Sample.completes rfl
  have here : Sample.completed.jobs[0]? =
      some { Sample.settled with attempt := .finished Sample.result, main := .completed (.ok Sample.result) } := rfl
  exact (job_leaves_no_claim .memory Sample.processes 0).ended completed here (.inr ⟨_, rfl⟩) .nil

/-- **A refused claim stays when its submitter is interrupted** before it has released it. -/
theorem abandoned_claim_stays : ¬ ∀ (adapter : Adapter) (processes : ℕ → WorkerProcess) (i : ℕ)
    (s : PathState adapter.intake.toStoreMachine) (job : Job),
    ((pathSystem adapter.intake.toStoreMachine processes).restrict fun _ l => Attended i l).Reachable s →
    s.worker.jobs[i]? = some job → job.Ended → job.Gone (adapter.intake.view s.worker.store) := by
  intro always
  have here : Sample.opened.jobs[0]? = some (Job.issued 0 Sample.destination Sample.claimed) := rfl
  have left := always .memory Sample.processes 0 _ _ (reachable_abandoned Sample.opens rfl here rfl)
    (List.getElem?_set_self (by decide)) (.inl rfl)
  have held : (memory.view Sample.opened.store Sample.delivery).bind (·.claim) = some Sample.claim := by decide +kernel
  obtain ⟨e, standing, under⟩ := Option.bind_eq_some_iff.1 held
  exact left.absent e Sample.claim standing under ⟨rfl, rfl⟩

end Relay
