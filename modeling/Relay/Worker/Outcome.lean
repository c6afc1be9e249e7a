import Relay.Worker.Ledger

/-!
# A committed outcome and the caller

The renewal fiber keeps ticking until the job's scope closes, also after the last
attempt was recorded and its claim is gone. A job whose renewal keeps out of that
window answers what was recorded, and publishes it once. One renewal in the window
fails with `ClaimLostError`, wins the race and replaces the recorded result.
-/

namespace Relay

/-- The result of a job's history, when its last attempt was not followed by a retry. -/
def Job.historyResult (job : Job) : Option DeliveryResult :=
  job.history.getLast?.bind fun a =>
    match a.decision with
    | .retryScheduled _ => none
    | .terminal | .exhausted => some (terminalResult job.deliveryId job.destinationId a.outcome job.history)

section Outcome

variable {M : StoreMachine}

/-- What was published of one job. -/
def WorkerState.publishedOf (s : WorkerState M) (i : ℕ) : List DeliveryResult :=
  (s.published.filter fun p => p.1 = i).map Prod.snd

/-- Job `i` has had a terminal or exhausted attempt recorded. -/
def Job.Committed (job : Job) : Prop :=
  ∃ result, job.attempt = .recorded result ∨ job.attempt = .finished result

/-- Once its last attempt is recorded, job `i` can only complete with the result of its history, published once. -/
def WorkerState.Delivers (s : WorkerState M) (i : ℕ) : Prop :=
  ∀ job exit, s.jobs[i]? = some job → job.Committed → job.main = .completed exit →
    ∃ result, exit = .ok result ∧ job.historyResult = some result ∧ s.publishedOf i = [result]

/-- The call was answered, and if it failed, then because the claim was lost. -/
def Answered (event : Option M.Event) (seen : Reply) : Prop :=
  (∃ l, event = some l ∧ seen = l.reply) ∧ ∀ failure, seen = .error failure → failure.tag = .claimLostError

/-- The store's clock does not run backwards, and job `i` is neither interrupted nor let down by the infrastructure. -/
structure Undisturbed (i : ℕ) (s : WorkerState M) (l : WorkerLabel M) : Prop where
  clock : ∀ event, l.event = some event → s.clock ≤ event.nowMillis
  uninterrupted : l ≠ .interrupt i
  renewals : ∀ event seen, l = .renew i event seen → Answered event seen
  records : ∀ event seen, l = .record i event seen → Answered event seen

/-- Job `i` renews nothing between the record of its last attempt and the end of its attempts. -/
def OutOfWindow (i : ℕ) (s : WorkerState M) (l : WorkerLabel M) : Prop :=
  ∀ event seen, l = .renew i event seen → ∀ job, s.jobs[i]? = some job → ∀ result, job.attempt ≠ .recorded result

/-! ## The invariant of one job -/

/-- Where the fibers of a job stand to each other, given what it has published. -/
def Job.Answering (job : Job) (published : List DeliveryResult) : Prop :=
  match job.attempt with
  | .ready | .sending _ | .observed _ =>
    published = [] ∧ ∀ result, job.main ≠ .succeeding result ∧ job.main ≠ .completed (.ok result)
  | .recorded result =>
    published = [] ∧ (∀ failure, job.renewal ≠ .failed failure) ∧ (job.main = .running ∨ job.main = .gone) ∧
      job.historyResult = some result
  | .finished result =>
    published = [result] ∧
      (job.main = .succeeding result ∨ job.main = .completed (.ok result) ∨ job.main = .gone) ∧
      job.historyResult = some result

/-- A job whose renewal has failed has lost its claim. -/
def Job.LostIfFailed (L : Ledger) (clock : ℕ) (job : Job) : Prop :=
  ∀ failure, job.renewal = .failed failure → Lost L job.deliveryId job.claim.ownerId job.claim.generation clock

structure OutcomeInvariant (i : ℕ) (s : WorkerState M) : Prop where
  numbered : ∀ p ∈ s.published, p.1 < s.jobs.length
  answering : ∀ job, s.jobs[i]? = some job → job.Answering (s.publishedOf i)
  lost : ∀ job, s.jobs[i]? = some job → job.LostIfFailed (M.view s.store) s.clock

namespace Job

variable {job job' : Job} {published : List DeliveryResult}

theorem Answering.delivers (answering : job.Answering published) (committed : job.Committed)
    {exit : Except JobFailure DeliveryResult} (completed : job.main = .completed exit) :
    ∃ result, exit = .ok result ∧ job.historyResult = some result ∧ published = [result] := by
  obtain ⟨result, recorded | finished⟩ := committed
  · unfold Answering at answering
    rw [recorded] at answering
    obtain ⟨-, -, main, -⟩ := answering
    rw [completed] at main
    rcases main with running | gone
    · cases running
    · cases gone
  · unfold Answering at answering
    rw [finished] at answering
    obtain ⟨once, main, history⟩ := answering
    rw [completed] at main
    rcases main with succeeding | ok | gone
    · cases succeeding
    · cases ok
      exact ⟨result, rfl, history, once⟩
    · cases gone

/-- A job that is still running and has recorded no last attempt. -/
def Underway (job : Job) : Prop := ∀ result, job.attempt ≠ .recorded result ∧ job.attempt ≠ .finished result

theorem answering_of_underway (underway : job.Underway) : job.Answering published ↔
    published = [] ∧ ∀ result, job.main ≠ .succeeding result ∧ job.main ≠ .completed (.ok result) := by
  unfold Answering
  cases stage : job.attempt with
  | ready | sending | observed => rfl
  | recorded result => exact absurd stage (underway result).1
  | finished result => exact absurd stage (underway result).2

/-- A running job that has recorded no last attempt is underway. -/
theorem Answering.underway (answering : job.Answering published) (running : job.main = .running)
    (unrecorded : ∀ result, job.attempt ≠ .recorded result) : job.Underway := by
  intro result
  refine ⟨unrecorded result, ?_⟩
  intro finished
  unfold Answering at answering
  rw [finished, running] at answering
  obtain ⟨-, succeeding | ok | gone, -⟩ := answering
  · cases succeeding
  · cases ok
  · cases gone

/-- A job whose main fiber is elsewhere has recorded no last attempt. -/
theorem Answering.underway_of_main (answering : job.Answering published)
    (main : job.main = .queued ∨ ∃ failure, job.main = .failing failure) : job.Underway := by
  intro result
  constructor
  · intro recorded
    unfold Answering at answering
    rw [recorded] at answering
    obtain ⟨-, -, running | gone, -⟩ := answering
    · rw [running] at main
      rcases main with same | ⟨failure, same⟩ <;> cases same
    · rw [gone] at main
      rcases main with same | ⟨failure, same⟩ <;> cases same
  · intro finished
    unfold Answering at answering
    rw [finished] at answering
    obtain ⟨-, succeeding | ok | gone, -⟩ := answering
    · rw [succeeding] at main
      rcases main with same | ⟨failure, same⟩ <;> cases same
    · rw [ok] at main
      rcases main with same | ⟨failure, same⟩ <;> cases same
    · rw [gone] at main
      rcases main with same | ⟨failure, same⟩ <;> cases same

theorem Answering.unpublished (answering : job.Answering published) (underway : job.Underway) : published = [] :=
  ((answering_of_underway underway).1 answering).1

/-- Before its last record a job may go anywhere but to an answer. -/
theorem Answering.elsewhere (answering : job.Answering published) (underway : job.Underway) (underway' : job'.Underway)
    (main : ∀ result, job'.main ≠ .succeeding result ∧ job'.main ≠ .completed (.ok result)) :
    job'.Answering published :=
  (answering_of_underway underway').2 ⟨answering.unpublished underway, main⟩

/-- A failed renewal is found before the last attempt is recorded. -/
theorem Answering.unrecorded (answering : job.Answering published) {failure : Failure}
    (failed : job.renewal = .failed failure) (result : DeliveryResult) : job.attempt ≠ .recorded result := by
  intro recorded
  unfold Answering at answering
  rw [recorded] at answering
  exact answering.2.1 failure failed

/-- A job that succeeds completes with the result it has published. -/
theorem Answering.complete (answering : job.Answering published) {result : DeliveryResult}
    (succeeding : job.main = .succeeding result) :
    Job.Answering { job with main := .completed (.ok result) } published := by
  unfold Answering at answering ⊢
  cases stage : job.attempt with
  | ready | sending | observed =>
    rw [stage] at answering
    exact absurd succeeding (answering.2 result).1
  | recorded other =>
    rw [stage, succeeding] at answering
    rcases answering.2.2.1 with running | gone
    · cases running
    · cases gone
  | finished other =>
    rw [stage, succeeding] at answering
    obtain ⟨once, same | ok | gone, history⟩ := answering
    · cases same
      exact ⟨once, .inr (.inl rfl), history⟩
    · cases ok
    · cases gone

/-- A stopped process answers nothing. -/
theorem Answering.gone (answering : job.Answering published) :
    Job.Answering { job with main := .gone } published := by
  unfold Answering at answering ⊢
  cases stage : job.attempt with
  | ready | sending | observed =>
    rw [stage] at answering
    exact ⟨answering.1, fun _ => ⟨nofun, nofun⟩⟩
  | recorded result =>
    rw [stage] at answering
    exact ⟨answering.1, answering.2.1, .inr rfl, answering.2.2.2⟩
  | finished result =>
    rw [stage] at answering
    exact ⟨answering.1, .inr (.inr rfl), answering.2.2⟩

theorem renewed_attempt (job : Job) (seen : Reply) : (job.renewed seen).attempt = job.attempt := by
  unfold renewed
  split
  · rfl
  · rfl
  · split <;> rfl

theorem renewed_unanswered (running : job.main = .running) (seen : Reply) (result : DeliveryResult) :
    (job.renewed seen).main ≠ .succeeding result ∧ (job.renewed seen).main ≠ .completed (.ok result) := by
  unfold renewed
  split
  · rw [show Job.main _ = .running from running]
    exact ⟨nofun, nofun⟩
  · exact ⟨nofun, nofun⟩
  · split
    · exact ⟨nofun, nofun⟩
    · rw [show Job.main _ = .running from running]
      exact ⟨nofun, nofun⟩

/-- The renewal fiber fails by a renewal that failed. -/
theorem renewed_failed (renewing : ∀ failure, job.renewal ≠ .failed failure) {seen : Reply} {failure : Failure}
    (failed : (job.renewed seen).renewal = .failed failure) : seen = .error failure ∧ (job.renewed seen).claim = job.claim := by
  unfold renewed at failed ⊢
  split at failed
  · cases failed
  · exact absurd failed (renewing failure)
  · next failure' =>
    split at failed
    · exact absurd failed (renewing failure)
    · next looping =>
      cases failed
      refine ⟨rfl, ?_⟩
      rw [if_neg looping]

/-- After its last record a job is about to answer with the result of its history. -/
theorem appended_answering (running : job.main = .running) (unpublished : published = [])
    (observed : ∃ attempt, job.attempt = .observed attempt) (attempt : AttemptObservation)
    (decision : DeliveryAttemptDecision) {seen : Reply}
    (leased : ∀ value, seen = .ok value → ∀ failure, job.renewal ≠ .failed failure) :
    (job.appended attempt decision seen).Answering published := by
  unfold appended
  split
  · next failure =>
    obtain ⟨observation, stage⟩ := observed
    unfold Answering
    rw [show Job.attempt _ = _ from stage]
    exact ⟨unpublished, fun _ => ⟨nofun, nofun⟩⟩
  · next value =>
    split
    · refine ⟨unpublished, ?_⟩
      intro result
      rw [show Job.main _ = .running from running]
      exact ⟨nofun, nofun⟩
    · refine ⟨unpublished, leased value rfl, .inl running, ?_⟩
      rw [historyResult, List.getLast?_concat]
      rfl
    · refine ⟨unpublished, leased value rfl, .inl running, ?_⟩
      rw [historyResult, List.getLast?_concat]
      rfl

theorem appended_renewal (job : Job) (attempt : AttemptObservation) (decision : DeliveryAttemptDecision) (seen : Reply) :
    (job.appended attempt decision seen).renewal = job.renewal ∧
      (job.appended attempt decision seen).deliveryId = job.deliveryId ∧
      (job.appended attempt decision seen).claim = job.claim := by
  unfold appended
  split
  · exact ⟨rfl, rfl, rfl⟩
  · split <;> exact ⟨rfl, rfl, rfl⟩

end Job

/-! ## Its steps -/

section Steps

variable {processes : ℕ → WorkerProcess} {s s' : WorkerState M} {i k : ℕ} {job job' : Job} {call : StoreCall}
  {event : Option M.Event} {seen : Reply} {store : M.Store}

/-- Losses outlive every call while the clock does not run backwards. -/
theorem lost_asks (lawful : M.Lawful) (sound : M.Sound s.store) (asks : M.Asks s.store call event seen store)
    (clock : ∀ l, event = some l → s.clock ≤ l.nowMillis) {id : DeliveryId} {ownerId : WorkerId}
    {generation : ClaimGeneration} (lost : Lost (M.view s.store) id ownerId generation s.clock) :
    Lost (M.view store) id ownerId generation (event.elim s.clock (·.nowMillis)) := by
  obtain ⟨-, ⟨rfl, -, same⟩ | ⟨l, rfl, served, -⟩⟩ := lawful.asks sound asks
  · rw [same]
    exact lost
  · exact served.lost (clock l rfl) lost

/-- One job moves, with or without a call; job `i` is accounted for if it is that job. -/
theorem OutcomeInvariant.replace (inv : OutcomeInvariant i s) (jobs : s'.jobs = s.jobs.set k job')
    (published : s'.published = s.published)
    (losses : ∀ id ownerId generation, Lost (M.view s.store) id ownerId generation s.clock →
      Lost (M.view s'.store) id ownerId generation s'.clock)
    (own : k = i → job'.Answering (s.publishedOf i) ∧ job'.LostIfFailed (M.view s'.store) s'.clock) :
    OutcomeInvariant i s' := by
  have same : s'.publishedOf i = s.publishedOf i := by
    rw [WorkerState.publishedOf, published, WorkerState.publishedOf]
  refine ⟨?_, ?_, ?_⟩
  · rw [published, jobs, List.length_set]
    exact inv.numbered
  · intro job here
    rw [jobs, List.getElem?_set] at here
    rw [same]
    split at here
    · next own' =>
      split at here
      · cases here
        exact (own own').1
      · cases here
    · exact inv.answering job here
  · intro job here
    rw [jobs, List.getElem?_set] at here
    split at here
    · next own' =>
      split at here
      · cases here
        exact (own own').2
      · cases here
    · intro failure failed
      exact losses _ _ _ (inv.lost job here failure failed)

/-- A job moves without a call, and keeps its claim and the state of its renewal. -/
theorem OutcomeInvariant.move (inv : OutcomeInvariant i s) (here : s.jobs[k]? = some job)
    (claim : job'.deliveryId = job.deliveryId ∧ job'.claim = job.claim ∧ job'.renewal = job.renewal)
    (own : k = i → job.Answering (s.publishedOf i) → job'.Answering (s.publishedOf i)) :
    OutcomeInvariant i (s.setJob k job') := by
  refine inv.replace rfl rfl (fun _ _ _ lost => lost) ?_
  rintro rfl
  refine ⟨own rfl (inv.answering job here), ?_⟩
  intro failure failed
  rw [claim.2.2] at failed
  rw [claim.1, claim.2.1]
  exact inv.lost job here failure failed

/-- The same with a call. -/
theorem OutcomeInvariant.moveAsking (lawful : M.Lawful) (sound : M.Sound s.store) (inv : OutcomeInvariant i s)
    (here : s.jobs[k]? = some job) (asks : M.Asks s.store call event seen store)
    (clock : ∀ l, event = some l → s.clock ≤ l.nowMillis)
    (claim : job'.deliveryId = job.deliveryId ∧ job'.claim = job.claim ∧ job'.renewal = job.renewal)
    (own : k = i → job.Answering (s.publishedOf i) → job'.Answering (s.publishedOf i)) :
    OutcomeInvariant i ((s.asked event store).setJob k job') := by
  refine inv.replace rfl rfl (fun _ _ _ lost => lost_asks lawful sound asks clock lost) ?_
  rintro rfl
  refine ⟨own rfl (inv.answering job here), ?_⟩
  intro failure failed
  rw [claim.2.2] at failed
  rw [claim.1, claim.2.1]
  exact lost_asks lawful sound asks clock (inv.lost job here failure failed)

/-- A renewal out of the window that fails has lost the claim for good. -/
theorem OutcomeInvariant.renew (lawful : M.Lawful) (worker : WorkerInvariant s) (inv : OutcomeInvariant i s)
    (here : s.jobs[k]? = some job) (running : job.main = .running) (renewing : ∀ failure, job.renewal ≠ .failed failure)
    {lease : Number} (asks : M.Asks s.store (.renewClaim job.deliveryId job.claim lease) event seen store)
    (clock : ∀ l, event = some l → s.clock ≤ l.nowMillis) (answered : k = i → Answered event seen)
    (open_ : k = i → ∀ result, job.attempt ≠ .recorded result) :
    OutcomeInvariant i ((s.asked event store).setJob k (job.renewed seen)) := by
  refine inv.replace rfl rfl (fun _ _ _ lost => lost_asks lawful worker.sound asks clock lost) ?_
  rintro rfl
  have before := inv.answering job here
  have underway := before.underway running (open_ rfl)
  constructor
  · refine before.elsewhere underway ?_ (Job.renewed_unanswered running seen)
    intro result
    rw [job.renewed_attempt seen]
    exact underway result
  · intro failure failed
    obtain ⟨rfl, claim⟩ := Job.renewed_failed renewing failed
    have key : (job.renewed (.error failure)).deliveryId = job.deliveryId := congrArg Prod.fst (job.renewed_error failure)
    obtain ⟨⟨l, rfl, reply⟩, tag⟩ := answered rfl
    obtain ⟨-, ⟨none, -⟩ | ⟨l', same, served, -⟩⟩ := lawful.asks worker.sound asks
    · cases none
    · cases same
      rw [← reply, Reply.answer, tag failure rfl] at served
      obtain ⟨unchanged, away⟩ := served.renewClaim_lost
      obtain ⟨e, tied⟩ := worker.consistent.tied job (List.mem_of_getElem? here)
      show Lost (M.view store) _ _ _ l.nowMillis
      rw [key, claim, unchanged]
      exact lost_of_not_holds tied.held tied.issued (away e tied.held)

/-- A record that succeeds finds the claim, so the renewal cannot have failed. -/
theorem OutcomeInvariant.record (lawful : M.Lawful) (worker : WorkerInvariant s) (inv : OutcomeInvariant i s)
    (here : s.jobs[k]? = some job) (running : job.main = .running) {attempt : AttemptObservation}
    (observed : job.attempt = .observed attempt) {decision : DeliveryAttemptDecision} {record : DeliveryAttemptRecord}
    (made : makeDeliveryAttemptRecord job.deliveryId job.claim (withDecision attempt decision) job.trace = some record)
    (asks : M.Asks s.store (.recordAttempt record) event seen store)
    (clock : ∀ l, event = some l → s.clock ≤ l.nowMillis) :
    OutcomeInvariant i ((s.asked event store).setJob k (job.appended attempt decision seen)) := by
  obtain ⟨renewal, delivery, claim⟩ := job.appended_renewal attempt decision seen
  refine inv.moveAsking lawful worker.sound here asks clock ⟨delivery, claim, renewal⟩ ?_
  rintro rfl before
  have underway : job.Underway := by
    intro result
    rw [observed]
    exact ⟨nofun, nofun⟩
  refine Job.appended_answering running (before.unpublished underway) ⟨attempt, observed⟩ attempt decision ?_
  rintro value rfl failure failed
  obtain ⟨e, held, -, away⟩ := inv.lost job here failure failed
  obtain ⟨named, -, owner, generation, -⟩ := makeDeliveryAttemptRecord_eq_some made
  obtain ⟨-, ⟨-, ⟨failure', error⟩, -⟩ | ⟨l, rfl, served, same | ⟨failure', error⟩⟩⟩ := lawful.asks worker.sound asks
  · cases error
  · rw [← same] at served
    obtain ⟨-, e', -, held', holds, -⟩ | ⟨⟨tag, error⟩, -⟩ := served.recordAttempt
    · rw [named, held, Option.some.injEq] at held'
      subst held'
      rw [owner, generation] at holds
      exact away l.nowMillis (clock l rfl) holds
    · cases error
  · cases error

/-- The environment opens jobs that have done nothing yet. -/
theorem OutcomeInvariant.environment (lawful : M.Lawful) (worker : WorkerInvariant s) (inv : OutcomeInvariant i s)
    {l : M.Event} (step : M.system.step s.store l store) (clock : s.clock ≤ l.nowMillis) (process : ℕ)
    (fallback : DestinationId) (claimed : List ClaimedDelivery) :
    OutcomeInvariant i
      { s.asked (some l) store with jobs := s.jobs ++ claimed.map (Job.issued process fallback) } := by
  obtain ⟨-, served⟩ := lawful.step worker.sound step
  -- a job at index `i` is an old one, or a new one of which nothing was published
  have opened : ∀ job, (s.jobs ++ claimed.map (Job.issued process fallback))[i]? = some job →
      s.jobs[i]? = some job ∨ s.jobs.length ≤ i ∧ ∃ c, job = Job.issued process fallback c := by
    intro job here
    rw [List.getElem?_append] at here
    split at here
    · exact .inl here
    · next beyond =>
      rw [List.getElem?_map] at here
      obtain ⟨c, -, rfl⟩ := Option.map_eq_some_iff.1 here
      exact .inr ⟨Nat.le_of_not_lt beyond, c, rfl⟩
  refine ⟨?_, ?_, ?_⟩
  · intro p member
    have before := inv.numbered p member
    rw [List.length_append]
    omega
  · intro job here
    obtain old | ⟨beyond, c, rfl⟩ := opened job here
    · exact inv.answering job old
    · refine ⟨?_, fun _ => ⟨nofun, nofun⟩⟩
      show (s.published.filter fun p => p.1 = i).map Prod.snd = []
      rw [List.map_eq_nil_iff, List.filter_eq_nil_iff]
      intro p member same
      have before := inv.numbered p member
      rw [decide_eq_true_eq] at same
      omega
  · intro job here
    obtain old | ⟨-, c, rfl⟩ := opened job here
    · intro failure failed
      exact served.lost clock (inv.lost job old failure failed)
    · exact nofun

/-- The one publication of a job. -/
theorem OutcomeInvariant.publish (inv : OutcomeInvariant i s) (here : s.jobs[k]? = some job)
    {result : DeliveryResult} (recorded : job.attempt = .recorded result) (backlogs : ℕ → List ℕ) :
    OutcomeInvariant i
      { s.setJob k { job with attempt := .finished result, main := .succeeding result } with
        backlogs
        published := s.published ++ [(k, result)] } := by
  have bound : k < s.jobs.length := (List.getElem?_eq_some_iff.1 here).1
  have published : ∀ t : WorkerState M, t.published = s.published ++ [(k, result)] →
      t.publishedOf i = s.publishedOf i ++ if k = i then [result] else [] := by
    intro t same
    rw [WorkerState.publishedOf, same, List.filter_append, List.map_append, List.filter_singleton]
    by_cases own : k = i
    · simp [own, WorkerState.publishedOf]
    · simp [own, WorkerState.publishedOf]
  refine ⟨?_, ?_, ?_⟩
  · intro p member
    show p.1 < (s.jobs.set k _).length
    rw [List.length_set]
    rcases List.mem_append.1 member with before | last
    · exact inv.numbered p before
    · rw [List.mem_singleton.1 last]
      exact bound
  · intro job' here'
    rw [published _ rfl]
    change (s.jobs.set k _)[i]? = some job' at here'
    rw [List.getElem?_set] at here'
    split at here'
    · next own =>
      subst own
      rw [Option.some.injEq] at here'
      have before := inv.answering job here
      unfold Job.Answering at before
      rw [recorded] at before
      obtain ⟨none, -, -, history⟩ := before
      rw [← here', none, if_pos rfl]
      exact ⟨rfl, .inl rfl, history⟩
    · next other =>
      rw [if_neg other, List.append_nil]
      exact inv.answering job' here'
  · intro job' here'
    change (s.jobs.set k _)[i]? = some job' at here'
    rw [List.getElem?_set] at here'
    split at here'
    · next own =>
      subst own
      rw [Option.some.injEq] at here'
      rw [← here']
      exact inv.lost job here
    · exact inv.lost job' here'

theorem OutcomeInvariant.init : OutcomeInvariant i (workerSystem M processes).init where
  numbered := List.forall_mem_nil _
  answering := by
    intro job here
    change ([] : List Job)[i]? = some job at here
    rw [List.getElem?_nil] at here
    cases here
  lost := by
    intro job here
    change ([] : List Job)[i]? = some job at here
    rw [List.getElem?_nil] at here
    cases here

/-- **Every step out of the window keeps the invariant.** -/
theorem OutcomeInvariant.step (lawful : M.Lawful) (worker : WorkerInvariant s) (inv : OutcomeInvariant i s)
    {l : WorkerLabel M} (undisturbed : Undisturbed i s l) (window : OutOfWindow i s l)
    (step : WorkerStep M processes s l s') : OutcomeInvariant i s' := by
  cases step with
  | environment process fallback unfenced unsaved step =>
    exact inv.environment lawful worker step (undisturbed.clock _ rfl) process fallback _
  | drop here queued asks =>
    exact inv.moveAsking lawful worker.sound here asks (fun l same => undisturbed.clock l same) ⟨rfl, rfl, rfl⟩
      fun _ before => before.gone
  | start trace startedAt here queued =>
    refine inv.move here ⟨rfl, rfl, rfl⟩ ?_
    intro _ before
    have underway := before.underway_of_main (.inl queued)
    exact before.elsewhere underway underway fun _ => ⟨nofun, nofun⟩
  | @renew k job event seen store here running renewing asks =>
    refine inv.renew lawful worker here running renewing asks (fun l same => undisturbed.clock l same) ?_ ?_
    · rintro rfl
      exact undisturbed.renewals event seen rfl
    · rintro rfl
      exact window event seen rfl job here
  | @send k job here running leased ready =>
    have moved : OutcomeInvariant i (s.setJob k
        { job with attempt := .sending job.nextOrdinal, nextOrdinal := job.nextOrdinal + 1 }) := by
      refine inv.move here ⟨rfl, rfl, rfl⟩ ?_
      intro _ before
      have underway := before.underway running (by rw [ready]; exact fun _ => nofun)
      refine before.elsewhere underway (fun _ => ⟨nofun, nofun⟩) ?_
      rw [show Job.main _ = .running from running]
      exact fun _ => ⟨nofun, nofun⟩
    exact ⟨moved.numbered, moved.answering, moved.lost⟩
  | observe startedAt completedAt outcome here running sending =>
    refine inv.move here ⟨rfl, rfl, rfl⟩ ?_
    intro _ before
    have underway := before.underway running (by rw [sending]; exact fun _ => nofun)
    refine before.elsewhere underway (fun _ => ⟨nofun, nofun⟩) ?_
    rw [show Job.main _ = .running from running]
    exact fun _ => ⟨nofun, nofun⟩
  | record now fraction here running observed made asks =>
    exact inv.record lawful worker here running observed made asks fun l same => undisturbed.clock l same
  | @unrecordable k job attempt now fraction here running observed throws =>
    refine inv.move here ⟨rfl, rfl, rfl⟩ ?_
    intro _ before
    have underway := before.underway running (by rw [observed]; exact fun _ => nofun)
    exact Job.appended_answering running (before.unpublished underway) ⟨attempt, observed⟩ _ _ (by exact fun _ => nofun)
  | publish here running recorded room => exact inv.publish here recorded _
  | @lose k job failure here running failed =>
    refine inv.move here ⟨rfl, rfl, rfl⟩ ?_
    intro _ before
    have underway := before.underway running (before.unrecorded failed)
    exact before.elsewhere underway underway fun _ => ⟨nofun, nofun⟩
  | release here failing asks =>
    refine inv.moveAsking lawful worker.sound here asks (fun l same => undisturbed.clock l same) ⟨rfl, rfl, rfl⟩ ?_
    intro _ before
    have underway := before.underway_of_main (.inr ⟨_, failing⟩)
    exact before.elsewhere underway underway fun _ => ⟨nofun, nofun⟩
  | complete here succeeding => exact inv.move here ⟨rfl, rfl, rfl⟩ fun _ before => before.complete succeeding
  | @interrupt k job here unanswered =>
    refine inv.move here ⟨rfl, rfl, rfl⟩ ?_
    rintro rfl
    exact absurd rfl undisturbed.uninterrupted
  | crash here => exact inv.move here ⟨rfl, rfl, rfl⟩ fun _ before => before.gone
  | subscribers process move => exact ⟨inv.numbered, inv.answering, inv.lost⟩

end Steps

end Outcome

/-! ## The first attempt, answered and lost -/

namespace Sample

def published : WorkerState machine :=
  { recorded.setJob 0 { settled with attempt := .finished result, main := .succeeding result } with
    backlogs := Function.update recorded.backlogs 0 ((recorded.backlogs 0).map (· + 1))
    published := [(0, result)] }

def completed : WorkerState machine :=
  published.setJob 0 { settled with attempt := .finished result, main := .completed (.ok result) }

theorem publishes : WorkerStep machine processes recorded (.publish 0) published :=
  .publish rfl rfl rfl (List.forall_mem_nil _)

theorem completes : WorkerStep machine processes published (.complete 0) completed := by
  have here : published.jobs[0]? =
      some { settled with attempt := .finished result, main := .succeeding result } := rfl
  exact @WorkerStep.complete machine processes published 0 _ _ here rfl

def refusal : Failure := lost .renew delivery claim

/-- The renewal that follows the record finds no claim. -/
def disowned : WorkerState machine :=
  (recorded.call 500 renewal).setJob 0 { settled with renewal := .failed refusal }

def stopped : WorkerState machine :=
  disowned.setJob 0 { settled with renewal := .failed refusal, main := .failing (.store refusal) }

def releasing : StoreCall := .releaseClaim delivery claim

def misreported : WorkerState machine :=
  (stopped.call 500 releasing).setJob 0
    { settled with renewal := .failed refusal, main := .completed (.error (.store refusal)) }

theorem disowns : WorkerStep machine processes recorded
    (.renew 0 (some (machine.event 500 recorded.store renewal)) (.error refusal)) disowned := by
  have refused : (machine.exec 500 recorded.store renewal).1 = .error refusal := by decide +kernel
  have asks := machine.asks_event (c := renewal) 500 recorded.store rfl
  rw [refused] at asks
  have here : recorded.jobs[0]? = some settled := rfl
  exact @WorkerStep.renew machine processes recorded 0 _ _ _ _ here rfl (by exact fun failure same => nomatch same) asks

theorem stops : WorkerStep machine processes disowned (.lose 0) stopped := by
  have here : disowned.jobs[0]? = some { settled with renewal := .failed refusal } := rfl
  exact @WorkerStep.lose machine processes disowned 0 _ _ here rfl rfl

theorem releases : WorkerStep machine processes stopped
    (.release 0 (some (machine.event 500 stopped.store releasing))) misreported := by
  have asks := machine.asks_event (c := releasing) 500 stopped.store rfl
  have here : stopped.jobs[0]? =
      some { settled with renewal := .failed refusal, main := .failing (.store refusal) } := rfl
  exact @WorkerStep.release machine processes stopped 0 _ _ _ _ _ here rfl asks

def Steady (s : WorkerState machine) (l : WorkerLabel machine) : Prop := Undisturbed 0 s l ∧ OutOfWindow 0 s l

/-- Steps of the job's own fibers that make no call. -/
theorem steady_of_silent {s : WorkerState machine} {l : WorkerLabel machine} (silent : l.event = none)
    (uninterrupted : l ≠ .interrupt 0) (unasked : ∀ event seen, l ≠ .renew 0 event seen ∧ l ≠ .record 0 event seen) :
    Steady s l := by
  constructor
  · constructor
    · intro event same
      rw [silent] at same
      cases same
    · exact uninterrupted
    · exact fun event seen same => absurd same (unasked event seen).1
    · exact fun event seen same => absurd same (unasked event seen).2
  · exact fun event seen same => absurd same (unasked event seen).1

theorem recorded_steady : ((workerSystem machine processes).restrict Steady).Reachable recorded := by
  have opening : Steady (workerSystem machine processes).init (.environment (machine.event 0 machine.empty creation)) :=
    ⟨⟨fun _ _ => Nat.zero_le _, nofun, fun _ _ same => (nomatch same), fun _ _ same => (nomatch same)⟩,
      fun _ _ same => (nomatch same)⟩
  have starting : Steady opened (.start 0) := steady_of_silent rfl (by exact nofun) (by exact fun _ _ => ⟨nofun, nofun⟩)
  have renewing : Steady started (.renew 0 (some (machine.event 0 started.store renewal)) (.ok (.renewed claim))) := by
    refine ⟨⟨?_, by exact nofun, ?_, fun _ _ same => (nomatch same)⟩, ?_⟩
    · rintro event ⟨⟩
      exact Nat.le_refl 0
    · intro event seen same
      obtain ⟨-, rfl, rfl⟩ := WorkerLabel.renew.inj same
      exact ⟨⟨_, rfl, by decide +kernel⟩, by exact fun _ => nofun⟩
    · rintro event seen same job here result recorded
      obtain rfl : _ = job := Option.some.inj here
      cases recorded
  have sending : Steady leased (.send 0) := steady_of_silent rfl (by exact nofun) (by exact fun _ _ => ⟨nofun, nofun⟩)
  have observing : Steady sent (.observe 0) := steady_of_silent rfl (by exact nofun) (by exact fun _ _ => ⟨nofun, nofun⟩)
  have recording : Steady observed (.record 0 (some (machine.event 1 observed.store recording)) (.ok .done)) := by
    refine ⟨⟨?_, by exact nofun, fun _ _ same => (nomatch same), ?_⟩, fun _ _ same => (nomatch same)⟩
    · rintro event ⟨⟩
      exact Nat.zero_le 1
    · intro event seen same
      obtain ⟨-, rfl, rfl⟩ := WorkerLabel.record.inj same
      exact ⟨⟨_, rfl, by decide +kernel⟩, by exact fun _ => nofun⟩
  have start : ((workerSystem machine processes).restrict Steady).Reachable (workerSystem machine processes).init := .init
  exact (((((start.step ⟨opens, opening⟩).step ⟨starts, starting⟩).step ⟨renews, renewing⟩).step
    ⟨sends, sending⟩).step ⟨observes, observing⟩).step ⟨records, recording⟩

end Sample

/-- **A recorded outcome reaches the caller, and the subscribers once**, in every run in which the job renews
nothing between the record of its last attempt and the end of its attempts. -/
theorem outcome_delivered (adapter : Adapter) (processes : ℕ → WorkerProcess) (i : ℕ)
    {s : WorkerState adapter.intake.toStoreMachine}
    (reachable : ((workerSystem adapter.intake.toStoreMachine processes).restrict fun s l =>
      Undisturbed i s l ∧ OutOfWindow i s l).Reachable s) : s.Delivers i := by
  have lawful := adapter.lawful.store
  have inv : OutcomeInvariant i s := by
    refine reachable.invariant_restrict (OutcomeInvariant i) .init ?_
    · rintro s l s' before ⟨undisturbed, window⟩ inv step
      exact inv.step lawful (.reachable lawful before) undisturbed window step
  intro job exit here committed completed
  exact (inv.answering job here).delivers committed completed

theorem outcome_delivered_completed : Sample.completed.Delivers 0 := by
  have publishing : Sample.Steady Sample.recorded (.publish 0) :=
    Sample.steady_of_silent rfl (by exact nofun) (by exact fun _ _ => ⟨nofun, nofun⟩)
  have completing : Sample.Steady Sample.published (.complete 0) :=
    Sample.steady_of_silent rfl (by exact nofun) (by exact fun _ _ => ⟨nofun, nofun⟩)
  exact outcome_delivered .memory Sample.processes 0
    ((Sample.recorded_steady.step ⟨Sample.publishes, publishing⟩).step ⟨Sample.completes, completing⟩)

/-- **A renewal after the record takes the outcome away**: the attempt is recorded as delivered, and the job
completes with `ClaimLostError`. -/
theorem outcome_lost : ¬ ∀ (adapter : Adapter) (processes : ℕ → WorkerProcess) (i : ℕ)
    (s : WorkerState adapter.intake.toStoreMachine),
    ((workerSystem adapter.intake.toStoreMachine processes).restrict (Undisturbed i)).Reachable s → s.Delivers i := by
  intro always
  have renewing : Undisturbed 0 Sample.recorded
      (.renew 0 (some (Sample.machine.event 500 Sample.recorded.store Sample.renewal)) (.error Sample.refusal)) := by
    refine ⟨?_, by exact nofun, ?_, fun _ _ same => (nomatch same)⟩
    · rintro event ⟨⟩
      exact show (1 : ℕ) ≤ 500 by decide
    · intro event seen same
      obtain ⟨-, rfl, rfl⟩ := WorkerLabel.renew.inj same
      refine ⟨⟨_, rfl, by decide +kernel⟩, ?_⟩
      rintro failure ⟨⟩
      rfl
  have losing : Undisturbed 0 Sample.disowned (.lose 0) :=
    (Sample.steady_of_silent rfl (by exact nofun) (by exact fun _ _ => ⟨nofun, nofun⟩)).1
  have releasing : Undisturbed 0 Sample.stopped
      (.release 0 (some (Sample.machine.event 500 Sample.stopped.store Sample.releasing))) := by
    refine ⟨?_, by exact nofun, fun _ _ same => (nomatch same), fun _ _ same => (nomatch same)⟩
    rintro event ⟨⟩
    exact Nat.le_refl 500
  have recorded : ((workerSystem Sample.machine Sample.processes).restrict (Undisturbed 0)).Reachable Sample.recorded :=
    Sample.recorded_steady.weaken fun _ _ steady => steady.1
  have reachable := ((recorded.step ⟨Sample.disowns, renewing⟩).step ⟨Sample.stops, losing⟩).step
    ⟨Sample.releases, releasing⟩
  obtain ⟨result, other, -⟩ := always .memory Sample.processes 0 _ reachable _ _ rfl ⟨_, .inl rfl⟩ rfl
  cases other

end Relay
