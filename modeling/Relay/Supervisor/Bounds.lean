import Relay.Supervisor.Capacity

/-!
# Capacity bounds

Whatever the calls and jobs do, each semaphore has given out exactly what they hold at
that moment, and each count is the number of those inside. So admitted calls and active
attempts stay within their limits, a rejected call leaves no trace in either, and nothing
is missing once everything has ended.
-/

namespace Relay

open Gate (Limits Stage Move TaskExit Moved Holding Account Bounded Restored)

/-! ## What a step of the system does -/

section Steps

variable {configuration : CapacityConfiguration} {s s' : CapacityState} {l : CapacityLabel}

theorem CapacityState.onCall_eq_some {i : ℕ} {f : CapacityCall → Option (CapacityState × CapacityCall)}
    (moves : s.onCall i f = some s') :
    ∃ call s₁ call', s.calls[i]? = some call ∧ f call = some (s₁, call') ∧
      s' = { s₁ with calls := s.calls.set i call' } := by
  obtain ⟨call, here, moves⟩ := Option.bind_eq_some_iff.1 moves
  obtain ⟨⟨s₁, call'⟩, effect, rfl⟩ := Option.map_eq_some_iff.1 moves
  exact ⟨call, s₁, call', here, effect, rfl⟩

theorem CapacityState.onJob_eq_some {k : ℕ} {f : CapacityJob → Option (CapacityState × CapacityJob)}
    (moves : s.onJob k f = some s') :
    ∃ job s₁ job', s.deliveries[k]? = some job ∧ f job = some (s₁, job') ∧
      s' = { s₁ with deliveries := s.deliveries.set k job' } := by
  obtain ⟨job, here, moves⟩ := Option.bind_eq_some_iff.1 moves
  obtain ⟨⟨s₁, job'⟩, effect, rfl⟩ := Option.map_eq_some_iff.1 moves
  exact ⟨job, s₁, job', here, effect, rfl⟩

/-- The steps of the system: one of a call, one of a job, an arrival, or one of the dispatcher. -/
inductive CapacityState.Steps (configuration : CapacityConfiguration) (s : CapacityState) :
    CapacityLabel → CapacityState → Prop where
  | call {l : CapacityLabel} {i : ℕ} {call call' : CapacityCall} {s₁ : CapacityState} : l.caller = some i →
    s.calls[i]? = some call → CallStep configuration s s₁ call call' →
    Steps configuration s l { s₁ with calls := s.calls.set i call' }
  | job {l : CapacityLabel} {k : ℕ} {job job' : CapacityJob} {s₁ : CapacityState} : l.caller = none →
    s.deliveries[k]? = some job → JobStep configuration s s₁ job job' →
    Steps configuration s l { s₁ with deliveries := s.deliveries.set k job' }
  | arrival (entrance : Entrance) (destinationId : DestinationId) :
    Steps configuration s (.call entrance destinationId)
      { s with calls := s.calls ++ [.enter entrance destinationId] }
  | take (n : ℕ) : s.dispatcher = .waiting [] →
    Steps configuration s (.take n)
      { s with dispatcher := .waiting (s.requests.take n), requests := s.requests.drop n }
  | takePermit {job : DestinationId} {rest : List DestinationId} {dispatchPermits : Semaphore} :
    s.dispatcher = .waiting (job :: rest) → s.dispatchPermits.take = some dispatchPermits →
    Steps configuration s .takePermit { s with dispatchPermits, dispatcher := .permitted job rest }
  | run {job : DestinationId} {rest : List DestinationId} : s.dispatcher = .permitted job rest →
    Steps configuration s .run
      { s with deliveries := s.deliveries ++ [⟨job, none, .processing⟩], dispatcher := .waiting rest }
  | stop {taken : List DestinationId} : s.dispatcher = .waiting taken →
    Steps configuration s .stop { s with dispatcher := .stopped }

theorem CapacityState.Steps.of_call {i : ℕ} {f : CapacityCall → Option (CapacityState × CapacityCall)}
    (caller : l.caller = some i)
    (spec : ∀ call s₁ call', f call = some (s₁, call') → CallStep configuration s s₁ call call')
    (moves : s.onCall i f = some s') : Steps configuration s l s' := by
  obtain ⟨call, s₁, call', here, effect, rfl⟩ := CapacityState.onCall_eq_some moves
  exact .call caller here (spec call s₁ call' effect)

theorem CapacityState.Steps.of_job {k : ℕ} {f : CapacityJob → Option (CapacityState × CapacityJob)}
    (caller : l.caller = none)
    (spec : ∀ job s₁ job', f job = some (s₁, job') → JobStep configuration s s₁ job job')
    (moves : s.onJob k f = some s') : Steps configuration s l s' := by
  obtain ⟨job, s₁, job', here, effect, rfl⟩ := CapacityState.onJob_eq_some moves
  exact .job caller here (spec job s₁ job' effect)

theorem CapacityState.step_cases (step : s.step configuration l = some s') : s.Steps configuration l s' := by
  cases l with
  | call entrance destinationId =>
    simp only [CapacityState.step, Option.some.injEq] at step
    subst step
    exact .arrival entrance destinationId
  | admitStep i move => exact .of_call rfl (fun _ _ _ => CallStep.admitCall) step
  | overload i => exact .of_call rfl (fun _ _ _ => CallStep.overload) step
  | offer i => exact .of_call rfl (fun _ _ _ => CallStep.offer) step
  | settle i exit => exact .of_call rfl (fun _ _ _ => CallStep.settle) step
  | interruptCall i => exact .of_call rfl (fun _ _ _ => CallStep.interruptCall) step
  | take n =>
    simp only [CapacityState.step] at step
    split at step
    · next ready =>
      simp only [Option.some.injEq] at step
      subst step
      exact .take n ready.1
    · simp at step
  | takePermit =>
    simp only [CapacityState.step] at step
    split at step
    · next job rest waiting =>
      obtain ⟨dispatchPermits, taken, rfl⟩ := Option.map_eq_some_iff.1 step
      exact .takePermit waiting taken
    · simp at step
  | run =>
    simp only [CapacityState.step] at step
    split at step
    · next job rest permitted =>
      simp only [Option.some.injEq] at step
      subst step
      exact .run permitted
    · simp at step
  | stop =>
    simp only [CapacityState.step] at step
    split at step
    · next taken waiting =>
      simp only [Option.some.injEq] at step
      subst step
      exact .stop waiting
    · simp at step
  | executeAttempt k => exact .of_job rfl (fun _ _ _ => JobStep.executeAttempt) step
  | withCapacity k move => exact .of_job rfl (fun _ _ _ => JobStep.withCapacity) step
  | interruptAttempt k => exact .of_job rfl (fun _ _ _ => JobStep.interruptAttempt) step
  | endJob k => exact .of_job rfl (fun _ _ _ => JobStep.endJob) step
  | ensure k => exact .of_job rfl (fun _ _ _ => JobStep.ensure) step

end Steps

/-! ## The invariant -/

/-- What every semaphore has given out is held by someone. -/
structure CapacityState.Balanced (configuration : CapacityConfiguration) (s : CapacityState) : Prop where
  admission : Gate.Balanced configuration.admissionLimits s.admission (Gate.holdings (·.holding) s.calls)
  capacity : Gate.Balanced configuration.concurrencyLimits s.capacity (Gate.holdings (·.holding) s.deliveries)
  permits : s.dispatchPermits.permits = configuration.flow.deliveryRequestsCapacity
  dispatched : s.dispatchPermits.taken = s.unfinished + s.dispatching
  sound : ∀ job ∈ s.deliveries, job.Sound

namespace CapacityState

variable {configuration : CapacityConfiguration} {s s' : CapacityState} {l : CapacityLabel}

theorem unfinished_set {deliveries : List CapacityJob} {k : ℕ} {job : CapacityJob} (here : deliveries[k]? = some job)
    (job' : CapacityJob) :
    ((deliveries.set k job').countP (fun job => job.progress ≠ .finished) : ℤ) =
      deliveries.countP (fun job => job.progress ≠ .finished) + job'.unfinished - job.unfinished := by
  obtain ⟨bound, rfl⟩ := List.getElem?_eq_some_iff.1 here
  rw [(List.set_perm_cons_eraseIdx bound job').countP_eq, ← (List.getElem_cons_eraseIdx_perm bound).countP_eq]
  simp only [List.countP_cons, CapacityJob.unfinished]
  by_cases before : deliveries[k].progress = .finished <;> by_cases after : job'.progress = .finished <;>
    simp [before, after]

theorem Balanced.start (configuration : CapacityConfiguration) : configuration.start.Balanced configuration where
  admission := Gate.Balanced.make configuration.admissionLimits
  capacity := Gate.Balanced.make configuration.concurrencyLimits
  permits := rfl
  dispatched := rfl
  sound := by simp [CapacityConfiguration.start]

theorem Balanced.step (balanced : s.Balanced configuration) (step : s.Steps configuration l s') :
    s'.Balanced configuration := by
  obtain ⟨admission, capacity, permits, dispatched, sound⟩ := balanced
  cases step with
  | @call _ i call call' s₁ caller here effect =>
    refine ⟨admission.set here effect.destinationId effect.admission, ?_, ?_, ?_, ?_⟩
    · simpa only [effect.capacity, effect.deliveries] using capacity
    · simpa only [effect.dispatchPermits] using permits
    · simpa only [unfinished, dispatching, effect.dispatchPermits, effect.deliveries, effect.dispatcher] using dispatched
    · simpa only [effect.deliveries] using sound
  | @job _ k job job' s₁ caller here effect =>
    refine ⟨?_, capacity.set here effect.destinationId effect.capacity, effect.permits.trans permits, ?_, ?_⟩
    · simpa only [effect.admission, effect.calls] using admission
    · have taken := effect.taken
      have counted := unfinished_set here job'
      simp only [unfinished, dispatching, effect.dispatcher] at dispatched counted ⊢
      omega
    · intro job'' member
      obtain member | rfl := List.mem_or_eq_of_mem_set member
      · exact sound job'' member
      · exact effect.ends (sound job (List.mem_of_getElem? here))
  | arrival entrance destinationId =>
    refine ⟨admission.append ?_, capacity, permits, dispatched, sound⟩
    cases entrance <;> rfl
  | take n waiting =>
    refine ⟨admission, capacity, permits, ?_, sound⟩
    simpa only [unfinished, dispatching, waiting] using dispatched
  | takePermit waiting taken =>
    obtain ⟨permits', one⟩ := Semaphore.take_eq_some taken
    refine ⟨admission, capacity, permits'.trans permits, ?_, sound⟩
    simp only [unfinished, dispatching, waiting] at dispatched ⊢
    omega
  | @run job rest permitted =>
    refine ⟨admission, capacity.append rfl, permits, ?_, ?_⟩
    · simp only [unfinished, dispatching, permitted] at dispatched ⊢
      simp [List.countP_append] at dispatched ⊢
      omega
    · intro job' member
      obtain member | member := List.mem_append.1 member
      · exact sound job' member
      · rw [List.mem_singleton] at member
        subst member
        intro ended
        simp at ended
  | stop waiting =>
    refine ⟨admission, capacity, permits, ?_, sound⟩
    simpa only [unfinished, dispatching, waiting] using dispatched

theorem Balanced.reachable (h : (capacitySystem configuration).Reachable s) : s.Balanced configuration := by
  apply h.invariant (fun s => s.Balanced configuration) (Balanced.start configuration)
  intro s l s' balanced step
  exact balanced.step (step_cases step)

end CapacityState

/-! ## The bounds -/

namespace CapacityState

section Bounds

variable (configuration : CapacityConfiguration) (s : CapacityState)

structure WithinCapacity : Prop where
  admitted : Bounded configuration.admissionLimits s.admission.tally
  active : Bounded configuration.concurrencyLimits s.capacity.tally
  dispatched : s.unfinished ≤ configuration.flow.deliveryRequestsCapacity

/-- Nothing is counted, and every permit is back. -/
structure AllBack : Prop where
  admission : Restored configuration.admissionLimits s.admission
  capacity : Restored configuration.concurrencyLimits s.capacity
  dispatchPermits : s.dispatchPermits.free = configuration.flow.deliveryRequestsCapacity

/-- Call `i` is about to ask for its permits. -/
def Arrives (i : ℕ) : Prop := ∃ call, s.calls[i]? = some call ∧ call.stage = some .arriving

def Rejects (i : ℕ) : Prop := ∃ call, s.calls[i]? = some call ∧ call.isRejected = true

/-- What call `i` holds of an account of `admit`. -/
def share (i : ℕ) (account : Account DestinationId) : ℤ := s.calls[i]?.elim 0 (·.holding.share account)

end Bounds

variable {configuration : CapacityConfiguration} {s s' : CapacityState} {l : CapacityLabel}

theorem Balanced.withinCapacity (balanced : s.Balanced configuration) : s.WithinCapacity configuration where
  admitted := balanced.admission.bounded
  active := balanced.capacity.bounded
  dispatched := by
    have within := s.dispatchPermits.taken_le
    rw [balanced.permits, balanced.dispatched] at within
    have more : 0 ≤ s.dispatching := by
      unfold dispatching
      split <;> omega
    omega

theorem holds_nothing_of_isOver {call : CapacityCall} (done : call.isOver = true) : call.holding.hold = .nothing := by
  unfold CapacityCall.isOver at done
  cases inGate : call.stage with
  | none => simp [CapacityCall.holding, inGate]
  | some stage => cases stage <;> simp [CapacityCall.holding, Stage.hold, inGate] at done ⊢

theorem Balanced.allBack (balanced : s.Balanced configuration) (idle : s.Idle) : s.AllBack configuration where
  admission := balanced.admission.restored_of_fibers fun call member => holds_nothing_of_isOver (idle.1 call member)
  capacity := by
    apply balanced.capacity.restored_of_fibers
    intro job member
    apply CapacityJob.holds_nothing
    apply balanced.sound job member
    simp [idle.2.1 job member]
  dispatchPermits := by
    have none_left : s.unfinished = 0 := by
      unfold unfinished
      rw [List.countP_eq_zero]
      intro job member
      simp [idle.2.1 job member]
    rw [Semaphore.free, balanced.dispatched, balanced.permits, none_left, idle.2.2]
    simp

/-! ## Rejected calls -/

/-- A step of a call changes an account as it changes what the call holds. -/
theorem Steps.balance {i : ℕ} (step : s.Steps configuration l s') (caller : l.caller = some i) (account : Account DestinationId) :
    s'.admission.balance account - s.admission.balance account = s'.share i account - s.share i account := by
  cases step with
  | @call _ j call call' s₁ caller' here effect =>
    obtain rfl : i = j := Option.some.inj (caller.symm.trans caller')
    have bound : i < s.calls.length := (List.getElem?_eq_some_iff.1 here).1
    have change := effect.admission.balance account
    simp only [share, here, List.getElem?_set_self bound, Option.elim_some, Holding.share]
    simpa only [CapacityCall.holding, effect.destinationId] using change
  | job caller' => simp [caller'] at caller
  | arrival | take | takePermit | run | stop => simp [CapacityLabel.caller] at caller

/-- No other step changes what it holds. -/
theorem Steps.share_eq {i : ℕ} (step : s.Steps configuration l s') (caller : l.caller ≠ some i)
    (account : Account DestinationId) : s'.share i account = s.share i account := by
  cases step with
  | @call _ j call call' s₁ caller' here effect =>
    have other : j ≠ i := by
      intro same
      rw [caller', same] at caller
      exact caller rfl
    simp only [share, List.getElem?_set_ne other]
  | job _ _ effect => simp only [share, effect.calls]
  | arrival entrance destinationId =>
    simp only [share]
    obtain before | rfl | after := lt_trichotomy i s.calls.length
    · rw [List.getElem?_append_left before]
    · rw [List.getElem?_concat_length, List.getElem?_eq_none le_rfl]
      cases entrance <;> rfl
    · rw [List.getElem?_eq_none (by simp; omega), List.getElem?_eq_none (by omega)]
  | take | takePermit | run | stop => rfl

theorem share_of_arrives {i : ℕ} (arrives : s.Arrives i) (account : Account DestinationId) : s.share i account = 0 := by
  obtain ⟨call, here, arriving⟩ := arrives
  simp [share, here, CapacityCall.holding, Holding.share, arriving, Stage.hold, Gate.Hold.share]

theorem share_of_rejects {i : ℕ} (rejects : s.Rejects i) (account : Account DestinationId) : s.share i account = 0 := by
  obtain ⟨call, here, rejected⟩ := rejects
  simp only [CapacityCall.isRejected, Bool.or_eq_true, decide_eq_true_eq] at rejected
  obtain gone | gone := rejected <;>
    simp [share, here, CapacityCall.holding, Holding.share, gone, Stage.hold, Gate.Hold.share]

/-- **The steps of a rejected call cancel out**, whatever happens between them. -/
theorem rejected_net {i : ℕ} {tr : List CapacityLabel} (path : (capacitySystem configuration).Path s tr s')
    (arrives : s.Arrives i) (rejects : s'.Rejects i) (account : Account DestinationId) :
    TransitionSystem.net (step configuration) (fun l => l.caller = some i) (fun s => s.admission.balance account) s tr
      = 0 := by
  have net := TransitionSystem.Path.net_eq (fun l : CapacityLabel => l.caller = some i)
    (fun s => s.admission.balance account) (fun s => s.share i account)
    (fun l _ s s' moves own => (step_cases moves).balance (of_decide_eq_true own) account)
    (fun l _ s s' moves other => (step_cases moves).share_eq (of_decide_eq_false other) account) path
  rw [net, share_of_rejects rejects, share_of_arrives arrives, Int.sub_self]

/-- A call that is rejected before anything else happens leaves everything in `admit` as it was. -/
theorem rejected_alone {i : ℕ} {tr : List CapacityLabel} (path : (capacitySystem configuration).Path s tr s')
    (arrives : s.Arrives i) (rejects : s'.Rejects i) (alone : ∀ l ∈ tr, l.caller = some i)
    (account : Account DestinationId) : s'.admission.balance account = s.admission.balance account := by
  have change := TransitionSystem.Path.net_eq_sub (fun l : CapacityLabel => l.caller = some i)
    (fun s => s.admission.balance account) (fun l member => decide_eq_true (alone l member)) path
  rw [rejected_net path arrives rejects account] at change
  omega

end CapacityState

/-- **Capacity bounds**, in every state that any calls and jobs can reach. -/
theorem capacity_bounded {configuration : CapacityConfiguration} {s : CapacityState}
    (h : (capacitySystem configuration).Reachable s) :
    s.WithinCapacity configuration ∧ (s.Idle → s.AllBack configuration) ∧
      ∀ i tr s', (capacitySystem configuration).Path s tr s' → s.Arrives i → s'.Rejects i →
        ∀ account,
          TransitionSystem.net (CapacityState.step configuration) (fun l => l.caller = some i)
              (fun s => s.admission.balance account) s tr = 0 ∧
            ((∀ l ∈ tr, l.caller = some i) → s'.admission.balance account = s.admission.balance account) := by
  have balanced := CapacityState.Balanced.reachable h
  refine ⟨balanced.withinCapacity, balanced.allBack, ?_⟩
  intro i tr s' path arrives rejects account
  constructor
  · exact CapacityState.rejected_net path arrives rejects account
  · intro alone
    exact CapacityState.rejected_alone path arrives rejects alone account

namespace Sample

/-- Room for one call and one attempt. -/
def narrow : CapacityConfiguration :=
  ⟨⟨Nat.toPNat' 1, Nat.toPNat' 1⟩, ⟨Nat.toPNat' 1, Nat.toPNat' 1⟩⟩

/-- A first call is admitted and its attempt is under way; a second call arrives. -/
def occupying : List CapacityLabel :=
  [.call .deliverTo destination, .admitStep 0 .find, .admitStep 0 .takeKey, .admitStep 0 .takeWhole, .admitStep 0 .enter, .offer 0,
    .take 1, .takePermit, .run, .executeAttempt 0, .withCapacity 0 .find, .withCapacity 0 .takeKey,
    .withCapacity 0 .takeWhole, .withCapacity 0 .enter, .call .deliverTo destination]

def rejecting : List CapacityLabel := [.admitStep 1 .find, .admitStep 1 .takeKey, .overload 1]

def ending : List CapacityLabel :=
  [.withCapacity 0 (.exit .succeeded), .withCapacity 0 .releaseWhole, .withCapacity 0 .releaseKey, .endJob 0, .ensure 0,
    .settle 0 .succeeded, .admitStep 0 (.exit .succeeded), .admitStep 0 .releaseWhole, .admitStep 0 .releaseKey]

end Sample

theorem capacity_bounded_narrow : ∃ s s' s'' : CapacityState,
    (capacitySystem Sample.narrow).Path s Sample.rejecting s' ∧ s.WithinCapacity Sample.narrow ∧ s.Arrives 1 ∧
      s'.Rejects 1 ∧ (∀ account, s'.admission.balance account = s.admission.balance account) ∧
      s''.AllBack Sample.narrow := by
  have ends : ((Sample.occupying.foldlM (CapacityState.step Sample.narrow) Sample.narrow.start).bind fun s =>
      (Sample.rejecting.foldlM (CapacityState.step Sample.narrow) s).bind fun s' =>
        (Sample.ending.foldlM (CapacityState.step Sample.narrow) s').map fun s'' =>
          (s.calls[1]?, s'.calls[1]?, decide s''.Idle)) =
      some (some ⟨.deliverTo, Sample.destination, some .arriving, .preparing⟩,
        some ⟨.deliverTo, Sample.destination, some (.gone .refusedByKey), .ended .failed⟩, true) := by
    decide +kernel
  obtain ⟨s, first, ends⟩ := Option.bind_eq_some_iff.1 ends
  obtain ⟨s', second, ends⟩ := Option.bind_eq_some_iff.1 ends
  obtain ⟨s'', third, ends⟩ := Option.map_eq_some_iff.1 ends
  obtain ⟨arriving, ends⟩ := Prod.mk.inj ends
  obtain ⟨rejected, idle⟩ := Prod.mk.inj ends
  have start : (capacitySystem Sample.narrow).Run Sample.occupying s := TransitionSystem.path_of_foldlM first
  have path : (capacitySystem Sample.narrow).Path s Sample.rejecting s' := TransitionSystem.path_of_foldlM second
  have later : (capacitySystem Sample.narrow).Path s' Sample.ending s'' := TransitionSystem.path_of_foldlM third
  have arrives : s.Arrives 1 := ⟨_, arriving, rfl⟩
  have rejects : s'.Rejects 1 := ⟨_, rejected, rfl⟩
  have before := capacity_bounded ⟨_, start⟩
  have after := capacity_bounded ⟨_, (start.append path).append later⟩
  refine ⟨s, s', s'', path, before.1, arrives, rejects, ?_, after.2.1 (of_decide_eq_true idle)⟩
  intro account
  exact (before.2.2 1 _ s' path arrives rejects account).2 (by simp [Sample.rejecting, CapacityLabel.caller])

end Relay
