import Relay.Supervisor.Calls
import Relay.Supervisor.Reconciler
import Relay.Worker.Progress

/-!
# What a reconciliation pass does

Passes take turns. The one at work resumes each of its deliveries once, in their order, and
reports after the last of them has been worked on to its end, or been given back. The
invariant follows the calls of a batch through the steps of the supervisor.
-/

namespace Relay

variable {M : InspectedStore} {configuration : ReconcilerConfiguration} {limit : ℕ}

/-! ## The steps of a pass -/

/-- The statement claims the batch of a pass. -/
def Claims (configuration : ReconcilerConfiguration) (c : M.Call) : Prop :=
  M.call c = .claimPending configuration.workerId configuration.destination configuration.claimBatchSize
    configuration.claimLeaseDurationMillis

/-- What a step of `pass` makes of the supervisor, the mutex and the pass. -/
inductive PassMoves (configuration : ReconcilerConfiguration) (s : ReconcilerState M limit) (pass : Pass limit) :
    SupervisorState M × Semaphore × Pass limit → Prop where
  | enter (mutex : Semaphore) (waiting : pass.stage = .waiting) (taken : s.mutex.take = some mutex) :
      PassMoves configuration s pass (s.supervisor, mutex, { pass with stage := .claiming })
  | scanFailed (store : M.Store) (failure : Failure) (claiming : pass.stage = .claiming)
      (scan : store = s.supervisor.store ∨
        ∃ nowMillis c, Claims configuration c ∧ store = (M.exec nowMillis s.supervisor.store c).2) :
      PassMoves configuration s pass
        ({ s.supervisor with store }, s.mutex.release, { pass with stage := .exited (pass.failure failure) })
  | scanned (nowMillis : ℕ) (c : M.Call) (value : StoreValue) (claiming : pass.stage = .claiming)
      (call : Claims configuration c) (answered : (M.exec nowMillis s.supervisor.store c).1 = .ok value) :
      PassMoves configuration s pass
        (s.supervisor.enter configuration.toSupervisorConfiguration .resumeClaimed (.ok value)
          (M.exec nowMillis s.supervisor.store c).2, s.mutex,
          { pass with stage := .claimed, claimed := handedOut (.ok value : Reply), first := s.supervisor.calls.length })
  | afterClaim (claimed : pass.stage = .claimed) :
      PassMoves configuration s pass
        (s.supervisor, s.mutex, { pass with stage := .resuming (.make limit pass.claimed.length) })
  | resume (sweep sweep' : Sweep limit) (resuming : pass.stage = .resuming sweep) (start : sweep.start = some sweep') :
      PassMoves configuration s pass (s.supervisor, s.mutex, { pass with stage := .resuming sweep' })
  | settled (sweep sweep' : Sweep limit) (i : ℕ) (call : SupervisorCall) (exit : CallExit)
      (here : s.supervisor.calls[pass.first + i]? = some call) (exited : call.stage = .exited exit)
      (finish : sweep.finish i = some sweep') (stage : Sweep limit → PassStage limit)
      (kind : stage = .resuming ∧ exit.caught = true ∨ stage = .unwinding) (before : pass.stage = stage sweep) :
      PassMoves configuration s pass (s.supervisor, s.mutex, { pass with stage := stage sweep' })
  | died (sweep sweep' : Sweep limit) (i : ℕ) (call : SupervisorCall) (exit : CallExit)
      (here : s.supervisor.calls[pass.first + i]? = some call) (exited : call.stage = .exited exit)
      (finish : sweep.finish i = some sweep') (resuming : pass.stage = .resuming sweep) :
      PassMoves configuration s pass (s.supervisor, s.mutex, { pass with stage := .unwinding sweep' })
  | interruptedEarly (waiting : pass.stage = .waiting) :
      PassMoves configuration s pass (s.supervisor, s.mutex, { pass with stage := .exited .interrupted })
  | interruptedIdle (holds : pass.stage = .claiming ∨ pass.stage = .claimed) :
      PassMoves configuration s pass (s.supervisor, s.mutex.release, { pass with stage := .exited .interrupted })
  | interrupted (sweep : Sweep limit) (resuming : pass.stage = .resuming sweep) :
      PassMoves configuration s pass (s.supervisor, s.mutex, { pass with stage := .unwinding sweep })
  | unwound (sweep : Sweep limit) (i : ℕ) (supervisor : SupervisorState M) (unwinding : pass.stage = .unwinding sweep)
      (member : i ∈ sweep.running) (interrupt : s.supervisor.move (pass.first + i) s.supervisor.interrupt = some supervisor) :
      PassMoves configuration s pass (supervisor, s.mutex, pass)
  | reported (sweep : Sweep limit) (resuming : pass.stage = .resuming sweep) (done : sweep.isDone = true) :
      PassMoves configuration s pass
        (s.supervisor, s.mutex.release, { pass with stage := .exited (.reported pass.claimed.length) })
  | left (sweep : Sweep limit) (unwinding : pass.stage = .unwinding sweep) (idle : sweep.running = []) :
      PassMoves configuration s pass (s.supervisor, s.mutex.release, { pass with stage := .exited .interrupted })

namespace ReconcilerState

variable {s s' : ReconcilerState M limit}

/-- A step is one of the supervisor, the arrival of a pass, or a step of one. -/
inductive Steps (configuration : ReconcilerConfiguration) (s : ReconcilerState M limit) : ReconcilerState M limit → Prop where
  | supervisor (l : SupervisorLabel M) (supervisor : SupervisorState M) (allowed : s.allows l = true)
      (step : s.supervisor.step configuration.toSupervisorConfiguration l = some supervisor) :
      Steps configuration s { s with supervisor }
  | arrive (safe : Bool) : Steps configuration s { s with passes := s.passes ++ [.new limit safe] }
  | pass (p : ℕ) (pass : Pass limit) (r : SupervisorState M × Semaphore × Pass limit) (here : s.passes[p]? = some pass)
      (moves : PassMoves configuration s pass r) : Steps configuration s ⟨r.1, r.2.1, s.passes.set p r.2.2⟩

theorem Steps.of_pass {p : ℕ} {f : Pass limit → Option (SupervisorState M × Semaphore × Pass limit)}
    (moves : s.onPass p f = some s') (each : ∀ pass r, f pass = some r → PassMoves configuration s pass r) :
    s.Steps configuration s' := by
  obtain ⟨pass, here, moves⟩ := Option.bind_eq_some_iff.1 moves
  obtain ⟨r, effect, rfl⟩ := Option.map_eq_some_iff.1 moves
  exact .pass p pass r here (each pass r effect)

variable {pass : Pass limit} {r : SupervisorState M × Semaphore × Pass limit}

theorem claim_moves {passage : Passage} {nowMillis : ℕ} {c : M.Call}
    (moves : s.claim configuration pass passage nowMillis c = some r) : PassMoves configuration s pass r := by
  unfold claim at moves
  split at moves
  · next meets =>
    have unhanded (failure : Failure) (store : M.Store) :
        s.supervisor.enter configuration.toSupervisorConfiguration .resumeClaimed (.error failure) store =
          { s.supervisor with store } := by
      simp [SupervisorState.enter, handedOut]
    cases passage with
    | answered =>
      simp only [StoreMachine.ask] at moves
      cases answered : (M.exec nowMillis s.supervisor.store c).1 with
      | error failure =>
        rw [answered] at moves
        rw [← Option.some.inj moves, unhanded]
        exact .scanFailed _ failure meets.1 (.inr ⟨nowMillis, c, meets.2, rfl⟩)
      | ok value =>
        rw [answered] at moves
        rw [← Option.some.inj moves]
        exact .scanned nowMillis c value meets.1 meets.2 answered
    | unanswered failure =>
      simp only [StoreMachine.ask] at moves
      rw [← Option.some.inj moves, unhanded]
      exact .scanFailed _ failure meets.1 (.inr ⟨nowMillis, c, meets.2, rfl⟩)
    | unreached failure =>
      simp only [StoreMachine.ask] at moves
      rw [← Option.some.inj moves, unhanded]
      exact .scanFailed _ failure meets.1 (.inl rfl)
  · cases moves

theorem settle_moves {i : ℕ} (moves : s.settle pass i = some r) : PassMoves configuration s pass r := by
  obtain ⟨exit, ended, moves⟩ := Option.bind_eq_some_iff.1 moves
  obtain ⟨call, here, exited⟩ := Option.bind_eq_some_iff.1 ended
  rw [SupervisorCall.exit?_eq_some] at exited
  split at moves
  · next sweep before =>
    obtain ⟨sweep', finish, rfl⟩ := Option.map_eq_some_iff.1 moves
    by_cases caught : exit.caught = true
    · rw [if_pos caught]
      exact .settled sweep sweep' i call exit here exited finish .resuming (.inl ⟨rfl, caught⟩) before
    · rw [if_neg caught]
      exact .died sweep sweep' i call exit here exited finish before
  · next sweep before =>
    obtain ⟨sweep', finish, rfl⟩ := Option.map_eq_some_iff.1 moves
    exact .settled sweep sweep' i call exit here exited finish .unwinding (.inr rfl) before
  · cases moves

theorem step_cases {l : ReconcilerLabel M} (step : s.step configuration l = some s') : s.Steps configuration s' := by
  cases l with
  | supervisor l =>
    simp only [ReconcilerState.step] at step
    split at step
    · next allowed =>
      obtain ⟨supervisor, moved, rfl⟩ := Option.map_eq_some_iff.1 step
      exact .supervisor l supervisor allowed moved
    · cases step
  | reconcileOnce =>
    cases step
    exact .arrive false
  | poll =>
    simp only [ReconcilerState.step] at step
    split at step <;> cases step
    exact .arrive true
  | enter p =>
    refine .of_pass step fun pass r moves => ?_
    unfold enter at moves
    split at moves
    · next waiting =>
      obtain ⟨mutex, taken, rfl⟩ := Option.map_eq_some_iff.1 moves
      exact .enter mutex waiting taken
    · cases moves
  | claim p passage nowMillis c => exact .of_pass step fun pass r moves => claim_moves moves
  | afterClaim p =>
    refine .of_pass step fun pass r moves => ?_
    unfold afterClaim at moves
    split at moves
    · next claimed =>
      rw [← Option.some.inj moves]
      exact .afterClaim claimed
    · cases moves
  | resume p =>
    refine .of_pass step fun pass r moves => ?_
    unfold resume at moves
    split at moves
    · next sweep resuming =>
      obtain ⟨sweep', start, rfl⟩ := Option.map_eq_some_iff.1 moves
      exact .resume sweep sweep' resuming start
    · cases moves
  | settle p i => exact .of_pass step fun pass r moves => settle_moves moves
  | interrupt p =>
    refine .of_pass step fun pass r moves => ?_
    unfold interrupt at moves
    split at moves
    · next waiting =>
      rw [← Option.some.inj moves]
      exact .interruptedEarly waiting
    · next claiming =>
      rw [← Option.some.inj moves]
      exact .interruptedIdle (.inl claiming)
    · next claimed =>
      rw [← Option.some.inj moves]
      exact .interruptedIdle (.inr claimed)
    · next sweep resuming =>
      rw [← Option.some.inj moves]
      exact .interrupted sweep resuming
    · cases moves
    · cases moves
  | unwind p i =>
    refine .of_pass step fun pass r moves => ?_
    unfold unwind at moves
    split at moves
    · next sweep unwinding =>
      split at moves
      · next member =>
        obtain ⟨supervisor, interrupt, rfl⟩ := Option.map_eq_some_iff.1 moves
        exact .unwound sweep i supervisor unwinding member interrupt
      · cases moves
    · cases moves
  | leave p =>
    refine .of_pass step fun pass r moves => ?_
    unfold leave at moves
    split at moves
    · next sweep resuming =>
      split at moves
      · next done =>
        rw [← Option.some.inj moves]
        exact .reported sweep resuming done
      · cases moves
    · next sweep unwinding =>
      split at moves
      · next idle =>
        rw [← Option.some.inj moves]
        exact .left sweep unwinding idle
      · cases moves
    · cases moves

end ReconcilerState

/-! ## The invariant -/

def SupervisorCall.resumed (destination : DestinationId) (claimed : ClaimedDelivery) (stage : CallStage) : SupervisorCall :=
  { handed .resumeClaimed destination claimed with stage }

namespace Pass

/-- Item `i` has been started, as far as the pass still tells. -/
def Begun (pass : Pass limit) (i : ℕ) : Prop :=
  match pass.stage with
  | .waiting | .claiming | .claimed => False
  | .resuming sweep | .unwinding sweep => i < sweep.started
  | .exited _ => True

/-- Item `i` has ended. -/
def Over (pass : Pass limit) (i : ℕ) : Prop :=
  match pass.stage with
  | .waiting | .claiming | .claimed | .exited (.failed _) | .exited .interrupted => False
  | .resuming sweep | .unwinding sweep => sweep.Ended i
  | .exited (.reported _) => True

def Disturbed (pass : Pass limit) : Prop :=
  match pass.stage with
  | .unwinding _ | .exited .interrupted => True
  | _ => False

/-- How far item `i` is, and the call of it. -/
structure Follows (pass : Pass limit) (i : ℕ) (claimed : ClaimedDelivery) (stage : CallStage) : Prop where
  waits : ¬ pass.Begun i → stage = .claimed claimed
  handed : ¬ pass.Disturbed → stage.Handed claimed
  settled : pass.Over i → ∃ exit, stage = .exited exit ∧ (¬ pass.Disturbed → exit.caught = true)
  /-- A pass that has exited has dropped the call, or the call has exited. -/
  left : ∀ exit, pass.stage = .exited exit → stage = .claimed claimed ∨ ∃ exit, stage = .exited exit

structure Sound (destination : DestinationId) (supervisor : SupervisorState M) (pass : Pass limit) : Prop where
  blank : pass.stage = .waiting ∨ pass.stage = .claiming → pass.claimed = []
  size : ∀ sweep, pass.stage = .resuming sweep ∨ pass.stage = .unwinding sweep → sweep.size = pass.claimed.length
  report : ∀ n, pass.stage = .exited (.reported n) → n = pass.claimed.length
  distinct : (pass.claimed.map fun claimed => claimed.delivery.id).Nodup
  calls : ∀ (i : ℕ) (claimed : ClaimedDelivery), pass.claimed[i]? = some claimed →
    ∃ stage, supervisor.calls[pass.first + i]? = some (.resumed destination claimed stage) ∧
      pass.Follows i claimed stage

variable {destination : DestinationId} {supervisor supervisor' : SupervisorState M} {pass pass' : Pass limit}

theorem running_begun {i : ℕ} (member : i ∈ pass.running) : pass.Begun i := by
  unfold running at member
  unfold Begun
  cases stage : pass.stage with
  | resuming sweep | unwinding sweep =>
    simp only [stage] at member
    exact sweep.running_lt i member
  | waiting | claiming | claimed => simp [stage] at member
  | exited exit => trivial

/-- What is interrupted follows its items as far as they were; when it has exited, those it began have ended. -/
theorem Follows.disturbed {i : ℕ} {claimed : ClaimedDelivery} {stage : CallStage} (follows : pass.Follows i claimed stage)
    (disturbed : pass'.Disturbed) (begun : pass.Begun i → pass'.Begun i)
    (ends : pass'.Over i → pass.Over i ∨ ∃ exit, stage = .exited exit)
    (left : ∀ exit, pass'.stage = .exited exit → pass.Begun i → pass.Over i) : pass'.Follows i claimed stage where
  waits := fun idle => follows.waits (mt begun idle)
  handed := fun calm => absurd disturbed calm
  settled := by
    intro ended
    obtain before | ⟨exit, exited⟩ := ends ended
    · obtain ⟨exit, exited, -⟩ := follows.settled before
      exact ⟨exit, exited, fun calm => absurd disturbed calm⟩
    · exact ⟨exit, exited, fun calm => absurd disturbed calm⟩
  left := by
    intro exit gone
    by_cases started : pass.Begun i
    · obtain ⟨exit', exited, -⟩ := follows.settled (left exit gone started)
      exact .inr ⟨exit', exited⟩
    · exact .inl (follows.waits started)

/-- A pass whose own fields are left alone stays sound when its calls follow it. -/
theorem Sound.moved (sound : pass.Sound destination supervisor)
    (each : ∀ (i : ℕ) (claimed : ClaimedDelivery) (stage : CallStage), pass.claimed[i]? = some claimed →
      supervisor.calls[pass.first + i]? = some (.resumed destination claimed stage) →
      pass.Follows i claimed stage → ∃ stage', supervisor'.calls[pass.first + i]? =
        some (.resumed destination claimed stage') ∧ pass.Follows i claimed stage') :
    pass.Sound destination supervisor' where
  blank := sound.blank
  size := sound.size
  report := sound.report
  distinct := sound.distinct
  calls := by
    intro i claimed member
    obtain ⟨stage, here, follows⟩ := sound.calls i claimed member
    exact each i claimed stage member here follows

/-- A pass moves to another stage, which its calls allow. -/
theorem Sound.setStage (sound : pass.Sound destination supervisor) {stage : PassStage limit}
    (blank : stage = .waiting ∨ stage = .claiming → pass.claimed = [])
    (size : ∀ sweep, stage = .resuming sweep ∨ stage = .unwinding sweep → sweep.size = pass.claimed.length)
    (report : ∀ n, stage = .exited (.reported n) → n = pass.claimed.length)
    (follows : ∀ (i : ℕ) (claimed : ClaimedDelivery) (call : CallStage), pass.claimed[i]? = some claimed →
      supervisor.calls[pass.first + i]? = some (.resumed destination claimed call) →
      pass.Follows i claimed call → Follows { pass with stage } i claimed call) :
    Sound destination supervisor { pass with stage } where
  blank := blank
  size := size
  report := report
  distinct := sound.distinct
  calls := by
    intro i claimed member
    obtain ⟨call, here, before⟩ := sound.calls i claimed member
    exact ⟨call, here, follows i claimed call member here before⟩

/-- Without a batch there is nothing to follow. -/
theorem Sound.of_blank (blank : pass.claimed = []) (size : ∀ sweep, pass.stage ≠ .resuming sweep ∧ pass.stage ≠ .unwinding sweep)
    (report : ∀ n, pass.stage = .exited (.reported n) → n = 0) : pass.Sound destination supervisor where
  blank := fun _ => blank
  size := by
    rintro sweep (resuming | unwinding)
    · exact absurd resuming (size sweep).1
    · exact absurd unwinding (size sweep).2
  report := by
    intro n reported
    rw [report n reported, blank, List.length_nil]
  distinct := by
    rw [blank]
    exact .nil
  calls := by
    intro i claimed member
    rw [blank] at member
    cases member

end Pass

structure ReconcilerState.Inv (configuration : ReconcilerConfiguration) (s : ReconcilerState M limit) : Prop where
  store : M.Sound s.supervisor.store
  permits : s.mutex.permits = 1
  taken : s.mutex.taken = (s.passes.countP (·.atWork) : ℤ)
  sound : ∀ (p : ℕ) (pass : Pass limit), s.passes[p]? = some pass → pass.Sound configuration.destination s.supervisor
  /-- No call is in the batches of two passes. -/
  apart : ∀ (p q : ℕ) (pass pass' : Pass limit), s.passes[p]? = some pass → s.passes[q]? = some pass' →
    ∀ i < pass.claimed.length, ∀ j < pass'.claimed.length, pass.first + i = pass'.first + j → p = q
  owned : ∀ (j : ℕ) (call : SupervisorCall), s.supervisor.calls[j]? = some call → call.entrance = .resumeClaimed →
    ∃ (p : ℕ) (pass : Pass limit) (i : ℕ), s.passes[p]? = some pass ∧ i < pass.claimed.length ∧ pass.first + i = j

namespace ReconcilerState

variable {s : ReconcilerState M limit} {p q : ℕ} {pass pass' : Pass limit}

/-- The call of an item belongs to `resumeClaimed`. -/
theorem Inv.isResumed (inv : s.Inv configuration) (here : s.passes[p]? = some pass) {i : ℕ} (inside : i < pass.claimed.length) :
    s.supervisor.isResumed (pass.first + i) = true := by
  obtain ⟨stage, there, -⟩ := (inv.sound p pass here).calls i _ (List.getElem?_eq_getElem inside)
  simp [SupervisorState.isResumed, there, SupervisorCall.resumed, SupervisorCall.handed]

theorem Inv.within (inv : s.Inv configuration) (here : s.passes[p]? = some pass) {i : ℕ} (inside : i < pass.claimed.length) :
    pass.first + i < s.supervisor.calls.length := by
  obtain ⟨stage, there, -⟩ := (inv.sound p pass here).calls i _ (List.getElem?_eq_getElem inside)
  exact (List.getElem?_eq_some_iff.1 there).1

theorem running_inside {destination : DestinationId} {supervisor : SupervisorState M} (sound : pass.Sound destination supervisor)
    {i : ℕ} (member : i ∈ pass.running) : i < pass.claimed.length := by
  unfold Pass.running at member
  cases stage : pass.stage with
  | resuming sweep =>
    simp only [stage] at member
    rw [← sound.size sweep (.inl stage)]
    exact (sweep.running_lt i member).trans_le sweep.started_le
  | unwinding sweep =>
    simp only [stage] at member
    rw [← sound.size sweep (.inr stage)]
    exact (sweep.running_lt i member).trans_le sweep.started_le
  | waiting | claiming | claimed | exited exit => simp [stage] at member

/-- The pass that runs a call of a batch is the pass of the batch. -/
theorem Inv.own (inv : s.Inv configuration) (here : s.passes[p]? = some pass) {i : ℕ} (inside : i < pass.claimed.length)
    (runs : s.passes.any (·.runs (pass.first + i)) = true) : i ∈ pass.running := by
  obtain ⟨pass', member, runs⟩ := List.any_eq_true.1 runs
  obtain ⟨q, there⟩ := List.mem_iff_getElem?.1 member
  obtain ⟨k, running, same⟩ := List.any_eq_true.1 runs
  rw [decide_eq_true_eq] at same
  obtain rfl := inv.apart p q pass pass' here there i inside k (running_inside (inv.sound q pass' there) running) same.symm
  rw [here, Option.some.injEq] at there
  subst there
  obtain rfl : k = i := by omega
  exact running

/-- A step of the supervisor leaves alone what no pass runs. -/
theorem Inv.supervisor (inv : s.Inv configuration) (lawful : M.Lawful) {l : SupervisorLabel M} {supervisor : SupervisorState M}
    (allowed : s.allows l = true) (step : s.supervisor.step configuration.toSupervisorConfiguration l = some supervisor) :
    Inv configuration { s with supervisor } where
  store := SupervisorState.step_sound lawful inv.store step
  permits := inv.permits
  taken := inv.taken
  sound := by
    intro p pass here
    refine (inv.sound p pass here).moved ?_
    intro i claimed stage member there follows
    have inside := (List.getElem?_eq_some_iff.1 member).1
    have resumed := inv.isResumed here inside
    have calm : l ≠ .interrupt (pass.first + i) := by
      rintro rfl
      simp [allows, resumed] at allowed
    have silent (idle : i ∉ pass.running) : l ≠ .offer (pass.first + i) := by
      rintro rfl
      have runs : s.passes.any (·.runs (pass.first + i)) = true := by
        simpa [allows, resumed] using allowed
      exact idle (inv.own here inside runs)
    obtain ⟨stage', there', moves⟩ := SupervisorState.step_call step there
    refine ⟨stage', there', ?_, ?_, ?_, ?_⟩
    · exact fun idle => moves.claimed (follows.waits idle) calm (silent fun member => idle (Pass.running_begun member))
    · exact fun calmly => moves.handed (follows.handed calmly) rfl calm
    · intro ended
      obtain ⟨exit, exited, caught⟩ := follows.settled ended
      exact ⟨exit, moves.exited exited, caught⟩
    · intro exit gone
      obtain dropped | ⟨exit', exited⟩ := follows.left exit gone
      · exact .inl (moves.claimed dropped calm (silent (by simp [Pass.running, gone])))
      · exact .inr ⟨exit', moves.exited exited⟩
  apart := inv.apart
  owned := by
    intro j call there resumed
    have other : ∀ nowMillis c, l ≠ .reconcile nowMillis c := by
      rintro nowMillis c rfl
      cases allowed
    obtain ⟨call', here, resumed'⟩ := SupervisorState.step_arrivals step other there resumed
    exact inv.owned j call' here resumed'

theorem getElem?_snoc {α : Type*} {l : List α} {a b : α} {i : ℕ} (here : (l ++ [a])[i]? = some b) :
    l[i]? = some b ∨ b = a := by
  by_cases inside : i < l.length
  · rw [List.getElem?_append_left inside] at here
    exact .inl here
  · rw [List.getElem?_append_right (by omega)] at here
    exact .inr (List.mem_singleton.1 (List.mem_of_getElem? here))

theorem Inv.arrive (inv : s.Inv configuration) (safe : Bool) :
    Inv configuration { s with passes := s.passes ++ [.new limit safe] } where
  store := inv.store
  permits := inv.permits
  taken := by
    rw [inv.taken, List.countP_append]
    rfl
  sound := by
    intro p pass here
    obtain before | rfl := getElem?_snoc here
    · exact inv.sound p pass before
    · exact .of_blank rfl (fun sweep => by simp [Pass.new]) fun n exited => by cases exited
  apart := by
    intro p q pass pass' here there i inside j inside' same
    obtain before | rfl := getElem?_snoc here
    · obtain before' | rfl := getElem?_snoc there
      · exact inv.apart p q pass pass' before before' i inside j inside' same
      · cases inside'
    · cases inside
  owned := by
    intro j call there resumed
    obtain ⟨p, pass, i, here, inside, same⟩ := inv.owned j call there resumed
    exact ⟨p, pass, i, by rw [List.getElem?_append_left (List.getElem?_eq_some_iff.1 here).1, here], inside, same⟩

/-- The permit a pass holds. -/
def held (pass : Pass limit) : ℤ := if pass.atWork then 1 else 0

theorem atWork_set (here : s.passes[p]? = some pass) (pass' : Pass limit) :
    ((s.passes.set p pass').countP (·.atWork) : ℤ) = s.passes.countP (·.atWork) + held pass' - held pass := by
  obtain ⟨inside, rfl⟩ := List.getElem?_eq_some_iff.1 here
  rw [(List.set_perm_cons_eraseIdx inside pass').countP_eq, ← (List.getElem_cons_eraseIdx_perm inside).countP_eq]
  simp only [List.countP_cons, held]
  split <;> split <;> omega

/-- One pass moves to another stage of the same batch. -/
theorem Inv.restage (inv : s.Inv configuration) (here : s.passes[p]? = some pass) {supervisor : SupervisorState M}
    {mutex : Semaphore} {stage : PassStage limit} (store : M.Sound supervisor.store) (permits : mutex.permits = s.mutex.permits)
    (taken : mutex.taken = s.mutex.taken + held { pass with stage } - held pass)
    (others : ∀ q pass', q ≠ p → s.passes[q]? = some pass' → pass'.Sound configuration.destination supervisor)
    (own : Pass.Sound configuration.destination supervisor { pass with stage })
    (arrivals : ∀ (j : ℕ) (call : SupervisorCall), supervisor.calls[j]? = some call → call.entrance = .resumeClaimed →
      ∃ call, s.supervisor.calls[j]? = some call ∧ call.entrance = .resumeClaimed) :
    Inv configuration ⟨supervisor, mutex, s.passes.set p { pass with stage }⟩ := by
  have inside := (List.getElem?_eq_some_iff.1 here).1
  -- a pass of before with the batch it has now
  have same : ∀ (q : ℕ) (pass' : Pass limit), (s.passes.set p { pass with stage })[q]? = some pass' →
      ∃ before, s.passes[q]? = some before ∧ before.claimed = pass'.claimed ∧ before.first = pass'.first := by
    intro q pass' there
    by_cases at' : q = p
    · subst at'
      rw [List.getElem?_set_self inside, Option.some.injEq] at there
      exact ⟨pass, here, by rw [← there], by rw [← there]⟩
    · rw [List.getElem?_set_ne (Ne.symm at')] at there
      exact ⟨pass', there, rfl, rfl⟩
  refine ⟨store, permits.trans inv.permits, ?_, ?_, ?_, ?_⟩
  · rw [atWork_set here, ← inv.taken]
    exact taken
  · intro q pass' there
    by_cases at' : q = p
    · subst at'
      rw [List.getElem?_set_self inside, Option.some.injEq] at there
      subst there
      exact own
    · rw [List.getElem?_set_ne (Ne.symm at')] at there
      exact others q pass' at' there
  · intro p' q pass₁ pass₂ there there' i within j within' meet
    obtain ⟨before, at₁, claimed, first⟩ := same p' pass₁ there
    obtain ⟨before', at₂, claimed', first'⟩ := same q pass₂ there'
    rw [← claimed] at within
    rw [← claimed'] at within'
    rw [← first, ← first'] at meet
    exact inv.apart p' q before before' at₁ at₂ i within j within' meet
  · intro j call there resumed
    obtain ⟨call', before, resumed'⟩ := arrivals j call there resumed
    obtain ⟨q, pass', i, at', within, meet⟩ := inv.owned j call' before resumed'
    by_cases same : q = p
    · subst same
      rw [here, Option.some.injEq] at at'
      subst at'
      exact ⟨q, { pass with stage }, i, List.getElem?_set_self inside, within, meet⟩
    · exact ⟨q, pass', i, by rw [List.getElem?_set_ne (Ne.symm same), at'], within, meet⟩

/-- A pass moves while the supervisor stays. -/
theorem Inv.quiet (inv : s.Inv configuration) (here : s.passes[p]? = some pass) {mutex : Semaphore} {stage : PassStage limit}
    (permits : mutex.permits = s.mutex.permits) (taken : mutex.taken = s.mutex.taken + held { pass with stage } - held pass)
    (own : Pass.Sound configuration.destination s.supervisor { pass with stage }) :
    Inv configuration ⟨s.supervisor, mutex, s.passes.set p { pass with stage }⟩ :=
  inv.restage here inv.store permits taken (fun q pass' _ there => inv.sound q pass' there) own
    fun _ call there resumed => ⟨call, there, resumed⟩

/-- The batch of a pass is put down behind the calls there are. -/
theorem Inv.scanned (inv : s.Inv configuration) (lawful : M.Lawful) (here : s.passes[p]? = some pass)
    (claiming : pass.stage = .claiming) {nowMillis : ℕ} {c : M.Call} {value : StoreValue}
    (call : Claims configuration c) (answered : (M.exec nowMillis s.supervisor.store c).1 = .ok value) :
    Inv configuration ⟨s.supervisor.enter configuration.toSupervisorConfiguration .resumeClaimed (.ok value)
      (M.exec nowMillis s.supervisor.store c).2, s.mutex, s.passes.set p { pass with
        stage := .claimed, claimed := handedOut (.ok value : Reply), first := s.supervisor.calls.length }⟩ := by
  have inside := (List.getElem?_eq_some_iff.1 here).1
  have blank := (inv.sound p pass here).blank (.inr claiming)
  have distinct : ((handedOut (.ok value : Reply)).map fun claimed => claimed.delivery.id).Nodup := by
    have fresh : M.Fresh s.supervisor.store c := by
      intro id creates
      rw [show M.call c = _ from call] at creates
      cases creates
    have served := lawful.served nowMillis c inv.store fresh
    rw [answered] at served
    exact handedOut_answer (.ok value) ▸ served.handsOut_distinct
  have kept {j : ℕ} {call : SupervisorCall} (there : s.supervisor.calls[j]? = some call) :
      (s.supervisor.enter configuration.toSupervisorConfiguration .resumeClaimed (.ok value)
        (M.exec nowMillis s.supervisor.store c).2).calls[j]? = some call := by
    show (s.supervisor.calls ++ _)[j]? = _
    rw [List.getElem?_append_left (List.getElem?_eq_some_iff.1 there).1, there]
  refine ⟨lawful.sound nowMillis c inv.store, inv.permits, ?_, ?_, ?_, ?_⟩
  · rw [atWork_set here, ← inv.taken]
    simp [held, Pass.atWork, claiming]
  · intro q pass' there
    by_cases at' : q = p
    · subst at'
      rw [List.getElem?_set_self inside, Option.some.injEq] at there
      subst there
      refine ⟨?_, ?_, ?_, distinct, ?_⟩
      · rintro (waiting | claiming') <;> contradiction
      · rintro sweep (resuming | unwinding) <;> contradiction
      · intro n exited
        contradiction
      · intro i claimed member
        refine ⟨.claimed claimed, ?_, fun _ => rfl, fun _ => .claimed, fun ended => absurd ended not_false, fun _ _ => .inl rfl⟩
        show (s.supervisor.calls ++ _)[s.supervisor.calls.length + i]? = _
        rw [List.getElem?_append_right (Nat.le_add_right ..), Nat.add_sub_cancel_left, List.getElem?_map, member]
        rfl
    · rw [List.getElem?_set_ne (Ne.symm at')] at there
      exact (inv.sound q pass' there).moved fun i claimed stage _ before follows => ⟨stage, kept before, follows⟩
  · -- the calls of the other batches are below the new ones
    have below : ∀ (q : ℕ) (pass' : Pass limit), q ≠ p → (s.passes.set p { pass with
        stage := .claimed, claimed := handedOut (.ok value : Reply), first := s.supervisor.calls.length })[q]? = some pass' →
        s.passes[q]? = some pass' := by
      intro q pass' apart there
      rwa [List.getElem?_set_ne (Ne.symm apart)] at there
    intro p' q pass₁ pass₂ there there' i within j within' meet
    by_cases at₁ : p' = p <;> by_cases at₂ : q = p
    · rw [at₁, at₂]
    · rw [at₁, List.getElem?_set_self inside, Option.some.injEq] at there
      have := inv.within (below q pass₂ at₂ there') within'
      subst there
      simp only at meet
      omega
    · rw [at₂, List.getElem?_set_self inside, Option.some.injEq] at there'
      have := inv.within (below p' pass₁ at₁ there) within
      subst there'
      simp only at meet
      omega
    · exact inv.apart p' q pass₁ pass₂ (below p' pass₁ at₁ there) (below q pass₂ at₂ there') i within j within' meet
  · intro j call there resumed
    by_cases old : j < s.supervisor.calls.length
    · obtain ⟨q, pass', i, at', within, meet⟩ := inv.owned j _ (List.getElem?_eq_getElem old) (by
        rw [kept (List.getElem?_eq_getElem old), Option.some.injEq] at there
        rwa [there])
      have apart : q ≠ p := by
        rintro rfl
        rw [here, Option.some.injEq] at at'
        subst at'
        rw [blank] at within
        cases within
      exact ⟨q, pass', i, by rw [List.getElem?_set_ne (Ne.symm apart), at'], within, meet⟩
    · refine ⟨p, _, j - s.supervisor.calls.length, List.getElem?_set_self inside, ?_, ?_⟩
      · have bound : j < (s.supervisor.calls ++ (handedOut (.ok value : Reply)).map
            (SupervisorCall.handed .resumeClaimed configuration.destination)).length := (List.getElem?_eq_some_iff.1 there).1
        rw [List.length_append, List.length_map] at bound
        show j - s.supervisor.calls.length < (handedOut (.ok value : Reply)).length
        omega
      · show s.supervisor.calls.length + (j - s.supervisor.calls.length) = j
        omega

/-- The interruption of a call under way in an interrupted pass. -/
theorem Inv.unwound (inv : s.Inv configuration) (lawful : M.Lawful) (here : s.passes[p]? = some pass) {sweep : Sweep limit}
    (unwinding : pass.stage = .unwinding sweep) {i : ℕ} (member : i ∈ sweep.running) {supervisor : SupervisorState M}
    (interrupt : s.supervisor.move (pass.first + i) s.supervisor.interrupt = some supervisor) :
    Inv configuration ⟨supervisor, s.mutex, s.passes.set p pass⟩ := by
  have step : s.supervisor.step configuration.toSupervisorConfiguration (.interrupt (pass.first + i)) = some supervisor := interrupt
  have running : i ∈ pass.running := by
    rw [Pass.running, unwinding]
    exact member
  have inside := running_inside (inv.sound p pass here) running
  refine inv.restage here (SupervisorState.step_sound lawful inv.store step) rfl ?_ ?_ ?_ ?_
  · show s.mutex.taken = s.mutex.taken + held pass - held pass
    omega
  · intro q pass' apart there
    refine (inv.sound q pass' there).moved ?_
    intro j claimed stage at' before follows
    obtain ⟨stage', after, ⟨same, -⟩ | same⟩ := SupervisorState.move_call interrupt before
    · exact absurd (inv.apart q p pass' pass there here j (List.getElem?_eq_some_iff.1 at').1 i inside same) apart
    · refine ⟨stage', after, ?_⟩
      rw [same]
      exact follows
  · refine (inv.sound p pass here).moved ?_
    intro j claimed stage at' before follows
    obtain ⟨stage', after, ⟨same, -⟩ | same⟩ := SupervisorState.move_call interrupt before
    · obtain rfl : j = i := by omega
      refine ⟨stage', after, fun idle => absurd (Pass.running_begun running) idle, fun calm => ?_, fun ended => ?_, ?_⟩
      · simp [Pass.Disturbed, unwinding] at calm
      · simp only [Pass.Over, unwinding] at ended
        exact absurd member ended.2
      · simp [unwinding]
    · refine ⟨stage', after, ?_⟩
      rw [same]
      exact follows
  · exact fun j call there resumed => SupervisorState.step_arrivals step (fun _ _ same => by cases same) there resumed

theorem Inv.moved (inv : s.Inv configuration) (lawful : M.Lawful) (here : s.passes[p]? = some pass)
    {r : SupervisorState M × Semaphore × Pass limit} (moves : PassMoves configuration s pass r) :
    Inv configuration ⟨r.1, r.2.1, s.passes.set p r.2.2⟩ := by
  have sound := inv.sound p pass here
  cases moves with
  | enter mutex waiting taken =>
    obtain ⟨permits, taken⟩ := Semaphore.take_eq_some taken
    refine inv.quiet here permits ?_ (.of_blank (sound.blank (.inl waiting)) ?_ ?_)
    · simp [held, Pass.atWork, waiting, taken]
    · simp
    · simp
  | scanFailed store failure claiming scan =>
    have blank := sound.blank (.inr claiming)
    have stays : M.Sound store := by
      obtain rfl | ⟨nowMillis, c, -, rfl⟩ := scan
      · exact inv.store
      · exact lawful.sound nowMillis c inv.store
    refine inv.restage here stays rfl ?_ ?_ (.of_blank blank ?_ ?_) ?_
    · simp [held, Pass.atWork, claiming]
    · exact fun q pass' _ there => (inv.sound q pass' there).moved fun i claimed stage _ before follows => ⟨stage, before, follows⟩
    · simp
    · intro n exited
      simp only [Pass.failure, PassStage.exited.injEq] at exited
      split at exited <;> cases exited
      rfl
    · exact fun j call there resumed => ⟨call, there, resumed⟩
  | scanned nowMillis c value claiming call answered => exact inv.scanned lawful here claiming call answered
  | afterClaim claimed =>
    refine inv.quiet here rfl ?_ (sound.setStage (by simp) ?_ (by simp) ?_)
    · simp [held, Pass.atWork, claimed]
    · rintro sweep (resuming | unwinding)
      · rw [← PassStage.resuming.inj resuming]
        rfl
      · cases unwinding
    · intro i c stage _ _ follows
      refine ⟨fun _ => follows.waits ?_, fun _ => follows.handed ?_, fun ended => absurd ended.1 (Nat.not_lt_zero i), by simp⟩
      · simp [Pass.Begun, claimed]
      · simp [Pass.Disturbed, claimed]
  | resume sweep sweep' resuming start =>
    obtain ⟨-, size, started, -⟩ := Sweep.start_eq_some start
    refine inv.quiet here rfl ?_ (sound.setStage (by simp) ?_ (by simp) ?_)
    · simp [held, Pass.atWork, resuming]
    · rintro sweep'' (resuming' | unwinding)
      · rw [← PassStage.resuming.inj resuming', size]
        exact sound.size sweep (.inl resuming)
      · cases unwinding
    · intro i c stage _ _ follows
      have calm : ¬ pass.Disturbed := by simp [Pass.Disturbed, resuming]
      refine ⟨fun idle => follows.waits ?_, fun _ => follows.handed calm, ?_, by simp⟩
      · simp only [Pass.Begun, resuming, started] at idle ⊢
        omega
      · intro ended
        have before : pass.Over i := by
          simp only [Pass.Over, resuming] at ended ⊢
          exact (Sweep.ended_start start).1 ended
        obtain ⟨exit, exited, caught⟩ := follows.settled before
        exact ⟨exit, exited, fun _ => caught calm⟩
  | settled sweep sweep' i call exit there exited finish stage kind before =>
    obtain ⟨-, size, started, -⟩ := Sweep.finish_eq_some finish
    have size' : sweep'.size = pass.claimed.length := by
      rw [size]
      obtain ⟨rfl, -⟩ | rfl := kind
      · exact sound.size sweep (.inl before)
      · exact sound.size sweep (.inr before)
    have begun (j : ℕ) : Pass.Begun { pass with stage := stage sweep' } j ↔ pass.Begun j := by
      obtain ⟨rfl, -⟩ | rfl := kind <;> simp only [Pass.Begun, before, started]
    have disturbed : Pass.Disturbed { pass with stage := stage sweep' } ↔ pass.Disturbed := by
      obtain ⟨rfl, -⟩ | rfl := kind <;> simp only [Pass.Disturbed, before]
    have ended (j : ℕ) : Pass.Over { pass with stage := stage sweep' } j ↔ pass.Over j ∨ j = i := by
      obtain ⟨rfl, -⟩ | rfl := kind <;> simp only [Pass.Over, before, Sweep.ended_finish finish]
    refine inv.quiet here rfl ?_ (sound.setStage ?_ ?_ ?_ ?_)
    · obtain ⟨rfl, -⟩ | rfl := kind <;> simp [held, Pass.atWork, before]
    · obtain ⟨rfl, -⟩ | rfl := kind <;> simp
    · intro sweep'' either
      obtain ⟨rfl, -⟩ | rfl := kind
      · obtain same | same := either <;> cases same
        exact size'
      · obtain same | same := either <;> cases same
        exact size'
    · obtain ⟨rfl, -⟩ | rfl := kind <;> simp
    · intro j c stage' _ at' follows
      refine ⟨?_, ?_, ?_, ?_⟩
      · rw [begun]
        exact follows.waits
      · rw [disturbed]
        exact follows.handed
      · rw [ended, disturbed]
        rintro (before' | rfl)
        · exact follows.settled before'
        · rw [there, Option.some.injEq] at at'
          rw [at'] at exited
          refine ⟨exit, exited, fun calm => ?_⟩
          obtain ⟨-, caught⟩ | rfl := kind
          · exact caught
          · exact absurd (by simp [Pass.Disturbed, before]) calm
      · obtain ⟨rfl, -⟩ | rfl := kind <;> simp
  | died sweep sweep' i call exit there exited finish resuming =>
    obtain ⟨-, size, started, -⟩ := Sweep.finish_eq_some finish
    refine inv.quiet here rfl ?_ (sound.setStage (by simp) ?_ (by simp) ?_)
    · simp [held, Pass.atWork, resuming]
    · rintro sweep'' (resuming' | unwinding)
      · cases resuming'
      · rw [← PassStage.unwinding.inj unwinding, size]
        exact sound.size sweep (.inl resuming)
    · intro j c stage' _ at' follows
      refine follows.disturbed trivial ?_ (fun ended => ?_) (by simp)
      · simp only [Pass.Begun, resuming, started, imp_self]
      · have either : pass.Over j ∨ j = i := by
          simpa only [Pass.Over, resuming, Sweep.ended_finish finish] using ended
        refine either.imp_right ?_
        rintro rfl
        rw [there, Option.some.injEq] at at'
        rw [at'] at exited
        exact ⟨exit, exited⟩
  | interruptedEarly waiting =>
    refine inv.quiet here rfl ?_ (.of_blank (sound.blank (.inl waiting)) ?_ ?_)
    · simp [held, Pass.atWork, waiting]
    · simp
    · simp
  | interruptedIdle holds =>
    refine inv.quiet here rfl ?_ (sound.setStage (by simp) (by simp) (by simp) ?_)
    · obtain claiming | claimed := holds
      · simp [held, Pass.atWork, claiming]
      · simp [held, Pass.atWork, claimed]
    · intro i c stage _ _ follows
      refine follows.disturbed trivial (fun _ => trivial) False.elim fun _ _ begun => absurd begun ?_
      obtain claiming | claimed := holds
      · simp [Pass.Begun, claiming]
      · simp [Pass.Begun, claimed]
  | interrupted sweep resuming =>
    refine inv.quiet here rfl ?_ (sound.setStage (by simp) ?_ (by simp) ?_)
    · simp [held, Pass.atWork, resuming]
    · rintro sweep' (resuming' | unwinding)
      · cases resuming'
      · rw [← PassStage.unwinding.inj unwinding]
        exact sound.size sweep (.inl resuming)
    · intro i c stage _ _ follows
      refine follows.disturbed trivial ?_ (fun ended => .inl ?_) (by simp)
      · simp only [Pass.Begun, resuming, imp_self]
      · simpa only [Pass.Over, resuming] using ended
  | unwound sweep i supervisor unwinding member interrupt => exact inv.unwound lawful here unwinding member interrupt
  | reported sweep resuming done =>
    refine inv.quiet here rfl ?_ (sound.setStage (by simp) (by simp) (by simp) ?_)
    · simp [held, Pass.atWork, resuming]
    · intro i c stage member _ follows
      have ended : pass.Over i := by
        simp only [Pass.Over, resuming]
        refine Sweep.ended_of_isDone done ?_
        rw [sound.size sweep (.inl resuming)]
        exact (List.getElem?_eq_some_iff.1 member).1
      have calm : ¬ pass.Disturbed := by simp [Pass.Disturbed, resuming]
      obtain ⟨exit, exited, caught⟩ := follows.settled ended
      exact ⟨fun idle => absurd trivial idle, fun _ => follows.handed calm, fun _ => ⟨exit, exited, fun _ => caught calm⟩,
        fun _ _ => .inr ⟨exit, exited⟩⟩
  | left sweep unwinding idle =>
    refine inv.quiet here rfl ?_ (sound.setStage (by simp) (by simp) (by simp) ?_)
    · simp [held, Pass.atWork, unwinding]
    · intro i c stage _ _ follows
      refine follows.disturbed trivial (fun _ => trivial) False.elim fun _ _ begun => ?_
      simp only [Pass.Begun, unwinding] at begun
      simp only [Pass.Over, unwinding]
      refine ⟨begun, ?_⟩
      rw [idle]
      exact List.not_mem_nil

end ReconcilerState

theorem reconciler_inv (lawful : M.Lawful) {s : ReconcilerState M configuration.concurrency.global}
    (reachable : (reconcilerSystem M configuration).Reachable s) : s.Inv configuration := by
  refine reachable.invariant (fun s => s.Inv configuration) ?_ ?_
  · refine ⟨lawful.sound_empty, rfl, rfl, ?_, ?_, ?_⟩
    · intro p pass here
      cases here
    · intro p q pass pass' here
      cases here
    · intro j call here
      cases here
  · intro s l s' inv step
    cases ReconcilerState.step_cases step with
    | supervisor l supervisor allowed moved => exact inv.supervisor lawful allowed moved
    | arrive safe => exact inv.arrive safe
    | pass p pass r here moves => exact inv.moved lawful here moves

/-- **The supervisor under the reconciler runs as it does on its own**: what holds of the supervisor's runs holds here. -/
theorem reconciler_supervised {s : ReconcilerState M configuration.concurrency.global}
    (reachable : (reconcilerSystem M configuration).Reachable s) :
    (supervisorSystem M configuration.toSupervisorConfiguration).Reachable s.supervisor := by
  refine reachable.invariant
    (fun s => (supervisorSystem M configuration.toSupervisorConfiguration).Reachable s.supervisor) ⟨[], .nil⟩ ?_
  intro s l s' before step
  cases ReconcilerState.step_cases step with
  | supervisor l supervisor allowed moved => exact before.step (l := l) moved
  | arrive safe => exact before
  | pass p pass r here moves =>
    cases moves with
    | scanFailed store failure claiming scan =>
      obtain rfl | ⟨nowMillis, c, call, rfl⟩ := scan
      · exact before
      · have fresh : s.supervisor.fresh c = true := by
          simp [SupervisorState.fresh, show M.call c = _ from call, StoreCall.creates]
        exact before.step (l := .environment nowMillis c) (if_pos fresh)
    | scanned nowMillis c value claiming call answered =>
      refine before.step (l := .reconcile nowMillis c) ?_
      rw [← answered]
      exact if_pos call
    | unwound sweep i supervisor unwinding member interrupt => exact before.step (l := .interrupt (pass.first + i)) interrupt
    | _ => exact before

theorem Adapter.inspected_lawful (adapter : Adapter) : adapter.inspected.Lawful := by
  cases adapter with
  | memory => exact memory_lawful
  | postgres => exact postgres_lawful

/-! ## Passes take turns -/

/-- The deliveries whose calls are under way. -/
def Pass.underway (pass : Pass limit) : List ClaimedDelivery := pass.running.filterMap fun i => pass.claimed[i]?

def ReconcilerState.underway (s : ReconcilerState M limit) : List ClaimedDelivery := s.passes.flatMap (·.underway)

/-- The call is past its offer, and has not exited. -/
def SupervisorCall.waits (call : SupervisorCall) : Bool := call.stage matches .submitted | .refused _

/-- When one element at most has something to add, the list has no more than that. -/
theorem flatMap_of_countP {α β : Type*} {l : List α} {busy : α → Bool} {f : α → List β} (one : l.countP busy ≤ 1)
    (idle : ∀ a, busy a = false → f a = []) : l.flatMap f = [] ∨ ∃ a ∈ l, l.flatMap f = f a := by
  induction l with
  | nil => exact .inl rfl
  | cons a l ih =>
    rw [List.countP_cons] at one
    rw [List.flatMap_cons]
    by_cases here : busy a = true
    · have others : ∀ b ∈ l, busy b = false := by
        have zero : l.countP busy = 0 := by
          rw [if_pos here] at one
          omega
        intro b member
        simpa using List.countP_eq_zero.1 zero b member
      have nothing : l.flatMap f = [] := List.flatMap_eq_nil_iff.2 fun b member => idle b (others b member)
      exact .inr ⟨a, List.mem_cons_self, by rw [nothing, List.append_nil]⟩
    · rw [idle a (by simpa using here), List.nil_append]
      obtain nothing | ⟨b, member, only⟩ := ih (by omega)
      · exact .inl nothing
      · exact .inr ⟨b, List.mem_cons_of_mem a member, only⟩

section Turns

variable {s : ReconcilerState M limit} {destination : DestinationId} {supervisor : SupervisorState M} {pass : Pass limit}

theorem ReconcilerState.Inv.turns (inv : s.Inv configuration) : s.passes.countP (·.atWork) ≤ 1 := by
  have bound := s.mutex.taken_le
  rw [inv.taken, inv.permits] at bound
  omega

theorem Pass.running_of_idle (idle : pass.atWork = false) : pass.running = [] := by
  unfold Pass.running
  unfold Pass.atWork at idle
  cases stage : pass.stage with
  | waiting | claiming | claimed | exited exit => rfl
  | resuming sweep | unwinding sweep => simp [stage] at idle

theorem Pass.running_nodup : pass.running.Nodup := by
  unfold Pass.running
  cases pass.stage with
  | waiting | claiming | claimed | exited exit => exact .nil
  | resuming sweep | unwinding sweep => exact sweep.nodup

theorem Pass.running_le : pass.running.length ≤ limit := by
  unfold Pass.running
  cases pass.stage with
  | waiting | claiming | claimed | exited exit => exact Nat.zero_le limit
  | resuming sweep | unwinding sweep => exact sweep.running_le

theorem Pass.underway_le : pass.underway.length ≤ limit :=
  (List.length_filterMap_le ..).trans Pass.running_le

/-- No delivery is twice in a batch, so none is under way twice. -/
theorem Pass.Sound.underway_distinct (sound : pass.Sound destination supervisor) :
    (pass.underway.map fun claimed => claimed.delivery.id).Nodup := by
  have ids : pass.underway.map (fun claimed => claimed.delivery.id) =
      pass.running.filterMap fun i => (pass.claimed.map fun claimed => claimed.delivery.id)[i]? := by
    rw [Pass.underway, List.map_filterMap]
    simp only [List.getElem?_map]
  rw [ids]
  refine Pass.running_nodup.filterMap ?_
  intro i j id member member'
  exact (List.getElem?_inj (List.getElem?_eq_some_iff.1 member).1 sound.distinct).1 (member.trans member'.symm)

/-- A call that waits is under way in its pass. -/
theorem ReconcilerState.Inv.waits_runs (inv : s.Inv configuration) {j : ℕ} {call : SupervisorCall}
    (here : s.supervisor.calls[j]? = some call) (resumed : call.entrance = .resumeClaimed) (waits : call.waits = true) :
    ∃ pass ∈ s.passes, pass.runs j = true := by
  obtain ⟨p, pass, i, there, inside, rfl⟩ := inv.owned j call here resumed
  refine ⟨pass, List.mem_of_getElem? there, ?_⟩
  obtain ⟨stage, at', follows⟩ := (inv.sound p pass there).calls i _ (List.getElem?_eq_getElem inside)
  rw [here, Option.some.injEq] at at'
  have unclaimed : ∀ claimed, stage ≠ .claimed claimed := by
    rintro claimed rfl
    rw [at'] at waits
    cases waits
  have underway : ∀ exit, stage ≠ .exited exit := by
    rintro exit rfl
    rw [at'] at waits
    cases waits
  have begun : pass.Begun i := by
    by_contra idle
    exact unclaimed _ (follows.waits idle)
  have running : i ∈ pass.running := by
    by_contra idle
    cases at'' : pass.stage with
    | waiting | claiming | claimed => simp [Pass.Begun, at''] at begun
    | resuming sweep | unwinding sweep =>
      simp only [Pass.Begun, at''] at begun
      simp only [Pass.running, at''] at idle
      obtain ⟨exit, exited, -⟩ := follows.settled (by simp only [Pass.Over, at'']; exact ⟨begun, idle⟩)
      exact underway exit exited
    | exited exit =>
      obtain dropped | ⟨exit, exited⟩ := follows.left exit at''
      · exact unclaimed _ dropped
      · exact underway exit exited
  exact List.any_eq_true.2 ⟨i, running, decide_eq_true rfl⟩

end Turns

/-- **Reconciliation is bounded**: one pass is at work at a time, no more of its calls are under way than attempts may run,
they are for different deliveries, and no call of an earlier pass is left in the supervisor. -/
theorem reconciliation_bounded (adapter : Adapter) (configuration : ReconcilerConfiguration)
    {s : ReconcilerState adapter.inspected configuration.concurrency.global}
    (reachable : (reconcilerSystem adapter.inspected configuration).Reachable s) :
    s.passes.countP (·.atWork) ≤ 1 ∧ s.underway.length ≤ configuration.concurrency.global ∧
      (s.underway.map fun claimed => claimed.delivery.id).Nodup ∧
      ∀ (i : ℕ) (call : SupervisorCall), s.supervisor.calls[i]? = some call → call.entrance = .resumeClaimed →
        call.waits = true → ∃ pass ∈ s.passes, pass.atWork = true ∧ pass.runs i = true := by
  have inv := reconciler_inv adapter.inspected_lawful reachable
  have only := flatMap_of_countP inv.turns (f := Pass.underway) fun pass idle => by
    rw [Pass.underway, Pass.running_of_idle idle]
    rfl
  refine ⟨inv.turns, ?_, ?_, ?_⟩
  · obtain nothing | ⟨pass, -, alone⟩ := only
    · rw [ReconcilerState.underway, nothing]
      exact Nat.zero_le _
    · rw [ReconcilerState.underway, alone]
      exact Pass.underway_le
  · obtain nothing | ⟨pass, member, alone⟩ := only
    · rw [ReconcilerState.underway, nothing]
      exact .nil
    · rw [ReconcilerState.underway, alone]
      obtain ⟨p, here⟩ := List.mem_iff_getElem?.1 member
      exact (inv.sound p pass here).underway_distinct
  · intro i call here resumed waits
    obtain ⟨pass, member, runs⟩ := inv.waits_runs here resumed waits
    refine ⟨pass, member, ?_, runs⟩
    by_contra idle
    simp [Pass.runs, Pass.running_of_idle (by simpa using idle : pass.atWork = false)] at runs

/-! ### A pass with one delivery -/

namespace Sample

def reconciliation : ReconcilerConfiguration := { supervision with concurrency := ⟨Nat.toPNat' 1, Nat.toPNat' 1⟩ }

/-- A delivery whose first claim has expired is claimed, and its call offers the new claim. -/
def resuming : List (ReconcilerLabel Adapter.memory.inspected) :=
  [.supervisor (.environment 0 savePending), .reconcileOnce, .enter 0,
    .claim 0 .answered 5000 (.claimPending worker destination 10 1000), .afterClaim 0, .resume 0, .supervisor (.offer 0)]

/-- The destination takes the event at the first attempt. -/
def resumed : DeliveryResult :=
  .delivered ⟨delivery, destination, [⟨1, 5000, 5000, .delivered destination 200, .terminal⟩]⟩ 200

def settling : List (ReconcilerLabel Adapter.memory.inspected) :=
  resuming ++ [.supervisor (.take 1), .supervisor .dispatch, .supervisor (.settle 0 (.ok resumed)), .settle 0 0, .leave 0]

end Sample

theorem reconciliation_bounded_resuming : ∃ s : ReconcilerState Adapter.memory.inspected Sample.reconciliation.concurrency.global,
    s.underway.map (·.delivery.id) = [Sample.delivery] ∧ s.underway.length ≤ Sample.reconciliation.concurrency.global := by
  have ends : (Sample.resuming.foldlM (ReconcilerState.step Sample.reconciliation)
      (reconcilerSystem Adapter.memory.inspected Sample.reconciliation).init).map
      (fun s => s.underway.map (·.delivery.id)) = some [Sample.delivery] := by
    decide +kernel
  obtain ⟨s, run, underway⟩ := Option.map_eq_some_iff.1 ends
  exact ⟨s, underway, (reconciliation_bounded .memory Sample.reconciliation ⟨_, TransitionSystem.path_of_foldlM run⟩).2.1⟩

/-! ## Reports -/

/-- The delivery has been worked on to a result or a failure, its claim has been given back, or giving it back has failed. -/
def CallExit.settles : CallExit → Bool
  | .completed exit => CallExit.caught (.completed exit)
  | .overloaded _ => true
  | .failed failure => CallExit.caught (.failed failure)
  | .enqueued | .invalid | .interrupted => false

/-- **A report counts what was done**: a pass that reports has resumed each delivery of its batch by one call, which has
settled it, and no call of `resumeClaimed` is of two passes, or of none. -/
theorem report_settles (adapter : Adapter) (configuration : ReconcilerConfiguration)
    {s : ReconcilerState adapter.inspected configuration.concurrency.global}
    (reachable : (reconcilerSystem adapter.inspected configuration).Reachable s) :
    (∀ (p : ℕ) (pass : Pass configuration.concurrency.global) (n : ℕ), s.passes[p]? = some pass →
      pass.stage = .exited (.reported n) → n = pass.claimed.length ∧
        ∀ (i : ℕ) (claimed : ClaimedDelivery), pass.claimed[i]? = some claimed → ∃ exit, exit.settles = true ∧
          s.supervisor.calls[pass.first + i]? = some (.resumed configuration.destination claimed (.exited exit))) ∧
      ∀ (j : ℕ) (call : SupervisorCall), s.supervisor.calls[j]? = some call → call.entrance = .resumeClaimed →
        ∃! item : ℕ × ℕ, ∃ pass, s.passes[item.1]? = some pass ∧ item.2 < pass.claimed.length ∧ pass.first + item.2 = j := by
  have inv := reconciler_inv adapter.inspected_lawful reachable
  refine ⟨?_, ?_⟩
  · intro p pass n here reported
    have sound := inv.sound p pass here
    refine ⟨sound.report n reported, ?_⟩
    intro i claimed member
    obtain ⟨stage, there, follows⟩ := sound.calls i claimed member
    have calm : ¬ pass.Disturbed := by simp [Pass.Disturbed, reported]
    obtain ⟨exit, rfl, caught⟩ := follows.settled (by simp [Pass.Over, reported])
    have handed := follows.handed calm
    refine ⟨exit, ?_, there⟩
    cases handed with
    | completed exit | failed failure => exact caught calm
    | overloaded error => rfl
  · intro j call here resumed
    obtain ⟨p, pass, i, there, inside, rfl⟩ := inv.owned j call here resumed
    refine ⟨(p, i), ⟨pass, there, inside, rfl⟩, ?_⟩
    rintro ⟨q, k⟩ ⟨pass', there', inside', meet⟩
    obtain rfl := inv.apart q p pass' pass there' there k inside' i inside meet
    rw [there, Option.some.injEq] at there'
    subst there'
    rw [Prod.mk.injEq]
    exact ⟨rfl, Nat.add_left_cancel meet⟩

theorem report_settles_settling : ∃ (s : ReconcilerState Adapter.memory.inspected Sample.reconciliation.concurrency.global)
    (pass : Pass Sample.reconciliation.concurrency.global), s.passes[0]? = some pass ∧ pass.stage = .exited (.reported 1) ∧
      1 = pass.claimed.length := by
  have ends : (Sample.settling.foldlM (ReconcilerState.step Sample.reconciliation)
      (reconcilerSystem Adapter.memory.inspected Sample.reconciliation).init).map
      (fun s => s.passes[0]?.map (·.stage)) = some (some (.exited (.reported 1))) := by
    decide +kernel
  obtain ⟨s, run, first⟩ := Option.map_eq_some_iff.1 ends
  obtain ⟨pass, here, reported⟩ := Option.map_eq_some_iff.1 first
  exact ⟨s, pass, here, reported,
    ((report_settles .memory Sample.reconciliation ⟨_, TransitionSystem.path_of_foldlM run⟩).1 0 pass 1 here reported).1⟩

end Relay
