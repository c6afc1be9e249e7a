import Relay.Supervisor.Overload

/-!
# One call among the steps of the supervisor

A step of the supervisor moves at most one call, and by its own label unless a result
comes in. A call that was handed a claim offers it, and waits for its result or gives the
claim back; a call that waits has its request in the queue or further on.
-/

namespace Relay

/-- The stages of a call that was handed a claim, while nobody interrupts it. -/
inductive CallStage.Handed (claimed : ClaimedDelivery) : CallStage → Prop where
  | claimed : Handed claimed (.claimed claimed)
  | refused : Handed claimed (.refused claimed)
  | submitted : Handed claimed .submitted
  | completed (exit : Except JobFailure DeliveryResult) : Handed claimed (.exited (.completed exit))
  | overloaded (error : DeliveryOverloaded) : Handed claimed (.exited (.overloaded error))
  | failed (failure : Failure) : Handed claimed (.exited (.failed failure))

namespace SupervisorState

variable {M : InspectedStore} {configuration : SupervisorConfiguration} {s s' : SupervisorState M}

/-- What a step makes of call `i`. -/
inductive CallMoves (l : SupervisorLabel M) (i : ℕ) (call : SupervisorCall) : CallStage → Prop where
  | same : CallMoves l i call call.stage
  | early (stage : CallStage) (early : call.stage = .arriving ∨ call.stage = .admitted) : CallMoves l i call stage
  | queued (claimed : ClaimedDelivery) (stage : CallStage) (offer : l = .offer i) (before : call.stage = .claimed claimed)
      (after : call.entrance ≠ .enqueueClaimed → stage = .submitted) : CallMoves l i call stage
  | refused (claimed : ClaimedDelivery) (offer : l = .offer i) (before : call.stage = .claimed claimed) :
      CallMoves l i call (.refused claimed)
  | released (claimed : ClaimedDelivery) (passage : Passage) (nowMillis : ℕ) (c : M.Call) (exit : CallExit)
      (release : l = .release i passage nowMillis c) (before : call.stage = .refused claimed)
      (after : call.entrance ≠ .enqueueClaimed → (∃ failure, exit = .failed failure) ∨ ∃ error, exit = .overloaded error) :
      CallMoves l i call (.exited exit)
  | settled (k : ℕ) (exit : Except JobFailure DeliveryResult) (settle : l = .settle k exit) (before : call.stage = .submitted) :
      CallMoves l i call (.exited (.completed exit))
  | interrupted (interrupt : l = .interrupt i) (underway : ∀ exit, call.stage ≠ .exited exit) :
      CallMoves l i call (.exited .interrupted)

theorem move_call {i j : ℕ} {call : SupervisorCall} {f : SupervisorCall → Option (SupervisorState M × CallStage)}
    (moves : s.move j f = some s') (here : s.calls[i]? = some call) : ∃ stage, s'.calls[i]? = some { call with stage } ∧
      (i = j ∧ (∃ moved, f call = some (moved, stage)) ∨ stage = call.stage) := by
  obtain ⟨call', moved, stage, there, effect, rfl⟩ := move_eq_some moves
  have inside := (List.getElem?_eq_some_iff.1 here).1
  by_cases same : i = j
  · subst same
    rw [here, Option.some.injEq] at there
    subst there
    exact ⟨stage, List.getElem?_set_self inside, .inl ⟨rfl, moved, effect⟩⟩
  · exact ⟨call.stage, by rw [List.getElem?_set_ne (Ne.symm same), here], .inr rfl⟩

theorem admitCall_early {call : SupervisorCall} {moved : SupervisorState M} {stage : CallStage}
    (moves : s.admitCall configuration call = some (moved, stage)) : call.stage = .arriving := by
  unfold admitCall at moves
  split at moves
  · next arriving => exact arriving
  · cases moves

theorem invalid_early {call : SupervisorCall} {moved : SupervisorState M} {stage : CallStage}
    (moves : s.invalid call = some (moved, stage)) : call.stage = .admitted := by
  unfold invalid at moves
  split at moves
  · next admitted => exact admitted
  · cases moves

theorem persist_early {i : ℕ} {call : SupervisorCall} {passage : Passage} {nowMillis : ℕ} {c : M.Call}
    {moved : SupervisorState M} {stage : CallStage}
    (moves : s.persist configuration i call passage nowMillis c = some (moved, stage)) : call.stage = .admitted := by
  unfold persist at moves
  split at moves
  · split at moves
    · next meets => exact meets.1
    · cases moves
  · cases moves

theorem offer_moves {i : ℕ} {call : SupervisorCall} {moved : SupervisorState M} {stage : CallStage}
    (moves : s.offer configuration i call = some (moved, stage)) : CallMoves (.offer i : SupervisorLabel M) i call stage := by
  unfold offer at moves
  split at moves
  · next claimed before =>
    split at moves
    · obtain ⟨-, rfl⟩ := Prod.mk.inj (Option.some.inj moves)
      exact .queued claimed _ rfl before fun other => if_neg other
    · obtain ⟨-, rfl⟩ := Prod.mk.inj (Option.some.inj moves)
      exact .refused claimed rfl before
  · cases moves

theorem release_moves {i : ℕ} {call : SupervisorCall} {passage : Passage} {nowMillis : ℕ} {c : M.Call}
    {moved : SupervisorState M} {stage : CallStage}
    (moves : s.release configuration i call passage nowMillis c = some (moved, stage)) :
    CallMoves (.release i passage nowMillis c) i call stage := by
  unfold release at moves
  split at moves
  · next claimed before =>
    split at moves
    · generalize M.ask passage nowMillis s.store c = asked at moves
      obtain ⟨reply, store⟩ := asked
      obtain ⟨-, rfl⟩ := Prod.mk.inj (Option.some.inj moves)
      refine .released claimed passage nowMillis c _ rfl before fun other => ?_
      cases reply with
      | error failure => exact .inl ⟨failure, rfl⟩
      | ok value => exact .inr ⟨_, if_neg other⟩
    · cases moves
  · cases moves

theorem interrupt_moves {i : ℕ} {call : SupervisorCall} {moved : SupervisorState M} {stage : CallStage}
    (moves : s.interrupt call = some (moved, stage)) : CallMoves (.interrupt i : SupervisorLabel M) i call stage := by
  unfold interrupt at moves
  split at moves
  · cases moves
  · next underway =>
    obtain ⟨-, rfl⟩ := Prod.mk.inj (Option.some.inj moves)
    exact .interrupted rfl underway

/-- A step moves a call as one of these. -/
theorem step_call {l : SupervisorLabel M} (step : s.step configuration l = some s') {i : ℕ} {call : SupervisorCall}
    (here : s.calls[i]? = some call) : ∃ stage, s'.calls[i]? = some { call with stage } ∧ CallMoves l i call stage := by
  have kept {calls : List SupervisorCall} : (s.calls ++ calls)[i]? = some call := by
    rw [List.getElem?_append_left (List.getElem?_eq_some_iff.1 here).1, here]
  have own {j : ℕ} {f : SupervisorCall → Option (SupervisorState M × CallStage)} (moves : s.move j f = some s')
      (each : ∀ moved stage, i = j → f call = some (moved, stage) → CallMoves l i call stage) :
      ∃ stage, s'.calls[i]? = some { call with stage } ∧ CallMoves l i call stage := by
    obtain ⟨stage, there, ⟨same, moved, effect⟩ | rfl⟩ := move_call moves here
    · exact ⟨stage, there, each moved stage same effect⟩
    · exact ⟨call.stage, there, .same⟩
  cases l with
  | deliverTo destinationId =>
    cases step
    exact ⟨call.stage, kept, .same⟩
  | admitCall j => exact own step fun _ stage _ effect => .early stage (.inl (admitCall_early effect))
  | invalid j => exact own step fun _ stage _ effect => .early stage (.inr (invalid_early effect))
  | persist j passage nowMillis c => exact own step fun _ stage _ effect => .early stage (.inr (persist_early effect))
  | accept nowMillis c =>
    simp only [SupervisorState.step] at step
    split at step
    · split at step
      · cases step
        exact ⟨call.stage, kept, .same⟩
      · cases step
    · cases step
  | reconcile nowMillis c =>
    simp only [SupervisorState.step] at step
    split at step
    · cases step
      exact ⟨call.stage, kept, .same⟩
    · cases step
  | offer j =>
    refine own step fun _ stage same effect => ?_
    subst same
    exact offer_moves effect
  | release j passage nowMillis c =>
    refine own step fun _ stage same effect => ?_
    subst same
    exact release_moves effect
  | take n =>
    simp only [SupervisorState.step] at step
    split at step
    · cases step
      exact ⟨call.stage, here, .same⟩
    · cases step
  | dispatch =>
    simp only [SupervisorState.step] at step
    split at step
    · cases step
    · split at step
      · cases step
        exact ⟨call.stage, here, .same⟩
      · cases step
  | settle k exit =>
    obtain ⟨job, -, rfl⟩ := Option.map_eq_some_iff.1 step
    by_cases same : job.call = i
    · by_cases submitted : call.stage = .submitted
      · refine ⟨.exited (.completed exit), ?_, .settled k exit rfl submitted⟩
        simp [same, here, SupervisorCall.settle, submitted]
      · refine ⟨call.stage, ?_, .same⟩
        simp [same, here, SupervisorCall.settle, submitted]
    · refine ⟨call.stage, ?_, .same⟩
      simp [same, here]
  | interrupt j =>
    refine own step fun _ stage same effect => ?_
    subst same
    exact interrupt_moves effect
  | environment nowMillis c =>
    simp only [SupervisorState.step] at step
    split at step
    · cases step
      exact ⟨call.stage, here, .same⟩
    · cases step

/-- No step but a claim brings calls of `resumeClaimed`. -/
theorem step_arrivals {l : SupervisorLabel M} (step : s.step configuration l = some s')
    (other : ∀ nowMillis c, l ≠ .reconcile nowMillis c) {i : ℕ} {call : SupervisorCall} (there : s'.calls[i]? = some call)
    (resumed : call.entrance = .resumeClaimed) : ∃ call, s.calls[i]? = some call ∧ call.entrance = .resumeClaimed := by
  have entered {calls : List SupervisorCall} (there : (s.calls ++ calls)[i]? = some call)
      (none : ∀ call ∈ calls, call.entrance ≠ .resumeClaimed) : ∃ call, s.calls[i]? = some call ∧ call.entrance = .resumeClaimed := by
    by_cases inside : i < s.calls.length
    · rw [List.getElem?_append_left inside] at there
      exact ⟨call, there, resumed⟩
    · rw [List.getElem?_append_right (by omega)] at there
      exact absurd resumed (none call (List.mem_of_getElem? there))
  by_cases inside : i < s.calls.length
  · obtain ⟨stage, there', -⟩ := step_call step (List.getElem?_eq_getElem inside)
    rw [there, Option.some.injEq] at there'
    rw [there'] at resumed
    exact ⟨s.calls[i], List.getElem?_eq_getElem inside, resumed⟩
  · have moved {j : ℕ} {f : SupervisorCall → Option (SupervisorState M × CallStage)} (moves : s.move j f = some s') :
        s'.calls.length = s.calls.length := by
      obtain ⟨call', moved, stage, -, -, rfl⟩ := move_eq_some moves
      exact List.length_set
    have within := (List.getElem?_eq_some_iff.1 there).1
    cases l with
    | deliverTo destinationId =>
      cases step
      refine entered there fun call member => ?_
      rw [List.mem_singleton.1 member]
      exact Entrance.noConfusion
    | accept nowMillis c =>
      simp only [SupervisorState.step] at step
      split at step
      · split at step
        · cases step
          refine entered there fun call member => ?_
          obtain ⟨claimed, -, rfl⟩ := List.mem_map.1 member
          exact Entrance.noConfusion
        · cases step
      · cases step
    | reconcile nowMillis c => exact absurd rfl (other nowMillis c)
    | admitCall j | invalid j | persist j | offer j | release j | interrupt j =>
      rw [moved step] at within
      exact absurd within inside
    | take n =>
      simp only [SupervisorState.step] at step
      split at step
      · cases step
        exact absurd within inside
      · cases step
    | dispatch =>
      simp only [SupervisorState.step] at step
      split at step
      · cases step
      · split at step
        · cases step
          exact absurd within inside
        · cases step
    | settle k exit =>
      obtain ⟨job, -, rfl⟩ := Option.map_eq_some_iff.1 step
      rw [List.length_modify] at within
      exact absurd within inside
    | environment nowMillis c =>
      simp only [SupervisorState.step] at step
      split at step
      · cases step
        exact absurd within inside
      · cases step

theorem ask_sound (lawful : M.Lawful) (sound : M.Sound s.store) (passage : Passage) (nowMillis : ℕ) (c : M.Call) :
    M.Sound (M.ask passage nowMillis s.store c).2 := by
  cases passage with
  | answered | unanswered failure => exact lawful.sound nowMillis c sound
  | unreached failure => exact sound

theorem step_sound (lawful : M.Lawful) (sound : M.Sound s.store) {l : SupervisorLabel M}
    (step : s.step configuration l = some s') : M.Sound s'.store := by
  have own {j : ℕ} {f : SupervisorCall → Option (SupervisorState M × CallStage)} (moves : s.move j f = some s')
      (each : ∀ call moved stage, f call = some (moved, stage) → M.Sound moved.store) : M.Sound s'.store := by
    obtain ⟨call, moved, stage, -, effect, rfl⟩ := move_eq_some moves
    exact each call moved stage effect
  cases l with
  | deliverTo destinationId =>
    cases step
    exact sound
  | admitCall j =>
    refine own step fun call moved stage effect => ?_
    unfold admitCall at effect
    split at effect <;> cases effect
    exact sound
  | invalid j =>
    refine own step fun call moved stage effect => ?_
    unfold invalid at effect
    split at effect <;> cases effect
    exact sound
  | persist j passage nowMillis c =>
    refine own step fun call moved stage effect => ?_
    unfold persist at effect
    split at effect
    · split at effect
      · obtain ⟨rfl, -⟩ := Prod.mk.inj (Option.some.inj effect)
        exact ask_sound lawful sound passage nowMillis c
      · cases effect
    · cases effect
  | accept nowMillis c =>
    simp only [SupervisorState.step] at step
    split at step
    · split at step
      · cases step
        exact lawful.sound nowMillis c sound
      · cases step
    · cases step
  | reconcile nowMillis c =>
    simp only [SupervisorState.step] at step
    split at step
    · cases step
      exact lawful.sound nowMillis c sound
    · cases step
  | offer j =>
    refine own step fun call moved stage effect => ?_
    unfold offer at effect
    split at effect
    · split at effect <;> cases effect <;> exact sound
    · cases effect
  | release j passage nowMillis c =>
    refine own step fun call moved stage effect => ?_
    unfold release at effect
    split at effect
    · split at effect
      · obtain ⟨rfl, -⟩ := Prod.mk.inj (Option.some.inj effect)
        exact ask_sound lawful sound passage nowMillis c
      · cases effect
    · cases effect
  | take n =>
    simp only [SupervisorState.step] at step
    split at step <;> cases step
    exact sound
  | dispatch =>
    simp only [SupervisorState.step] at step
    split at step
    · cases step
    · split at step <;> cases step
      exact sound
  | settle k exit =>
    obtain ⟨job, -, rfl⟩ := Option.map_eq_some_iff.1 step
    exact sound
  | interrupt j =>
    refine own step fun call moved stage effect => ?_
    unfold interrupt at effect
    split at effect <;> cases effect
    exact sound
  | environment nowMillis c =>
    simp only [SupervisorState.step] at step
    split at step <;> cases step
    exact lawful.sound nowMillis c sound

end SupervisorState

namespace SupervisorState.CallMoves

variable {M : InspectedStore} {l : SupervisorLabel M} {i : ℕ} {call : SupervisorCall} {stage : CallStage}

theorem handed {claimed : ClaimedDelivery} (moves : CallMoves l i call stage) (handed : call.stage.Handed claimed)
    (resumed : call.entrance = .resumeClaimed) (calm : l ≠ .interrupt i) : stage.Handed claimed := by
  have other : call.entrance ≠ .enqueueClaimed := by
    rw [resumed]
    exact Entrance.noConfusion
  cases moves with
  | same => exact handed
  | early stage early =>
    obtain arriving | admitted := early
    · rw [arriving] at handed
      cases handed
    · rw [admitted] at handed
      cases handed
  | queued claimed' stage offer before after =>
    rw [after other]
    exact .submitted
  | refused claimed' offer before =>
    rw [before] at handed
    cases handed
    exact .refused
  | released claimed' passage nowMillis c exit release before after =>
    obtain ⟨failure, rfl⟩ | ⟨error, rfl⟩ := after other
    · exact .failed failure
    · exact .overloaded error
  | settled k exit settle before => exact .completed exit
  | interrupted interrupt => exact absurd interrupt calm

/-- A claim waits for its offer. -/
theorem claimed {claimed : ClaimedDelivery} (moves : CallMoves l i call stage) (before : call.stage = .claimed claimed)
    (calm : l ≠ .interrupt i) (silent : l ≠ .offer i) : stage = .claimed claimed := by
  cases moves with
  | same => exact before
  | early stage early => simp [before] at early
  | queued claimed' stage offer | refused claimed' offer => exact absurd offer silent
  | released claimed' passage nowMillis c exit release refused => simp [before] at refused
  | settled k exit settle submitted => simp [before] at submitted
  | interrupted interrupt => exact absurd interrupt calm

/-- A call exits once. -/
theorem exited {exit : CallExit} (moves : CallMoves l i call stage) (before : call.stage = .exited exit) :
    stage = .exited exit := by
  cases moves with
  | same => exact before
  | early stage early => simp [before] at early
  | queued claimed' stage offer claimed => simp [before] at claimed
  | refused claimed' offer claimed => simp [before] at claimed
  | released claimed' passage nowMillis c exit release refused => simp [before] at refused
  | settled k exit settle submitted => simp [before] at submitted
  | interrupted interrupt underway => exact absurd before (underway exit)

end SupervisorState.CallMoves

/-! ## Requests under way -/

namespace SupervisorState

variable {M : InspectedStore} {configuration : SupervisorConfiguration} {s s' : SupervisorState M}

def jobs (s : SupervisorState M) : List DeliveryJob := s.deliveries ++ s.hand ++ s.queue

/-- A call that waits has its request under way. -/
def Attended (s : SupervisorState M) : Prop :=
  ∀ (i : ℕ) (call : SupervisorCall), s.calls[i]? = some call → call.stage = .submitted → ∃ job ∈ s.jobs, job.call = i

theorem Attended.move (attended : s.Attended) {j : ℕ} {f : SupervisorCall → Option (SupervisorState M × CallStage)}
    (moves : s.move j f = some s') (jobs : ∀ job ∈ s.jobs, job ∈ s'.jobs)
    (each : ∀ call moved stage, f call = some (moved, stage) → stage = .submitted → ∃ job ∈ s'.jobs, job.call = j) :
    s'.Attended := by
  intro i call there submitted
  obtain ⟨call', moved, stage, here, effect, rfl⟩ := move_eq_some moves
  by_cases same : j = i
  · subst same
    rw [List.getElem?_set_self (List.getElem?_eq_some_iff.1 here).1, Option.some.injEq] at there
    subst there
    exact each call' moved stage effect submitted
  · rw [List.getElem?_set_ne same] at there
    obtain ⟨job, member, of⟩ := attended i call there submitted
    exact ⟨job, jobs job member, of⟩

theorem Attended.arrive (attended : s.Attended) {calls : List SupervisorCall} (there : s'.calls = s.calls ++ calls)
    (fresh : ∀ call ∈ calls, call.stage ≠ .submitted) (jobs : s'.jobs = s.jobs) : s'.Attended := by
  intro i call here submitted
  rw [there] at here
  by_cases inside : i < s.calls.length
  · rw [List.getElem?_append_left inside] at here
    rw [jobs]
    exact attended i call here submitted
  · rw [List.getElem?_append_right (by omega)] at here
    exact absurd submitted (fresh call (List.mem_of_getElem? here))

theorem Attended.enter (attended : s.Attended) (entrance : Entrance) (reply : Reply) (store : M.Store) :
    (s.enter configuration entrance reply store).Attended := by
  refine attended.arrive rfl ?_ rfl
  intro call member
  obtain ⟨claimed, -, rfl⟩ := List.mem_map.1 member
  exact CallStage.noConfusion

/-- A call that goes on without handing its delivery over leaves what is under way. -/
def KeepsJobs (s : SupervisorState M) (f : SupervisorCall → Option (SupervisorState M × CallStage)) : Prop :=
  ∀ call moved stage, f call = some (moved, stage) → moved.jobs = s.jobs ∧ stage ≠ .submitted

theorem Attended.of_keepsJobs (attended : s.Attended) {j : ℕ} {f : SupervisorCall → Option (SupervisorState M × CallStage)}
    (moves : s.move j f = some s') (keeps : s.KeepsJobs f) : s'.Attended := by
  refine attended.move moves ?_ ?_
  · obtain ⟨call, moved, stage, -, effect, rfl⟩ := move_eq_some moves
    intro job member
    show job ∈ moved.jobs
    rw [(keeps call moved stage effect).1]
    exact member
  · intro call moved stage effect submitted
    exact absurd submitted (keeps call moved stage effect).2

theorem admitCall_keepsJobs : s.KeepsJobs (s.admitCall configuration) := by
  intro call moved stage effect
  unfold admitCall at effect
  split at effect <;> cases effect
  refine ⟨rfl, ?_⟩
  cases configuration.refusal s.admitted call.destinationId <;> exact CallStage.noConfusion

theorem invalid_keepsJobs : s.KeepsJobs s.invalid := by
  intro call moved stage effect
  unfold invalid at effect
  split at effect <;> cases effect
  exact ⟨rfl, CallStage.noConfusion⟩

theorem persist_keepsJobs (i : ℕ) (passage : Passage) (nowMillis : ℕ) (c : M.Call) :
    s.KeepsJobs fun call => s.persist configuration i call passage nowMillis c := by
  intro call moved stage effect
  simp only at effect
  unfold persist at effect
  split at effect
  · split at effect
    · obtain ⟨rfl, rfl⟩ := Prod.mk.inj (Option.some.inj effect)
      refine ⟨rfl, ?_⟩
      unfold CallStage.persisted
      split <;> exact CallStage.noConfusion
    · cases effect
  · cases effect

theorem release_keepsJobs (i : ℕ) (passage : Passage) (nowMillis : ℕ) (c : M.Call) :
    s.KeepsJobs fun call => s.release configuration i call passage nowMillis c := by
  intro call moved stage effect
  simp only at effect
  unfold release at effect
  split at effect
  · split at effect
    · obtain ⟨rfl, rfl⟩ := Prod.mk.inj (Option.some.inj effect)
      exact ⟨rfl, CallStage.noConfusion⟩
    · cases effect
  · cases effect

theorem interrupt_keepsJobs : s.KeepsJobs s.interrupt := by
  intro call moved stage effect
  unfold interrupt at effect
  split at effect <;> cases effect
  exact ⟨rfl, CallStage.noConfusion⟩

theorem Attended.step {l : SupervisorLabel M} (attended : s.Attended) (step : s.step configuration l = some s') :
    s'.Attended := by
  cases l with
  | deliverTo destinationId =>
    cases step
    refine attended.arrive rfl ?_ rfl
    intro call member
    rw [List.mem_singleton.1 member]
    exact CallStage.noConfusion
  | admitCall j => exact attended.of_keepsJobs step admitCall_keepsJobs
  | invalid j => exact attended.of_keepsJobs step invalid_keepsJobs
  | persist j passage nowMillis c => exact attended.of_keepsJobs step (persist_keepsJobs j passage nowMillis c)
  | accept nowMillis c =>
    simp only [SupervisorState.step] at step
    split at step
    · split at step
      · cases step
        exact attended.enter _ _ _
      · cases step
    · cases step
  | reconcile nowMillis c =>
    simp only [SupervisorState.step] at step
    split at step
    · cases step
      exact attended.enter _ _ _
    · cases step
  | offer j =>
    refine attended.move step ?_ ?_
    · obtain ⟨call, moved, stage, -, effect, rfl⟩ := move_eq_some step
      unfold offer at effect
      split at effect
      · split at effect <;> cases effect
        · intro job member
          simp only [jobs, List.mem_append] at member ⊢
          obtain before | queued := member
          · exact .inl before
          · exact .inr (.inl queued)
        · exact fun job member => member
      · cases effect
    · obtain ⟨call, moved, stage, -, effect, rfl⟩ := move_eq_some step
      intro call' moved' stage' effect' submitted
      unfold offer at effect effect'
      split at effect'
      · next claimed before =>
        split at effect'
        · next room =>
          split at effect
          · rw [if_pos room] at effect
            obtain ⟨rfl, -⟩ := Prod.mk.inj (Option.some.inj effect)
            exact ⟨_, List.mem_append_right _ (List.mem_append_right _ (List.mem_singleton_self _)), rfl⟩
          · cases effect
        · obtain ⟨-, rfl⟩ := Prod.mk.inj (Option.some.inj effect')
          cases submitted
      · cases effect'
  | release j passage nowMillis c => exact attended.of_keepsJobs step (release_keepsJobs j passage nowMillis c)
  | take n =>
    simp only [SupervisorState.step] at step
    split at step
    · next room =>
      cases step
      intro i call here submitted
      obtain ⟨job, member, of⟩ := attended i call here submitted
      refine ⟨job, ?_, of⟩
      simp only [jobs, room.1, List.append_nil, List.append_assoc, List.take_append_drop] at member ⊢
      exact member
    · cases step
  | dispatch =>
    simp only [SupervisorState.step] at step
    split at step
    · cases step
    · next job rest hand =>
      split at step <;> cases step
      intro i call here submitted
      obtain ⟨job', member, of⟩ := attended i call here submitted
      refine ⟨job', ?_, of⟩
      simp only [jobs, hand, List.append_assoc, List.singleton_append] at member ⊢
      exact member
  | settle k exit =>
    obtain ⟨job, taken, rfl⟩ := Option.map_eq_some_iff.1 step
    intro i call there submitted
    rw [List.getElem?_modify] at there
    obtain ⟨call', here, after⟩ := Option.map_eq_some_iff.1 there
    split at after
    · next own =>
      -- the call of the job that ended waits no longer
      subst after
      unfold SupervisorCall.settle at submitted
      split at submitted
      · cases submitted
      · next waits => exact absurd submitted waits
    · next apart =>
      subst after
      obtain ⟨job', member, of⟩ := attended i _ here submitted
      refine ⟨job', ?_, of⟩
      simp only [jobs, List.mem_append] at member ⊢
      obtain (delivery | hand) | queue := member
      · refine .inl (.inl ?_)
        obtain ⟨k', at'⟩ := List.mem_iff_getElem?.1 delivery
        refine List.mem_eraseIdx_iff_getElem?.2 ⟨k', ?_, at'⟩
        rintro rfl
        rw [taken, Option.some.injEq] at at'
        rw [at'] at apart
        exact apart of
      · exact .inl (.inr hand)
      · exact .inr queue
  | interrupt j => exact attended.of_keepsJobs step interrupt_keepsJobs
  | environment nowMillis c =>
    simp only [SupervisorState.step] at step
    split at step <;> cases step
    exact attended

end SupervisorState

end Relay
