import Relay.Supervisor.Passes

/-!
# Every pass can be run to its end

Nothing a pass waits for is lost: the request of a call that waits can be worked on to its
end, which ends the call; the calls of a pass end one after the other, which ends the pass
and frees the mutex for the next one. No step of this is an arrival, an interruption from
outside or the death of a delivery; such a step only brings the end of a pass nearer.
-/

namespace Relay

/-! ## The supervisor works its requests off -/

section Drain

variable {M : InspectedStore} {configuration : SupervisorConfiguration}

/-- Steps of the dispatcher and of the deliveries, which end with a result or a failure. -/
def SupervisorLabel.drains : SupervisorLabel M → Bool
  | .take _ | .dispatch => true
  | .settle _ exit => CallExit.caught (.completed exit)
  | _ => false

/-- From `s` to `s'` by steps of the dispatcher and of the deliveries. -/
def SupervisorState.Drains (configuration : SupervisorConfiguration) (s s' : SupervisorState M) : Prop :=
  ∃ tr, (supervisorSystem M configuration).Path s tr s' ∧ ∀ l ∈ tr, l.drains = true

namespace SupervisorState.Drains

theorem refl (s : SupervisorState M) : s.Drains configuration s := ⟨[], .nil, fun _ member => by cases member⟩

theorem cons {s s₁ s' : SupervisorState M} {l : SupervisorLabel M} (step : s.step configuration l = some s₁)
    (drains : l.drains = true) (rest : s₁.Drains configuration s') : s.Drains configuration s' := by
  obtain ⟨tr, path, all⟩ := rest
  refine ⟨l :: tr, .cons step path, ?_⟩
  intro l' member
  obtain rfl | later := List.mem_cons.1 member
  · exact drains
  · exact all l' later

theorem trans {s s₁ s' : SupervisorState M} (first : s.Drains configuration s₁) (rest : s₁.Drains configuration s') :
    s.Drains configuration s' := by
  obtain ⟨tr, path, all⟩ := first
  obtain ⟨tr', path', all'⟩ := rest
  refine ⟨tr ++ tr', path.append path', ?_⟩
  intro l member
  obtain earlier | later := List.mem_append.1 member
  · exact all l earlier
  · exact all' l later

end SupervisorState.Drains

/-- No call has died, or has been interrupted, since. -/
def SupervisorState.Calm (s s' : SupervisorState M) : Prop :=
  ∀ (i : ℕ) (call' : SupervisorCall) (exit : CallExit), s'.calls[i]? = some call' → call'.stage = .exited exit →
    exit.caught = true ∨ ∃ call, s.calls[i]? = some call ∧ call.stage = .exited exit

theorem SupervisorState.Calm.refl (s : SupervisorState M) : s.Calm s := fun _ call' _ there exited => .inr ⟨call', there, exited⟩

theorem SupervisorState.Calm.trans {s s₁ s' : SupervisorState M} (first : s.Calm s₁) (rest : s₁.Calm s') : s.Calm s' := by
  intro i call' exit there exited
  obtain caught | ⟨call, between, exited'⟩ := rest i call' exit there exited
  · exact .inl caught
  · exact first i call exit between exited'

/-- One call moves. -/
theorem SupervisorState.Calm.set {s s' : SupervisorState M} {i : ℕ} {call' : SupervisorCall} (moved : s'.calls = s.calls.set i call')
    (calm : ∀ exit, call'.stage = .exited exit → exit.caught = true) : s.Calm s' := by
  intro j call exit there exited
  rw [moved] at there
  by_cases same : i = j
  · subst same
    have inside := (List.getElem?_eq_some_iff.1 there).1
    rw [List.length_set] at inside
    rw [List.getElem?_set_self inside, Option.some.injEq] at there
    subst there
    exact .inl (calm exit exited)
  · rw [List.getElem?_set_ne same] at there
    exact .inr ⟨call, there, exited⟩

theorem SupervisorState.Calm.of_drains {s s' : SupervisorState M} {l : SupervisorLabel M}
    (step : s.step configuration l = some s') (drains : l.drains = true) : s.Calm s' := by
  cases l with
  | take n =>
    simp only [SupervisorState.step] at step
    split at step <;> cases step
    exact .refl s
  | dispatch =>
    simp only [SupervisorState.step] at step
    split at step
    · cases step
    · split at step <;> cases step
      exact .refl s
  | settle k exit =>
    obtain ⟨job, -, rfl⟩ := Option.map_eq_some_iff.1 step
    intro i call' exit' there exited
    rw [List.getElem?_modify] at there
    obtain ⟨call, here, rfl⟩ := Option.map_eq_some_iff.1 there
    by_cases waits : job.call = i ∧ call.stage = .submitted
    · rw [if_pos waits.1, SupervisorCall.settle, if_pos waits.2] at exited
      cases exited
      exact .inl drains
    · refine .inr ⟨call, here, ?_⟩
      by_cases own : job.call = i
      · rwa [if_pos own, SupervisorCall.settle, if_neg fun submitted => waits ⟨own, submitted⟩] at exited
      · rwa [if_neg own] at exited
  | _ => cases drains

theorem SupervisorState.Drains.calm {s s' : SupervisorState M} (drains : s.Drains configuration s') : s.Calm s' := by
  obtain ⟨tr, path, all⟩ := drains
  induction path with
  | nil => exact .refl s
  | @snoc tr l s₁ s₂ path step ih =>
    refine (ih fun l' earlier => all l' (List.mem_append_left _ earlier)).trans (.of_drains step ?_)
    exact all l (List.mem_append_right _ (List.mem_singleton_self l))

/-- The first renewal finds the claim of the delivery gone. -/
def DeliveryJob.claimLost (job : DeliveryJob) : Except JobFailure DeliveryResult :=
  .error (.store (.claimLost .renew job.claimed.delivery.id job.claimed.claim.ownerId job.claimed.claim.generation))

variable (configuration) in
/-- The deliveries come to their ends. -/
theorem settle_deliveries (s : SupervisorState M) : ∃ s', s.Drains configuration s' ∧ s'.deliveries = [] ∧
    s'.hand = s.hand ∧ s'.queue = s.queue := by
  induction deliveries : s.deliveries generalizing s with
  | nil => exact ⟨s, .refl s, deliveries, rfl, rfl⟩
  | cons job rest ih =>
    let s₁ : SupervisorState M := { s with
      deliveries := s.deliveries.eraseIdx 0
      calls := s.calls.modify job.call (·.settle job.claimLost) }
    have step : s.step configuration (.settle 0 job.claimLost) = some s₁ := by
      simp [SupervisorState.step, deliveries, s₁]
    obtain ⟨s', drains, none', hand, queue⟩ := ih s₁ (by simp [s₁, deliveries])
    exact ⟨s', .cons step rfl drains, none', hand, queue⟩

variable (configuration) in
/-- What the dispatcher has taken is started and comes to its end. -/
theorem dispatch_hand (s : SupervisorState M) : ∃ s', s.Drains configuration s' ∧ s'.deliveries = [] ∧ s'.hand = [] ∧
    s'.queue = s.queue := by
  induction taken : s.hand generalizing s with
  | nil =>
    obtain ⟨s', drains, deliveries, hand, queue⟩ := settle_deliveries configuration s
    exact ⟨s', drains, deliveries, hand.trans taken, queue⟩
  | cons job rest ih =>
    obtain ⟨s₁, settled, deliveries, hand, queue⟩ := settle_deliveries configuration s
    let s₂ : SupervisorState M := { s₁ with hand := rest, deliveries := s₁.deliveries ++ [job] }
    have step : s₁.step configuration .dispatch = some s₂ := by
      simp [SupervisorState.step, hand, taken, deliveries, s₂]
    obtain ⟨s', drains, deliveries', hand', queue'⟩ := ih s₂ rfl
    exact ⟨s', settled.trans (.cons step rfl drains), deliveries', hand', queue'.trans queue⟩

variable (configuration) in
/-- **The supervisor can work off all its requests.** -/
theorem drain (s : SupervisorState M) : ∃ s', s.Drains configuration s' ∧ s'.jobs = [] := by
  obtain ⟨s₁, drains₁, deliveries, hand, -⟩ := dispatch_hand configuration s
  by_cases empty : s₁.queue = []
  · exact ⟨s₁, drains₁, by simp [SupervisorState.jobs, deliveries, hand, empty]⟩
  · let s₂ : SupervisorState M := { s₁ with hand := s₁.queue, queue := [] }
    have step : s₁.step configuration (.take s₁.queue.length) = some s₂ := by
      simp [SupervisorState.step, hand, List.length_pos_iff.2 empty, s₂]
    obtain ⟨s', drains, deliveries', hand', queue'⟩ := dispatch_hand configuration s₂
    exact ⟨s', drains₁.trans (.cons step rfl drains), by simp [SupervisorState.jobs, deliveries', hand', queue', s₂]⟩

namespace SupervisorState.Drains

variable {s s' : SupervisorState M}

theorem attended (drains : s.Drains configuration s') (attended : s.Attended) : s'.Attended := by
  obtain ⟨tr, path, -⟩ := drains
  exact path.preserves SupervisorState.Attended attended fun s l s' attended step => attended.step step

/-- What has been offered stays so. -/
theorem offered (drains : s.Drains configuration s') {i : ℕ} {call : SupervisorCall} (here : s.calls[i]? = some call)
    (offered : call.stage = .submitted ∨ ∃ exit, call.stage = .exited exit) : ∃ call', s'.calls[i]? = some call' ∧
      (call'.stage = .submitted ∨ ∃ exit, call'.stage = .exited exit) := by
  obtain ⟨tr, path, -⟩ := drains
  refine path.preserves (fun s => ∃ call', s.calls[i]? = some call' ∧
    (call'.stage = .submitted ∨ ∃ exit, call'.stage = .exited exit)) ⟨call, here, offered⟩ ?_
  rintro s l s' ⟨call, here, offered⟩ step
  obtain ⟨stage, there, moves⟩ := SupervisorState.step_call step here
  refine ⟨_, there, ?_⟩
  obtain submitted | ⟨exit, exited⟩ := offered
  · cases moves with
    | same => exact .inl submitted
    | early stage early => simp [submitted] at early
    | queued claimed stage offer before => simp [submitted] at before
    | refused claimed offer before => simp [submitted] at before
    | released claimed passage nowMillis c exit release before => exact .inr ⟨exit, rfl⟩
    | settled k exit settle => exact .inr ⟨_, rfl⟩
    | interrupted => exact .inr ⟨_, rfl⟩
  · exact .inr ⟨exit, moves.exited exited⟩

end SupervisorState.Drains

end Drain

/-! ## Passes come to their ends -/

/-- No arrival, no interruption from outside, no death of a delivery, and no call of anyone else's. -/
def ReconcilerLabel.advances {M : InspectedStore} : ReconcilerLabel M → Bool
  | .supervisor (.offer _) | .supervisor (.release _ _ _ _) | .supervisor (.take _) | .supervisor .dispatch => true
  | .supervisor (.settle _ exit) => CallExit.caught (.completed exit)
  | .supervisor _ | .reconcileOnce | .poll | .interrupt _ => false
  | .enter _ | .claim _ _ _ _ | .afterClaim _ | .resume _ | .settle _ _ | .unwind _ _ | .leave _ => true

/-- A statement that makes the call. -/
def Adapter.statement : (adapter : Adapter) → StoreCall → adapter.inspected.Call
  | .memory, call => call
  | .postgres, call => (⟨call, false⟩ : Statement)

theorem Adapter.call_statement (adapter : Adapter) (call : StoreCall) :
    adapter.inspected.call (adapter.statement call) = call := by
  cases adapter <;> rfl

section Ends

variable {adapter : Adapter} {configuration : ReconcilerConfiguration}

/-- From `s` to `s'` by steps that advance a pass or a request. -/
def ReconcilerState.Leads (s s' : ReconcilerState adapter.inspected configuration.concurrency.global) : Prop :=
  ∃ tr, (reconcilerSystem adapter.inspected configuration).Path s tr s' ∧ ∀ l ∈ tr, l.advances = true

namespace ReconcilerState

variable {s s' : ReconcilerState adapter.inspected configuration.concurrency.global} {p : ℕ}
  {pass : Pass configuration.concurrency.global}

theorem Leads.refl (s : ReconcilerState adapter.inspected configuration.concurrency.global) : s.Leads s :=
  ⟨[], .nil, fun _ member => by cases member⟩

theorem Leads.single {l : ReconcilerLabel adapter.inspected} (step : s.step configuration l = some s')
    (advances : l.advances = true) : s.Leads s' :=
  ⟨[l], .single step, fun l' member => by rw [List.mem_singleton.1 member, advances]⟩

theorem Leads.trans {s₁ : ReconcilerState adapter.inspected configuration.concurrency.global} (first : s.Leads s₁)
    (rest : s₁.Leads s') : s.Leads s' := by
  obtain ⟨tr, path, all⟩ := first
  obtain ⟨tr', path', all'⟩ := rest
  refine ⟨tr ++ tr', path.append path', ?_⟩
  intro l member
  obtain earlier | later := List.mem_append.1 member
  · exact all l earlier
  · exact all' l later

/-- What every state on the way satisfies. -/
structure Fit (configuration : ReconcilerConfiguration) (s : ReconcilerState adapter.inspected configuration.concurrency.global) :
    Prop where
  inv : s.Inv configuration
  attended : s.supervisor.Attended

theorem Fit.step (fit : Fit configuration s) {l : ReconcilerLabel adapter.inspected} (step : s.step configuration l = some s') :
    Fit configuration s' := by
  cases step_cases step with
  | supervisor l supervisor allowed moved =>
    exact ⟨fit.inv.supervisor adapter.inspected_lawful allowed moved, fit.attended.step moved⟩
  | arrive safe => exact ⟨fit.inv.arrive safe, fit.attended⟩
  | pass p pass r here moves =>
    refine ⟨fit.inv.moved adapter.inspected_lawful here moves, ?_⟩
    cases moves with
    | scanned nowMillis c value => exact fit.attended.enter _ _ _
    | unwound sweep i supervisor unwinding member interrupt =>
      have step : s.supervisor.step configuration.toSupervisorConfiguration (.interrupt (pass.first + i)) = some supervisor :=
        interrupt
      exact fit.attended.step step
    | _ => exact fit.attended

theorem Fit.leads (fit : Fit configuration s) (leads : s.Leads s') : Fit configuration s' := by
  obtain ⟨tr, path, -⟩ := leads
  exact path.preserves (Fit configuration) fit fun s l s' fit step => fit.step step

theorem Fit.reachable (reachable : (reconcilerSystem adapter.inspected configuration).Reachable s) : Fit configuration s := by
  refine reachable.invariant (Fit configuration) ?_ fun s l s' fit step => fit.step step
  refine ⟨reconciler_inv adapter.inspected_lawful ⟨[], .nil⟩, ?_⟩
  intro i call here
  cases here

/-- The supervisor works off its requests while the passes wait. -/
theorem Leads.of_drains {supervisor : SupervisorState adapter.inspected}
    (drains : s.supervisor.Drains configuration.toSupervisorConfiguration supervisor) : s.Leads { s with supervisor } := by
  obtain ⟨tr, path, all⟩ := drains
  induction path with
  | nil => exact .refl s
  | @snoc tr l s₁ s₂ path step ih =>
    refine (ih fun l' earlier => all l' (List.mem_append_left _ earlier)).trans ?_
    have drains := all l (List.mem_append_right _ (List.mem_singleton_self l))
    have step : s₁.step configuration.toSupervisorConfiguration l = some s₂ := step
    have allowed : allows { s with supervisor := s₁ } l = true := by
      cases l <;> first | rfl | cases drains
    refine .single (l := .supervisor l) ?_ ?_
    · simp only [ReconcilerState.step, allowed, if_true, step, Option.map_some]
    · cases l <;> first | exact drains | cases drains

theorem onPass_eq_some (here : s.passes[p]? = some pass)
    {f : Pass configuration.concurrency.global →
      Option (SupervisorState adapter.inspected × Semaphore × Pass configuration.concurrency.global)}
    {r : SupervisorState adapter.inspected × Semaphore × Pass configuration.concurrency.global} (moves : f pass = some r) :
    s.onPass p f = some ⟨r.1, r.2.1, s.passes.set p r.2.2⟩ := by
  simp [onPass, here, moves]

/-- No call that is under way in the pass has died, or has been interrupted, and nobody has interrupted the pass. -/
def Intact (s : ReconcilerState adapter.inspected configuration.concurrency.global)
    (pass : Pass configuration.concurrency.global) : Prop :=
  ¬ pass.Disturbed ∧ ∀ i ∈ pass.running, ∀ (call : SupervisorCall) (exit : CallExit),
    s.supervisor.calls[pass.first + i]? = some call → call.stage = .exited exit → exit.caught = true

/-- The supervisor has come to a state in which call `j` has exited. -/
def Exits (s : ReconcilerState adapter.inspected configuration.concurrency.global) (j : ℕ)
    (supervisor : SupervisorState adapter.inspected) : Prop :=
  s.Leads { s with supervisor } ∧ s.supervisor.Calm supervisor ∧
    ∃ call exit, supervisor.calls[j]? = some call ∧ call.stage = .exited exit

/-- A waiting call ends. -/
theorem submitted_exits (fit : Fit configuration s) {j : ℕ} {call : SupervisorCall} (here : s.supervisor.calls[j]? = some call)
    (submitted : call.stage = .submitted) : ∃ supervisor, s.Exits j supervisor := by
  obtain ⟨supervisor, drains, idle⟩ := drain configuration.toSupervisorConfiguration s.supervisor
  obtain ⟨call', there, submitted' | ⟨exit, exited⟩⟩ := drains.offered here (.inl submitted)
  · obtain ⟨job, member, -⟩ := drains.attended fit.attended j call' there submitted'
    rw [idle] at member
    cases member
  · exact ⟨supervisor, .of_drains drains, drains.calm, call', exit, there, exited⟩

/-- Releasing a claim does not die. -/
theorem release_caught (fit : Fit configuration s) {id : DeliveryId} {claim : DeliveryClaim} {c : adapter.inspected.Call}
    (release : adapter.inspected.call c = .releaseClaim id claim) (nowMillis : ℕ) :
    (adapter.inspected.exec nowMillis s.supervisor.store c).1 ≠ .error .defect := by
  have fresh : adapter.inspected.Fresh s.supervisor.store c := by
    intro id creates
    rw [release] at creates
    cases creates
  have served := adapter.inspected_lawful.served nowMillis c fit.inv.store fresh
  intro died
  rw [died, release] at served
  generalize answered : Reply.answer (.error .defect) = answer at served
  generalize adapter.inspected.view (adapter.inspected.exec nowMillis s.supervisor.store c).2 = after at served
  cases served with
  | onEntry call id' op about =>
    cases about
    revert answered
    unfold Entry.releaseClaim Entry.fenced
    split
    · nofun
    · split <;> nofun
  | refused call tag unfenced =>
    obtain none' | ⟨refusable, -⟩ := unfenced
    · cases none'
    · cases refusable

/-- A refused call gives its claim back, and ends. -/
theorem refused_exits (fit : Fit configuration s) {j : ℕ} {call : SupervisorCall} {claimed : ClaimedDelivery}
    (here : s.supervisor.calls[j]? = some call) (refused : call.stage = .refused claimed)
    (runs : s.passes.any (·.runs j) = true) : ∃ supervisor, s.Exits j supervisor := by
  let statement := adapter.statement (.releaseClaim claimed.delivery.id claimed.claim)
  have named : adapter.inspected.call statement = .releaseClaim claimed.delivery.id claimed.claim := adapter.call_statement _
  have released : ∃ moved exit, s.supervisor.release configuration.toSupervisorConfiguration j call .answered 0 statement =
      some (moved, .exited exit) ∧ exit.caught = true := by
    simp only [SupervisorState.release, refused, named, if_true, StoreMachine.ask]
    refine ⟨_, _, rfl, ?_⟩
    have calm := release_caught fit named 0
    split
    · next failure failed =>
      rw [failed] at calm
      exact decide_eq_true fun defect => calm (congrArg Except.error defect)
    · split <;> rfl
  obtain ⟨moved, exit, released, caught⟩ := released
  have inside := (List.getElem?_eq_some_iff.1 here).1
  have step : s.supervisor.step configuration.toSupervisorConfiguration (.release j .answered 0 statement) =
      some { moved with calls := s.supervisor.calls.set j { call with stage := .exited exit } } := by
    simp [SupervisorState.step, SupervisorState.move, here, released]
  have allowed : s.allows (.release j .answered 0 statement) = true := by
    simp [allows, runs]
  refine ⟨{ moved with calls := s.supervisor.calls.set j { call with stage := .exited exit } },
    .single (l := .supervisor (.release j .answered 0 statement)) ?_ rfl, .set rfl ?_, _, exit,
    List.getElem?_set_self inside, rfl⟩
  · simp only [ReconcilerState.step, allowed, if_true, step, Option.map_some]
  · intro exit' exited
    cases exited
    exact caught

/-- **A call under way can be run to its end**, whatever else goes on in the supervisor. -/
theorem call_exits (fit : Fit configuration s) (here : s.passes[p]? = some pass) (calm : ¬ pass.Disturbed) {i : ℕ}
    (member : i ∈ pass.running) : ∃ supervisor, s.Exits (pass.first + i) supervisor := by
  have sound := fit.inv.sound p pass here
  have inside := running_inside sound member
  have runs : s.passes.any (·.runs (pass.first + i)) = true :=
    List.any_eq_true.2 ⟨pass, List.mem_of_getElem? here, List.any_eq_true.2 ⟨i, member, decide_eq_true rfl⟩⟩
  obtain ⟨stage, there, follows⟩ := sound.calls i _ (List.getElem?_eq_getElem inside)
  cases follows.handed calm with
  | refused => exact refused_exits fit there rfl runs
  | submitted => exact submitted_exits fit there rfl
  | completed exit => exact ⟨s.supervisor, .refl s, .refl _, _, _, there, rfl⟩
  | overloaded error => exact ⟨s.supervisor, .refl s, .refl _, _, _, there, rfl⟩
  | failed failure => exact ⟨s.supervisor, .refl s, .refl _, _, _, there, rfl⟩
  | claimed =>
    have allowed : s.allows (.offer (pass.first + i)) = true := by
      simp [allows, runs]
    have offered : ∃ moved stage, s.supervisor.offer configuration.toSupervisorConfiguration (pass.first + i)
        (.resumed configuration.destination pass.claimed[i] (.claimed pass.claimed[i])) = some (moved, stage) ∧
        (stage = .refused pass.claimed[i] ∨ stage = .submitted) := by
      unfold SupervisorState.offer
      simp only [SupervisorCall.resumed]
      split
      · exact ⟨_, _, rfl, .inr rfl⟩
      · exact ⟨_, _, rfl, .inl rfl⟩
    obtain ⟨moved, stage, offered, either⟩ := offered
    let supervisor : SupervisorState adapter.inspected :=
      { moved with calls := s.supervisor.calls.set (pass.first + i) (.resumed configuration.destination pass.claimed[i] stage) }
    have step : s.supervisor.step configuration.toSupervisorConfiguration (.offer (pass.first + i)) = some supervisor := by
      simp only [SupervisorState.step, SupervisorState.move, there, offered, Option.bind_some, Option.map_some]
      rfl
    have stepped : s.step configuration (.supervisor (.offer (pass.first + i))) = some { s with supervisor } := by
      simp only [ReconcilerState.step, allowed, if_true, step, Option.map_some]
    have leads : s.Leads { s with supervisor } := .single stepped rfl
    have quiet : s.supervisor.Calm supervisor := by
      refine .set rfl ?_
      intro exit exited
      obtain rfl | rfl := either <;> cases exited
    have after : supervisor.calls[pass.first + i]? = some (.resumed configuration.destination pass.claimed[i] stage) :=
      List.getElem?_set_self (List.getElem?_eq_some_iff.1 there).1
    have further : ∃ supervisor', Exits { s with supervisor } (pass.first + i) supervisor' := by
      obtain rfl | rfl := either
      · exact refused_exits (fit.step stepped) after rfl runs
      · exact submitted_exits (fit.step stepped) after rfl
    obtain ⟨supervisor', leads', quiet', exits⟩ := further
    exact ⟨supervisor', leads.trans leads', quiet.trans quiet', exits⟩

/-- Pass `p` comes to its end, and the other passes stay where they are. -/
def Ends (s : ReconcilerState adapter.inspected configuration.concurrency.global) (p : ℕ) (ends : PassExit → Prop) : Prop :=
  ∃ s', s.Leads s' ∧ ∃ (pass' : Pass configuration.concurrency.global) (exit : PassExit),
    s'.passes = s.passes.set p pass' ∧ pass'.stage = .exited exit ∧ ends exit

/-- A step of the pass, and what it ends with from there. -/
theorem Ends.after {ends : PassExit → Prop} {pass' : Pass configuration.concurrency.global} (leads : s.Leads s')
    (moved : s'.passes = s.passes.set p pass') (rest : s'.Ends p ends) : s.Ends p ends := by
  obtain ⟨s'', leads', pass'', exit, passes, stage, holds⟩ := rest
  exact ⟨s'', leads.trans leads', pass'', exit, by rw [passes, moved, List.set_set], stage, holds⟩

theorem Ends.now {ends : PassExit → Prop} {pass' : Pass configuration.concurrency.global} {exit : PassExit} (leads : s.Leads s')
    (moved : s'.passes = s.passes.set p pass') (stage : pass'.stage = .exited exit) (holds : ends exit) : s.Ends p ends :=
  ⟨s', leads, pass', exit, moved, stage, holds⟩

theorem Ends.mono {ends ends' : PassExit → Prop} (rest : s.Ends p ends) (weaker : ∀ exit, ends exit → ends' exit) :
    s.Ends p ends' := by
  obtain ⟨s', leads, pass', exit, passes, stage, holds⟩ := rest
  exact ⟨s', leads, pass', exit, passes, stage, weaker exit holds⟩

theorem set_same (here : s.passes[p]? = some pass) : s.passes = s.passes.set p pass := by
  obtain ⟨inside, rfl⟩ := List.getElem?_eq_some_iff.1 here
  exact (List.set_getElem_self inside).symm

/-- The fiber of an item ends with its call, and the sweep has less left. -/
theorem item_ends {supervisor : SupervisorState adapter.inspected} {sweep : Sweep configuration.concurrency.global} {i : ℕ}
    {call : SupervisorCall} {exit : CallExit} (here : s.passes[p]? = some pass)
    {stage : Sweep configuration.concurrency.global → PassStage configuration.concurrency.global}
    (kind : stage = .resuming ∧ exit.caught = true ∨ stage = .unwinding) (before : pass.stage = stage sweep)
    (member : i ∈ sweep.running) (leads : s.Leads { s with supervisor }) (exits : supervisor.calls[pass.first + i]? = some call)
    (exited : call.stage = .exited exit) : ∃ sweep', s.Leads ⟨supervisor, s.mutex, s.passes.set p { pass with stage := stage sweep' }⟩ ∧
      sweep.finish i = some sweep' ∧ sweep'.left < sweep.left := by
  obtain ⟨sweep', finish⟩ := Option.isSome_iff_exists.1 (Sweep.finish_isSome member)
  have moves : settle { s with supervisor } pass i =
      some (supervisor, s.mutex, { pass with stage := stage sweep' }) := by
    have ended : (supervisor.calls[pass.first + i]?.bind (·.exit?)) = some exit := by
      rw [exits, Option.bind_some, SupervisorCall.exit?_eq_some, exited]
    obtain ⟨rfl, caught⟩ | rfl := kind
    · simp [settle, ended, before, finish, caught]
    · simp [settle, ended, before, finish]
  have stepped : ReconcilerState.step configuration { s with supervisor } (.settle p i) =
      some ⟨supervisor, s.mutex, s.passes.set p { pass with stage := stage sweep' }⟩ :=
    onPass_eq_some (s := { s with supervisor }) (f := fun pass => settle { s with supervisor } pass i) here moves
  exact ⟨sweep', leads.trans (.single stepped rfl), finish, Sweep.left_finish finish⟩

/-- A pass that was interrupted interrupts what it runs, and leaves. -/
theorem unwinding_ends (fit : Fit configuration s) (here : s.passes[p]? = some pass)
    {sweep : Sweep configuration.concurrency.global} (unwinding : pass.stage = .unwinding sweep) : s.Ends p fun _ => True := by
  induction rank : sweep.left using Nat.strong_induction_on generalizing s pass sweep with
  | h n ih =>
    have inside := (List.getElem?_eq_some_iff.1 here).1
    cases running : sweep.running with
    | nil =>
      have moves : s.leave pass = some (s.supervisor, s.mutex.release, { pass with stage := .exited .interrupted }) := by
        simp [leave, unwinding, running]
      exact .now (.single (l := .leave p) (onPass_eq_some here moves) rfl) rfl rfl trivial
    | cons i others =>
      have member : i ∈ sweep.running := by
        rw [running]
        exact List.mem_cons_self
      have underway : i ∈ pass.running := by
        rw [Pass.running, unwinding]
        exact member
      obtain ⟨stage, there, -⟩ := (fit.inv.sound p pass here).calls i _
        (List.getElem?_eq_getElem (running_inside (fit.inv.sound p pass here) underway))
      -- the call has exited, or its interruption makes it
      have exits : ∃ supervisor : SupervisorState adapter.inspected, s.Leads { s with supervisor } ∧
          ∃ call exit, supervisor.calls[pass.first + i]? = some call ∧ call.stage = .exited exit := by
        by_cases exited : ∃ exit, stage = .exited exit
        · obtain ⟨exit, rfl⟩ := exited
          exact ⟨s.supervisor, .refl s, _, _, there, rfl⟩
        · let supervisor : SupervisorState adapter.inspected := { s.supervisor with
            calls := s.supervisor.calls.set (pass.first + i)
              (.resumed configuration.destination
                (pass.claimed.get ⟨i, running_inside (fit.inv.sound p pass here) underway⟩) (.exited .interrupted)) }
          have interrupt : s.supervisor.move (pass.first + i) s.supervisor.interrupt = some supervisor := by
            simp only [SupervisorState.move, there, Option.bind_some]
            cases stage with
            | exited exit => exact absurd ⟨exit, rfl⟩ exited
            | arriving | admitted | claimed claimed | refused claimed | submitted => rfl
          have moves : s.unwind pass i = some (supervisor, s.mutex, pass) := by
            simp [unwind, unwinding, member, interrupt]
          have stepped : s.step configuration (.unwind p i) = some _ := onPass_eq_some here moves
          rw [← set_same here] at stepped
          exact ⟨supervisor, .single stepped rfl, _, _,
            List.getElem?_set_self (List.getElem?_eq_some_iff.1 there).1, rfl⟩
      obtain ⟨supervisor, leads, call, exit, exits, exited⟩ := exits
      obtain ⟨sweep', leads', -, less⟩ := item_ends here (.inr rfl) unwinding member leads exits exited
      exact .after leads' rfl (ih _ (rank ▸ less) (fit.leads leads') (List.getElem?_set_self inside) rfl rfl)

/-- A pass with no call that has died comes to its report, one item after the other. -/
theorem intact_ends (fit : Fit configuration s) (here : s.passes[p]? = some pass)
    {sweep : Sweep configuration.concurrency.global} (resuming : pass.stage = .resuming sweep) (intact : s.Intact pass) :
    s.Ends p fun exit => exit ≠ .interrupted := by
  induction rank : sweep.left using Nat.strong_induction_on generalizing s pass sweep with
  | h n ih =>
    have inside := (List.getElem?_eq_some_iff.1 here).1
    have running : pass.running = sweep.running := by rw [Pass.running, resuming]
    -- from a state in which the sweep has less left
    have rest {supervisor : SupervisorState adapter.inspected} {sweep' : Sweep configuration.concurrency.global}
        (leads : s.Leads ⟨supervisor, s.mutex, s.passes.set p { pass with stage := .resuming sweep' }⟩)
        (less : sweep'.left < sweep.left)
        (caught : ∀ i ∈ sweep'.running, ∀ (call : SupervisorCall) (exit : CallExit),
          supervisor.calls[pass.first + i]? = some call → call.stage = .exited exit → exit.caught = true) :
        s.Ends p fun exit => exit ≠ .interrupted :=
      .after leads rfl (ih _ (rank ▸ less) (fit.leads leads) (List.getElem?_set_self inside) rfl ⟨not_false, caught⟩ rfl)
    by_cases done : sweep.isDone = true
    · have moves : s.leave pass = some (s.supervisor, s.mutex.release,
          { pass with stage := .exited (.reported pass.claimed.length) }) := by
        simp [leave, resuming, done]
      exact .now (.single (l := .leave p) (onPass_eq_some here moves) rfl) rfl rfl PassExit.noConfusion
    · cases first : sweep.running with
      | nil =>
        obtain ⟨sweep', start⟩ := Option.isSome_iff_exists.1
          (Sweep.start_isSome configuration.concurrency.global.pos first (by simpa using done))
        have moves : s.resume pass = some (s.supervisor, s.mutex, { pass with stage := .resuming sweep' }) := by
          simp [resume, resuming, start]
        refine rest (.single (l := .resume p) (onPass_eq_some here moves) rfl) (Sweep.left_start start) ?_
        intro i member call exit there exited
        -- the call of the item that starts is still to be offered
        obtain ⟨startable, size, started, running'⟩ := Sweep.start_eq_some start
        rw [running', first, List.nil_append, List.mem_singleton] at member
        subst member
        have within : sweep.started < pass.claimed.length := by
          rw [← (fit.inv.sound p pass here).size sweep (.inl resuming)]
          exact startable
        obtain ⟨stage, there', follows⟩ := (fit.inv.sound p pass here).calls _ _ (List.getElem?_eq_getElem within)
        rw [there, Option.some.injEq] at there'
        rw [there', SupervisorCall.resumed, follows.waits (by simp [Pass.Begun, resuming])] at exited
        cases exited
      | cons i others =>
        have member : i ∈ sweep.running := by
          rw [first]
          exact List.mem_cons_self
        obtain ⟨supervisor, leads, calm, call, exit, exits, exited⟩ := call_exits fit here intact.1 (running ▸ member)
        have caught : ∀ j ∈ sweep.running, ∀ (call : SupervisorCall) (exit : CallExit),
            supervisor.calls[pass.first + j]? = some call → call.stage = .exited exit → exit.caught = true := by
          intro j member call exit there exited
          obtain caught | ⟨before, here', exited'⟩ := calm _ call exit there exited
          · exact caught
          · exact intact.2 j (running ▸ member) before exit here' exited'
        obtain ⟨sweep', leads', finish, less⟩ :=
          item_ends here (.inl ⟨rfl, caught i member call exit exits exited⟩) resuming member leads exits exited
        obtain ⟨-, -, -, left⟩ := Sweep.finish_eq_some finish
        refine rest leads' less fun j member' => caught j ?_
        rw [left] at member'
        exact List.mem_of_mem_erase member'

/-- **A pass that resumes its batch comes to its end**, and to its report unless a call of it has died. -/
theorem resuming_ends (fit : Fit configuration s) (here : s.passes[p]? = some pass)
    {sweep : Sweep configuration.concurrency.global} (resuming : pass.stage = .resuming sweep) :
    s.Ends p fun exit => s.Intact pass → exit ≠ .interrupted := by
  have calm : ¬ pass.Disturbed := by simp [Pass.Disturbed, resuming]
  by_cases intact : s.Intact pass
  · exact (intact_ends fit here resuming intact).mono fun exit uninterrupted _ => uninterrupted
  · -- the call that has died takes the others along
    obtain ⟨i, member, call, exit, there, exited, uncaught⟩ : ∃ i ∈ pass.running, ∃ (call : SupervisorCall) (exit : CallExit),
        s.supervisor.calls[pass.first + i]? = some call ∧ call.stage = .exited exit ∧ exit.caught = false := by
      by_contra none
      refine intact ⟨calm, fun i member call exit there exited => ?_⟩
      by_contra uncaught
      exact none ⟨i, member, call, exit, there, exited, by simpa using uncaught⟩
    rw [Pass.running, resuming] at member
    obtain ⟨sweep', finish⟩ := Option.isSome_iff_exists.1 (Sweep.finish_isSome member)
    have moves : s.settle pass i = some (s.supervisor, s.mutex, { pass with stage := .unwinding sweep' }) := by
      have ended : (s.supervisor.calls[pass.first + i]?.bind (·.exit?)) = some exit := by
        rw [there, Option.bind_some, SupervisorCall.exit?_eq_some, exited]
      simp [settle, ended, resuming, finish, uncaught]
    have stepped : s.step configuration (.settle p i) = some _ := onPass_eq_some here moves
    have inside := (List.getElem?_eq_some_iff.1 here).1
    refine .after (.single stepped rfl) rfl ?_
    exact (unwinding_ends (fit.step stepped) (List.getElem?_set_self inside) rfl).mono fun _ _ whole => absurd whole intact

theorem claimed_ends (fit : Fit configuration s) (here : s.passes[p]? = some pass) (claimed : pass.stage = .claimed) :
    s.Ends p fun exit => exit ≠ .interrupted := by
  have moves : s.afterClaim pass = some (s.supervisor, s.mutex,
      { pass with stage := .resuming (.make configuration.concurrency.global pass.claimed.length) }) := if_pos claimed
  have stepped : s.step configuration (.afterClaim p) = some _ := onPass_eq_some here moves
  have there := List.getElem?_set_self (a := { pass with
    stage := .resuming (.make configuration.concurrency.global pass.claimed.length) }) (List.getElem?_eq_some_iff.1 here).1
  exact .after (.single stepped rfl) rfl (intact_ends (fit.step stepped) there rfl ⟨not_false, nofun⟩)

/-- A pass that scans comes to its end, whatever the store answers. -/
theorem claiming_ends (fit : Fit configuration s) (here : s.passes[p]? = some pass) (claiming : pass.stage = .claiming) :
    s.Ends p fun exit => exit ≠ .interrupted := by
  let statement := adapter.statement (.claimPending configuration.workerId configuration.destination
    configuration.claimBatchSize configuration.claimLeaseDurationMillis)
  have meets : pass.stage = .claiming ∧ adapter.inspected.call statement = .claimPending configuration.workerId
      configuration.destination configuration.claimBatchSize configuration.claimLeaseDurationMillis :=
    ⟨claiming, adapter.call_statement _⟩
  have inside := (List.getElem?_eq_some_iff.1 here).1
  cases answered : (adapter.inspected.exec 0 s.supervisor.store statement).1 with
  | error failure =>
    have moves : ∃ supervisor, s.claim configuration pass .answered 0 statement =
        some (supervisor, s.mutex.release, { pass with stage := .exited (pass.failure failure) }) := by
      simp [claim, meets, StoreMachine.ask, answered]
    obtain ⟨supervisor, moves⟩ := moves
    refine .now (.single (l := .claim p .answered 0 statement) (onPass_eq_some here moves) rfl) rfl rfl ?_
    unfold Pass.failure
    split <;> exact PassExit.noConfusion
  | ok value =>
    have moves : ∃ supervisor, s.claim configuration pass .answered 0 statement = some (supervisor, s.mutex,
        { pass with stage := .claimed, claimed := handedOut (.ok value : Reply), first := s.supervisor.calls.length }) := by
      simp [claim, meets, StoreMachine.ask, answered]
    obtain ⟨supervisor, moves⟩ := moves
    have stepped : s.step configuration (.claim p .answered 0 statement) = some _ := onPass_eq_some here moves
    exact .after (.single stepped rfl) rfl (claimed_ends (fit.step stepped) (List.getElem?_set_self inside) rfl)

/-- A pass at work comes to its end. -/
theorem atWork_ends (fit : Fit configuration s) (here : s.passes[p]? = some pass) (atWork : pass.atWork = true) :
    s.Ends p fun exit => s.Intact pass → exit ≠ .interrupted := by
  cases stage : pass.stage with
  | waiting | exited exit => simp [Pass.atWork, stage] at atWork
  | claiming => exact (claiming_ends fit here stage).mono fun exit uninterrupted _ => uninterrupted
  | claimed => exact (claimed_ends fit here stage).mono fun exit uninterrupted _ => uninterrupted
  | resuming sweep => exact resuming_ends fit here stage
  | unwinding sweep =>
    refine (unwinding_ends fit here stage).mono fun exit _ intact => ?_
    exact absurd (by simp [Pass.Disturbed, stage]) intact.1

/-- The mutex is free when no pass is at work. -/
theorem waiting_ends (fit : Fit configuration s) (here : s.passes[p]? = some pass) (waiting : pass.stage = .waiting)
    (idle : s.passes.countP (·.atWork) = 0) : s.Ends p fun exit => exit ≠ .interrupted := by
  have free : ∃ mutex, s.mutex.take = some mutex := by
    have taken := fit.inv.taken
    rw [idle] at taken
    refine Option.isSome_iff_exists.1 ?_
    rw [Semaphore.take, dif_pos]
    · rfl
    · rw [Semaphore.free, taken, fit.inv.permits]
      decide
  obtain ⟨mutex, taken⟩ := free
  have moves : s.enter pass = some (s.supervisor, mutex, { pass with stage := .claiming }) := by
    simp [enter, waiting, taken]
  have stepped : s.step configuration (.enter p) = some _ := onPass_eq_some here moves
  exact .after (.single stepped rfl) rfl
    (claiming_ends (fit.step stepped) (List.getElem?_set_self (List.getElem?_eq_some_iff.1 here).1) rfl)

end ReconcilerState

/-- **Every pass can come to its end**: from whatever state has been reached it can be run there by the supervisor's and the
passes' own steps, none of them an arrival, an interruption from outside or the death of a delivery, and it ends with a report
or a failure unless it, or a call it has under way, has been interrupted or has died before. -/
theorem passes_end (adapter : Adapter) (configuration : ReconcilerConfiguration)
    {s : ReconcilerState adapter.inspected configuration.concurrency.global}
    (reachable : (reconcilerSystem adapter.inspected configuration).Reachable s) {p : ℕ}
    {pass : Pass configuration.concurrency.global} (here : s.passes[p]? = some pass) :
    ∃ tr s', (reconcilerSystem adapter.inspected configuration).Path s tr s' ∧ (∀ l ∈ tr, l.advances = true) ∧
      ∃ pass' exit, s'.passes[p]? = some pass' ∧ pass'.stage = .exited exit ∧ (s.Intact pass → exit ≠ .interrupted) := by
  have fit := ReconcilerState.Fit.reachable reachable
  have inside := (List.getElem?_eq_some_iff.1 here).1
  have found {s₁ : ReconcilerState adapter.inspected configuration.concurrency.global} {ends : PassExit → Prop}
      (leads : s.Leads s₁) (there : p < s₁.passes.length) (ends' : s₁.Ends p ends)
      (holds : ∀ exit, ends exit → s.Intact pass → exit ≠ .interrupted) :
      ∃ tr s', (reconcilerSystem adapter.inspected configuration).Path s tr s' ∧ (∀ l ∈ tr, l.advances = true) ∧
        ∃ pass' exit, s'.passes[p]? = some pass' ∧ pass'.stage = .exited exit ∧ (s.Intact pass → exit ≠ .interrupted) := by
    obtain ⟨s', leads', pass', exit, passes, stage, uninterrupted⟩ := ends'
    obtain ⟨tr, path, advances⟩ := leads.trans leads'
    exact ⟨tr, s', path, advances, pass', exit, by rw [passes, List.getElem?_set_self there], stage, holds exit uninterrupted⟩
  cases stage : pass.stage with
  | exited exit =>
    refine ⟨[], s, .nil, (fun _ member => by cases member), pass, exit, here, stage, ?_⟩
    rintro intact rfl
    exact intact.1 (by simp [Pass.Disturbed, stage])
  | claiming | claimed | resuming sweep | unwinding sweep =>
    have atWork : pass.atWork = true := by simp [Pass.atWork, stage]
    exact found (.refl s) inside (ReconcilerState.atWork_ends fit here atWork) fun exit uninterrupted => uninterrupted
  | waiting =>
    by_cases busy : ∃ q : ℕ, ∃ pass' : Pass configuration.concurrency.global, s.passes[q]? = some pass' ∧ pass'.atWork = true
    · -- the pass at work ends first
      obtain ⟨q, pass', there, atWork⟩ := busy
      obtain ⟨s₁, leads, done, exit, passes, exited, -⟩ := ReconcilerState.atWork_ends fit there atWork
      have apart : q ≠ p := by
        rintro rfl
        rw [here, Option.some.injEq] at there
        rw [← there] at atWork
        simp [Pass.atWork, stage] at atWork
      have idle : s₁.passes.countP (·.atWork) = 0 := by
        have count := ReconcilerState.atWork_set there done
        have turns := fit.inv.turns
        have left : ReconcilerState.held done = 0 := by simp [ReconcilerState.held, Pass.atWork, exited]
        have held : ReconcilerState.held pass' = 1 := if_pos atWork
        rw [passes]
        omega
      have waits : s₁.passes[p]? = some pass := by
        rw [passes, List.getElem?_set_ne apart, here]
      exact found leads (List.getElem?_eq_some_iff.1 waits).1
        (ReconcilerState.waiting_ends (fit.leads leads) waits stage idle) fun _ uninterrupted _ => uninterrupted
    · have idle : s.passes.countP (·.atWork) = 0 := by
        refine List.countP_eq_zero.2 fun pass' member atWork => busy ?_
        obtain ⟨q, there⟩ := List.mem_iff_getElem?.1 member
        exact ⟨q, pass', there, atWork⟩
      exact found (.refl s) inside (ReconcilerState.waiting_ends fit here stage idle) fun _ uninterrupted _ => uninterrupted

end Ends

theorem passes_end_resuming : ∃ (s s' : ReconcilerState Adapter.memory.inspected Sample.reconciliation.concurrency.global)
    (tr : List (ReconcilerLabel Adapter.memory.inspected)) (pass : Pass Sample.reconciliation.concurrency.global) (exit : PassExit),
    s.underway.map (·.delivery.id) = [Sample.delivery] ∧
      (reconcilerSystem Adapter.memory.inspected Sample.reconciliation).Path s tr s' ∧ s'.passes[0]? = some pass ∧
      pass.stage = .exited exit ∧ exit ≠ .interrupted := by
  have ends : (Sample.resuming.foldlM (ReconcilerState.step Sample.reconciliation)
      (reconcilerSystem Adapter.memory.inspected Sample.reconciliation).init).map
      (fun s => (s.underway.map (·.delivery.id), s.supervisor.calls.map (·.exit?), s.passes[0]?.map (·.stage))) =
      some ([Sample.delivery], [none], (Sweep.make Sample.reconciliation.concurrency.global 1).start.map .resuming) := by
    decide +kernel
  obtain ⟨s, run, final⟩ := Option.map_eq_some_iff.1 ends
  obtain ⟨underway, rest⟩ := Prod.mk.inj final
  obtain ⟨unended, first⟩ := Prod.mk.inj rest
  obtain ⟨sweep, start⟩ : ∃ sweep, (Sweep.make Sample.reconciliation.concurrency.global 1).start = some sweep := ⟨_, rfl⟩
  rw [start] at first
  obtain ⟨pass, here, resuming⟩ := Option.map_eq_some_iff.1 first
  have intact : s.Intact pass := by
    refine ⟨by simp [Pass.Disturbed, resuming], ?_⟩
    intro i _ call exit there exited
    have among := List.mem_map_of_mem (f := SupervisorCall.exit?) (List.mem_of_getElem? there)
    rw [unended, List.mem_singleton, SupervisorCall.exit?_eq_some.2 exited] at among
    cases among
  obtain ⟨tr, s', path, -, pass', exit, there, exited, uninterrupted⟩ :=
    passes_end .memory Sample.reconciliation ⟨_, TransitionSystem.path_of_foldlM run⟩ here
  exact ⟨s, s', tr, pass', exit, underway, path, there, exited, uninterrupted intact⟩

end Relay
