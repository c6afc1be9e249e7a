import Relay.Library.Transition

/-!
# Readiness (`src/runtime.ts`, `src/main.node.ts`, `src/readiness.ts`)

The two composition roots as processes: one step is what runs between two awaits,
a call of the shutdown function, the disposal of the runtime or an intake request.
`startRelayApplication` sets the readiness flag when startup is over and clears it
when the first shutdown begins. `main.node.ts` launches the same layer and never
sets it.
-/

namespace Relay

namespace Runtime

inductive Root where
  | startRelayApplication
  | mainNode
deriving DecidableEq

/-- What startup waits for, or what became of it. -/
inductive Stage where
  | acquiring
  | acquired
  | resultsRead
  | addressRead
  /-- The hook is registered; `markReady` follows without a pause. -/
  | registered
  | marked
  | started
  | failing
  | failed
deriving DecidableEq

structure App where
  stage : Stage
  /-- The flag of `RelayReadinessLive`. -/
  ready : Bool
  /-- The variable `readiness` of `startRelayApplication` is set. -/
  readiness : Bool
  shutdownPromise : Bool
  /-- Disposals that follow a pending `markNotReady`. -/
  disposing : ℕ
  disposals : ℕ
  /-- The resources were acquired. -/
  acquired : Bool
  /-- `markNotReady` has run. -/
  markedNotReady : Bool
deriving DecidableEq

inductive Step where
  | acquire (ok : Bool)
  | deliveryResults (ok : Bool)
  | httpAddress (ok : Bool)
  | registerShutdownHook (ok : Bool)
  | markReady
  | started
  | shutdown
  | dispose
  | rethrow
  | intake (refused : Bool)
deriving DecidableEq

namespace App

def initial : App := ⟨.acquiring, false, false, false, 0, 0, false, false⟩

/-- The function `shutdown`: the first call marks not ready, if there is anything to mark, and disposes. -/
def shutdown (a : App) : App :=
  if a.shutdownPromise then a
  else
    { a with
      shutdownPromise := true
      ready := a.ready && !a.readiness
      markedNotReady := a.readiness
      disposing := a.disposing + 1 }

/-- An error of startup is caught, and the shutdown awaited. -/
def throw (a : App) : App := { a.shutdown with stage := .failing }

def continueOr (a : App) (ok : Bool) (stage : Stage) : App := if ok then { a with stage } else a.throw

def dispose (a : App) : Option App :=
  if 0 < a.disposing then some { a with disposing := a.disposing - 1, disposals := a.disposals + 1 } else none

/-- Both handlers read the flag. -/
def intake (a : App) (refused : Bool) : Option App := if refused = !a.ready then some a else none

def stepApplication (a : App) : Step → Option App
  | .acquire ok =>
    if a.stage = .acquiring then
      some (if ok then { a with stage := .acquired, acquired := true, readiness := true } else a.throw)
    else none
  | .deliveryResults ok => if a.stage = .acquired then some (a.continueOr ok .resultsRead) else none
  | .httpAddress ok => if a.stage = .resultsRead then some (a.continueOr ok .addressRead) else none
  | .registerShutdownHook ok => if a.stage = .addressRead then some (a.continueOr ok .registered) else none
  | .markReady => if a.stage = .registered then some { a with stage := .marked, ready := true } else none
  | .started => if a.stage = .marked then some { a with stage := .started } else none
  -- a hook that shuts down while it is being registered is the only call at `registered`
  | .shutdown => if a.stage ∈ [.registered, .marked, .started, .failing, .failed] then some a.shutdown else none
  | .dispose => if a.stage = .registered then none else a.dispose
  | .rethrow => if a.stage = .failing ∧ 0 < a.disposals then some { a with stage := .failed } else none
  | .intake refused => a.intake refused

/-- `Layer.launch` under `NodeRuntime.runMain`: a signal interrupts, and the scope closes. -/
def stepMain (a : App) : Step → Option App
  | .acquire ok =>
    if a.stage = .acquiring then
      some (if ok then { a with stage := .started, acquired := true }
        else { a with stage := .failed, shutdownPromise := true, disposing := a.disposing + 1 })
    else none
  | .shutdown =>
    some (if a.shutdownPromise then a else { a with shutdownPromise := true, disposing := a.disposing + 1 })
  | .dispose => a.dispose
  | .intake refused => a.intake refused
  | .deliveryResults _ | .httpAddress _ | .registerShutdownHook _ | .markReady | .started | .rethrow => none

def step : Root → App → Step → Option App
  | .startRelayApplication => stepApplication
  | .mainNode => stepMain

end App

/-- Every order of the steps of a root. -/
def system (root : Root) : TransitionSystem App Step := .ofStep .initial (App.step root)

/-- The steps of `startRelayApplication` when nothing shuts down before `markReady` has run. -/
def orderly : TransitionSystem App Step where
  init := .initial
  step := fun a l a' => App.step .startRelayApplication a l = some a' ∧ (l = .shutdown → a.stage ≠ .registered)

/-- The readiness lifecycle in one state of a root. -/
structure Lifecycle (root : Root) (a : App) : Prop where
  closedBefore : a.acquired = false → a.ready = false
  openBetween : a.stage = .started → a.shutdownPromise = false → a.ready = true
  accepts : ∀ refused a', App.step root a (.intake refused) = some a' → a.stage = .started →
    a.shutdownPromise = false → refused = false
  closedAfter : a.markedNotReady = true → a.ready = false
  disposedOnce : a.disposals ≤ 1
  disposedAfter : 0 < a.disposals → a.acquired = true → a.markedNotReady = true

/-! ## Orderly startup -/

/-- The stages before `markReady`. -/
def Stage.early (stage : Stage) : Bool := stage ∈ [.acquiring, .acquired, .resultsRead, .addressRead, .registered]

/-- What holds in every state of an orderly run: how the flag follows the stage and the shutdown. -/
structure Orderly (a : App) : Prop where
  known : a.readiness = a.acquired
  early : a.stage.early = true → a.ready = false ∧ a.shutdownPromise = false
  acquiring : a.stage = .acquiring → a.acquired = false
  acquired : a.stage ∈ [.acquired, .resultsRead, .addressRead, .registered, .marked, .started] → a.acquired = true
  opened : a.stage ∈ [.marked, .started] → a.shutdownPromise = false → a.ready = true
  failing : a.stage ∈ [.failing, .failed] → a.shutdownPromise = true
  shut : a.shutdownPromise = true → a.ready = false ∧ a.markedNotReady = a.acquired
  unshut : a.shutdownPromise = false → a.markedNotReady = false
  counted : a.disposing + a.disposals = if a.shutdownPromise then 1 else 0

theorem orderly_initial : Orderly .initial where
  known := rfl
  early := fun _ => ⟨rfl, rfl⟩
  acquiring := fun _ => rfl
  acquired := by decide
  opened := by decide
  failing := by decide
  shut := nofun
  unshut := fun _ => rfl
  counted := rfl

section Preserved

variable {a a' : App}

/-- An open application has been acquired. -/
theorem Orderly.ready_acquired (orderly : Orderly a) (ready : a.ready = true) : a.acquired = true := by
  by_cases early : a.stage.early = true
  · rw [(orderly.early early).1] at ready
    cases ready
  · cases shut : a.shutdownPromise with
    | true => rw [(orderly.shut shut).1] at ready; cases ready
    | false =>
      cases stage : a.stage with
      | acquiring | acquired | resultsRead | addressRead | registered => rw [stage] at early; exact absurd rfl early
      | marked | started => exact orderly.acquired (by rw [stage]; decide)
      | failing | failed =>
        have failed := orderly.failing (by rw [stage]; decide)
        rw [shut] at failed
        cases failed

/-- After `shutdown` has been called at a stage that is not early. -/
theorem Orderly.shutdown (orderly : Orderly a) (late : a.stage.early = false) : Orderly a.shutdown := by
  unfold App.shutdown
  split
  · exact orderly
  · next unshut =>
    rw [Bool.not_eq_true] at unshut
    have none := orderly.counted
    rw [unshut] at none
    refine { orderly with
      early := ?_, opened := ?_, failing := ?_, shut := ?_, unshut := ?_, counted := ?_ }
    · intro early
      rw [show a.stage.early = true from early] at late
      cases late
    · exact fun _ => nofun
    · exact fun _ => rfl
    · intro _
      refine ⟨?_, orderly.known⟩
      cases ready : a.ready with
      | false => rfl
      | true =>
        show (true && !a.readiness) = false
        rw [orderly.known, orderly.ready_acquired ready]
        rfl
    · exact nofun
    · show a.disposing + 1 + a.disposals = 1
      simp only [Bool.false_eq_true, if_false] at none
      omega

/-- After startup has failed before `markReady`. -/
theorem Orderly.throw (orderly : Orderly a) (early : a.stage.early = true) : Orderly a.throw := by
  obtain ⟨closed, unshut⟩ := orderly.early early
  have none := orderly.counted
  rw [unshut] at none
  have thrown : a.throw =
      { a with
        shutdownPromise := true
        ready := a.ready && !a.readiness
        markedNotReady := a.readiness
        disposing := a.disposing + 1
        stage := .failing } := by
    rw [App.throw, App.shutdown, unshut]
    rfl
  rw [thrown]
  refine ⟨orderly.known, nofun, nofun, ?_, ?_, fun _ => rfl, ?_, nofun, ?_⟩
  · exact fun member => absurd member (by simp)
  · exact fun member => absurd member (by simp)
  · intro _
    refine ⟨?_, orderly.known⟩
    show (a.ready && !a.readiness) = false
    rw [closed, Bool.false_and]
  · show a.disposing + 1 + a.disposals = 1
    simp only [Bool.false_eq_true, if_false] at none
    omega

/-- Startup moves on from one early stage to another. -/
theorem Orderly.continueOr (orderly : Orderly a) (ok : Bool) {stage : Stage} (early : a.stage.early = true)
    (acquired : a.acquired = true) (next : stage ∈ [.resultsRead, .addressRead, .registered]) :
    Orderly (a.continueOr ok stage) := by
  have closed := orderly.early early
  unfold App.continueOr
  split
  · refine { orderly with
      early := fun _ => closed, acquiring := ?_, acquired := fun _ => acquired, opened := ?_, failing := ?_ }
    · rintro rfl
      exact absurd next (by decide)
    · intro member
      rcases List.mem_cons.1 member with rfl | member
      · exact absurd next (by decide)
      · rcases List.mem_singleton.1 member with rfl
        exact absurd next (by decide)
    · intro member
      rcases List.mem_cons.1 member with rfl | member
      · exact absurd next (by decide)
      · rcases List.mem_singleton.1 member with rfl
        exact absurd next (by decide)
  · exact orderly.throw early

theorem Orderly.step {l : Step} (orderly : Orderly a) (step : a.stepApplication l = some a')
    (order : l = .shutdown → a.stage ≠ .registered) : Orderly a' := by
  cases l with
  | acquire ok =>
    obtain ⟨stage, step⟩ := Option.ite_none_right_eq_some.1 step
    cases step
    have early : a.stage.early = true := by rw [stage]; rfl
    have closed := orderly.early early
    cases ok with
    | false => exact orderly.throw early
    | true =>
      refine ⟨rfl, fun _ => closed, nofun, fun _ => rfl, ?_, ?_, ?_, orderly.unshut, orderly.counted⟩
      · exact fun member => absurd member (by simp)
      · exact fun member => absurd member (by simp)
      · intro shut
        rw [show a.shutdownPromise = true from shut] at closed
        cases closed.2
  | deliveryResults ok =>
    obtain ⟨stage, step⟩ := Option.ite_none_right_eq_some.1 step
    cases step
    exact orderly.continueOr ok (by rw [stage]; rfl) (orderly.acquired (by rw [stage]; decide)) (by decide)
  | httpAddress ok =>
    obtain ⟨stage, step⟩ := Option.ite_none_right_eq_some.1 step
    cases step
    exact orderly.continueOr ok (by rw [stage]; rfl) (orderly.acquired (by rw [stage]; decide)) (by decide)
  | registerShutdownHook ok =>
    obtain ⟨stage, step⟩ := Option.ite_none_right_eq_some.1 step
    cases step
    exact orderly.continueOr ok (by rw [stage]; rfl) (orderly.acquired (by rw [stage]; decide)) (by decide)
  | markReady =>
    obtain ⟨stage, step⟩ := Option.ite_none_right_eq_some.1 step
    cases step
    have closed := orderly.early (by rw [stage]; rfl)
    have acquired := orderly.acquired (by rw [stage]; decide)
    refine ⟨orderly.known, nofun, nofun, fun _ => acquired, fun _ _ => rfl, ?_, ?_, orderly.unshut, orderly.counted⟩
    · exact fun member => absurd member (by simp)
    · intro shut
      rw [show a.shutdownPromise = true from shut] at closed
      cases closed.2
  | started =>
    obtain ⟨stage, step⟩ := Option.ite_none_right_eq_some.1 step
    cases step
    have acquired := orderly.acquired (by rw [stage]; decide)
    refine ⟨orderly.known, nofun, nofun, fun _ => acquired, fun _ => orderly.opened (by rw [stage]; decide), ?_,
      orderly.shut, orderly.unshut, orderly.counted⟩
    exact fun member => absurd member (by simp)
  | shutdown =>
    obtain ⟨member, step⟩ := Option.ite_none_right_eq_some.1 step
    cases step
    have unregistered := order rfl
    refine orderly.shutdown ?_
    simp only [List.mem_cons, List.not_mem_nil, or_false] at member
    rcases member with stage | stage | stage | stage | stage
    · exact absurd stage unregistered
    all_goals rw [stage]; rfl
  | dispose =>
    simp only [App.stepApplication, App.dispose] at step
    split at step
    · cases step
    · split at step
      · next pending =>
        cases step
        refine { orderly with counted := ?_ }
        have counted := orderly.counted
        show a.disposing - 1 + (a.disposals + 1) = if a.shutdownPromise then 1 else 0
        omega
      · cases step
  | rethrow =>
    obtain ⟨⟨stage, -⟩, step⟩ := Option.ite_none_right_eq_some.1 step
    cases step
    have failed := orderly.failing (by rw [stage]; decide)
    refine { orderly with
      early := nofun, acquiring := nofun, acquired := ?_, opened := ?_, failing := fun _ => failed }
    · exact fun member => absurd member (by simp)
    · exact fun member => absurd member (by simp)
  | intake refused =>
    obtain ⟨-, step⟩ := Option.ite_none_right_eq_some.1 step
    cases step
    exact orderly

end Preserved

theorem orderly_run {tr : List Step} {a : App} (run : orderly.Run tr a) : Orderly a := by
  refine run.preserves Orderly orderly_initial ?_
  rintro a l a' holds ⟨step, order⟩
  exact Orderly.step holds step order

theorem Orderly.lifecycle {a : App} (orderly : Orderly a) : Lifecycle .startRelayApplication a where
  closedBefore := by
    intro unacquired
    cases ready : a.ready with
    | false => rfl
    | true => rw [orderly.ready_acquired ready] at unacquired; cases unacquired
  openBetween := fun started => orderly.opened (by rw [started]; decide)
  accepts := by
    intro refused a' step started unshut
    have opened := orderly.opened (by rw [started]; decide) unshut
    obtain ⟨answered, -⟩ := Option.ite_none_right_eq_some.1 step
    rw [answered, opened]
    rfl
  closedAfter := by
    intro marked
    cases shut : a.shutdownPromise with
    | true => exact (orderly.shut shut).1
    | false => rw [orderly.unshut shut] at marked; cases marked
  disposedOnce := by
    have counted := orderly.counted
    split at counted <;> omega
  disposedAfter := by
    intro disposed acquired
    cases shut : a.shutdownPromise with
    | true => rw [(orderly.shut shut).2, acquired]
    | false =>
      have counted := orderly.counted
      rw [shut] at counted
      simp only [Bool.false_eq_true, if_false] at counted
      omega

/-! ## The process entry point -/

/-- Nothing ever opens the application that `main.node.ts` launches. -/
theorem main_closed {tr : List Step} {a : App} (run : (system .mainNode).Run tr a) : a.ready = false := by
  refine run.preserves (fun a => a.ready = false) rfl ?_
  intro a l a' closed step
  have step : a.stepMain l = some a' := step
  cases l with
  | acquire ok =>
    obtain ⟨-, step⟩ := Option.ite_none_right_eq_some.1 step
    cases step
    split <;> exact closed
  | shutdown =>
    cases step
    split <;> exact closed
  | dispose =>
    obtain ⟨-, step⟩ := Option.ite_none_right_eq_some.1 step
    cases step
    exact closed
  | intake refused =>
    obtain ⟨-, step⟩ := Option.ite_none_right_eq_some.1 step
    cases step
    exact closed
  | deliveryResults | httpAddress | registerShutdownHook | markReady | started | rethrow => cases step

/-- **The readiness lifecycle holds in every orderly run of `startRelayApplication`.** Under `main.node.ts` it
fails as soon as startup is over. -/
theorem readiness_lifecycle (tr : List Step) (a : App) :
    (orderly.Run tr a → Lifecycle .startRelayApplication a) ∧
      ((system .mainNode).Run tr a → a.stage = .started → a.shutdownPromise = false → ¬ Lifecycle .mainNode a) := by
  constructor
  · intro run
    exact (orderly_run run).lifecycle
  · intro run started unshut lifecycle
    have opened := lifecycle.openBetween started unshut
    rw [main_closed run] at opened
    cases opened

/-- A shutdown from inside the registration of the hook is undone by `markReady`; the entry point never opens. -/
theorem readiness_lost :
    (¬ ∀ {tr : List Step} {a : App}, (system .startRelayApplication).Run tr a → Lifecycle .startRelayApplication a) ∧
      ¬ ∀ {tr : List Step} {a : App}, (system .mainNode).Run tr a → Lifecycle .mainNode a := by
  constructor
  · intro holds
    have run : (system .startRelayApplication).Run
        [.acquire true, .deliveryResults true, .httpAddress true, .registerShutdownHook true, .shutdown, .markReady]
        ⟨.marked, true, true, true, 1, 0, true, true⟩ := TransitionSystem.path_of_foldlM (by decide)
    have closed := (holds run).closedAfter rfl
    cases closed
  · intro holds
    have run : (system .mainNode).Run [.acquire true] ⟨.started, false, false, false, 0, 0, true, false⟩ :=
      TransitionSystem.path_of_foldlM (by decide)
    have opened := (holds run).openBetween rfl rfl
    cases opened

end Runtime

end Relay
