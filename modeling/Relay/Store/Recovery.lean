import Relay.Adapters.PostgresRecovery
import Relay.Store.Claiming

/-!
# One winner for each dead letter

Operators retry, repair and terminate dead letters while other operators and the
workers make their calls. In SQL an action is a check and a later update; over the
maps it is one step. A log keeps what each step found, left and answered, so that
the dead letters that came, those that were ended and the actions that succeeded
can be counted.
-/

namespace Relay

/-- An adapter with its operator actions. -/
structure OperatorMachine extends StoreMachine where
  /-- The first statement of an action, with the failure it ends in, if any. -/
  check : Store → Recovery → Option Failure
  update : ℕ → Store → Recovery → Reply × Store
  /-- What holds of the store from the check of an action to its update. -/
  Ready : Ledger → Recovery → Prop

def Ledger.dead (L : Ledger) (id : DeliveryId) : Bool :=
  match L id with
  | none => false
  | some e => Entry.isDeadLettered e.delivery.state

/-- An action that was answered. -/
structure Ending where
  action : Recovery
  nowMillis : ℕ
  answer : Answer

def Ending.succeeded (x : Ending) : Bool :=
  match x.answer with
  | .ok _ => true
  | .error _ => false

/-- What one step found, left and answered. -/
structure Moment where
  before : Ledger
  after : Ledger
  ending : Option Ending

namespace Moment

variable (m : Moment) (id : DeliveryId)

/-- A delivery becomes a dead letter. -/
def enters : Bool := !m.before.dead id && m.after.dead id

/-- A dead letter is one no longer. -/
def leaves : Bool := m.before.dead id && !m.after.dead id

/-- An action on the delivery succeeds. -/
def wins : Bool := m.ending.any fun x => x.succeeded && x.action.id = id

end Moment

structure Operators (M : OperatorMachine) where
  store : M.Store
  /-- The actions that passed their check. -/
  underway : ℕ → Option Recovery
  log : List Moment

inductive OperatorStep (M : OperatorMachine) where
  | call (event : M.Event)
  | check (operator : ℕ) (nowMillis : ℕ) (action : Recovery)
  | update (operator : ℕ) (nowMillis : ℕ)

namespace OperatorMachine

variable (M : OperatorMachine)

/-- Any number of operators among any other calls. -/
def operators : TransitionSystem (Operators M) (OperatorStep M) where
  init := ⟨M.empty, fun _ => none, []⟩
  step := fun s l s' =>
    match l with
    | .call event => (∀ action : Recovery, M.call event.call ≠ action.call) ∧
        M.system.step s.store event s'.store ∧ s'.underway = s.underway ∧
        s'.log = s.log ++ [⟨M.view s.store, M.view s'.store, none⟩]
    | .check operator nowMillis action => s.underway operator = none ∧
        s' = match M.check s.store action with
          | some failure =>
            { s with log := s.log ++ [⟨M.view s.store, M.view s.store, some ⟨action, nowMillis, .error failure.tag⟩⟩] }
          | none => { s with underway := Function.update s.underway operator (some action) }
    | .update operator nowMillis => ∃ action, s.underway operator = some action ∧
        s' = {
          store := (M.update nowMillis s.store action).2
          underway := Function.update s.underway operator none
          log := s.log ++ [⟨M.view s.store, M.view (M.update nowMillis s.store action).2,
            some ⟨action, nowMillis, (M.update nowMillis s.store action).1.answer⟩⟩] }

structure Lawful : Prop where
  store : M.toStoreMachine.Lawful
  refuses : ∀ {s : M.Store} {action : Recovery} {failure : Failure}, M.Sound s → M.check s action = some failure →
    action.Refuses (M.view s action.id) failure.tag
  ready : ∀ {s : M.Store} {action : Recovery}, M.Sound s → M.check s action = none → M.Ready (M.view s) action
  /-- Deliveries that stay what they are keep an action ready. -/
  stays : ∀ {L L' : Ledger} {action : Recovery}, M.Ready L action →
    (∀ e, L action.id = some e → ∃ e', L' action.id = some e' ∧ e.Identical e') → M.Ready L' action
  sound : ∀ {s : M.Store} {action : Recovery} (nowMillis : ℕ), M.Sound s → M.Ready (M.view s) action →
    M.Sound (M.update nowMillis s action).2
  serves : ∀ {s : M.Store} {action : Recovery} (nowMillis : ℕ), M.Sound s → M.Ready (M.view s) action →
    (M.update nowMillis s action).1.answer = (action.serve nowMillis (M.view s action.id)).1 ∧
      M.view (M.update nowMillis s action).2 =
        Function.update (M.view s) action.id (action.serve nowMillis (M.view s action.id)).2

end OperatorMachine

/-! ## One step -/

/-- What an answered action did: it ended the dead letter it is for, or changed nothing and said why. -/
inductive Ending.Fair (x : Ending) (before after : Ledger) : Prop where
  | succeeds (e e' : Entry) (held : before x.action.id = some e) (done : x.answer = .ok .done)
      (ends : x.action.Ends x.nowMillis e e') (left : after = Function.update before x.action.id (some e'))
  | fails (tag : ErrorTag) (failed : x.answer = .error tag) (refused : x.action.Refuses (before x.action.id) tag)
      (unchanged : after = before)

structure Moment.Fair (m : Moment) : Prop where
  /-- Dead letters end by successful actions, and these end one each. -/
  ends : ∀ id, m.leaves id = m.wins id
  answers : ∀ x, m.ending = some x → x.Fair m.before m.after

/-- **One winner for each dead letter**: every period a delivery is a dead letter is ended by one action that succeeds, and
every action that is answered otherwise changes nothing. -/
structure OperatorMachine.OneWinner (M : OperatorMachine) : Prop where
  fair : ∀ {tr s}, M.operators.Run tr s → ∀ m ∈ s.log, m.Fair
  /-- The dead letters there were are those an action ended and the one there is. -/
  counts : ∀ {tr s}, M.operators.Run tr s → ∀ id,
    s.log.countP (·.enters id) = s.log.countP (·.wins id) + if (M.view s.store).dead id then 1 else 0

section Moment

variable {L : Ledger} {id : DeliveryId}

theorem Ledger.dead_of {e : Entry} (held : L id = some e) : L.dead id = Entry.isDeadLettered e.delivery.state := by
  rw [Ledger.dead, held]

theorem Ledger.dead_update {e : Entry} : Ledger.dead (Function.update L id (some e)) id = Entry.isDeadLettered e.delivery.state :=
  Ledger.dead_of (Function.update_self id (some e) L)

theorem Ledger.dead_update_of_ne {id' : DeliveryId} {e : Entry} (other : id' ≠ id) :
    Ledger.dead (Function.update L id (some e)) id' = L.dead id' := by
  rw [Ledger.dead, Function.update_of_ne other]
  rfl

/-- A step that changes nothing ends no dead letter. -/
theorem Moment.leaves_same {ending : Option Ending} : Moment.leaves ⟨L, L, ending⟩ id = false := by
  rw [Moment.leaves, Bool.and_not_self]

theorem Ending.Fair.moment {x : Ending} {before after : Ledger} (fair : x.Fair before after) :
    Moment.Fair ⟨before, after, some x⟩ where
  answers := by
    rintro y ⟨⟩
    exact fair
  ends := by
    intro id
    cases fair with
    | succeeds e e' held done ends left =>
      subst left
      have wins : Moment.wins ⟨before, Function.update before x.action.id (some e'), some x⟩ id = decide (x.action.id = id) := by
        simp [Moment.wins, Ending.succeeded, done]
      rw [wins, Moment.leaves]
      by_cases here : x.action.id = id
      · subst here
        rw [Ledger.dead_update, Ledger.dead_of held, ends.dead, ends.undead]
        simp
      · rw [Ledger.dead_update_of_ne (Ne.symm here), Bool.and_not_self, decide_eq_false here]
    | fails tag failed refused unchanged =>
      rw [unchanged, Moment.leaves_same]
      simp [Moment.wins, Ending.succeeded, failed]

/-- What a step does to the count of dead letters. -/
theorem Moment.Fair.balance {m : Moment} (fair : m.Fair) (id : DeliveryId) :
    ((if m.enters id then 1 else 0) + if m.before.dead id then 1 else 0 : ℕ) =
      (if m.wins id then 1 else 0) + if m.after.dead id then 1 else 0 := by
  rw [← fair.ends id, Moment.enters, Moment.leaves]
  cases m.before.dead id <;> cases m.after.dead id <;> rfl

end Moment

/-! ## Whole runs -/

structure Operators.Inv {M : OperatorMachine} (s : Operators M) : Prop where
  sound : M.Sound s.store
  ready : ∀ operator action, s.underway operator = some action → M.Ready (M.view s.store) action
  fair : ∀ m ∈ s.log, m.Fair
  counts : ∀ id, s.log.countP (·.enters id) = s.log.countP (·.wins id) + if (M.view s.store).dead id then 1 else 0

namespace OperatorMachine.Lawful

variable {M : OperatorMachine} {s : Operators M}

/-- The log grows by a fair moment that starts from the store before the step. -/
theorem log_snoc (inv : s.Inv) {m : Moment} (fair : m.Fair) (now : m.before = M.view s.store) :
    (∀ m' ∈ s.log ++ [m], m'.Fair) ∧ ∀ id, (s.log ++ [m]).countP (·.enters id) =
      (s.log ++ [m]).countP (·.wins id) + if m.after.dead id then 1 else 0 := by
  constructor
  · intro m' member
    obtain earlier | last := List.mem_append.1 member
    · exact inv.fair m' earlier
    · rw [List.mem_singleton.1 last]
      exact fair
  · intro id
    have balance := fair.balance id
    have counts := inv.counts id
    rw [now] at balance
    simp only [List.countP_append, List.countP_singleton]
    omega

theorem inv_call (lawful : M.Lawful) (inv : s.Inv) {event : M.Event} {s' : Operators M}
    (other : ∀ action : Recovery, M.call event.call ≠ action.call) (step : M.system.step s.store event s'.store)
    (underway : s'.underway = s.underway) (log : s'.log = s.log ++ [⟨M.view s.store, M.view s'.store, none⟩]) : s'.Inv := by
  obtain ⟨sound, served⟩ := lawful.store.step inv.sound step
  have fair : Moment.Fair ⟨M.view s.store, M.view s'.store, none⟩ := by
    refine ⟨?_, fun x answered => by cases answered⟩
    intro id
    show (Ledger.dead (M.view s.store) id && !Ledger.dead (M.view s'.store) id) = false
    cases held : M.view s.store id with
    | none => simp [Ledger.dead, held]
    | some e =>
      rw [Ledger.dead_of held]
      cases dead : Entry.isDeadLettered e.delivery.state with
      | false => rfl
      | true =>
        obtain ⟨e', held', dead'⟩ := served.stays_dead other held dead
        rw [Ledger.dead_of held', dead']
        rfl
  obtain ⟨fairs, counts⟩ := log_snoc inv fair rfl
  rw [← log] at fairs counts
  refine ⟨sound, ?_, fairs, counts⟩
  intro operator action passed
  rw [underway] at passed
  refine lawful.stays (inv.ready operator action passed) ?_
  intro e held
  obtain ⟨e', held', advances⟩ := served.advances held
  exact ⟨e', held', advances.identical⟩

theorem inv_check (lawful : M.Lawful) (inv : s.Inv) (operator nowMillis : ℕ) (action : Recovery) :
    Operators.Inv (match M.check s.store action with
      | some failure =>
        { s with log := s.log ++ [⟨M.view s.store, M.view s.store, some ⟨action, nowMillis, .error failure.tag⟩⟩] }
      | none => { s with underway := Function.update s.underway operator (some action) } : Operators M) := by
  cases check : M.check s.store action with
  | some failure =>
    have fair : Ending.Fair ⟨action, nowMillis, .error failure.tag⟩ (M.view s.store) (M.view s.store) :=
      .fails failure.tag rfl (lawful.refuses inv.sound check) rfl
    obtain ⟨fairs, counts⟩ := log_snoc inv fair.moment rfl
    exact ⟨inv.sound, inv.ready, fairs, counts⟩
  | none =>
    refine ⟨inv.sound, ?_, inv.fair, inv.counts⟩
    intro operator' action' passed
    by_cases here : operator' = operator
    · simp only [here, Function.update_self, Option.some.injEq] at passed
      rw [← passed]
      exact lawful.ready inv.sound check
    · simp only [Function.update_of_ne here] at passed
      exact inv.ready operator' action' passed

theorem inv_update (lawful : M.Lawful) (inv : s.Inv) {operator : ℕ} {action : Recovery}
    (passed : s.underway operator = some action) (nowMillis : ℕ) : Operators.Inv ({
      store := (M.update nowMillis s.store action).2
      underway := Function.update s.underway operator none
      log := s.log ++ [⟨M.view s.store, M.view (M.update nowMillis s.store action).2,
        some ⟨action, nowMillis, (M.update nowMillis s.store action).1.answer⟩⟩] } : Operators M) := by
  have ready := inv.ready operator action passed
  obtain ⟨answer, left⟩ := lawful.serves nowMillis inv.sound ready
  have fair : Ending.Fair ⟨action, nowMillis, (M.update nowMillis s.store action).1.answer⟩ (M.view s.store)
      (M.view (M.update nowMillis s.store action).2) := by
    obtain ⟨e, e', held, serve, ends⟩ | ⟨tag, serve, refused⟩ := action.serve_cases nowMillis (M.view s.store action.id)
    · exact .succeeds e e' held (by rw [answer, serve]) ends (by rw [left, serve])
    · exact .fails tag (by rw [answer, serve]) refused (by rw [left, serve, Function.update_eq_self])
  obtain ⟨fairs, counts⟩ := log_snoc inv fair.moment rfl
  refine ⟨lawful.sound nowMillis inv.sound ready, ?_, fairs, counts⟩
  intro operator' action' passed'
  by_cases here : operator' = operator
  · simp only [here, Function.update_self] at passed'
    cases passed'
  · simp only [Function.update_of_ne here] at passed'
    refine lawful.stays (inv.ready operator' action' passed') ?_
    intro e held
    have kept : ∃ e', M.view (M.update nowMillis s.store action).2 action'.id = some e' ∧ e.Identical e' := by
      rw [left]
      by_cases same : action'.id = action.id
      · rw [same] at held ⊢
        rw [Function.update_self, held]
        obtain ⟨e₀, e', held₀, serve, ends⟩ | ⟨tag, serve, -⟩ := action.serve_cases nowMillis (some e)
        · cases held₀
          exact ⟨e', by rw [serve], ends.identical⟩
        · exact ⟨e, by rw [serve], rfl, rfl, rfl⟩
      · exact ⟨e, by rw [Function.update_of_ne same, held], rfl, rfl, rfl⟩
    exact kept

/-- **Every lawful adapter has one winner for each dead letter.** -/
theorem oneWinner (lawful : M.Lawful) : M.OneWinner := by
  have inv : ∀ {tr s}, M.operators.Run tr s → s.Inv := by
    intro tr s run
    refine run.preserves Operators.Inv ?_ ?_
    · refine ⟨lawful.store.sound_empty, (fun _ _ passed => by cases passed), (fun _ member => by cases member), ?_⟩
      intro id
      show 0 = 0 + if Ledger.dead (M.view M.empty) id then 1 else 0
      rw [lawful.store.view_empty]
      rfl
    · intro s l s' inv step
      cases l with
      | call event =>
        obtain ⟨other, step, underway, log⟩ := step
        exact lawful.inv_call inv other step underway log
      | check operator nowMillis action =>
        obtain ⟨-, rfl⟩ := step
        exact lawful.inv_check inv operator nowMillis action
      | update operator nowMillis =>
        obtain ⟨action, passed, rfl⟩ := step
        exact lawful.inv_update inv passed nowMillis
  exact ⟨fun run => (inv run).fair, fun run => (inv run).counts⟩

end OperatorMachine.Lawful

/-! ## The two adapters -/

/-- An action on the maps runs without yielding: nothing is decided before its only step. -/
def memoryOperators : OperatorMachine where
  toStoreMachine := memory
  check := fun _ _ => none
  update := fun nowMillis s action => s.exec nowMillis action.call
  Ready := fun _ _ => True

theorem memoryOperators_lawful : memoryOperators.Lawful where
  store := memory_lawful
  refuses := fun _ refused => by cases refused
  ready := fun _ _ => trivial
  stays := fun _ _ => trivial
  sound := fun nowMillis sound _ => (MemoryStore.exec_serves sound (Recovery.onEntry _ nowMillis)).sound
  serves := by
    intro s action nowMillis sound _
    have serves := MemoryStore.exec_serves sound (action.onEntry nowMillis)
    exact ⟨serves.answer, serves.view⟩

def postgresOperators : OperatorMachine where
  toStoreMachine := postgres
  check := Postgres.Database.check
  update := fun nowMillis db action => db.resume nowMillis action.call
  Ready := Postgres.Database.Recoverable

theorem postgresOperators_view {db : Postgres.Database} {L : Ledger} (rep : db.Represents L) :
    postgresOperators.view db = L := rep.view

theorem postgresOperators_lawful : postgresOperators.Lawful where
  store := postgres_lawful
  refuses := by
    rintro db action failure ⟨L, rep⟩ refused
    obtain ⟨failure', check, refuses⟩ | ⟨check, -⟩ := Postgres.Database.check_cases rep action
    · rw [show postgresOperators.check db action = some failure' from check, Option.some.injEq] at refused
      rw [← refused, postgresOperators_view rep]
      exact refuses
    · rw [show postgresOperators.check db action = none from check] at refused
      cases refused
  ready := by
    rintro db action ⟨L, rep⟩ passed
    obtain ⟨failure, check, -⟩ | ⟨-, recoverable⟩ := Postgres.Database.check_cases rep action
    · rw [show postgresOperators.check db action = some failure from check] at passed
      cases passed
    · rw [postgresOperators_view rep]
      exact recoverable
  stays := by
    rintro L L' action ⟨e, held, own⟩ kept
    obtain ⟨e', held', identical⟩ := kept e held
    refine ⟨e', held', ?_⟩
    intro route brings
    rw [identical.destinationId]
    exact own route brings
  sound := by
    rintro db action nowMillis ⟨L, rep⟩ ready
    rw [postgresOperators_view rep] at ready
    exact ⟨_, (Postgres.Database.resume_serves rep nowMillis ready).represents⟩
  serves := by
    rintro db action nowMillis ⟨L, rep⟩ ready
    rw [postgresOperators_view rep] at ready ⊢
    have serves := Postgres.Database.resume_serves rep nowMillis ready
    exact ⟨serves.answer, serves.represents.view⟩

def Adapter.operators : Adapter → OperatorMachine
  | .memory => memoryOperators
  | .postgres => postgresOperators

/-- **Dead letters are ended one action each**, with both adapters. -/
theorem adapters_have_one_winner (adapter : Adapter) : adapter.operators.OneWinner := by
  cases adapter with
  | memory => exact memoryOperators_lawful.oneWinner
  | postgres => exact postgresOperators_lawful.oneWinner

end Relay
