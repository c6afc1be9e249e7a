import Relay.Delivery.History
import Relay.Ledger.Attempts
import Relay.Worker.Protocol

/-!
# What the caller is told

The result of a run is made from its last outcome, and the stored state from its last
record. `terminalResult` and `deliveryStateFromResult` on one side, the adapters'
`recordAttempt` on the other, and `deliveryCompletionRow` beside them: all say the same
of the delivery once the last record has committed.
-/

namespace Relay

/-- The worker's `recordAttempt`: a record under the claim in the `Ref`, and one call. -/
inductive RecordsAttempt (M : StoreMachine) (deliveryId : DeliveryId) (trace : AttemptTraceCorrelation)
    (claim : DeliveryClaim) (attempt : DeliveryAttempt) (s : M.Store) : Except Failure Unit → M.Store → Prop where
  | throws (unmade : makeDeliveryAttemptRecord deliveryId claim attempt trace = none) :
      RecordsAttempt M deliveryId trace claim attempt s (.error .defect) s
  | asked {record : DeliveryAttemptRecord} {event : Option M.Event} {seen : Reply} {s' : M.Store}
      (made : makeDeliveryAttemptRecord deliveryId claim attempt trace = some record)
      (asks : M.Asks s (.recordAttempt record) event seen s') :
      RecordsAttempt M deliveryId trace claim attempt s (seen.map fun _ => ()) s'

/-- The attempts a run passes to `onAttempt`, and what it comes to. -/
structure EngineRun where
  attempts : List DeliveryAttempt
  exit : Option (Except Failure DeliveryResult)

namespace RetryEngine

/-- One call of `runDeliveryWithRetry`. -/
structure Invocation where
  deliveryId : DeliveryId
  destinationId : DestinationId
  resilience : DeliveryResilience
  firstOrdinal : ℕ
  startedAt : ℕ
  turns : ℕ → Turn Failure

def Invocation.run (call : Invocation) : EngineRun :=
  let run := runDeliveryWithRetry call.deliveryId call.destinationId call.resilience call.firstOrdinal call.startedAt
    call.turns call.resilience.maxAttempts
  ⟨recorded run.1, run.2⟩

/-- The attempts of the run are recorded in a store that others use in between. -/
structure Recording (M : StoreMachine) (call : Invocation) (trace : AttemptTraceCorrelation)
    (claims : ℕ → DeliveryClaim) (before after : ℕ → M.Store) : Prop where
  begins : M.anyCalls.Reachable (before 0)
  records : ∀ n attempt, call.run.attempts[n]? = some attempt →
    RecordsAttempt M call.deliveryId trace (claims n) attempt (before n) (call.turns n).recorded (after n)
  between : ∀ n, n + 1 < call.run.attempts.length → ∃ events, M.anyCalls.Path (after n) events (before (n + 1))

end RetryEngine

/-! ## One decision in four tables -/

section Tables

variable {E : Type*} {deliveryId : DeliveryId} {destinationId : DestinationId} {resilience : DeliveryResilience}
  {deadline retries : ℕ} {turn : Turn E} {attempts : List DeliveryAttempt}
  {decision : DeliveryAttemptDecision} {result : DeliveryResult} {record : DeliveryAttemptRecord}

/-- What `terminalResult` makes of an outcome and what a terminal record of it makes of the delivery. -/
theorem terminalStateFromAttempt_terminalResult {outcome : DeliveryOutcome} (final : isRetryable outcome = false)
    (tagged : record.outcome = outcome.tag) (terminal : record.decision = .terminal)
    (status : record.status = outcome.status?) :
    terminalStateFromAttempt record =
      some (deliveryStateFromResult (terminalResult deliveryId destinationId outcome attempts)) := by
  rw [terminalStateFromAttempt, terminal, tagged, status]
  cases outcome with
  | delivered | rejected | protocolFailure => rfl
  | retryable | transportFailure | timedOut => simp [isRetryable] at final

theorem terminalStateFromAttempt_exhausted (exhausted : record.decision = .exhausted) :
    terminalStateFromAttempt record = some (.deadLettered .retryBudgetExhausted) := by
  rw [terminalStateFromAttempt, exhausted]

/-- **The last record implies the state of the result.** -/
theorem RetryEngine.Ending.terminalState
    (ending : RetryEngine.Ending deliveryId destinationId resilience deadline retries turn attempts decision (.ok result))
    (tagged : record.outcome = turn.outcome.tag) (decided : record.decision = decision.tag)
    (status : record.status = turn.outcome.status?) :
    terminalStateFromAttempt record = some (deliveryStateFromResult result) := by
  generalize returned : Except.ok result = exit at ending
  cases ending with
  | terminal final =>
    obtain ⟨-, -, rfl⟩ := ok_of_map returned.symm
    exact terminalStateFromAttempt_terminalResult final tagged decided status
  | exhausted =>
    obtain ⟨-, -, rfl⟩ := ok_of_map returned.symm
    exact terminalStateFromAttempt_exhausted decided
  | failed => cases returned

end Tables

/-! ## Through the store -/

section Store

variable {M : StoreMachine} {deliveryId : DeliveryId} {trace : AttemptTraceCorrelation} {claim : DeliveryClaim}
  {attempt : DeliveryAttempt} {s s' : M.Store}

theorem StoreMachine.Asks.path {call : StoreCall} {event : Option M.Event} {seen : Reply}
    (asks : M.Asks s call event seen s') : ∃ events, M.anyCalls.Path s events s' := by
  cases asks with
  | answered asked step => exact ⟨_, .single step.2⟩
  | unanswered asked step failure => exact ⟨_, .single step.2⟩
  | unreached failure => exact ⟨_, .nil⟩

theorem RecordsAttempt.path {recorded : Except Failure Unit}
    (records : RecordsAttempt M deliveryId trace claim attempt s recorded s') :
    ∃ events, M.anyCalls.Path s events s' := by
  cases records with
  | throws => exact ⟨_, .nil⟩
  | asked made asks => exact asks.path

/-- A record that commits and ends the delivery leaves it in the state it implies. -/
theorem RecordsAttempt.settled (lawful : M.Lawful) (sound : M.Sound s)
    (records : RecordsAttempt M deliveryId trace claim attempt s (.ok ()) s') {state : DeliveryState}
    (implied : ∀ record, makeDeliveryAttemptRecord deliveryId claim attempt trace = some record →
      terminalStateFromAttempt record = some state) :
    ∃ e, M.view s' deliveryId = some e ∧ e.delivery.state = state := by
  generalize committed : Except.ok () = recorded at records
  cases records with
  | throws => cases committed
  | @asked record event seen _ made asks =>
    obtain ⟨value, answered, -⟩ := ok_of_map committed.symm
    subst answered
    obtain ⟨-, ⟨-, ⟨failure, failed⟩, -⟩ | ⟨l, -, served, seen⟩⟩ := lawful.asks sound asks
    · cases failed
    · have same : .ok value = l.reply := by
        rcases seen with same | ⟨failure, failed⟩
        · exact same
        · cases failed
      obtain ⟨-, e, e', -, -, after, written⟩ | ⟨⟨tag, refused⟩, -⟩ := served.recordAttempt
      · have named := (makeDeliveryAttemptRecord_eq_some made).1
        have ends := implied record made
        obtain ⟨retry, -⟩ | ⟨state', last, rfl⟩ := written
        · rw [ends] at retry
          cases retry
        · rw [ends, Option.some.injEq] at last
          subst last
          exact ⟨e.settle record state, by rw [after, named, Function.update_self], rfl⟩
      · rw [← same] at refused
        cases refused

end Store

namespace RetryEngine

section Recording

variable {M : StoreMachine} {call : Invocation} {trace : AttemptTraceCorrelation} {claims : ℕ → DeliveryClaim}
  {before after : ℕ → M.Store}

theorem Recording.reachable (recording : Recording M call trace claims before after) (n : ℕ)
    (within : n < call.run.attempts.length) : M.anyCalls.Reachable (before n) := by
  induction n with
  | zero => exact recording.begins
  | succ n ih =>
    obtain ⟨events, run⟩ := ih (by omega)
    obtain ⟨during, recorded⟩ := (recording.records n _ (List.getElem?_eq_getElem (by omega))).path
    obtain ⟨between, others⟩ := recording.between n within
    exact ⟨events ++ during ++ between, (run.append recorded).append others⟩

/-- The last attempt of a run that returns, with the ending that made the result of it. -/
theorem Invocation.returned {result : DeliveryResult} (returned : call.run.exit = some (.ok result)) :
    ∃ n last, call.run.attempts.length = n + 1 ∧ call.run.attempts[n]? = some last ∧
      last.outcome = (call.turns n).outcome ∧ (call.turns n).recorded = .ok () ∧
      Ending call.deliveryId call.destinationId call.resilience (call.startedAt + call.resilience.maxElapsed) n
        (call.turns n) call.run.attempts last.decision (.ok result) := by
  obtain ⟨rounds, exit, story, -, run⟩ := run_story call.deliveryId call.destinationId call.resilience call.firstOrdinal
    call.startedAt call.turns
  have shape : call.run = ⟨rounds.map (·.attempt), some exit⟩ := by
    rw [Invocation.run, run _ (le_refl _), recorded_rounds]
  rw [shape] at returned ⊢
  obtain rfl : exit = .ok result := Option.some.inj returned
  obtain ⟨last, final, ending⟩ := story.ending
  have some_left := List.length_pos_of_ne_nil story.ne_nil
  rw [Nat.zero_add, List.nil_append] at ending
  rw [List.getLast?_eq_getElem?] at final
  have committed : (call.turns (rounds.length - 1)).recorded = .ok () := by
    cases recorded : (call.turns (rounds.length - 1)).recorded with
    | error failure => cases ending.exit_of_error.1 recorded
    | ok => rfl
  refine ⟨rounds.length - 1, last.attempt, ?_, ?_, story.outcome final, committed, ending⟩
  · rw [List.length_map]
    omega
  · rw [List.getElem?_map, final]
    rfl

end Recording

end RetryEngine

/-! ## Reading it back -/

section Memory

variable (s : MemoryStore) (id : DeliveryId) (result : DeliveryResult)

/-- The state `findById` reads. -/
def MemoryStore.stateOf : Option DeliveryState := (s.records.get id).map (·.state)

/-- The delivery stands as `completeClaim` would write it for the result. -/
def MemoryStore.Completed : Prop :=
  ∃ delivery, s.records.get id = some delivery ∧ delivery.state = deliveryStateFromResult result

end Memory

section Postgres

variable (db : Postgres.Database) (id : DeliveryId) (result : DeliveryResult)

/-- The state `findById` reads through `rowToDelivery`. -/
def Postgres.Database.stateOf : Option DeliveryState :=
  (db.deliveries.find id).bind fun r => (rowToDelivery r).map (·.state)

/-- The row has the columns `deliveryCompletionRow` gives for the result. -/
def Postgres.Database.Completed : Prop :=
  ∃ r, db.deliveries.find id = some r ∧
    (r.state, r.status, r.deadLetterReason) = completionColumns (deliveryStateFromResult result)

end Postgres

section ReadBack

variable {id : DeliveryId} {e : Entry} {result : DeliveryResult}

theorem MemoryStore.stateOf_view {s : MemoryStore} (held : s.view id = some e)
    (settled : e.delivery.state = deliveryStateFromResult result) :
    s.stateOf id = some (deliveryStateFromResult result) ∧ s.Completed id result := by
  obtain ⟨delivery, stored, rfl⟩ := Option.map_eq_some_iff.1 held
  refine ⟨?_, delivery, stored, settled⟩
  rw [stateOf, stored, Option.map_some, ← settled]
  rfl

theorem Postgres.Database.stateOf_view {db : Postgres.Database} (sound : db.Sound) (held : db.view id = some e)
    (settled : e.delivery.state = deliveryStateFromResult result) :
    db.stateOf id = some (deliveryStateFromResult result) ∧ db.Completed id result := by
  obtain ⟨L, rep⟩ := sound
  rw [rep.view] at held
  have row := rep.rows id
  rw [held] at row
  refine ⟨?_, _, row, ?_⟩
  · rw [stateOf, row, Option.map_some, Option.bind_some, rowToDelivery_rowOf, Option.map_some, settled]
  · rw [completionColumns_result, ← settled]
    rfl

end ReadBack

def Adapter.stateOf : (adapter : Adapter) → adapter.intake.Store → DeliveryId → Option DeliveryState
  | .memory => MemoryStore.stateOf
  | .postgres => Postgres.Database.stateOf

def Adapter.Completed : (adapter : Adapter) → adapter.intake.Store → DeliveryId → DeliveryResult → Prop
  | .memory => MemoryStore.Completed
  | .postgres => Postgres.Database.Completed

theorem Adapter.stateOf_view : ∀ (adapter : Adapter) {s : adapter.intake.Store} {id : DeliveryId} {e : Entry}
    {result : DeliveryResult}, adapter.intake.Sound s → adapter.intake.view s id = some e →
      e.delivery.state = deliveryStateFromResult result →
      adapter.stateOf s id = some (deliveryStateFromResult result) ∧ adapter.Completed s id result
  | .memory => fun _ held settled => MemoryStore.stateOf_view held settled
  | .postgres => fun sound held settled => Postgres.Database.stateOf_view sound held settled

namespace Sample

/-- A request that fails on its way, and one that is answered outside the protocol. -/
def failingTurns (n : ℕ) : Turn Failure where
  askedAt := 2000000 * n
  startedAt := 2000000 * n
  completedAt := 2000000 * n
  outcome := if n = 0 then .transportFailure destination else .protocolFailure destination 700
  fraction := 1 / 2
  clampedAt := 2000000 * n
  decidedAt := 2000000 * n
  recorded := .ok ()

def failingCall : RetryEngine.Invocation where
  deliveryId := delivery
  destinationId := destination
  resilience := ⟨Nat.toPNat' 10000000, Nat.toPNat' 3, Nat.toPNat' 100000000, Nat.toPNat' 4000000, Nat.toPNat' 4000000⟩
  firstOrdinal := 1
  startedAt := 0
  turns := failingTurns

def untracedAttempts : AttemptTraceCorrelation := ⟨none, none⟩

def failingAttempts : List DeliveryAttempt :=
  [⟨1, 0, 0, .transportFailure destination, .retryScheduled 2⟩, ⟨2, 2, 2, .protocolFailure destination 700, .terminal⟩]

def retriedRecord : DeliveryAttemptRecord where
  deliveryId := delivery
  ordinal := Nat.toPNat' 1
  workerId := worker
  claimGeneration := claim.generation
  startedAtMillis := 0
  completedAtMillis := 0
  outcome := .transportFailure
  decision := .retryScheduled
  status := none
  retryDelayMillis := some 2
  traceId := none
  spanId := none
  consistent := by decide

def conclusiveRecord : DeliveryAttemptRecord where
  deliveryId := delivery
  ordinal := Nat.toPNat' 2
  workerId := worker
  claimGeneration := claim.generation
  startedAtMillis := 2
  completedAtMillis := 2
  outcome := .protocolFailure
  decision := .terminal
  status := some 700
  retryDelayMillis := none
  traceId := none
  spanId := none
  consistent := by decide

def createdMaps : memory.Store := (memory.exec 0 memory.empty savePending).2

def retriedMaps : memory.Store := (memory.exec 1 createdMaps (.recordAttempt retriedRecord)).2

def conclusiveMaps : memory.Store := (memory.exec 3 retriedMaps (.recordAttempt conclusiveRecord)).2

/-- The maps before and after each record. -/
def failingBefore (n : ℕ) : memory.Store := if n = 0 then createdMaps else retriedMaps

def failingAfter (n : ℕ) : memory.Store := if n = 0 then retriedMaps else conclusiveMaps

theorem failingCall_attempts : failingCall.run.attempts = failingAttempts := by decide +kernel

theorem failingCall_recording :
    RetryEngine.Recording memory failingCall untracedAttempts (fun _ => claim) failingBefore failingAfter where
  begins := ⟨_, .single (memory.exec_step 0 memory.empty savePending)⟩
  records := by
    intro n attempt here
    rw [failingCall_attempts] at here
    match n with
    | 0 =>
      cases here
      have made : makeDeliveryAttemptRecord delivery claim
          ⟨1, 0, 0, .transportFailure destination, .retryScheduled 2⟩ untracedAttempts = some retriedRecord := by
        decide +kernel
      have done : (memory.exec 1 createdMaps (.recordAttempt retriedRecord)).1 = .ok .done := by decide +kernel
      have asks := memory.asks_event (c := .recordAttempt retriedRecord) 1 createdMaps rfl
      rw [done] at asks
      exact .asked made asks
    | 1 =>
      cases here
      have made : makeDeliveryAttemptRecord delivery claim
          ⟨2, 2, 2, .protocolFailure destination 700, .terminal⟩ untracedAttempts = some conclusiveRecord := by
        decide +kernel
      have done : (memory.exec 3 retriedMaps (.recordAttempt conclusiveRecord)).1 = .ok .done := by decide +kernel
      have asks := memory.asks_event (c := .recordAttempt conclusiveRecord) 3 retriedMaps rfl
      rw [done] at asks
      exact .asked made asks
    | n + 2 => cases here
  between := by
    intro n within
    rw [failingCall_attempts] at within
    obtain rfl : n = 0 := by simpa [failingAttempts] using within
    exact ⟨[], .nil⟩

end Sample

end Relay
