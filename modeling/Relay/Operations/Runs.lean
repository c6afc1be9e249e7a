import Relay.Operations.Answers
import Relay.Store.Reads

/-!
# Every exit is explained

The invariant of the runs of operator requests: what the log says of each request at
the stage it has reached. One lemma for each kind of statement carries it; the run
follows by induction.
-/

namespace Relay

/-! ## What is asked of an adapter -/

/-- What reading statuses asks of an adapter. -/
structure OperationsMachine.Lawful (M : OperationsMachine) : Prop where
  operator : M.toOperatorMachine.Lawful
  row_none : ∀ {s : M.Store} {id : DeliveryId}, M.Sound s → M.view s id = none → M.readRow s id = .ok none
  row_some : ∀ {s : M.Store} {id : DeliveryId} {e : Entry}, M.Sound s → M.view s id = some e →
    ∃ row, M.readRow s id = .ok (some row) ∧ M.Shows row e
  kept_empty : M.Kept M.empty
  kept_exec : ∀ {s : M.Store} (nowMillis : ℕ) (c : M.Call), M.Kept s → M.Kept (M.exec nowMillis s c).2
  kept_update : ∀ {s : M.Store} (nowMillis : ℕ) (action : Recovery), M.Kept s → M.Kept (M.update nowMillis s action).2
  /-- A row selected earlier is completed to the status of then. -/
  rest : ∀ {s : M.Store} {id : DeliveryId} {row : M.Row} {e e' : Entry}, M.Sound s → M.Kept s → M.Shows row e →
    M.view s id = some e' → e.Follows e' → M.readRest s row = .ok e.status

/-! ## The invariant -/

section Inv

variable {M : OperationsMachine}

/-- The row was selected after `k` moments. -/
def OperationsMachine.ShownAt (M : OperationsMachine) (log : List OperationMoment) (k : ℕ) (id : DeliveryId) (row : M.Row) :
    Prop :=
  k ≤ log.length ∧ ∃ e, held log k id = some e ∧ M.Shows row e

/-- What the log says of a request at a stage. -/
inductive OperationsMachine.Tracks (M : OperationsMachine) (log : List OperationMoment) (i : ℕ)
    (request : OperationRequest M.Row) : OperationStage M.Row → Prop where
  | reading (action : Recovery) (acts : request.operation = .act action) (absent : Absent log i) :
      Tracks M log i request .reading
  | readingRest (row : M.Row) (action : Recovery) (acts : request.operation = .act action) (absent : Absent log i) (k : ℕ)
      (shown : M.ShownAt log k request.operation.id row) : Tracks M log i request (.readingRest row)
  | acting (action : Recovery) (acts : request.operation = .act action) (absent : Absent log i) :
      Tracks M log i request .acting
  | passed (action : Recovery) (acts : request.operation = .act action) (absent : Absent log i) :
      Tracks M log i request .passed
  | rereading (k : ℕ) (within : k ≤ log.length) (done : Done log i request.operation request.arrived k) :
      Tracks M log i request .rereading
  | rereadingRest (row : M.Row) (k : ℕ) (done : Done log i request.operation request.arrived k)
      (shown : M.ShownAt log k request.operation.id row) : Tracks M log i request (.rereadingRest row)
  | exited (exit : OperationExit) (explains : Explains log i request exit) : Tracks M log i request (.exited exit)

/-- The action of a request between its check and its update. -/
def OperationRequest.underway {Row : Type} (request : OperationRequest Row) : Option Recovery :=
  match request.stage, request.operation with
  | .passed, .act action => some action
  | _, _ => none

/-- The operators at work. -/
def Operations.operators (s : Operations M) : Operators M.toOperatorMachine where
  store := s.store
  underway := fun i => s.requests[i]?.bind OperationRequest.underway
  log := s.log.map (·.toMoment)

structure Operations.Inv (s : Operations M) : Prop where
  operators : s.operators.Inv
  chained : Chained s.log
  now : M.view s.store = held s.log s.log.length
  kept : M.Kept s.store
  owners : ∀ m ∈ s.log, ∀ i, m.request = some i → i < s.requests.length
  arrived : ∀ (i : ℕ) (request : OperationRequest M.Row), s.requests[i]? = some request → request.arrived ≤ s.log.length
  tracks : ∀ (i : ℕ) (request : OperationRequest M.Row), s.requests[i]? = some request → M.Tracks s.log i request request.stage

variable {log more : List OperationMoment} {i : ℕ} {request : OperationRequest M.Row} {stage : OperationStage M.Row}

theorem OperationsMachine.ShownAt.append {k : ℕ} {id : DeliveryId} {row : M.Row} (shown : M.ShownAt log k id row) :
    M.ShownAt (log ++ more) k id row := by
  obtain ⟨within, e, there, shows⟩ := shown
  exact ⟨within.trans (by simp), e, by rw [held_append within, there], shows⟩

/-- Steps of others leave what the log says of a request. -/
theorem OperationsMachine.Tracks.append (tracks : M.Tracks log i request stage) (others : Absent more i) :
    M.Tracks (log ++ more) i request stage := by
  cases tracks with
  | reading action acts absent => exact .reading action acts (others.append absent)
  | readingRest row action acts absent k shown => exact .readingRest row action acts (others.append absent) k shown.append
  | acting action acts absent => exact .acting action acts (others.append absent)
  | passed action acts absent => exact .passed action acts (others.append absent)
  | rereading k within done => exact .rereading k (within.trans (by simp)) (done.append others)
  | rereadingRest row k done shown => exact .rereadingRest row k (done.append others) shown.append
  | exited exit explains => exact .exited exit (explains.append others)

/-- Whatever its stage, a request acts at most once. -/
theorem OperationsMachine.Tracks.atMostOnce (tracks : M.Tracks log i request stage) (underway : ∀ exit, stage ≠ .exited exit) :
    AtMostOnce log i request.operation := by
  cases tracks with
  | reading _ _ absent | readingRest _ _ _ absent | acting _ _ absent | passed _ _ absent => exact .inl absent.quiet
  | rereading k within done => exact done.atMostOnce
  | rereadingRest row k done => exact done.atMostOnce
  | exited exit => exact absurd rfl (underway exit)

/-- An action underway may be dropped. -/
theorem Operators.Inv.drop {N : OperatorMachine} {s : Operators N} (inv : s.Inv) (i : ℕ) :
    Operators.Inv { s with underway := Function.update s.underway i none } where
  sound := inv.sound
  fair := inv.fair
  counts := inv.counts
  ready := by
    intro operator action passed
    by_cases here : operator = i
    · simp only [here, Function.update_self] at passed
      cases passed
    · simp only [Function.update_of_ne here] at passed
      exact inv.ready operator action passed

end Inv

/-! ## One request moves -/

section Moves

variable {M : OperationsMachine} {s : Operations M} {i : ℕ} {request request' : OperationRequest M.Row}

theorem operators_set (here : s.requests[i]? = some request) (store : M.Store) (log : List OperationMoment) :
    Operations.operators ⟨store, s.requests.set i request', log⟩ =
      ⟨store, Function.update s.operators.underway i request'.underway, log.map (·.toMoment)⟩ := by
  have inside := (List.getElem?_eq_some_iff.1 here).1
  have underway : (fun j => (s.requests.set i request')[j]?.bind OperationRequest.underway) =
      Function.update s.operators.underway i request'.underway := by
    funext j
    by_cases same : j = i
    · subst same
      rw [List.getElem?_set_self inside, Function.update_self]
      rfl
    · rw [List.getElem?_set_ne (Ne.symm same), Function.update_of_ne same]
      rfl
  rw [Operations.operators, underway]

/-- What holds of the other requests when one of them moves, and the log grows by its moments. -/
theorem Operations.Inv.set (inv : s.Inv) (here : s.requests[i]? = some request) (request' : OperationRequest M.Row)
    {store : M.Store} {more : List OperationMoment}
    (own : ∀ m ∈ more, m.request = some i) (came : request'.arrived = request.arrived)
    (operators : Operators.Inv ⟨store, Function.update s.operators.underway i request'.underway, (s.log ++ more).map (·.toMoment)⟩)
    (chained : Chained (s.log ++ more)) (now : M.view store = held (s.log ++ more) (s.log ++ more).length) (kept : M.Kept store)
    (tracks : M.Tracks (s.log ++ more) i request' request'.stage) :
    Operations.Inv (⟨store, s.requests.set i request', s.log ++ more⟩ : Operations M) := by
  have inside := (List.getElem?_eq_some_iff.1 here).1
  refine ⟨by rw [operators_set here]; exact operators, chained, now, kept, ?_, ?_, ?_⟩
  · intro m member j owner
    rw [List.length_set]
    obtain earlier | later := List.mem_append.1 member
    · exact inv.owners m earlier j owner
    · rw [own m later, Option.some.injEq] at owner
      exact owner ▸ inside
  · intro j other there
    rw [List.length_append]
    by_cases same : j = i
    · subst same
      rw [List.getElem?_set_self inside, Option.some.injEq] at there
      subst there
      rw [came]
      exact (inv.arrived j request here).trans (Nat.le_add_right _ _)
    · rw [List.getElem?_set_ne (Ne.symm same)] at there
      exact (inv.arrived j other there).trans (Nat.le_add_right _ _)
  · intro j other there
    by_cases same : j = i
    · subst same
      rw [List.getElem?_set_self inside, Option.some.injEq] at there
      subst there
      exact tracks
    · rw [List.getElem?_set_ne (Ne.symm same)] at there
      refine (inv.tracks j other there).append ?_
      intro m member owner
      rw [own m member, Option.some.injEq] at owner
      exact same owner.symm

/-- A request that moves on without a step that the log has. -/
theorem Operations.Inv.unlogged (inv : s.Inv) (here : s.requests[i]? = some request) {disturbed : Bool}
    {stage : OperationStage M.Row}
    (operators : Operators.Inv { s.operators with
      underway := Function.update s.operators.underway i (OperationRequest.underway { request with stage, disturbed }) })
    (tracks : M.Tracks s.log i { request with stage, disturbed } stage) :
    Operations.Inv { s with requests := s.requests.set i { request with stage, disturbed } } := by
  have moved : Operations.Inv ⟨s.store, s.requests.set i { request with stage, disturbed }, s.log ++ []⟩ :=
    inv.set here _ (fun _ member => by cases member) rfl (by rw [List.append_nil]; exact operators)
      (by rw [List.append_nil]; exact inv.chained) (by rw [List.append_nil]; exact inv.now) inv.kept
      (by rw [List.append_nil]; exact tracks)
  rwa [List.append_nil] at moved

theorem Operations.Inv.move (inv : s.Inv) (here : s.requests[i]? = some request) {disturbed : Bool}
    {stage : OperationStage M.Row} (idle : OperationRequest.underway { request with stage, disturbed } = none)
    (tracks : M.Tracks s.log i { request with stage, disturbed } stage) :
    Operations.Inv { s with requests := s.requests.set i { request with stage, disturbed } } :=
  inv.unlogged here (by rw [idle]; exact inv.operators.drop i) tracks

theorem applyStatement_unlogged {contact : Contact} {store : M.Store} {stage : OperationStage M.Row} :
    s.applyStatement i contact request ⟨store, stage, none⟩ = { s with
      store, requests := s.requests.set i { request with stage, disturbed := request.disturbed || contact ≠ .answered } } := by
  rw [Operations.applyStatement, Option.map_none, Option.toList_none, List.append_nil]

theorem applyStatement_logged {contact : Contact} {store : M.Store} {stage : OperationStage M.Row} {moment : Moment} :
    s.applyStatement i contact request ⟨store, stage, some moment⟩ =
      ⟨store, s.requests.set i { request with stage, disturbed := request.disturbed || contact ≠ .answered },
        s.log ++ [⟨moment, some i⟩]⟩ := rfl

end Moves

/-! ## Each statement -/

section Statements

variable {M : OperationsMachine} {s : Operations M} {i : ℕ} {request : OperationRequest M.Row} {contact : Contact}

theorem Contact.failure_cases (operation : RepositoryOperation) (contact : Contact) :
    (contact = .answered ∧ contact.failure operation = none) ∨
      contact ≠ .answered ∧ ∃ cause, contact.failure operation = some (.deliveryRepository operation cause) := by
  cases contact with
  | answered => exact .inl ⟨rfl, rfl⟩
  | unanswered cause | unreached cause => exact .inr ⟨nofun, cause, rfl⟩

/-- A request that lost a statement fails with its operation. -/
theorem tracks_lost {log : List OperationMoment} (operation : RepositoryOperation) (cause : Cause)
    (once : AtMostOnce log i request.operation) (disturbed : request.disturbed = true) :
    M.Tracks log i request (.exited (.failed (.deliveryRepository operation cause))) :=
  .exited _ (.lost operation cause disturbed once)

/-- A read of a request: it is lost, or what follows its value is tracked. -/
theorem Operations.Inv.read (inv : s.Inv) (here : s.requests[i]? = some request) {α : Type} {reply : Except Failure α} {value : α}
    {next : α → OperationStage M.Row} (once : AtMostOnce s.log i request.operation) (replied : reply = .ok value)
    (idle : ∀ disturbed, OperationRequest.underway { request with stage := next value, disturbed } = none)
    (tracks : ∀ disturbed, M.Tracks s.log i { request with stage := next value, disturbed } (next value)) :
    Operations.Inv (s.applyStatement i contact request ⟨s.store, M.read contact reply next, none⟩) := by
  rw [applyStatement_unlogged]
  subst replied
  unfold OperationsMachine.read
  obtain ⟨answered, failure⟩ | ⟨unanswered, cause, failure⟩ := contact.failure_cases .findStatus
  · rw [failure]
    exact inv.move here (idle _) (tracks _)
  · rw [failure]
    refine inv.move here rfl (tracks_lost _ cause once ?_)
    simp [unanswered]

/-- The delivery an action was carried out on is still there. -/
theorem Done.there {log : List OperationMoment} {action : Recovery} {arrived k : ℕ} (chained : Chained log)
    (done : Done log i (.act action) arrived k) : ∃ e, held log log.length action.id = some e := by
  obtain ⟨j, -, -, acted⟩ := done
  obtain ⟨m, moment, -, nowMillis, e, e', -, -, -, after⟩ := acted.ended
  have there : held log (j + 1) action.id = some e' := by
    rw [held, moment, Option.map_some, Option.getD_some, after, Function.update_self]
  obtain ⟨e'', now, -⟩ := chained.follows_held there acted.lt le_rfl
  exact ⟨e'', now⟩

section Reads

variable (lawful : M.Lawful) (inv : s.Inv) (here : s.requests[i]? = some request)
include lawful inv here

/-- The first statement of a status read. -/
theorem inv_readRow {absent : OperationStage M.Row} {present : M.Row → OperationStage M.Row}
    (once : AtMostOnce s.log i request.operation)
    (idle : ∀ disturbed, OperationRequest.underway { request with stage := absent, disturbed } = none)
    (idle' : ∀ row disturbed, OperationRequest.underway { request with stage := present row, disturbed } = none)
    (missing : held s.log s.log.length request.operation.id = none →
      ∀ disturbed, M.Tracks s.log i { request with stage := absent, disturbed } absent)
    (shown : ∀ row, M.ShownAt s.log s.log.length request.operation.id row →
      ∀ disturbed, M.Tracks s.log i { request with stage := present row, disturbed } (present row)) :
    Operations.Inv (s.applyStatement i contact request
      ⟨s.store, M.read contact (M.readRow s.store request.operation.id) (·.elim absent present), none⟩) := by
  have now := inv.now
  cases there : M.view s.store request.operation.id with
  | none =>
    refine inv.read here once (lawful.row_none inv.operators.sound there) idle ?_
    exact missing (by rw [← now]; exact there)
  | some e =>
    obtain ⟨row, replied, shows⟩ := lawful.row_some inv.operators.sound there
    refine inv.read here once replied (idle' row) ?_
    exact shown row ⟨le_rfl, e, by rw [← now]; exact there, shows⟩

/-- The statement that completes a row selected after `k` moments. -/
theorem inv_readRest {row : M.Row} {k : ℕ} {next : DeliveryStatus → OperationStage M.Row}
    (once : AtMostOnce s.log i request.operation) (shown : M.ShownAt s.log k request.operation.id row)
    (idle : ∀ status disturbed, OperationRequest.underway { request with stage := next status, disturbed } = none)
    (tracks : ∀ e, k ≤ s.log.length → held s.log k request.operation.id = some e →
      ∀ disturbed, M.Tracks s.log i { request with stage := next e.status, disturbed } (next e.status)) :
    Operations.Inv (s.applyStatement i contact request ⟨s.store, M.read contact (M.readRest s.store row) next, none⟩) := by
  obtain ⟨within, e, there, shows⟩ := shown
  obtain ⟨e', now, follows⟩ := inv.chained.follows_held there within le_rfl
  rw [← inv.now] at now
  have replied := lawful.rest inv.operators.sound inv.kept shows now follows
  exact inv.read here once replied (idle _) (tracks e within there)

end Reads

/-- The log grows by the only step of a request: it changed nothing. -/
theorem Absent.quiet_snoc {log : List OperationMoment} {m : OperationMoment} (absent : Absent log i) (same : m.after = m.before) :
    Quiet (log ++ [m]) i := by
  intro m' member own
  obtain earlier | last := List.mem_append.1 member
  · exact absurd own (absent m' earlier)
  · rw [List.mem_singleton.1 last]
    exact same

/-- It ended the dead letter. -/
theorem Absent.acted_snoc {log : List OperationMoment} {m : OperationMoment} {action : Recovery} (absent : Absent log i)
    (own : m.request = some i) (carried : action.Carried m.before m.after) : Acted (log ++ [m]) i action log.length where
  ended := ⟨m, List.getElem?_concat_length, own, carried⟩
  only := by
    intro j m' moment owner
    obtain early | same | late := lt_trichotomy j log.length
    · rw [List.getElem?_append_left early] at moment
      exact absurd owner (absent m' (List.mem_of_getElem? moment))
    · exact same
    · rw [List.getElem?_eq_none (by simp; omega)] at moment
      cases moment

section Actions

/-- The first statement of an action is lost, refuses, or lets it through. -/
theorem checkStatement_cases (nowMillis : ℕ) (contact : Contact) (store : M.Store) (action : Recovery) :
    (contact ≠ .answered ∧ ∃ cause, M.checkStatement nowMillis contact store action =
        ⟨store, .exited (.failed (.deliveryRepository action.operation cause)), none⟩) ∨
      (∃ failure, M.check store action = some failure ∧ M.checkStatement nowMillis contact store action =
        ⟨store, .exited (.failed failure),
          some ⟨M.view store, M.view store, some ⟨action, nowMillis, .error failure.tag⟩⟩⟩) ∨
      M.check store action = none ∧ M.checkStatement nowMillis contact store action = ⟨store, .passed, none⟩ := by
  unfold OperationsMachine.checkStatement
  obtain ⟨-, failure⟩ | ⟨unanswered, cause, failure⟩ := contact.failure_cases action.operation
  · rw [failure]
    cases M.check store action with
    | some refusal => exact .inr (.inl ⟨refusal, rfl, rfl⟩)
    | none => exact .inr (.inr ⟨rfl, rfl⟩)
  · rw [failure]
    exact .inl ⟨unanswered, cause, rfl⟩

/-- The update of an action does not reach the store, is executed and its answer lost, or is answered. -/
theorem updateStatement_cases (nowMillis : ℕ) (contact : Contact) (store : M.Store) (action : Recovery) :
    (contact ≠ .answered ∧ ∃ cause, M.updateStatement nowMillis contact store action =
        ⟨store, .exited (.failed (.deliveryRepository action.operation cause)), none⟩) ∨
      ∃ stage, M.updateStatement nowMillis contact store action =
          ⟨(M.update nowMillis store action).2, stage, some ⟨M.view store, M.view (M.update nowMillis store action).2,
            some ⟨action, nowMillis, (M.update nowMillis store action).1.answer⟩⟩⟩ ∧
        ((contact ≠ .answered ∧ ∃ cause, stage = .exited (.failed (.deliveryRepository action.operation cause))) ∨
          (∃ failure, (M.update nowMillis store action).1 = .error failure ∧ stage = .exited (.failed failure)) ∨
          (∃ value, (M.update nowMillis store action).1 = .ok value) ∧ stage = .rereading) := by
  cases contact with
  | unreached cause => exact .inl ⟨nofun, cause, rfl⟩
  | unanswered cause => exact .inr ⟨_, rfl, .inl ⟨nofun, cause, rfl⟩⟩
  | answered =>
    refine .inr ⟨_, rfl, .inr ?_⟩
    cases (M.update nowMillis store action).1 with
    | error failure => exact .inl ⟨failure, rfl, rfl⟩
    | ok value => exact .inr ⟨⟨value, rfl⟩, rfl⟩

/-- A request that fails without a step that the log has. -/
theorem Operations.Inv.lose (inv : s.Inv) (here : s.requests[i]? = some request) (once : AtMostOnce s.log i request.operation)
    (unanswered : contact ≠ .answered) (operation : RepositoryOperation) (cause : Cause) :
    Operations.Inv (s.applyStatement i contact request
      ⟨s.store, .exited (.failed (.deliveryRepository operation cause)), none⟩) := by
  rw [applyStatement_unlogged]
  refine inv.move here rfl (tracks_lost _ cause once ?_)
  simp [unanswered]

/-- The update of an action that is ready carries it out, or changes nothing and says why. -/
theorem update_cases (lawful : M.Lawful) {store : M.Store} {action : Recovery} (sound : M.Sound store)
    (ready : M.Ready (M.view store) action) (nowMillis : ℕ) :
    ((M.update nowMillis store action).1.answer = .ok .done ∧
        action.Carried (M.view store) (M.view (M.update nowMillis store action).2)) ∨
      ∃ tag, (M.update nowMillis store action).1.answer = .error tag ∧ action.Refuses (M.view store action.id) tag ∧
        M.view (M.update nowMillis store action).2 = M.view store := by
  obtain ⟨answer, left⟩ := lawful.operator.serves nowMillis sound ready
  obtain ⟨e, e', there, serve, ends⟩ | ⟨tag, serve, refused⟩ := action.serve_cases nowMillis (M.view store action.id)
  · refine .inl ⟨by rw [answer, serve], nowMillis, e, e', there, ?_, ends, by rw [left, serve]⟩
    rw [← there]
    exact serve
  · exact .inr ⟨tag, by rw [answer, serve], refused, by rw [left, serve, Function.update_eq_self]⟩

variable (lawful : M.Lawful) (inv : s.Inv) (here : s.requests[i]? = some request) {action : Recovery}
  (acts : request.operation = .act action) (absent : Absent s.log i)
include lawful inv here acts absent

theorem inv_check (nowMillis : ℕ) :
    Operations.Inv (s.applyStatement i contact request (M.checkStatement nowMillis contact s.store action)) := by
  have stays := lawful.operator.inv_check inv.operators i nowMillis action
  rw [show s.operators.store = s.store from rfl] at stays
  obtain ⟨unanswered, cause, run⟩ | ⟨failure, check, run⟩ | ⟨check, run⟩ := checkStatement_cases nowMillis contact s.store action
  · rw [run]
    exact inv.lose here (.inl absent.quiet) unanswered action.operation cause
  · rw [run, applyStatement_logged]
    rw [check] at stays
    have refuses := lawful.operator.refuses inv.operators.sound check
    refine inv.set here _ (fun m member => by rw [List.mem_singleton.1 member]) rfl ?_
      (inv.chained.snoc inv.now Moment.follows_same) (by rw [held_snoc]) inv.kept (.exited _ ?_)
    · rw [List.map_append]
      exact stays.drop i
    · refine .refused action failure s.log.length acts (absent.quiet_snoc rfl) (inv.arrived i request here) (by simp) ?_
      rw [held_append le_rfl, ← inv.now]
      exact refuses
  · rw [run, applyStatement_unlogged]
    rw [check] at stays
    have underway : OperationRequest.underway ({ request with
        stage := .passed, disturbed := request.disturbed || contact ≠ .answered } : OperationRequest M.Row) = some action := by
      rw [OperationRequest.underway, acts]
    exact inv.unlogged here (by rw [underway]; exact stays) (.passed action acts absent)

theorem inv_update (passed : request.stage = .passed) (nowMillis : ℕ) :
    Operations.Inv (s.applyStatement i contact request (M.updateStatement nowMillis contact s.store action)) := by
  have underway : s.operators.underway i = some action := by
    show s.requests[i]?.bind OperationRequest.underway = some action
    rw [here, Option.bind_some, OperationRequest.underway, passed, acts]
  have stays := lawful.operator.inv_update inv.operators underway nowMillis
  rw [show s.operators.store = s.store from rfl] at stays
  obtain ⟨unanswered, cause, run⟩ | ⟨stage, run, ways⟩ := updateStatement_cases nowMillis contact s.store action
  · rw [run]
    exact inv.lose here (.inl absent.quiet) unanswered action.operation cause
  · rw [run, applyStatement_logged]
    have idle : OperationRequest.underway { request with stage, disturbed := request.disturbed || contact ≠ .answered } = none := by
      obtain ⟨-, cause, rfl⟩ | ⟨failure, -, rfl⟩ | ⟨-, rfl⟩ := ways
      all_goals rfl
    have cases := update_cases lawful inv.operators.sound (inv.operators.ready i action underway) nowMillis
    rw [show s.operators.store = s.store from rfl] at cases
    have follows : Moment.Follows ⟨M.view s.store, M.view (M.update nowMillis s.store action).2,
        some ⟨action, nowMillis, (M.update nowMillis s.store action).1.answer⟩⟩ := by
      obtain ⟨-, carried⟩ | ⟨tag, -, -, same⟩ := cases
      · exact carried.follows
      · rw [same]
        exact Moment.follows_same
    refine inv.set here _ (fun m member => by rw [List.mem_singleton.1 member]) rfl ?_
      (inv.chained.snoc inv.now follows) (by rw [held_snoc]) (lawful.kept_update nowMillis action inv.kept) ?_
    · rw [List.map_append, idle]
      exact stays
    · obtain ⟨unanswered, cause, rfl⟩ | ⟨failure, replied, rfl⟩ | ⟨⟨value, replied⟩, rfl⟩ := ways
      · refine tracks_lost _ cause ?_ (by simp [unanswered])
        obtain ⟨-, carried⟩ | ⟨tag, -, -, same⟩ := cases
        · exact .inr ⟨action, _, acts, absent.acted_snoc rfl carried⟩
        · exact .inl (absent.quiet_snoc same)
      · obtain ⟨done, -⟩ | ⟨tag, failed, refused, same⟩ := cases
        · rw [replied] at done
          cases done
        · rw [replied] at failed
          cases failed
          refine .exited _ (.refused action failure s.log.length acts (absent.quiet_snoc same)
            (inv.arrived i request here) (by simp) ?_)
          rw [held_append le_rfl, ← inv.now]
          exact refused
      · obtain ⟨-, carried⟩ | ⟨tag, failed, -⟩ := cases
        · refine .rereading (s.log.length + 1) (by simp) ?_
          rw [show OperationRequest.operation { request with
            stage := .rereading, disturbed := request.disturbed || contact ≠ .answered } = .act action from acts]
          exact ⟨s.log.length, inv.arrived i request here, Nat.lt_succ_self _, absent.acted_snoc rfl carried⟩
        · rw [replied] at failed
          cases failed

end Actions

/-- **A statement keeps the invariant**, by the stage its request has reached. -/
theorem inv_statement (lawful : M.Lawful) (inv : s.Inv) (here : s.requests[i]? = some request) {nowMillis : ℕ}
    {effect : StatementEffect M} (run : M.statement nowMillis contact s.store request = some effect) :
    Operations.Inv (s.applyStatement i contact request effect) := by
  have tracks := inv.tracks i request here
  unfold OperationsMachine.statement at run
  generalize reached : request.stage = stage at tracks run
  cases tracks with
  | reading action acts absent =>
    cases run
    refine inv_readRow lawful inv here (.inl absent.quiet) (fun _ => rfl) (fun _ _ => rfl) ?_ ?_
    · intro _ disturbed
      exact .acting action acts absent
    · intro row shown disturbed
      exact .readingRest row action acts absent s.log.length shown
  | readingRest row action acts absent k shown =>
    cases run
    refine inv_readRest lawful inv here (.inl absent.quiet) shown (fun _ _ => rfl) ?_
    intro _ _ _ disturbed
    exact .acting action acts absent
  | acting action acts absent =>
    rw [acts] at run
    cases run
    exact inv_check lawful inv here acts absent nowMillis
  | passed action acts absent =>
    rw [acts] at run
    cases run
    exact inv_update lawful inv here acts absent reached nowMillis
  | rereading k within done =>
    cases run
    refine inv_readRow lawful inv here done.atMostOnce (fun _ => rfl) (fun _ _ => rfl) ?_ ?_
    · intro gone disturbed
      generalize operates : request.operation = operation at done gone
      cases operation with
      | inspect id =>
        exact .exited _ (.missing id s.log.length rfl done.1.quiet (inv.arrived i request here) le_rfl gone)
      | act action =>
        obtain ⟨e, there⟩ := done.there inv.chained
        rw [show held s.log s.log.length action.id = none from gone] at there
        cases there
    · intro row shown disturbed
      exact .rereadingRest row s.log.length (done.later within) shown
  | rereadingRest row k done shown =>
    cases run
    refine inv_readRest lawful inv here done.atMostOnce shown (fun _ _ => rfl) ?_
    intro e within there disturbed
    refine .exited _ ?_
    exact .status k (by exact done) within e there
  | exited exit => cases run

end Statements

/-! ## Whole runs -/

section Runs

variable {M : OperationsMachine} {s : Operations M}

theorem inv_call (lawful : M.Lawful) (inv : s.Inv) {event : M.Event} {s' : Operations M}
    (other : ∀ action : Recovery, M.call event.call ≠ action.call)
    (step : M.toStoreMachine.system.step s.store event s'.store) (requests : s'.requests = s.requests)
    (log : s'.log = s.log ++ [⟨⟨M.view s.store, M.view s'.store, none⟩, none⟩]) : s'.Inv := by
  obtain ⟨sound, served⟩ := lawful.operator.store.step inv.operators.sound step
  have strangers : ∀ i, Absent [(⟨⟨M.view s.store, M.view s'.store, none⟩, none⟩ : OperationMoment)] i := by
    intro i m member
    rw [List.mem_singleton.1 member]
    rintro ⟨⟩
  have follows : Moment.Follows ⟨M.view s.store, M.view s'.store, none⟩ := by
    intro id e there
    obtain ⟨e', after, advances⟩ := served.advances there
    exact ⟨e', after, advances.follows⟩
  have kept : M.Kept s'.store := by
    have stays := lawful.kept_exec event.nowMillis event.call inv.kept
    rwa [show M.exec event.nowMillis s.store event.call = (event.reply, s'.store) from step.2] at stays
  refine ⟨?_, ?_, ?_, kept, ?_, ?_, ?_⟩
  · refine lawful.operator.inv_call inv.operators other step ?_ ?_
    · funext i
      show s'.requests[i]?.bind _ = s.requests[i]?.bind _
      rw [requests]
    · show s'.log.map _ = s.log.map _ ++ _
      rw [log, List.map_append]
      rfl
  · rw [log]
    exact inv.chained.snoc inv.now follows
  · rw [log, held_snoc]
  · intro m member i owner
    rw [log] at member
    rw [requests]
    obtain earlier | last := List.mem_append.1 member
    · exact inv.owners m earlier i owner
    · exact absurd owner (strangers i m last)
  · intro i request here
    rw [requests] at here
    rw [log, List.length_append]
    exact (inv.arrived i request here).trans (Nat.le_add_right _ _)
  · intro i request here
    rw [requests] at here
    rw [log]
    exact (inv.tracks i request here).append (strangers i)

theorem inv_arrive (inv : s.Inv) (operation : Operation) : Operations.Inv
    { s with requests := s.requests ++ [⟨operation, operation.firstStage, false, s.log.length⟩] } := by
  have absent : Absent s.log s.requests.length := by
    intro m member owner
    exact absurd (inv.owners m member _ owner) (Nat.lt_irrefl _)
  have cases : ∀ i request, (s.requests ++ [⟨operation, operation.firstStage, false, s.log.length⟩])[i]? = some request →
      s.requests[i]? = some request ∨
        i = s.requests.length ∧ request = ⟨operation, operation.firstStage, false, s.log.length⟩ := by
    intro i request here
    obtain early | rfl | late := lt_trichotomy i s.requests.length
    · rw [List.getElem?_append_left early] at here
      exact .inl here
    · rw [List.getElem?_concat_length, Option.some.injEq] at here
      exact .inr ⟨rfl, here.symm⟩
    · rw [List.getElem?_eq_none (by simp; omega)] at here
      cases here
  refine ⟨⟨inv.operators.sound, ?_, inv.operators.fair, inv.operators.counts⟩, inv.chained, inv.now, inv.kept, ?_, ?_, ?_⟩
  · intro i action underway
    obtain ⟨request, here, acts⟩ := Option.bind_eq_some_iff.1 underway
    obtain old | ⟨rfl, rfl⟩ := cases i request here
    · refine inv.operators.ready i action ?_
      show s.requests[i]?.bind OperationRequest.underway = some action
      rw [old]
      exact acts
    · cases operation <;> cases acts
  · intro m member i owner
    rw [List.length_append]
    exact (inv.owners m member i owner).trans_le (Nat.le_add_right _ _)
  · intro i request here
    obtain old | ⟨rfl, rfl⟩ := cases i request here
    · exact inv.arrived i request old
    · exact le_rfl
  · intro i request here
    obtain old | ⟨rfl, rfl⟩ := cases i request here
    · exact inv.tracks i request old
    · cases operation with
      | inspect id => exact .rereading s.log.length le_rfl ⟨absent, le_rfl⟩
      | act action => exact .reading action rfl absent

theorem inv_interrupt (inv : s.Inv) {i : ℕ} {request : OperationRequest M.Row} (here : s.requests[i]? = some request) :
    (s.applyInterrupt i request).Inv := by
  have tracks := inv.tracks i request here
  unfold Operations.applyInterrupt
  split
  · exact inv
  · next underway =>
    have once := tracks.atMostOnce underway
    exact inv.move here rfl (.exited _ (.interrupted once))

theorem inv_step (lawful : M.Lawful) (inv : s.Inv) {l : OperationStep M} {s' : Operations M} (step : M.system.step s l s') :
    s'.Inv := by
  cases l with
  | call event =>
    obtain ⟨other, step, requests, log⟩ := step
    exact inv_call lawful inv other step requests log
  | arrive operation =>
    obtain rfl := step
    exact inv_arrive inv operation
  | statement i nowMillis contact =>
    obtain ⟨request, effect, here, run, rfl⟩ := step
    exact inv_statement lawful inv here run
  | interrupt i =>
    obtain ⟨request, here, rfl⟩ := step
    exact inv_interrupt inv here

theorem inv_init (lawful : M.Lawful) : M.system.init.Inv := by
  have counts : ∀ id, 0 = 0 + if Ledger.dead (M.view M.empty) id then 1 else 0 := by
    intro id
    rw [lawful.operator.store.view_empty]
    rfl
  have nobody : ∀ {i : ℕ} {request : OperationRequest M.Row}, ([] : List (OperationRequest M.Row))[i]? ≠ some request := by
    intro i request here
    rw [List.getElem?_nil] at here
    cases here
  refine ⟨⟨lawful.operator.store.sound_empty, ?_, (fun _ member => by cases member), counts⟩, ⟨?_, fun _ member => by cases member⟩,
    lawful.operator.store.view_empty, lawful.kept_empty, (fun _ member => by cases member), fun _ _ here => absurd here nobody,
    fun _ _ here => absurd here nobody⟩
  · intro i action underway
    cases underway
  · intro j m there
    rw [show M.system.init.log = [] from rfl, List.getElem?_nil] at there
    cases there

end Runs

/-! ## The adapters -/

theorem memoryOperations_lawful : memoryOperations.Lawful where
  operator := memoryOperators_lawful
  row_none := by
    intro (s : MemoryStore) id _ absent
    have gone : s.records.get id = none := Option.map_eq_none_iff.1 absent
    show Except.ok ((s.records.get id).map s.statusFor) = _
    rw [gone]
    rfl
  row_some := by
    intro (s : MemoryStore) id e sound there
    obtain ⟨delivery, record, rfl⟩ := Option.map_eq_some_iff.1 there
    refine ⟨s.statusFor delivery, ?_, ?_⟩
    · show Except.ok ((s.records.get id).map s.statusFor) = _
      rw [record]
      rfl
    · exact MemoryStore.statusFor_held sound record
  kept_empty := trivial
  kept_exec _ _ _ := trivial
  kept_update _ _ _ := trivial
  rest := by
    rintro s id _ e e' - - rfl - -
    rfl

theorem postgresOperations_lawful : postgresOperations.Lawful where
  operator := postgresOperators_lawful
  row_none := by
    rintro (db : Postgres.Database) id ⟨L, rep⟩ absent
    rw [show postgresOperations.view db = L from rep.view] at absent
    show db.findRowById .findStatus id = _
    rw [Postgres.Database.findRowById_eq rep, absent]
    rfl
  row_some := by
    rintro (db : Postgres.Database) id e ⟨L, rep⟩ there
    rw [show postgresOperations.view db = L from rep.view] at there
    refine ⟨e.delivery, ?_, rfl⟩
    show db.findRowById .findStatus id = _
    rw [Postgres.Database.findRowById_eq rep, there]
    rfl
  kept_empty := rfl
  kept_exec := by
    intro (db : Postgres.Database) nowMillis c none
    have same := postgres_attempts nowMillis db c
    show (postgres.exec nowMillis db c).2.deliveryAttempts.rows = []
    rw [same]
    exact none
  kept_update := by
    intro (db : Postgres.Database) nowMillis action none
    have same := Postgres.Database.resume_attempts db nowMillis action.call
    show (Postgres.Database.resume nowMillis db action.call).2.deliveryAttempts.rows = []
    rw [same]
    exact none
  rest := by
    rintro (db : Postgres.Database) id _ e e' ⟨L, rep⟩ none rfl there follows
    have empty' : e'.attempts = [] := view_unattempted none there
    have empty : e.attempts = [] := List.prefix_nil.1 (empty' ▸ follows.attempts)
    rw [show postgresOperations.view db = L from rep.view] at there
    have named : e.delivery.id = id := follows.identical.id.symm.trans (rep.valid id e' there).named
    rw [← named] at there
    have read := Postgres.Database.readAttempts_held rep .findStatus there
    show (db.readAttempts .findStatus e.delivery.id).map _ = _
    rw [read, Entry.status, Entry.status, empty, empty']
    rfl

theorem operations_lawful (adapter : Adapter) : adapter.operations.Lawful := by
  cases adapter with
  | memory => exact memoryOperations_lawful
  | postgres => exact postgresOperations_lawful

end Relay
