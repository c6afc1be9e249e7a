import Relay.Intake.Invariant
import Relay.Worker.Events

/-!
# What becomes of a submission (`src/eventIntake.ts`, `src/deliveryWorker.ts`)

A record is prepared with a fresh event that says what the submission says. The store
keeps under a key the first decision made, for whose delivery that event is stored. A
replay answers with that decision, whatever fresh event came with it, and the requests for
its delivery carry the event of the first.
-/

namespace Relay

/-- A store that knows its ingestion keys and its events. -/
structure SubmissionMachine extends IntakeMachine, EventMachine

structure SubmissionMachine.Lawful (M : SubmissionMachine) : Prop where
  intake : M.toIntakeMachine.Lawful
  events : M.toEventMachine.Lawful

def Adapter.submissions : Adapter → SubmissionMachine
  | .memory => { memoryIntake, memoryEvents with }
  | .postgres => { postgresIntake, postgresEvents with }

theorem submissions_lawful : ∀ adapter : Adapter, adapter.submissions.Lawful
  | .memory => ⟨memoryIntake_lawful, memoryEvents_lawful⟩
  | .postgres => ⟨postgresIntake_lawful, postgresEvents_lawful⟩

/-! ## Records of submissions -/

/-- The event says what was submitted. -/
structure RelayEvent.Bears (event : RelayEvent) (submission : EventSubmission) : Prop where
  type : event.type = submission.topic
  invoiceId : event.invoiceId = submission.invoiceId
  amountCents : event.amountCents = submission.amountCents

/-- `EventIntake.accept` makes the record of a candidate that decodes as the submission. -/
def IntakeRecord.Prepares (sha256 : Digest) (record : IntakeRecord) (submission : EventSubmission) : Prop :=
  ∃ configuration ingestionKey candidate drawn,
    prepare sha256 configuration ingestionKey candidate drawn = .ok (submission, record)

theorem IntakeRecord.Prepares.fingerprint {sha256 : Digest} {record : IntakeRecord} {submission : EventSubmission}
    (prepares : record.Prepares sha256 submission) : record.requestFingerprint = fingerprint sha256 submission := by
  obtain ⟨configuration, ingestionKey, candidate, drawn, made⟩ := prepares
  exact (prepare_eq_ok made).2.2

theorem IntakeRecord.Prepares.bears {sha256 : Digest} {record : IntakeRecord} {submission : EventSubmission}
    (prepares : record.Prepares sha256 submission) : record.event.Bears submission := by
  obtain ⟨configuration, ingestionKey, candidate, drawn, made⟩ := prepares
  unfold prepare at made
  split at made
  · cases made
  · cases made
  · cases made
  · cases made
  · cases made
    exact ⟨by cases submission.topic; rfl, rfl, rfl⟩

/-! ## What the store keeps under a key -/

section Keys

variable {M : SubmissionMachine} {sha256 : Digest} {submitted : EventSubmission → Prop} {store store' : M.Store} {l : M.Event}
  {print : RequestFingerprint} {fields : IntakeDecisionFields} {submission : EventSubmission}

/-- A decision on a submission with this fingerprint: the event of its delivery says what was submitted. -/
structure SubmissionMachine.Honors (M : SubmissionMachine) (sha256 : Digest) (store : M.Store) (print : RequestFingerprint)
    (fields : IntakeDecisionFields) (submission : EventSubmission) : Prop where
  print : print = fingerprint sha256 submission
  bears : fields.event.Bears submission
  carries : M.toEventMachine.Carries store fields.delivery.id fields.event

/-- The key is unknown, or a submission was accepted under it. -/
def SubmissionMachine.KeyHonored (M : SubmissionMachine) (sha256 : Digest) (submitted : EventSubmission → Prop)
    (store : M.Store) (key : IngestionKey) : Prop :=
  M.Unknown store key ∨ ∃ print fields submission, submitted submission ∧ M.Kept store key print fields ∧
    M.Honors sha256 store print fields submission

theorem SubmissionMachine.Lawful.honors (lawful : M.Lawful) (sound : M.Sound store) (step : M.system.step store l store')
    (keeps : M.toEventMachine.KeepsEvents store l) (honors : M.Honors sha256 store print fields submission)
    {fields' : IntakeDecisionFields} (reports : fields'.Reports fields) :
    M.Honors sha256 store' print fields' submission where
  print := honors.print
  bears := by
    rw [reports.event]
    exact honors.bears
  carries := by
    rw [reports.event, reports.delivery]
    exact lawful.events.carries sound step keeps honors.carries

theorem SubmissionMachine.KeyHonored.mono {submitted' : EventSubmission → Prop} {key : IngestionKey}
    (honored : M.KeyHonored sha256 submitted store key) (more : ∀ submission, submitted submission → submitted' submission) :
    M.KeyHonored sha256 submitted' store key := by
  obtain unknown | ⟨print, fields, submission, among, rest⟩ := honored
  · exact .inl unknown
  · exact .inr ⟨print, fields, submission, more submission among, rest⟩

/-- A call that accepts nothing under the key. -/
theorem SubmissionMachine.KeyHonored.other (lawful : M.Lawful) (sound : M.Sound store) (step : M.system.step store l store')
    (keeps : M.toEventMachine.KeepsEvents store l) (unsaved : M.Unsaved l.call) {key : IngestionKey}
    (away : (M.call l.call).ingestionKey ≠ some key) (honored : M.KeyHonored sha256 submitted store key) :
    M.KeyHonored sha256 submitted store' key := by
  have run := step.2
  obtain unknown | ⟨print, fields, submission, among, kept, honors⟩ := honored
  · left
    have ignored := lawful.intake.ignores l.nowMillis l.call sound away unknown
    rw [run] at ignored
    exact ignored
  · right
    have kept' := lawful.intake.keeps l.nowMillis l.call sound unsaved kept
    rw [run] at kept'
    have same : fields.Reports fields := ⟨rfl, rfl, rfl⟩
    have reports := lawful.intake.after_reports same ⟨l.nowMillis, l.call, l.reply⟩
    exact ⟨print, _, submission, among, kept', lawful.honors sound step keeps honors reports⟩

/-- **An acceptance, a replay or a conflict** leaves its key honored; a decision is on a submission that was made. -/
theorem SubmissionMachine.KeyHonored.accept (lawful : M.Lawful) (sound : M.Sound store) (step : M.system.step store l store')
    (keeps : M.toEventMachine.KeepsEvents store l) {record : IntakeRecord} (accepts : M.call l.call = .accept record)
    (prepares : record.Prepares sha256 submission) (among : submitted submission)
    (honored : M.KeyHonored sha256 submitted store record.ingestionKey) :
    M.KeyHonored sha256 submitted store' record.ingestionKey ∧ ∀ decision, l.reply = .ok (.decided decision) →
      ∃ submission', submitted submission' ∧
        M.Honors sha256 store' record.requestFingerprint decision.fields submission' := by
  have run := step.2
  obtain unknown | ⟨print, fields, submission', among', kept, honors⟩ := honored
  · obtain ⟨failure, fails, -⟩ | ⟨claim, s', accepted, kept⟩ :=
      lawful.intake.accepts l.nowMillis sound accepts unknown
    · rw [fails, Prod.mk.injEq] at run
      obtain ⟨reply, rfl⟩ := run
      refine ⟨.inl unknown, ?_⟩
      intro decision decided
      rw [decided] at reply
      cases reply
    · rw [accepted, Prod.mk.injEq] at run
      obtain ⟨reply, rfl⟩ := run
      have handed : enqueued record.decision claim ∈ handedOut l.reply := by
        rw [← reply]
        exact List.mem_singleton_self _
      have honors : M.Honors sha256 s' record.requestFingerprint record.decision submission :=
        ⟨prepares.fingerprint, prepares.bears, lawful.events.handed_carries sound step keeps handed⟩
      refine ⟨.inr ⟨_, _, submission, among, kept, honors⟩, ?_⟩
      intro decision decided
      rw [decided] at reply
      cases reply
      exact ⟨submission, among, honors⟩
  · have replays := lawful.intake.replays l.nowMillis sound accepts kept
    rw [replays, Prod.mk.injEq] at run
    obtain ⟨reply, rfl⟩ := run
    refine ⟨.inr ⟨print, fields, submission', among', kept, honors⟩, ?_⟩
    intro decision decided
    rw [decided] at reply
    split at reply
    · next same =>
      cases reply
      exact ⟨submission', among', by rw [← same]; exact honors⟩
    · cases reply

end Keys

/-! ## Runs -/

section Run

variable {M : SubmissionMachine} {processes : ℕ → WorkerProcess} {sha256 : Digest} {s s' : RoutedState M.toStoreMachine}

/-- The calls inside a job present its claim. -/
theorem WorkerStep.fenced {M : StoreMachine} {s s' : WorkerState M} {l : WorkerLabel M} {event : M.Event}
    (step : WorkerStep M processes s l s') (inside : ∀ event, l ≠ .environment event) (called : l.event = some event) :
    (M.call event.call).fence ≠ none := by
  have asked {s s' : M.Store} {call : StoreCall} {event' : Option M.Event} {seen : Reply} (asks : M.Asks s call event' seen s')
      (fenced : call.fence ≠ none) (same : event' = some event) : (M.call event.call).fence ≠ none := by
    cases asks with
    | answered asked | unanswered asked =>
      cases same
      rw [asked]
      exact fenced
    | unreached => cases same
  cases step with
  | environment => exact absurd rfl (inside _)
  | drop here queued asks => exact asked asks (by simp [StoreCall.fence]) called
  | renew here running renewing asks => exact asked asks (by simp [StoreCall.fence]) called
  | record now fraction here running observed made asks => exact asked asks (by simp [StoreCall.fence]) called
  | release here failing asks => exact asked asks (by simp [StoreCall.fence]) called
  | start | send | observe | unrecordable | publish | lose | complete | interrupt | crash | subscribers => cases called

/-- A step calls `accept` with the record of the submission. -/
def RoutedLabel.Submits {M : StoreMachine} (sha256 : Digest) (l : RoutedLabel M) (submission : EventSubmission) : Prop :=
  ∃ event record, l.event = some event ∧ M.call event.call = .accept record ∧ record.Prepares sha256 submission

/-- The records accepted are those `EventIntake.accept` makes. -/
def RoutedLabel.Prepared {M : StoreMachine} (sha256 : Digest) (l : RoutedLabel M) : Prop :=
  ∀ event record, l.event = some event → M.call event.call = .accept record → ∃ submission, record.Prepares sha256 submission

/-- Intake alone accepts records, and no event id is used for two events. -/
def Submitting (M : SubmissionMachine) (sha256 : Digest) (s : RoutedState M.toStoreMachine)
    (l : RoutedLabel M.toStoreMachine) : Prop :=
  KeepsEvents M.toEventMachine s l ∧ l.Prepared sha256

def Submitted {M : StoreMachine} (sha256 : Digest) (tr : List (RoutedLabel M)) (submission : EventSubmission) : Prop :=
  ∃ l ∈ tr, l.Submits sha256 submission

/-- A step answers `accept` of this record with the decision. -/
structure RoutedLabel.Answers {M : StoreMachine} (l : RoutedLabel M) (event : M.Event) (record : IntakeRecord)
    (decision : IntakeDecision) : Prop where
  called : l.event = some event
  accepts : M.call event.call = .accept record
  answered : event.reply = .ok (.decided decision)

structure RoutedState.Honoring (sha256 : Digest) (tr : List (RoutedLabel M.toStoreMachine))
    (s : RoutedState M.toStoreMachine) : Prop where
  keys : ∀ key, M.KeyHonored sha256 (Submitted sha256 tr) s.worker.store key
  answers : ∀ l ∈ tr, ∀ event record decision, l.Answers event record decision → ∃ submission, Submitted sha256 tr submission ∧
    M.Honors sha256 s.worker.store record.requestFingerprint decision.fields submission

theorem Submitted.mono {M : StoreMachine} {tr : List (RoutedLabel M)} {submission : EventSubmission}
    (submitted : Submitted sha256 tr submission) (more : List (RoutedLabel M)) : Submitted sha256 (tr ++ more) submission := by
  obtain ⟨l, member, submits⟩ := submitted
  exact ⟨l, List.mem_append_left _ member, submits⟩

/-- A step without a call keeps what was answered. -/
theorem RoutedState.Honoring.quiet {tr : List (RoutedLabel M.toStoreMachine)} {l : RoutedLabel M.toStoreMachine}
    (honoring : s.Honoring sha256 tr) (silent : l.event = none) (same : s'.worker.store = s.worker.store) :
    s'.Honoring sha256 (tr ++ [l]) where
  keys key := by
    rw [same]
    exact (honoring.keys key).mono fun _ submitted => submitted.mono _
  answers := by
    intro l' member event record decision answers
    obtain earlier | now := List.mem_append.1 member
    · obtain ⟨submission, submitted, honors⟩ := honoring.answers l' earlier event record decision answers
      rw [same]
      exact ⟨submission, submitted.mono _, honors⟩
    · rw [List.mem_singleton] at now
      subst now
      have called := answers.called
      rw [silent] at called
      cases called

/-- A step with a call, of any kind. -/
theorem RoutedState.Honoring.call (lawful : M.Lawful) {tr : List (RoutedLabel M.toStoreMachine)}
    {l : RoutedLabel M.toStoreMachine} {event : M.Event} (honoring : s.Honoring sha256 tr) (sound : M.Sound s.worker.store)
    (called : l.event = some event) (step : M.system.step s.worker.store event s'.worker.store)
    (keeps : M.toEventMachine.KeepsEvents s.worker.store event) (unsaved : M.Unsaved event.call)
    (prepared : l.Prepared sha256) : s'.Honoring sha256 (tr ++ [l]) := by
  have keys key : M.KeyHonored sha256 (Submitted sha256 (tr ++ [l])) s.worker.store key :=
    (honoring.keys key).mono fun _ submitted => submitted.mono _
  have among {record : IntakeRecord} {submission : EventSubmission} (accepts : M.call event.call = .accept record)
      (prepares : record.Prepares sha256 submission) : Submitted sha256 (tr ++ [l]) submission :=
    ⟨l, List.mem_append_right _ (List.mem_singleton_self l), event, record, called, accepts, prepares⟩
  have same {fields : IntakeDecisionFields} : fields.Reports fields := ⟨rfl, rfl, rfl⟩
  refine ⟨?_, ?_⟩
  · intro key
    by_cases own : (M.call event.call).ingestionKey = some key
    · obtain ⟨record, accepts, rfl⟩ : ∃ record, M.call event.call = .accept record ∧ record.ingestionKey = key := by
        cases call : M.call event.call with
        | accept record =>
          rw [call] at own
          exact ⟨record, rfl, Option.some.inj own⟩
        | _ =>
          rw [call] at own
          cases own
      obtain ⟨submission, prepares⟩ := prepared event record called accepts
      exact ((keys record.ingestionKey).accept lawful sound step keeps accepts prepares (among accepts prepares)).1
    · exact (keys key).other lawful sound step keeps unsaved own
  · intro l' member event' record decision answers
    obtain earlier | now := List.mem_append.1 member
    · obtain ⟨submission, submitted, honors⟩ := honoring.answers l' earlier event' record decision answers
      exact ⟨submission, submitted.mono _, lawful.honors sound step keeps honors same⟩
    · rw [List.mem_singleton] at now
      subst now
      obtain ⟨called', accepts, answered⟩ := answers
      rw [called, Option.some.injEq] at called'
      subst called'
      obtain ⟨submission, prepares⟩ := prepared event record called accepts
      exact ((keys record.ingestionKey).accept lawful sound step keeps accepts prepares (among accepts prepares)).2 decision
        answered

theorem RoutedState.Honoring.step (lawful : M.Lawful) {tr : List (RoutedLabel M.toStoreMachine)}
    {l : RoutedLabel M.toStoreMachine} (inv : s.Inv) (honoring : s.Honoring sha256 tr) (submitting : Submitting M sha256 s l)
    (step : RoutedStep M.toStoreMachine processes s l s') : s'.Honoring sha256 (tr ++ [l]) := by
  obtain ⟨keeps, prepared⟩ := submitting
  have sound := inv.worker.sound
  cases step with
  | call process fallback asks step =>
    exact honoring.call lawful sound rfl step (keeps _ rfl) (fun delivery => asks.unsaved delivery) prepared
  | configure => exact honoring.quiet rfl rfl
  | work inside step =>
    obtain ⟨silent, same⟩ | ⟨event, called, asked⟩ := step.store
    · exact honoring.quiet silent same
    · refine honoring.call lawful sound called asked (keeps event called) ?_ prepared
      intro delivery saves
      refine step.fenced inside called ?_
      rw [saves]
      rfl

/-- **Every decision is honored**, in every run in which intake alone accepts records. -/
theorem RoutedState.Honoring.run (lawful : M.Lawful) {configured : ℕ → Destination} {tr : List (RoutedLabel M.toStoreMachine)}
    (run : ((routedSystem M.toStoreMachine processes configured).restrict (Submitting M sha256)).Run tr s) :
    s.Honoring sha256 tr := by
  have both := run.invariant
    (fun tr s => (routedSystem M.toStoreMachine processes configured).Reachable s ∧ s.Honoring sha256 tr) ⟨.init, ?_⟩ ?_
  · exact both.2
  · refine ⟨fun key => .inl (lawful.intake.unknown_empty key), ?_⟩
    intro l member
    cases member
  · rintro tr s l s' ⟨before, honoring⟩ ⟨step, submitting⟩
    have inv := RoutedState.Inv.reachable lawful.intake.store before
    exact ⟨before.step step, honoring.step lawful inv submitting step⟩

end Run

end Relay
