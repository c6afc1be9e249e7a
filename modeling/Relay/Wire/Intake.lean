import Relay.Intake.Idempotency
import Relay.Operations.Http
import Relay.Wire.Api
import Relay.Wire.Schemas

/-!
# Events over HTTP (`src/httpServer.ts`)

A post of an event is refused without the bearer token of intake, with another media type
than JSON, when its key or its body cannot be read, and while the application is not ready.
Otherwise it becomes a call of `EventIntake.accept`, and the outcome of the call its reply.
The replies are read back: what each says of the post, of its call and of the others under
its key.
-/

namespace Relay

open Json

/-! ## The schemas -/

def ingestionKey? (text : String) : Option IngestionKey :=
  if wf : isIngestionKey text = true then some ⟨text, wf⟩ else none

def EventSubmission.codec : Codec EventSubmission :=
  (((Fields.one "topic" Relay.topic).and (Fields.one "payload"
    (((Fields.one "invoiceId" (slug "inv-")).and (Fields.one "amountCents" positive)).codec (by decide +kernel)))).refine
    (fun (topic, invoiceId, amountCents) => some ⟨topic, invoiceId, amountCents⟩)
    (fun s => (s.topic, s.invoiceId, s.amountCents))
    (fun _ _ => rfl)
    (fun _ _ made => by cases made; rfl)).codec (by decide +kernel)

def EventAcceptance.codec : Codec EventAcceptance :=
  (((Fields.one "eventId" (slug "evt-")).and ((Fields.one "deliveryId" (slug "dlv-")).and
    ((Fields.one "acceptedAtMillis" nonnegative).and (Fields.one "replayed" Codec.boolean)))).refine
    (fun (eventId, deliveryId, acceptedAtMillis, replayed) => some ⟨eventId, deliveryId, acceptedAtMillis, replayed⟩)
    (fun a => (a.eventId, a.deliveryId, a.acceptedAtMillis, a.replayed))
    (fun _ _ => rfl)
    (fun _ _ made => by cases made; rfl)).codec (by decide +kernel)

theorem EventAcceptance.fits {a : EventAcceptance} (small : a.acceptedAtMillis ≤ maxSafeInteger) :
    EventAcceptance.codec.Fits a :=
  ⟨trivial, trivial, nonnegative_fits small, trivial⟩

theorem EventSubmission.fits {s : EventSubmission} (small : (s.amountCents : ℕ) ≤ maxSafeInteger) :
    EventSubmission.codec.Fits s :=
  ⟨trivial, trivial, positive_fits small⟩

/-! ## Posts -/

/-- What the server takes from a request. -/
structure EventPost where
  /-- The bearer credential; empty if there was none. -/
  credential : String
  contentType : Option String
  /-- The header `idempotency-key`. -/
  ingestionKey : Option String
  body : String
deriving DecidableEq

/-- `FileSystem.KiB(16)`. -/
def maxEventBodySize : ℕ := 16 * 1024

def isJson (contentType : Option String) : Bool :=
  contentType.any fun text => (trim (String.ofList (text.toList.takeWhile (· ≠ ';')))).toLower = "application/json"

/-- The headers and the payload, decoded. -/
def EventPost.read (post : EventPost) : Option (IngestionKey × EventSubmission) :=
  (post.ingestionKey.bind ingestionKey?).bind fun key =>
    if post.body.utf8ByteSize ≤ maxEventBodySize then
      (EventSubmission.codec.decodeText post.body).map fun submission => (key, submission)
    else none

/-- What the client of the API posts. -/
def eventPost (token : String) (key : IngestionKey) (submission : EventSubmission) : EventPost where
  credential := token
  contentType := some "application/json"
  ingestionKey := some key.text
  body := EventSubmission.codec.encodeText submission

theorem read_eventPost (token : String) (key : IngestionKey) {submission : EventSubmission}
    (small : (submission.amountCents : ℕ) ≤ maxSafeInteger)
    (short : (EventSubmission.codec.encodeText submission).utf8ByteSize ≤ maxEventBodySize) :
    (eventPost token key submission).read = some (key, submission) := by
  have named : (some key.text).bind ingestionKey? = some key := dif_pos key.wf
  have body := EventSubmission.codec.decodeText_encodeText (EventSubmission.fits small)
  rw [EventPost.read, eventPost, named, Option.bind_some, if_pos short, body, Option.map_some]

/-! ## Problems -/

inductive EventProblem where
  | unauthorized
  | unsupportedMediaType
  | invalidEvent
  | relayNotReady
  | ingestionConflict
  | deliveryInternal
deriving DecidableEq

namespace EventProblem

def error : EventProblem → String
  | .unauthorized => "unauthorized"
  | .unsupportedMediaType => "unsupported_media_type"
  | .invalidEvent => "invalid_event"
  | .relayNotReady => "not_ready"
  | .ingestionConflict => "idempotency_conflict"
  | .deliveryInternal => "internal_error"

def httpApiStatus : EventProblem → ℕ
  | .unauthorized => 401
  | .unsupportedMediaType => 415
  | .invalidEvent => 400
  | .relayNotReady => 503
  | .ingestionConflict => 409
  | .deliveryInternal => 500

theorem error_injective : Function.Injective error := by
  intro p q same
  revert same
  cases p <;> cases q <;> decide

theorem httpApiStatus_ne (p : EventProblem) : p.httpApiStatus ≠ 202 := by
  cases p <;> decide

end EventProblem

instance : HttpApiProblem EventProblem where
  error := EventProblem.error
  httpApiStatus := EventProblem.httpApiStatus
  error_injective := EventProblem.error_injective

/-- With what its middleware declares. -/
def SubmitEvent : HttpApiEndpoint EventAcceptance EventProblem where
  success := EventAcceptance.codec
  status := 202
  error := [.ingestionConflict, .relayNotReady, .deliveryInternal, .invalidEvent, .unsupportedMediaType, .unauthorized]
  apart := fun problem _ => problem.httpApiStatus_ne

theorem SubmitEvent.declares_problem (problem : EventProblem) : problem ∈ SubmitEvent.error := by
  cases problem <;> decide

abbrev EventReply : Type := Except EventProblem EventAcceptance

/-! ## The handler -/

/-- `DeliveryAuthorization`, `RequestContract`, and the handler up to `intake.accept`. -/
def receiveEvent (token : String) (ready : Bool) (post : EventPost) : Except EventProblem (IngestionKey × EventSubmission) :=
  if !sameSecret post.credential token then .error .unauthorized
  else if !isJson post.contentType then .error .unsupportedMediaType
  else
    match post.read with
    | none => .error .invalidEvent
    | some asked => if ready then .ok asked else .error .relayNotReady

/-- **What the client posts is what is asked** of the handler. -/
theorem receiveEvent_eventPost (token : String) (key : IngestionKey) {submission : EventSubmission}
    (small : (submission.amountCents : ℕ) ≤ maxSafeInteger)
    (short : (EventSubmission.codec.encodeText submission).utf8ByteSize ≤ maxEventBodySize) :
    receiveEvent token true (eventPost token key submission) = .ok (key, submission) := by
  have authorized : sameSecret (eventPost token key submission).credential token = true := sameSecret_iff.2 rfl
  have json : isJson (eventPost token key submission).contentType = true := by
    show isJson (some "application/json") = true
    decide +kernel
  simp only [receiveEvent, authorized, json, read_eventPost token key small short, Bool.not_true, Bool.false_eq_true, if_false,
    if_true]

/-- What the handler catches. -/
def catchTags : IntakeFailure → Option EventProblem
  | .invalidEvent => some .invalidEvent
  | .eventIdentity _ | .store (.claimLost ..) | .store (.deliveryRepository ..) | .store (.relayIntakeStore ..) =>
    some .deliveryInternal
  | .store (.ingestionConflict ..) => some .ingestionConflict
  | .store (.deadLetterRecovery ..) | .store (.deadLetterDestinationMismatch ..) | .store .defect => none

/-- The reply to the outcome of a call; one that is interrupted, or dies, gets none of these. -/
def replyTo : IntakeOutcome → Option EventReply
  | .returned acceptance => some (.ok acceptance)
  | .failed failure => (catchTags failure).map .error
  | .interrupted => none

/-! ## Exchanges -/

structure EventExchange where
  post : EventPost
  /-- When it came. -/
  ready : Bool
  /-- The call it became. -/
  became : Except EventProblem ℕ

structure HttpIntake (M : IntakeMachine) where
  ready : Bool
  intake : IntakeState M
  exchanges : List EventExchange

def HttpIntake.reply {M : IntakeMachine} (s : HttpIntake M) (exchange : EventExchange) : Option EventReply :=
  match exchange.became with
  | .error problem => some (.error problem)
  | .ok n => ((s.intake.calls n).bind (·.outcome)).bind replyTo

inductive HttpIntakeLabel where
  | mark (ready : Bool)
  | receive (post : EventPost)
  | proceed (l : IntakeLabel)

/-- Releasing a claim fails with these. -/
def Failure.ofRelease : Failure → Bool
  | .claimLost .. | .deliveryRepository .. => true
  | _ => false

/-- A call fails after its claim was handed over with what releasing the claim failed with. -/
def IntakeState.Releases {M : IntakeMachine} (s' : IntakeState M) (l : IntakeLabel) : Prop :=
  ∀ n call failure, l = .respond n → s'.calls n = some call → call.outcome = some (.failed (.store failure)) →
    failure.ofRelease = true

section Steps

variable (M : IntakeMachine) (sha256 : Digest) (token : String)

inductive HttpIntakeStep : HttpIntake M → HttpIntakeLabel → HttpIntake M → Prop where
  | mark {s : HttpIntake M} (ready : Bool) : HttpIntakeStep s (.mark ready) { s with ready }
  | refuse {s : HttpIntake M} {post : EventPost} {problem : EventProblem}
      (refused : receiveEvent token s.ready post = .error problem) :
      HttpIntakeStep s (.receive post) { s with exchanges := s.exchanges ++ [⟨post, s.ready, .error problem⟩] }
  | accept {s : HttpIntake M} {post : EventPost} {key : IngestionKey} {submission : EventSubmission} {n : ℕ}
      (admitted : receiveEvent token s.ready post = .ok (key, submission)) (new : s.intake.calls n = none) :
      HttpIntakeStep s (.receive post)
        { s with
          intake := s.intake.set n ⟨key, encodeSubmission submission, .called, none⟩
          exchanges := s.exchanges ++ [⟨post, s.ready, .ok n⟩] }
  /-- A step of a call, or of anything else that uses the store. -/
  | proceed {s : HttpIntake M} {l : IntakeLabel} {intake : IntakeState M} (step : IntakeStep M sha256 s.intake l intake)
      (releases : intake.Releases l) : HttpIntakeStep s (.proceed l) { s with intake }

/-- Any number of exchanges among any other calls. -/
def httpIntake : TransitionSystem (HttpIntake M) HttpIntakeLabel where
  init := ⟨false, (intakeSystem M sha256).init, []⟩
  step := HttpIntakeStep M sha256 token

end Steps

/-! ## Calls and their decisions -/

section Calls

variable {M : IntakeMachine} {sha256 : Digest} {s s' : IntakeState M} {l : IntakeLabel} {n : ℕ} {call : AcceptCall}
  {submission : EventSubmission} {record : IntakeRecord} {claim : DeliveryClaim}

/-- `call'` is what a call has become: its outcome and its decision stay. -/
structure AcceptCall.Becomes (call call' : AcceptCall) : Prop where
  ingestionKey : call'.ingestionKey = call.ingestionKey
  candidate : call'.candidate = call.candidate
  outcome : call.outcome ≠ none → call' = call
  decided : ∀ submission record decision handed, call.stage = .decided submission record decision handed →
    ∃ handed', call'.stage = .decided submission record decision handed'

theorem AcceptCall.Becomes.refl (call : AcceptCall) : call.Becomes call :=
  ⟨rfl, rfl, fun _ => rfl, fun _ _ _ handed stage => ⟨handed, stage⟩⟩

/-- A call that was running is set. -/
theorem IntakeState.Running.becomes (running : s.Running n call) (call' : AcceptCall)
    (ingestionKey : call'.ingestionKey = call.ingestionKey) (candidate : call'.candidate = call.candidate)
    (decided : ∀ submission record decision handed, call.stage = .decided submission record decision handed →
      ∃ handed', call'.stage = .decided submission record decision handed')
    {m : ℕ} {before : AcceptCall} (here : s.calls m = some before) :
    ∃ after, (s.set n call').calls m = some after ∧ before.Becomes after := by
  rw [set_calls]
  rcases eq_or_ne m n with rfl | other
  · rw [running.here, Option.some.injEq] at here
    subst here
    refine ⟨call', Function.update_self .., ingestionKey, candidate, ?_, decided⟩
    intro finished
    exact absurd running.unfinished finished
  · rw [Function.update_of_ne other]
    exact ⟨before, here, .refl before⟩

theorem IntakeState.Running.becomes_finish (running : s.Running n call) (outcome : IntakeOutcome) {m : ℕ} {before : AcceptCall}
    (here : s.calls m = some before) :
    ∃ after, (s.set n (call.finish outcome)).calls m = some after ∧ before.Becomes after :=
  running.becomes (call.finish outcome) rfl rfl (fun _ _ _ handed decided => ⟨handed, decided⟩) here

theorem AcceptCall.settle_candidate (reply : Reply) : (call.settle submission record reply).candidate = call.candidate := by
  unfold AcceptCall.settle
  split <;> rfl

/-- **A step keeps every call**, with its outcome and its decision. -/
theorem IntakeStep.becomes (step : IntakeStep M sha256 s l s') {m : ℕ} {before : AcceptCall} (here : s.calls m = some before) :
    ∃ after, s'.calls m = some after ∧ before.Becomes after := by
  cases step with
  | @call n ingestionKey candidate new =>
    have other : m ≠ n := by
      rintro rfl
      rw [new] at here
      cases here
    refine ⟨before, ?_, .refl before⟩
    rw [IntakeState.set_calls, Function.update_of_ne other]
    exact here
  | @prepare n call configuration drawn running stage =>
    refine running.becomes _ (call.prepare_key configuration drawn) ?_ ?_ here
    · obtain ⟨failure, same⟩ | ⟨submission, record, same, -⟩ := call.prepare_cases sha256 configuration drawn
      · rw [same]
        rfl
      · rw [same]
    · intro submission record decision handed decided
      rw [stage] at decided
      cases decided
  | @transact n call submission record nowMillis c running stage accept =>
    refine running.becomes _ (AcceptCall.settle_key _) (AcceptCall.settle_candidate _) ?_ here
    intro submission record decision handed decided
    rw [stage] at decided
    cases decided
  | abort cause running stage => exact running.becomes_finish _ here
  | @enqueue n call submission record fields claim running stage =>
    refine running.becomes { call with stage := .decided submission record (.accepted fields claim) true } rfl rfl ?_ here
    intro submission record decision handed decided
    rw [stage] at decided
    cases decided
    exact ⟨true, rfl⟩
  | unreleased failure running stage => exact running.becomes_finish _ here
  | respond running stage => exact running.becomes_finish _ here
  | interrupt running => exact running.becomes_finish _ here
  | other => exact ⟨before, here, .refl before⟩

theorem IntakeState.Accepted.step (accepted : s.Accepted n call submission record claim) (step : IntakeStep M sha256 s l s') :
    ∃ call', s'.Accepted n call' submission record claim ∧ call'.ingestionKey = call.ingestionKey := by
  obtain ⟨handed, stage⟩ := accepted.decided
  obtain ⟨call', here, becomes⟩ := step.becomes accepted.here
  exact ⟨call', ⟨here, becomes.decided _ _ _ handed stage⟩, becomes.ingestionKey⟩

/-- Another submission than this call's was accepted under its key. -/
def IntakeState.Taken (s : IntakeState M) (call : AcceptCall) : Prop :=
  ∃ m call₀ submission₀ record claim, s.Accepted m call₀ submission₀ record claim ∧
    call₀.ingestionKey = call.ingestionKey ∧ decodeSubmission call.candidate ≠ some submission₀

/-- What the failure of a call says of it. -/
def IntakeState.Blames (s : IntakeState M) (call : AcceptCall) : IntakeFailure → Prop
  | .invalidEvent => decodeSubmission call.candidate = none
  | .store (.ingestionConflict ..) => s.Taken call
  | .eventIdentity _ | .store _ => True

theorem IntakeState.Taken.step (taken : s.Taken call) (step : IntakeStep M sha256 s l s') {call' : AcceptCall}
    (becomes : call.Becomes call') : s'.Taken call' := by
  obtain ⟨m, call₀, submission₀, record, claim, accepted, under, other⟩ := taken
  obtain ⟨call₁, accepted', same⟩ := accepted.step step
  refine ⟨m, call₁, submission₀, record, claim, accepted', ?_, ?_⟩
  · rw [same, under, becomes.ingestionKey]
  · rw [becomes.candidate]
    exact other

theorem IntakeState.Blames.step {failure : IntakeFailure} (blames : s.Blames call failure) (step : IntakeStep M sha256 s l s')
    {call' : AcceptCall} (becomes : call.Becomes call') : s'.Blames call' failure := by
  unfold IntakeState.Blames at blames ⊢
  split
  · rw [becomes.candidate]
    exact blames
  · exact blames.step step becomes
  · trivial
  · trivial

theorem IntakeState.blames_prepare {configuration : IntakeConfiguration} {drawn : Drawn} {failure : IntakeFailure}
    (fails : prepare sha256 configuration call.ingestionKey call.candidate drawn = .error failure) : s.Blames call failure := by
  unfold prepare at fails
  split at fails
  · next undecoded =>
    cases fails
    exact undecoded
  · cases fails
    trivial
  · cases fails
    trivial
  · cases fails
    trivial
  · cases fails

/-- **The store answers with a conflict only when the key is taken.** -/
theorem IntakeInvariant.taken (lawful : M.Lawful) (inv : IntakeInvariant sha256 s) (running : s.Running n call)
    (stage : call.stage = .prepared submission record) {nowMillis : ℕ} {c : M.Call} (accept : M.call c = .accept record)
    {key : IngestionKey} {id : EventId} (replied : (M.exec nowMillis s.store c).1 = .error (.ingestionConflict key id)) :
    s.Taken call := by
  obtain ⟨decoded, named, print⟩ := (inv.staged n call running.here).asked submission record (by rw [AcceptCall.asked, stage])
  obtain untouched | ⟨m, record₀, claim, fields, owned⟩ := inv.keys record.ingestionKey
  · obtain ⟨failure, fails, tag⟩ | ⟨claim, store', accepts, -⟩ :=
      lawful.accepts nowMillis inv.sound accept untouched.unknown
    · rw [fails] at replied
      cases replied
      exact absurd rfl tag
    · rw [accepts] at replied
      cases replied
  · obtain ⟨call₀, submission₀, accepted, under, decoded₀, print₀⟩ := inv.accepted_of_owned owned
    refine ⟨m, call₀, submission₀, record₀, claim, accepted, under.trans named, ?_⟩
    intro same
    rw [decoded, Option.some.injEq] at same
    rw [lawful.replays nowMillis inv.sound accept owned.kept, print₀, print, same, if_pos rfl] at replied
    cases replied

theorem IntakeInvariant.blames_settle (lawful : M.Lawful) (inv : IntakeInvariant sha256 s) (running : s.Running n call)
    (stage : call.stage = .prepared submission record) {nowMillis : ℕ} {c : M.Call} (accept : M.call c = .accept record)
    {failure : IntakeFailure}
    (failed : (call.settle submission record (M.exec nowMillis s.store c).1).outcome = some (.failed failure)) :
    s.Blames call failure := by
  unfold AcceptCall.settle at failed
  split at failed
  · have silent : call.outcome = some (.failed failure) := failed
    rw [running.unfinished] at silent
    cases silent
  · cases failed
    trivial
  · next cause fails =>
    cases failed
    cases cause with
    | ingestionConflict key id => exact inv.taken lawful running stage accept fails
    | _ => trivial

/-- What is set may fail as it is blamed. -/
theorem IntakeState.failed_set (new : AcceptCall) {failure : IntakeFailure}
    (fresh : new.outcome = some (.failed failure) → ∃ call, s.calls n = some call ∧ s.Blames call failure)
    {m : ℕ} {call' : AcceptCall} (here' : (s.set n new).calls m = some call')
    (failed : call'.outcome = some (.failed failure)) :
    ∃ call, s.calls m = some call ∧ (call.outcome ≠ none ∨ s.Blames call failure) := by
  rw [set_calls] at here'
  rcases eq_or_ne m n with rfl | other
  · rw [Function.update_self, Option.some.injEq] at here'
    subst here'
    obtain ⟨call, here, blames⟩ := fresh failed
    exact ⟨call, here, .inr blames⟩
  · rw [Function.update_of_ne other] at here'
    exact ⟨call', here', .inl (by rw [failed]; rintro ⟨⟩)⟩

/-- A call that has failed after a step had before, or is to blame. -/
theorem IntakeStep.failed (lawful : M.Lawful) (inv : IntakeInvariant sha256 s) (step : IntakeStep M sha256 s l s')
    (releases : s'.Releases l) {m : ℕ} {call' : AcceptCall} {failure : IntakeFailure} (here' : s'.calls m = some call')
    (failed : call'.outcome = some (.failed failure)) :
    ∃ call, s.calls m = some call ∧ (call.outcome ≠ none ∨ s.Blames call failure) := by
  cases step with
  | call ingestionKey candidate new => exact IntakeState.failed_set _ (by rintro ⟨⟩) here' failed
  | @prepare n call configuration drawn running stage =>
    refine IntakeState.failed_set _ ?_ here' failed
    intro failed
    refine ⟨call, running.here, ?_⟩
    unfold AcceptCall.prepare at failed
    split at failed
    · next failure fails =>
      cases failed
      exact IntakeState.blames_prepare fails
    · have silent : call.outcome = some (.failed failure) := failed
      rw [running.unfinished] at silent
      cases silent
  | @transact n call submission record nowMillis c running stage accept =>
    exact IntakeState.failed_set _ (fun failed => ⟨call, running.here, inv.blames_settle lawful running stage accept failed⟩)
      here' failed
  | @abort n call submission record cause running stage =>
    refine IntakeState.failed_set _ ?_ here' failed
    rintro ⟨⟩
    exact ⟨call, running.here, trivial⟩
  | @enqueue n call submission record fields claim running stage =>
    refine IntakeState.failed_set { call with stage := .decided submission record (.accepted fields claim) true } ?_ here'
      failed
    intro failed
    have silent : call.outcome = some (.failed failure) := failed
    rw [running.unfinished] at silent
    cases silent
  | @unreleased n call submission record decision cause running stage =>
    refine IntakeState.failed_set _ ?_ here' failed
    rintro ⟨⟩
    have released := releases n _ cause rfl (Function.update_self ..) rfl
    refine ⟨call, running.here, ?_⟩
    cases cause <;> trivial
  | respond running stage => exact IntakeState.failed_set _ (by rintro ⟨⟩) here' failed
  | interrupt running => exact IntakeState.failed_set _ (by rintro ⟨⟩) here' failed
  | other => exact ⟨call', here', .inl (by rw [failed]; rintro ⟨⟩)⟩

/-- Every failed call is to blame for its failure. -/
def IntakeState.Blamed (s : IntakeState M) : Prop :=
  ∀ n call failure, s.calls n = some call → call.outcome = some (.failed failure) → s.Blames call failure

theorem IntakeState.Blamed.step (lawful : M.Lawful) (inv : IntakeInvariant sha256 s) (blamed : s.Blamed)
    (step : IntakeStep M sha256 s l s') (releases : s'.Releases l) : s'.Blamed := by
  intro m call' failure here' failed
  obtain ⟨call, here, before⟩ := step.failed lawful inv releases here' failed
  obtain ⟨after, there, becomes⟩ := step.becomes here
  rw [here', Option.some.injEq] at there
  subst there
  obtain finished | blames := before
  · obtain rfl := becomes.outcome finished
    exact (blamed m call' failure here failed).step step becomes
  · exact blames.step step becomes

end Calls

/-! ## What a reply says -/

section Replies

variable {M : IntakeMachine} {sha256 : Digest} {token : String} {s s' : HttpIntake M}

/-- The post asks to accept the submission under the key, and became the call. -/
structure EventExchange.Asks (exchange : EventExchange) (token : String) (n : ℕ) (key : IngestionKey)
    (submission : EventSubmission) : Prop where
  credential : exchange.post.credential = token
  read : exchange.post.read = some (key, submission)
  ready : exchange.ready = true
  became : exchange.became = .ok n

inductive EventExchange.Explained (exchange : EventExchange) (token : String) (s : HttpIntake M) : EventReply → Prop where
  | unauthorized (nobody : exchange.became = .error .unauthorized) (wrong : exchange.post.credential ≠ token) :
      Explained exchange token s (.error .unauthorized)
  | unsupportedMediaType (nobody : exchange.became = .error .unsupportedMediaType)
      (other : isJson exchange.post.contentType = false) : Explained exchange token s (.error .unsupportedMediaType)
  | invalidEvent (nobody : exchange.became = .error .invalidEvent) (unreadable : exchange.post.read = none) :
      Explained exchange token s (.error .invalidEvent)
  | relayNotReady (nobody : exchange.became = .error .relayNotReady) (unready : exchange.ready = false) :
      Explained exchange token s (.error .relayNotReady)
  /-- The submission was accepted under the key, by the call `m`. -/
  | accepted (n m : ℕ) (key : IngestionKey) (submission : EventSubmission) (asks : exchange.Asks token n key submission)
      (call₀ : AcceptCall) (record : IntakeRecord) (claim : DeliveryClaim)
      (accepted : s.intake.Accepted m call₀ submission record claim) (under : call₀.ingestionKey = key) :
      Explained exchange token s
        (.ok ⟨record.event.id, record.deliveryId, record.acceptedAtMillis, decide (n ≠ m)⟩)
  /-- Another submission was accepted under the key. -/
  | conflict (n m : ℕ) (key : IngestionKey) (submission submission₀ : EventSubmission)
      (asks : exchange.Asks token n key submission) (call₀ : AcceptCall) (record : IntakeRecord) (claim : DeliveryClaim)
      (accepted : s.intake.Accepted m call₀ submission₀ record claim) (under : call₀.ingestionKey = key)
      (other : submission ≠ submission₀) : Explained exchange token s (.error .ingestionConflict)
  /-- A service that the call needs has failed it. -/
  | failed (n : ℕ) (key : IngestionKey) (submission : EventSubmission) (asks : exchange.Asks token n key submission)
      (call : AcceptCall) (failure : IntakeFailure) (here : s.intake.calls n = some call)
      (fails : call.outcome = some (.failed failure)) (caught : catchTags failure = some .deliveryInternal) :
      Explained exchange token s (.error .deliveryInternal)

structure EventExchange.Placed (exchange : EventExchange) (token : String) (s : IntakeState M) : Prop where
  refused : ∀ problem, exchange.became = .error problem → receiveEvent token exchange.ready exchange.post = .error problem
  admitted : ∀ n, exchange.became = .ok n → ∃ submission call, s.calls n = some call ∧
    receiveEvent token exchange.ready exchange.post = .ok (call.ingestionKey, submission) ∧
    call.candidate = encodeSubmission submission

structure HttpIntake.Inv (sha256 : Digest) (token : String) (s : HttpIntake M) : Prop where
  intake : IntakeInvariant sha256 s.intake
  blamed : s.intake.Blamed
  placed : ∀ exchange ∈ s.exchanges, exchange.Placed token s.intake

theorem EventExchange.Placed.step {exchange : EventExchange} {l : IntakeLabel} {intake intake' : IntakeState M}
    (placed : exchange.Placed token intake) (step : IntakeStep M sha256 intake l intake') : exchange.Placed token intake' where
  refused := placed.refused
  admitted := by
    intro n became
    obtain ⟨submission, call, here, admitted, candidate⟩ := placed.admitted n became
    obtain ⟨call', here', becomes⟩ := step.becomes here
    refine ⟨submission, call', here', ?_, ?_⟩
    · rw [becomes.ingestionKey]
      exact admitted
    · rw [becomes.candidate]
      exact candidate

theorem HttpIntake.Inv.step (lawful : M.Lawful) (inv : s.Inv sha256 token) {l : HttpIntakeLabel}
    (step : HttpIntakeStep M sha256 token s l s') : s'.Inv sha256 token := by
  cases step with
  | mark ready => exact ⟨inv.intake, inv.blamed, inv.placed⟩
  | @refuse post problem refused =>
    refine ⟨inv.intake, inv.blamed, ?_⟩
    intro exchange member
    obtain earlier | now := List.mem_append.1 member
    · exact inv.placed exchange earlier
    · rw [List.mem_singleton] at now
      subst now
      refine ⟨?_, ?_⟩
      · rintro problem' ⟨⟩
        exact refused
      · rintro n ⟨⟩
  | @accept post key submission n admitted new =>
    have step : IntakeStep M sha256 s.intake (.call n) (s.intake.set n ⟨key, encodeSubmission submission, .called, none⟩) :=
      .call key (encodeSubmission submission) new
    refine ⟨inv.intake.step lawful step, inv.blamed.step lawful inv.intake step (fun _ _ _ other => by cases other), ?_⟩
    intro exchange member
    obtain earlier | now := List.mem_append.1 member
    · exact (inv.placed exchange earlier).step step
    · rw [List.mem_singleton] at now
      subst now
      refine ⟨?_, ?_⟩
      · rintro problem ⟨⟩
      · rintro m ⟨⟩
        exact ⟨submission, _, Function.update_self .., admitted, rfl⟩
  | proceed step releases =>
    exact ⟨inv.intake.step lawful step, inv.blamed.step lawful inv.intake step releases,
      fun exchange member => (inv.placed exchange member).step step⟩

theorem HttpIntake.Inv.run (lawful : M.Lawful) {tr : List HttpIntakeLabel} (run : (httpIntake M sha256 token).Run tr s) :
    s.Inv sha256 token := by
  refine run.preserves (HttpIntake.Inv sha256 token) ⟨.init lawful, ?_, ?_⟩ fun _ _ _ inv step => inv.step lawful step
  · rintro n call failure ⟨⟩
  · intro exchange member
    cases member

/-- Why a post was refused. -/
theorem EventExchange.explained_refused {exchange : EventExchange} {problem : EventProblem}
    (refused : receiveEvent token exchange.ready exchange.post = .error problem) (nobody : exchange.became = .error problem) :
    exchange.Explained token s (.error problem) := by
  unfold receiveEvent at refused
  split at refused
  · next wrong =>
    cases refused
    refine .unauthorized nobody ?_
    intro same
    rw [same, sameSecret_iff.2 rfl] at wrong
    cases wrong
  · split at refused
    · next other =>
      cases refused
      exact .unsupportedMediaType nobody (by simpa using other)
    · split at refused
      · next unreadable =>
        cases refused
        exact .invalidEvent nobody unreadable
      · split at refused
        · cases refused
        · next unready =>
          cases refused
          exact .relayNotReady nobody (Bool.not_eq_true _ ▸ unready)

theorem EventExchange.asks_of_receiveEvent {exchange : EventExchange} {n : ℕ} {key : IngestionKey}
    {submission : EventSubmission}
    (admitted : receiveEvent token exchange.ready exchange.post = .ok (key, submission)) (became : exchange.became = .ok n) :
    exchange.Asks token n key submission := by
  unfold receiveEvent at admitted
  split at admitted
  · cases admitted
  · next authorized =>
    split at admitted
    · cases admitted
    · split at admitted
      · cases admitted
      · next asked read =>
        split at admitted
        · next ready =>
          cases admitted
          rw [Bool.not_eq_true, Bool.not_eq_false'] at authorized
          exact ⟨sameSecret_iff.1 authorized, read, ready, became⟩
        · cases admitted

/-- The reply to a call, from what is known of the calls. -/
theorem HttpIntake.Inv.explained (inv : s.Inv sha256 token) (collisionFree : s.intake.CollisionFree sha256)
    {exchange : EventExchange} {n : ℕ} {call : AcceptCall} {submission : EventSubmission} (here : s.intake.calls n = some call)
    (asks : exchange.Asks token n call.ingestionKey submission) (candidate : call.candidate = encodeSubmission submission)
    {outcome : IntakeOutcome} (ended : call.outcome = some outcome) {reply : EventReply}
    (replies : replyTo outcome = some reply) :
    exchange.Explained token s reply := by
  have decoded : decodeSubmission call.candidate = some submission := by
    rw [candidate, decodeSubmission_encode]
  cases outcome with
  | returned a =>
    cases replies
    obtain ⟨m, call₀, submission₀, record, claim, accepted, under, -, same, rfl⟩ :=
      inv.intake.returns collisionFree here ended
    rw [decoded, Option.some.injEq] at same
    subst same
    exact .accepted n m call.ingestionKey submission asks call₀ record claim accepted under
  | failed failure =>
    obtain ⟨problem, caught, rfl⟩ := Option.map_eq_some_iff.1 replies
    have blames := inv.blamed n call failure here ended
    cases failure with
    | invalidEvent =>
      rw [show decodeSubmission call.candidate = none from blames] at decoded
      cases decoded
    | eventIdentity operation =>
      cases caught
      exact .failed n call.ingestionKey submission asks call _ here ended rfl
    | store cause =>
      cases cause with
      | ingestionConflict key id =>
        cases caught
        obtain ⟨m, call₀, submission₀, record, claim, accepted, under, other⟩ := blames
        refine .conflict n m call.ingestionKey submission submission₀ asks call₀ record claim accepted under ?_
        rintro rfl
        exact other decoded
      | claimLost | deliveryRepository | relayIntakeStore =>
        cases caught
        exact .failed n call.ingestionKey submission asks call _ here ended rfl
      | deadLetterRecovery | deadLetterDestinationMismatch | defect => cases caught
  | interrupted => cases replies

/-- **A client knows what became of its post**, in every run, with either adapter: it reads from the answer what the server
replied, and the reply says what was the case. -/
theorem posts_answered (adapter : Adapter) {tr : List HttpIntakeLabel} {s : HttpIntake adapter.intake}
    (run : (httpIntake adapter.intake sha256 token).Run tr s) (collisionFree : s.intake.CollisionFree sha256)
    {exchange : EventExchange} (member : exchange ∈ s.exchanges) {reply : EventReply} (replies : s.reply exchange = some reply)
    (small : ∀ a, reply = .ok a → a.acceptedAtMillis ≤ maxSafeInteger) :
    SubmitEvent.decode (SubmitEvent.encode reply) = some reply ∧ exchange.Explained token s reply := by
  have inv := HttpIntake.Inv.run adapter.lawful run
  have placed := inv.placed exchange member
  refine ⟨?_, ?_⟩
  · refine SubmitEvent.decode_encode ?_
    cases reply with
    | ok a => exact EventAcceptance.fits (small a rfl)
    | error problem => exact SubmitEvent.declares_problem problem
  · unfold HttpIntake.reply at replies
    cases became : exchange.became with
    | error problem =>
      rw [became] at replies
      cases replies
      exact EventExchange.explained_refused (placed.refused problem became) became
    | ok n =>
      simp only [became] at replies
      obtain ⟨outcome, finished, replied⟩ := Option.bind_eq_some_iff.1 replies
      obtain ⟨call, here, ended⟩ := Option.bind_eq_some_iff.1 finished
      obtain ⟨submission, call', here', admitted, candidate⟩ := placed.admitted n became
      rw [here, Option.some.injEq] at here'
      subst here'
      exact inv.explained collisionFree here (EventExchange.asks_of_receiveEvent admitted became) candidate ended replied

end Replies

/-! ### A conflict -/

namespace Sample

def post (amountCents : AmountCents) : EventPost := eventPost "intake" key (submission amountCents)

def posted (amountCents : AmountCents) (n : ℕ) : EventExchange := ⟨post amountCents, true, .ok n⟩

theorem post_admitted : receiveEvent "intake" true (post hundred) = .ok (key, submission hundred) ∧
    receiveEvent "intake" true (post twoHundred) = .ok (key, submission twoHundred) :=
  ⟨receiveEvent_eventPost "intake" key (by decide) (by decide +kernel),
    receiveEvent_eventPost "intake" key (by decide) (by decide +kernel)⟩

/-- Two clients have posted different submissions under one key. -/
def contesting : HttpIntake Adapter.postgres.intake := ⟨true, contested, [posted hundred 0, posted twoHundred 1]⟩

theorem runs_contesting : (httpIntake Adapter.postgres.intake sha256 "intake").Run
    [.mark true, .receive (post hundred), .receive (post twoHundred), .proceed (.prepare 0), .proceed (.prepare 1),
      .proceed (.transact 0), .proceed (.transact 1)] contesting := by
  have quiet {s' : IntakeState Adapter.postgres.intake} {l : IntakeLabel} (other : ∀ n, l ≠ .respond n) : s'.Releases l :=
    fun n _ _ same => absurd same (other n)
  have started : (httpIntake Adapter.postgres.intake sha256 "intake").Run [.mark true]
      ⟨true, (intakeSystem Adapter.postgres.intake sha256).init, []⟩ := .single (.mark true)
  have first := started.snoc (.accept (n := 0) post_admitted.1 rfl)
  have second := first.snoc (.accept (n := 1) post_admitted.2 rfl)
  have third := second.snoc (.proceed (.prepare (n := 0) configuration drawn ⟨rfl, rfl⟩ rfl) (quiet (by rintro n ⟨⟩)))
  have fourth := third.snoc (.proceed (.prepare (n := 1) configuration drawn ⟨rfl, rfl⟩ rfl) (quiet (by rintro n ⟨⟩)))
  have fifth := fourth.snoc (.proceed (.transact (M := Adapter.postgres.intake) (s := racing) (n := 0) 0 (transaction hundred)
      ⟨by rfl, by decide +kernel⟩ asked_stage.1 rfl) (quiet (by rintro n ⟨⟩)))
  exact fifth.snoc (.proceed (.transact (M := Adapter.postgres.intake) (s := decided) (n := 1) 1 (transaction twoHundred)
      ⟨by rfl, by decide +kernel⟩ asked_stage.2 rfl) (quiet (by rintro n ⟨⟩)))

end Sample

theorem posts_answered_conflict : SubmitEvent.decode (SubmitEvent.encode (.error .ingestionConflict)) =
      some (.error .ingestionConflict) ∧
    (Sample.posted Sample.twoHundred 1).Explained "intake" Sample.contesting (.error .ingestionConflict) := by
  have ended : (Sample.contested.calls 1).bind AcceptCall.outcome =
      some (.failed (.store (.ingestionConflict Sample.key Sample.event.id))) := by
    decide +kernel
  have replies : Sample.contesting.reply (Sample.posted Sample.twoHundred 1) = some (.error .ingestionConflict) := by
    show ((Sample.contested.calls 1).bind AcceptCall.outcome).bind replyTo = _
    rw [ended]
    rfl
  refine posts_answered .postgres Sample.runs_contesting Sample.contested_collisionFree (List.mem_cons_of_mem _
    (List.mem_singleton_self _)) replies ?_
  rintro a ⟨⟩

end Relay
