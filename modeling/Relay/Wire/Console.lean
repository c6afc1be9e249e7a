import Relay.Library.Text
import Relay.Store.Reads
import Relay.Wire.Operations

/-!
# The console of the operators (`src/adminCli.ts`, `src/adminClient.ts`)

`relayctl` lists the dead letters or returns one to pending, and prints what it is answered
as JSON or for people to read. A line of JSON reads back as what was answered; the lines for
people tell each delivery, why it is dead and how often it was attempted.
-/

namespace Relay

open Json

inductive OutputMode where
  | human
  | json
deriving DecidableEq

/-! ## The presenter -/

/-- `_tag`. -/
def DeliveryState.tag : DeliveryState → Postgres.DeliveryRowState
  | .pending => .pending
  | .delivered _ => .delivered
  | .rejected _ => .rejected
  | .deadLettered _ => .deadLettered
  | .terminated => .terminated

def DeliveryState.label : DeliveryState → String
  | .deadLettered reason => Postgres.reasonText reason
  | s => Postgres.stateText s.tag

def humanDeadLetter (status : DeliveryStatus) : String :=
  status.delivery.id.text ++ "\t" ++ status.delivery.state.label ++ "\tattempts=" ++ status.attempts.length.repr

namespace AdminPresenter

/-- The text of one `Console.log`, which ends it with a line break. -/
def listDeadLetters (mode : OutputMode) (statuses : List DeliveryStatus) : String :=
  match mode with
  | .json => DeliveryStatus.codec.list.encodeText statuses
  | .human =>
    if statuses.length = 0 then "No dead letters" else String.intercalate "\n" (statuses.map humanDeadLetter)

def retried (mode : OutputMode) (status : DeliveryStatus) : String :=
  match mode with
  | .json => DeliveryStatus.codec.encodeText status
  | .human =>
    "Retry accepted for " ++ status.delivery.id.text ++ "; state=" ++ Postgres.stateText status.delivery.state.tag

end AdminPresenter

/-! ## What people read -/

/-- What a line tells of a dead letter. -/
def DeliveryStatus.summary (status : DeliveryStatus) : DeliveryId × String × ℕ :=
  (status.delivery.id, status.delivery.state.label, status.attempts.length)

theorem label_plain (s : DeliveryState) : '\t' ∉ s.label.toList ∧ '\n' ∉ s.label.toList := by
  have tags (t : Postgres.DeliveryRowState) :
      '\t' ∉ (Postgres.stateText t).toList ∧ '\n' ∉ (Postgres.stateText t).toList := by
    cases t <;> decide
  cases s with
  | pending | delivered status | rejected status | terminated => exact tags _
  | deadLettered reason => cases reason <;> decide

theorem attempts_plain {c : Char} (other : c.isDigit = false) (outside : c ∉ "attempts=".toList) (n : ℕ) :
    c ∉ ("attempts=" ++ n.repr).toList := by
  rw [String.toList_append]
  intro member
  obtain early | late := List.mem_append.1 member
  · exact outside early
  · exact Text.not_mem_repr other n late

def humanColumns (status : DeliveryStatus) : List String :=
  [status.delivery.id.text, status.delivery.state.label, "attempts=" ++ status.attempts.length.repr]

theorem humanDeadLetter_eq (status : DeliveryStatus) :
    humanDeadLetter status = String.intercalate (String.singleton '\t') (humanColumns status) := by
  apply String.toList_inj.1
  simp [humanDeadLetter, humanColumns]

theorem humanColumns_plain {c : Char} (control : c = '\t' ∨ c = '\n') (status : DeliveryStatus) :
    ∀ column ∈ humanColumns status, c ∉ column.toList := by
  have label := label_plain status.delivery.state
  intro column member
  simp only [humanColumns, List.mem_cons, List.not_mem_nil, or_false] at member
  obtain rfl | rfl | rfl := member
  · obtain rfl | rfl := control <;> exact status.delivery.id.plain (by decide) (by decide)
  · obtain rfl | rfl := control
    · exact label.1
    · exact label.2
  · obtain rfl | rfl := control <;> exact attempts_plain (by decide) (by decide) _

theorem humanDeadLetter_line (status : DeliveryStatus) : '\n' ∉ (humanDeadLetter status).toList := by
  have columns := humanColumns_plain (.inr rfl) status
  simp only [humanColumns, List.mem_cons, List.not_mem_nil, or_false, forall_eq_or_imp, forall_eq, String.toList_append,
    List.mem_append, not_or] at columns
  simp only [humanDeadLetter, String.toList_append, List.mem_append, not_or]
  exact ⟨⟨⟨⟨columns.1, by decide⟩, columns.2.1⟩, by decide⟩, columns.2.2.2⟩

/-- **A line tells its summary**, and nothing else. -/
theorem humanDeadLetter_iff {s t : DeliveryStatus} : humanDeadLetter s = humanDeadLetter t ↔ s.summary = t.summary := by
  constructor
  · intro same
    rw [humanDeadLetter_eq, humanDeadLetter_eq] at same
    have columns := Text.intercalate_injective (by simp [humanColumns]) (by simp [humanColumns])
      (humanColumns_plain (.inl rfl) s) (humanColumns_plain (.inl rfl) t) same
    simp only [humanColumns, List.cons.injEq, and_true] at columns
    obtain ⟨id, label, attempts⟩ := columns
    have count := congrArg String.toList attempts
    rw [String.toList_append, String.toList_append, List.append_right_inj, String.toList_inj] at count
    have ids : s.delivery.id = t.delivery.id := by
      generalize s.delivery.id = a at id
      generalize t.delivery.id = b at id
      obtain ⟨a, wf⟩ := a
      obtain ⟨b, wf'⟩ := b
      cases id
      rfl
    rw [DeliveryStatus.summary, DeliveryStatus.summary, ids, label, Text.repr_injective count]
  · intro same
    rw [DeliveryStatus.summary, DeliveryStatus.summary, Prod.mk.injEq, Prod.mk.injEq] at same
    rw [humanDeadLetter, humanDeadLetter, same.1, same.2.1, same.2.2]

theorem map_of_map {α β γ : Type} {f : α → β} {g : α → γ} (tells : ∀ a b, f a = f b → g a = g b) {xs ys : List α}
    (same : xs.map f = ys.map f) : xs.map g = ys.map g := by
  induction xs generalizing ys with
  | nil =>
    cases ys with
    | nil => rfl
    | cons y ys => cases same
  | cons x xs ih =>
    cases ys with
    | nil => cases same
    | cons y ys =>
      rw [List.map_cons, List.map_cons, List.cons.injEq] at same
      rw [List.map_cons, List.map_cons, tells x y same.1, ih same.2]

/-- The lines of a listing; of an empty one, its notice. -/
def humanLines (statuses : List DeliveryStatus) : List String :=
  if statuses = [] then ["No dead letters"] else statuses.map humanDeadLetter

theorem listDeadLetters_human (statuses : List DeliveryStatus) :
    AdminPresenter.listDeadLetters .human statuses = String.intercalate (String.singleton '\n') (humanLines statuses) := by
  cases statuses with
  | nil => rfl
  | cons status statuses => rfl

theorem humanLines_clean (statuses : List DeliveryStatus) : ∀ line ∈ humanLines statuses, '\n' ∉ line.toList := by
  intro line member
  unfold humanLines at member
  split at member
  · rw [List.mem_singleton] at member
    subst member
    decide
  · obtain ⟨status, -, rfl⟩ := List.mem_map.1 member
    exact humanDeadLetter_line status

/-- The notice is no line of a dead letter. -/
theorem humanDeadLetter_ne (status : DeliveryStatus) : humanDeadLetter status ≠ "No dead letters" := by
  intro same
  have tab : '\t' ∈ (humanDeadLetter status).toList := by simp [humanDeadLetter]
  rw [same] at tab
  revert tab
  decide

theorem humanLines_ne_nil (statuses : List DeliveryStatus) : humanLines statuses ≠ [] := by
  unfold humanLines
  split <;> simp_all

/-- **A listing for people tells the summaries of the dead letters in their order**, and nothing else. -/
theorem listDeadLetters_human_iff {xs ys : List DeliveryStatus} :
    AdminPresenter.listDeadLetters .human xs = AdminPresenter.listDeadLetters .human ys ↔
      xs.map (·.summary) = ys.map (·.summary) := by
  rw [listDeadLetters_human, listDeadLetters_human]
  constructor
  · intro same
    have lines := Text.intercalate_injective (humanLines_ne_nil xs) (humanLines_ne_nil ys) (humanLines_clean xs)
      (humanLines_clean ys) same
    cases xs with
    | nil =>
      cases ys with
      | nil => rfl
      | cons y ys => exact absurd (List.cons.inj lines).1.symm (humanDeadLetter_ne y)
    | cons x xs =>
      cases ys with
      | nil => exact absurd (List.cons.inj lines).1 (humanDeadLetter_ne x)
      | cons y ys => exact map_of_map (fun _ _ => humanDeadLetter_iff.1) (show (x :: xs).map humanDeadLetter = _ from lines)
  · intro same
    have lines : xs.map humanDeadLetter = ys.map humanDeadLetter := map_of_map (fun _ _ => humanDeadLetter_iff.2) same
    have empty : xs = [] ↔ ys = [] := by
      rw [← List.map_eq_nil_iff (f := humanDeadLetter), lines, List.map_eq_nil_iff]
    simp only [humanLines, lines, empty]

/-! ## The commands -/

/-- A request as the server gets it, with its bearer token. -/
structure AdminRequest where
  line : RequestLine
  token : String
deriving DecidableEq

/-- What is answered, if anything. -/
abbrev AdminWeb := AdminRequest → Option HttpAnswer

/-- `operation` of an `AdminRequestError`. -/
inductive AdminOperation where
  | listDeadLetters
  | retryDeadLetter
deriving DecidableEq

def listRequestLine : RequestLine := ⟨.get, "/operations/dead-letters"⟩

namespace RelayAdminClient

variable (web : AdminWeb) (token : String)

def request {α : Type} (endpoint : OperationsApiEndpoint α) (line : RequestLine) (operation : AdminOperation) :
    Except AdminOperation α :=
  match (web ⟨line, token⟩).bind endpoint.decode with
  | some (.ok a) => .ok a
  | some (.error _) | none => .error operation

def listDeadLetters : Except AdminOperation (List DeliveryStatus) :=
  request web token ListDeadLetters listRequestLine .listDeadLetters

def retryDeadLetter (deliveryId : DeliveryId) : Except AdminOperation DeliveryStatus :=
  request web token RetryDeadLetter (DeliveryEndpoint.retryDeadLetter deliveryId).requestLine .retryDeadLetter

end RelayAdminClient

inductive AdminCommand where
  | list
  | retry (deliveryId : DeliveryId) (yes : Bool)
deriving DecidableEq

inductive AdminExit where
  | printed (text : String)
  | confirmationRequired (deliveryId : DeliveryId)
  | requestError (operation : AdminOperation)
deriving DecidableEq

/-- The handlers of `relayctl dead-letters`. -/
def relayAdminCommand (web : AdminWeb) (token : String) (mode : OutputMode) : AdminCommand → AdminExit
  | .list =>
    match RelayAdminClient.listDeadLetters web token with
    | .ok statuses => .printed (AdminPresenter.listDeadLetters mode statuses)
    | .error operation => .requestError operation
  | .retry deliveryId yes =>
    if !yes then .confirmationRequired deliveryId
    else
      match RelayAdminClient.retryDeadLetter web token deliveryId with
      | .ok status => .printed (AdminPresenter.retried mode status)
      | .error operation => .requestError operation

/-! ## What is printed -/

/-- The handler of `listDeadLetters`, over a store. -/
def Adapter.listDeadLetters (collation : Collation) :
    (adapter : Adapter) → adapter.intake.Store → Except OperationsProblem (List DeliveryStatus)
  | .memory, s => .ok (MemoryStore.listDeadLetters s collation 50)
  | .postgres, db =>
    match Postgres.Database.listDeadLetters db collation 50 with
    | .ok statuses => .ok statuses
    | .error _ => .error .deliveryInternal

/-- The client reads what its endpoint declares. -/
theorem request_answered {α : Type} (endpoint : OperationsApiEndpoint α) (reply : Except OperationsProblem α) {web : AdminWeb}
    {token : String} {line : RequestLine} (served : web ⟨line, token⟩ = some (endpoint.encode reply))
    (declares : endpoint.Declares reply) (operation : AdminOperation) :
    RelayAdminClient.request web token endpoint line operation = reply.mapError fun _ => operation := by
  rw [RelayAdminClient.request, served, Option.bind_some, endpoint.decode_encode declares]
  cases reply <;> rfl

/-- **A printed listing is the listing of the store**, with both adapters: as JSON it is one line that reads back as the first
dead letters, and for people it tells their summaries in that order. -/
theorem listing_printed (adapter : Adapter) (collation : Collation) {s : adapter.intake.Store} (reachable : adapter.intake.anyCalls.Reachable s)
    (web : AdminWeb) (token : String)
    (served : web ⟨listRequestLine, token⟩ = some (ListDeadLetters.encode (adapter.listDeadLetters collation s)))
    (safe : ∀ statuses, adapter.listDeadLetters collation s = .ok statuses → ∀ status ∈ statuses, status.Safe) :
    ∃ statuses, adapter.listDeadLetters collation s = .ok statuses ∧ Listing collation (adapter.intake.view s) 50 statuses ∧
      (∃ line, relayAdminCommand web token .json .list = .printed line ∧ '\n' ∉ line.toList ∧
        DeliveryStatus.codec.list.decodeText line = some statuses) ∧
      ∃ text, relayAdminCommand web token .human .list = .printed text ∧ ∀ others,
        AdminPresenter.listDeadLetters .human others = text ↔ others.map (·.summary) = statuses.map (·.summary) := by
  have sound : adapter.intake.Sound s := adapter.lawful.store.sound_of_reachable reachable
  obtain ⟨statuses, listed, listing⟩ : ∃ statuses, adapter.listDeadLetters collation s = .ok statuses ∧
      Listing collation (adapter.intake.view s) 50 statuses := by
    cases adapter with
    | memory => exact ⟨_, rfl, MemoryStore.listDeadLetters_listing sound collation 50⟩
    | postgres =>
      obtain ⟨L, rep⟩ := sound
      obtain ⟨statuses, run, -, listing⟩ := Postgres.Database.listDeadLetters_listing rep collation (Nat.toPNat' 50)
      refine ⟨statuses, ?_, ?_⟩
      · have listed : Postgres.Database.listDeadLetters s collation 50 = .ok statuses := run
        simp only [Adapter.listDeadLetters, listed]
      · rw [show Adapter.postgres.intake.view s = L from rep.view]
        exact listing
  have fits : DeliveryStatus.codec.list.Fits statuses := fun status member => (safe statuses listed status member).fits
  rw [listed] at served
  have answered : RelayAdminClient.listDeadLetters web token = .ok statuses :=
    request_answered ListDeadLetters (.ok statuses) served fits _
  refine ⟨statuses, listed, listing, ?_, ?_⟩
  · refine ⟨DeliveryStatus.codec.list.encodeText statuses, ?_, Codec.encodeText_line _ _, Codec.decodeText_encodeText _ fits⟩
    rw [relayAdminCommand, answered]
    rfl
  · refine ⟨AdminPresenter.listDeadLetters .human statuses, ?_, fun others => listDeadLetters_human_iff⟩
    rw [relayAdminCommand, answered]

/-! ### A listing with one dead letter -/

namespace Sample

def lastAttempt : DeliveryAttemptRecord where
  deliveryId := delivery
  ordinal := Nat.toPNat' 1
  workerId := worker
  claimGeneration := claim.generation
  startedAtMillis := 0
  completedAtMillis := 1
  outcome := .protocolFailure
  decision := .terminal
  status := some 700
  retryDelayMillis := none
  traceId := none
  spanId := none
  consistent := by decide

def recordLast : StoreCall := .recordAttempt lastAttempt

def dead : MemoryStore := (saved.exec 1 recordLast).2

def deadLetter : DeliveryStatus :=
  ⟨⟨delivery, event.id, destination, .deadLettered .providerProtocolFailure⟩, [lastAttempt]⟩

end Sample

theorem deadLetter_safe : Sample.deadLetter.Safe where
  state := trivial
  attempts := by
    intro a member
    rw [List.mem_singleton.1 member]
    exact ⟨by decide, by decide, by decide, by decide, by rintro status ⟨⟩; decide, by rintro delay ⟨⟩⟩

theorem listing_printed_dead : ∃ line,
    relayAdminCommand (fun _ => some (ListDeadLetters.encode (.ok [Sample.deadLetter]))) "operators" .json .list =
      .printed line ∧ '\n' ∉ line.toList ∧ DeliveryStatus.codec.list.decodeText line = some [Sample.deadLetter] := by
  have listed : Sample.dead.listDeadLetters .codePoint 50 = [Sample.deadLetter] := by decide +kernel
  have served : Adapter.memory.listDeadLetters .codePoint Sample.dead = .ok [Sample.deadLetter] := congrArg Except.ok listed
  have path : memory.anyCalls.Path MemoryStore.empty
      [⟨0, Sample.savePending, (MemoryStore.empty.exec 0 Sample.savePending).1⟩,
        ⟨1, Sample.recordLast, (Sample.saved.exec 1 Sample.recordLast).1⟩] Sample.dead :=
    .snoc (.snoc .nil (memory.exec_step 0 MemoryStore.empty Sample.savePending))
      (memory.exec_step 1 Sample.saved Sample.recordLast)
  obtain ⟨statuses, listed', -, ⟨line, printed, plain, read⟩, -⟩ := listing_printed .memory .codePoint ⟨_, path⟩
    (fun _ => some (ListDeadLetters.encode (.ok [Sample.deadLetter]))) "operators" (by rw [served])
    (by
      rw [served]
      rintro statuses ⟨⟩ status member
      rw [List.mem_singleton.1 member]
      exact deadLetter_safe)
  rw [served, Except.ok.injEq] at listed'
  exact ⟨line, printed, plain, by rw [listed', read]⟩

/-- **What is printed of a retry is what the server did**, in every run, with both adapters: the line reads back as a status that
was held after the retry, and an error is reported only if a problem was answered. -/
theorem retry_printed (adapter : Adapter) {server : OperationsServer} {tr : List (HttpStep adapter.operations)}
    {s : HttpOperations adapter.operations} (run : (adapter.operations.http server).Run tr s) {exchange : Exchange}
    (member : exchange ∈ s.exchanges) {deliveryId : DeliveryId} (retries : exchange.endpoint = .retryDeadLetter deliveryId)
    (safe : ∀ status, s.response exchange = some (.ok status) → status.Safe) {web : AdminWeb}
    (served : web ⟨exchange.endpoint.requestLine, exchange.credential⟩ = s.answer exchange)
    (answers : (s.answer exchange).isSome = true) :
    (∃ line status, relayAdminCommand web exchange.credential .json (.retry deliveryId true) = .printed line ∧
      '\n' ∉ line.toList ∧ DeliveryStatus.codec.decodeText line = some status ∧
        exchange.Accounted server s (.ok status)) ∨
    ∃ problem, relayAdminCommand web exchange.credential .json (.retry deliveryId true) = .requestError .retryDeadLetter ∧
      exchange.Accounted server s (.problem problem) := by
  obtain ⟨answer, answered⟩ := Option.isSome_iff_exists.1 answers
  obtain ⟨response, responds, rfl⟩ := Option.map_eq_some_iff.1 answered
  have accounted := (http_inv (operations_lawful adapter) run).accounted member responds
  rw [answered, retries] at served
  cases response with
  | ok status =>
    have fits : DeliveryStatus.codec.Fits status := (safe status responds).fits
    have asked : RelayAdminClient.retryDeadLetter web exchange.credential deliveryId = .ok status :=
      request_answered RetryDeadLetter (.ok status) served fits _
    refine .inl ⟨DeliveryStatus.codec.encodeText status, status, ?_, Codec.encodeText_line _ _,
      Codec.decodeText_encodeText _ fits, accounted⟩
    rw [relayAdminCommand, asked]
    rfl
  | problem problem =>
    have declared := HttpOperations.response_declared responds
    rw [retries] at declared
    have asked : RelayAdminClient.retryDeadLetter web exchange.credential deliveryId = .error .retryDeadLetter :=
      request_answered RetryDeadLetter (.error problem) served declared _
    refine .inr ⟨problem, ?_, accounted⟩
    rw [relayAdminCommand, asked]
    rfl
  | undeclared failure => cases accounted

/-! ### A retry of a dead letter -/

namespace Sample

/-- The maps after the dead letter was retried. -/
def returnedMaps : MemoryStore := (deadMaps.exec 3 (.retryDeadLetter delivery)).2

def returnedStatus : DeliveryStatus := ⟨⟨delivery, event.id, destination, .pending⟩, []⟩

def returned : HttpOperations memoryOperations :=
  recovering (.retryDeadLetter delivery) (.retryDeadLetter delivery) returnedMaps (.exited (.answered (some returnedStatus)))
    [recovered (.retryDeadLetter delivery) returnedMaps]

def returnedAnswer : HttpAnswer := RetryDeadLetter.encode (.ok returnedStatus)

end Sample

theorem reachable_returned : (memoryOperations.http Sample.server).Reachable Sample.returned := by
  have done : (Sample.deadMaps.exec 3 (.retryDeadLetter Sample.delivery)).1 = .ok .done := by decide +kernel
  exact reachable_recovery rfl rfl (Prod.ext done rfl) (by decide +kernel)

theorem returnedStatus_safe : Sample.returnedStatus.Safe where
  state := trivial
  attempts := by
    intro a member
    cases member

/-- The retry is printed as the pending delivery. -/
theorem retry_printed_retried : ∃ line status,
    relayAdminCommand (fun _ => some Sample.returnedAnswer) "operators" .json (.retry Sample.delivery true) = .printed line ∧
      '\n' ∉ line.toList ∧ DeliveryStatus.codec.decodeText line = some status ∧
      (Sample.recovery (.retryDeadLetter Sample.delivery)).Accounted Sample.server Sample.returned (.ok status) := by
  obtain ⟨tr, run⟩ := reachable_returned
  have safe : ∀ status, Sample.returned.response (Sample.recovery (.retryDeadLetter Sample.delivery)) = some (.ok status) →
      status.Safe := by
    rintro status ⟨⟩
    exact returnedStatus_safe
  have served : (fun _ => some Sample.returnedAnswer : AdminWeb) ⟨(Sample.recovery (.retryDeadLetter Sample.delivery)).endpoint.requestLine,
      "operators"⟩ = Sample.returned.answer (Sample.recovery (.retryDeadLetter Sample.delivery)) := rfl
  refine (retry_printed .memory run (List.mem_singleton_self (Sample.recovery (.retryDeadLetter Sample.delivery))) rfl safe
    served rfl).resolve_right ?_
  rintro ⟨problem, printed, -⟩
  have asked : RelayAdminClient.retryDeadLetter (fun _ => some Sample.returnedAnswer) "operators" Sample.delivery =
      .ok Sample.returnedStatus :=
    request_answered RetryDeadLetter (.ok Sample.returnedStatus) rfl returnedStatus_safe.fits _
  have line : relayAdminCommand (fun _ => some Sample.returnedAnswer) "operators" .json (.retry Sample.delivery true) =
      .printed (AdminPresenter.retried .json Sample.returnedStatus) := by
    rw [relayAdminCommand, asked]
    rfl
  exact AdminExit.noConfusion (line.symm.trans printed)

end Relay
