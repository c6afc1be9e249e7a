import Relay.Intake.Accept

/-!
# What the calls under one key were answered

The invariant ties what the store knows of an ingestion key to what the calls
under it were answered: nothing yet, or one acceptance and replays of it.
-/

namespace Relay

variable {M : IntakeMachine} {sha256 : Digest}

/-! ## What one call knows -/

/-- The request a call has made, or is about to make. -/
def AcceptCall.asked (call : AcceptCall) : Option (EventSubmission × IntakeRecord) :=
  match call.stage with
  | .called => none
  | .prepared submission record | .decided submission record _ _ => some (submission, record)

/-- The request carries the call's key and the fingerprint of its submission; an answer is the decision's. -/
structure AcceptCall.Staged (sha256 : Digest) (call : AcceptCall) : Prop where
  asked : ∀ submission record, call.asked = some (submission, record) →
    decodeSubmission call.candidate = some submission ∧ record.ingestionKey = call.ingestionKey ∧
      record.requestFingerprint = fingerprint sha256 submission
  returned : ∀ a, call.outcome = some (.returned a) →
    ∃ submission record decision handed, call.stage = .decided submission record decision handed ∧
      a = acceptance decision

section Call

variable {call : AcceptCall} {submission : EventSubmission} {record : IntakeRecord}

theorem prepare_eq_ok {configuration : IntakeConfiguration} {ingestionKey : IngestionKey} {candidate : Candidate}
    {drawn : Drawn} (ok : prepare sha256 configuration ingestionKey candidate drawn = .ok (submission, record)) :
    decodeSubmission candidate = some submission ∧ record.ingestionKey = ingestionKey ∧
      record.requestFingerprint = fingerprint sha256 submission := by
  unfold prepare at ok
  split at ok
  · cases ok
  · cases ok
  · cases ok
  · cases ok
  · next decoded _ _ _ =>
    cases ok
    exact ⟨decoded, rfl, rfl⟩

theorem AcceptCall.Staged.finish (staged : call.Staged sha256) {outcome : IntakeOutcome}
    (silent : ∀ a, outcome ≠ .returned a) : (call.finish outcome).Staged sha256 where
  asked := staged.asked
  returned := by
    intro a same
    exact absurd (Option.some.inj same) (silent a)

variable (sha256 call) in
theorem AcceptCall.prepare_cases (configuration : IntakeConfiguration) (drawn : Drawn) :
    (∃ failure, call.prepare sha256 configuration drawn = call.finish (.failed failure)) ∨
      ∃ submission record, call.prepare sha256 configuration drawn = { call with stage := .prepared submission record } ∧
        decodeSubmission call.candidate = some submission ∧ record.ingestionKey = call.ingestionKey ∧
        record.requestFingerprint = fingerprint sha256 submission := by
  unfold AcceptCall.prepare
  split
  · exact .inl ⟨_, rfl⟩
  · next submission record ok => exact .inr ⟨submission, record, rfl, prepare_eq_ok ok⟩

theorem AcceptCall.prepare_staged (configuration : IntakeConfiguration) (drawn : Drawn)
    (unfinished : call.outcome = none) (staged : call.Staged sha256) :
    (call.prepare sha256 configuration drawn).Staged sha256 := by
  obtain ⟨failure, same⟩ | ⟨submission, record, same, prepared⟩ := call.prepare_cases sha256 configuration drawn
  · rw [same]
    exact staged.finish (by exact nofun)
  · rw [same]
    refine ⟨?_, ?_⟩
    · rintro _ _ ⟨⟩
      exact prepared
    · intro a returned
      rw [show (_ : Option IntakeOutcome) = none from unfinished] at returned
      cases returned

theorem AcceptCall.settle_staged (unfinished : call.outcome = none) (staged : call.Staged sha256)
    (stage : call.stage = .prepared submission record) (reply : Reply) :
    (call.settle submission record reply).Staged sha256 := by
  unfold AcceptCall.settle
  split
  · refine ⟨?_, ?_⟩
    · intro submission' record' same
      refine staged.asked submission' record' ?_
      unfold AcceptCall.asked
      rw [stage]
      exact same
    · intro a same
      rw [show (_ : Option IntakeOutcome) = none from unfinished] at same
      cases same
  · exact staged.finish (by exact nofun)
  · exact staged.finish (by exact nofun)

theorem AcceptCall.prepare_key (configuration : IntakeConfiguration) (drawn : Drawn) :
    (call.prepare sha256 configuration drawn).ingestionKey = call.ingestionKey := by
  obtain ⟨failure, same⟩ | ⟨submission, record, same, -⟩ := call.prepare_cases sha256 configuration drawn
  · rw [same]
    rfl
  · rw [same]

theorem AcceptCall.settle_key (reply : Reply) :
    (call.settle submission record reply).ingestionKey = call.ingestionKey := by
  unfold AcceptCall.settle
  split <;> rfl

theorem AcceptCall.prepare_unanswered (configuration : IntakeConfiguration) (drawn : Drawn)
    (stage : call.stage = .called) : (call.prepare sha256 configuration drawn).answer = none := by
  obtain ⟨failure, same⟩ | ⟨submission, record, same, -⟩ := call.prepare_cases sha256 configuration drawn
  · rw [same, AcceptCall.answer, show (call.finish _).stage = .called from stage]
  · rw [same]
    rfl

end Call

/-! ## The keys and their answers -/

/-- The entry a reply makes in the answers. -/
def answered (key : IngestionKey) (record : IntakeRecord) : Reply → Option (IngestionKey × IntakeRecord × IntakeDecision)
  | .ok (.decided decision) => some (key, record, decision)
  | .ok _ | .error _ => none

theorem AcceptCall.settle_answer {call : AcceptCall} {submission : EventSubmission} {record : IntakeRecord}
    (stage : call.stage = .prepared submission record) (reply : Reply) :
    ((call.settle submission record reply).answer.map fun p => ((call.settle submission record reply).ingestionKey, p)) =
      answered call.ingestionKey record reply := by
  have none : ∀ outcome, (call.finish outcome).answer = none := by
    intro outcome
    rw [AcceptCall.answer, show (call.finish outcome).stage = _ from stage]
  unfold AcceptCall.settle
  split
  · rfl
  · next value other =>
    rw [none, Option.map_none]
    cases value with
    | decided decision => exact absurd rfl (other decision)
    | done | found | claimed | renewed => rfl
  · rw [none, Option.map_none]
    rfl

namespace IntakeState

variable {s : IntakeState M}

/-- What call `n` was answered, with its key. -/
def answers (s : IntakeState M) (n : ℕ) : Option (IngestionKey × IntakeRecord × IntakeDecision) :=
  (s.calls n).bind fun call => call.answer.map fun p => (call.ingestionKey, p)

theorem answers_of {n : ℕ} {call : AcceptCall} (here : s.calls n = some call) :
    s.answers n = call.answer.map fun p => (call.ingestionKey, p) := by
  rw [answers, here, Option.bind_some]

/-- A step of one call leaves the answers of the others. -/
theorem answers_set (n : ℕ) (call : AcceptCall) : (s.set n call).answers =
    Function.update s.answers n (call.answer.map fun p => (call.ingestionKey, p)) := by
  funext i
  rcases eq_or_ne i n with rfl | other
  · rw [Function.update_self, answers, set_calls, Function.update_self, Option.bind_some]
  · rw [Function.update_of_ne other, answers, set_calls, Function.update_of_ne other, answers]

/-- A step that asks nothing leaves all answers. -/
theorem answers_set_same {n : ℕ} {call : AcceptCall}
    (same : s.answers n = call.answer.map fun p => (call.ingestionKey, p)) : (s.set n call).answers = s.answers := by
  rw [answers_set, ← same]
  exact Function.update_eq_self n s.answers

end IntakeState

abbrev Answers := ℕ → Option (IngestionKey × IntakeRecord × IntakeDecision)

/-- Nothing was decided under the key. -/
structure Untouched (M : IntakeMachine) (store : M.Store) (answers : Answers) (key : IngestionKey) : Prop where
  unknown : M.Unknown store key
  unanswered : ∀ n record decision, answers n ≠ some (key, record, decision)

/-- Call `n` was accepted under the key, and every other answer repeats that. -/
structure Owned (M : IntakeMachine) (store : M.Store) (answers : Answers) (key : IngestionKey) (n : ℕ)
    (record : IntakeRecord) (claim : DeliveryClaim) (fields : IntakeDecisionFields) : Prop where
  accepted : answers n = some (key, record, .accepted record.decision claim)
  kept : M.Kept store key record.requestFingerprint fields
  reports : fields.Reports record.decision
  others : ∀ m record' decision, answers m = some (key, record', decision) → m ≠ n →
    record'.requestFingerprint = record.requestFingerprint ∧
      ∃ fields', decision = .replay fields' ∧ fields'.Reports record.decision

def KeyState (M : IntakeMachine) (store : M.Store) (answers : Answers) (key : IngestionKey) : Prop :=
  Untouched M store answers key ∨ ∃ n record claim fields, Owned M store answers key n record claim fields

section KeyState

variable {store : M.Store} {answers : Answers} {key : IngestionKey}

/-- A repository call keeps every key's state. -/
theorem KeyState.other (lawful : M.Lawful) (sound : M.Sound store) (nowMillis : ℕ) {c : M.Call}
    (unsaved : M.Unsaved c) (repository : (M.call c).ingestionKey = none) (state : KeyState M store answers key) :
    KeyState M (M.exec nowMillis store c).2 answers key := by
  obtain untouched | ⟨n, record, claim, fields, owned⟩ := state
  · left
    refine ⟨lawful.ignores nowMillis c sound ?_ untouched.unknown, untouched.unanswered⟩
    rw [repository]
    exact nofun
  · right
    exact ⟨n, record, claim, _, owned.accepted, lawful.keeps nowMillis c sound unsaved owned.kept,
      lawful.after_reports owned.reports _, owned.others⟩

theorem answered_eq_some {key' : IngestionKey} {record record' : IntakeRecord} {decision : IntakeDecision}
    {reply : Reply} (same : answered key record reply = some (key', record', decision)) :
    key = key' ∧ record = record' ∧ reply = .ok (.decided decision) := by
  unfold answered at same
  split at same
  · cases same
    exact ⟨rfl, rfl, rfl⟩
  · cases same
  · cases same

variable {n : ℕ} {record : IntakeRecord} {c : M.Call}

/-- A transaction keeps the state of the other keys. -/
theorem KeyState.transact_other (lawful : M.Lawful) (sound : M.Sound store) (nowMillis : ℕ)
    (accept : M.call c = .accept record) (fresh : answers n = none) (other : record.ingestionKey ≠ key)
    (state : KeyState M store answers key) :
    KeyState M (M.exec nowMillis store c).2
      (Function.update answers n (answered record.ingestionKey record (M.exec nowMillis store c).1)) key := by
  have elsewhere : ∀ m record' decision, Function.update answers n
      (answered record.ingestionKey record (M.exec nowMillis store c).1) m = some (key, record', decision) →
      answers m = some (key, record', decision) := by
    intro m record' decision same
    rcases eq_or_ne m n with rfl | away
    · rw [Function.update_self] at same
      exact absurd (answered_eq_some same).1 other
    · rwa [Function.update_of_ne away] at same
  obtain untouched | ⟨m, record', claim, fields, owned⟩ := state
  · left
    refine ⟨lawful.ignores nowMillis c sound ?_ untouched.unknown, ?_⟩
    · rw [accept]
      intro same
      exact other (Option.some.inj same)
    · intro m record' decision same
      exact untouched.unanswered m record' decision (elsewhere m record' decision same)
  · right
    have away : m ≠ n := by
      rintro rfl
      rw [owned.accepted] at fresh
      cases fresh
    refine ⟨m, record', claim, _, ?_, lawful.keeps nowMillis c sound ?_ owned.kept,
      lawful.after_reports owned.reports _, ?_⟩
    · rw [Function.update_of_ne away]
      exact owned.accepted
    · intro delivery saves
      rw [accept] at saves
      cases saves
    · intro m' record'' decision same
      exact owned.others m' record'' decision (elsewhere m' record'' decision same)

/-- The first transaction under a key is accepted or leaves no trace. -/
theorem Untouched.transact (lawful : M.Lawful) (sound : M.Sound store) (nowMillis : ℕ)
    (accept : M.call c = .accept record) (fresh : answers n = none)
    (untouched : Untouched M store answers record.ingestionKey) :
    KeyState M (M.exec nowMillis store c).2
      (Function.update answers n (answered record.ingestionKey record (M.exec nowMillis store c).1))
      record.ingestionKey := by
  obtain ⟨failure, fails, -⟩ | ⟨claim, store', accepts, kept⟩ :=
    lawful.accepts nowMillis sound accept untouched.unknown
  · left
    rw [fails]
    have same : Function.update answers n none = answers := by
      rw [← fresh]
      exact Function.update_eq_self n answers
    rw [show answered record.ingestionKey record _ = none from rfl, same]
    exact untouched
  · right
    rw [accepts]
    refine ⟨n, record, claim, record.decision, Function.update_self .., kept, ⟨rfl, rfl, rfl⟩, ?_⟩
    intro m record' decision same away
    rw [Function.update_of_ne away] at same
    exact absurd same (untouched.unanswered m record' decision)

/-- A later transaction under a key replays or conflicts, and writes nothing. -/
theorem Owned.transact (lawful : M.Lawful) (sound : M.Sound store) (nowMillis : ℕ)
    (accept : M.call c = .accept record) (fresh : answers n = none) {m : ℕ} {original : IntakeRecord}
    {claim : DeliveryClaim} {fields : IntakeDecisionFields}
    (owned : Owned M store answers record.ingestionKey m original claim fields) :
    Owned M (M.exec nowMillis store c).2
      (Function.update answers n (answered record.ingestionKey record (M.exec nowMillis store c).1))
      record.ingestionKey m original claim fields := by
  have away : m ≠ n := by
    rintro rfl
    rw [owned.accepted] at fresh
    cases fresh
  rw [lawful.replays nowMillis sound accept owned.kept]
  refine ⟨?_, owned.kept, owned.reports, ?_⟩
  · rw [Function.update_of_ne away]
    exact owned.accepted
  · intro m' record' decision same other
    rcases eq_or_ne m' n with rfl | elsewhere
    · rw [Function.update_self] at same
      obtain ⟨-, rfl, replies⟩ := answered_eq_some same
      split at replies
      · next equal =>
        cases replies
        exact ⟨equal.symm, fields, rfl, owned.reports⟩
      · cases replies
    · rw [Function.update_of_ne elsewhere] at same
      exact owned.others m' record' decision same other

theorem KeyState.transact (lawful : M.Lawful) (sound : M.Sound store) (nowMillis : ℕ)
    (accept : M.call c = .accept record) (fresh : answers n = none) (state : KeyState M store answers key) :
    KeyState M (M.exec nowMillis store c).2
      (Function.update answers n (answered record.ingestionKey record (M.exec nowMillis store c).1)) key := by
  by_cases same : record.ingestionKey = key
  · subst same
    obtain untouched | ⟨m, original, claim, fields, owned⟩ := state
    · exact untouched.transact lawful sound nowMillis accept fresh
    · exact .inr ⟨m, original, claim, fields, owned.transact lawful sound nowMillis accept fresh⟩
  · exact state.transact_other lawful sound nowMillis accept fresh same

/-- At most one call is accepted under a key. -/
theorem KeyState.once (state : KeyState M store answers key) {m : ℕ} {record' : IntakeRecord}
    {fields fields' : IntakeDecisionFields} {claim claim' : DeliveryClaim}
    (first : answers n = some (key, record, .accepted fields claim))
    (second : answers m = some (key, record', .accepted fields' claim')) : n = m := by
  obtain untouched | ⟨n₀, original, claim₀, fields₀, owned⟩ := state
  · exact absurd first (untouched.unanswered n record _)
  · have same : ∀ i record claim fields, answers i = some (key, record, .accepted fields claim) → i = n₀ := by
      intro i record claim fields accepted
      by_contra other
      obtain ⟨-, fields', replay, -⟩ := owned.others i record _ accepted other
      cases replay
    rw [same n record claim fields first, same m record' claim' fields' second]

/-- The decision of an acceptance is the one its request asks for. -/
theorem KeyState.decision (state : KeyState M store answers key) {fields : IntakeDecisionFields}
    {claim : DeliveryClaim} (accepted : answers n = some (key, record, .accepted fields claim)) :
    fields = record.decision := by
  obtain untouched | ⟨n₀, original, claim₀, fields₀, owned⟩ := state
  · exact absurd accepted (untouched.unanswered n record _)
  · rcases eq_or_ne n n₀ with rfl | other
    · rw [owned.accepted] at accepted
      cases accepted
      rfl
    · obtain ⟨-, fields', replay, -⟩ := owned.others n record _ accepted other
      cases replay

/-- The call accepted under a key owns it. -/
theorem KeyState.owned (state : KeyState M store answers key) {claim : DeliveryClaim}
    (accepted : answers n = some (key, record, .accepted record.decision claim)) :
    ∃ fields, Owned M store answers key n record claim fields := by
  obtain untouched | ⟨n₀, original, claim₀, fields, owned⟩ := state
  · exact absurd accepted (untouched.unanswered n record _)
  · obtain rfl := KeyState.once (.inr ⟨n₀, original, claim₀, fields, owned⟩) accepted owned.accepted
    have same := accepted.symm.trans owned.accepted
    simp only [Option.some.injEq, Prod.mk.injEq, IntakeDecision.accepted.injEq, true_and] at same
    obtain ⟨rfl, -, rfl⟩ := same
    exact ⟨fields, owned⟩

end KeyState

/-! ## The invariant -/

/-- The claims handed over are those of acceptances, one for each key. -/
structure IntakeState.Handed (s : IntakeState M) : Prop where
  nodup : (s.handed.map Prod.fst).Nodup
  each : ∀ p ∈ s.handed, ∃ n call submission record fields claim, s.calls n = some call ∧
    call.ingestionKey = p.1 ∧ call.stage = .decided submission record (.accepted fields claim) true ∧
    p.2 = enqueued fields claim

structure IntakeInvariant (sha256 : Digest) (s : IntakeState M) : Prop where
  sound : M.Sound s.store
  staged : ∀ n call, s.calls n = some call → call.Staged sha256
  keys : ∀ key, KeyState M s.store s.answers key
  handed : s.Handed

/-- `call'` may stand where a call stood: a call that handed its claim over is still at that stage. -/
def IntakeState.Follows (s : IntakeState M) (n : ℕ) (call' : AcceptCall) : Prop :=
  ∀ call, s.calls n = some call → call'.ingestionKey = call.ingestionKey ∧
    ∀ submission record decision, call.stage = .decided submission record decision true → call'.stage = call.stage

section Invariant

variable {s s' : IntakeState M} {n : ℕ} {call call' : AcceptCall}

theorem IntakeState.Handed.set (handed : s.Handed) (follows : s.Follows n call') : (s.set n call').Handed where
  nodup := handed.nodup
  each := by
    intro p member
    obtain ⟨m, call, submission, record, fields, claim, here, key, stage, same⟩ := handed.each p member
    rcases eq_or_ne m n with rfl | other
    · obtain ⟨key', stages⟩ := follows call here
      refine ⟨m, call', submission, record, fields, claim, ?_, key'.trans key, ?_, same⟩
      · rw [set_calls, Function.update_self]
      · rw [stages submission record _ stage, stage]
    · refine ⟨m, call, submission, record, fields, claim, ?_, key, stage, same⟩
      rw [set_calls, Function.update_of_ne other]
      exact here

/-- Setting one call keeps what is known of the others. -/
theorem staged_set (staged : ∀ n call, s.calls n = some call → call.Staged sha256) (staged' : call'.Staged sha256)
    (m : ℕ) (call : AcceptCall) (here : (s.set n call').calls m = some call) : call.Staged sha256 := by
  rw [IntakeState.set_calls] at here
  rcases eq_or_ne m n with rfl | other
  · rw [Function.update_self] at here
    cases here
    exact staged'
  · rw [Function.update_of_ne other] at here
    exact staged m call here

/-- A step of one call that asks nothing of the store. -/
theorem IntakeInvariant.set (inv : IntakeInvariant sha256 s) (staged : call'.Staged sha256)
    (answer : s.answers n = call'.answer.map fun p => (call'.ingestionKey, p)) (follows : s.Follows n call') :
    IntakeInvariant sha256 (s.set n call') where
  sound := inv.sound
  staged := staged_set inv.staged staged
  keys := by
    intro key
    rw [IntakeState.answers_set_same answer]
    exact inv.keys key
  handed := inv.handed.set follows

theorem IntakeInvariant.finish (inv : IntakeInvariant sha256 s) (running : s.Running n call) {outcome : IntakeOutcome}
    (staged : (call.finish outcome).Staged sha256) : IntakeInvariant sha256 (s.set n (call.finish outcome)) := by
  have answer : s.answers n = (call.finish outcome).answer.map fun p => (call.ingestionKey, p) :=
    IntakeState.answers_of running.here
  refine inv.set staged answer ?_
  intro call' here
  rw [running.here] at here
  cases here
  exact ⟨rfl, fun _ _ _ _ => rfl⟩

theorem IntakeInvariant.init (lawful : M.Lawful) : IntakeInvariant sha256 (intakeSystem M sha256).init where
  sound := lawful.store.sound_empty
  staged := by
    intro n call here
    cases here
  keys := by
    intro key
    left
    exact ⟨lawful.unknown_empty key, by exact nofun⟩
  handed := ⟨List.nodup_nil, by exact nofun⟩

theorem IntakeInvariant.enqueue (inv : IntakeInvariant sha256 s) (running : s.Running n call)
    {submission : EventSubmission} {record : IntakeRecord} {fields : IntakeDecisionFields} {claim : DeliveryClaim}
    (stage : call.stage = .decided submission record (.accepted fields claim) false) :
    IntakeInvariant sha256
      { s.set n { call with stage := .decided submission record (.accepted fields claim) true } with
        handed := s.handed ++ [(call.ingestionKey, enqueued fields claim)] } := by
  have answer : s.answers n = some (call.ingestionKey, record, .accepted fields claim) := by
    rw [IntakeState.answers_of running.here, AcceptCall.answer, stage]
    rfl
  have staged : AcceptCall.Staged sha256
      { call with stage := .decided submission record (.accepted fields claim) true } := by
    have before := inv.staged n call running.here
    refine ⟨?_, ?_⟩
    · intro submission' record' same
      refine before.asked submission' record' ?_
      unfold AcceptCall.asked
      rw [stage]
      exact same
    · intro a returned
      rw [show (_ : Option IntakeOutcome) = none from running.unfinished] at returned
      cases returned
  have moved := inv.set staged answer (by
    intro call' here
    rw [running.here] at here
    cases here
    refine ⟨rfl, ?_⟩
    intro submission' record' decision handed
    rw [stage] at handed
    cases handed)
  refine ⟨moved.sound, moved.staged, moved.keys, ?_, ?_⟩
  · rw [List.map_append, List.map_singleton, List.nodup_append]
    refine ⟨inv.handed.nodup, List.nodup_singleton _, ?_⟩
    intro key member key' member'
    rw [List.mem_singleton] at member'
    subst member'
    rintro rfl
    -- a claim handed over under this key came from this very call, which had not handed its own
    obtain ⟨p, handed, same⟩ := List.mem_map.1 member
    obtain ⟨m, call', submission', record', fields', claim', here, key, stage', -⟩ := inv.handed.each p handed
    have answer' : s.answers m = some (call.ingestionKey, record', .accepted fields' claim') := by
      rw [IntakeState.answers_of here, AcceptCall.answer, stage', key, same]
      rfl
    obtain rfl := (inv.keys call.ingestionKey).once answer answer'
    rw [running.here] at here
    cases here
    rw [stage] at stage'
    cases stage'
  · intro p member
    rcases List.mem_append.1 member with early | last
    · exact moved.handed.each p early
    · rw [List.mem_singleton.1 last]
      exact ⟨n, _, submission, record, fields, claim, Function.update_self .., rfl, rfl, rfl⟩

theorem IntakeInvariant.transact (lawful : M.Lawful) (inv : IntakeInvariant sha256 s) (running : s.Running n call)
    {submission : EventSubmission} {record : IntakeRecord} (stage : call.stage = .prepared submission record)
    (nowMillis : ℕ) {c : M.Call} (accept : M.call c = .accept record) :
    IntakeInvariant sha256
      { s.set n (call.settle submission record (M.exec nowMillis s.store c).1) with
        store := (M.exec nowMillis s.store c).2 } := by
  have before := inv.staged n call running.here
  have unanswered : call.answer = none := by
    rw [AcceptCall.answer, stage]
  have fresh : s.answers n = none := by
    rw [IntakeState.answers_of running.here, unanswered, Option.map_none]
  have key : record.ingestionKey = call.ingestionKey := by
    refine (before.asked submission record ?_).2.1
    rw [AcceptCall.asked, stage]
  refine ⟨lawful.store.sound nowMillis c inv.sound, ?_, ?_, ?_⟩
  · exact staged_set inv.staged (AcceptCall.settle_staged running.unfinished before stage _)
  · intro key'
    have after := (inv.keys key').transact lawful inv.sound nowMillis accept fresh
    rw [key] at after
    show KeyState M _ (s.set n (call.settle submission record (M.exec nowMillis s.store c).1)).answers key'
    rw [IntakeState.answers_set, AcceptCall.settle_answer stage]
    exact after
  · have moved : (s.set n (call.settle submission record (M.exec nowMillis s.store c).1)).Handed := by
      apply inv.handed.set
      intro call' here
      rw [running.here] at here
      cases here
      refine ⟨AcceptCall.settle_key _, ?_⟩
      intro submission' record' decision handed
      rw [stage] at handed
      cases handed
    exact ⟨moved.nodup, moved.each⟩

/-- Every step keeps the invariant. -/
theorem IntakeInvariant.step (lawful : M.Lawful) (inv : IntakeInvariant sha256 s) {l : IntakeLabel}
    (step : IntakeStep M sha256 s l s') : IntakeInvariant sha256 s' := by
  cases step with
  | @call n ingestionKey candidate new =>
    refine inv.set ⟨?_, ?_⟩ ?_ ?_
    · exact nofun
    · exact nofun
    · rw [IntakeState.answers, new]
      rfl
    · intro call here
      rw [new] at here
      cases here
  | @prepare n call configuration drawn running stage =>
    refine inv.set (AcceptCall.prepare_staged configuration drawn running.unfinished
      (inv.staged n call running.here)) ?_ ?_
    · rw [AcceptCall.prepare_unanswered configuration drawn stage, IntakeState.answers_of running.here,
        AcceptCall.answer, stage]
      rfl
    · intro call' here
      rw [running.here] at here
      cases here
      refine ⟨AcceptCall.prepare_key configuration drawn, ?_⟩
      intro submission record decision handed
      rw [stage] at handed
      cases handed
  | transact nowMillis c running stage accept => exact inv.transact lawful running stage nowMillis accept
  | @abort n call submission record cause running stage =>
    exact inv.finish running ((inv.staged n call running.here).finish (by exact nofun))
  | enqueue running stage => exact inv.enqueue running stage
  | @unreleased n call submission record decision failure running stage =>
    exact inv.finish running ((inv.staged n call running.here).finish (by exact nofun))
  | @respond n call submission record decision running stage =>
    refine inv.finish running ⟨(inv.staged n call running.here).asked, ?_⟩
    intro a same
    cases same
    exact ⟨submission, record, decision, _, stage, rfl⟩
  | @interrupt n call running =>
    exact inv.finish running ((inv.staged n call running.here).finish (by exact nofun))
  | other nowMillis c unsaved repository =>
    refine ⟨lawful.store.sound nowMillis c inv.sound, inv.staged, ?_, ⟨inv.handed.nodup, inv.handed.each⟩⟩
    intro key
    exact (inv.keys key).other lawful inv.sound nowMillis unsaved repository

theorem IntakeInvariant.reachable (lawful : M.Lawful) (reachable : (intakeSystem M sha256).Reachable s) :
    IntakeInvariant sha256 s :=
  reachable.invariant (IntakeInvariant sha256) (.init lawful) fun _ _ _ inv step => inv.step lawful step

end Invariant

end Relay
