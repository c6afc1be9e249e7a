import Relay.Operations.Requests

/-!
# What the answer to an operator says

In every run each answer of a request is explained by the log: a status was held after
the one action of the request, a refusal names a reason that held while the request was
underway and changed nothing, and only a request that lost a statement fails otherwise.
-/

namespace Relay

/-! ## Entries that follow one another -/

/-- What later calls keep of an entry. -/
structure Entry.Follows (e e' : Entry) : Prop where
  identical : e.Identical e'
  attempts : e.attempts <+: e'.attempts
  final : e.delivery.state.isFinal = true → e'.delivery.state = e.delivery.state

theorem Entry.Follows.refl (e : Entry) : e.Follows e := ⟨⟨rfl, rfl, rfl⟩, List.prefix_rfl, fun _ => rfl⟩

theorem Entry.Follows.trans {e e' e'' : Entry} (first : e.Follows e') (next : e'.Follows e'') : e.Follows e'' where
  identical := first.identical.trans next.identical
  attempts := first.attempts.trans next.attempts
  final := by
    intro final
    have same := first.final final
    rw [← same]
    exact next.final (by rw [same]; exact final)

theorem Entry.Advances.follows {id : DeliveryId} {call : StoreCall} {answer : Answer} {e e' : Entry}
    (advances : e.Advances id call answer e') : e.Follows e' :=
  ⟨advances.identical, advances.attempts, advances.state.final⟩

theorem Recovery.Ends.follows {action : Recovery} {nowMillis : ℕ} {e e' : Entry} (ends : action.Ends nowMillis e e') :
    e.Follows e' where
  identical := ends.identical
  attempts := by rw [ends.attempts]
  final := by
    intro final
    obtain ⟨reason, dead⟩ := Entry.isDeadLettered_iff.1 ends.dead
    rw [dead] at final
    cases final

/-- No delivery goes, and those there are follow. -/
def Moment.Follows (m : Moment) : Prop := ∀ id e, m.before id = some e → ∃ e', m.after id = some e' ∧ e.Follows e'

theorem Moment.follows_same {L : Ledger} {ending : Option Ending} : Moment.Follows ⟨L, L, ending⟩ :=
  fun _ e held => ⟨e, held, .refl e⟩

/-- The action was carried out on its dead letter, and on nothing else. -/
inductive Recovery.Carried (action : Recovery) (before after : Ledger) : Prop where
  | intro (nowMillis : ℕ) (e e' : Entry) (there : before action.id = some e)
      (served : action.serve nowMillis (some e) = (.ok .done, some e')) (ends : action.Ends nowMillis e e')
      (left : after = Function.update before action.id (some e'))

theorem Recovery.Carried.follows {action : Recovery} {before after : Ledger} {ending : Option Ending}
    (carried : action.Carried before after) : Moment.Follows ⟨before, after, ending⟩ := by
  obtain ⟨nowMillis, e, e', there, -, ends, rfl⟩ := carried
  intro id e₀ held₀
  by_cases here : id = action.id
  · subst here
    rw [show before action.id = some e₀ from held₀, Option.some.injEq] at there
    subst there
    exact ⟨e', Function.update_self .., ends.follows⟩
  · exact ⟨e₀, (Function.update_of_ne here ..).trans held₀, .refl e₀⟩

/-! ## The log -/

section Log

/-- What the store held after the first `k` moments. -/
def held (log : List OperationMoment) : ℕ → Ledger
  | 0 => fun _ => none
  | k + 1 => (log[k]?.map (·.after)).getD fun _ => none

variable {log more : List OperationMoment} {i j k l : ℕ} {action : Recovery}

theorem held_append (within : k ≤ log.length) : held (log ++ more) k = held log k := by
  cases k with
  | zero => rfl
  | succ k => rw [held, held, List.getElem?_append_left within]

theorem held_snoc (m : OperationMoment) : held (log ++ [m]) (log ++ [m]).length = m.after := by
  simp [held]

/-- The log is a history: each moment begins where the one before it ended. -/
structure Chained (log : List OperationMoment) : Prop where
  before : ∀ j m, log[j]? = some m → m.before = held log j
  follows : ∀ m ∈ log, m.toMoment.Follows

theorem Chained.snoc {m : OperationMoment} (chained : Chained log) (now : m.before = held log log.length)
    (follows : m.toMoment.Follows) : Chained (log ++ [m]) where
  before := by
    intro j m' there
    obtain early | rfl | late := lt_trichotomy j log.length
    · rw [List.getElem?_append_left early] at there
      rw [held_append early.le]
      exact chained.before j m' there
    · rw [List.getElem?_concat_length, Option.some.injEq] at there
      rw [held_append le_rfl, ← there]
      exact now
    · rw [List.getElem?_eq_none (by simp; omega)] at there
      cases there
  follows := by
    intro m' member
    obtain earlier | last := List.mem_append.1 member
    · exact chained.follows m' earlier
    · rw [List.mem_singleton.1 last]
      exact follows

/-- **Along the log a delivery follows itself**, by induction on how far. -/
theorem Chained.follows_held (chained : Chained log) {id : DeliveryId} {e : Entry} (there : held log k id = some e)
    (later : k ≤ l) (within : l ≤ log.length) : ∃ e', held log l id = some e' ∧ e.Follows e' := by
  induction l with
  | zero =>
    obtain rfl : k = 0 := by omega
    exact ⟨e, there, .refl e⟩
  | succ l ih =>
    obtain rfl | earlier := Nat.eq_or_lt_of_le later
    · exact ⟨e, there, .refl e⟩
    · obtain ⟨e', there', follows⟩ := ih (by omega) (by omega)
      have moment := List.getElem?_eq_getElem within
      rw [← chained.before l _ moment] at there'
      obtain ⟨e'', after, follows'⟩ := chained.follows _ (List.getElem_mem within) id e' there'
      refine ⟨e'', ?_, follows.trans follows'⟩
      rw [held, moment]
      exact after

/-! ## What a request did -/

/-- The request took no step that the log has. -/
def Absent (log : List OperationMoment) (i : ℕ) : Prop := ∀ m ∈ log, m.request ≠ some i

/-- The request changed nothing. -/
def Quiet (log : List OperationMoment) (i : ℕ) : Prop := ∀ m ∈ log, m.request = some i → m.after = m.before

/-- The action ended its dead letter at the moment `j`, and the request took no other step that the log has. -/
structure Acted (log : List OperationMoment) (i : ℕ) (action : Recovery) (j : ℕ) : Prop where
  ended : ∃ m, log[j]? = some m ∧ m.request = some i ∧ action.Carried m.before m.after
  only : ∀ j' m, log[j']? = some m → m.request = some i → j' = j

/-- The request changed nothing, or its action was carried out once. -/
def AtMostOnce (log : List OperationMoment) (i : ℕ) (operation : Operation) : Prop :=
  Quiet log i ∨ ∃ action j, operation = .act action ∧ Acted log i action j

/-- All a request does before its last read was done within the first `k` moments. -/
def Done (log : List OperationMoment) (i : ℕ) (operation : Operation) (arrived k : ℕ) : Prop :=
  match operation with
  | .inspect _ => Absent log i ∧ arrived ≤ k
  | .act action => ∃ j, arrived ≤ j ∧ j < k ∧ Acted log i action j

theorem Absent.quiet (absent : Absent log i) : Quiet log i := fun m member own => absurd own (absent m member)

theorem Acted.lt (acted : Acted log i action j) : j < log.length := by
  obtain ⟨m, moment, -⟩ := acted.ended
  exact (List.getElem?_eq_some_iff.1 moment).1

theorem Done.later {operation : Operation} {arrived : ℕ} (done : Done log i operation arrived k) (later : k ≤ l) :
    Done log i operation arrived l := by
  cases operation with
  | inspect id => exact ⟨done.1, done.2.trans later⟩
  | act action =>
    obtain ⟨j, since, before, acted⟩ := done
    exact ⟨j, since, before.trans_le later, acted⟩

theorem Done.atMostOnce {operation : Operation} {arrived : ℕ} (done : Done log i operation arrived k) :
    AtMostOnce log i operation := by
  cases operation with
  | inspect id => exact .inl done.1.quiet
  | act action =>
    obtain ⟨j, -, -, acted⟩ := done
    exact .inr ⟨action, j, rfl, acted⟩

section Append

variable (others : Absent more i)
include others

theorem Absent.append (absent : Absent log i) : Absent (log ++ more) i := by
  intro m member
  obtain earlier | later := List.mem_append.1 member
  · exact absent m earlier
  · exact others m later

theorem Quiet.append (quiet : Quiet log i) : Quiet (log ++ more) i := by
  intro m member own
  obtain earlier | later := List.mem_append.1 member
  · exact quiet m earlier own
  · exact absurd own (others m later)

theorem Acted.append (acted : Acted log i action j) : Acted (log ++ more) i action j where
  ended := by
    obtain ⟨m, moment, rest⟩ := acted.ended
    exact ⟨m, by rw [List.getElem?_append_left acted.lt, moment], rest⟩
  only := by
    intro j' m moment own
    by_cases early : j' < log.length
    · rw [List.getElem?_append_left early] at moment
      exact acted.only j' m moment own
    · rw [List.getElem?_append_right (by omega)] at moment
      exact absurd own (others m (List.mem_of_getElem? moment))

theorem AtMostOnce.append {operation : Operation} (once : AtMostOnce log i operation) : AtMostOnce (log ++ more) i operation := by
  obtain quiet | ⟨action, j, acts, acted⟩ := once
  · exact .inl (quiet.append others)
  · exact .inr ⟨action, j, acts, acted.append others⟩

theorem Done.append {operation : Operation} {arrived : ℕ} (done : Done log i operation arrived k) :
    Done (log ++ more) i operation arrived k := by
  cases operation with
  | inspect id => exact ⟨others.append done.1, done.2⟩
  | act action =>
    obtain ⟨j, since, before, acted⟩ := done
    exact ⟨j, since, before, acted.append others⟩

end Append

end Log

/-! ## What an exit says -/

/-- The log explains the exit of a request. -/
inductive Explains {Row : Type} (log : List OperationMoment) (i : ℕ) (request : OperationRequest Row) : OperationExit → Prop where
  /-- The status was held after `k` moments, when all was done. -/
  | status (k : ℕ) (done : Done log i request.operation request.arrived k) (within : k ≤ log.length) (shown : Entry)
      (there : held log k request.operation.id = some shown) : Explains log i request (.answered (some shown.status))
  | missing (id : DeliveryId) (k : ℕ) (inspects : request.operation = .inspect id) (quiet : Quiet log i)
      (since : request.arrived ≤ k) (within : k ≤ log.length) (absent : held log k id = none) :
      Explains log i request (.answered none)
  | refused (action : Recovery) (failure : Failure) (k : ℕ) (acts : request.operation = .act action) (quiet : Quiet log i)
      (since : request.arrived ≤ k) (within : k ≤ log.length)
      (refuses : action.Refuses (held log k action.id) failure.tag) : Explains log i request (.failed failure)
  | lost (operation : RepositoryOperation) (cause : Cause) (disturbed : request.disturbed = true)
      (once : AtMostOnce log i request.operation) : Explains log i request (.failed (.deliveryRepository operation cause))
  | interrupted (once : AtMostOnce log i request.operation) : Explains log i request .interrupted

theorem Explains.append {Row : Type} {log more : List OperationMoment} {i : ℕ} {request : OperationRequest Row}
    {exit : OperationExit} (explains : Explains log i request exit) (others : Absent more i) :
    Explains (log ++ more) i request exit := by
  have longer : log.length ≤ (log ++ more).length := by simp
  cases explains with
  | status k done within shown there =>
    refine .status k (done.append others) (within.trans longer) shown ?_
    rw [held_append within]
    exact there
  | missing id k inspects quiet since within absent =>
    exact .missing id k inspects (quiet.append others) since (within.trans longer) (by rw [held_append within]; exact absent)
  | refused action failure k acts quiet since within refuses =>
    exact .refused action failure k acts (quiet.append others) since (within.trans longer)
      (by rw [held_append within]; exact refuses)
  | lost operation cause disturbed once => exact .lost operation cause disturbed (once.append others)
  | interrupted once => exact .interrupted (once.append others)

end Relay
