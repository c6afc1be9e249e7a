import Relay.Adapters.Limits
import Relay.Adapters.PostgresDecisions
import Relay.Store.Fencing

/-!
# Where the adapters agree

Two entries are the same when they differ at most in the order in which their
attempts are listed. Every operation on one delivery answers alike on entries
that are the same and leaves entries that are the same, so a memory store and an
SQL store that hold the same entries cannot be told apart by operator actions and
by fenced calls but two. The record of an attempt tells them apart: SQL refuses
it, and what its statement says about the rows would not have. So does a renewal
past the safe integers: the maps throw, and the row is written and not read back.
-/

namespace Relay

structure Entry.Same (e e' : Entry) : Prop where
  delivery : e.delivery = e'.delivery
  generation : e.generation = e'.generation
  claim : e.claim = e'.claim
  route : e.route = e'.route
  attempts : e.attempts.Perm e'.attempts
  nextEligibleAt : e.nextEligibleAt = e'.nextEligibleAt

namespace Entry

variable {e e' : Entry}

theorem Same.refl (e : Entry) : e.Same e := ⟨rfl, rfl, rfl, rfl, .refl _, rfl⟩

theorem Same.holds (same : e.Same e') (ownerId : WorkerId) (generation : ClaimGeneration) (live : Option ℕ) :
    e.holds ownerId generation live = e'.holds ownerId generation live := by
  simp only [Entry.holds, same.delivery, same.claim]

/-- Scanning for an ordinal does not depend on the order of the attempts. -/
theorem Same.hasOrdinal (same : e.Same e') (ordinal : ℕ+) : e.hasOrdinal ordinal = e'.hasOrdinal ordinal := by
  rw [Bool.eq_iff_iff, Entry.hasOrdinal, Entry.hasOrdinal, List.any_eq_true, List.any_eq_true]
  constructor
  · rintro ⟨a, member, equal⟩
    exact ⟨a, same.attempts.mem_iff.1 member, equal⟩
  · rintro ⟨a, member, equal⟩
    exact ⟨a, same.attempts.mem_iff.2 member, equal⟩

theorem Same.withState (same : e.Same e') (state : DeliveryState) : (e.withState state).Same (e'.withState state) :=
  ⟨by simp only [Entry.withState, same.delivery], same.generation, rfl, same.route, same.attempts,
    same.nextEligibleAt⟩

theorem Same.renew (same : e.Same e') (claim : DeliveryClaim) : (e.renew claim).Same (e'.renew claim) :=
  ⟨same.delivery, same.generation, rfl, same.route, same.attempts, same.nextEligibleAt⟩

theorem Same.schedule (same : e.Same e') (attempt : DeliveryAttemptRecord) :
    (e.schedule attempt).Same (e'.schedule attempt) :=
  ⟨same.delivery, same.generation, same.claim, same.route, same.attempts.append_right _, rfl⟩

theorem Same.settle (same : e.Same e') (attempt : DeliveryAttemptRecord) (state : DeliveryState) :
    (e.settle attempt state).Same (e'.settle attempt state) :=
  ⟨(same.withState state).delivery, same.generation, rfl, same.route, same.attempts.append_right _,
    same.nextEligibleAt⟩

theorem Same.release (same : e.Same e') : e.release.Same e'.release :=
  ⟨same.delivery, same.generation, rfl, same.route, same.attempts, same.nextEligibleAt⟩

theorem Same.retry (same : e.Same e') (nowMillis : ℕ) : (e.retry nowMillis).Same (e'.retry nowMillis) :=
  ⟨(same.withState .pending).delivery, same.generation, rfl, same.route, same.attempts, rfl⟩

theorem Same.repair (same : e.Same e') (nowMillis : ℕ) (route : DeliveryRouteSnapshot) :
    (e.repair nowMillis route).Same (e'.repair nowMillis route) :=
  ⟨(same.retry nowMillis).delivery, same.generation, rfl, rfl, same.attempts, rfl⟩

/-! ## Operations respect sameness -/

/-- Equal answers, and the same entry afterwards. -/
structure SameResult (r r' : Answer × Option Entry) : Prop where
  answer : r.1 = r'.1
  entry : Option.Rel Same r.2 r'.2

theorem SameResult.found {answer : Answer} (same : e.Same e') : SameResult (answer, some e) (answer, some e') :=
  ⟨rfl, .some same⟩

/-- An operation on one delivery that cannot tell entries that are the same apart. -/
def Respects (op : Option Entry → Answer × Option Entry) : Prop :=
  ∀ x y, Option.Rel Same x y → SameResult (op x) (op y)

theorem respects_fenced {ownerId : WorkerId} {generation : ClaimGeneration} {live : Option ℕ}
    {act : Entry → Answer × Option Entry} (acts : ∀ e e', e.Same e' → SameResult (act e) (act e')) :
    Respects (fenced ownerId generation live act) := by
  intro x y related
  cases related with
  | none => exact ⟨rfl, .none⟩
  | @some e e' same =>
    have agree := same.holds ownerId generation live
    by_cases holds : e'.holds ownerId generation live = true
    · rw [fenced, fenced, if_pos (agree.trans holds), if_pos holds]
      exact acts e e' same
    · rw [fenced, fenced, if_neg (agree ▸ holds), if_neg holds]
      exact .found same

theorem respects_recovered {act : Entry → Answer × Option Entry}
    (acts : ∀ e e', e.Same e' → SameResult (act e) (act e')) : Respects (recovered act) := by
  intro x y related
  cases related with
  | none => exact ⟨rfl, .none⟩
  | @some e e' same =>
    by_cases dead : isDeadLettered e'.delivery.state = true
    · rw [recovered, recovered, if_pos dead, if_pos (by rw [same.delivery]; exact dead)]
      exact acts e e' same
    · rw [recovered, recovered, if_neg dead, if_neg (by rw [same.delivery]; exact dead)]
      exact .found same

theorem respects_recordAttempt (nowMillis : ℕ) (attempt : DeliveryAttemptRecord) :
    Respects (recordAttempt nowMillis attempt) := by
  apply respects_fenced
  intro e e' same
  rw [same.hasOrdinal]
  split
  · exact .found same
  · split
    · exact .found (same.schedule attempt)
    · exact .found (same.settle attempt _)

theorem respects_repairDeadLetter (nowMillis : ℕ) (route : DeliveryRouteSnapshot) :
    Respects (repairDeadLetter nowMillis route) := by
  apply respects_recovered
  intro e e' same
  rw [same.delivery]
  split
  · exact .found (same.repair nowMillis route)
  · exact .found same

theorem respects_save (nowMillis : ℕ) (delivery : Delivery) : Respects (save nowMillis delivery) := by
  intro x y related
  cases related with
  | none => exact .found (.refl _)
  | some same => exact .found same

/-- **The calls on one delivery respect sameness.** -/
theorem respects_onEntry {nowMillis : ℕ} {call : StoreCall} {id : DeliveryId}
    {op : Option Entry → Answer × Option Entry} (about : call.onEntry nowMillis = some (id, op)) :
    Respects op := by
  cases call with
  | save delivery => cases about; exact respects_save nowMillis delivery
  | findById id =>
    cases about
    intro x y related
    refine ⟨?_, related⟩
    cases related with
    | none => rfl
    | some same => simp only [Option.map_some, same.delivery]
  | recordAttempt attempt => cases about; exact respects_recordAttempt nowMillis attempt
  | renewClaim id claim lease =>
    obtain ⟨p, -, hp⟩ := Option.map_eq_some_iff.1 about
    cases hp
    apply respects_fenced
    exact fun e e' same => .found (same.renew _)
  | completeClaim id claim result =>
    cases about
    apply respects_fenced
    exact fun e e' same => .found (same.withState _)
  | releaseClaim id claim =>
    cases about
    apply respects_fenced
    exact fun e e' same => .found same.release
  | retryDeadLetter id =>
    cases about
    apply respects_recovered
    exact fun e e' same => .found (same.retry nowMillis)
  | repairDeadLetter id route => cases about; exact respects_repairDeadLetter nowMillis route
  | terminateDeadLetter id =>
    cases about
    apply respects_recovered
    exact fun e e' same => .found (same.withState .terminated)
  | accept | savePending | claimPending => cases about

end Entry

/-! ## Related stores -/

/-- The two stores hold the same deliveries, attempts, generations, eligibility, routes and claims. -/
def Related (s : MemoryStore) (db : Postgres.Database) : Prop :=
  ∀ id, Option.Rel Entry.Same (s.view id) (db.view id)

/-- The calls the adapters are compared on: a saved delivery has its event stored, and a renewal asks
for a positive whole lease. -/
def Compared (db : Postgres.Database) : StoreCall → Prop
  | .save delivery => db.relayEvents.find delivery.eventId ≠ none
  | .renewClaim _ _ lease => (positiveInteger lease).isSome
  | .findById _ | .recordAttempt _ | .completeClaim .. | .releaseClaim .. | .retryDeadLetter _
  | .repairDeadLetter .. | .terminateDeadLetter _ => True
  | .accept _ | .savePending .. | .claimPending .. => False

theorem Compared.about {db : Postgres.Database} {call : StoreCall} (compared : Compared db call)
    (nowMillis : ℕ) : ∃ id op, call.onEntry nowMillis = some (id, op) := by
  cases call with
  | renewClaim id claim lease =>
    obtain ⟨p, whole⟩ := Option.isSome_iff_exists.1 compared
    exact ⟨id, _, by rw [StoreCall.onEntry, whole]; rfl⟩
  | accept | savePending | claimPending => cases compared
  | _ => exact ⟨_, _, rfl⟩

/-- An update at one delivery keeps two ledgers related. -/
theorem related_update {L L' : Ledger} (related : ∀ id, Option.Rel Entry.Same (L id) (L' id)) {id : DeliveryId}
    {x y : Option Entry} (here : Option.Rel Entry.Same x y) (id' : DeliveryId) :
    Option.Rel Entry.Same (Function.update L id x id') (Function.update L' id y id') := by
  by_cases h : id' = id
  · subst h; rw [Function.update_self, Function.update_self]; exact here
  · rw [Function.update_of_ne h, Function.update_of_ne h]; exact related id'

namespace StoreMachine

variable {M : StoreMachine}

/-- Calls in any order with any arguments; an id may be created twice. -/
def anyCalls (M : StoreMachine) : TransitionSystem M.Store M.Event where
  init := M.empty
  step := fun s l s' => M.exec l.nowMillis s l.call = (l.reply, s')

theorem Lawful.sound_of_reachable (lawful : M.Lawful) {s : M.Store} (reachable : M.anyCalls.Reachable s) :
    M.Sound s := by
  refine reachable.invariant M.Sound lawful.sound_empty ?_
  intro s l s' sound run
  have sound' := lawful.sound l.nowMillis l.call sound
  rw [show M.exec l.nowMillis s l.call = (l.reply, s') from run] at sound'
  exact sound'

theorem exec_step (M : StoreMachine) (nowMillis : ℕ) (s : M.Store) (c : M.Call) :
    M.anyCalls.step s ⟨nowMillis, c, (M.exec nowMillis s c).1⟩ (M.exec nowMillis s c).2 := rfl

end StoreMachine

/-! ## The tables hold no attempt -/

theorem postgres_attempts (nowMillis : ℕ) (db : Postgres.Database) (c : Statement) :
    Postgres.Database.deliveryAttempts (postgres.exec nowMillis db c).2 = db.deliveryAttempts := by
  show Postgres.Database.deliveryAttempts (if c.resumed then Postgres.Database.resume nowMillis db c.call
    else Postgres.Database.exec nowMillis db c.call).2 = db.deliveryAttempts
  split
  · exact Postgres.Database.resume_attempts db nowMillis c.call
  · exact Postgres.Database.exec_attempts db nowMillis c.call

theorem postgres_unattempted {db : Postgres.Database} (reachable : postgres.anyCalls.Reachable db) :
    db.deliveryAttempts.rows = [] := by
  refine reachable.invariant (fun db : Postgres.Database => db.deliveryAttempts.rows = []) rfl ?_
  intro db l db' none step
  have kept := postgres_attempts l.nowMillis db l.call
  rw [show postgres.exec l.nowMillis db l.call = (l.reply, db') from step] at kept
  show db'.deliveryAttempts.rows = []
  rw [kept]
  exact none

theorem view_unattempted {db : Postgres.Database} (none : db.deliveryAttempts.rows = []) {id : DeliveryId} {e : Entry}
    (held : db.view id = some e) : e.attempts = [] := by
  obtain ⟨r, -, entry⟩ := Option.bind_eq_some_iff.1 held
  obtain ⟨delivery, -, rfl⟩ := Option.map_eq_some_iff.1 entry
  have silent : db.attemptsOf r.deliveryId = [] := by rw [Postgres.Database.attemptsOf, Keyed.select, none, List.filter_nil]
  rw [silent, List.filterMap_nil]

/-- A first attempt meets no other under its ordinal. -/
theorem Entry.recordAttempt_first {nowMillis : ℕ} {attempt : DeliveryAttemptRecord} {x : Option Entry}
    (first : ∀ e, x = some e → e.attempts = []) :
    (Entry.recordAttempt nowMillis attempt x).1 ≠ .error .deliveryRepositoryError := by
  intro conflict
  cases x with
  | none => cases conflict
  | some e =>
    rw [Entry.recordAttempt, Entry.fenced] at conflict
    split at conflict
    · have new : e.hasOrdinal attempt.ordinal = false := by rw [Entry.hasOrdinal, first e rfl]; rfl
      rw [new, if_neg Bool.false_ne_true] at conflict
      split at conflict
      · cases conflict
      · cases conflict
    · cases conflict

/-! ## The comparison -/

section Compared

variable {s : MemoryStore} {db : Postgres.Database} {L : Ledger} {nowMillis : ℕ}

/-- An operation that both stores serve keeps them related and is answered alike. -/
theorem agree_of_serves {id : DeliveryId} {op : Option Entry → Answer × Option Entry} {r : Reply × MemoryStore}
    {r' : Reply × Postgres.Database} (respects : Entry.Respects op) (related : Related s db)
    (inMemory : MemoryStore.Serves s id op r) (inSql : Postgres.Database.Serves db.view id op r') :
    r.1.answer = r'.1.answer ∧ Related r.2 r'.2 := by
  have result := respects _ _ (related id)
  refine ⟨?_, ?_⟩
  · rw [inMemory.answer, inSql.answer, result.answer]
  · intro id'
    rw [inMemory.view, inSql.represents.view]
    exact related_update related result.entry id'

/-- **Only the refusal tells the adapters apart**: what the statement says about the rows agrees with the maps. -/
theorem recordAttempt_rows_agree (sound : s.Sound) (sound' : db.Sound) (related : Related s db) (nowMillis : ℕ)
    (attempt : DeliveryAttemptRecord) :
    (s.recordAttempt nowMillis attempt).1.answer = (db.recordAttemptReply nowMillis attempt).1.answer ∧
      Related (s.recordAttempt nowMillis attempt).2 (db.recordAttemptReply nowMillis attempt).2 := by
  obtain ⟨L, rep⟩ := sound'
  have shown := rep.view
  subst shown
  exact agree_of_serves (Entry.respects_recordAttempt nowMillis attempt) related
    (MemoryStore.recordAttempt_serves sound attempt) (Postgres.Database.recordAttemptRows_serves rep attempt)

/-- What is served keeps the stores related. -/
theorem heard_agree (sound : s.Sound) (sound' : db.Sound) (related : Related s db) (nowMillis : ℕ) (call : StoreCall)
    (compared : Compared db call) (heard : Postgres.Hears call) :
    (s.exec nowMillis call).1.answer = (db.exec nowMillis call).1.answer ∧
      Related (s.exec nowMillis call).2 (db.exec nowMillis call).2 := by
  obtain ⟨L, rep⟩ := sound'
  have shown := rep.view
  subst shown
  obtain ⟨id, op, about⟩ := compared.about nowMillis
  refine agree_of_serves (Entry.respects_onEntry about) related (MemoryStore.exec_serves sound about)
    (Postgres.Database.exec_serves rep about heard ?_)
  rintro delivery rfl
  exact compared

/-- Where a renewal finds its live claim, the claim would end at a safe integer; and the lease is one in any case. Of the other
calls nothing is asked. -/
def RenewsSafely (nowMillis : ℕ) (s : MemoryStore) : StoreCall → Prop
  | .renewClaim id claim lease => lease ≤ maxSafeInteger ∧
      (s.owns id claim.ownerId claim.generation (some nowMillis) = true → nowMillis + lease ≤ maxSafeInteger)
  | _ => True

/-- Equal answers, so the same error tag or the same renewed claim, and related stores afterwards. -/
def AnswersAlike (nowMillis : ℕ) (s : MemoryStore) (db : Postgres.Database) (call : StoreCall) : Prop :=
  (s.serve nowMillis call).1.answer = (db.serve nowMillis call).1.answer ∧
    Related (s.serve nowMillis call).2 (db.serve nowMillis call).2

theorem renewedEnd_beyond {nowMillis : ℕ} {lease : Number} {p : ℕ+} (whole : positiveInteger lease = some p)
    (beyond : ¬ nowMillis + lease ≤ maxSafeInteger) : maxSafeInteger < nowMillis + (p : ℕ) := by
  rw [positiveInteger_value whole] at beyond
  exact_mod_cast not_le.1 beyond

/-- A renewal whose end is a safe integer is served by both as it would be without bounds. -/
theorem renewal_agrees (sound : s.Sound) (sound' : db.Sound) (related : Related s db) (id : DeliveryId) (claim : DeliveryClaim)
    {lease : Number} {p : ℕ+} (whole : positiveInteger lease = some p) (safe : nowMillis + lease ≤ maxSafeInteger) :
    AnswersAlike nowMillis s db (.renewClaim id claim lease) := by
  have bound : nowMillis + (p : ℕ) ≤ maxSafeInteger := by
    by_contra beyond
    rw [positiveInteger_value whole] at safe
    exact beyond (by exact_mod_cast safe)
  have small : lease ≤ maxSafeInteger := le_trans (le_add_of_nonneg_left (Nat.cast_nonneg nowMillis)) safe
  obtain ⟨answer, after⟩ := heard_agree sound sound' related nowMillis (.renewClaim id claim lease)
    (Option.isSome_iff_exists.2 ⟨p, whole⟩) (fun _ => StoreCall.noConfusion)
  have ends : ∀ value, (db.exec nowMillis (.renewClaim id claim lease)).1 = .ok value →
      ∀ expires ∈ value.ends, expires ≤ maxSafeInteger := by
    intro value answered expires member
    rw [answered, MemoryStore.renewClaim_reply whole] at answer
    split at answer
    · cases answer
      rw [List.mem_singleton.1 member]
      exact bound
    · cases answer
  have served : db.serve nowMillis (.renewClaim id claim lease) = db.exec nowMillis (.renewClaim id claim lease) := by
    rw [Postgres.Database.serve, if_pos small]
    exact Postgres.Database.readBack_eq ends
  rw [AnswersAlike, MemoryStore.serve_renewClaim safe, served]
  exact ⟨answer, after⟩

/-- One whose end is none goes apart where the claim is live: the maps throw, and the row is written and not read back. -/
theorem renewal_beyond (sound : s.Sound) (sound' : db.Sound) (related : Related s db) (id : DeliveryId) (claim : DeliveryClaim)
    {lease : Number} {p : ℕ+} (whole : positiveInteger lease = some p) (beyond : ¬ nowMillis + lease ≤ maxSafeInteger) :
    AnswersAlike nowMillis s db (.renewClaim id claim lease) ↔ RenewsSafely nowMillis s (.renewClaim id claim lease) := by
  obtain ⟨answer, after⟩ := heard_agree sound sound' related nowMillis (.renewClaim id claim lease)
    (Option.isSome_iff_exists.2 ⟨p, whole⟩) (fun _ => StoreCall.noConfusion)
  rw [MemoryStore.renewClaim_reply whole] at answer
  rw [AnswersAlike, MemoryStore.serve_renewClaim_beyond beyond, Postgres.Database.serve, RenewsSafely]
  cases owned : s.owns id claim.ownerId claim.generation (some nowMillis) with
  | true =>
    refine iff_of_false ?_ fun safely => beyond (safely.2 rfl)
    rintro ⟨alike, -⟩
    rw [owned, if_pos rfl] at answer
    have refused : ∃ cause, (if lease ≤ maxSafeInteger then
        Postgres.Database.readBack (.deliveryRepository .renewClaim) false db (db.renewClaim nowMillis id claim lease)
        else (.error (.deliveryRepository .renewClaim .schemaError), db)).1 = .error (.deliveryRepository .renewClaim cause) := by
      split
      · exact Postgres.Database.readBack_beyond (Reply.answer_eq_ok answer.symm) (List.mem_singleton_self _)
          (renewedEnd_beyond whole beyond)
      · exact ⟨_, rfl⟩
    obtain ⟨cause, refused⟩ := refused
    rw [refused] at alike
    cases alike
  | false =>
    rw [owned, if_neg Bool.false_ne_true] at answer
    have kept : (s.exec nowMillis (.renewClaim id claim lease)).2 = s := by
      show (s.renewClaim nowMillis id claim lease).2 = s
      rw [MemoryStore.renewClaim, owned]
      rfl
    by_cases small : lease ≤ maxSafeInteger
    · have served : Postgres.Database.readBack (.deliveryRepository .renewClaim) false db
          (db.renewClaim nowMillis id claim lease) = db.renewClaim nowMillis id claim lease := by
        refine Postgres.Database.readBack_eq fun value answered => ?_
        rw [show (db.exec nowMillis (.renewClaim id claim lease)).1 = .ok value from answered] at answer
        cases answer
      rw [if_pos small, served]
      rw [kept] at after
      exact iff_of_true ⟨answer, after⟩ ⟨small, fun owned => by cases owned⟩
    · rw [if_neg small]
      refine iff_of_false ?_ fun safely => small safely.1
      rintro ⟨alike, -⟩
      cases alike

end Compared

/-- **The adapters agree** on a fenced call or an operator action exactly when it is not the record of an attempt, and
renews its claim to a safe integer if it renews one. -/
theorem adapters_agree {s : MemoryStore} {db : Postgres.Database} (reachable : memory.anyCalls.Reachable s)
    (reachable' : postgres.anyCalls.Reachable db) (related : Related s db) (nowMillis : ℕ) (call : StoreCall)
    (compared : Compared db call) :
    AnswersAlike nowMillis s db call ↔ Postgres.Hears call ∧ RenewsSafely nowMillis s call := by
  have sound : s.Sound := memory_lawful.sound_of_reachable reachable
  have sound' : db.Sound := postgres_lawful.sound_of_reachable reachable'
  cases call with
  | accept | savePending | claimPending => cases compared
  | renewClaim id claim lease =>
    obtain ⟨p, whole⟩ := Option.isSome_iff_exists.1 compared
    have heard : Postgres.Hears (.renewClaim id claim lease) := fun _ => StoreCall.noConfusion
    rw [and_iff_right heard]
    by_cases safe : nowMillis + lease ≤ maxSafeInteger
    · refine iff_of_true (renewal_agrees sound sound' related id claim whole safe) ⟨?_, fun _ => safe⟩
      exact le_trans (le_add_of_nonneg_left (Nat.cast_nonneg nowMillis)) safe
    · exact renewal_beyond sound sound' related id claim whole safe
  | recordAttempt attempt =>
    refine iff_of_false ?_ fun both => both.1 attempt rfl
    rintro ⟨answer, -⟩
    rw [MemoryStore.serve_eq s nowMillis rfl, db.serve_eq nowMillis rfl] at answer
    have refused : (db.exec nowMillis (.recordAttempt attempt)).1.answer = .error .deliveryRepositoryError := by
      rw [Postgres.Database.exec, Postgres.Database.recordAttempt_eq]
      rfl
    have first : ∀ e, s.view attempt.deliveryId = some e → e.attempts = [] := by
      intro e held
      have both := related attempt.deliveryId
      rw [held] at both
      generalize there : db.view attempt.deliveryId = y at both
      cases both with
      | some same => exact (view_unattempted (postgres_unattempted reachable') there ▸ same.attempts).eq_nil
    rw [refused] at answer
    exact Entry.recordAttempt_first first ((MemoryStore.recordAttempt_serves sound attempt).answer.symm.trans answer)
  | save | findById | completeClaim | releaseClaim | retryDeadLetter | repairDeadLetter | terminateDeadLetter =>
    rw [AnswersAlike, MemoryStore.serve_eq s nowMillis rfl, db.serve_eq nowMillis rfl]
    exact iff_of_true (heard_agree sound sound' related nowMillis _ compared fun _ => StoreCall.noConfusion)
      ⟨fun _ => StoreCall.noConfusion, trivial⟩

section Created

variable {nowMillis : ℕ} {L L' : Ledger} {event : RelayEvent} {id : DeliveryId} {destinationId : DestinationId}
  {request : ClaimRequest} {value : StoreValue} {p : ℕ+}

/-- A delivery that was created under a whole lease. -/
theorem Served.savePending_ok (served : Served nowMillis L (.savePending event id destinationId request) (.ok value) L')
    (whole : positiveInteger request.leaseDurationMillis = some p) :
    L' = Function.update L id (some (.admitted ⟨id, event.id, destinationId, .pending⟩
      ⟨request.ownerId, 1, nowMillis + p⟩ none nowMillis)) := by
  generalize answered : (.ok value : Answer) = answer at served
  generalize called : StoreCall.savePending event id destinationId request = call at served
  cases served with
  | saved event' delivery request' expires granted fresh pending created =>
    cases called
    rw [granted p whole]
    cases delivery
    simp only at pending created
    rw [pending, created]
  | onEntry _ _ _ about => subst called; cases about
  | regranted | claimPending | accepted | replayed => cases called
  | stranded | refused => cases answered

variable {s : MemoryStore} {db : Postgres.Database}

/-- A delivery created in both stores keeps them related. -/
theorem savePending_related (sound : s.Sound) (sound' : db.Sound) (related : Related s db)
    (whole : positiveInteger request.leaseDurationMillis = some p) (fresh : s.view id = none)
    (created : (s.exec nowMillis (.savePending event id destinationId request)).1.answer = .ok value)
    (created' : (db.exec nowMillis (.savePending event id destinationId request)).1.answer = .ok value) :
    Related (s.exec nowMillis (.savePending event id destinationId request)).2
      (db.exec nowMillis (.savePending event id destinationId request)).2 := by
  have served := (s.exec_refines sound nowMillis (.savePending event id destinationId request)).2
    (by rintro _ ⟨⟩; exact fresh)
  obtain ⟨L, rep⟩ := sound'
  obtain ⟨L', rep', served'⟩ := Postgres.Database.exec_represents rep nowMillis
    (.savePending event id destinationId request)
  rw [created] at served
  rw [created'] at served'
  intro id'
  rw [served.savePending_ok whole, rep'.view, served'.savePending_ok whole]
  refine related_update ?_ (.some (.refl _)) id'
  intro id''
  rw [← rep.view]
  exact related id''

end Created

namespace Sample

/-- The maps and the tables after the first delivery was created under a lease of 1000 at time 0. -/
theorem saved_related : Related (MemoryStore.empty.exec 0 savePending).2 (Postgres.Database.empty.exec 0 savePending).2 := by
  have empties : Related .empty .empty := by
    intro id
    rw [MemoryStore.view_empty, Postgres.Database.represents_empty.view]
    exact .none
  have created : (MemoryStore.empty.exec 0 savePending).1.answer = .ok (.claimed [claimed]) := by decide +kernel
  have created' : (Postgres.Database.empty.exec 0 savePending).1.answer = .ok (.claimed [claimed]) := by decide +kernel
  have whole : positiveInteger 1000 = some 1000 := by decide +kernel
  exact savePending_related MemoryStore.sound_empty ⟨_, Postgres.Database.represents_empty⟩ empties whole rfl created created'

theorem savedMaps_reachable : memory.anyCalls.Reachable (MemoryStore.empty.exec 0 savePending).2 :=
  ⟨_, .single (memory.exec_step 0 MemoryStore.empty savePending)⟩

theorem savedTables_reachable : postgres.anyCalls.Reachable (Postgres.Database.empty.exec 0 savePending).2 :=
  ⟨_, .single (postgres.exec_step 0 Postgres.Database.empty ⟨savePending, false⟩)⟩

end Sample

/-- The claim is renewed at 5 in both. -/
theorem adapters_agree_renewed : AnswersAlike 5 (MemoryStore.empty.exec 0 Sample.savePending).2
    (Postgres.Database.empty.exec 0 Sample.savePending).2 (.renewClaim Sample.delivery Sample.claim 2000) := by
  have whole : (positiveInteger 2000).isSome = true := by decide +kernel
  have safe : ((5 : ℕ) : Number) + 2000 ≤ maxSafeInteger := by decide +kernel
  exact (adapters_agree Sample.savedMaps_reachable Sample.savedTables_reachable Sample.saved_related 5
    (.renewClaim Sample.delivery Sample.claim 2000) whole).2 ⟨by rintro attempt ⟨⟩, by decide +kernel, fun _ => safe⟩

/-- The holder of a live claim records its first attempt: the maps take it, the database refuses the statement. -/
theorem adapters_disagree : ¬ ∀ (s : MemoryStore) (db : Postgres.Database), memory.anyCalls.Reachable s →
    postgres.anyCalls.Reachable db → Related s db → ∀ (nowMillis : ℕ) (call : StoreCall), Compared db call →
      AnswersAlike nowMillis s db call := by
  intro always
  obtain ⟨answer, -⟩ := always _ _ Sample.savedMaps_reachable Sample.savedTables_reachable Sample.saved_related 500
    (.recordAttempt Sample.lateRecord) trivial
  have recorded : ((MemoryStore.empty.exec 0 Sample.savePending).2.serve 500 (.recordAttempt Sample.lateRecord)).1 =
      .ok .done := by decide +kernel
  rw [recorded, Postgres.Database.serve_eq _ 500 rfl, Postgres.Database.exec, Postgres.Database.recordAttempt_eq] at answer
  cases answer

end Relay
