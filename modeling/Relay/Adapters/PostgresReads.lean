import Relay.Adapters.PostgresEvents

/-!
# Reading a status (`findStatus`, `listDeadLetters`)

A status read selects the row of the delivery first and its attempts in another
statement; a listing selects the rows of the dead letters and then the attempts
of each. The rows of tables that represent a ledger all decode.
-/

namespace Relay

/-- `statusFor`: a delivery and its attempts, read at one moment. -/
def Entry.status (e : Entry) : DeliveryStatus where
  delivery := e.delivery
  attempts := e.attempts.insertionSort fun a b => a.ordinal ≤ b.ordinal

namespace Postgres

open Sql

namespace Database

/-! ## The statements -/

section Statements

variable (db : Database)

/-- `findAttempts`: `ORDER BY ordinal`. -/
def findAttempts (id : DeliveryId) : List DeliveryAttemptsRow :=
  (db.attemptsOf id).insertionSort fun a b => a.ordinal ≤ b.ordinal

/-- `WHERE state = 'DeadLettered' ORDER BY delivery_id LIMIT`. -/
def deadLetterRows (collation : Collation) (limit : ℕ+) : List DeliveriesRow :=
  ((db.deliveries.select fun r => eq (some r.state) (some .deadLettered)).insertionSort fun a b =>
    collation.le a.deliveryId b.deliveryId).take limit

/-- The columns of `DeliveryAttemptRow`. -/
def attemptColumns (r : DeliveryAttemptsRow) : Bool :=
  (positiveColumn r.ordinal).isSome && (positiveColumn r.claimGeneration).isSome &&
  (wholeColumn r.startedAtMs).isSome && (wholeColumn r.completedAtMs).isSome && (wholeNullable r.retryDelayMs).isSome

/-- `findAttemptRows` and `rowToAttempt`: a row that does not decode fails the call, a row that makes no record
kills it. -/
def readAttempts (operation : RepositoryOperation) (id : DeliveryId) : Except Failure (List DeliveryAttemptRecord) :=
  if !(db.findAttempts id).all attemptColumns then .error (.deliveryRepository operation .schemaError)
  else
    match (db.findAttempts id).mapM rowToAttempt with
    | none => .error .defect
    | some attempts => .ok attempts

/-- The second statement of a status read, for the row the first one read. -/
def readStatus (operation : RepositoryOperation) (delivery : Delivery) : Except Failure DeliveryStatus :=
  (db.readAttempts operation delivery.id).map fun attempts => ⟨delivery, attempts⟩

/-- The first statement of `listDeadLetters`. -/
def listDeadLetterRows (collation : Collation) (limit : Number) : Except Failure (List Delivery) :=
  match positiveInteger limit with
  | none => .error (.deliveryRepository .listDeadLetters .schemaError)
  | some limit =>
    match (db.deadLetterRows collation limit).mapM rowToDelivery with
    | none => .error (.deliveryRepository .listDeadLetters .schemaError)
    | some deliveries => .ok deliveries

end Statements

/-! ## What represents a ledger decodes -/

section Decodes

variable {db : Database} {L : Ledger}

theorem Represents.delivery_row (rep : Represents db L) {r : DeliveriesRow} (member : r ∈ db.deliveries.rows) :
    ∃ e, L r.deliveryId = some e ∧ r = rowOf e := by
  have row := Keyed.find_of_mem member
  rw [rep.rows, Option.map_eq_some_iff] at row
  obtain ⟨e, held, same⟩ := row
  exact ⟨e, held, same.symm⟩

theorem Represents.attempt_row (rep : Represents db L) {r : DeliveryAttemptsRow} (member : r ∈ db.deliveryAttempts.rows) :
    ∃ e attempt, L r.deliveryId = some e ∧ attempt ∈ e.attempts ∧ r = attemptToRow attempt := by
  have among : r ∈ db.attemptsOf r.deliveryId := mem_attemptsOf.2 ⟨member, rfl⟩
  cases held : L r.deliveryId with
  | none =>
    rw [rep.orphans _ held] at among
    cases among
  | some e =>
    rw [rep.attempts _ e held] at among
    obtain ⟨attempt, recorded, same⟩ := List.mem_map.1 among
    exact ⟨e, attempt, rfl, recorded, same.symm⟩

theorem attemptColumns_attemptToRow (attempt : DeliveryAttemptRecord) : attemptColumns (attemptToRow attempt) = true := by
  simp [attemptColumns, attemptToRow]

/-- **Every selected attempt decodes**: a status is read in full. -/
theorem readAttempts_ok (rep : Represents db L) (operation : RepositoryOperation) (id : DeliveryId) :
    ∃ attempts, (db.findAttempts id).mapM rowToAttempt = some attempts ∧ db.readAttempts operation id = .ok attempts := by
  have rows : ∀ r ∈ db.findAttempts id, ∃ attempt, r = attemptToRow attempt := by
    intro r member
    rw [findAttempts, List.mem_insertionSort, mem_attemptsOf] at member
    obtain ⟨-, attempt, -, -, same⟩ := rep.attempt_row member.1
    exact ⟨attempt, same⟩
  have columns : (db.findAttempts id).all attemptColumns = true := by
    rw [List.all_eq_true]
    intro r member
    obtain ⟨attempt, rfl⟩ := rows r member
    exact attemptColumns_attemptToRow attempt
  obtain ⟨attempts, decoded⟩ := Sql.mapM_decodes (f := rowToAttempt) (l := db.findAttempts id) (by
    intro r member
    obtain ⟨attempt, rfl⟩ := rows r member
    exact ⟨attempt, rowToAttempt_attemptToRow attempt⟩)
  refine ⟨attempts, decoded, ?_⟩
  unfold readAttempts
  rw [columns, decoded]
  rfl

/-- The attempts of a delivery are read as `statusFor` lists those of its entry. -/
theorem readAttempts_held (rep : Represents db L) (operation : RepositoryOperation) {id : DeliveryId} {e : Entry}
    (held : L id = some e) : db.readAttempts operation id = .ok e.status.attempts := by
  have sorted : db.findAttempts id = e.status.attempts.map attemptToRow := by
    rw [findAttempts, rep.attempts id e held, Entry.status]
    refine (List.map_insertionSort _ _ _ _ ?_).symm
    intro a _ b _
    simp [attemptToRow]
  obtain ⟨attempts, decoded, read⟩ := readAttempts_ok rep operation id
  have readBack : (e.status.attempts.map attemptToRow).mapM rowToAttempt = some e.status.attempts := by
    rw [List.mapM_map]
    have decode : (rowToAttempt ∘ attemptToRow) = some := by
      funext attempt
      exact rowToAttempt_attemptToRow attempt
    rw [decode]
    generalize e.status.attempts = attempts
    induction attempts with
    | nil => rfl
    | cons attempt attempts ih => rw [List.mapM_cons, ih]; rfl
  rw [sorted, readBack, Option.some.injEq] at decoded
  rw [read, decoded]

/-- What `listDeadLetters` lists are deliveries the store holds. -/
theorem listDeadLetterRows_held (rep : Represents db L) {collation : Collation} {limit : Number} {deliveries : List Delivery}
    (listed : db.listDeadLetterRows collation limit = .ok deliveries) {delivery : Delivery} (member : delivery ∈ deliveries) :
    ∃ e, L delivery.id = some e ∧ e.delivery = delivery := by
  unfold listDeadLetterRows at listed
  cases whole : positiveInteger limit with
  | none =>
    rw [whole] at listed
    cases listed
  | some limit =>
    rw [whole] at listed
    simp only at listed
    split at listed
    · cases listed
    · next decoded =>
      cases listed
      obtain ⟨r, row, decodes⟩ := Sql.mapM_mem decoded member
      have among := List.mem_of_mem_take row
      rw [List.mem_insertionSort] at among
      obtain ⟨e, held, rfl⟩ := rep.delivery_row (List.mem_filter.1 among).1
      rw [rowToDelivery_rowOf, Option.some.injEq] at decodes
      subst decodes
      exact ⟨e, held, rfl⟩

theorem listDeadLetterRows_ok (rep : Represents db L) (collation : Collation) (limit : ℕ+) :
    ∃ deliveries, db.listDeadLetterRows collation ((limit : ℕ) : Number) = .ok deliveries := by
  obtain ⟨deliveries, decoded⟩ := Sql.mapM_decodes (f := rowToDelivery) (l := db.deadLetterRows collation limit) (by
    intro r member
    have among := List.mem_of_mem_take member
    rw [List.mem_insertionSort] at among
    obtain ⟨e, -, rfl⟩ := rep.delivery_row (List.mem_filter.1 among).1
    exact ⟨e.delivery, rowToDelivery_rowOf⟩)
  refine ⟨deliveries, ?_⟩
  unfold listDeadLetterRows
  rw [positiveInteger_natCast]
  simp only [decoded]

end Decodes

end Database

end Postgres

end Relay
