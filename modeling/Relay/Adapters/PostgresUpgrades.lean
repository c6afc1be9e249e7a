import Relay.Adapters.PostgresTables
import Relay.Library.Transition

/-!
# How far a database is upgraded

Whatever a version of the program has written, the first four migrations succeed on it and
keep it: the constraints they add are met because the columns these speak of are new and
hold their defaults. The fifth is refused on every database, for a name it gives to two
constraints, so that no database comes to a later version.
-/

namespace Relay

namespace Postgres

open Ddl

/-- Milliseconds since the epoch, as a `bigint` holds them. -/
def Reads (clock : ℕ → ℤ) : Prop := ∀ k, 0 ≤ clock k ∧ clock k < 2 ^ 63

/-! ## The rows of one table -/

section Rows

variable {clock : ℕ → ℤ} {rows : List (Row RelayColumn)} {r r' : Row RelayColumn}

/-- What a column that is added holds. -/
theorem filled {clauses : List (Alteration RelayColumn)} (once : (clauses.flatMap (·.touched)).Nodup) (column : Column RelayColumn)
    (added : .addColumn column ∈ clauses) (member : r' ∈ clauses.foldl (Alteration.fill clock) rows) {value : Option Value}
    (default : ∀ k, column.default.value clock k = value) : r' column.name = value := by
  obtain ⟨k, held⟩ := Alteration.fills_default column added once member
  rw [held, default]

theorem intake_once : (intakeClauses.flatMap (·.touched)).Nodup := by decide

theorem intake_clean (clock : ℕ → ℤ) (rows : List (Row RelayColumn)) :
    ∀ a ∈ intakeClauses, a.violated (intakeClauses.foldl (Alteration.fill clock) rows) = none := by
  have keyless : ∀ r' ∈ intakeClauses.foldl (Alteration.fill clock) rows, r' .ingestionKey = none := by
    intro r' member
    exact filled intake_once (nullable .ingestionKey .text) (by simp [intakeClauses]) member fun _ => rfl
  intro a member
  simp only [intakeClauses, List.mem_cons, List.not_mem_nil, or_false] at member
  obtain rfl | rfl | rfl | rfl | rfl := member
  · exact Alteration.clean_column (by simp [intakeClauses]) intake_once fun _ => rfl
  · exact Alteration.clean_column (by simp [intakeClauses]) intake_once fun _ => rfl
  · exact Alteration.clean_column (by simp [intakeClauses]) intake_once fun _ => rfl
  · refine if_pos fun r' member => ?_
    have fingerprint : r' .requestFingerprint = none :=
      filled intake_once (nullable .requestFingerprint .text) (by simp [intakeClauses]) member fun _ => rfl
    have accepted : r' .acceptedAtMs = none :=
      filled intake_once (nullable .acceptedAtMs .bigint) (by simp [intakeClauses]) member fun _ => rfl
    simp [intakeCompleteCheck, Condition.eval, keyless r' member, fingerprint, accepted]
  · refine if_pos ?_
    refine List.Pairwise.imp_of_mem ?_ (List.pairwise_of_forall (R := fun _ _ => True) fun _ _ => trivial)
    intro r' r'' member _ _
    left
    rw [keyOf, List.mapM_cons, keyless r' member]
    rfl

theorem route_once : (routeClauses.flatMap (·.touched)).Nodup := by decide

theorem route_clean (clock : ℕ → ℤ) (rows : List (Row RelayColumn)) :
    ∀ a ∈ routeClauses, a.violated (routeClauses.foldl (Alteration.fill clock) rows) = none := by
  intro a member
  simp only [routeClauses, List.mem_cons, List.not_mem_nil, or_false] at member
  obtain rfl | rfl | rfl := member
  · exact Alteration.clean_column (by simp [routeClauses]) route_once fun _ => rfl
  · exact Alteration.clean_column (by simp [routeClauses]) route_once fun _ => rfl
  · refine if_pos fun r' member => ?_
    have url : r' .destinationUrl = none :=
      filled route_once (nullable .destinationUrl .text) (by simp [routeClauses]) member fun _ => rfl
    have version : r' .configurationVersion = none :=
      filled route_once (nullable .configurationVersion .integer) (by simp [routeClauses]) member fun _ => rfl
    simp [routeSnapshotCheck, Condition.eval, url, version]

theorem lease_once : (leaseClauses.flatMap (·.touched)).Nodup := by decide

theorem lease_clean (clock : ℕ → ℤ) (rows : List (Row RelayColumn)) :
    ∀ a ∈ leaseClauses, a.violated (leaseClauses.foldl (Alteration.fill clock) rows) = none := by
  intro a member
  simp only [leaseClauses, List.mem_cons, List.not_mem_nil, or_false] at member
  obtain rfl | rfl | rfl | rfl | rfl := member
  · exact Alteration.clean_column (by simp [leaseClauses]) lease_once fun _ => rfl
  · exact Alteration.clean_column (by simp [leaseClauses]) lease_once fun _ => rfl
  · exact Alteration.clean_column (by simp [leaseClauses]) lease_once fun _ => rfl
  · refine if_pos fun r' member => ?_
    have generation : r' .claimGeneration = some (.int 0) :=
      filled lease_once claimGenerationColumn (by simp [leaseClauses]) member fun _ => rfl
    simp [claimGenerationCheck, Operand.value, generation, Value.int?]
  · refine if_pos fun r' member => ?_
    have owner : r' .claimOwner = none :=
      filled lease_once (nullable .claimOwner .text) (by simp [leaseClauses]) member fun _ => rfl
    have expires : r' .leaseExpiresAtMs = none :=
      filled lease_once (nullable .leaseExpiresAtMs .bigint) (by simp [leaseClauses]) member fun _ => rfl
    simp [claimLeaseCompleteCheck, Condition.eval, owner, expires]

/-- The state of a row is one of those its constraint lists. -/
theorem state_of {schema : RelaySchema} (fits : schema.Fits r) (column : required .state .text ∈ schema.columns) {name : String}
    {ts : List String} (check : (name, .isIn .state (texts ts)) ∈ schema.checks) : ∃ t ∈ ts, r .state = some (.text t) := by
  have admits := fits.columns _ column
  have listed := fits.checks _ check
  rw [show (required .state .text).name = RelayColumn.state from rfl] at admits
  simp only [Condition.eval] at listed
  cases held : r .state with
  | none => rw [held] at admits; cases admits
  | some v =>
    rw [held] at admits listed
    cases v with
    | text t =>
      simp only [Sql.isIn_some, Sql.Truth.admits_some, decide_eq_true_eq, texts, List.mem_map, Value.text.injEq] at listed
      obtain ⟨t', among, rfl⟩ := listed
      exact ⟨t', among, rfl⟩
    | int n | bool b => cases admits

theorem deadLetter_once : (deadLetterClauses.flatMap (·.touched)).Nodup := by decide

theorem deadLetter_clean (reads : Reads clock) (fits : ∀ r ∈ rows, deliveries4.Fits r) :
    ∀ a ∈ deadLetterClauses, a.violated (deadLetterClauses.foldl (Alteration.fill clock) rows) = none := by
  have source : ∀ r' ∈ deadLetterClauses.foldl (Alteration.fill clock) rows, r' .deadLetterReason = none ∧
      (∃ t ∈ ["Pending", "Delivered", "Rejected"], r' .state = some (.text t)) ∧ (stateStatusCheck1.eval r').admits = true := by
    intro r' member
    obtain ⟨r, there, same⟩ := (Alteration.fills_kept clock rows deadLetterClauses).source member
    have state : r' .state = r .state := same _ (by decide)
    have status : r' .status = r .status := same _ (by decide)
    refine ⟨?_, ?_, ?_⟩
    · exact filled deadLetter_once (nullable .deadLetterReason .text) (by simp [deadLetterClauses]) member fun _ => rfl
    · rw [state]
      exact state_of (fits r there) (by simp [deliveries4, deliveries4', deliveries3, deliveries2, deliveries1, Schema.dropColumn, required])
        (List.mem_cons_self : ("deliveries_state_check", stateCheck1) ∈ deliveries4.checks)
    · have old : (stateStatusCheck1.eval r).admits = true :=
        (fits r there).checks ("deliveries_state_status_check", stateStatusCheck1) (List.mem_cons_of_mem _ List.mem_cons_self)
      simpa only [stateStatusCheck1, Condition.eval, state, status] using old
  intro a member
  simp only [deadLetterClauses, List.mem_cons, List.not_mem_nil, or_false] at member
  obtain rfl | rfl | rfl | rfl | rfl | rfl | rfl := member
  · rfl
  · rfl
  · refine Alteration.clean_column (by simp [deadLetterClauses]) deadLetter_once fun k => ?_
    obtain ⟨least, greatest⟩ := reads k
    simp only [nextEligibleColumn, Default.value, Column.admits, ColumnType.holds, Bool.and_eq_true, decide_eq_true_eq]
    omega
  · exact Alteration.clean_column (by simp [deadLetterClauses]) deadLetter_once fun _ => rfl
  · refine if_pos fun r' member => ?_
    obtain ⟨k, held⟩ := Alteration.fills_default nextEligibleColumn (by simp [deadLetterClauses]) deadLetter_once member
    rw [show nextEligibleColumn.name = RelayColumn.nextEligibleAtMs from rfl] at held
    simp [nextEligibleCheck, Operand.value, held, nextEligibleColumn, Default.value, Value.int?, (reads k).1]
  · refine if_pos fun r' member => ?_
    obtain ⟨-, ⟨t, among, state⟩, -⟩ := source r' member
    simp only [List.mem_cons, List.not_mem_nil, or_false] at among
    obtain rfl | rfl | rfl := among <;> simp [stateCheck5, Condition.eval, state, texts]
  · refine if_pos fun r' member => ?_
    obtain ⟨reason, ⟨t, among, state⟩, old⟩ := source r' member
    simp only [List.mem_cons, List.not_mem_nil, or_false] at among
    obtain rfl | rfl | rfl := among <;>
      simpa [stateStatusCheck1, stateStatusCheck5, respondedCondition, deadLetteredCondition, Condition.eval, state, reason, texts]
        using old

end Rows

/-! ## Each migration -/

section Migrations

variable {clock : ℕ → ℤ} {db : RelayDatabase}

/-- The migration succeeds, and the database is at its version. -/
def Succeeds (clock : ℕ → ℤ) (db : RelayDatabase) (migration : List RelayStatement) (n : ℕ) : Prop :=
  ∃ db', db.migrate clock migration = .ok db' ∧ AtVersion db' n

theorem createRelayTables_succeeds (clock : ℕ → ℤ) (before : AtVersion db 0) : Succeeds clock db createRelayTables 1 := by
  obtain ⟨schemas, rows, indexes⟩ := db
  obtain ⟨rfl, rfl⟩ := before
  refine ⟨⟨_, _, _⟩, rfl, ?_, rfl⟩
  funext t
  cases t <;> rfl

theorem addDeliveryClaims_succeeds (before : AtVersion db 1) : Succeeds clock db addDeliveryClaims 2 := by
  obtain ⟨schemas, rows, indexes⟩ := db
  obtain ⟨rfl, rfl⟩ := before
  have altered := Database.alterTable_ok clock ⟨(relayVersion 1).schemas, rows, (relayVersion 1).indexes⟩ .deliveries rfl
    claimed_alters (by decide) (by
      intro a member
      rw [List.mem_singleton.1 member]
      exact Alteration.clean_column (List.mem_singleton_self _) (by decide) fun _ => rfl)
  refine ⟨_, (Database.migrate_cons altered).trans rfl, ?_, rfl⟩
  funext t
  cases t <;> rfl

theorem addAtomicIntake_succeeds (before : AtVersion db 2) : Succeeds clock db addAtomicIntake 3 := by
  obtain ⟨schemas, rows, indexes⟩ := db
  obtain ⟨rfl, rfl⟩ := before
  have events := Database.alterTable_ok clock ⟨(relayVersion 2).schemas, rows, (relayVersion 2).indexes⟩ .relayEvents rfl
    intake_alters (by decide) (intake_clean clock _)
  have routes := Database.alterTable_ok clock {
      schemas := Function.update (relayVersion 2).schemas .relayEvents (some relayEvents3)
      rows := Function.update rows .relayEvents (intakeClauses.foldl (Alteration.fill clock) (rows .relayEvents))
      indexes := (relayVersion 2).indexes } .deliveries rfl route_alters (by decide) (route_clean clock _)
  refine ⟨_, (Database.migrate_cons events).trans (Database.migrate_cons routes), ?_, rfl⟩
  funext t
  cases t <;> rfl

theorem addLeasedClaims_succeeds (before : AtVersion db 3) : Succeeds clock db addLeasedClaims 4 := by
  obtain ⟨schemas, rows, indexes⟩ := db
  obtain ⟨rfl, rfl⟩ := before
  have leases := Database.alterTable_ok clock ⟨(relayVersion 3).schemas, rows, []⟩ .deliveries rfl
    lease_alters (by decide) (lease_clean clock _)
  have dropped := Database.dropColumn_ok clock {
      schemas := Function.update (relayVersion 3).schemas .deliveries (some deliveries4')
      rows := Function.update rows .deliveries (leaseClauses.foldl (Alteration.fill clock) (rows .deliveries))
      indexes := [] } .deliveries RelayColumn.claimed rfl (by decide) rfl
  refine ⟨_, (Database.migrate_cons rfl).trans ((Database.migrate_cons leases).trans
    ((Database.migrate_cons dropped).trans rfl)), ?_, rfl⟩
  funext t
  cases t <;> rfl

/-- The states of before pass, but the table of the attempts has a name twice. -/
theorem addAttemptsAndDeadLetters_refused (reads : Reads clock) (valid : db.Valid) (before : AtVersion db 4) :
    db.migrate clock addAttemptsAndDeadLetters = .error (.duplicateConstraint "delivery_attempts_decision_check") := by
  obtain ⟨schemas, rows, indexes⟩ := db
  obtain ⟨rfl, rfl⟩ := before
  have holds := (valid.holds .deliveries deliveries4 rfl).2
  have states := Database.alterTable_ok clock ⟨(relayVersion 4).schemas, rows, (relayVersion 4).indexes⟩ .deliveries rfl
    deadLetter_alters (by decide) (deadLetter_clean reads holds.fits)
  exact (Database.migrate_cons states).trans
    (Database.migrate_refused [.createIndex deadLetterIndex] (Database.createTable_repeated clock _ rfl deliveryAttempts5_repeated))

end Migrations

/-! ## Deployments -/

/-- A database with the number of migrations it has seen. -/
structure Deployment where
  version : ℕ
  db : RelayDatabase

inductive DeploymentStep where
  /-- A program that comes with one migration more is started. -/
  | migrate (clock : ℕ → ℤ)
  /-- The program of the version writes what the constraints let it. -/
  | write (rows : RelayTable → List (Row RelayColumn))

def deployments : TransitionSystem Deployment DeploymentStep where
  init := ⟨0, .empty⟩
  step := fun s l s' =>
    match l with
    | .migrate clock => Reads clock ∧ ∃ migration, relayMigrations[s.version]? = some migration ∧
        s.db.migrate clock migration = .ok s'.db ∧ s'.version = s.version + 1
    | .write rows => s'.version = s.version ∧ s'.db = { s.db with rows } ∧ s'.db.Valid

/-- What an upgrade keeps: every row, in each column there was but `claimed`. -/
structure Upgrades (db db' : RelayDatabase) : Prop where
  length : ∀ t, (db'.rows t).length = (db.rows t).length
  same : ∀ t schema, db.schemas t = some schema → ∀ c ∈ schema.names, c ≠ .claimed → ∀ (k : ℕ) (r r' : Row RelayColumn),
    (db.rows t)[k]? = some r → (db'.rows t)[k]? = some r' → r' c = r c

section Deployments

variable {clock : ℕ → ℤ} {db db' : RelayDatabase} {n : ℕ} {migration : List RelayStatement}

theorem relayMigrations_cases (next : relayMigrations[n]? = some migration) (early : n < 4) :
    n = 0 ∧ migration = createRelayTables ∨ n = 1 ∧ migration = addDeliveryClaims ∨ n = 2 ∧ migration = addAtomicIntake ∨
      n = 3 ∧ migration = addLeasedClaims := by
  match n, next with
  | 0, rfl => exact .inl ⟨rfl, rfl⟩
  | 1, rfl => exact .inr (.inl ⟨rfl, rfl⟩)
  | 2, rfl => exact .inr (.inr (.inl ⟨rfl, rfl⟩))
  | 3, rfl => exact .inr (.inr (.inr ⟨rfl, rfl⟩))
  | n + 4, _ => omega

theorem migration_succeeds (clock : ℕ → ℤ) (before : AtVersion db n) (next : relayMigrations[n]? = some migration) (early : n < 4) :
    Succeeds clock db migration (n + 1) := by
  obtain ⟨rfl, rfl⟩ | ⟨rfl, rfl⟩ | ⟨rfl, rfl⟩ | ⟨rfl, rfl⟩ := relayMigrations_cases next early
  · exact createRelayTables_succeeds clock before
  · exact addDeliveryClaims_succeeds before
  · exact addAtomicIntake_succeeds before
  · exact addLeasedClaims_succeeds before

/-- A migration touches no column of before but `claimed`. -/
theorem migration_touches (next : relayMigrations[n]? = some migration) (early : n < 4) (t : RelayTable) {schema : RelaySchema}
    (there : (relayVersion n).schemas t = some schema) :
    ∀ c ∈ schema.names, c ≠ .claimed → c ∉ migration.flatMap (·.touched t) := by
  obtain ⟨rfl, rfl⟩ | ⟨rfl, rfl⟩ | ⟨rfl, rfl⟩ | ⟨rfl, rfl⟩ := relayMigrations_cases next early
  all_goals cases t <;> cases there <;> decide

/-- **The migrations that are left never all succeed.** -/
theorem upgrade_refused (reads : Reads clock) (valid : db.Valid) (before : AtVersion db n) (early : n ≤ 4) :
    (relayMigrations.drop n).foldlM (Database.migrate clock) db =
      .error (.duplicateConstraint "delivery_attempts_decision_check") := by
  obtain ⟨k, rest⟩ := Nat.exists_eq_add_of_le early
  induction k generalizing n db with
  | zero =>
    obtain rfl : n = 4 := by omega
    show (addAttemptsAndDeadLetters :: [addOperationalTermination]).foldlM (Database.migrate clock) db = _
    rw [List.foldlM_cons, addAttemptsAndDeadLetters_refused reads valid before]
    rfl
  | succ k ih =>
    have inside : n < relayMigrations.length := by
      show n < 6
      omega
    obtain ⟨db', ran, after⟩ := migration_succeeds clock before (List.getElem?_eq_getElem inside) (by omega)
    rw [List.drop_eq_getElem_cons inside, List.foldlM_cons, ran]
    exact ih (Database.migrate_valid valid ran).1 after (by omega) (by omega)

theorem migration_upgrades (valid : db.Valid) (before : AtVersion db n) (next : relayMigrations[n]? = some migration)
    (early : n < 4) (ran : db.migrate clock migration = .ok db') : Upgrades db db' := by
  obtain ⟨-, kept⟩ := Database.migrate_valid valid ran
  refine ⟨fun t => (kept t).length, ?_⟩
  intro t schema there c named other k r r' here here'
  rw [before.schemas] at there
  exact (kept t).same k r r' here here' c (migration_touches next early t there c named other)

structure Deployment.Inv (s : Deployment) : Prop where
  valid : s.db.Valid
  version : AtVersion s.db s.version
  early : s.version ≤ 4

theorem Deployment.Inv.migrate {s s' : Deployment} (inv : s.Inv) (reads : Reads clock)
    (next : relayMigrations[s.version]? = some migration) (ran : s.db.migrate clock migration = .ok s'.db)
    (version : s'.version = s.version + 1) : s.version < 4 ∧ s'.Inv := by
  have early : s.version < 4 := by
    refine lt_of_le_of_ne inv.early ?_
    intro last
    rw [last] at next
    cases next
    have before : AtVersion s.db 4 := last ▸ inv.version
    rw [addAttemptsAndDeadLetters_refused reads inv.valid before] at ran
    cases ran
  obtain ⟨db', ran', after⟩ := migration_succeeds clock inv.version next early
  rw [ran, Except.ok.injEq] at ran'
  refine ⟨early, (Database.migrate_valid inv.valid ran).1, ?_, ?_⟩
  · rw [version, ran']
    exact after
  · rw [version]
    exact early

theorem deployments_inv_path {s s' : Deployment} {tr : List DeploymentStep} (inv : s.Inv) (path : deployments.Path s tr s') :
    s'.Inv := by
  refine path.preserves Deployment.Inv inv ?_
  intro s l s' inv step
  cases l with
  | migrate clock =>
    obtain ⟨reads, migration, next, ran, version⟩ := step
    exact (inv.migrate reads next ran version).2
  | write rows =>
    obtain ⟨version, wrote, valid⟩ := step
    refine ⟨valid, ?_, ?_⟩
    · rw [version, wrote]
      exact ⟨inv.version.schemas, inv.version.indexes⟩
    · rw [version]
      exact inv.early

theorem deployments_inv_init : deployments.init.Inv := by
  refine ⟨⟨?_, fun _ _ => rfl, ?_, ?_⟩, ⟨?_, rfl⟩, Nat.zero_le 4⟩
  · rintro t schema ⟨⟩
  · rintro t schema ⟨⟩
  · rintro t schema ⟨⟩
  · funext t
    cases t <;> rfl

theorem deployments_inv {s : Deployment} {tr : List DeploymentStep} (run : deployments.Run tr s) : s.Inv :=
  deployments_inv_path deployments_inv_init run

/-- What a start of the program runs: the migrations that the database has not seen, in order. -/
def Deployment.upgrade (clock : ℕ → ℤ) (s : Deployment) : Except Ddl.Error RelayDatabase :=
  (relayMigrations.drop s.version).foldlM (Database.migrate clock) s.db

/-- **Four migrations apply, the fifth never does.** Whatever the versions before have written, the first four succeed one after
the other, and every row keeps every column it had but `claimed`; the whole upgrade is refused on every database, for a constraint
name that the fifth makes twice, and no database comes past version 4. -/
theorem migrations_apply {s : Deployment} {tr : List DeploymentStep} (run : deployments.Run tr s) (reads : Reads clock) :
    (∀ migration, relayMigrations[s.version]? = some migration → s.version < 4 →
      ∃ db', s.db.migrate clock migration = .ok db' ∧ db'.Valid ∧ Upgrades s.db db') ∧
      s.upgrade clock = .error (.duplicateConstraint "delivery_attempts_decision_check") ∧ s.version ≤ 4 := by
  have inv := deployments_inv run
  refine ⟨?_, upgrade_refused reads inv.valid inv.version inv.early, inv.early⟩
  intro migration next early
  obtain ⟨db', ran, -⟩ := migration_succeeds clock inv.version next early
  exact ⟨db', ran, (Database.migrate_valid inv.valid ran).1, migration_upgrades inv.valid inv.version next early ran⟩

/-! ### Upgrades in one go -/

/-- Only migrations. -/
def Upgrading (tr : List DeploymentStep) : Prop := ∀ l ∈ tr, ∃ clock, l = .migrate clock

/-- Each later version up to the fourth is reached by migrations alone. -/
theorem deployments_reach {s : Deployment} (inv : s.Inv) {n : ℕ} (order : s.version ≤ n) (within : n ≤ 4) :
    ∃ tr s', deployments.Path s tr s' ∧ Upgrading tr ∧ s'.version = n := by
  induction n, order using Nat.le_induction with
  | base => exact ⟨[], s, .nil, (fun _ member => by cases member), rfl⟩
  | succ n order ih =>
    obtain ⟨tr, s', path, upgrading, version⟩ := ih (by omega)
    have inv' := deployments_inv_path inv path
    have inside : s'.version < relayMigrations.length := by
      show _ < 6
      omega
    have reads : Reads fun _ => 0 := fun _ => ⟨le_rfl, by norm_num⟩
    obtain ⟨db', ran, -⟩ := migration_succeeds (fun _ => 0) inv'.version (List.getElem?_eq_getElem inside) (by omega)
    have step : deployments.step s' (.migrate fun _ => 0) ⟨s'.version + 1, db'⟩ :=
      ⟨reads, _, List.getElem?_eq_getElem inside, ran, rfl⟩
    refine ⟨_, ⟨s'.version + 1, db'⟩, path.snoc step, ?_, by rw [version]⟩
    intro l member
    obtain earlier | last := List.mem_append.1 member
    · exact upgrading l earlier
    · exact ⟨_, List.mem_singleton.1 last⟩

/-- What has become of a row of `deliveries`, at a version. -/
structure Carried (version : ℕ) (r r' : Row RelayColumn) : Prop where
  same : ∀ c ∈ deliveries1.names, r' c = r c
  claim : 4 ≤ version → r' .claimOwner = none ∧ r' .leaseExpiresAtMs = none ∧ r' .claimGeneration = some (.int 0)

theorem carried_step (valid : db.Valid) (next : relayMigrations[n]? = some migration) (early : n < 4)
    (ran : db.migrate clock migration = .ok db') {k : ℕ} {r r₁ r' : Row RelayColumn} (here : (db.rows .deliveries)[k]? = some r₁)
    (here' : (db'.rows .deliveries)[k]? = some r') (carried : Carried n r r₁) : Carried (n + 1) r r' := by
  obtain ⟨-, kept⟩ := Database.migrate_valid valid ran
  have keeps := (kept .deliveries).same k r₁ r' here here'
  have member := List.mem_of_getElem? here'
  refine ⟨?_, ?_⟩
  · intro c named
    have free : c ∉ migration.flatMap (·.touched .deliveries) := by
      revert c
      obtain ⟨-, rfl⟩ | ⟨-, rfl⟩ | ⟨-, rfl⟩ | ⟨-, rfl⟩ := relayMigrations_cases next early <;> decide
    rw [keeps c free, carried.same c named]
  · intro leased
    obtain rfl : n = 3 := by omega
    cases next
    have default (column : Column RelayColumn) (added : .addColumn column ∈ leaseClauses) :=
      Database.migrate_default column valid (by decide) (List.mem_cons_of_mem _ List.mem_cons_self) added ran member
    obtain ⟨_, owner⟩ := default (nullable .claimOwner .text) (by simp [leaseClauses])
    obtain ⟨_, generation⟩ := default claimGenerationColumn (by simp [leaseClauses])
    obtain ⟨_, expires⟩ := default (nullable .leaseExpiresAtMs .bigint) (by simp [leaseClauses])
    exact ⟨owner, expires, generation⟩

theorem carried_path {s s' : Deployment} {tr : List DeploymentStep} (inv : s.Inv) (early : s.version ≤ 3)
    (path : deployments.Path s tr s') (upgrading : Upgrading tr) :
    (s'.db.rows .deliveries).length = (s.db.rows .deliveries).length ∧
      ∀ (k : ℕ) (r r' : Row RelayColumn), (s.db.rows .deliveries)[k]? = some r → (s'.db.rows .deliveries)[k]? = some r' →
        Carried s'.version r r' := by
  induction path with
  | nil =>
    refine ⟨rfl, ?_⟩
    intro k r r' here here'
    rw [here, Option.some.injEq] at here'
    subst here'
    exact ⟨fun _ _ => rfl, fun _ => by omega⟩
  | @snoc tr l s₁ s₂ path step ih =>
    obtain ⟨length, carried⟩ := ih fun l member => upgrading l (List.mem_append_left _ member)
    obtain ⟨clock, rfl⟩ := upgrading l (List.mem_append_right _ (List.mem_singleton_self l))
    obtain ⟨reads, migration, next, ran, version⟩ := step
    have inv₁ := deployments_inv_path inv path
    obtain ⟨early₁, -⟩ := inv₁.migrate reads next ran version
    obtain ⟨-, kept⟩ := Database.migrate_valid inv₁.valid ran
    refine ⟨(kept .deliveries).length.trans length, ?_⟩
    intro k r r' here here'
    have inside : k < (s₁.db.rows .deliveries).length := by
      rw [length]
      exact (List.getElem?_eq_some_iff.1 here).1
    have middle := List.getElem?_eq_getElem inside
    rw [version]
    exact carried_step inv₁.valid next early₁ ran middle here' (carried k r _ here middle)

/-- **Claims of before leases are released, and no delivery is lost**: at version 4 every row of `deliveries` is in its place as it
was at an earlier version, but it is under no claim, and its next claim is the first of its generations. -/
theorem claims_released {s s' : Deployment} {tr₀ tr : List DeploymentStep} (run : deployments.Run tr₀ s) (early : s.version ≤ 3)
    (path : deployments.Path s tr s') (upgrading : Upgrading tr) (last : s'.version = 4) :
    (s'.db.rows .deliveries).length = (s.db.rows .deliveries).length ∧
      ∀ (k : ℕ) (r r' : Row RelayColumn), (s.db.rows .deliveries)[k]? = some r → (s'.db.rows .deliveries)[k]? = some r' →
        (∀ c ∈ deliveries1.names, r' c = r c) ∧ r' .claimOwner = none ∧ r' .leaseExpiresAtMs = none ∧
          r' .claimGeneration = some (.int 0) := by
  obtain ⟨length, carried⟩ := carried_path (deployments_inv run) early path upgrading
  refine ⟨length, ?_⟩
  intro k r r' here here'
  obtain ⟨same, claim⟩ := carried k r r' here here'
  exact ⟨same, claim last.ge⟩

end Deployments

/-! ### A database of the second version -/

namespace Sample

def relayEventRow : Row RelayColumn
  | .eventId => some (.text "evt-1")
  | .eventType => some (.text "invoice.created")
  | .invoiceId => some (.text "inv-1")
  | .amountCents => some (.int 100)
  | _ => none

/-- A delivery that is claimed. -/
def claimedRow : Row RelayColumn
  | .deliveryId => some (.text "dlv-1")
  | .eventId => some (.text "evt-1")
  | .destinationId => some (.text "dst-1")
  | .state => some (.text "Pending")
  | .claimed => some (.bool true)
  | _ => none

def claimedRows : RelayTable → List (Row RelayColumn)
  | .relayEvents => [relayEventRow]
  | .deliveries => [claimedRow]
  | .deliveryAttempts => []

def claimedDeployment : Deployment := ⟨2, ⟨(relayVersion 2).schemas, claimedRows, [recoveryIndex2]⟩⟩

end Sample

theorem claimedDeployment_valid : Sample.claimedDeployment.db.Valid := by
  have events : relayEvents1.Scoped ∧ relayEvents1.Holds [Sample.relayEventRow] := by
    refine ⟨by decide, ⟨?_, by simp [relayEvents1, Distinct]⟩⟩
    intro r member
    rw [List.mem_singleton.1 member]
    exact ⟨by decide, (fun c => by cases c <;> decide), by decide⟩
  have deliveries : deliveries2.Scoped ∧ deliveries2.Holds [Sample.claimedRow] := by
    refine ⟨by decide, ⟨?_, by simp [deliveries2, deliveries1, Distinct]⟩⟩
    intro r member
    rw [List.mem_singleton.1 member]
    exact ⟨by decide, (fun c => by cases c <;> decide), by decide⟩
  refine ⟨?_, ?_, ?_, ?_⟩
  · intro t schema there
    cases t <;> cases there
    · exact events
    · exact deliveries
  · intro t absent
    cases t <;> cases absent
    rfl
  · intro t schema there ref member
    cases t <;> cases there
    · cases member
    · rw [List.mem_singleton.1 member]
      exact ⟨by decide, relayEvents1, rfl, by decide⟩
  · intro t schema there ref member r among v held
    cases t <;> cases there
    · cases member
    · rw [List.mem_singleton.1 member] at held ⊢
      rw [List.mem_singleton.1 among] at held
      exact ⟨Sample.relayEventRow, List.mem_singleton_self _, held⟩

theorem runs_claimedDeployment : ∃ tr, deployments.Run tr Sample.claimedDeployment := by
  obtain ⟨tr, s, path, -, second⟩ := deployments_reach deployments_inv_init (n := 2) (by decide) (by decide)
  have version := (deployments_inv path).version
  rw [second] at version
  have wrote : Sample.claimedDeployment.db = { s.db with rows := Sample.claimedRows } := by
    show (⟨(relayVersion 2).schemas, Sample.claimedRows, (relayVersion 2).indexes⟩ : RelayDatabase) =
      ⟨s.db.schemas, Sample.claimedRows, s.db.indexes⟩
    rw [version.schemas, version.indexes]
  have step : deployments.step s (.write Sample.claimedRows) Sample.claimedDeployment :=
    ⟨second.symm, wrote, claimedDeployment_valid⟩
  exact ⟨_, path.snoc step⟩

/-- The columns of intake are there next, and then it stops. -/
theorem migrations_apply_claimed :
    (∃ db', Sample.claimedDeployment.db.migrate (fun _ => 0) addAtomicIntake = .ok db' ∧ db'.Valid ∧
      Upgrades Sample.claimedDeployment.db db') ∧
      Sample.claimedDeployment.upgrade (fun _ => 0) = .error (.duplicateConstraint "delivery_attempts_decision_check") := by
  obtain ⟨tr, run⟩ := runs_claimedDeployment
  have reads : Reads fun _ => 0 := fun _ => ⟨le_rfl, by norm_num⟩
  obtain ⟨next, refused, -⟩ := migrations_apply run reads
  exact ⟨next addAtomicIntake rfl (by decide), refused⟩

theorem claims_released_claimed : ∃ s' tr, deployments.Path Sample.claimedDeployment tr s' ∧ ∃ r',
    s'.db.rows .deliveries = [r'] ∧ r' .deliveryId = some (.text "dlv-1") ∧ r' .claimOwner = none := by
  obtain ⟨tr₀, run⟩ := runs_claimedDeployment
  obtain ⟨tr, s', path, upgrading, last⟩ := deployments_reach (deployments_inv run) (n := 4) (by decide) le_rfl
  obtain ⟨length, each⟩ := claims_released run (by decide) path upgrading last
  obtain ⟨r', rows⟩ := List.length_eq_one_iff.1 length
  obtain ⟨same, free, -⟩ := each 0 Sample.claimedRow r' rfl (by rw [rows]; rfl)
  exact ⟨s', tr, path, r', rows, same .deliveryId (by decide), free⟩

end Postgres

end Relay
