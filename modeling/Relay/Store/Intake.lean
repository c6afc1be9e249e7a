import Relay.Adapters.MemoryDecisions
import Relay.Adapters.PostgresDecisions
import Relay.Store.Agreement

/-!
# Intake machines

What a store machine knows of its ingestion keys: nothing, or the decision made
when the key was accepted. `repaired` is what a successful repair of the delivery
makes of that decision. The laws are those a client of `accept` relies on.
-/

namespace Relay

structure IntakeMachine extends StoreMachine where
  Unknown : Store → IngestionKey → Prop
  Kept : Store → IngestionKey → RequestFingerprint → IntakeDecisionFields → Prop
  repaired : DeliveryRouteSnapshot → IntakeDecisionFields → IntakeDecisionFields

/-- The event, the delivery and the instant of an acceptance; the route may differ. -/
structure IntakeDecisionFields.Reports (fields original : IntakeDecisionFields) : Prop where
  event : fields.event = original.event
  delivery : fields.delivery = original.delivery
  acceptedAtMillis : fields.acceptedAtMillis = original.acceptedAtMillis

namespace IntakeMachine

/-- The decision after one executed call. -/
def after (M : IntakeMachine) (fields : IntakeDecisionFields) (l : M.Event) : IntakeDecisionFields :=
  ((M.call l.call).repairs fields.delivery.id l.reply).elim fields fun route => M.repaired route fields

/-- The call saves no delivery directly. -/
def Unsaved (M : IntakeMachine) (c : M.Call) : Prop := ∀ delivery, M.call c ≠ .save delivery

structure Lawful (M : IntakeMachine) : Prop where
  store : M.toStoreMachine.Lawful
  unknown_empty : ∀ key, M.Unknown M.empty key
  /-- An unknown key is accepted, or its transaction fails and changes nothing. -/
  accepts : ∀ {s : M.Store} {c : M.Call} {record : IntakeRecord} (nowMillis : ℕ), M.Sound s →
    M.call c = .accept record → M.Unknown s record.ingestionKey →
    (∃ failure, M.exec nowMillis s c = (.error failure, s) ∧ failure.tag ≠ .ingestionConflictError) ∨
      ∃ claim s', M.exec nowMillis s c = (.ok (.decided (.accepted record.decision claim)), s') ∧
        M.Kept s' record.ingestionKey record.requestFingerprint record.decision
  /-- Only an unknown key is accepted. -/
  accepted : ∀ {s : M.Store} {c : M.Call} {record : IntakeRecord} {fields : IntakeDecisionFields}
    {claim : DeliveryClaim} (nowMillis : ℕ), M.call c = .accept record →
    (M.exec nowMillis s c).1 = .ok (.decided (.accepted fields claim)) → M.Unknown s record.ingestionKey
  /-- A known key replays or conflicts, and nothing changes. -/
  replays : ∀ {s : M.Store} {c : M.Call} {record : IntakeRecord} {fingerprint : RequestFingerprint}
    {fields : IntakeDecisionFields} (nowMillis : ℕ), M.Sound s → M.call c = .accept record →
    M.Kept s record.ingestionKey fingerprint fields →
    M.exec nowMillis s c =
      (if fingerprint = record.requestFingerprint then .ok (.decided (.replay fields))
        else .error (.ingestionConflict record.ingestionKey fields.event.id), s)
  keeps : ∀ {s : M.Store} {key : IngestionKey} {fingerprint : RequestFingerprint}
    {fields : IntakeDecisionFields} (nowMillis : ℕ) (c : M.Call), M.Sound s → M.Unsaved c →
    M.Kept s key fingerprint fields →
    M.Kept (M.exec nowMillis s c).2 key fingerprint (M.after fields ⟨nowMillis, c, (M.exec nowMillis s c).1⟩)
  ignores : ∀ {s : M.Store} {key : IngestionKey} (nowMillis : ℕ) (c : M.Call), M.Sound s →
    (M.call c).ingestionKey ≠ some key → M.Unknown s key → M.Unknown (M.exec nowMillis s c).2 key
  reports : ∀ (route : DeliveryRouteSnapshot) (fields : IntakeDecisionFields),
    (M.repaired route fields).Reports fields

variable {M : IntakeMachine}

theorem Lawful.after_reports (lawful : M.Lawful) {fields original : IntakeDecisionFields}
    (reports : fields.Reports original) (l : M.Event) : (M.after fields l).Reports original := by
  unfold IntakeMachine.after
  cases (M.call l.call).repairs fields.delivery.id l.reply with
  | none => exact reports
  | some route =>
    have same := lawful.reports route fields
    exact ⟨same.event.trans reports.event, same.delivery.trans reports.delivery,
      same.acceptedAtMillis.trans reports.acceptedAtMillis⟩

end IntakeMachine

/-- The maps keep the decision as it was made. -/
def memoryIntake : IntakeMachine where
  toStoreMachine := memory
  Unknown := fun s key => s.intakes.get key = none
  Kept := fun s key fingerprint fields => s.intakes.get key = some (fingerprint, fields)
  repaired := fun _ fields => fields

theorem memoryIntake_after (fields : IntakeDecisionFields) (l : memoryIntake.Event) :
    memoryIntake.after fields l = fields := by
  unfold IntakeMachine.after
  cases (memoryIntake.call l.call).repairs fields.delivery.id l.reply <;> rfl

theorem memoryIntake_lawful : memoryIntake.Lawful where
  store := memory_lawful
  unknown_empty := fun _ => rfl
  accepts := by
    intro s c record nowMillis _ accept unknown
    obtain rfl : c = .accept record := accept
    obtain throws | ⟨claim, s', accepts, intakes⟩ := MemoryStore.accept_unknown nowMillis unknown
    · exact .inl ⟨.defect, throws, nofun⟩
    · refine .inr ⟨claim, s', accepts, ?_⟩
      show s'.intakes.get _ = _
      rw [intakes, OrderedMap.get_set, if_pos rfl]
  accepted := by
    intro s c record fields claim nowMillis accept accepted
    obtain rfl : c = .accept record := accept
    exact MemoryStore.accepted_unknown accepted
  replays := by
    intro s c record fingerprint fields nowMillis _ accept kept
    obtain rfl : c = .accept record := accept
    exact MemoryStore.accept_kept kept rfl
  keeps := by
    intro s key fingerprint fields nowMillis c _ _ kept
    rw [memoryIntake_after]
    exact MemoryStore.exec_kept kept c
  ignores := by
    intro s key nowMillis c _ away unknown
    exact MemoryStore.exec_unknown unknown away
  reports := fun _ _ => ⟨rfl, rfl, rfl⟩

/-- The rows rebuild the decision from the delivery as it is now. -/
def postgresIntake : IntakeMachine where
  toStoreMachine := postgres
  Unknown := fun db key => db.findIntake key = none
  Kept := Postgres.Database.Kept
  repaired := fun route fields => { fields with route }

theorem postgresIntake_after (fields : IntakeDecisionFields) (l : postgresIntake.Event) :
    postgresIntake.after fields l = Postgres.Database.rerouted l.call.call l.reply.answer fields := by
  have same : l.call.call.repairs fields.delivery.id l.reply = l.call.call.repairs fields.delivery.id l.reply.answer := by
    unfold Reply.answer StoreCall.repairs
    cases l.reply <;> cases l.call.call <;> rfl
  unfold IntakeMachine.after Postgres.Database.rerouted
  rw [show (postgresIntake.call l.call).repairs fields.delivery.id l.reply = _ from same]
  cases l.call.call.repairs fields.delivery.id l.reply.answer <;> rfl

theorem postgres_accept {c : Statement} {record : IntakeRecord} (accept : c.call = .accept record) (nowMillis : ℕ)
    (db : Postgres.Database) : postgres.exec nowMillis db c = db.accept nowMillis record := by
  show (if c.resumed then db.resume nowMillis c.call else db.exec nowMillis c.call) = _
  rw [accept]
  split <;> rfl

theorem postgres_events {db : Postgres.Database} {L : Ledger} (rep : db.Represents L) (nowMillis : ℕ) (c : Statement) :
    Postgres.Database.Events db c.call (postgres.exec nowMillis db c).2 := by
  show Postgres.Database.Events db c.call
    (if c.resumed then db.resume nowMillis c.call else db.exec nowMillis c.call).2
  split
  · exact Postgres.Database.resume_events rep nowMillis c.call
  · exact Postgres.Database.exec_events rep nowMillis c.call

theorem postgresIntake_lawful : postgresIntake.Lawful where
  store := postgres_lawful
  unknown_empty := fun _ => rfl
  accepts := by
    rintro db c record nowMillis ⟨L, rep⟩ accept unknown
    have exec := postgres_accept accept nowMillis db
    obtain ⟨failure, fails, tag⟩ | ⟨claim, db', accepts, kept, -⟩ :=
      Postgres.Database.accept_unknown nowMillis rep unknown
    · exact .inl ⟨failure, exec.trans fails, by rw [tag]; exact nofun⟩
    · exact .inr ⟨claim, db', exec.trans accepts, kept⟩
  accepted := by
    intro db c record fields claim nowMillis accept accepted
    rw [show (postgresIntake.exec nowMillis db c) = _ from postgres_accept accept nowMillis db] at accepted
    exact Postgres.Database.accepted_unknown accepted
  replays := by
    rintro db c record fingerprint fields nowMillis ⟨L, rep⟩ accept kept
    exact (postgres_accept accept nowMillis db).trans (Postgres.Database.Kept.accept kept rep rfl)
  keeps := by
    rintro db key fingerprint fields nowMillis c ⟨L, rep⟩ unsaved kept
    obtain ⟨L', rep', served⟩ := postgres_represents rep nowMillis c
    rw [postgresIntake_after]
    exact Postgres.Database.Kept.keeps kept rep rep' served (postgres_events rep nowMillis c) unsaved
  ignores := by
    rintro db key nowMillis c ⟨L, rep⟩ away unknown
    exact (postgres_events rep nowMillis c).findIntake_none away unknown
  reports := fun _ _ => ⟨rfl, rfl, rfl⟩

def Adapter.intake : Adapter → IntakeMachine
  | .memory => memoryIntake
  | .postgres => postgresIntake

theorem Adapter.lawful : ∀ adapter : Adapter, adapter.intake.Lawful
  | .memory => memoryIntake_lawful
  | .postgres => postgresIntake_lawful

end Relay
