import Relay.Adapters.PostgresReads
import Relay.Store.Agreement

/-!
# Status reads among concurrent statements

`findStatus` and `listDeadLetters` select delivery rows in one statement and the
attempts of each row in another, while any call may commit in between. A read
remembers the states of the tables since it began. What it answers was held by one of
them: the calls in between change rows, but no call writes an attempt.
-/

namespace Relay

namespace Postgres

/-- A status read between two of its statements. -/
structure StatusRead where
  operation : RepositoryOperation
  /-- The deliveries whose attempts are still to be read. -/
  pending : List Delivery
  statuses : List DeliveryStatus
  /-- The states since the read began. -/
  seen : List Database

structure StatusAnswer where
  statuses : List DeliveryStatus
  seen : List Database

structure StatusReads where
  db : Database
  reads : ℕ → Option StatusRead
  answers : List StatusAnswer

namespace StatusReads

variable (s : StatusReads)

/-- A read answers when no attempts are left to read. -/
def proceed (reader : ℕ) (read : StatusRead) : StatusReads :=
  match read.pending with
  | [] =>
    { s with
      reads := Function.update s.reads reader none
      answers := s.answers ++ [⟨read.statuses, read.seen⟩] }
  | _ :: _ => { s with reads := Function.update s.reads reader (some read) }

/-- After the first statement. -/
def start (reader : ℕ) (operation : RepositoryOperation) : Except Failure (List Delivery) → StatusReads
  | .error _ => s
  | .ok deliveries => s.proceed reader ⟨operation, deliveries, [], [s.db]⟩

/-- The statement that reads the attempts of the next delivery. -/
def resume (reader : ℕ) : StatusReads :=
  match s.reads reader with
  | none => s
  | some read =>
    match read.pending with
    | [] => s
    | delivery :: pending =>
      match s.db.readStatus read.operation delivery with
      | .error _ => { s with reads := Function.update s.reads reader none }
      | .ok status => s.proceed reader { read with pending, statuses := read.statuses ++ [status] }

/-- Another call commits. -/
def commit (db : Database) : StatusReads :=
  { s with
    db
    reads := fun reader => (s.reads reader).map fun read => { read with seen := read.seen ++ [db] } }

end StatusReads

inductive ReadStep where
  | commit (event : postgres.Event)
  | findStatus (reader : ℕ) (id : DeliveryId)
  | listDeadLetters (reader : ℕ) (limit : Number)
  | readAttempts (reader : ℕ)

/-- Any number of readers among any calls. -/
def statusReads (collation : Collation) : TransitionSystem StatusReads ReadStep where
  init := ⟨.empty, fun _ => none, []⟩
  step := fun s l s' =>
    match l with
    | .commit event => ∃ db, postgres.anyCalls.step s.db event db ∧ s' = s.commit db
    | .findStatus reader id => s.reads reader = none ∧
        s' = s.start reader .findStatus ((s.db.findRowById .findStatus id).map Option.toList)
    | .listDeadLetters reader limit => s.reads reader = none ∧
        s' = s.start reader .listDeadLetters (s.db.listDeadLetterRows collation limit)
    | .readAttempts reader => (s.reads reader).isSome ∧ s' = s.resume reader

/-- One of the states held the delivery together with its attempts. -/
def Held (seen : List Database) (status : DeliveryStatus) : Prop :=
  ∃ db ∈ seen, (db.view status.delivery.id).map Entry.status = some status

instance (seen : List Database) (status : DeliveryStatus) : Decidable (Held seen status) :=
  inferInstanceAs (Decidable (∃ db ∈ seen, _))

/-- Every status answered was held in one state since its read began. -/
def StatusReads.Consistent (s : StatusReads) : Prop :=
  ∀ answer ∈ s.answers, ∀ status ∈ answer.statuses, Held answer.seen status

instance (s : StatusReads) : Decidable s.Consistent := inferInstanceAs (Decidable (∀ answer ∈ s.answers, _))

/-- No status answered shows an attempt. -/
def StatusReads.Unattempted (s : StatusReads) : Prop :=
  ∀ answer ∈ s.answers, ∀ status ∈ answer.statuses, status.attempts = []

/-! ## What an unfinished read has -/

/-- Each row that was read is a status already, since it has no attempts. -/
structure StatusRead.Follows (read : StatusRead) : Prop where
  pending : ∀ delivery ∈ read.pending, Held read.seen ⟨delivery, []⟩
  statuses : ∀ status ∈ read.statuses, Held read.seen status ∧ status.attempts = []

structure StatusReads.Inv (s : StatusReads) : Prop where
  reachable : postgres.anyCalls.Reachable s.db
  follows : ∀ reader read, s.reads reader = some read → read.Follows
  consistent : s.Consistent
  unattempted : s.Unattempted

/-- A delivery the tables hold now is held with no attempts. -/
theorem held_now {db : Database} (reachable : postgres.anyCalls.Reachable db) {delivery : Delivery} {e : Entry}
    (held : db.view delivery.id = some e) (same : e.delivery = delivery) : Held [db] ⟨delivery, []⟩ := by
  refine ⟨db, List.mem_singleton_self db, ?_⟩
  have none : e.attempts = [] := view_unattempted (postgres_unattempted reachable) held
  rw [held, Option.map_some, Entry.status, none, same]
  rfl

theorem Held.mono {seen seen' : List Database} {status : DeliveryStatus} (held : Held seen status) (more : seen ⊆ seen') :
    Held seen' status := by
  obtain ⟨db, member, status⟩ := held
  exact ⟨db, more member, status⟩

/-- The statement that reads attempts finds none. -/
theorem readStatus_unattempted {db : Database} (reachable : postgres.anyCalls.Reachable db)
    (operation : RepositoryOperation) (delivery : Delivery) : db.readStatus operation delivery = .ok ⟨delivery, []⟩ := by
  have none : db.findAttempts delivery.id = [] := by
    rw [Database.findAttempts, Database.attemptsOf, Keyed.select, postgres_unattempted reachable]
    rfl
  rw [Database.readStatus, Database.readAttempts, none]
  rfl

/-! ## The invariant -/

section Inv

variable {s : StatusReads} {collation : Collation}

theorem inv_init : (statusReads collation).init.Inv where
  reachable := .init
  follows := fun _ _ reading => by cases reading
  consistent := fun _ member => by cases member
  unattempted := fun _ member => by cases member

/-- Only one reader moves. -/
theorem StatusReads.Inv.follows_update (inv : s.Inv) (reader : ℕ) {x : Option StatusRead}
    (follows : ∀ read, x = some read → read.Follows) (reader' : ℕ) (read : StatusRead)
    (reading : Function.update s.reads reader x reader' = some read) : read.Follows := by
  by_cases other : reader' = reader
  · rw [other, Function.update_self] at reading
    exact follows read reading
  · rw [Function.update_of_ne other] at reading
    exact inv.follows reader' read reading

theorem StatusReads.Inv.proceed (inv : s.Inv) (reader : ℕ) {read : StatusRead} (follows : read.Follows) :
    (s.proceed reader read).Inv := by
  unfold StatusReads.proceed
  split
  · refine ⟨inv.reachable, ?_, ?_, ?_⟩
    · exact inv.follows_update reader fun _ reading => by cases reading
    · intro answer member status shown
      obtain member | answered := List.mem_append.1 member
      · exact inv.consistent answer member status shown
      · rw [List.mem_singleton.1 answered] at shown ⊢
        exact (follows.statuses status shown).1
    · intro answer member status shown
      obtain member | answered := List.mem_append.1 member
      · exact inv.unattempted answer member status shown
      · rw [List.mem_singleton.1 answered] at shown
        exact (follows.statuses status shown).2
  · refine ⟨inv.reachable, inv.follows_update reader ?_, inv.consistent, inv.unattempted⟩
    rintro read' ⟨⟩
    exact follows

theorem StatusReads.Inv.start (inv : s.Inv) (reader : ℕ) (operation : RepositoryOperation)
    {rows : Except Failure (List Delivery)}
    (held : ∀ deliveries, rows = .ok deliveries → ∀ delivery ∈ deliveries, Held [s.db] ⟨delivery, []⟩) :
    (s.start reader operation rows).Inv := by
  cases rows with
  | error failure => exact inv
  | ok deliveries => exact inv.proceed reader ⟨held deliveries rfl, fun _ member => by cases member⟩

theorem StatusReads.Inv.resume (inv : s.Inv) (reader : ℕ) : (s.resume reader).Inv := by
  unfold StatusReads.resume
  split
  · exact inv
  next read reading =>
  have follows := inv.follows reader read reading
  split
  · exact inv
  · next delivery pending rows =>
    have row := follows.pending delivery (by rw [rows]; exact List.mem_cons_self)
    rw [readStatus_unattempted inv.reachable]
    refine inv.proceed reader ⟨?_, ?_⟩
    · intro delivery' later
      exact follows.pending delivery' (by rw [rows]; exact List.mem_cons_of_mem _ later)
    · intro status member
      obtain member | last := List.mem_append.1 member
      · exact follows.statuses status member
      · rw [List.mem_singleton.1 last]
        exact ⟨row, rfl⟩

/-- What was held stays remembered when another call commits. -/
theorem StatusReads.Inv.commit (inv : s.Inv) {event : postgres.Event} {db : Database}
    (step : postgres.anyCalls.step s.db event db) : (s.commit db).Inv := by
  refine ⟨inv.reachable.step step, ?_, inv.consistent, inv.unattempted⟩
  intro reader read' reading
  obtain ⟨read, before, rfl⟩ := Option.map_eq_some_iff.1 reading
  have follows := inv.follows reader read before
  have more : read.seen ⊆ read.seen ++ [db] := List.subset_append_left _ _
  refine ⟨?_, ?_⟩
  · intro delivery member
    exact (follows.pending delivery member).mono more
  · intro status member
    obtain ⟨held, none⟩ := follows.statuses status member
    exact ⟨held.mono more, none⟩

theorem inv_step {s s' : StatusReads} {l : ReadStep} (inv : s.Inv) (step : (statusReads collation).step s l s') : s'.Inv := by
  obtain ⟨L, rep⟩ := postgres_lawful.sound_of_reachable inv.reachable
  cases l with
  | commit event =>
    obtain ⟨db, commits, rfl⟩ := step
    exact inv.commit commits
  | findStatus reader id =>
    obtain ⟨-, rfl⟩ := step
    refine inv.start reader .findStatus ?_
    intro deliveries found delivery member
    rw [Database.findRowById_eq rep .findStatus] at found
    cases held : L id with
    | none =>
      rw [held] at found
      cases found
      cases member
    | some e =>
      rw [held] at found
      cases found
      rw [Option.map_some, Option.toList_some, List.mem_singleton] at member
      rw [member]
      refine held_now inv.reachable (e := e) ?_ rfl
      rw [rep.view, (rep.valid id e held).named]
      exact held
  | listDeadLetters reader limit =>
    obtain ⟨-, rfl⟩ := step
    refine inv.start reader .listDeadLetters ?_
    intro deliveries listed delivery member
    obtain ⟨e, held, same⟩ := Database.listDeadLetterRows_held rep listed member
    exact held_now inv.reachable (by rw [rep.view]; exact held) same
  | readAttempts reader =>
    obtain ⟨-, rfl⟩ := step
    exact inv.resume reader

end Inv

/-- **A status read answers what one state held**, in every run, and shows no attempt: a Pending delivery never has a
last one, nor a dead-lettered one those of a later replay. -/
theorem statusReads_consistent (collation : Collation) {tr : List ReadStep} {s : StatusReads}
    (run : (statusReads collation).Run tr s) :
    s.Consistent ∧ s.Unattempted := by
  have inv : s.Inv := run.preserves StatusReads.Inv inv_init fun _ _ _ => inv_step
  exact ⟨inv.consistent, inv.unattempted⟩

/-! ## A read around the end of a claim -/

namespace Sample

open Relay.Sample

def deliver : StoreCall := .completeClaim delivery claim (.delivered ⟨delivery, destination, []⟩ 204)

def created : Database := (postgres.exec 0 .empty ⟨savePending, false⟩).2
def completed : Database := (postgres.exec 1 created ⟨deliver, false⟩).2

/-- The row is read pending. -/
def rowRead : StatusReads :=
  ((statusReads .codePoint).init.commit created).start 0 .findStatus ((created.findRowById .findStatus delivery).map Option.toList)

/-- The attempts are read after the delivery was completed. -/
def around : StatusReads := (rowRead.commit completed).resume 0

def creation : ReadStep := .commit ⟨0, ⟨savePending, false⟩, (postgres.exec 0 .empty ⟨savePending, false⟩).1⟩
def completion : ReadStep := .commit ⟨1, ⟨deliver, false⟩, (postgres.exec 1 created ⟨deliver, false⟩).1⟩

theorem around_run : (statusReads .codePoint).Run [creation, .findStatus 0 delivery, completion, .readAttempts 0] around := by
  let reads := statusReads .codePoint
  have creates : reads.step reads.init creation (reads.init.commit created) := ⟨created, rfl, rfl⟩
  have begins : reads.step (reads.init.commit created) (.findStatus 0 delivery) rowRead := ⟨rfl, rfl⟩
  have completes : reads.step rowRead completion (rowRead.commit completed) := ⟨completed, rfl, rfl⟩
  have answers : reads.step (rowRead.commit completed) (.readAttempts 0) around := ⟨by decide +kernel, rfl⟩
  exact .snoc (.snoc (.snoc (.snoc .nil creates) begins) completes) answers

end Sample

/-- The answer is the delivery as it was when its row was read. -/
theorem statusReads_consistent_around :
    Sample.around.answers.map (·.statuses) = [[⟨⟨Relay.Sample.delivery, Relay.Sample.event.id, Relay.Sample.destination,
      .pending⟩, []⟩]] ∧ Sample.around.Consistent ∧ Sample.around.Unattempted :=
  ⟨by decide +kernel, statusReads_consistent .codePoint Sample.around_run⟩

end Postgres

end Relay
