import Relay.Adapters.MemoryRefines
import Relay.Adapters.PostgresClaim
import Relay.Ledger.Fencing

/-!
# Store machines

A store machine is an adapter as its clients meet it: atomic calls on a state,
each at a clock reading, and the ledger a state shows. A lawful machine serves
every call the way the ledger does, so every run of it is a run of the ledger.
-/

namespace Relay

structure StoreMachine where
  Store : Type
  /-- The atomic steps; for SQL a statement or a transaction. -/
  Call : Type
  empty : Store
  call : Call → StoreCall
  exec : ℕ → Store → Call → Reply × Store
  view : Store → Ledger
  /-- What every reachable state satisfies. -/
  Sound : Store → Prop

namespace StoreMachine

/-- Delivery ids are fresh at creation. -/
def Fresh (M : StoreMachine) (s : M.Store) (c : M.Call) : Prop :=
  ∀ id, (M.call c).creates = some id → M.view s id = none

structure Lawful (M : StoreMachine) : Prop where
  sound_empty : M.Sound M.empty
  view_empty : M.view M.empty = fun _ => none
  sound : ∀ {s : M.Store} (nowMillis : ℕ) (c : M.Call), M.Sound s → M.Sound (M.exec nowMillis s c).2
  served : ∀ {s : M.Store} (nowMillis : ℕ) (c : M.Call), M.Sound s → M.Fresh s c →
    Served nowMillis (M.view s) (M.call c) (M.exec nowMillis s c).1.answer (M.view (M.exec nowMillis s c).2)

/-- One executed call. -/
structure Event (M : StoreMachine) where
  nowMillis : ℕ
  call : M.Call
  reply : Reply

def Event.serving {M : StoreMachine} (l : M.Event) : Serving := ⟨l.nowMillis, M.call l.call, l.reply.answer⟩

/-- Calls in any order, by anyone, at any clock readings. -/
def system (M : StoreMachine) : TransitionSystem M.Store M.Event where
  init := M.empty
  step := fun s l s' => M.Fresh s l.call ∧ M.exec l.nowMillis s l.call = (l.reply, s')

theorem step_of_fresh (M : StoreMachine) (nowMillis : ℕ) {s : M.Store} {c : M.Call} (fresh : M.Fresh s c) :
    M.system.step s ⟨nowMillis, c, (M.exec nowMillis s c).1⟩ (M.exec nowMillis s c).2 := ⟨fresh, rfl⟩

/-- A lawful machine simulates the ledger. -/
theorem Lawful.simulation {M : StoreMachine} (lawful : M.Lawful) :
    TransitionSystem.Simulation M.system ledgerSystem Event.serving
      fun s L => M.Sound s ∧ L = M.view s where
  init := ⟨lawful.sound_empty, lawful.view_empty.symm⟩
  step := by
    rintro s _ l s' ⟨sound, rfl⟩ ⟨fresh, run⟩
    have served := lawful.served l.nowMillis l.call sound fresh
    have sound' := lawful.sound l.nowMillis l.call sound
    rw [run] at served sound'
    exact ⟨M.view s', served, sound', rfl⟩

theorem Lawful.step {M : StoreMachine} (lawful : M.Lawful) {s s' : M.Store} (sound : M.Sound s) {l : M.Event}
    (step : M.system.step s l s') : M.Sound s' ∧ Served l.nowMillis (M.view s) (M.call l.call) l.reply.answer (M.view s') := by
  obtain ⟨_, served, sound', rfl⟩ := lawful.simulation.step ⟨sound, rfl⟩ step
  exact ⟨sound', served⟩

/-- Every run of a lawful machine is a run of the ledger it shows. -/
theorem Lawful.run {M : StoreMachine} (lawful : M.Lawful) {tr : List M.Event} {s : M.Store}
    (run : M.system.Run tr s) : M.Sound s ∧ ledgerSystem.Run (tr.map Event.serving) (M.view s) := by
  obtain ⟨_, run', sound, rfl⟩ := lawful.simulation.run run
  exact ⟨sound, run'⟩

end StoreMachine

/-- The memory maps; a call runs without yielding, so it is one step. -/
def memory : StoreMachine where
  Store := MemoryStore
  Call := StoreCall
  empty := .empty
  call := id
  exec := MemoryStore.exec
  view := MemoryStore.view
  Sound := MemoryStore.Sound

theorem memory_lawful : memory.Lawful where
  sound_empty := MemoryStore.sound_empty
  view_empty := MemoryStore.view_empty
  sound := fun nowMillis c sound => (MemoryStore.exec_refines sound nowMillis c).1
  served := fun nowMillis c sound fresh => (MemoryStore.exec_refines sound nowMillis c).2 fresh

/-- A statement or transaction of the SQL adapter. A resumed call is the update of an operator action
whose read of the delivery was an earlier statement. -/
structure Statement where
  call : StoreCall
  resumed : Bool
deriving DecidableEq

/-- The SQL tables; a statement or transaction is one step. -/
def postgres : StoreMachine where
  Store := Postgres.Database
  Call := Statement
  empty := .empty
  call := Statement.call
  exec := fun nowMillis db c => if c.resumed then db.resume nowMillis c.call else db.exec nowMillis c.call
  view := Postgres.Database.view
  Sound := Postgres.Database.Sound

theorem postgres_represents {db : Postgres.Database} {L : Ledger} (rep : db.Represents L) (nowMillis : ℕ)
    (c : Statement) : ∃ L', (postgres.exec nowMillis db c).2.Represents L' ∧
      Served nowMillis L c.call (postgres.exec nowMillis db c).1.answer L' := by
  cases resumed : c.resumed with
  | true =>
    have run : postgres.exec nowMillis db c = db.resume nowMillis c.call := if_pos resumed
    rw [run]
    exact Postgres.Database.resume_represents rep nowMillis c.call
  | false =>
    have run : postgres.exec nowMillis db c = db.exec nowMillis c.call := by
      show (if c.resumed then _ else _) = _
      rw [resumed]
      rfl
    rw [run]
    exact Postgres.Database.exec_represents rep nowMillis c.call

theorem postgres_lawful : postgres.Lawful where
  sound_empty := ⟨_, Postgres.Database.represents_empty⟩
  view_empty := Postgres.Database.represents_empty.view
  sound := by
    rintro db nowMillis c ⟨L, rep⟩
    obtain ⟨L', rep', -⟩ := postgres_represents rep nowMillis c
    exact ⟨L', rep'⟩
  served := by
    rintro db nowMillis c ⟨L, rep⟩ -
    obtain ⟨L', rep', served⟩ := postgres_represents rep nowMillis c
    have before : postgres.view db = L := rep.view
    have after : postgres.view (postgres.exec nowMillis db c).2 = L' := rep'.view
    rw [before, after]
    exact served

/-- The two implementations of the repository and the intake store. -/
inductive Adapter where
  | memory
  | postgres

def Adapter.machine : Adapter → StoreMachine
  | .memory => Relay.memory
  | .postgres => Relay.postgres

/-! ## A first delivery -/

namespace Sample

def event : RelayEvent := ⟨⟨"evt-1", by decide⟩, .invoiceCreated, ⟨"inv-1", by decide⟩, 100⟩
def delivery : DeliveryId := ⟨"dlv-1", by decide⟩
def destination : DestinationId := ⟨"dst-1", by decide⟩
def worker : WorkerId := ⟨"wrk-1", by decide⟩
def savePending : StoreCall := .savePending event delivery destination ⟨worker, 1000⟩
def claim : DeliveryClaim := ⟨worker, Nat.toPNat' 1, 1000⟩
def key : IngestionKey := ⟨"key-1", by decide⟩
def claimed : ClaimedDelivery := ⟨claim, ⟨delivery, event.id, destination, .pending⟩, event, 0, 1, none⟩

/-- The first claim ends with a request that timed out and no retry left. -/
def exhaust : StoreCall :=
  .completeClaim delivery claim
    (.exhausted ⟨delivery, destination, [⟨1, 1, 2, .timedOut destination, .exhausted⟩]⟩ (.timedOut destination))

end Sample

end Relay
