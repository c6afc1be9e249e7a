import Relay.Ledger.Lifecycle
import Relay.Store.Machine

/-!
# The lifecycle over whole runs

Every call on a store that a run has reached moves each delivery along its
lifecycle and leaves alone the deliveries it does not concern; along any further
run a delivery stays the one it was, with the history it had, and one that has
ended stays ended.
-/

namespace Relay

/-- What holds between an entry and a later one. -/
structure Entry.Continues (e e' : Entry) : Prop where
  final : e.delivery.state.isFinal = true → e'.delivery.state = e.delivery.state
  attempts : e.attempts <+: e'.attempts
  generation : e.generation ≤ e'.generation
  identical : e.Identical e'

theorem Entry.Continues.refl (e : Entry) : e.Continues e where
  final := fun _ => rfl
  attempts := List.prefix_rfl
  generation := le_rfl
  identical := ⟨rfl, rfl, rfl⟩

theorem Entry.Continues.trans {e e' e'' : Entry} (first : e.Continues e') (next : e'.Continues e'') :
    e.Continues e'' where
  final := by
    intro final
    have same := first.final final
    rw [← same] at final
    exact (next.final final).trans same
  attempts := first.attempts.trans next.attempts
  generation := first.generation.trans next.generation
  identical := first.identical.trans next.identical

theorem Entry.Advances.continues {id : DeliveryId} {call : StoreCall} {answer : Answer} {e e' : Entry}
    (advances : e.Advances id call answer e') : e.Continues e' :=
  ⟨advances.state.final, advances.attempts, advances.generation, advances.identical⟩

namespace StoreMachine

variable (M : StoreMachine)

structure Lifecycle : Prop where
  /-- One call on any delivery there is. -/
  advances : ∀ {tr s}, M.system.Run tr s → ∀ nowMillis c, M.Fresh s c → ∀ id e, M.view s id = some e →
    ∃ e', M.view (M.exec nowMillis s c).2 id = some e' ∧
      e.Advances id (M.call c) (M.exec nowMillis s c).1.answer e'
  /-- The deliveries a call does not concern. -/
  frame : ∀ {tr s}, M.system.Run tr s → ∀ nowMillis c, M.Fresh s c → ∀ id,
    ¬ (M.call c).Concerns (M.exec nowMillis s c).1.answer id →
    M.view (M.exec nowMillis s c).2 id = M.view s id
  /-- Any further calls. -/
  continues : ∀ {tr s}, M.system.Run tr s → ∀ {calls s'}, M.system.Path s calls s' → ∀ id e, M.view s id = some e →
    ∃ e', M.view s' id = some e' ∧ e.Continues e'

variable {M}

/-- **Every lawful store machine keeps the lifecycle.** -/
theorem Lawful.lifecycle (lawful : M.Lawful) : M.Lifecycle where
  advances := by
    intro tr s run nowMillis c fresh id e held
    exact (lawful.served nowMillis c (lawful.run run).1 fresh).advances held
  frame := by
    intro tr s run nowMillis c fresh id apart
    exact (lawful.served nowMillis c (lawful.run run).1 fresh).frame apart
  continues := by
    intro tr s run calls s' path id e held
    have both : M.Sound s' ∧ ∃ e', M.view s' id = some e' ∧ e.Continues e' := by
      apply path.preserves (fun s' => M.Sound s' ∧ ∃ e', M.view s' id = some e' ∧ e.Continues e')
      · exact ⟨(lawful.run run).1, e, held, .refl e⟩
      · rintro s l s' ⟨sound, e', held', so⟩ step
        obtain ⟨sound', served⟩ := lawful.step sound step
        obtain ⟨e'', held'', advances⟩ := served.advances held'
        exact ⟨sound', e'', held'', so.trans advances.continues⟩
    exact both.2

end StoreMachine

/-- **Both adapters keep the lifecycle of every delivery.** -/
theorem adapters_keep_lifecycle : memory.Lifecycle ∧ postgres.Lifecycle :=
  ⟨memory_lawful.lifecycle, postgres_lawful.lifecycle⟩

end Relay
