import Relay.Ledger.Attempts

/-!
# Claims that are gone

A claim that stands on no entry any more, and whose generation was issued, never comes
back: later claims have later generations, and a renewal keeps the claim it finds. A
fenced call touches no claim but the one it presents.
-/

namespace Relay

/-- The generation was issued, and the delivery is not under a claim of this owner with it. -/
structure Relinquished (L : Ledger) (id : DeliveryId) (ownerId : WorkerId) (generation : ClaimGeneration) : Prop where
  issued : (generation : ℕ) ≤ counter (L id)
  absent : ∀ e claim, L id = some e → e.claim = some claim → ¬ (claim.ownerId = ownerId ∧ claim.generation = generation)

section Relinquished

variable {nowMillis : ℕ} {L L' : Ledger} {call : StoreCall} {answer : Answer} {id : DeliveryId} {ownerId : WorkerId}
  {generation : ClaimGeneration}

/-- No call takes a generation back. -/
theorem Served.counter_le (served : Served nowMillis L call answer L') (id : DeliveryId) :
    counter (L id) ≤ counter (L' id) := by
  obtain ⟨-, same⟩ | ⟨-, next⟩ := (served.effect id).counter
  · exact same.ge
  · omega

/-- A claim that is handed out was issued. -/
theorem Served.handedOut_issued (served : Served nowMillis L call answer L') {c : ClaimedDelivery}
    (member : c ∈ handedOut answer) : (c.claim.generation : ℕ) ≤ counter (L' c.delivery.id) := by
  have among := issued_of_handedOut member
  obtain ⟨none, -⟩ | ⟨one, next⟩ := (served.effect c.delivery.id).counter
  · rw [none] at among
    cases among
  · rw [one, List.mem_singleton] at among
    omega

/-- **No call brings a relinquished claim back.** -/
theorem Served.relinquished (served : Served nowMillis L call answer L')
    (gone : Relinquished L id ownerId generation) : Relinquished L' id ownerId generation := by
  refine ⟨gone.issued.trans (served.counter_le id), ?_⟩
  intro e' claim' after held'
  have effect := served.effect id
  have issued := gone.issued
  have absent := gone.absent
  rw [after] at effect
  generalize L id = x at effect issued absent
  generalize Relay.issued id answer = gs at effect
  cases effect with
  | same => exact absent e' claim' rfl held'
  | saved | stranded => cases held'
  | admitted call delivery claim route eligibleAt creates event named pending first =>
    have positive := generation.pos
    change (generation : ℕ) ≤ 0 at issued
    omega
  | issued owner destinationId limit lease expires e due =>
    cases held'
    rintro ⟨-, same⟩
    have next : (generation : ℕ) = e.generation + 1 := by
      rw [← same]
      rfl
    change (generation : ℕ) ≤ e.generation at issued
    omega
  | scheduled attempt named e holds new retry => exact absent e claim' rfl held'
  | renewed claim lease expires e holds =>
    obtain ⟨-, standing, held, owner, same, -⟩ := Entry.holds_iff.1 holds
    cases held'
    rw [← owner, ← same]
    exact absent e standing rfl held
  | settled | completed | released | retried | repaired | terminated => cases held'

/-- A release that reaches the store leaves the claim nowhere, whatever it answers. -/
theorem Served.releaseClaim_relinquished {claim : DeliveryClaim} (fenced : L.Fenced)
    (issued : (claim.generation : ℕ) ≤ counter (L id))
    (served : Served nowMillis L (.releaseClaim id claim) answer L') :
    Relinquished L' id claim.ownerId claim.generation := by
  refine ⟨issued.trans (served.counter_le id), ?_⟩
  intro e' claim' after held'
  cases served with
  | onEntry call id' op about =>
    cases about
    rw [Function.update_self] at after
    cases held : L id with
    | none =>
      rw [held] at after
      cases after
    | some e =>
      rw [held, Entry.releaseClaim, Entry.fenced] at after
      split at after
      · cases after
        cases held'
      · next away =>
        cases after
        rintro ⟨owner, same⟩
        refine away (Entry.holds_iff.2 ⟨(fenced id e' held claim' held').1, claim', held', owner, same, ?_⟩)
        rintro _ ⟨⟩
  | refused call tag unfenced =>
    obtain none | ⟨malformed, -⟩ := unfenced
    · cases none
    · cases malformed

/-- A record that ends the delivery ends the claim it was written under. -/
theorem Served.recordAttempt_relinquished {attempt : DeliveryAttemptRecord} {value : StoreValue} (fenced : L.Fenced)
    (served : Served nowMillis L (.recordAttempt attempt) (.ok value) L') (last : attempt.decision ≠ .retryScheduled) :
    Relinquished L' attempt.deliveryId attempt.workerId attempt.claimGeneration := by
  obtain ⟨state, implied, -⟩ := terminalStateFromAttempt_some last
  obtain ⟨-, e, e', held, holds, after, written⟩ | ⟨⟨tag, refused⟩, -⟩ := served.recordAttempt
  · obtain ⟨retry, -⟩ | ⟨state', -, rfl⟩ := written
    · rw [implied] at retry
      cases retry
    · have current := Entry.holds_generation (fenced _ e held) holds
      rw [after]
      constructor
      · rw [Function.update_self]
        exact current.le
      · intro e'' claim here under
        rw [Function.update_self, Option.some.injEq] at here
        subst here
        cases under
  · cases refused

/-- **A fenced call touches no claim but its own.** -/
theorem Served.claim_kept (served : Served nowMillis L call answer L') {f : Fence} (fence : call.fence = some f)
    {e : Entry} {claim : DeliveryClaim} (held : L id = some e) (under : e.claim = some claim)
    (other : ¬ (id = f.deliveryId ∧ claim.ownerId = f.ownerId ∧ claim.generation = f.generation)) :
    ∃ e', L' id = some e' ∧ e'.claim = some claim := by
  have effect := served.effect id
  rw [held] at effect
  generalize after : L' id = y at effect
  generalize Relay.issued id answer = gs at effect
  -- the holder of the claim presented is the claim that stands
  have own : ∀ {owner : WorkerId} {generation : ClaimGeneration} {live : Option ℕ},
      e.holds owner generation live = true → claim.ownerId = owner ∧ claim.generation = generation := by
    intro owner generation live holds
    obtain ⟨-, standing, current, sameOwner, same, -⟩ := Entry.holds_iff.1 holds
    rw [under, Option.some.injEq] at current
    subst current
    exact ⟨sameOwner, same⟩
  cases effect with
  | same => exact ⟨e, rfl, under⟩
  | scheduled attempt named e holds new retry => exact ⟨_, rfl, under⟩
  | settled attempt named e state holds new last =>
    cases fence
    exact absurd ⟨named.symm, own holds⟩ other
  | renewed | completed | released =>
    cases fence
    exact absurd ⟨rfl, own ‹_›⟩ other
  | issued | retried | repaired | terminated => cases fence

end Relinquished

end Relay
