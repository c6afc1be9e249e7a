import Relay.Ledger.Effect
import Relay.Library.Transition

/-!
# Fencing in the ledger

The generation counter of an entry only grows, every issue takes the next value,
and a claim stands only on a pending delivery and carries the counter. So a
generation that is not the last one issued holds nothing, whoever presents it.
-/

namespace Relay

/-- One served call. -/
structure Serving where
  nowMillis : ℕ
  call : StoreCall
  answer : Answer

/-- The ledger under any sequence of served calls at any clock readings. -/
def ledgerSystem : TransitionSystem Ledger Serving where
  init := fun _ => none
  step := fun L l L' => Served l.nowMillis L l.call l.answer L'

/-- The generation issued last for a delivery; 0 when there is none. -/
def counter (x : Option Entry) : ℕ := (x.map (·.generation)).getD 0

/-- A claim stands on a pending delivery and carries the counter. -/
def Entry.Fenced (e : Entry) : Prop :=
  ∀ claim, e.claim = some claim → e.delivery.state = .pending ∧ (claim.generation : ℕ) = e.generation

def Ledger.Fenced (L : Ledger) : Prop := ∀ id e, L id = some e → e.Fenced

/-- The instant a lease must run past, for the operations that look at it. -/
def Fence.live (f : Fence) (nowMillis : ℕ) : Option ℕ :=
  if f.operation = .release then none else some nowMillis

section Entry

variable {e : Entry} {ownerId : WorkerId} {generation : ClaimGeneration} {live : Option ℕ}

/-- What the holder of a claim knows. -/
theorem Entry.holds_iff : e.holds ownerId generation live = true ↔
    e.delivery.state = .pending ∧ ∃ claim, e.claim = some claim ∧ claim.ownerId = ownerId ∧
      claim.generation = generation ∧ ∀ t, live = some t → t < claim.leaseExpiresAtMillis := by
  unfold Entry.holds
  cases e.claim with
  | none => simp
  | some claim =>
    cases live with
    | none => simp
    | some t => simp [and_assoc]

theorem Entry.holds_generation (fenced : e.Fenced) (holds : e.holds ownerId generation live = true) :
    (generation : ℕ) = e.generation := by
  obtain ⟨-, claim, held, -, same, -⟩ := Entry.holds_iff.1 holds
  rw [← same]
  exact (fenced claim held).2

/-- A delivery is admitted under its first claim. -/
theorem Entry.admitted_fenced {delivery : Delivery} {claim : DeliveryClaim} (pending : delivery.state = .pending)
    (first : claim.generation = 1) (route : Option DeliveryRouteSnapshot) (eligibleAt : ℕ) :
    (Entry.admitted delivery claim route eligibleAt).Fenced := by
  intro claim' held
  cases held
  exact ⟨pending, by rw [first]; rfl⟩

end Entry

section Effect

variable {nowMillis : ℕ} {id : DeliveryId} {call : StoreCall} {x y : Option Entry} {gs : List ℕ}

theorem Effect.fenced (effect : Effect nowMillis id call x gs y) (fenced : ∀ e, x = some e → e.Fenced) :
    ∀ e, y = some e → e.Fenced := by
  rintro e rfl
  cases effect with
  | same => exact fenced e rfl
  | saved | stranded => exact nofun
  | admitted call delivery claim route eligibleAt creates event named pending first =>
    exact Entry.admitted_fenced pending first route eligibleAt
  | issued ownerId destinationId limit lease expires e due =>
    intro claim held
    cases held
    unfold Entry.due at due
    simp only [Bool.and_eq_true, decide_eq_true_eq] at due
    exact ⟨due.1.1.1, rfl⟩
  | scheduled attempt named e holds new retry => exact fenced e rfl
  | settled | completed | released | retried | repaired | terminated => exact nofun
  | renewed claim lease expires e holds =>
    intro claim' held
    cases held
    exact ⟨(Entry.holds_iff.1 holds).1, Entry.holds_generation (e := e) (fenced e rfl) holds⟩

/-- The counter moves by issuing, to the generation issued. -/
theorem Effect.counter (effect : Effect nowMillis id call x gs y) :
    (gs = [] ∧ counter y = counter x) ∨ (gs = [counter x + 1] ∧ counter y = counter x + 1) := by
  cases effect with
  | admitted | issued => exact .inr ⟨rfl, rfl⟩
  | same | saved | stranded | scheduled | settled | renewed | completed | released | retried | repaired
  | terminated => exact .inl ⟨rfl, rfl⟩

end Effect

section Served

variable {nowMillis : ℕ} {L L' : Ledger} {call : StoreCall} {answer : Answer}

theorem Served.fenced (served : Served nowMillis L call answer L') (fenced : L.Fenced) : L'.Fenced :=
  fun id e held => (served.effect id).fenced (fun e' held' => fenced id e' held') e held

theorem fenced_answer {ownerId : WorkerId} {generation : ClaimGeneration} {live : Option ℕ}
    {act : Entry → Answer × Option Entry} (id : DeliveryId) :
    (∃ e, L id = some e ∧ e.holds ownerId generation live = true) ∨
      ((Entry.fenced ownerId generation live act (L id)).1 = .error .claimLostError ∧
        Function.update L id (Entry.fenced ownerId generation live act (L id)).2 = L) := by
  cases held : L id with
  | none =>
    refine .inr ⟨rfl, ?_⟩
    rw [Entry.fenced, ← held]
    exact Function.update_eq_self id L
  | some e =>
    by_cases holds : e.holds ownerId generation live = true
    · exact .inl ⟨e, rfl, holds⟩
    · rw [Entry.fenced, if_neg holds]
      exact .inr ⟨rfl, by rw [← held]; exact Function.update_eq_self id L⟩

/-- A record under a claim that does not hold is turned away. -/
theorem Entry.recordAttempt_away {attempt : DeliveryAttemptRecord} {x : Option Entry}
    (away : ∀ e, x = some e → ¬ e.holds attempt.workerId attempt.claimGeneration (some nowMillis) = true) :
    (Entry.recordAttempt nowMillis attempt x).1 = .error .claimLostError := by
  cases x with
  | none => rfl
  | some e => rw [Entry.recordAttempt, Entry.fenced, if_neg (away e rfl)]

/-- A fenced call finds the claim it presents, or fails and changes nothing; with `ClaimLostError` unless a store may
refuse it first. -/
theorem Served.fence (served : Served nowMillis L call answer L') {f : Fence} (fence : call.fence = some f) :
    (∃ e, L f.deliveryId = some e ∧ e.holds f.ownerId f.generation (f.live nowMillis) = true) ∨
      ∃ tag, answer = .error tag ∧ L' = L ∧ (call.refusable = false → tag = .claimLostError) := by
  have lose : ∀ {r : Answer × Option Entry},
      (∃ e, L f.deliveryId = some e ∧ e.holds f.ownerId f.generation (f.live nowMillis) = true) ∨
        (r.1 = .error .claimLostError ∧ Function.update L f.deliveryId r.2 = L) →
      (∃ e, L f.deliveryId = some e ∧ e.holds f.ownerId f.generation (f.live nowMillis) = true) ∨
        ∃ tag, r.1 = .error tag ∧ Function.update L f.deliveryId r.2 = L ∧
          (call.refusable = false → tag = .claimLostError) := by
    rintro r (holds | ⟨lost, same⟩)
    · exact .inl holds
    · exact .inr ⟨_, lost, same, fun _ => rfl⟩
  cases served with
  | onEntry call id op about =>
    cases call with
    | renewClaim id claim lease =>
      obtain ⟨p, -, hp⟩ := Option.map_eq_some_iff.1 about
      cases hp
      cases fence
      exact lose (fenced_answer id)
    | recordAttempt attempt => cases about; cases fence; exact lose (fenced_answer attempt.deliveryId)
    | completeClaim id claim result => cases about; cases fence; exact lose (fenced_answer id)
    | releaseClaim id claim => cases about; cases fence; exact lose (fenced_answer id)
    | save | findById | retryDeadLetter | repairDeadLetter | terminateDeadLetter | accept | savePending
    | claimPending => cases fence
  | regranted id claim lease expires odd => cases fence; exact lose (fenced_answer id)
  | refused call tag unfenced =>
    obtain none | ⟨refusable, -⟩ := unfenced
    · rw [none] at fence; cases fence
    · exact .inr ⟨tag, rfl, rfl, fun heard => by rw [heard] at refusable; cases refusable⟩
  | claimPending | accepted | replayed | saved | stranded => cases fence

end Served

/-! ## A lost claim stays lost -/

/-- The claim cannot act at `clock` or at any later time. -/
def Lost (L : Ledger) (id : DeliveryId) (ownerId : WorkerId) (generation : ClaimGeneration) (clock : ℕ) : Prop :=
  ∃ e, L id = some e ∧ (generation : ℕ) ≤ e.generation ∧
    ∀ nowMillis, clock ≤ nowMillis → ¬ e.holds ownerId generation (some nowMillis) = true

section Lost

variable {nowMillis clock : ℕ} {L L' : Ledger} {call : StoreCall} {answer : Answer} {id : DeliveryId}
  {ownerId : WorkerId} {generation : ClaimGeneration} {e : Entry}

/-- A claim that holds at a time holds at every earlier one. -/
theorem Entry.holds_earlier {later : ℕ} (earlier : nowMillis ≤ later)
    (holds : e.holds ownerId generation (some later) = true) : e.holds ownerId generation (some nowMillis) = true := by
  obtain ⟨pending, claim, held, owner, same, live⟩ := Entry.holds_iff.1 holds
  refine Entry.holds_iff.2 ⟨pending, claim, held, owner, same, ?_⟩
  rintro t ⟨⟩
  exact lt_of_le_of_lt earlier (live later rfl)

theorem lost_of_not_holds (held : L id = some e) (issued : (generation : ℕ) ≤ e.generation)
    (away : ¬ e.holds ownerId generation (some nowMillis) = true) : Lost L id ownerId generation nowMillis :=
  ⟨e, held, issued, fun _ later holds => away (Entry.holds_earlier later holds)⟩

theorem Lost.later {clock' : ℕ} (lost : Lost L id ownerId generation clock) (later : clock ≤ clock') :
    Lost L id ownerId generation clock' := by
  obtain ⟨e, held, issued, away⟩ := lost
  exact ⟨e, held, issued, fun nowMillis after => away nowMillis (le_trans later after)⟩

/-- No call gives a lost claim back, while the clock does not run backwards. -/
theorem Served.lost (served : Served nowMillis L call answer L') (later : clock ≤ nowMillis)
    (lost : Lost L id ownerId generation clock) : Lost L' id ownerId generation nowMillis := by
  obtain ⟨e, held, issued, away⟩ := lost.later later
  have effect := served.effect id
  rw [held] at effect
  generalize after : L' id = y at effect
  generalize Relay.issued id answer = gs at effect
  cases effect with
  | same => exact ⟨e, after, issued, away⟩
  | issued owner destinationId limit lease expires e due =>
    refine ⟨_, after, Nat.le_succ_of_le issued, ?_⟩
    intro now _ holds
    obtain ⟨-, claim, current, -, same, -⟩ := Entry.holds_iff.1 holds
    cases current
    have next : (generation : ℕ) = e.generation + 1 := by
      rw [← same]
      rfl
    omega
  | scheduled attempt named e holds new retry => exact ⟨_, after, issued, away⟩
  | renewed claim lease expires e holds =>
    refine ⟨_, after, issued, ?_⟩
    intro now _ holds'
    obtain ⟨-, claim', current, rfl, rfl, -⟩ := Entry.holds_iff.1 holds'
    cases current
    exact away nowMillis (le_refl _) holds
  | settled | completed | released | retried | repaired | terminated =>
    refine ⟨_, after, issued, ?_⟩
    intro now _ holds
    obtain ⟨-, claim, current, -⟩ := Entry.holds_iff.1 holds
    cases current

/-- A renewal that is turned away with `ClaimLostError` presented a claim that does not hold. -/
theorem Served.renewClaim_lost {claim : DeliveryClaim} {lease : Number}
    (served : Served nowMillis L (.renewClaim id claim lease) (.error .claimLostError) L') :
    L' = L ∧ ∀ e, L id = some e → ¬ e.holds claim.ownerId claim.generation (some nowMillis) = true := by
  have lose : ∀ expires, (Entry.renewClaim nowMillis claim expires (L id)).1 = .error .claimLostError →
      Function.update L id (Entry.renewClaim nowMillis claim expires (L id)).2 = L ∧
        ∀ e, L id = some e → ¬ e.holds claim.ownerId claim.generation (some nowMillis) = true := by
    intro expires refused
    have fenced : (∃ e, L id = some e ∧ e.holds claim.ownerId claim.generation (some nowMillis) = true) ∨
        ((Entry.renewClaim nowMillis claim expires (L id)).1 = .error .claimLostError ∧
          Function.update L id (Entry.renewClaim nowMillis claim expires (L id)).2 = L) := fenced_answer id
    obtain ⟨e, held, holds⟩ | ⟨-, same⟩ := fenced
    · rw [Entry.renewClaim, held, Entry.fenced, if_pos holds] at refused
      cases refused
    · refine ⟨same, ?_⟩
      intro e held holds
      rw [Entry.renewClaim, held, Entry.fenced, if_pos holds] at refused
      cases refused
  generalize answered : (.error .claimLostError : Answer) = answer at served
  cases served with
  | onEntry call id' op about =>
    obtain ⟨p, -, hp⟩ := Option.map_eq_some_iff.1 about
    cases hp
    exact lose _ answered.symm
  | regranted id claim lease expires odd => exact lose expires answered.symm
  | refused call tag unfenced =>
    cases answered
    obtain none | ⟨-, other⟩ := unfenced
    · cases none
    · exact absurd rfl other

end Lost

/-! ## Runs -/

/-- The generations issued for one delivery along a run, in order. -/
def issuedAlong (id : DeliveryId) (tr : List Serving) : List ℕ := tr.flatMap fun l => issued id l.answer

variable {tr : List Serving} {L : Ledger}

theorem run_fenced (run : ledgerSystem.Run tr L) : L.Fenced :=
  run.preserves Ledger.Fenced (fun _ _ held => by cases held) fun _ _ _ fenced served =>
    Served.fenced served fenced

/-- **Generations increase along every run**, up to the counter. -/
theorem run_issued (run : ledgerSystem.Run tr L) (id : DeliveryId) :
    (issuedAlong id tr).Pairwise (· < ·) ∧ ∀ g ∈ issuedAlong id tr, g ≤ counter (L id) := by
  refine run.invariant (fun tr L => (issuedAlong id tr).Pairwise (· < ·) ∧
    ∀ g ∈ issuedAlong id tr, g ≤ counter (L id)) ⟨.nil, by simp [issuedAlong]⟩ ?_
  rintro tr L l L' ⟨increasing, bounded⟩ served
  have along : issuedAlong id (tr ++ [l]) = issuedAlong id tr ++ issued id l.answer := by
    simp [issuedAlong]
  rw [along]
  obtain ⟨none, same⟩ | ⟨one, next⟩ := (Served.effect served id).counter
  · rw [none, List.append_nil, same]
    exact ⟨increasing, bounded⟩
  · rw [one, next]
    refine ⟨?_, ?_⟩
    · rw [List.pairwise_append]
      refine ⟨increasing, List.pairwise_singleton _ _, ?_⟩
      intro g hg g' hg'
      have := bounded g hg
      rw [List.mem_singleton] at hg'
      omega
    · intro g hg
      obtain hg | hg := List.mem_append.1 hg
      · have := bounded g hg
        omega
      · rw [List.mem_singleton] at hg
        omega

end Relay
