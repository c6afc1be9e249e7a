import Relay.Adapters.Memory

/-!
# What the maps keep of an acceptance

The map of intakes keeps a decision as it was made. Only `accept` writes it, and
only under a key it does not hold.
-/

namespace Relay

namespace MemoryStore

variable {s : MemoryStore} {nowMillis : ℕ}

/-! ## What the other calls leave alone -/

/-- Neither the events nor the intakes have changed. -/
structure Frame (s s' : MemoryStore) : Prop where
  events : s'.events = s.events
  intakes : s'.intakes = s.intakes

theorem Frame.refl (s : MemoryStore) : Frame s s := ⟨rfl, rfl⟩

theorem fencedAction_frame {operation : ClaimOperation} {id : DeliveryId} {claim : DeliveryClaim}
    {live : Option ℕ} {act : Delivery → Reply × MemoryStore} (acts : ∀ d, Frame s (act d).2) :
    Frame s (s.fencedAction operation id claim live act).2 := by
  unfold fencedAction
  split
  · exact .refl s
  · split
    · exact .refl s
    · exact acts _

theorem deadLetterAction_frame {id : DeliveryId} {act : Delivery → Reply × MemoryStore}
    (acts : ∀ d, Frame s (act d).2) : Frame s (s.deadLetterAction id act).2 := by
  unfold deadLetterAction
  split
  · exact .refl s
  · split
    · exact acts _
    · exact .refl s

theorem claimPendingLoop_frame (ownerId : WorkerId) (destinationId : DestinationId) (limit lease : Number)
    (deliveries : List Delivery) : ∀ (claimed : List ClaimedDelivery) (s : MemoryStore),
    Frame s (claimPendingLoop nowMillis ownerId destinationId limit lease deliveries claimed s).2 := by
  induction deliveries with
  | nil =>
    intro claimed s
    exact .refl s
  | cons delivery rest ih =>
    intro claimed s
    rw [claimPendingLoop]
    split
    · exact ih claimed s
    · split
      · exact ih claimed s
      · simp only
        split
        · exact .refl s
        · exact ⟨(ih _ _).events, (ih _ _).intakes⟩

/-- Every call but an intake leaves both alone. -/
theorem exec_frame (s : MemoryStore) (nowMillis : ℕ) {call : StoreCall} (away : call.event = none) :
    Frame s (s.exec nowMillis call).2 := by
  cases call with
  | accept | savePending => simp [StoreCall.event] at away
  | save delivery =>
    rw [exec, save]
    split
    · exact .refl s
    · exact ⟨rfl, rfl⟩
  | findById id => exact .refl s
  | claimPending ownerId destinationId limit lease =>
    exact claimPendingLoop_frame ownerId destinationId limit lease _ _ _
  | renewClaim id claim lease =>
    rw [exec, renewClaim]
    split
    · exact .refl s
    · split
      · exact .refl s
      · exact ⟨rfl, rfl⟩
  | recordAttempt attempt =>
    apply fencedAction_frame
    intro d
    simp only
    split
    · exact .refl s
    · split
      · exact ⟨rfl, rfl⟩
      · split <;> exact ⟨rfl, rfl⟩
  | completeClaim id claim result => exact fencedAction_frame fun _ => ⟨rfl, rfl⟩
  | releaseClaim id claim => exact fencedAction_frame fun _ => ⟨rfl, rfl⟩
  | retryDeadLetter id => exact deadLetterAction_frame fun _ => ⟨rfl, rfl⟩
  | repairDeadLetter id route =>
    apply deadLetterAction_frame
    intro d
    split <;> exact ⟨rfl, rfl⟩
  | terminateDeadLetter id => exact deadLetterAction_frame fun _ => ⟨rfl, rfl⟩

theorem exec_intakes (s : MemoryStore) (nowMillis : ℕ) {call : StoreCall} (away : call.ingestionKey = none) :
    (s.exec nowMillis call).2.intakes = s.intakes := by
  cases brings : call.event with
  | none => exact (exec_frame s nowMillis brings).intakes
  | some event =>
    cases call with
    | accept => simp [StoreCall.ingestionKey] at away
    | savePending event id destinationId request =>
      rw [exec, savePending]
      split <;> rfl
    | _ => simp [StoreCall.event] at brings

/-! ## The decision of a key -/

variable {record : IntakeRecord}

/-- **An accepted key replays its decision, or conflicts**, and changes nothing. -/
theorem accept_kept {key : IngestionKey} {fingerprint : RequestFingerprint} {fields : IntakeDecisionFields}
    (kept : s.intakes.get key = some (fingerprint, fields)) (same : record.ingestionKey = key) :
    s.accept nowMillis record =
      (if fingerprint = record.requestFingerprint then .ok (.decided (.replay fields))
        else .error (.ingestionConflict key fields.event.id), s) := by
  subst same
  unfold accept
  rw [kept]
  simp only
  by_cases conflict : fingerprint = record.requestFingerprint
  · rw [if_neg (not_not.2 conflict), if_pos conflict]
  · rw [if_pos conflict, if_neg conflict]

variable (nowMillis) in
/-- **An unknown key is accepted and kept**, or building its claim throws before anything is written. -/
theorem accept_unknown (unknown : s.intakes.get record.ingestionKey = none) :
    s.accept nowMillis record = (.error .defect, s) ∨
      ∃ claim s', s.accept nowMillis record = (.ok (.decided (.accepted record.decision claim)), s') ∧
        s'.intakes = s.intakes.set record.ingestionKey (record.requestFingerprint, record.decision) := by
  unfold accept
  rw [unknown]
  simp only
  split
  · exact .inl rfl
  · exact .inr ⟨_, _, rfl, rfl⟩

theorem accepted_unknown {fields : IntakeDecisionFields} {claim : DeliveryClaim}
    (accepted : (s.accept nowMillis record).1 = .ok (.decided (.accepted fields claim))) :
    s.intakes.get record.ingestionKey = none := by
  cases known : s.intakes.get record.ingestionKey with
  | none => rfl
  | some decision =>
    rw [accept_kept known rfl] at accepted
    simp only at accepted
    split at accepted <;> cases accepted

/-- No call changes the decision of a known key. -/
theorem exec_kept {key : IngestionKey} {fingerprint : RequestFingerprint} {fields : IntakeDecisionFields}
    (kept : s.intakes.get key = some (fingerprint, fields)) (call : StoreCall) :
    (s.exec nowMillis call).2.intakes.get key = some (fingerprint, fields) := by
  by_cases away : call.ingestionKey = none
  · rw [exec_intakes s nowMillis away, kept]
  · cases call with
    | accept record =>
      cases known : s.intakes.get record.ingestionKey with
      | some decision => rw [exec, accept_kept known rfl]; exact kept
      | none =>
        obtain throws | ⟨claim, s', accepts, intakes⟩ := accept_unknown nowMillis known
        · rw [exec, throws]; exact kept
        · have other : key ≠ record.ingestionKey := by
            rintro rfl
            rw [known] at kept
            cases kept
          rw [exec, accepts, intakes, OrderedMap.get_set, if_neg other]
          exact kept
    | _ => exact absurd rfl away

/-- A key stays unknown under calls that do not accept it. -/
theorem exec_unknown {key : IngestionKey} (unknown : s.intakes.get key = none) {call : StoreCall}
    (away : call.ingestionKey ≠ some key) : (s.exec nowMillis call).2.intakes.get key = none := by
  by_cases none : call.ingestionKey = none
  · rw [exec_intakes s nowMillis none, unknown]
  · cases call with
    | accept record =>
      cases known : s.intakes.get record.ingestionKey with
      | some decision => rw [exec, accept_kept known rfl]; exact unknown
      | none =>
        obtain throws | ⟨claim, s', accepts, intakes⟩ := accept_unknown nowMillis known
        · rw [exec, throws]; exact unknown
        · have other : key ≠ record.ingestionKey := fun same => away (by rw [same]; rfl)
          rw [exec, accepts, intakes, OrderedMap.get_set, if_neg other]
          exact unknown
    | _ => exact absurd rfl none

end MemoryStore

end Relay
