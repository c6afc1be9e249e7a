import Relay.Adapters.PostgresCodecs
import Relay.Intake.Submission
import Relay.Library.Codec

/-!
# The schemas over JSON (`src/model.ts`)

What is stored and answered as a value of the domain is one as JSON: a codec for each
schema, with the properties in the order of its fields.
-/

namespace Relay

open Json

/-! ## Checked values -/

/-- `Schema.Int`. -/
def int : Codec ℤ := Codec.integer.check isSafeInteger

theorem int_fits {n : ℤ} (safe : isSafeInteger n = true) : int.Fits n := by
  refine ⟨?_, safe⟩
  rw [isSafeInteger, Bool.and_eq_true, decide_eq_true_eq, decide_eq_true_eq, show maxSafeInteger = 2 ^ 53 - 1 from rfl] at safe
  show n.natAbs < 2 ^ 53
  omega

/-- `Schema.Int.check(isGreaterThanOrEqualTo(0))`. -/
def nonnegative : Codec ℕ :=
  int.refine (fun n => if 0 ≤ n then some n.toNat else none) (fun n => n)
    (by
      intro n _
      rw [if_pos (Int.natCast_nonneg n), Int.toNat_natCast])
    (by
      intro n m made
      split at made
      · cases made
        omega
      · cases made)

/-- `Schema.Int.check(isGreaterThan(0))`. -/
def positive : Codec ℕ+ :=
  nonnegative.refine (fun n => if h : 0 < n then some ⟨n, h⟩ else none) (fun n => n)
    (by
      intro n _
      exact dif_pos n.pos)
    (by
      intro n m made
      split at made
      · cases made
        rfl
      · cases made)

/-- `Schema.String.check(isPattern(_)).pipe(brand(_))`. -/
def slug (tag : String) : Codec (Slug tag) :=
  Codec.string.refine (Postgres.slug? tag) Slug.text (fun s _ => Postgres.slug?_text s)
    (by
      intro text s made
      unfold Postgres.slug? at made
      split at made
      · cases made
        rfl
      · cases made)

def traceText (n : ℕ) : Codec (TraceText n) :=
  Codec.string.refine (Postgres.traceText? n) TraceText.text (fun t _ => dif_pos t.wf)
    (by
      intro text t made
      unfold Postgres.traceText? at made
      split at made
      · cases made
        rfl
      · cases made)

theorem int_proper (n : ℤ) : int.encode n ≠ .null := by
  intro same
  cases same

theorem nonnegative_proper (n : ℕ) : nonnegative.encode n ≠ .null := int_proper n

theorem traceText_proper (n : ℕ) (t : TraceText n) : (traceText n).encode t ≠ .null := by
  intro same
  cases same

section Literals

open Postgres

def topic : Codec Topic :=
  Codec.literals Topic.text [.invoiceCreated] (fun t => by cases t; simp) (fun s t _ => by cases s; cases t; rfl)

/-- `_tag` of a `DeliveryState`. -/
def stateTag : Codec DeliveryRowState :=
  Codec.literals stateText states (fun s => by cases s <;> decide)
    (fun s t same => by revert same; cases s <;> cases t <;> decide)

def deadLetterReason : Codec DeadLetterReason :=
  Codec.literals reasonText reasons (fun r => by cases r <;> decide)
    (fun r t same => by revert same; cases r <;> cases t <;> decide)

/-- `Schema.Literal("OperatorTerminated")`. -/
def operatorTerminated : Codec Unit := Codec.literals (fun _ => "OperatorTerminated") [()] List.mem_singleton_self (fun _ _ _ => rfl)

def attemptOutcome : Codec AttemptOutcome :=
  Codec.literals outcomeText outcomes (fun o => by cases o <;> decide)
    (fun o t same => by revert same; cases o <;> cases t <;> decide)

def attemptDecision : Codec AttemptDecision :=
  Codec.literals decisionText decisions (fun d => by cases d <;> decide)
    (fun d t same => by revert same; cases d <;> cases t <;> decide)

end Literals

/-! ## Identifiers as texts -/

theorem slugBody_chars {cs : List Char} : ∀ {closed : Bool}, slugBody closed cs = true →
    ∀ c ∈ cs, c = '-' ∨ (c.isLower || c.isDigit) = true := by
  induction cs with
  | nil =>
    intro closed _ c member
    cases member
  | cons d cs ih =>
    intro closed body c member
    unfold slugBody at body
    split at body
    · rename_i same
      cases same
    · rename_i same
      obtain ⟨rfl, rfl⟩ := List.cons.inj same
      obtain ⟨-, rest⟩ := Bool.and_eq_true_iff.1 body
      obtain rfl | later := List.mem_cons.1 member
      · exact .inl rfl
      · exact ih rest c later
    · rename_i same
      obtain ⟨rfl, rfl⟩ := List.cons.inj same
      obtain ⟨alphanumeric, rest⟩ := Bool.and_eq_true_iff.1 body
      obtain rfl | later := List.mem_cons.1 member
      · exact .inr alphanumeric
      · exact ih rest c later

/-- The text of a slug has its tag in front, and no character but hyphens, lowercase letters and digits after it. -/
theorem Slug.text_eq {tag : String} (slug : Slug tag) :
    ∃ rest, slug.text.toList = tag.toList ++ rest ∧ ∀ c ∈ rest, c = '-' ∨ (c.isLower || c.isDigit) = true := by
  obtain ⟨text, wf⟩ := slug
  obtain ⟨tagged, body⟩ := Bool.and_eq_true_iff.1 wf
  obtain ⟨rest, same⟩ := List.isPrefixOf_iff_prefix.1 tagged
  have dropped : text.toList.drop tag.length = rest := by
    rw [← same, ← String.length_toList, List.drop_left]
  rw [dropped] at body
  exact ⟨rest, same.symm, slugBody_chars body⟩

/-- A separator that is not in the tag is not in the text. -/
theorem Slug.plain {tag : String} {c : Char} (slug : Slug tag) (outside : c ∉ tag.toList)
    (other : ¬ (c = '-' ∨ (c.isLower || c.isDigit) = true)) : c ∉ slug.text.toList := by
  obtain ⟨rest, text, chars⟩ := slug.text_eq
  rw [text]
  intro member
  obtain early | late := List.mem_append.1 member
  · exact outside early
  · exact other (chars c late)

/-! ## Events -/

def RelayEvent.fields : Fields RelayEvent :=
  ((Fields.one "id" (slug "evt-")).and ((Fields.one "type" topic).and
    ((Fields.one "invoiceId" (slug "inv-")).and (Fields.one "amountCents" positive)))).refine
    (fun (id, type, invoiceId, amountCents) => some ⟨id, type, invoiceId, amountCents⟩)
    (fun e => (e.id, e.type, e.invoiceId, e.amountCents))
    (fun _ _ => rfl)
    (fun _ _ made => by cases made; rfl)

def RelayEvent.codec : Codec RelayEvent := RelayEvent.fields.codec (by decide +kernel)

/-- `RelayEventFromJson`. -/
def decodeRelayEventJson : String → Option RelayEvent := RelayEvent.codec.decodeText

/-! ## Deliveries -/

/-- A union told apart by `_tag`; each case has its own further properties. -/
def DeliveryState.fields : Fields DeliveryState where
  keys := ["_tag", "status", "reason"]
  write s := match s with
    | .pending => [("_tag", stateTag.encode .pending)]
    | .delivered status => [("_tag", stateTag.encode .delivered), ("status", int.encode status)]
    | .rejected status => [("_tag", stateTag.encode .rejected), ("status", int.encode status)]
    | .deadLettered reason => [("_tag", stateTag.encode .deadLettered), ("reason", deadLetterReason.encode reason)]
    | .terminated => [("_tag", stateTag.encode .terminated), ("reason", operatorTerminated.encode ())]
  read properties := ((properties "_tag").bind stateTag.decode).bind fun tag => match tag with
    | .pending => some .pending
    | .delivered => ((properties "status").bind int.decode).map .delivered
    | .rejected => ((properties "status").bind int.decode).map .rejected
    | .deadLettered => ((properties "reason").bind deadLetterReason.decode).map .deadLettered
    | .terminated => ((properties "reason").bind operatorTerminated.decode).map fun _ => .terminated
  Fits s := match s with
    | .delivered status | .rejected status => int.Fits status
    | .pending | .deadLettered _ | .terminated => True
  keys_write s := by
    cases s with
    | pending => exact (by decide : ["_tag"].Sublist ["_tag", "status", "reason"])
    | delivered status | rejected status => exact (by decide : ["_tag", "status"].Sublist ["_tag", "status", "reason"])
    | deadLettered reason | terminated => exact (by decide : ["_tag", "reason"].Sublist ["_tag", "status", "reason"])
  read_write s fits properties given := by
    have tag (t : Postgres.DeliveryRowState) : stateTag.decode (stateTag.encode t).parsed = some t :=
      stateTag.decode_encode t trivial
    cases s with
    | pending =>
      simp only [List.mem_singleton, forall_eq] at given
      simp only [given, Option.bind_some, tag]
    | delivered status | rejected status =>
      simp only [List.mem_cons, List.not_mem_nil, or_false, forall_eq_or_imp, forall_eq] at given
      simp only [given.1, given.2, Option.bind_some, tag, int.decode_encode status fits, Option.map_some]
    | deadLettered reason =>
      simp only [List.mem_cons, List.not_mem_nil, or_false, forall_eq_or_imp, forall_eq] at given
      simp only [given.1, given.2, Option.bind_some, tag, deadLetterReason.decode_encode reason trivial, Option.map_some]
    | terminated =>
      simp only [List.mem_cons, List.not_mem_nil, or_false, forall_eq_or_imp, forall_eq] at given
      simp only [given.1, given.2, Option.bind_some, tag, operatorTerminated.decode_encode () trivial, Option.map_some]
  fits properties s read := by
    obtain ⟨tag, -, rest⟩ := Option.bind_eq_some_iff.1 read
    cases s with
    | delivered status | rejected status =>
      cases tag <;> simp only [Option.map_eq_some_iff, Option.bind_eq_some_iff, reduceCtorEq, and_false, exists_false,
        Option.some.injEq] at rest
      obtain ⟨status', ⟨v, -, decoded⟩, same⟩ := rest
      cases same
      exact int.fits v status decoded
    | pending | deadLettered reason | terminated => trivial

def DeliveryState.codec : Codec DeliveryState := DeliveryState.fields.codec (by decide +kernel)

def Delivery.codec : Codec Delivery :=
  (((Fields.one "id" (slug "dlv-")).and ((Fields.one "eventId" (slug "evt-")).and
    ((Fields.one "destinationId" (slug "dst-")).and (Fields.one "state" DeliveryState.codec)))).refine
    (fun (id, eventId, destinationId, state) => some ⟨id, eventId, destinationId, state⟩)
    (fun d => (d.id, d.eventId, d.destinationId, d.state))
    (fun _ _ => rfl)
    (fun _ _ made => by cases made; rfl)).codec (by decide +kernel)

/-! ## Attempts -/

/-- The properties of an attempt, in the order of its fields. -/
abbrev AttemptFields : Type :=
  DeliveryId × ℕ+ × WorkerId × ℕ+ × ℕ × ℕ × AttemptOutcome × AttemptDecision × Option ℤ × Option ℕ × Option (TraceText 32) ×
    Option (TraceText 16)

def DeliveryAttemptRecord.toFields (a : DeliveryAttemptRecord) : AttemptFields :=
  (a.deliveryId, a.ordinal, a.workerId, a.claimGeneration, a.startedAtMillis, a.completedAtMillis, a.outcome, a.decision,
    a.status, a.retryDelayMillis, a.traceId, a.spanId)

/-- The filter stands after the fields. -/
def DeliveryAttemptRecord.ofFields? : AttemptFields → Option DeliveryAttemptRecord
  | (deliveryId, ordinal, workerId, claimGeneration, startedAtMillis, completedAtMillis, outcome, decision, status,
      retryDelayMillis, traceId, spanId) =>
    if consistent : consistentAttempt startedAtMillis completedAtMillis outcome decision status retryDelayMillis traceId
        spanId = true then
      some { deliveryId, ordinal, workerId, claimGeneration, startedAtMillis, completedAtMillis, outcome, decision, status,
             retryDelayMillis, traceId, spanId, consistent }
    else none

theorem DeliveryAttemptRecord.ofFields?_toFields (a : DeliveryAttemptRecord) : ofFields? a.toFields = some a :=
  dif_pos a.consistent

theorem DeliveryAttemptRecord.toFields_of_ofFields? {parts : AttemptFields} {a : DeliveryAttemptRecord}
    (made : ofFields? parts = some a) : a.toFields = parts := by
  unfold ofFields? at made
  split at made
  split at made
  · cases made
    rfl
  · cases made

def DeliveryAttemptRecord.codec : Codec DeliveryAttemptRecord :=
  (((Fields.one "deliveryId" (slug "dlv-")).and ((Fields.one "ordinal" positive).and
    ((Fields.one "workerId" (slug "wrk-")).and ((Fields.one "claimGeneration" positive).and
    ((Fields.one "startedAtMillis" nonnegative).and ((Fields.one "completedAtMillis" nonnegative).and
    ((Fields.one "outcome" attemptOutcome).and ((Fields.one "decision" attemptDecision).and
    ((Fields.one "status" (int.nullOr int_proper)).and
    ((Fields.one "retryDelayMillis" (nonnegative.nullOr nonnegative_proper)).and
    ((Fields.one "traceId" ((traceText 32).nullOr (traceText_proper 32))).and
    (Fields.one "spanId" ((traceText 16).nullOr (traceText_proper 16)))))))))))))).refine
    ofFields? toFields (fun a _ => ofFields?_toFields a) (fun _ _ => toFields_of_ofFields?)).codec (by decide +kernel)

def DeliveryStatus.codec : Codec DeliveryStatus :=
  (((Fields.one "delivery" Delivery.codec).and (Fields.one "attempts" DeliveryAttemptRecord.codec.list)).refine
    (fun (delivery, attempts) => some ⟨delivery, attempts⟩)
    (fun s => (s.delivery, s.attempts))
    (fun _ _ => rfl)
    (fun _ _ made => by cases made; rfl)).codec (by decide +kernel)

/-! ## The values that fit -/

theorem nonnegative_fits {n : ℕ} (small : n ≤ maxSafeInteger) : nonnegative.Fits n := by
  have safe : isSafeInteger n = true := by
    rw [isSafeInteger_natCast, decide_eq_true_eq]
    exact small
  exact int_fits safe

theorem positive_fits {n : ℕ+} (small : (n : ℕ) ≤ maxSafeInteger) : positive.Fits n := nonnegative_fits small

theorem RelayEvent.fits {e : RelayEvent} (small : (e.amountCents : ℕ) ≤ maxSafeInteger) : RelayEvent.codec.Fits e :=
  ⟨trivial, trivial, trivial, positive_fits small⟩

/-- The status is a safe integer. -/
def DeliveryState.Safe : DeliveryState → Prop
  | .delivered status | .rejected status => isSafeInteger status = true
  | .pending | .deadLettered _ | .terminated => True

/-- All numbers are safe integers. -/
structure DeliveryAttemptRecord.Safe (a : DeliveryAttemptRecord) : Prop where
  ordinal : (a.ordinal : ℕ) ≤ maxSafeInteger
  claimGeneration : (a.claimGeneration : ℕ) ≤ maxSafeInteger
  startedAtMillis : a.startedAtMillis ≤ maxSafeInteger
  completedAtMillis : a.completedAtMillis ≤ maxSafeInteger
  status : ∀ status ∈ a.status, isSafeInteger status = true
  retryDelayMillis : ∀ delay ∈ a.retryDelayMillis, delay ≤ maxSafeInteger

structure DeliveryStatus.Safe (s : DeliveryStatus) : Prop where
  state : s.delivery.state.Safe
  attempts : ∀ a ∈ s.attempts, a.Safe

theorem DeliveryState.Safe.fits {s : DeliveryState} (safe : s.Safe) : DeliveryState.codec.Fits s := by
  cases s with
  | delivered status | rejected status => exact int_fits safe
  | pending | deadLettered reason | terminated => trivial

theorem DeliveryAttemptRecord.Safe.fits {a : DeliveryAttemptRecord} (safe : a.Safe) : DeliveryAttemptRecord.codec.Fits a := by
  have status : ∀ status ∈ a.status, int.Fits status := fun status held => int_fits (safe.status status held)
  have delay : ∀ delay ∈ a.retryDelayMillis, nonnegative.Fits delay :=
    fun delay held => nonnegative_fits (safe.retryDelayMillis delay held)
  exact ⟨trivial, positive_fits safe.ordinal, trivial, positive_fits safe.claimGeneration,
    nonnegative_fits safe.startedAtMillis, nonnegative_fits safe.completedAtMillis, trivial, trivial, status, delay,
    fun _ _ => trivial, fun _ _ => trivial⟩

theorem DeliveryStatus.Safe.fits {s : DeliveryStatus} (safe : s.Safe) : DeliveryStatus.codec.Fits s :=
  ⟨⟨trivial, trivial, trivial, safe.state.fits⟩, fun a member => (safe.attempts a member).fits⟩

end Relay
