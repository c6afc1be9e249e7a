import Relay.Domain.Model
import Relay.Library.Text

/-!
# Submissions and their fingerprints (`src/eventIntake.ts`)

A submission is decoded from an unknown value and hashed as one text, its fields
joined by newlines. No field of a decoded submission can contain a newline, so
the text determines the submission, and its digest does as far as SHA-256 does.
-/

namespace Relay

/-- What a schema tells apart in an unknown value. -/
inductive Candidate where
  | string (text : String)
  | number (value : Number)
  | object (fields : List (String × Candidate))
  | other

def Candidate.field : Candidate → String → Option Candidate
  | .object fields, name => fields.lookup name
  | .string _, _ | .number _, _ | .other, _ => none

/-! ## Decoding -/

def Topic.text : Topic → String
  | .invoiceCreated => "invoice.created"

/-- `Schema.Literal("invoice.created")`. -/
def Topic.decode : Candidate → Option Topic
  | .string text => if text = Topic.invoiceCreated.text then some .invoiceCreated else none
  | .number _ | .object _ | .other => none

def Slug.decode (tag : String) : Candidate → Option (Slug tag)
  | .string text => if wf : isSlug tag text = true then some ⟨text, wf⟩ else none
  | .number _ | .object _ | .other => none

def AmountCents.decode : Candidate → Option AmountCents
  | .number value => positiveInteger value
  | .string _ | .object _ | .other => none

/-- `Schema.decodeUnknownEffect(EventSubmission)`; properties it does not name are ignored. -/
def decodeSubmission (candidate : Candidate) : Option EventSubmission := do
  let topic ← (← candidate.field "topic") |> Topic.decode
  let payload ← candidate.field "payload"
  let invoiceId ← (← payload.field "invoiceId") |> Slug.decode "inv-"
  let amountCents ← (← payload.field "amountCents") |> AmountCents.decode
  return { topic, invoiceId, amountCents }

def encodeSubmission (submission : EventSubmission) : Candidate :=
  .object
    [("topic", .string submission.topic.text),
      ("payload", .object
        [("invoiceId", .string submission.invoiceId.text),
          ("amountCents", .number (submission.amountCents : ℕ))])]

theorem AmountCents.decode_number (amount : AmountCents) :
    AmountCents.decode (.number (amount : ℕ)) = some amount := by
  have whole : ((amount : ℕ) : Number).den = 1 ∧ 0 < ((amount : ℕ) : Number).num := by
    refine ⟨Rat.den_natCast _, ?_⟩
    rw [Rat.num_natCast]
    exact_mod_cast amount.pos
  rw [AmountCents.decode, positiveInteger, dif_pos whole]
  refine congrArg some (PNat.eq ?_)
  exact congrArg Int.toNat (Rat.num_natCast amount)

/-- The decoder reads back every submission. -/
theorem decodeSubmission_encode (submission : EventSubmission) :
    decodeSubmission (encodeSubmission submission) = some submission := by
  obtain ⟨topic, invoiceId, amountCents⟩ := submission
  have topics : Topic.decode (.string topic.text) = some topic := by
    cases topic
    rfl
  have invoice : Slug.decode "inv-" (.string invoiceId.text) = some invoiceId := by
    rw [Slug.decode, dif_pos invoiceId.wf]
  have amount := AmountCents.decode_number amountCents
  simp only [decodeSubmission, encodeSubmission, Candidate.field, List.lookup_cons, beq_self_eq_true,
    Option.bind_eq_bind, Option.bind_some, show ("payload" == "topic") = false by decide,
    show ("amountCents" == "invoiceId") = false by decide, topics, invoice, amount, Option.pure_def]

/-! ## The text that is hashed -/

/-- `["relay-intake-v1", topic, invoiceId, amountCents].join("\n")`. -/
def normalized (submission : EventSubmission) : String :=
  String.intercalate (String.singleton '\n')
    ["relay-intake-v1", submission.topic.text, submission.invoiceId.text,
      (submission.amountCents : ℕ).repr]

theorem slugBody_clean {cs : List Char} : ∀ {closed : Bool}, slugBody closed cs = true → '\n' ∉ cs := by
  induction cs with
  | nil =>
    intro closed body member
    cases member
  | cons c cs ih =>
    intro closed body member
    unfold slugBody at body
    split at body
    · rename_i same
      cases same
    · rename_i same
      obtain ⟨rfl, rfl⟩ := List.cons.inj same
      obtain ⟨-, rest⟩ := Bool.and_eq_true_iff.1 body
      rcases List.mem_cons.1 member with newline | later
      · cases newline
      · exact ih rest later
    · rename_i same
      obtain ⟨rfl, rfl⟩ := List.cons.inj same
      obtain ⟨alphanumeric, rest⟩ := Bool.and_eq_true_iff.1 body
      rcases List.mem_cons.1 member with rfl | later
      · revert alphanumeric
        decide
      · exact ih rest later

/-- A branded identifier has no newline unless its tag has one. -/
theorem Slug.clean {tag : String} (plain : '\n' ∉ tag.toList) (slug : Slug tag) : '\n' ∉ slug.text.toList := by
  obtain ⟨text, wf⟩ := slug
  obtain ⟨tagged, body⟩ := Bool.and_eq_true_iff.1 wf
  obtain ⟨rest, same⟩ := List.isPrefixOf_iff_prefix.1 tagged
  intro member
  have dropped : text.toList.drop tag.length = rest := by
    rw [← same, ← String.length_toList, List.drop_left]
  rw [dropped] at body
  rw [show (Slug.mk text wf).text.toList = tag.toList ++ rest from same.symm] at member
  rcases List.mem_append.1 member with early | late
  · exact plain early
  · exact slugBody_clean body late

/-- **The normalised text determines the submission.** -/
theorem normalized_injective {a b : EventSubmission} (same : normalized a = normalized b) : a = b := by
  have clean : ∀ submission : EventSubmission, ∀ piece ∈ ["relay-intake-v1", submission.topic.text,
      submission.invoiceId.text, (submission.amountCents : ℕ).repr], '\n' ∉ piece.toList := by
    intro submission piece member
    simp only [List.mem_cons, List.not_mem_nil, or_false] at member
    obtain rfl | rfl | rfl | rfl := member
    · decide
    · cases submission.topic
      decide
    · exact submission.invoiceId.clean (by decide)
    · exact Text.not_mem_repr (by decide) _
  have pieces := Text.intercalate_injective (by simp) (by simp) (clean a) (clean b) same
  have invoice : a.invoiceId.text = b.invoiceId.text := by
    simp only [List.cons.injEq] at pieces
    exact pieces.2.2.1
  have amount : (a.amountCents : ℕ).repr = (b.amountCents : ℕ).repr := by
    simp only [List.cons.injEq] at pieces
    exact pieces.2.2.2.1
  clear same pieces
  obtain ⟨⟨⟩, ⟨invoiceText, invoiceWf⟩, amountCents⟩ := a
  obtain ⟨⟨⟩, ⟨invoiceText', invoiceWf'⟩, amountCents'⟩ := b
  obtain rfl : invoiceText = invoiceText' := invoice
  obtain rfl : amountCents = amountCents' := PNat.eq (Text.repr_injective amount)
  rfl

/-! ## Fingerprints -/

/-- `crypto.digest("SHA-256", _)` on the bytes of a text. -/
abbrev Digest := ByteArray → Vector UInt8 32

theorem isHexDigit_digitChar {n : ℕ} (small : n < 16) : isHexDigit n.digitChar = true := by
  have all : ∀ i : Fin 16, isHexDigit (i : ℕ).digitChar = true := by decide +kernel
  exact all ⟨n, small⟩

theorem isHex_encodeHex {n : ℕ} (bytes : Vector UInt8 n) : isHex (2 * n) (Text.encodeHex bytes.toList) = true := by
  unfold isHex
  rw [Bool.and_eq_true, decide_eq_true_eq, Text.length_encodeHex, Vector.length_toList, List.all_eq_true]
  refine ⟨rfl, ?_⟩
  intro c member
  obtain ⟨digit, small, rfl⟩ := Text.mem_encodeHex member
  exact isHexDigit_digitChar small

/-- The hex dump of the digest is always a `RequestFingerprint`. -/
def fingerprint (sha256 : Digest) (submission : EventSubmission) : RequestFingerprint :=
  ⟨Text.encodeHex (sha256 (normalized submission).toByteArray).toList, isHex_encodeHex _⟩

/-- The digest tells the texts of two submissions apart. -/
def Digest.Separates (sha256 : Digest) (a b : EventSubmission) : Prop :=
  sha256 (normalized a).toByteArray = sha256 (normalized b).toByteArray →
    (normalized a).toByteArray = (normalized b).toByteArray

/-- **Equal fingerprints come from equal submissions**, as far as the digest separates them. -/
theorem fingerprint_injective {sha256 : Digest} {a b : EventSubmission} (separates : sha256.Separates a b)
    (same : fingerprint sha256 a = fingerprint sha256 b) : a = b := by
  have dump := congrArg RequestFingerprint.text same
  have bytes := Vector.toList_inj.1 (Text.encodeHex_injective dump)
  exact normalized_injective (String.toByteArray_inj.1 (separates bytes))

end Relay
