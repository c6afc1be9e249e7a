import Relay.Library.Codec

/-!
# Endpoints of an HTTP API

An endpoint has a schema for its success and the problems it declares. What a handler
gives is written with the status code and the schema of its kind, and a client reads an
answer by the schemas of its code.
-/

namespace Relay

open Json

structure HttpAnswer where
  status : ℕ
  body : String
deriving DecidableEq

/-- A family of `Schema.ErrorClass`: each is told by its literal `error`. -/
class HttpApiProblem (ε : Type) where
  error : ε → String
  httpApiStatus : ε → ℕ
  error_injective : Function.Injective error

section Problem

variable {ε : Type} [HttpApiProblem ε]

def problemCodec (problem : ε) : Codec Unit :=
  (Fields.one "error" (Codec.literals (fun _ => HttpApiProblem.error problem) [()] List.mem_singleton_self
    (fun _ _ _ => rfl))).codec (List.nodup_singleton "error")

/-- The text of a problem is read as that problem alone. -/
theorem problemCodec_isSome {p q : ε} :
    ((problemCodec p).decodeText ((problemCodec q).encodeText ())).isSome = true ↔ p = q := by
  constructor
  · intro read
    obtain ⟨u, read⟩ := Option.isSome_iff_exists.1 read
    rw [Codec.decodeText, Codec.encodeText, parse_stringify, Option.bind_some] at read
    have checked : ((string? (points (HttpApiProblem.error q))).bind fun text =>
        [()].find? fun _ => decide (HttpApiProblem.error p = text)) = some u := read
    rw [string?_points, Option.bind_some] at checked
    have same := List.find?_some checked
    exact HttpApiProblem.error_injective (of_decide_eq_true same)
  · rintro rfl
    rw [Codec.decodeText_encodeText _ (show (problemCodec p).Fits () from trivial)]
    rfl

end Problem

/-- `HttpApiEndpoint`; no problem shares the status code of the success. -/
structure HttpApiEndpoint (α ε : Type) [HttpApiProblem ε] where
  success : Codec α
  status : ℕ
  error : List ε
  apart : ∀ problem ∈ error, HttpApiProblem.httpApiStatus problem ≠ status

namespace HttpApiEndpoint

variable {α ε : Type} [HttpApiProblem ε] (endpoint : HttpApiEndpoint α ε)

def encode : Except ε α → HttpAnswer
  | .ok a => ⟨endpoint.status, endpoint.success.encodeText a⟩
  | .error problem => ⟨HttpApiProblem.httpApiStatus problem, (problemCodec problem).encodeText ()⟩

/-- An answer that no schema of its code reads is none the client knows. -/
def decode (answer : HttpAnswer) : Option (Except ε α) :=
  if answer.status = endpoint.status then (endpoint.success.decodeText answer.body).map .ok
  else
    (endpoint.error.find? fun problem =>
      HttpApiProblem.httpApiStatus problem = answer.status ∧
        ((problemCodec problem).decodeText answer.body).isSome).map .error

/-- What a handler may give. -/
def Declares : Except ε α → Prop
  | .ok a => endpoint.success.Fits a
  | .error problem => problem ∈ endpoint.error

/-- **The client reads what the handler gave.** -/
theorem decode_encode {reply : Except ε α} (declares : endpoint.Declares reply) :
    endpoint.decode (endpoint.encode reply) = some reply := by
  cases reply with
  | ok a =>
    have same : (endpoint.encode (.ok a)).status = endpoint.status := rfl
    rw [decode, if_pos same]
    show (endpoint.success.decodeText (endpoint.success.encodeText a)).map _ = _
    rw [endpoint.success.decodeText_encodeText declares, Option.map_some]
  | error problem =>
    have among : ∃ p ∈ endpoint.error, decide (HttpApiProblem.httpApiStatus p = HttpApiProblem.httpApiStatus problem ∧
        ((problemCodec p).decodeText ((problemCodec problem).encodeText ())).isSome = true) = true :=
      ⟨problem, declares, decide_eq_true ⟨rfl, problemCodec_isSome.2 rfl⟩⟩
    obtain ⟨p, found⟩ := Option.isSome_iff_exists.1 (List.find?_isSome.2 among)
    have read := List.find?_some found
    obtain rfl := problemCodec_isSome.1 (of_decide_eq_true read).2
    have other : ¬ (endpoint.encode (.error p)).status = endpoint.status := endpoint.apart p declares
    rw [decode, if_neg other]
    exact congrArg (Option.map Except.error) found

end HttpApiEndpoint

end Relay
