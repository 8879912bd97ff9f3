import Failover.ClientError
import Failover.Json.Reader
import Failover.Request

/-!
# Answers

An answer is what a delivered response says. Its body is JSON or blank; a body
that is neither was not written by the cluster (a proxy may have spoken), so that
response is an error. An answer succeeded or not, by its status alone; one that
did not has an error message: the cluster's own, if the body has one, else status
and reason.
-/

namespace Failover

open Json Text

/-- A response that was made sense of. -/
structure Answer where
  json : Value
  /-- The body as it came, with U+FFFD in the place of what is no text. -/
  text : String
  status : Nat
  reason : Option String
  succeeded : Bool
  errorMessage : Option String

namespace Answer

/-- The body as text. -/
def bodyText (r : Response) : String := String.ofList (Utf8.decodeLossy r.body)

/-- The value of a body: of a blank one `null`. -/
def readBody (body : String) : Except Json.Error Value :=
  if (trim body.toList).isEmpty then .ok .null else Value.parse body

/-- Why a body that is no JSON was sent, as far as the response tells. -/
def malformedReason (r : Response) (e : Json.Error) : String :=
  let badJson := s!"invalid JSON (status {r.status}): {e.message}"
  match r.contentType with
  | some type =>
    if "application/json".toList.isPrefixOf type.toList then badJson
    else s!"yielded {type}, should be json (status {r.status})"
  | none => badJson

/-- What is said about a response that did not succeed. -/
def failureMessage (r : Response) (json : Value) : String :=
  match json.field? "error" with
  | some error => error.compact
  | none =>
    let reason := r.reason.getD ""
    String.ofList (trimEnd s!"{r.status} {reason}".toList)

/-- The answer that a response to a request at the URL gives. -/
def ofResponse (r : Response) (url : String) : Except ClientError Answer :=
  match readBody (bodyText r) with
  | .error e => .error (.malformedResponse url r.contentType (malformedReason r e))
  | .ok json =>
    .ok {
      json
      text := bodyText r
      status := r.status
      reason := r.reason
      succeeded := r.isSuccess
      errorMessage := if r.isSuccess then none else some (failureMessage r json) }

/-- The only thing that can be wrong with a delivered response is its body. -/
theorem ofResponse_eq_error {r : Response} {url : String} {err : ClientError}
    (h : ofResponse r url = .error err) :
    ∃ contentType reason, err = .malformedResponse url contentType reason := by
  unfold ofResponse at h
  split at h
  · cases h
    exact ⟨_, _, rfl⟩
  · cases h

/-- A string at a path of field names in the answer. -/
def stringAt? (a : Answer) (path : List String) : Option String :=
  (a.json.at? path).bind Value.string?

end Answer

end Failover
