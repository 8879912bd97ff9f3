import Failover.Action
import Failover.Gzip

/-!
# Encoding a request

A logical request is encoded once, and each of its attempts sends the very same
request to another server. Header names are sent in small letters, so that two
spellings of a name are one header; headers of the action go before those of the
client, and a body brings headers of its own.
-/

namespace Failover

/-- What a client adds to every request, and how it deals with failures. -/
structure Settings where
  retry : RetryPolicy
  defaultHeaders : Dict String := []
  credentials : Option Credentials := none
  compression : Bool := false
  /-- What compresses a body. -/
  gzip : Bytes → Bytes := Gzip.compress

/-- A logical request ready to be sent to a server. -/
structure Encoded where
  method : Method
  path : String
  headers : Dict String
  body : Option Bytes
  timeout : Option Nat
  credentials : Option Credentials
  deriving DecidableEq

namespace Encoded

/-- A header name as it is sent. -/
def headerName (name : String) : String :=
  String.ofList (name.toList.map Char.toLower)

/-- Headers under the names that are sent. -/
def named (headers : Dict String) : List (String × String) :=
  headers.map fun (name, v) => (headerName name, v)

/-- The headers of the client and those of an action, which go before them. -/
def mergeHeaders (client action : Dict String) : Dict String :=
  (Dict.ofList (named client)).insertAll (named action)

/-- What a body holds where nothing else is said. -/
def jsonType : String := "application/json; charset=utf-8"

/-- The headers of a request with a body. -/
def bodyHeaders (compression : Bool) (headers : Dict String) : Dict String :=
  let headers := headers.insertNew "content-type" jsonType
  if compression then headers.insert "content-encoding" "gzip" else headers

/-- The bytes of a body. -/
def bodyBytes (s : Settings) (body : String) : Bytes :=
  let bytes := Text.Utf8.encode body.toList
  if s.compression then s.gzip bytes else bytes

/-- Encodes an action. It fails if the action has no body where it should. -/
def ofAction (s : Settings) (a : Action) (o : Options) : Except ClientError Encoded :=
  let headers := mergeHeaders s.defaultHeaders a.headers
  let credentials := o.credentials <|> s.credentials
  a.body.map fun body =>
    match if a.method.allowsBody then body else none with
    | some body =>
      { method := a.method, path := a.path, timeout := o.timeout, credentials
        headers := bodyHeaders s.compression headers
        body := some (bodyBytes s body) }
    | none =>
      { method := a.method, path := a.path, timeout := o.timeout, credentials, headers
        body := none }

/-- What is asked for is the path of the action. -/
theorem ofAction_path {s : Settings} {a : Action} {o : Options} {e : Encoded}
    (h : ofAction s a o = .ok e) : e.path = a.path := by
  simp only [ofAction] at h
  cases hb : a.body with
  | error err => rw [hb] at h; cases h
  | ok body =>
    rw [hb] at h
    simp only [Except.map] at h
    split at h <;> cases h <;> rfl

/-- And the method is its method. -/
theorem ofAction_method {s : Settings} {a : Action} {o : Options} {e : Encoded}
    (h : ofAction s a o = .ok e) : e.method = a.method := by
  simp only [ofAction] at h
  cases hb : a.body with
  | error err => rw [hb] at h; cases h
  | ok body =>
    rw [hb] at h
    simp only [Except.map] at h
    split at h <;> cases h <;> rfl

/-- The request as it is sent to a server. -/
def bind (e : Encoded) (server : Server) : Request :=
  { method := e.method, server, url := server.urlFor e.path, headers := e.headers, body := e.body
    timeout := e.timeout, credentials := e.credentials }

end Encoded

end Failover
