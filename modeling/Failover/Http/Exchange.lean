import Failover.Client.Execute
import Failover.Http.Fault
import Failover.Url.Basic

/-!
# Exchanges over HTTP

Before a request goes out its URL and headers are checked: the URL has to be an
absolute one with a host, over HTTP, and headers have to be made of the characters
that headers are made of. What happens then is up to an `Exchange`; its faults
become failures of the attempt.
-/

namespace Failover.Http

open Text

/-- A request that has been checked. -/
structure Outgoing where
  method : Method
  url : Url
  headers : List (String × String)
  body : Option Bytes
  timeout : Option Nat
  /-- Who sends it, as the URL says and as the request says. -/
  credentials : List Credentials

/-- What comes of a request that is sent. -/
abbrev Exchange := Outgoing → Except Fault Response

/-! ## Checks -/

/-- A request that could not be made, with the URL if it could be read. -/
def unsendable (url : Option Url) (reason : String) : Fault :=
  { message := match url with
      | none => "builder error"
      | some url => s!"builder error for url ({url.toString})"
    causes := [{ text := reason }] }

/-- A request that was made and came to nothing. -/
def unsent (url : Url) (causes : List Cause) : Fault :=
  { message := s!"error sending request for url ({url.toString})", causes, isRequest := true }

/-- User name and password of a URL, if it has any that are text. -/
def userinfo? (u : Url) : Option Credentials := do
  let text (cs : List Char) := (Utf8.decode? (Url.percentDecode cs)).map String.ofList
  let username ← text u.username
  let password := u.password.bind text
  if username.isEmpty ∧ password.isNone then none
  return { username, password }

/-- The URL without user name and password. -/
def withoutUserinfo (u : Url) : Url := { u with username := [], password := none }

/-- The character may stand in the name of a header. -/
def isNameChar (c : Char) : Bool :=
  c.isAlphanum || "!#$%&'*+-.^_\x60|~".toList.contains c

/-- The character may stand in the value of a header. -/
def isValueChar (c : Char) : Bool :=
  c == '\t' || (' ' ≤ c && c != '\x7f')

/-- Why a header cannot be sent. -/
def headerFault? (header : String × String) : Option String :=
  if header.1.isEmpty || !header.1.toList.all isNameChar then some "invalid HTTP header name"
  else if !header.2.toList.all isValueChar then some "failed to parse header value"
  else none

/-- The character may stand in the name of a host on the wire. -/
def isHostChar (c : Char) : Bool := !("\"\x60\x7b\x7d".toList.contains c)

/-- No URL on the wire is longer than this. -/
def maxLength : Nat := 65534

/-- The URL can be written on the wire. -/
def isWireUrl (u : Url) : Bool :=
  (u.host.all fun h => h.write.all isHostChar) && u.write.length ≤ maxLength

/-- Checks a request: its URL, its headers in order, and the URL once more. -/
def Outgoing.ofRequest (r : Request) : Except Fault Outgoing := do
  let url ← (Url.ofString r.url).mapError fun e => unsendable none e.message
  if !url.hasHost then throw (unsendable (some url) "URL scheme is not allowed")
  let given := userinfo? url
  let url := if given.isSome then withoutUserinfo url else url
  -- Headers are looked at before the scheme is.
  match r.headers.findSome? headerFault? with
  | some reason => throw (unsendable none reason)
  | none => pure ()
  if !Server.isHttp url.scheme then throw (unsendable (some url) "URL scheme is not allowed")
  if !isWireUrl url then throw (unsendable (some url) "Parsed Url is not a valid Uri")
  return { method := r.method, url, headers := r.headers, body := r.body, timeout := r.timeout
           credentials := given.toList ++ r.credentials.toList }

/-- The reply to an attempt. -/
def Exchange.reply (x : Exchange) (r : Request) : Reply :=
  ((Outgoing.ofRequest r).bind x).mapError (·.failure r.url)

/-- The transport that makes this exchange for every request. -/
def Exchange.transport (x : Exchange) : Transport Unit := fun _ r => (x.reply r, ())

/-! ## Without a connection -/

/-- No connection is ever made, for these reasons. -/
def unconnected (causes : List Cause) (isTimeout : Bool) : Exchange := fun o =>
  .error { unsent o.url ({ text := "client error (Connect)" } :: causes) with
    isConnect := true, isTimeout }

/-- Connecting takes longer than it may. -/
def stalled : Exchange := unconnected [{ text := "operation timed out" }] true

/-- There is no network. -/
def networkless : Exchange :=
  unconnected
    [{ text := "tcp connect error" },
      { text := "Network is unreachable (os error 101)", io := some .another }] false

end Failover.Http
