import Failover.Credentials
import Failover.Dict
import Failover.Failure
import Failover.Method
import Failover.Server
import Failover.Text.Utf8

/-!
# Requests and responses

What goes over the wire in one attempt, and what comes back. Times are in
milliseconds.
-/

namespace Failover

/-- A byte string. -/
abbrev Bytes := List UInt8

/-- A request as it is sent to one server. -/
structure Request where
  method : Method
  server : Server
  url : String
  headers : Dict String
  body : Option Bytes
  /-- A limit for this request that stands in for the transport's own. -/
  timeout : Option Nat
  credentials : Option Credentials
  deriving DecidableEq

/-- A request in short. -/
def Request.line (r : Request) : String := s!"{r.method.name} {r.url}"

/-- What may be shown of a request. Of its credentials that is what may be shown of
them. -/
def Request.shown (r : Request) : String :=
  Text.Listing.record "PreparedRequest"
    [("method", r.method.title),
      ("server", Text.Listing.record "Server" [("base", Text.quoted r.server.base)]),
      ("url", Text.quoted r.url),
      ("headers", Text.Listing.list (r.headers.map fun (name, value) =>
        Text.Listing.pair (Text.quoted name) (Text.quoted value))),
      ("body", Text.Listing.optional (r.body.map fun bytes =>
        Text.Listing.list (bytes.map fun b => toString b.toNat))),
      ("timeout", Text.Listing.optional (r.timeout.map Text.Listing.time)),
      ("credentials", Text.Listing.optional (r.credentials.map Credentials.shown))]

/-- A response as it was delivered. -/
structure Response where
  status : Nat := 200
  reason : Option String := none
  contentType : Option String := none
  body : Bytes := []
  deriving DecidableEq

/-- The status says that all went well. -/
def Response.isSuccess (r : Response) : Bool :=
  200 ≤ r.status && r.status < 300

/-- What the transport makes of an attempt. -/
abbrev Reply := Except Failure Response

/-- What a caller asks for a single request, in place of the client's settings. -/
structure Options where
  timeout : Option Nat := none
  credentials : Option Credentials := none
  deriving DecidableEq

/-- What may be shown of options. -/
def Options.shown (o : Options) : String :=
  Text.Listing.record "RequestOptions"
    [("timeout", Text.Listing.optional (o.timeout.map Text.Listing.time)),
      ("credentials", Text.Listing.optional (o.credentials.map Credentials.shown))]

end Failover
