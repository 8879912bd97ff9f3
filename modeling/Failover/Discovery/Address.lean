import Failover.Json.Value
import Failover.Server
import Failover.Text.Digit

/-!
# The addresses that nodes report

Nodes have told their address in several forms over time:

    inet[host:9200]
    inet[host/10.0.0.1:9200]
    inet[/10.0.0.1:9200]
    host/10.0.0.1:9200
    10.0.0.1:9200

All of them are one form with parts that may be missing: an opening `inet[`, a host
name in front of a slash, the address and port that count, and a closing bracket.
The characters `:`, `/`, `[` and `]` only ever separate those parts, so the reading
never has a choice. A host name in front of a slash is often known inside the
cluster only, and is not used.
-/

namespace Failover.Discovery

open Text

/-- The characters that separate the parts of a reported address. -/
def isMark (c : Char) : Bool := [':', '/', '[', ']'].contains c

/-- Without the opening word. -/
def dropOpening (cs : List Char) : List Char :=
  if "inet[".toList.isPrefixOf cs then cs.drop 5 else cs

/-- Without the host name in front of the first slash. -/
def dropHostName (cs : List Char) : List Char :=
  match cs.dropWhile (!isMark ·) with
  | '/' :: r => r
  | _ => cs

/-- The address and the port of a text without opening word and host name. -/
def readEndpoint? (cs : List Char) : Option (List Char × List Char) :=
  match cs.takeWhile (!isMark ·), cs.dropWhile (!isMark ·) with
  | [], _ => none
  | host, ':' :: r =>
    match r.takeWhile isDigit, r.dropWhile isDigit with
    | [], _ => none
    | port, [] => some (host, port)
    | port, [']'] => some (host, port)
    | _, _ => none
  | _, _ => none

/-- The address and the port that a node reports. -/
def endpoint? (raw : String) : Option (List Char × List Char) :=
  readEndpoint? (dropHostName (dropOpening (trim raw.toList)))

/-- The server at a reported address. The scheme is put in front of it as it is
given. -/
def parseAddress? (raw scheme : String) : Option Server :=
  (endpoint? raw).bind fun (host, port) =>
    (Server.parse (scheme ++ String.ofList (host ++ ':' :: port))).toOption

/-- What a node says its address is. A field `http_address` counts whatever it
holds; only in its absence the address published for HTTP does. -/
def reportedAddress? (node : Json.Value) : Option String :=
  match node.field? "http_address" with
  | some address => address.string?
  | none => (node.at? ["http", "publish_address"]).bind Json.Value.string?

/-- The server that a node is. -/
def nodeServer? (node : Json.Value) (scheme : String) : Option Server :=
  (reportedAddress? node).bind (parseAddress? · scheme)

/-- The nodes that an answer describes, by their identifiers in order. -/
def nodes (answer : Json.Value) : List (String × Json.Value) :=
  match answer.field? "nodes" with
  | some (.object nodes) => nodes
  | _ => []

/-- The servers that an answer describes. Nodes without a usable address are
passed over. -/
def servers (answer : Json.Value) (scheme : String) : List Server :=
  Server.distinct ((nodes answer).filterMap fun (_, node) => nodeServer? node scheme)

end Failover.Discovery
