import Failover.Http.Exchange
import Failover.Http.Reason
import Failover.Text.Base64
import Failover.Text.Blank
import Failover.Text.Numeral

/-!
# Messages on the wire

How a checked request is written for the wire, and how the response is read that
comes back. A connection serves one exchange, so the response is all that arrives
before the other side closes; where the response says how long its body is, it has
to be that long.
-/

namespace Failover.Http

open Text

/-! ## Requests -/

/-- The path and query that are asked for. -/
def target (u : Url) : List Char :=
  u.path.write ++ match u.query with
    | some q => '?' :: q
    | none => []

/-- The value of the header by which a user is known. -/
def authorization (c : Credentials) : String :=
  let secret := Utf8.encode (c.username ++ ":" ++ c.password.getD "").toList
  "Basic " ++ String.ofList (Base64.encode secret)

/-- The host with its port, as the URL names them. -/
def hostHeader (u : Url) : String :=
  String.ofList ((u.host.map Url.Host.write).getD []) ++
    match u.port with
    | some p => s!":{p}"
    | none => ""

/-- The headers that are sent: the request's own and those that belong to its form. -/
def wireHeaders (o : Outgoing) : List (String × String) :=
  let own := o.headers.map fun (name, value) => (name.toLower, value)
  own ++ o.credentials.map (fun c => ("authorization", authorization c)) ++
    (if own.any (·.1 == "accept") then [] else [("accept", "*/*")]) ++
    [("host", hostHeader o.url), ("connection", "close")] ++
    match o.body with
    | some body => [("content-length", toString body.length)]
    | none => []

/-- A request as it is sent. -/
def Outgoing.write (o : Outgoing) : Bytes :=
  let first := o.method.name ++ " " ++ String.ofList (target o.url) ++ " HTTP/1.1"
  let lines := first :: (wireHeaders o).map fun (name, value) => name ++ ": " ++ value
  Utf8.encode (String.join (lines.map (· ++ "\r\n")) ++ "\r\n").toList ++ o.body.getD []

/-! ## Responses -/

/-- What can be wrong with a response. -/
inductive MessageFault where
  /-- It ends before it is complete. -/
  | incomplete
  /-- It is no response. -/
  | malformed
  deriving DecidableEq, Repr

/-- The characters of a line and the bytes behind it. -/
def line? : Bytes → Option (List Char × Bytes)
  | 13 :: 10 :: r => some ([], r)
  | 10 :: r => some ([], r)
  | b :: r => (line? r).map fun (cs, r) => (Char.ofNat b.toNat :: cs, r)
  | [] => none

/-- Without blanks at the ends. -/
def stripped (cs : List Char) : List Char :=
  ((cs.dropWhile isGap).reverse.dropWhile isGap).reverse

/-- The status that the first line of a response states. -/
def status? (line : List Char) : Option Nat :=
  if "HTTP/1.".toList.isPrefixOf line ∧ (line.drop 8).head? = some ' ' then
    let digits := (line.drop 9).takeWhile (· != ' ')
    if digits.length = 3 then numeral? 10 digits else none
  else none

/-- A header, with its name in small letters. -/
def header? (line : List Char) : Option (String × String) :=
  let name := line.takeWhile (· != ':')
  if name.isEmpty || !name.all isNameChar || name.length = line.length then none
  else some ((String.ofList name).toLower, String.ofList (stripped (line.drop (name.length + 1))))

/-- The headers up to the empty line, and what follows it. -/
def readHeaders : (lines : Nat) → Bytes → Except MessageFault (List (String × String) × Bytes)
  | 0, _ => .error .incomplete
  | lines + 1, bs =>
    match line? bs with
    | none => .error .incomplete
    | some ([], r) => .ok ([], r)
    | some (line, r) =>
      match header? line with
      | none => .error .malformed
      | some h => (readHeaders lines r).map fun (hs, r) => (h :: hs, r)

/-- The pieces of a body that is sent in pieces. -/
def readChunks : (chunks : Nat) → Bytes → Except MessageFault Bytes
  | 0, _ => .error .incomplete
  | chunks + 1, bs =>
    match line? bs with
    | none => .error .incomplete
    | some (line, r) =>
      match numeral? 16 (stripped (line.takeWhile (· != ';'))) with
      | none => .error .malformed
      | some 0 => .ok []
      | some size =>
        if r.length < size then .error .incomplete
        else
          match line? (r.drop size) with
          | some ([], more) => (readChunks chunks more).map (r.take size ++ ·)
          | some _ => .error .malformed
          | none => .error .incomplete

/-- The value of the first header with a name. -/
def headerValue? (headers : List (String × String)) (name : String) : Option String :=
  headers.lookup name

/-- A response to this method with this status has no body. -/
def isBodiless (m : Method) (status : Nat) : Bool :=
  m == .head || status == 204 || status == 304

/-- The body behind the headers. -/
def readBody (headers : List (String × String)) (bs : Bytes) : Except MessageFault Bytes :=
  match headerValue? headers "transfer-encoding", headerValue? headers "content-length" with
  | some coding, _ =>
    if coding.toLower == "chunked" then readChunks (bs.length + 1) bs else .error .malformed
  | none, some length =>
    match numeral? 10 length.toList with
    | none => .error .malformed
    | some n => if bs.length < n then .error .incomplete else .ok (bs.take n)
  | none, none => .ok bs

/-- Reads a response to a request with this method. Its reason is the standard one,
whatever was sent; a content type that is not made of visible characters is none. -/
def readResponse (m : Method) (bs : Bytes) : Except MessageFault Response := do
  let (first, rest) ← (line? bs).elim (.error .incomplete) .ok
  let status ← (status? first).elim (.error .malformed) .ok
  let (headers, rest) ← readHeaders (rest.length + 1) rest
  let body ← if isBodiless m status then pure [] else readBody headers rest
  let isVisible (s : String) := s.toList.all fun c => c == '\t' || (' ' ≤ c && c ≤ '~')
  return {
    status
    reason := reason? status
    contentType := (headerValue? headers "content-type").filter isVisible
    body }

/-- A response that is none, as a fault of the exchange. -/
def MessageFault.fault (o : Outgoing) : MessageFault → Fault
  | incomplete =>
    unsent o.url [{ text := "client error (SendRequest)" },
      { text := "connection closed before message completed" }]
  | malformed =>
    unsent o.url [{ text := "client error (SendRequest)" },
      { text := "invalid HTTP message parsed" }]

end Failover.Http
