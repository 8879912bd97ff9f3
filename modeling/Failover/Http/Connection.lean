import Failover.Http.Message
import Std.Async.DNS
import Std.Async.TCP
import Std.Async.Timer

/-!
# Connections

The exchange that really goes over a network: a connection is made, the request is
written, the response is read until the other side closes, and nothing is kept. Only
plain HTTP is spoken. All that is decided here is when to stop waiting.
-/

namespace Failover.Http.Connection

open Std.Async Std.Net

/-- How long to wait, in milliseconds. -/
structure Limits where
  /-- For a connection. -/
  connect : Nat
  /-- For the next bytes of a response. -/
  read : Nat

/-- The number that an error carries. -/
def rawCode : IO.Error → UInt32
  | .alreadyExists _ n _ | .otherError n _ | .resourceBusy n _ | .resourceVanished n _
  | .unsupportedOperation n _ | .hardwareFault n _ | .unsatisfiedConstraints n _
  | .illegalOperation n _ | .protocolError n _ | .timeExpired n _ | .interrupted _ n _
  | .noFileOrDirectory _ n _ | .invalidArgument _ n _ | .permissionDenied _ n _
  | .resourceExhausted _ n _ | .inappropriateType _ n _ | .noSuchThing _ n _ => n
  | .unexpectedEof | .userError _ => 0

/-- The number of the operating system for an error, which is reported with either
sign. -/
def code (e : IO.Error) : UInt32 :=
  if rawCode e < 0x80000000 then rawCode e else 0 - rawCode e

/-- What the operating system says, by its number. -/
def reasonOf (e : IO.Error) : String × IoKind :=
  match code e with
  | 32 => ("Broken pipe (os error 32)", .brokenPipe)
  | 101 => ("Network is unreachable (os error 101)", .another)
  | 103 => ("Software caused connection abort (os error 103)", .connectionAborted)
  | 104 => ("Connection reset by peer (os error 104)", .connectionReset)
  | 110 => ("Connection timed out (os error 110)", .timedOut)
  | 111 => ("Connection refused (os error 111)", .connectionRefused)
  | 113 => ("No route to host (os error 113)", .another)
  | _ => (toString e, .another)

def cause (e : IO.Error) : Cause :=
  let (text, kind) := reasonOf e
  { text, io := some kind }

/-- Waits for a result so many milliseconds, `none` when they are over. -/
def within {α : Type} (limit : Nat) (work : Async α) : Async (Option α) :=
  Async.race (some <$> work) (do sleep (Std.Time.Millisecond.Offset.ofNat limit); return none)

/-- An address with a port. -/
def socketAddress (port : Nat) : IPAddr → SocketAddress
  | .v4 addr => .v4 { addr, port := UInt16.ofNat port }
  | .v6 addr => .v6 { addr, port := UInt16.ofNat port }

/-- The name by which a host is looked up. -/
def lookupName : Url.Host → String
  | .domain name => String.ofList name
  | .ipv4 address => String.ofList address.write
  | .ipv6 address => String.ofList address.write

/-- A fault while connecting. -/
def connectFault (o : Outgoing) (causes : List Cause) : Fault :=
  { unsent o.url ({ text := "client error (Connect)" } :: causes) with isConnect := true }

/-- A fault while the request was under way. -/
def sendFault (o : Outgoing) (causes : List Cause) : Fault :=
  unsent o.url ({ text := "client error (SendRequest)" } :: causes)

/-- A limit was reached. -/
def lateFault (o : Outgoing) : Fault :=
  { unsent o.url [{ text := "operation timed out" }] with isTimeout := true }

/-- The addresses of a host. -/
def addresses (o : Outgoing) : Async (Except Fault (List IPAddr)) := do
  let name := (o.url.host.map lookupName).getD ""
  try
    return .ok (← DNS.getAddrInfo name "").toList
  catch e =>
    return .error (connectFault o [{ text := "dns error" },
      { text := s!"failed to lookup address information: {e}" }])

/-- A connection to the first address that answers. -/
def connect (limits : Limits) (o : Outgoing) :
    List IPAddr → Async (Except Fault TCP.Socket.Client)
  | [] => return .error (connectFault o [{ text := "tcp connect error" }])
  | address :: more => do
    let socket ← TCP.Socket.Client.mk
    let port := o.url.port.getD 80
    try
      match ← within limits.connect (socket.connect (socketAddress port address)) with
      | some () => return .ok socket
      | none => return .error { connectFault o [{ text := "operation timed out" }] with
          isTimeout := true }
    catch e =>
      if more.isEmpty then return .error (connectFault o [{ text := "tcp connect error" }, cause e])
      else connect limits o more

/-- All that comes over a connection until it is closed. -/
partial def receive (limits : Limits) (socket : TCP.Socket.Client) (before : ByteArray) :
    Async (Option ByteArray) := do
  match ← within limits.read (socket.recv? 65536) with
  | none => return none
  | some none => return some before
  | some (some bytes) => receive limits socket (before ++ bytes)

/-- Sends a request over a connection and reads the response. -/
def converse (limits : Limits) (o : Outgoing) (socket : TCP.Socket.Client) :
    Async (Except Fault Response) := do
  try
    socket.send ⟨o.write.toArray⟩
    match ← receive limits socket .empty with
    | none => return .error (lateFault o)
    | some bytes => return (readResponse o.method bytes.toList).mapError (·.fault o)
  catch e => return .error (sendFault o [{ text := "connection error" }, cause e])

/-- The exchange without a limit for the whole of it. -/
def unhurried (limits : Limits) (o : Outgoing) : Async (Except Fault Response) := do
  if o.url.scheme != "http".toList then
    return .error (connectFault o [{ text := "invalid URL, scheme is not http" }])
  match ← addresses o with
  | .error e => return .error e
  | .ok found =>
    match ← connect limits o found with
    | .error e => return .error e
    | .ok socket => converse limits o socket

/-- Sends a request and waits for its response, as long as the request allows. -/
def exchange (limits : Limits) (o : Outgoing) : IO (Except Fault Response) :=
  (match o.timeout with
  | none => unhurried limits o
  | some limit => do
    match ← within limit (unhurried limits o) with
    | some answer => return answer
    | none => return .error (lateFault o)).block

end Failover.Http.Connection
