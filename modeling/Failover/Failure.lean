/-!
# Failures of an attempt

An attempt either brings a response or fails. All that is decided about a failure
(whether another attempt is made, whether the server is taken out of the pool) is
decided by its kind.
-/

namespace Failover

/-- What kept an attempt from bringing a response. -/
inductive FailureKind where
  /-- No connection to the server could be made. -/
  | connectRefused
  /-- The connection was lost during the exchange. -/
  | connectionReset
  /-- The server's name has no address. -/
  | nameResolution
  /-- The two sides could not agree on a secure connection. -/
  | tlsHandshake
  /-- The time for connecting or for the whole exchange ran out. -/
  | timeout
  /-- The exchange broke the rules of HTTP. -/
  | protocol
  /-- Anything else. -/
  | other
  deriving DecidableEq, Repr

namespace FailureKind

def all : List FailureKind :=
  [connectRefused, connectionReset, nameResolution, tlsHandshake, timeout, protocol, other]

def name : FailureKind → String
  | connectRefused => "connect_refused"
  | connectionReset => "connection_reset"
  | nameResolution => "name_resolution"
  | tlsHandshake => "tls_handshake"
  | timeout => "timeout"
  | protocol => "protocol"
  | other => "other"

def ofName? (name : String) : Option FailureKind :=
  all.find? (·.name == name)

/-- The server itself could not be reached. -/
def isConnectFailure (k : FailureKind) : Bool := k == connectRefused

/-- The kinds after which another server is worth a try, unless told otherwise. -/
def usuallyRecoverable : List FailureKind :=
  [connectRefused, connectionReset, nameResolution, tlsHandshake]

theorem ofName?_name (k : FailureKind) : ofName? k.name = some k := by
  cases k <;> decide

end FailureKind

/-- A failed attempt: its kind, the URL it was made at, and what was reported. -/
structure Failure where
  kind : FailureKind
  url : String
  report : String
  deriving DecidableEq, Repr

/-- The wording of a failure. -/
def Failure.message (f : Failure) : String :=
  s!"{f.kind.name} error for {f.url}: {f.report}"

end Failover
