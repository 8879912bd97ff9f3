import Failover.Failure

/-!
# Faults of an exchange

What the HTTP layer reports when an exchange fails: a message of its own and a chain
of causes, the outermost first. Which kind of failure it is has to be found out. The
surest sign is what the operating system says, wherever in the chain; name
resolution and TLS show only in the texts of the causes. The message itself is not
looked at, since it holds the URL and so whatever a caller put there.
-/

namespace Failover.Http

/-- What the operating system says about an operation, as far as it is looked at. -/
inductive IoKind where
  | connectionRefused
  | connectionReset
  | connectionAborted
  | brokenPipe
  | unexpectedEof
  | timedOut
  /-- Anything else. -/
  | another
  deriving DecidableEq, Repr

namespace IoKind

def ofName : String → IoKind
  | "connection_refused" => connectionRefused
  | "connection_reset" => connectionReset
  | "connection_aborted" => connectionAborted
  | "broken_pipe" => brokenPipe
  | "unexpected_eof" => unexpectedEof
  | "timed_out" => timedOut
  | _ => another

/-- The kind of failure that it means, if it means one. -/
def failureKind? : IoKind → Option FailureKind
  | connectionRefused => some .connectRefused
  | connectionReset | connectionAborted | brokenPipe | unexpectedEof => some .connectionReset
  | timedOut => some .timeout
  | another => none

end IoKind

/-- A cause in a chain. -/
structure Cause where
  text : String
  io : Option IoKind := none
  deriving DecidableEq, Repr

/-- What is reported of an exchange that failed. -/
structure Fault where
  message : String
  /-- From the outermost to the innermost. -/
  causes : List Cause := []
  /-- A limit of time was reached. -/
  isTimeout : Bool := false
  /-- It happened while connecting. -/
  isConnect : Bool := false
  /-- It happened while the request was sent. -/
  isRequest : Bool := false
  /-- It happened while a body was read or written. -/
  isBody : Bool := false
  /-- It happened while a response was decoded. -/
  isDecode : Bool := false
  deriving DecidableEq, Repr

/-- Small letters for capital ones. Of the letters beyond ASCII only two have a small
form with an ASCII letter in it, the sign for kelvin and the dotted capital I. -/
def lowerChar (c : Char) : List Char :=
  if c == '\u212A' then ['k']
  else if c == '\u0130' then ['i', '\u0307']
  else [c.toLower]

def lower (s : String) : List Char := s.toList.flatMap lowerChar

/-- The word stands somewhere in a text. -/
def mentions (word : List Char) : List Char → Bool
  | [] => word.isEmpty
  | c :: r => word.isPrefixOf (c :: r) || mentions word r

/-- The words by which a kind of failure is known, the surest kind first. -/
def tellingWords : List (FailureKind × List String) :=
  [(.nameResolution, ["dns error", "failed to lookup address", "name or service not known"]),
    (.tlsHandshake, ["tls", "certificate", "handshake", "fatal alert"]),
    (.connectionReset, ["connection closed", "connection reset"])]

/-- The kind of failure that a text in small letters tells of. -/
def toldKind? (text : List Char) : Option FailureKind :=
  (tellingWords.find? fun (_, words) => words.any fun word => mentions word.toList text).map (·.1)

namespace Fault

/-- The texts of the causes in a row. -/
def causesText (f : Fault) : String :=
  ": ".intercalate (f.causes.map (·.text))

/-- The message with its causes. -/
def report (f : Fault) : String :=
  if f.causesText.isEmpty then f.message else s!"{f.message}: {f.causesText}"

/-- The kind that the stage of the exchange suggests. -/
def stageKind (f : Fault) : FailureKind :=
  if f.isConnect then .connectRefused
  else if f.isRequest || f.isBody || f.isDecode then .protocol
  else .other

/-- The kind of failure: by what the operating system says, else by the time that ran
out, else by the words of the causes, else by the stage. -/
def kind (f : Fault) : FailureKind :=
  match f.causes.findSome? fun c => c.io.bind IoKind.failureKind? with
  | some kind => kind
  | none =>
    if f.isTimeout then .timeout else (toldKind? (lower f.causesText)).getD f.stageKind

/-- The failure of an attempt at a URL. -/
def failure (f : Fault) (url : String) : Failure := ⟨f.kind, url, f.report⟩

end Fault

end Failover.Http
