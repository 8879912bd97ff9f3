import Failover.Client.Encoded
import Failover.Pool

/-!
# Requests on their way

A logical request is a sequence of attempts, each of which waits for its reply.
Here are the steps in between: `Client.start` makes the first attempt,
`Client.resume` takes the reply to an attempt and either makes the next one or
ends the request. Nothing else happens to the client while a step is made, and
between two steps of one request anything may: other requests, a new membership,
the end of the client.

A delivered response ends the request, whatever it says. After a failure the retry
policy is asked.
-/

namespace Failover

/-- A client: how it was set up, its pool, and whether it was shut down. -/
structure Client where
  settings : Settings
  roster : Roster
  closed : Bool := false

/-- What a request comes to. -/
abbrev Outcome := Except ClientError Answer

/-- An attempt that waits for its reply. -/
structure Flight where
  encoded : Encoded
  interpret : Response → String → Outcome
  server : Server
  /-- How many attempts were made, this one included. -/
  attempts : UInt32

/-- The request that was sent. -/
def Flight.request (f : Flight) : Request := f.encoded.bind f.server

/-- How far a request has come. -/
inductive Progress where
  | waiting (flight : Flight)
  | ended (outcome : Outcome)

namespace Client

def record (c : Client) (m : Metric) : Client :=
  { c with roster := c.roster.record m }

/-- The word under which an outcome is counted. -/
def status : Outcome → String
  | .ok answer => answerStatus answer.succeeded
  | .error e => e.typeName

/-- Ends a request. -/
def finish (c : Client) (method : Method) (outcome : Outcome) : Client × Progress :=
  (c.record (.request method.name (status outcome)), .ended outcome)

/-- Sends a request to the server whose turn it is, after `attempts` attempts. -/
def dispatch (c : Client) (e : Encoded) (interpret : Response → String → Outcome)
    (attempts : UInt32) : Client × Progress :=
  match c.roster.next with
  | .error err => c.finish e.method (.error err)
  | .ok (server, roster) => ({ c with roster }, .waiting ⟨e, interpret, server, attempts + 1⟩)

/-- Starts a request. A client that was shut down takes none. -/
def start (c : Client) (a : Action) (o : Options) : Client × Progress :=
  if c.closed then (c, .ended (.error .shutdown))
  else
    match Encoded.ofAction c.settings a o with
    | .error err => c.finish a.method (.error err)
    | .ok e => c.dispatch e a.interpret 0

/-- The error that a failed attempt leaves when it was the last. -/
def failureError (server : Server) (failure : Failure) : ClientError :=
  if failure.kind.isConnectFailure then .couldNotConnect server failure else .transport failure

/-- Goes on with a request when the reply to its attempt has come. -/
def resume (c : Client) (f : Flight) (reply : Reply) : Client × Progress :=
  match reply with
  | .ok response => c.finish f.encoded.method (f.interpret response f.request.url)
  | .error failure =>
    let c := c.record (.attemptFailure failure.kind.name f.server.base)
    if c.settings.retry.again failure f.attempts f.request then
      (c.record (.retry failure.kind.name)).dispatch f.encoded f.interpret f.attempts
    else c.finish f.encoded.method (.error (failureError f.server failure))

end Client

end Failover
