import Failover.Client.Execute
import Failover.Discovery.Address

/-!
# Discovery iterations

An iteration asks the cluster for its nodes, as an ordinary request, and lets the
pool follow the outcome: servers that were found become the members, an
unreachable server is taken out, and any other failure brings the bootstrap
servers back. The pool is touched once, when the request has ended.
-/

namespace Failover.Discovery

/-- What an iteration came to. -/
inductive Result where
  /-- These servers are the members now. -/
  | applied (servers : List Server)
  /-- The answer named no usable address, and nothing was changed. -/
  | unchanged
  /-- The server could not be reached and was taken out. -/
  | evicted (server : Server)
  /-- The bootstrap servers are the members again. -/
  | bootstrap
  /-- The client was shut down. -/
  | clientGone
  deriving DecidableEq

def Result.name : Result → String
  | applied _ => "applied"
  | unchanged => "unchanged"
  | evicted _ => "evicted"
  | bootstrap => "bootstrap"
  | clientGone => "client_gone"

/-- The result of an iteration whose request ended in this way. -/
def Result.of (scheme : String) : Outcome → Result
  | .ok answer =>
    if answer.succeeded then
      match servers answer.json scheme with
      | [] => unchanged
      | found => applied found
    else bootstrap
  | .error .shutdown => clientGone
  | .error (.couldNotConnect server _) => evicted server
  | .error _ => bootstrap

/-- What a result does to the pool. -/
def Result.apply (r : Result) (roster : Roster) : Roster :=
  match r with
  | applied servers => roster.replace servers
  | unchanged => roster
  | evicted server => (roster.evict server).2
  | bootstrap => roster.reset
  | clientGone => roster

/-- Ends an iteration: the pool follows the outcome of its request. -/
def conclude (scheme : String) (c : Client) (outcome : Outcome) : Client × Result :=
  let result := Result.of scheme outcome
  let c := { c with roster := result.apply c.roster }
  (c.record (.discoveryRun result.name), result)

/-- The question that an iteration asks. -/
def question (filter : String) : NodesInfo := (({} : NodesInfo).addNode filter).withHttp

/-- An iteration alone, against a transport that answers at once. -/
def run {σ : Type} (send : Transport σ) (s : σ) (c : Client) (filter scheme : String) :
    Result × Client × σ :=
  let (outcome, c, s) := c.execute send s (question filter).action {}
  let (c, result) := conclude scheme c outcome
  (result, c, s)

end Failover.Discovery
