import Failover.Client.Build
import Failover.Rehearsal.Timeline

/-!
# Rehearsing a client

A rehearsal is a list of steps, as a caller would make them one after the other.
Each leaves an entry: what it gave, which requests were sent meanwhile, and how the
client stands afterwards.
-/

namespace Failover.Rehearsal

/-- One step of a rehearsal. Requests that are not waited for have a name, and
their outcome goes to a handler of two methods or to one function. -/
inductive Step where
  | execute (action : Action) (options : Options)
  | spawn (name : String) (action : Action) (options : Options) (isFunction : Bool)
  | join (name : String)
  /-- Hands a request over to a handler and waits until it was called. -/
  | executeAsync (action : Action)
  | advance (time : Nat)
  | discover
  | setServers (addresses : List String)
  | nextServer
  | removeServer (address : String)
  | resetServers
  | bootstrap
  | servers
  | running
  | metrics
  | shutdown

/-- What a step gives. -/
inductive Given where
  | nothing
  | outcome (outcome : Outcome)
  | handled (isFunction : Bool) (outcome : Outcome)
  | discovery (result : Discovery.Result)
  | accepted
  | refused (error : ClientError)
  | server (server : Server)
  | servers (servers : List Server)
  | truth (b : Bool)
  | metrics (report : List (String × Nat))

/-- How things stand after a step. -/
structure Entry where
  given : Given
  requests : List Request
  servers : List Server
  running : Bool

/-- A timeline and the names of the requests that are not waited for. -/
structure Stand where
  timeline : Timeline
  names : List (String × Nat × Bool) := []

namespace Stand

def system (s : Stand) : System := s.timeline.system

/-- What the request of a name came to. -/
def outcomeOf? (t : Timeline) (id : Nat) : Option Outcome :=
  match t.result? id with
  | some (.request outcome) => some outcome
  | _ => none

/-- Executes an action and waits for it. -/
def execute (s : Stand) (action : Action) (options : Options) : Given × Stand :=
  let (id, t) := s.timeline.launch (.request action options)
  let t := t.await id
  (match outcomeOf? t id with
    | some outcome => .outcome outcome
    | none => .nothing, { s with timeline := t })

/-- Runs an iteration and waits for it. -/
def discover (s : Stand) : Given × Stand :=
  let (id, t) := s.timeline.launch .discovery
  let t := t.await id
  (match t.result? id with
    | some (.discovery _ result) => .discovery result
    | _ => .nothing, { s with timeline := t })

/-- Waits for the request of a name. -/
def join (s : Stand) (name : String) : Given × Stand :=
  match s.names.lookup name with
  | none => (.nothing, s)
  | some (id, isFunction) =>
    let t := s.timeline.await id
    (match outcomeOf? t id with
      | some outcome => .handled isFunction outcome
      | none => .nothing, { s with timeline := t })

/-- Makes an event happen that nobody waits for. -/
def happen (s : Stand) (e : Event) : Stand :=
  { s with timeline := (s.timeline.happen e).settle }

/-- Makes a step. -/
def take (s : Stand) : Step → Given × Stand
  | .execute action options => s.execute action options
  | .spawn name action options isFunction =>
    let (id, timeline) := s.timeline.launch (.request action options)
    (.nothing, { s with timeline, names := (name, id, isFunction) :: s.names })
  | .join name => s.join name
  | .advance time => (.nothing, { s with timeline := s.timeline.moveTo (s.timeline.now + time) })
  | .discover => s.discover
  | .setServers addresses =>
    (match Server.parseAll addresses with
      | .ok _ => .accepted
      | .error e => .refused (.ofAddress e), s.happen (.setServers addresses))
  | .nextServer =>
    (match s.system.client.roster.next with
      | .ok (server, _) => .server server
      | .error e => .refused e, s.happen .nextServer)
  | .removeServer address =>
    match Server.parse address with
    | .error e => (.refused (.ofAddress e), s)
    | .ok server =>
      (.truth (s.system.client.roster.evict server).1, s.happen (.removeServer server))
  | .resetServers => (.nothing, s.happen .resetServers)
  | .executeAsync action =>
    match s.execute action {} with
    | (.outcome outcome, s) => (.handled false outcome, s)
    | other => other
  | .servers => (.servers s.system.client.roster.pool.members, s)
  | .running => (.truth s.system.isDiscoveryRunning, s)
  | .bootstrap => (.servers s.system.client.roster.pool.bootstrap, s)
  | .metrics => (.metrics s.system.client.roster.ledger.report, s)
  | .shutdown =>
    (.nothing, ((s.happen .shutdown).happen .stop).happen (.release s.system.shutdowns.length))

/-- The entry of a step that led from one stand to another. -/
def entry (before : Nat) (given : Given) (after : Stand) : Entry :=
  let dispatched := after.system.dispatched
  { given
    requests := ((dispatched.take (dispatched.length - before)).map Dispatch.request).reverse
    servers := after.system.client.roster.pool.members
    running := after.system.isDiscoveryRunning }

/-- Makes steps one after the other. -/
def takeAll (s : Stand) : List Step → List Entry
  | [] => []
  | step :: more =>
    let (given, next) := s.take step
    entry s.system.dispatched.length given next :: next.takeAll more

end Stand

/-- What is rehearsed: a client to be built, the replies of its servers, and the
steps to be made. -/
structure Plan where
  setup : Client.Setup
  script : Script
  steps : List Step

/-- Builds the client and makes the steps. The first entry is about the client as
it was built. -/
def Plan.run (p : Plan) : Except ClientError (List Entry) := do
  let system ← Client.build p.setup
  let timing := p.setup.config.discovery
  let s : Stand :=
    { timeline := .start system p.script timing.initialDelay.toNat timing.interval.toNat }
  return Stand.entry 0 .nothing s :: s.takeAll p.steps

end Failover.Rehearsal
