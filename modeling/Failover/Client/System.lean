import Failover.Config.Basic
import Failover.Discovery.Iteration

/-!
# A client at work

Many things go on in a client at once: requests that callers wait for or have
handed over to a handler, discovery iterations, the background task that starts
such iterations by the clock, changes of the membership, and shutdowns. Each of
them is a sequence of steps, and the steps of one are never interrupted by those of
another. So a run of a client is a list of events in any order, and `System.step`
says what each event does. An event that is not possible in a state (a reply that
nobody waits for, a timer that is not set) does nothing.

A logical request goes the same way wherever it comes from: `begin` takes its first
step, `takeReply` each of the others. A task and an iteration of the background task
differ in where the way is noted (`setStage`) and in what their end brings about
(`conclude`).

Every request that was sent, every reply that was taken, every logical request that
ended and every call of a handler is kept, last first, so that what a run has done can
be read off the state that it has reached.
-/

namespace Failover

/-- What a task does. -/
inductive Work where
  | request (action : Action) (options : Options)
  | discovery

/-- What a task came to. Of an iteration that is the outcome of its request, too. -/
inductive WorkResult where
  | request (outcome : Outcome)
  | discovery (outcome : Outcome) (result : Discovery.Result)

/-- What the logical request of a task came to. -/
def WorkResult.outcome : WorkResult → Outcome
  | request outcome => outcome
  | discovery outcome _ => outcome

/-- How far a task is. -/
inductive Stage where
  /-- Nothing was done yet. -/
  | fresh
  /-- An attempt waits for its reply. -/
  | waiting (flight : Flight)
  | done (result : WorkResult)

/-- Something that a caller has asked the client to do. -/
structure Task where
  work : Work
  stage : Stage := .fresh

/-- The background task, which runs one iteration after the other. -/
inductive Background where
  /-- It is waiting for the time of its next iteration. -/
  | sleeping
  /-- The request of an iteration waits for its reply. -/
  | asking (flight : Flight)
  /-- It has ended, or has never been started. -/
  | ended

/-- Who made an attempt: a task, by its place in the list, or the background task. -/
inductive Origin where
  | task (id : Nat)
  | background
  deriving DecidableEq

/-- A request that was sent. -/
structure Dispatch where
  origin : Origin
  request : Request
  deriving DecidableEq

/-- A reply that was taken, with the request that it answers. -/
structure Receipt where
  origin : Origin
  request : Request
  reply : Reply

/-- A logical request that has ended. -/
structure Conclusion where
  origin : Origin
  result : WorkResult

/-- What the handler of a request is told. -/
inductive Call where
  | completed (answer : Answer)
  | failed (error : ClientError)

/-- The call that an outcome makes. -/
def Call.of : Outcome → Call
  | .ok answer => completed answer
  | .error e => failed e

/-- The handler of a request was called. -/
structure Notice where
  id : Nat
  call : Call

/-- A client and all that goes on in it. -/
structure System where
  client : Client
  /-- The nodes that discovery asks about. -/
  filter : String := "_all"
  /-- What discovery puts in front of an address. -/
  scheme : String := "http://"
  tasks : List Task := []
  background : Background := .ended
  /-- Nobody has taken charge of ending the background task yet. -/
  hasHandle : Bool := false
  /-- The background task was told to end. -/
  cancelled : Bool := false
  /-- The calls of shutdown so far: whether each has returned. -/
  shutdowns : List Bool := []
  dispatched : List Dispatch := []
  received : List Receipt := []
  concluded : List Conclusion := []
  /-- The requests whose replies nobody waits for any more. -/
  abandoned : List Request := []
  notices : List Notice := []

/-- Something that happens. -/
inductive Event where
  /-- A caller asks for something; nothing is done yet. -/
  | launch (work : Work)
  /-- A task makes its first step. -/
  | begin (id : Nat)
  /-- The reply to an attempt comes. -/
  | reply (origin : Origin) (reply : Reply)
  /-- The time of the next background iteration has come. -/
  | wake
  /-- The membership is replaced by the servers of these addresses. -/
  | setServers (addresses : List String)
  /-- The membership is replaced by these servers, among them perhaps one twice. -/
  | replaceServers (servers : List Server)
  /-- A caller asks for the next server. -/
  | nextServer
  /-- A caller takes a server out. -/
  | removeServer (server : Server)
  /-- A caller brings the bootstrap servers back. -/
  | resetServers
  /-- A caller shuts the client down; the call may have to wait. -/
  | shutdown
  /-- The background task notices that it was told to end. -/
  | stop
  /-- A call of shutdown returns, now that the background task has ended. -/
  | release (call : Nat)

namespace Background

/-- It has not ended. -/
def isActive : Background → Bool
  | ended => false
  | _ => true

/-- The attempt whose reply it waits for. -/
def flight? : Background → Option Flight
  | asking f => some f
  | _ => none

/-- How it goes on when its iteration has come so far: only the end of the client is
its end. -/
def ofStage : Stage → Background
  | .fresh => sleeping
  | .waiting f => asking f
  | .done (.discovery _ .clientGone) => ended
  | .done _ => sleeping

end Background

namespace System

/-- The background task is there, and nobody has taken charge of ending it. -/
def isDiscoveryRunning (s : System) : Bool := s.hasHandle && s.background.isActive

/-- The question of discovery. -/
def question (s : System) : Action := (Discovery.question s.filter).action

/-- What a piece of work asks for. -/
def asked (s : System) : Work → Action × Options
  | .request action options => (action, options)
  | .discovery => (s.question, {})

/-- The work that is about to make its first step. -/
def ready? (s : System) : Origin → Option Work
  | .task id =>
    match s.tasks[id]? with
    | some ⟨work, .fresh⟩ => some work
    | _ => none
  | .background =>
    match s.background with
    | .sleeping => some .discovery
    | _ => none

/-- The work that waits for a reply, with the attempt that it waits for. -/
def pending? (s : System) : Origin → Option (Work × Flight)
  | .task id =>
    match s.tasks[id]? with
    | some ⟨work, .waiting f⟩ => some (work, f)
    | _ => none
  | .background =>
    match s.background with
    | .asking f => some (.discovery, f)
    | _ => none

/-- Notes how far the work has come. -/
def setStage (s : System) (origin : Origin) (stage : Stage) : System :=
  match origin with
  | .task id => { s with tasks := s.tasks.modify id fun t => { t with stage } }
  | .background => { s with background := .ofStage stage }

/-- Notes that a request was sent. -/
def noteDispatch (s : System) (origin : Origin) (f : Flight) : System :=
  { s with dispatched := ⟨origin, f.request⟩ :: s.dispatched }

/-- Notes that a reply was taken. -/
def noteReceipt (s : System) (origin : Origin) (f : Flight) (reply : Reply) : System :=
  { s with received := ⟨origin, f.request, reply⟩ :: s.received }

/-- The call of a handler that the end of work makes. Nobody waits for an iteration
with a handler. -/
def notice? : Origin → WorkResult → Option Notice
  | .task id, .request outcome => some ⟨id, .of outcome⟩
  | _, _ => none

/-- Notes that work has ended, and calls its handler. -/
def noteConclusion (s : System) (origin : Origin) (result : WorkResult) : System :=
  { s with
    concluded := ⟨origin, result⟩ :: s.concluded
    notices := (notice? origin result).toList ++ s.notices }

/-- What work makes of the outcome of its request: after an iteration the pool follows
it. -/
def conclude (s : System) (work : Work) (c : Client) (outcome : Outcome) :
    Client × WorkResult :=
  match work with
  | .request _ _ => (c, .request outcome)
  | .discovery =>
    let (c, result) := Discovery.conclude s.scheme c outcome
    (c, .discovery outcome result)

/-- Work has come so far. -/
def advance (s : System) (origin : Origin) (work : Work) (c : Client) : Progress → System
  | .waiting f =>
    ({ s with client := c }.noteDispatch origin f).setStage origin (.waiting f)
  | .ended outcome =>
    let (c, result) := s.conclude work c outcome
    ({ s with client := c }.noteConclusion origin result).setStage origin (.done result)

/-- Makes the first step of work that is about to make it. -/
def begin (s : System) (origin : Origin) : System :=
  match s.ready? origin with
  | some work =>
    let (action, options) := s.asked work
    let (c, progress) := s.client.start action options
    s.advance origin work c progress
  | none => s

/-- Goes on with work whose reply has come. -/
def takeReply (s : System) (origin : Origin) (reply : Reply) : System :=
  match s.pending? origin with
  | some (work, f) =>
    let (c, progress) := s.client.resume f reply
    (s.noteReceipt origin f reply).advance origin work c progress
  | none => s

/-- Changes the pool. -/
def withRoster (s : System) (roster : Roster) : System :=
  { s with client := { s.client with roster } }

/-- What an event does. -/
def step (s : System) : Event → System
  | .launch work => { s with tasks := s.tasks ++ [{ work }] }
  | .begin id => s.begin (.task id)
  | .reply origin reply => s.takeReply origin reply
  | .wake => s.begin .background
  | .setServers addresses =>
    match s.client.roster.replaceAll addresses with
    | .ok roster => s.withRoster roster
    | .error _ => s
  | .replaceServers servers => s.withRoster (s.client.roster.replace servers)
  | .nextServer =>
    match s.client.roster.next with
    | .ok (_, roster) => s.withRoster roster
    | .error _ => s
  | .removeServer server => s.withRoster (s.client.roster.evict server).2
  | .resetServers => s.withRoster s.client.roster.reset
  | .shutdown =>
    -- The call that finds the handle takes it and waits; any other returns at once.
    { s with
      client := { s.client with closed := true }
      hasHandle := false
      cancelled := s.cancelled || s.hasHandle
      shutdowns := s.shutdowns ++ [!s.hasHandle] }
  | .stop =>
    if s.cancelled then
      { s with
        background := .ended
        abandoned := (s.background.flight?.map Flight.request).toList ++ s.abandoned }
    else s
  | .release call =>
    if s.background.isActive then s
    else { s with shutdowns := s.shutdowns.modify call fun _ => true }

/-- A run: events one after the other. -/
def run (s : System) (events : List Event) : System :=
  events.foldl step s

end System

end Failover
