import Failover.Action
import Failover.Client.Build
import Failover.Command.Line
import Failover.Command.Output
import Failover.Config.File
import Failover.Discovery.Iteration

/-!
# Carrying out commands

Every command builds a client from the configuration and asks it for something.
What is printed depends on nothing but the outcome of that request, so asking and
printing are kept apart: an action before, an `Outcome → Output` behind.
-/

namespace Failover.Command

/-! ## Configuration -/

/-- The server that is asked when none is configured. -/
def defaultServer : String := "http://localhost:9200"

/-- Lays what the command line says over a configuration. -/
def Invocation.adjust (i : Invocation) (c : Config) : Config :=
  let servers := if i.servers.isEmpty then c.servers else i.servers
  { c with
    servers := if servers.isEmpty then [defaultServer] else servers
    retry := { c.retry with maxAttempts := i.maxAttempts.getD c.retry.maxAttempts } }

/-- The configuration of an invocation. A file has to be usable by itself, whatever
the command line says besides. -/
def Invocation.configuration (i : Invocation) (files : Config.Files) : Except Trouble Config :=
  match i.config with
  | some path =>
    match Config.load files path with
    | .ok c => .ok (i.adjust c)
    | .error e => .error (.configuration path e)
  | none => .ok (i.adjust {})

/-! ## Outcomes -/

/-- The trouble that an answer tells of, if it is no success. -/
def refusal? (a : Answer) : Option Trouble :=
  if a.succeeded then none
  else some (.failed a.status (a.errorMessage.getD "unknown error"))

/-- What is printed of a successful answer. -/
def present (lines : Answer → List String) : Outcome → Output
  | .error e => .ofTrouble (.client e)
  | .ok a =>
    match refusal? a with
    | some t => .ofTrouble t
    | none => { lines := lines a }

/-- A string in an answer, or a question mark. -/
def shown (a : Answer) (path : List String) : String := (a.stringAt? path).getD "?"

/-- A text with blanks behind it. -/
def padded (width : Nat) (s : String) : String := s.pushn ' ' (width - s.length)

/-- What `ping` prints; `latency` is how long the answer took. -/
def pingLines (latency : String) (a : Answer) : List String :=
  ["Node:     " ++ shown a ["name"], "Cluster:  " ++ shown a ["cluster_name"],
    "Version:  " ++ shown a ["version", "number"], s!"Latency:  {latency} ms"]

/-- A line of the table of nodes. -/
def nodeRow (id name address : String) : String :=
  s!"{padded 24 id} {padded 24 name} {padded 32 address}"

/-- The name under which a node goes. -/
def nodeName (node : Json.Value) : String :=
  ((node.field? "name").bind Json.Value.string?).getD "?"

/-- The address at which a node is reached, as far as it says so. -/
def nodeAddress (scheme : String) (node : Json.Value) : String :=
  ((Discovery.nodeServer? node scheme).map Server.base).getD "-"

/-- The nodes that an answer tells of, by their ids. -/
def nodesOf (a : Answer) : List (String × Json.Value) :=
  match a.json.field? "nodes" with
  | some (.object nodes) => nodes
  | _ => []

/-- What `nodes` prints. -/
def nodesLines (scheme : String) (a : Answer) : List String :=
  ["Cluster: " ++ shown a ["cluster_name"], "", nodeRow "ID" "NAME" "HTTP ADDRESS",
    "".pushn '-' 80] ++
  (nodesOf a).map fun (id, node) => nodeRow id (nodeName node) (nodeAddress scheme node)

/-- What `request` prints: the JSON of any answer that has some, and trouble if the
answer is no success. -/
def presentRequest : Outcome → Output
  | .error e => .ofTrouble (.client e)
  | .ok a =>
    { lines := if a.json.isNull then [] else [a.json.pretty]
      trouble := refusal? a }

/-! ## Asking -/

/-- The action that `request` asks for. -/
def rawAction (method path : String) (body : Option String) : Except Trouble RawAction :=
  match Method.ofName? method with
  | none => .error (.method method)
  | some m =>
    let action : RawAction := { method := m, path }
    match body with
    | none => .ok action
    | some text =>
      match Json.Value.parse text with
      | .error e => .error (.body e)
      | .ok _ => .ok (action.withBody text)

/-- What a task comes down to. -/
inductive Plan where
  /-- An action is executed; what is printed may say how long it took. -/
  | ask (system : System) (action : Action) (print : (latency : String) → Outcome → Output)
  /-- The pool is watched, every so many seconds, a number of times or until
  interrupted. -/
  | watch (system : System) (interval : Nat) (count : Option Nat)

/-- Builds a client. -/
def built (c : Config) : Except Trouble System :=
  (Client.build { config := c }).mapError .client

/-- What a task comes down to with a configuration. While the pool is watched there is
no discovery in the background. -/
def Task.plan (t : Task) (c : Config) : Except Trouble Plan :=
  match t with
  | .ping => do
    return .ask (← built c) Failover.ping fun latency => present (pingLines latency)
  | .nodes filter => do
    return .ask (← built c) (({} : NodesInfo).addNode filter).withHttp.action
      fun _ => present (nodesLines c.discovery.defaultScheme)
  | .request method path body => do
    let a ← rawAction method path body
    return .ask (← built c) a.action fun _ => presentRequest
  | .watch interval count => do
    if interval = 0 then throw .interval
    let system ← built { c with discovery := { c.discovery with enabled := false } }
    return .watch system interval count

/-! ## Watching -/

def serverList (servers : List Server) : String := ", ".intercalate (servers.map Server.base)

/-- The line before the first discovery run. -/
def watchHead (c : Client) : String := s!"Bootstrap: {serverList c.roster.pool.bootstrap}"

/-- What a discovery run came to, in words. -/
def detail : Discovery.Result → String
  | .applied servers => s!"{servers.length} node(s) discovered"
  | .unchanged => "no usable addresses, pool kept"
  | .evicted server => s!"evicted {server.base}"
  | .bootstrap => "reverted to bootstrap"
  | .clientGone => ""

/-- The line on a discovery run, with the servers that are left. -/
def watchLine (number : Nat) (r : Discovery.Result) (c : Client) : String :=
  let n := toString number
  let head := "[" ++ "".pushn ' ' (4 - n.length) ++ n ++ "] "
  let servers := serverList c.roster.pool.members
  head ++ s!"{padded 10 r.name} {padded 32 (detail r)} pool: {servers}"

/-- Whether a watch goes on after so many runs. -/
def goesOn (count : Option Nat) (runs : Nat) : Bool := count.all (runs < ·)

variable {σ : Type}

/-- The lines on discovery runs after the first `number` ones, `patience` of them at
most. -/
def watchLines (send : Transport σ) (filter scheme : String) (count : Option Nat)
    (number : Nat) : (patience : Nat) → σ → Client → List String × σ
  | 0, s, _ => ([], s)
  | patience + 1, s, c =>
    let (result, c, s) := Discovery.run send s c filter scheme
    if result = .clientGone then ([], s)
    else
      let line := watchLine (number + 1) result c
      if goesOn count (number + 1) then
        let (more, s) := watchLines send filter scheme count (number + 1) patience s c
        (line :: more, s)
      else ([line], s)

/-! ## All commands -/

/-- What the outer world contributes to a run, besides files and the network. -/
structure Circumstances where
  /-- How long an answer took, in milliseconds. -/
  latency : String
  /-- How many discovery runs are made before a watch is interrupted. -/
  patience : Nat

/-- Carries out a plan, against a transport that answers at once. -/
def Plan.run (p : Plan) (w : Circumstances) (send : Transport σ) (s : σ) : Output × σ :=
  match p with
  | .ask system action print =>
    let (outcome, _, s) := system.client.execute send s action {}
    (print w.latency outcome, s)
  | .watch system _ count =>
    let (lines, s) :=
      watchLines send system.filter system.scheme count 0 w.patience s system.client
    ({ lines := watchHead system.client :: lines }, s)

/-- What an invocation comes down to. -/
def Invocation.plan (i : Invocation) (files : Config.Files) : Except Trouble Plan := do
  i.task.plan (← i.configuration files)

/-- Carries out an invocation. -/
def Invocation.run (i : Invocation) (files : Config.Files) (w : Circumstances)
    (send : Transport σ) (s : σ) : Output × σ :=
  match i.plan files with
  | .error t => (.ofTrouble t, s)
  | .ok p => p.run w send s

end Failover.Command
