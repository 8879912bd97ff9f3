import Failover.Answer

/-!
# Actions

An action is one logical request: what is asked, without the server that it is
asked of. It says how the response is to be read, too. Two actions are ready-made,
the ping and the question for the cluster's nodes; any other request is put
together by the caller.
-/

namespace Failover

/-- A logical request. The body may turn out to be impossible to write. -/
structure Action where
  method : Method
  path : String
  body : Except ClientError (Option String) := .ok none
  headers : Dict String := []
  interpret : Response → String → Except ClientError Answer := Answer.ofResponse

/-- The cheapest question that a node answers. -/
def ping : Action := { method := .get, path := "/" }

/-- A request for information about nodes. -/
structure NodesInfo where
  nodes : List String := []
  info : List String := []
  deriving DecidableEq, Repr

namespace NodesInfo

/-- Asks about these nodes too; of all, if none are named. -/
def addNode (n : NodesInfo) (node : String) : NodesInfo :=
  { n with nodes := n.nodes ++ [node] }

/-- Asks for this kind of information too. -/
def withInfo (n : NodesInfo) (info : String) : NodesInfo :=
  if info ∈ n.info then n else { n with info := n.info ++ [info] }

/-- Asks for the addresses at which nodes take requests. -/
def withHttp (n : NodesInfo) : NodesInfo := n.withInfo "http"

def path (n : NodesInfo) : String :=
  let nodes := if n.nodes.isEmpty then "_all" else String.intercalate "," n.nodes
  if n.info.isEmpty then "/_nodes/" ++ nodes
  else "/_nodes/" ++ nodes ++ "/" ++ String.intercalate "," n.info

def action (n : NodesInfo) : Action := { method := .get, path := n.path }

end NodesInfo

/-- A request that the caller puts together. -/
structure RawAction where
  method : Method
  path : String
  body : Option String := none
  headers : Dict String := []
  deriving DecidableEq, Repr

namespace RawAction

def withBody (a : RawAction) (body : String) : RawAction :=
  { a with body := some body }

/-- Sets a header; one set before under the very same name is replaced. -/
def withHeader (a : RawAction) (name value : String) : RawAction :=
  { a with headers := a.headers.insert name value }

def action (a : RawAction) : Action :=
  { method := a.method, path := a.path, body := .ok a.body, headers := a.headers }

end RawAction

end Failover
