import Failover.Request

/-!
# Scripted replies

In a rehearsal every server has a list of replies. The first request to it gets
the first reply, the second the second, and the last reply is given again and again.
A reply may come late. Servers without a list of their own share the list under
`*`.
-/

namespace Failover.Rehearsal

/-- What a script answers. -/
inductive Part where
  | response (r : Response)
  | failure (kind : FailureKind) (report : String)
  deriving DecidableEq

/-- A part, and how many milliseconds after the request it comes. -/
structure Cue where
  part : Part
  delay : Nat := 0
  deriving DecidableEq

/-- The reply that a part makes to a request. -/
def Part.reply (p : Part) (r : Request) : Reply :=
  match p with
  | response answer => .ok answer
  | failure kind report => .error ⟨kind, r.url, report⟩

/-- The replies of a script that are still to come, by the name of the list. -/
structure Script where
  cues : Dict (List Cue)

namespace Script

/-- The list that a server takes its replies from. -/
def listFor (s : Script) (server : Server) : String :=
  if s.cues.contains server.base then server.base else "*"

/-- The replies from the next one on: the last of a list stays. -/
def rest : List Cue → List Cue
  | _ :: c :: r => c :: r
  | cs => cs

/-- What is said where the script has no reply. -/
def silence : Cue := { part := .failure .other "no reply scripted" }

/-- The reply to a request, and the script after it. -/
def next (s : Script) (r : Request) : Cue × Script :=
  let name := s.listFor r.server
  let cues := (s.cues.get? name).getD []
  (cues.headD silence,
    if cues.isEmpty then s else { s with cues := s.cues.insert name (rest cues) })

end Script

end Failover.Rehearsal
