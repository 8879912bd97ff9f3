import Failover.ClientError
import Failover.Ledger

/-!
# The pool of servers

Requests go to the members of the pool in turn. The servers that the pool began
with are kept: whenever it would run empty they come back, so that a pool always
has a server to offer. A change of the membership starts the turn anew.

The turn is a counter of 64 bits that is never reset while the membership stays,
and wraps around: `next?` takes its remainder by the number of members.
-/

namespace Failover

/-- The servers that requests go to. -/
structure Pool where
  bootstrap : List Server
  members : List Server
  cursor : UInt64
  deriving DecidableEq

namespace Pool

/-- A pool of these servers, which must be some. -/
def ofServers? (servers : List Server) : Except ConfigFault Pool :=
  let servers := Server.distinct servers
  if servers.isEmpty then .error .noBootstrap
  else .ok ⟨servers, servers, 0⟩

/-- The server whose turn it is, and the pool with the next one's turn. -/
def next? (p : Pool) : Option (Server × Pool) :=
  (p.members[p.cursor.toNat % p.members.length]?).map fun s =>
    (s, { p with cursor := p.cursor + 1 })

/-- A pool with these members, the first of them to come. -/
def withMembers (p : Pool) (members : List Server) : Pool :=
  { p with members, cursor := 0 }

/-- Takes other members; the bootstrap servers, if there are none. -/
def replace (p : Pool) (servers : List Server) : Pool :=
  let servers := Server.distinct servers
  p.withMembers (if servers.isEmpty then p.bootstrap else servers)

/-- Goes back to the bootstrap servers. -/
def reset (p : Pool) : Pool := p.withMembers p.bootstrap

/-- The members without one of them; the bootstrap servers, if it was the last. -/
def evict (p : Pool) (server : Server) : Pool :=
  let remaining := p.members.filter (· ≠ server)
  p.withMembers (if remaining.isEmpty then p.bootstrap else remaining)

/-- How many members there are. -/
def size (p : Pool) : Nat := p.members.length

end Pool

/-- A pool and what is written down about it: every change of the membership
leaves its size in the ledger. -/
structure Roster where
  pool : Pool
  ledger : Ledger

namespace Roster

def record (r : Roster) (m : Metric) : Roster :=
  { r with ledger := r.ledger.record m }

/-- Writes down the size of the pool. -/
def gauge (r : Roster) : Roster := r.record (.poolSize r.pool.size)

/-- A roster whose pool has just been made. -/
def start (p : Pool) : Roster := gauge ⟨p, []⟩

/-- The server whose turn it is. -/
def next (r : Roster) : Except ClientError (Server × Roster) :=
  match r.pool.next? with
  | some (server, pool) => .ok (server, { r with pool })
  | none => .error .emptyPool

def replace (r : Roster) (servers : List Server) : Roster :=
  gauge { r with pool := r.pool.replace servers }

def reset (r : Roster) : Roster := gauge { r with pool := r.pool.reset }

/-- Takes a server out, if it is a member; says whether it was. -/
def evict (r : Roster) (server : Server) : Bool × Roster :=
  if server ∈ r.pool.members then (true, gauge { r with pool := r.pool.evict server })
  else (false, r)

/-- Takes the servers of these addresses, all of them or, if one is no address,
none. -/
def replaceAll (r : Roster) (addresses : List String) : Except ClientError Roster :=
  match Server.parseAll addresses with
  | .error e => .error (.ofAddress e)
  | .ok servers => .ok (r.replace servers)

end Roster

end Failover
