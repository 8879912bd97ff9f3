import Failover.Credentials
import Failover.ClientError
import Failover.Dict

/-!
# Configurations

What a client is told before it starts. Every setting has a default, so a
configuration is what somebody wrote laid over the defaults. `check` is the last
word on whether a client can be built from it.

Times are in milliseconds.
-/

namespace Failover

namespace DiscoverySettings

def usualFilter : String := "_all"

def usualInterval : UInt64 := 10000

def usualScheme : String := "http://"

end DiscoverySettings

/-- How the members of the cluster are found. -/
structure DiscoverySettings where
  /-- Look for them in the background. -/
  enabled : Bool := false
  /-- The nodes to ask about. -/
  filter : String := DiscoverySettings.usualFilter
  /-- The pause before the first run. -/
  initialDelay : UInt64 := 0
  /-- The pause between two runs. -/
  interval : UInt64 := DiscoverySettings.usualInterval
  /-- What is put in front of a reported address. -/
  defaultScheme : String := DiscoverySettings.usualScheme
  deriving DecidableEq, Repr

namespace Config

def usualConnectTimeout : UInt64 := 3000

def usualReadTimeout : UInt64 := 3000

end Config

/-- The configuration of a client. -/
structure Config where
  /-- The addresses that the client begins with, and falls back to. -/
  servers : List String := []
  connectTimeout : UInt64 := Config.usualConnectTimeout
  readTimeout : UInt64 := Config.usualReadTimeout
  /-- Compress the bodies of requests. -/
  requestCompression : Bool := false
  /-- Headers of every request; those of an action go before them. -/
  defaultHeaders : Dict String := []
  username : Option String := none
  password : Option String := none
  discovery : DiscoverySettings := {}
  retry : RetrySettings := {}
  deriving DecidableEq, Repr

namespace Config

def withServers (servers : List String) : Config := { servers }

/-- The servers that the client begins with. -/
def bootstrapServers (c : Config) : Except ClientError (List Server) :=
  match Server.parseAll c.servers with
  | .error e => .error (.ofAddress e)
  | .ok [] => .error (.config .noServers)
  | .ok servers => .ok servers

/-- The text ends in `://`. -/
def isSchemeText (text : String) : Bool :=
  "://".toList.isSuffixOf text.toList

/-- A client can be built from the configuration. -/
def check (c : Config) : Except ClientError Unit := do
  let _ ← c.bootstrapServers
  if c.password.isSome ∧ c.username.isNone then throw (.config .passwordAlone)
  if c.discovery.enabled ∧ c.discovery.interval = 0 then throw (.config .noInterval)
  if !isSchemeText c.discovery.defaultScheme then
    throw (.config (.scheme c.discovery.defaultScheme))

/-- The configuration, if a client can be built from it. -/
def checked (c : Config) : Except ClientError Config := c.check.map fun _ => c

/-- The credentials of every request. A password alone makes none. -/
def credentials (c : Config) : Option Credentials :=
  c.username.map fun username => ⟨username, c.password⟩

/-- The configuration with background discovery at these times. -/
def withDiscovery (c : Config) (initialDelay interval : UInt64) : Config :=
  { c with discovery := { c.discovery with enabled := true, initialDelay, interval } }

end Config

end Failover
