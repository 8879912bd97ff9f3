import Failover.Config.Basic

/-!
# Reading a configuration

Configurations are written in three formats. They agree on what there is to say
and differ in what counts as a string, a number or a list of members; so a format
is a `Reading`, the questions that can be asked of a document in it, and the
configuration is read once for all formats.

A record is read by laying the members that are given, in the order in which they
are given, over what members are when they are missing (`unsaid`). That is said
member by member and apart from the defaults of the record; a section that is missing
is the default of the section.
-/

namespace Failover

/-- What each member of retry settings is when it is missing. -/
def RetrySettings.unsaid : RetrySettings where
  maxAttempts := 0
  recoverable := []

/-- What each member of discovery settings is when it is missing. -/
def DiscoverySettings.unsaid : DiscoverySettings where
  enabled := false
  filter := usualFilter
  initialDelay := 0
  interval := usualInterval
  defaultScheme := usualScheme

namespace Config

/-- What each member of a configuration is when it is missing. -/
def unsaid : Config where
  servers := []
  connectTimeout := usualConnectTimeout
  readTimeout := usualReadTimeout
  requestCompression := false
  defaultHeaders := []
  username := none
  password := none
  discovery := {}
  retry := {}

/-- What can be asked of a document `δ` of a format, with faults `ε`. -/
structure Reading (δ ε : Type) where
  /-- The members of a record with this title and these member names. -/
  members : String → List String → δ → Except ε (List (String × δ))
  /-- Whether a record with these member names holds more than it should. -/
  surplus : List String → δ → Except ε Unit
  /-- The items of a list. -/
  items : δ → Except ε (List δ)
  /-- The entries of a dictionary. -/
  entries : δ → Except ε (List (String × δ))
  text : δ → Except ε String
  /-- A number below 2 to the power of `bits`. -/
  natural : (bits : Nat) → δ → Except ε Nat
  boolean : δ → Except ε Bool
  /-- Whether nothing is said. -/
  isNothing : δ → Except ε Bool
  kind : δ → Except ε FailureKind

namespace Reading

variable {δ ε : Type}

/-- A record: the members that are given, laid over what they are when they are missing. -/
def record {α : Type} (r : Reading δ ε) (title : String) (names : List String) (unsaid : α)
    (set : α → String → δ → Except ε α) (d : δ) : Except ε α := do
  let given ← r.members title names d
  let value ← given.foldlM (fun value (name, d) => set value name d) unsaid
  r.surplus names d
  return value

/-- Either nothing or a string. -/
def optionalText (r : Reading δ ε) (d : δ) : Except ε (Option String) := do
  if ← r.isNothing d then return none
  else (r.text d).map some

/-- A list of strings. -/
def texts (r : Reading δ ε) (d : δ) : Except ε (List String) := do
  (← r.items d).mapM r.text

/-- A dictionary of strings; of two entries with one name the later counts. -/
def textDict (r : Reading δ ε) (d : δ) : Except ε (Dict String) := do
  let pairs ← (← r.entries d).mapM fun (name, d) => (r.text d).map (name, ·)
  return .ofList pairs

def natural64 (r : Reading δ ε) (d : δ) : Except ε UInt64 :=
  (r.natural 64 d).map UInt64.ofNat

def natural32 (r : Reading δ ε) (d : δ) : Except ε UInt32 :=
  (r.natural 32 d).map UInt32.ofNat

/-- Lays a member over retry settings. -/
def setRetry (r : Reading δ ε) (s : RetrySettings) (name : String) (d : δ) :
    Except ε RetrySettings :=
  match name with
  | "max_attempts" => (r.natural32 d).map fun maxAttempts => { s with maxAttempts }
  | "recoverable" => do
    let recoverable ← (← r.items d).mapM r.kind
    return { s with recoverable }
  | _ => .ok s

def retrySettings (r : Reading δ ε) : δ → Except ε RetrySettings :=
  r.record "RetryConfig" ["max_attempts", "recoverable"] .unsaid r.setRetry

/-- Lays a member over discovery settings. -/
def setDiscovery (r : Reading δ ε) (s : DiscoverySettings) (name : String) (d : δ) :
    Except ε DiscoverySettings :=
  match name with
  | "enabled" => (r.boolean d).map fun enabled => { s with enabled }
  | "filter" => (r.text d).map fun filter => { s with filter }
  | "initial_delay_ms" => (r.natural64 d).map fun initialDelay => { s with initialDelay }
  | "interval_ms" => (r.natural64 d).map fun interval => { s with interval }
  | "default_scheme" => (r.text d).map fun defaultScheme => { s with defaultScheme }
  | _ => .ok s

def discoverySettings (r : Reading δ ε) : δ → Except ε DiscoverySettings :=
  r.record "DiscoveryConfig"
    ["enabled", "filter", "initial_delay_ms", "interval_ms", "default_scheme"] .unsaid
    r.setDiscovery

/-- Lays a member over a configuration. -/
def setConfig (r : Reading δ ε) (c : Config) (name : String) (d : δ) : Except ε Config :=
  match name with
  | "servers" => (r.texts d).map fun servers => { c with servers }
  | "connect_timeout_ms" => (r.natural64 d).map fun connectTimeout => { c with connectTimeout }
  | "read_timeout_ms" => (r.natural64 d).map fun readTimeout => { c with readTimeout }
  | "request_compression" =>
    (r.boolean d).map fun requestCompression => { c with requestCompression }
  | "default_headers" => (r.textDict d).map fun defaultHeaders => { c with defaultHeaders }
  | "username" => (r.optionalText d).map fun username => { c with username }
  | "password" => (r.optionalText d).map fun password => { c with password }
  | "discovery" => (r.discoverySettings d).map fun discovery => { c with discovery }
  | "retry" => (r.retrySettings d).map fun retry => { c with retry }
  | _ => .ok c

/-- The members of a configuration, in order. -/
def configNames : List String :=
  ["servers", "connect_timeout_ms", "read_timeout_ms", "request_compression", "default_headers",
    "username", "password", "discovery", "retry"]

def config (r : Reading δ ε) : δ → Except ε Config :=
  r.record "ClientConfig" configNames .unsaid r.setConfig

end Reading

end Config

end Failover
