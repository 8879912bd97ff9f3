import Failover.Failure
import Failover.Json.Fault
import Failover.Retry
import Failover.Server

/-!
# Errors of the client

An error means that no response was made use of. A response that was delivered
and reports a failure is none: it comes back as an answer that did not succeed.
-/

namespace Failover

/-- What can be wrong with a configuration, or with building a client from it. -/
inductive ConfigFault where
  /-- No server is configured. -/
  | noServers
  /-- A pool was to be made without a server. -/
  | noBootstrap
  /-- A password stands without a user name. -/
  | passwordAlone
  /-- Discovery shall run without a pause. -/
  | noInterval
  /-- The scheme for discovered addresses does not end in `://`. -/
  | scheme (text : String)
  /-- The name of the file does not say which format it is in. -/
  | fileExtension (extension : String)
  /-- There is nothing that could run tasks. -/
  | noRuntime
  /-- The retry settings make no policy. -/
  | retry (fault : Retry.Fault)
  /-- What an action of the caller's own reports. -/
  | stated (reason : String)
  deriving DecidableEq, Repr

def ConfigFault.message : ConfigFault → String
  | noServers => "at least one server must be configured"
  | noBootstrap => "at least one bootstrap server is required"
  | passwordAlone => "password set without username"
  | noInterval => "discovery.interval_ms must be greater than zero"
  | scheme text => s!"discovery.default_scheme '{text}' must end with '://'"
  | fileExtension extension => s!"Unsupported config file extension '{extension}'"
  | noRuntime => "client must be created within a tokio runtime"
  | retry fault => fault.message
  | stated reason => reason

/-- Why a request, or a configuration, came to nothing. -/
inductive ClientError where
  /-- The server of the last attempt could not be reached. -/
  | couldNotConnect (server : Server) (cause : Failure)
  /-- The last attempt failed in another way. -/
  | transport (cause : Failure)
  /-- There is no server to send to. -/
  | emptyPool
  /-- What was delivered is not the cluster's. -/
  | malformedResponse (url : String) (contentType : Option String) (reason : String)
  /-- An address is none. -/
  | invalidServer (reason : String)
  /-- A configuration cannot be used. -/
  | config (fault : ConfigFault)
  /-- The client was shut down. -/
  | shutdown
  /-- A file could not be read. -/
  | io (reason : String)
  /-- A text is not the JSON that was asked for. -/
  | json (error : Json.Error)
  /-- A configuration file in TOML could not be read. -/
  | toml
  /-- A configuration file in YAML could not be read. -/
  | yaml

namespace ClientError

/-- The word for an error under which requests are counted. -/
def typeName : ClientError → String
  | couldNotConnect _ _ => "could_not_connect"
  | transport cause => cause.kind.name
  | emptyPool => "empty_pool"
  | malformedResponse _ _ _ => "malformed_response"
  | invalidServer _ => "invalid_server"
  | config _ => "config"
  | shutdown => "shutdown"
  | io _ => "io"
  | json _ => "json"
  | toml => "toml"
  | yaml => "yaml"

/-- The wording of an error. How the two file formats word theirs is their own
affair. -/
def message : ClientError → String
  | couldNotConnect server cause => s!"Could not connect to {server.base}: {cause.message}"
  | transport cause => cause.message
  | emptyPool => "No server available in the pool"
  | malformedResponse url _ reason => s!"Malformed response from {url}: {reason}"
  | invalidServer reason => s!"Invalid server address: {reason}"
  | config fault => s!"Configuration error: {fault.message}"
  | shutdown => "Client has been shut down"
  | io reason => s!"IO error: {reason}"
  | json error => s!"JSON error: {error.message}"
  | toml => "TOML error"
  | yaml => "YAML error"

/-- The wording of the cause that an error was made from, if it has one that its
own wording does not stand for. -/
def cause? : ClientError → Option String
  | couldNotConnect _ cause => some cause.message
  | io reason => some reason
  | json error => some error.message
  | _ => none

/-- An address that could not be read, as an error of the client. -/
def ofAddress (e : Server.ParseError) : ClientError := invalidServer e.message

end ClientError

end Failover
