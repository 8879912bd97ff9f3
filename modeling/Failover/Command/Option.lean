import Failover.Text.Numeral

/-!
# Options of the command line

The program has commands, and options that are written in front of the command or
behind it. Every option takes a value; only servers may be given more than once.
-/

namespace Failover.Command

/-- What can be set by an option. -/
inductive Setting where
  | config
  | server
  | maxAttempts
  | filter
  | body
  | interval
  | count
  deriving DecidableEq, Repr

namespace Setting

def all : List Setting := [config, server, maxAttempts, filter, body, interval, count]

def long : Setting → String
  | config => "config"
  | server => "server"
  | maxAttempts => "max-attempts"
  | filter => "filter"
  | body => "body"
  | interval => "interval"
  | count => "count"

def short? : Setting → Option Char
  | config => some 'c'
  | server => some 's'
  | body => some 'b'
  | _ => none

/-- The settings that every command has. -/
def shared : List Setting := [config, server, maxAttempts]

def isRepeatable (s : Setting) : Bool := s == server

/-- What stands for the value in a help text. -/
def placeholder : Setting → String
  | config => "CONFIG"
  | server => "SERVERS"
  | maxAttempts => "MAX_ATTEMPTS"
  | filter => "FILTER"
  | body => "BODY"
  | interval => "INTERVAL"
  | count => "COUNT"

def help : Setting → String
  | config => "Client configuration file (TOML or YAML)"
  | server => "Bootstrap server, repeatable; overrides the configured servers"
  | maxAttempts => "Total attempts per request"
  | filter => "Node filter"
  | body => "JSON request body"
  | interval => "Seconds between discovery runs"
  | count => "Stop after this many runs"

/-- The value that is taken when none is given. -/
def default? : Setting → Option String
  | filter => some "_all"
  | interval => some "10"
  | _ => none

end Setting

/-! ## Values -/

/-- The number that digits spell, perhaps behind a plus. -/
def natural? (s : String) : Option Nat :=
  let digits := if s.startsWith "+" then s.toList.tail else s.toList
  Text.numeral? 10 digits

/-- A number below two to the power of `bits`. -/
def bounded? (bits : Nat) (s : String) : Option Nat :=
  (natural? s).filter (· < Nat.pow 2 bits)

/-- A number of attempts; zero may have a minus in front of it. -/
def attempts? (s : String) : Option UInt32 :=
  match s.toList with
  | '-' :: digits => if !digits.isEmpty && digits.all (· == '0') then some 0 else none
  | _ => (bounded? 32 s).map UInt32.ofNat

/-- The value can be one of the setting. -/
def Setting.accepts (s : Setting) (value : String) : Bool :=
  match s with
  | config => !value.isEmpty
  | maxAttempts => (attempts? value).isSome
  | interval | count => (bounded? 64 value).isSome
  | server | filter | body => true

/-! ## Commands -/

/-- The name of a command. -/
inductive Name where
  | ping
  | nodes
  | request
  | watch
  deriving DecidableEq, Repr

namespace Name

def all : List Name := [ping, nodes, request, watch]

def text : Name → String
  | ping => "ping"
  | nodes => "nodes"
  | request => "request"
  | watch => "watch"

def ofText? (s : String) : Option Name := all.find? (·.text == s)

def help : Name → String
  | ping => "Check that a node answers"
  | nodes => "List cluster nodes and their HTTP addresses"
  | request => "Send an arbitrary request"
  | watch => "Run discovery on a schedule and print pool changes"

/-- The settings of a command, in the order in which they are explained. -/
def settings : Name → List Setting
  | ping => [.config, .server, .maxAttempts]
  | nodes => [.config, .filter, .server, .maxAttempts]
  | request => [.body, .config, .server, .maxAttempts]
  | watch => [.config, .interval, .count, .server, .maxAttempts]

/-- The values that a command takes without options, and what they are. -/
def arguments : Name → List (String × String)
  | request =>
    [("<METHOD>", "HTTP method (GET, POST, PUT, DELETE, HEAD)"),
      ("<PATH>", "Request path, e.g. /_cluster/health")]
  | _ => []

end Name

end Failover.Command
