import Failover.Config.Reading
import Failover.Json.Reader

/-!
# Configurations as JSON values

A value is read strictly: a number is no string, and a list in the place of a
record gives its members in order. `toJson` writes every member, so reading gives
back what was written.
-/

namespace Failover.Config

open Json

namespace FromJson

/-- Something else than was expected. -/
def unexpected {α : Type} (v : Value) (expected : String) : Except Mismatch α :=
  .error (.type v.found expected)

def members (title : String) (names : List String) : Value → Except Mismatch (List (String × Value))
  | .object fields => .ok fields
  | .array items => .ok (names.zip items)
  | v => unexpected v s!"struct {title}"

def surplus (names : List String) : Value → Except Mismatch Unit
  | .array items =>
    if names.length < items.length then
      .error (.length items.length "fewer elements in array")
    else .ok ()
  | _ => .ok ()

def items : Value → Except Mismatch (List Value)
  | .array items => .ok items
  | v => unexpected v "a sequence"

def entries : Value → Except Mismatch (List (String × Value))
  | .object fields => .ok fields
  | v => unexpected v "a map"

def text : Value → Except Mismatch String
  | .string s => .ok s
  | v => unexpected v "a string"

def natural (bits : Nat) : Value → Except Mismatch Nat
  | .number (.int n) =>
    if 0 ≤ n ∧ n.toNat < Nat.pow 2 bits then .ok n.toNat
    else .error (.value (.number (.int n)) s!"u{bits}")
  | v => unexpected v s!"u{bits}"

def boolean : Value → Except Mismatch Bool
  | .bool b => .ok b
  | v => unexpected v "a boolean"

def knownKind (name : String) : Except Mismatch FailureKind :=
  match FailureKind.ofName? name with
  | some kind => .ok kind
  | none => .error (.variant name (FailureKind.all.map FailureKind.name))

/-- A kind by its name, or as the only field of an object with no value. -/
def kind : Value → Except Mismatch FailureKind
  | .string name => knownKind name
  | .object [(name, v)] => do
    let kind ← knownKind name
    if v.isNull then return kind else unexpected v "unit"
  | .object _ => .error (.value .map "map with a single key")
  | v => unexpected v "string or map"

def reading : Reading Value Mismatch :=
  { members, surplus, items, entries, text, natural, boolean
    isNothing := fun v => .ok v.isNull, kind }

end FromJson

/-- Reads a configuration from a value. -/
def ofJson (v : Value) : Except Json.Error Config :=
  (FromJson.reading.config v).mapError fun m => ⟨.shape m, none⟩

/-- A string or nothing. -/
def optionalToJson : Option String → Value
  | some s => .string s
  | none => .null

def discoveryToJson (s : DiscoverySettings) : Value :=
  .object [("enabled", .bool s.enabled), ("filter", .string s.filter),
    ("initial_delay_ms", .ofNat s.initialDelay.toNat), ("interval_ms", .ofNat s.interval.toNat),
    ("default_scheme", .string s.defaultScheme)]

def retryToJson (s : RetrySettings) : Value :=
  .object [("max_attempts", .ofNat s.maxAttempts.toNat),
    ("recoverable", .ofStrings (s.recoverable.map FailureKind.name))]

/-- The written form, with every member in its place. -/
def toJson (c : Config) : Value :=
  .object [("servers", .ofStrings c.servers),
    ("connect_timeout_ms", .ofNat c.connectTimeout.toNat),
    ("read_timeout_ms", .ofNat c.readTimeout.toNat),
    ("request_compression", .bool c.requestCompression),
    ("default_headers", .object (c.defaultHeaders.map fun (name, v) => (name, .string v))),
    ("username", optionalToJson c.username),
    ("password", optionalToJson c.password),
    ("discovery", discoveryToJson c.discovery),
    ("retry", retryToJson c.retry)]

end Failover.Config
