import Failover.Config.Reading
import Failover.Toml.Document

/-!
# Configurations in TOML

Values have the types that they are written with; an array in the place of a record
gives its members in order, and what is too much in it does not matter. A point in
time counts as a table with a single entry, its text.
-/

namespace Failover.Config

namespace FromToml

open Toml (Value)

/-- The name of the entry that a point in time consists of. -/
def timeEntry : String := "$__toml_private_datetime"

/-- The entries of what counts as a table. -/
def entries : Value → Except Unit (List (String × Value))
  | .table entries => .ok entries
  | .dateTime t => .ok [(timeEntry, .string t.write)]
  | _ => .error ()

def members (names : List String) : Value → Except Unit (List (String × Value))
  | .array items => .ok (names.zip items)
  | v => entries v

def items : Value → Except Unit (List Value)
  | .array items => .ok items
  | _ => .error ()

def text : Value → Except Unit String
  | .string s => .ok s
  | _ => .error ()

def natural (bits : Nat) : Value → Except Unit Nat
  | .integer n => if 0 ≤ n ∧ n.toNat < Nat.pow 2 bits then .ok n.toNat else .error ()
  | _ => .error ()

def boolean : Value → Except Unit Bool
  | .boolean b => .ok b
  | _ => .error ()

/-- Nothing is said about a kind but its name. -/
def isEmpty : Value → Bool
  | .table [] => true
  | .array [] => true
  | _ => false

def knownKind (name : String) : Except Unit FailureKind :=
  match FailureKind.ofName? name with
  | some kind => .ok kind
  | none => .error ()

/-- A kind by its name, or as the only entry of a table with nothing in it. -/
def kind : Value → Except Unit FailureKind
  | .string name => knownKind name
  | .table [(name, v)] => if isEmpty v then knownKind name else .error ()
  | _ => .error ()

def reading : Reading Value Unit :=
  { members := fun _ => members, surplus := fun _ _ => .ok (), items, entries, text, natural
    boolean, isNothing := fun _ => .ok false, kind }

end FromToml

/-- The configuration that a text in TOML writes, usable or not. -/
def readToml? (text : String) : Option Config :=
  (Toml.Value.parse? text).bind fun v => (FromToml.reading.config v).toOption

/-- Reads a configuration from a text in TOML and checks it. -/
def ofToml (text : String) : Except ClientError Config :=
  match readToml? text with
  | none => .error .toml
  | some c => c.checked

end Failover.Config
