import Failover.Decimal.Binary64
import Failover.Dict

/-!
# JSON values

Numbers are integers of 64 bits, signed or unsigned, or doubles. An object is a
dictionary: its fields are kept in ascending order of their names, each name once.
-/

namespace Failover.Json

/-- A number: an integer from -2⁶³ to 2⁶⁴ - 1, or a double. -/
inductive Number where
  | int (n : Int)
  | real (x : Decimal.Binary64)
  deriving DecidableEq

/-- A JSON value. -/
inductive Value where
  | null
  | bool (b : Bool)
  | number (n : Number)
  | string (s : String)
  | array (items : List Value)
  | object (fields : List (String × Value))

namespace Value

/-- The value of a field; other values than objects have none. -/
def field? (v : Value) (name : String) : Option Value :=
  match v with
  | object fields => Dict.get? fields name
  | _ => none

/-- The value at the end of a path of field names. -/
def at? (v : Value) (path : List String) : Option Value :=
  path.foldlM field? v

def string? : Value → Option String
  | string s => some s
  | _ => none

def isNull : Value → Bool
  | null => true
  | _ => false

/-- An integer as a value. -/
def ofNat (n : Nat) : Value := number (.int n)

/-- A list of strings as a value. -/
def ofStrings (ss : List String) : Value := array (ss.map string)

end Value

end Failover.Json
