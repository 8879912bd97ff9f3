import Failover.Json.Writer

/-!
# What can be wrong with JSON

Two kinds of fault: the text is no JSON, or the value is not of the shape that is
asked for. A fault in a text has a place, given as the line and the number of
bytes in it; a fault in a value that was read before has none.
-/

namespace Failover.Json

/-- What was found where something else was expected. -/
inductive Found where
  | null
  | bool (b : Bool)
  | number (n : Number)
  | string (s : String)
  | sequence
  | map

def Found.describe : Found → String
  | null => "null"
  | bool b => s!"boolean `{b}`"
  | number (.int n) => s!"integer `{n}`"
  | number (.real x) => s!"floating point `{String.ofList (writeReal x)}`"
  | string s => "string \"" ++ s ++ "\""
  | sequence => "sequence"
  | map => "map"

def Value.found : Value → Found
  | .null => .null
  | .bool b => .bool b
  | .number n => .number n
  | .string s => .string s
  | .array _ => .sequence
  | .object _ => .map

/-- A value that is not of the shape that is asked for. -/
inductive Mismatch where
  | type (found : Found) (expected : String)
  | value (found : Found) (expected : String)
  | length (count : Nat) (expected : String)
  | variant (name : String) (known : List String)
  | missing (field : String)
  | duplicate (field : String)
  | refused (reason : String)

/-- The names a value may have, as a reader is told of them. -/
def oneOf (names : List String) : String :=
  match names.map fun n => "`" ++ n ++ "`" with
  | [a] => a
  | [a, b] => a ++ " or " ++ b
  | ns => "one of " ++ String.intercalate ", " ns

def Mismatch.message : Mismatch → String
  | type found expected => s!"invalid type: {found.describe}, expected {expected}"
  | value found expected => s!"invalid value: {found.describe}, expected {expected}"
  | length count expected => s!"invalid length {count}, expected {expected}"
  | variant name known => s!"unknown variant `{name}`, expected {oneOf known}"
  | missing field => s!"missing field `{field}`"
  | duplicate field => s!"duplicate field `{field}`"
  | refused reason => reason

/-- What is wrong at a place of a text. -/
inductive Fault where
  | endInValue
  | endInList
  | endInObject
  | endInString
  | noValue
  | noWord
  | noColon
  | noListEnd
  | noObjectEnd
  | escape
  | hexEscapeEnd
  | loneSurrogate
  | number
  | outOfRange
  | controlCharacter
  | keyNoString
  | trailingComma
  | trailing
  | tooDeep
  | shape (m : Mismatch)

def Fault.message : Fault → String
  | endInValue => "EOF while parsing a value"
  | endInList => "EOF while parsing a list"
  | endInObject => "EOF while parsing an object"
  | endInString => "EOF while parsing a string"
  | noValue => "expected value"
  | noWord => "expected ident"
  | noColon => "expected `:`"
  | noListEnd => "expected `,` or `]`"
  | noObjectEnd => "expected `,` or `\x7d`"
  | escape => "invalid escape"
  | hexEscapeEnd => "unexpected end of hex escape"
  | loneSurrogate => "lone leading surrogate in hex escape"
  | number => "invalid number"
  | outOfRange => "number out of range"
  | controlCharacter => "control character (\\u0000-\\u001F) found while parsing a string"
  | keyNoString => "key must be a string"
  | trailingComma => "trailing comma"
  | trailing => "trailing characters"
  | tooDeep => "recursion limit exceeded"
  | shape m => m.message

/-- A place in a text: the line, and how many bytes of it lie before the place. -/
structure Position where
  line : Nat
  column : Nat
  deriving DecidableEq, Repr

/-- The place behind the first `offset` bytes. -/
def Position.of (text : List Char) (offset : Nat) : Position :=
  go 1 0 offset text
where
  go (line column left : Nat) : List Char → Position
    | [] => ⟨line, column⟩
    | c :: r =>
      if left = 0 then ⟨line, column⟩
      else if left < c.utf8Size then ⟨line, column + left⟩
      else if c = '\n' then go (line + 1) 0 (left - 1) r
      else go line (column + c.utf8Size) (left - c.utf8Size) r

/-- A fault, with its place where it has one. -/
structure Error where
  fault : Fault
  position : Option Position

/-- The wording of an error. -/
def Error.message (e : Error) : String :=
  match e.position with
  | some p => s!"{e.fault.message} at line {p.line} column {p.column}"
  | none => e.fault.message

end Failover.Json
