import Failover.Decimal.Shortest
import Failover.Json.Value
import Failover.Text.Numeral

/-!
# Writing JSON

The compact form has no white space at all, the indented one puts each item on a
line of its own. In strings only the quote, the backslash and the control
characters are escaped. A double is written with its shortest digits: positional
from 10⁻⁵ up to 10¹⁶ and with at least one digit behind the point, otherwise with
an exponent that shows its sign.
-/

namespace Failover.Json

open Decimal Text

/-- A character as it stands in a string. -/
def escapeChar (c : Char) : List Char :=
  if c == '"' then ['\\', '"']
  else if c == '\\' then ['\\', '\\']
  else if 0x20 ≤ c.toNat then [c]
  else if c == '\x08' then ['\\', 'b']
  else if c == '\x0c' then ['\\', 'f']
  else if c == '\n' then ['\\', 'n']
  else if c == '\r' then ['\\', 'r']
  else if c == '\t' then ['\\', 't']
  else ['\\', 'u', '0', '0', hexDigit (c.toNat / 16), hexDigit (c.toNat % 16)]

def writeString (s : String) : List Char :=
  ['"'] ++ s.toList.flatMap escapeChar ++ ['"']

/-- Where a double's digits are written positionally: the point stands behind at
most 16 of them, and at most four zeros stand behind the point. -/
def isPositional (point : Int) : Bool := -5 < point && point ≤ 16

/-- A double that is not zero, without its sign. -/
def writeDigits (s : Scientific) : List Char :=
  let ds := Nat.toDigits 10 s.digits
  let point : Int := ds.length + s.exponent
  if isPositional point then
    if 0 ≤ s.exponent then ds ++ List.replicate s.exponent.toNat '0' ++ ['.', '0']
    else if 0 < point then ds.take point.toNat ++ ['.'] ++ ds.drop point.toNat
    else ['0', '.'] ++ List.replicate (-point).toNat '0' ++ ds
  else
    let fraction := if ds.length = 1 then [] else '.' :: ds.drop 1
    let e := point - 1
    ds.take 1 ++ fraction ++ ['e', if 0 ≤ e then '+' else '-'] ++ Nat.toDigits 10 e.natAbs

def writeReal (x : Binary64) : List Char :=
  (if x.negative then ['-'] else []) ++
    if x.isZero then ['0', '.', '0'] else writeDigits (shortest x)

def Number.write : Number → List Char
  | int n => (if n < 0 then ['-'] else []) ++ Nat.toDigits 10 n.natAbs
  | real x => writeReal x

namespace Value

mutual

/-- The compact form. -/
def write : Value → List Char
  | null => "null".toList
  | bool b => if b then "true".toList else "false".toList
  | number n => n.write
  | string s => writeString s
  | array items => ['['] ++ writeItems items ++ [']']
  | object fields => ['\x7b'] ++ writeFields fields ++ ['\x7d']

def writeItems : List Value → List Char
  | [] => []
  | [v] => write v
  | v :: more => write v ++ [','] ++ writeItems more

def writeFields : List (String × Value) → List Char
  | [] => []
  | [(k, v)] => writeString k ++ [':'] ++ write v
  | (k, v) :: more => writeString k ++ [':'] ++ write v ++ [','] ++ writeFields more

end

/-- A line break and the indentation behind it. -/
def newLine (depth : Nat) : List Char := '\n' :: List.replicate (2 * depth) ' '

mutual

/-- The indented form, for a value whose line is indented `depth` times. Empty
arrays and objects stay on their line. -/
def writeIndented (depth : Nat) : Value → List Char
  | array [] => ['[', ']']
  | array items => ['['] ++ writeItemsIndented (depth + 1) items ++ newLine depth ++ [']']
  | object [] => ['\x7b', '\x7d']
  | object fields => ['\x7b'] ++ writeFieldsIndented (depth + 1) fields ++ newLine depth ++ ['\x7d']
  | null => write null
  | bool b => write (bool b)
  | number n => write (number n)
  | string s => write (string s)

def writeItemsIndented (depth : Nat) : List Value → List Char
  | [] => []
  | [v] => newLine depth ++ writeIndented depth v
  | v :: more => newLine depth ++ writeIndented depth v ++ [','] ++ writeItemsIndented depth more

def writeFieldsIndented (depth : Nat) : List (String × Value) → List Char
  | [] => []
  | [(k, v)] => newLine depth ++ writeString k ++ [':', ' '] ++ writeIndented depth v
  | (k, v) :: more =>
    newLine depth ++ writeString k ++ [':', ' '] ++ writeIndented depth v ++ [','] ++
      writeFieldsIndented depth more

end

/-- The compact text. -/
def compact (v : Value) : String := String.ofList v.write

/-- The indented text. -/
def pretty (v : Value) : String := String.ofList (v.writeIndented 0)

end Value

end Failover.Json
