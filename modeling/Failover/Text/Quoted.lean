import Failover.Text.CodeTable
import Failover.Text.PrintableTable

/-!
# Quoted text

Names and paths are shown between quotes, in a form that stays on one line and
shows every character: quotes, backslashes and the common controls are escaped by
a letter, all else that has no picture of its own, and every mark that would melt
into the character before it, by its code point.
-/

namespace Failover.Text

/-- The characters without a picture. -/
def picturelessTable : CodeTable := .ofText pictureless

/-- The marks that extend the picture of the character before them. -/
def extendingTable : CodeTable := .ofText extending

/-- The character is seen when it is written as it is. -/
def isPlain (c : Char) : Bool :=
  if c.toNat < 0x80 then 0x20 ≤ c.toNat && c.toNat != 0x7F
  else !(picturelessTable.contains c.toNat || extendingTable.contains c.toNat)

/-- A character between quotes. -/
def quoteChar (c : Char) : List Char :=
  if c == '\x00' then ['\\', '0']
  else if c == '\t' then ['\\', 't']
  else if c == '\r' then ['\\', 'r']
  else if c == '\n' then ['\\', 'n']
  else if c == '"' || c == '\\' then ['\\', c]
  else if isPlain c then [c]
  else ['\\', 'u', '\x7b'] ++ Nat.toDigits 16 c.toNat ++ ['\x7d']

/-- A text between quotes. -/
def quoted (s : String) : String :=
  String.ofList (['"'] ++ s.toList.flatMap quoteChar ++ ['"'])

end Failover.Text
