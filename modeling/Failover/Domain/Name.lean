import Failover.Text.Utf8
import Failover.Domain.Mapping
import Failover.Domain.Bidi
import Failover.Domain.Joining
import Failover.Domain.MarkTable
import Failover.Domain.Punycode

/-!
# Domain names in ASCII

`toAscii?` is the form of a host name that is sent and compared. The name is
mapped, split at its dots, and each label is brought to ASCII: a label in ASCII
is what it is, any other becomes `xn--` and its Punycode. A label that arrives
with `xn--` is decoded, held to the same rule as the others (`isLabel`), and kept.
Since one predicate judges a label in either form, a name that has been brought
to ASCII passes again unchanged.

No length is checked and hyphens may stand anywhere: the client leaves it to the
resolver to refuse such names.
-/

namespace Failover.Domain

open Failover.Text

def markTable : CodeTable := .ofText markText

/-- A combining mark, which cannot begin a label. -/
def isMark (c : Char) : Bool :=
  !isIdeograph c && markTable.contains c.toNat

/-- The mark of a label that carries Punycode. -/
def acePrefix : List Char := ['x', 'n', '-', '-']

/-- The longest label that is encoded, since converting takes quadratic time. A text of twice
as many characters is decoded, the mark in front of it not counted. -/
def maxConverted : Nat := 1000

/-- A label outside ASCII as the domain name system would show it: composed, made
of characters that mapping leaves alone, not begun by a mark, its joiners in
place. -/
def isLabel (label : List Char) : Bool :=
  label.length ≤ maxConverted && compose label == label && label.all isStable &&
  !label.contains '.' && !(label.head?.any isMark) && joinersFit [] label &&
  !label.any isForbidden

/-- A label in its two forms. -/
structure Label where
  shown : List Char
  ascii : List Char

/-- The two forms of a mapped label. -/
def Label.ofMapped? (label : List Char) : Option Label :=
  let inAscii := label.all (·.toNat < 0x80)
  if acePrefix.isPrefixOf label then
    let code := label.drop 4
    if inAscii && code.length ≤ 2 * maxConverted then
      match Punycode.decode? code with
      | none => none
      | some shown =>
        if isLabel shown && shown.any (0x80 ≤ ·.toNat) then some ⟨shown, label⟩ else none
    else none
  else if inAscii then
    if label.any isForbidden then none else some ⟨label, label⟩
  else if isLabel label then some ⟨label, acePrefix ++ Punycode.encode label⟩
  else none

/-- The ASCII form of a name given as text. -/
def textToAscii? (name : List Char) : Option (List Char) := do
  let mapped ← map? name
  let labels ← (splitOn (· == '.') mapped).mapM Label.ofMapped?
  if areDirected (labels.map (·.shown)) then
    some (['.'].intercalate (labels.map (·.ascii)))
  else none

/-- The ASCII form of a name given as bytes, which have to be UTF-8. -/
def toAscii? (bytes : List UInt8) : Option (List Char) :=
  Utf8.decode? bytes >>= textToAscii?

end Failover.Domain
