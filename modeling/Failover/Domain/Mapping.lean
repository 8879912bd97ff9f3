import Failover.Text.Normal
import Failover.Domain.MappingTable

/-!
# Mapping a domain name

Before a domain name is taken apart into labels its characters are brought to
the form that the domain name system compares: capitals become small letters,
compatibility forms (full-width letters, ideographic full stops) the characters
they stand for, invisible ones vanish, and what no name may hold is refused.
The result is canonically composed.

Inside ASCII only the capitals change, and no ideograph does; those parts need no table.
-/

namespace Failover.Domain

open Failover.Text

def mappedTable : CodeTable := .ofText mappedText
def ignoredTable : CodeTable := .ofText ignoredText
def disallowedTable : CodeTable := .ofText disallowedText

/-- What stands in the place of a character, or `none` where it is refused. -/
def mapChar? (c : Char) : Option (List Char) :=
  if c.toNat < 0x80 then some [c.toLower]
  else if isIdeograph c then some [c]
  else
    match mappedTable.find? c.toNat with
    | some e => some ((e.shifted c.toNat).map Char.ofNat)
    | none =>
      if ignoredTable.contains c.toNat then some []
      else if disallowedTable.contains c.toNat then none
      else some [c]

/-- A character that mapping leaves as it is. -/
def isStable (c : Char) : Bool :=
  mapChar? c == some [c]

/-- The mapped and composed form of a whole name. -/
def map? (cs : List Char) : Option (List Char) :=
  (cs.mapM mapChar?).map fun ps => compose ps.flatten

/-- Control characters, the space, capitals, and the characters that mean something in a
URL: none of them is part of a mapped host name. -/
def isForbidden (c : Char) : Bool :=
  c.toNat ≤ 0x20 || c.toNat == 0x7F || c.isUpper ||
  ['%', '#', '/', ':', '<', '>', '?', '@', '[', '\\', ']', '^', '|'].contains c

end Failover.Domain
