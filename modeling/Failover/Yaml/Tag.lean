import Failover.Text.Utf8
import Failover.Yaml.Scalar

/-!
# Tags

A tag says what kind of thing a node is. It is written in full, or as a handle and
the end of it; a document says what its handles stand for. Tags are bytes, since
their escapes need not spell any text.
-/

namespace Failover.Yaml

/-- A tag in full. -/
abbrev Tag := List UInt8

def Tag.ofString (s : String) : Tag := Text.Utf8.encode s.toList

/-- What a document lets handles stand for, the latest first. -/
abbrev Handles := List (String × Tag)

namespace Handles

/-- What handles stand for when a document does not say so. -/
def standard : Handles := [("!", .ofString "!"), ("!!", .ofString "tag:yaml.org,2002:")]

/-- The tag of a handle and its end; without a handle the end is the whole. -/
def resolve? (h : Handles) (handle : String) (ending : Tag) : Option Tag :=
  if handle.isEmpty then some ending
  else ((h ++ standard).lookup handle).map (· ++ ending)

end Handles

/-! ## Reading -/

/-- The character may stand in a tag as it is. -/
def isTagChar (isFull : Bool) (c : Char) : Bool :=
  isWordChar c || ";/?:@&=+$.!~*'()".toList.contains c || (isFull && [',', '[', ']'].contains c)

/-- How many further bytes an escaped character has, by its first one. -/
def escapedTail? (b : Nat) : Option Nat :=
  if b < 0x80 then some 0
  else if 0xC0 ≤ b ∧ b < 0xE0 then some 1
  else if 0xE0 ≤ b ∧ b < 0xF0 then some 2
  else if 0xF0 ≤ b ∧ b < 0xF8 then some 3
  else none

/-- The bytes of a tag and how many characters they are written with; `due` is how
many bytes of an escaped character are still to come. -/
def readTagBytes (isFull : Bool) : (due : Nat) → List Char → Option (Tag × Nat)
  | due, '%' :: a :: b :: r => do
    let octet := 16 * (← Text.hexValue? a) + (← Text.hexValue? b)
    let due ←
      if due = 0 then escapedTail? octet
      else if 0x80 ≤ octet ∧ octet < 0xC0 then some (due - 1) else none
    let (bytes, count) ← readTagBytes isFull due r
    return (octet.toUInt8 :: bytes, count + 3)
  | due, c :: r => do
    if due ≠ 0 ∨ c = '%' then none
    if isTagChar isFull c then
      let (bytes, count) ← readTagBytes isFull 0 r
      return (c.toNat.toUInt8 :: bytes, count + 1)
    else return ([], 0)
  | due, [] => if due = 0 then some ([], 0) else none

/-- The bytes of a tag, and the place behind them. -/
def readTag? (isFull : Bool) (p : Place) : Option (Tag × Place) :=
  (readTagBytes isFull 0 p.rest).map fun (bytes, count) => (bytes, p.skip count)

/-- What begins with an exclamation mark: word characters, and one more mark if one
follows them. -/
def readHandle (p : Place) : String × Place :=
  let (word, p) := (p.skip 1).span isWordChar
  if p.at_ '!' then (String.ofList ('!' :: word ++ ['!']), p.skip 1)
  else (String.ofList ('!' :: word), p)

/-- A tag as it is written at a node: its handle and its end. A lone mark is a tag of
its own. -/
def readShortTag? (inFlow : Bool) (p : Place) : Option (String × Tag × Place) := do
  let (handle, ending, p) ←
    if (p.skip 1).at_ '<' then do
      let (tag, p) ← readTag? true (p.skip 2)
      if tag.isEmpty ∨ !p.at_ '>' then none
      pure ("", tag, p.skip 1)
    else
      let (handle, next) := readHandle p
      if 2 ≤ handle.length ∧ handle.endsWith "!" then do
        let (ending, p) ← readTag? false next
        if ending.isEmpty then none
        pure (handle, ending, p)
      else do
        let (more, p) ← readTag? false next
        let ending := Tag.ofString (handle.drop 1).toString ++ more
        pure (if ending.isEmpty then ("", .ofString "!", p) else ("!", ending, p))
  if endsWord p.rest ∨ (inFlow && p.at_ ',') then return (handle, ending, p) else none

end Failover.Yaml
