import Failover.Text.Utf8
import Failover.Url.Ipv4

/-!
# Percent-encoding

A character that cannot stand where it is goes into a URL as the bytes of its
UTF-8, each written `%` and two hexadecimal capitals. Which characters those are
depends on the place; the sets grow from the control characters to the user
information.
-/

namespace Failover.Url

open Failover.Text

/-- A set of characters to be encoded. -/
abbrev EncodeSet := Char → Bool

/-- Controls, and everything outside ASCII. -/
def controlSet : EncodeSet := fun c => c.toNat < 0x20 || 0x7E < c.toNat

def fragmentSet : EncodeSet := fun c => controlSet c || [' ', '"', '<', '>', '`'].contains c

def querySet : EncodeSet := fun c => controlSet c || [' ', '"', '#', '<', '>'].contains c

/-- The query of an `http` URL, and of the other special schemes. -/
def specialQuerySet : EncodeSet := fun c => querySet c || c == '\''

def pathSet : EncodeSet := fun c => querySet c || ['?', '`', '\x7b', '\x7d'].contains c

def userinfoSet : EncodeSet := fun c =>
  pathSet c || ['/', ':', ';', '=', '@', '[', '\\', ']', '^', '|'].contains c

/-- A hexadecimal capital. -/
def hexCapital (n : Nat) : Char := (Text.hexDigit n).toUpper

/-- A byte as `%` and two digits. -/
def encodeByte (b : UInt8) : List Char :=
  ['%', hexCapital (b.toNat / 16), hexCapital (b.toNat % 16)]

/-- A character as it stands in a place with this set. -/
def encodeChar (set : EncodeSet) (c : Char) : List Char :=
  if set c then (String.utf8EncodeChar c).flatMap encodeByte else [c]

def percentEncode (set : EncodeSet) (cs : List Char) : List Char :=
  cs.flatMap (encodeChar set)

/-- The bytes that a text stands for: `%` and two digits for one byte, any other
character for its UTF-8. -/
def percentDecode : List Char → List UInt8
  | [] => []
  | '%' :: a :: b :: r =>
    match Text.hexValue? a, Text.hexValue? b with
    | some x, some y => UInt8.ofNat (16 * x + y) :: percentDecode r
    | _, _ => String.utf8EncodeChar '%' ++ percentDecode (a :: b :: r)
  | c :: r => String.utf8EncodeChar c ++ percentDecode r

/-- What no set holds passes unchanged. -/
theorem percentEncode_eq_self {set : EncodeSet} {cs : List Char} (h : ∀ c ∈ cs, set c = false) :
    percentEncode set cs = cs := by
  induction cs with
  | nil => rfl
  | cons c r ih =>
    have hc := h c (by simp)
    have hr := ih fun d hd => h d (by simp [hd])
    simp only [percentEncode, List.flatMap_cons, encodeChar, hc] at hr ⊢
    simpa using hr

end Failover.Url
