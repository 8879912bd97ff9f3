import Failover.Text.Numeral
import Failover.Text.Split

/-!
# IPv4 addresses in URLs

A host whose last part is a number is an IPv4 address or nothing. URLs are
generous about its spelling: fewer than four parts, the last one filling the
rest, and each part in decimal, octal (`0…`) or hexadecimal (`0x…`). An address
is written back as four decimal parts.
-/

namespace Failover.Url

open Failover.Text

/-- An IPv4 address as one 32-bit number. -/
structure Ipv4 where
  value : Nat
  deriving DecidableEq

namespace Ipv4

/-- A part of an address: decimal, octal after `0`, hexadecimal after `0x`. A
base without digits is zero; no characters at all are no part. -/
def readPart? : List Char → Option Nat
  | [] => none
  | '0' :: 'x' :: ds => digitsNumber? 16 ds
  | '0' :: 'X' :: ds => digitsNumber? 16 ds
  | ['0'] => some 0
  | '0' :: ds => digitsNumber? 8 ds
  | ds => digitsNumber? 10 ds

/-- The parts of a host, without the empty one after a final dot. -/
def parts (host : List Char) : List (List Char) :=
  let ps := splitOn (· == '.') host
  if 1 < ps.length && ps.getLast? == some [] then ps.dropLast else ps

/-- The host can only be an address: its last part is a number, or at least digits. -/
def endsInNumber (host : List Char) : Bool :=
  match (parts host).getLast? with
  | none => false
  | some last => (!last.isEmpty && last.all Char.isDigit) || (readPart? last).isSome

/-- Puts numbers together: all but the last fill a byte each, the last one the
bytes that remain. -/
def ofParts? (ns : List Nat) : Option Ipv4 :=
  match ns.getLast? with
  | none => none
  | some last =>
    let front := ns.dropLast
    if 4 < ns.length || front.any (255 < ·) || Nat.pow 256 (4 - front.length) ≤ last then none
    else
      let high := front.foldl (fun n b => 256 * n + b) 0
      some ⟨high * Nat.pow 256 (4 - front.length) + last⟩

/-- Reads an address. -/
def parse? (host : List Char) : Option Ipv4 :=
  (parts host).mapM readPart? >>= ofParts?

/-- The four bytes, highest first. -/
def bytes (a : Ipv4) : List Nat :=
  [a.value / 16777216 % 256, a.value / 65536 % 256, a.value / 256 % 256, a.value % 256]

/-- Four decimal parts. -/
def write (a : Ipv4) : List Char :=
  ['.'].intercalate (a.bytes.map (Nat.toDigits 10))

end Ipv4

end Failover.Url
