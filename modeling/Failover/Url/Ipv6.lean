import Failover.Url.Ipv4

/-!
# IPv6 addresses in URLs

Eight pieces of 16 bits in hexadecimal, joined by colons. One `::` stands for a
run of zero pieces, and the last two pieces may be given as an IPv4 address with
decimal parts. Written back, the first longest run of two or more zero pieces
becomes `::` and no piece has leading zeros.
-/

namespace Failover.Url

open Failover.Text

/-- The eight pieces of an IPv6 address. -/
structure Ipv6 where
  pieces : List Nat
  deriving DecidableEq

namespace Ipv6

/-- A piece: one to four hexadecimal digits. -/
def readPiece? (cs : List Char) : Option Nat :=
  if cs.isEmpty || 4 < cs.length then none else digitsNumber? 16 cs

/-- A decimal part of an embedded IPv4 address: no leading zero, below 256. -/
def readByte? (cs : List Char) : Option Nat :=
  match cs with
  | [] => none
  | '0' :: _ :: _ => none
  | _ => (digitsNumber? 10 cs).filter (· < 256)

/-- An embedded IPv4 address as two pieces. -/
def readDotted? (cs : List Char) : Option (List Nat) :=
  match (splitOn (· == '.') cs).mapM readByte? with
  | some [a, b, c, d] => some [256 * a + b, 256 * c + d]
  | _ => none

/-- The pieces between colons; only the last may be dotted, and only where
`dotted` allows it. -/
def readGroups? (dotted : Bool) (cs : List Char) : Option (List Nat) :=
  if cs.isEmpty then some []
  else
    let gs := splitOn (· == ':') cs
    match gs.getLast? with
    | none => none
    | some last => do
      let front ← gs.dropLast.mapM readPiece?
      let back ← if dotted && last.contains '.' then readDotted? last
        else (readPiece? last).map fun n => [n]
      some (front ++ back)

/-- Cuts at the first `::`. -/
def cutDouble : List Char → List Char × Option (List Char)
  | [] => ([], none)
  | ':' :: ':' :: r => ([], some r)
  | c :: r =>
    let (a, b) := cutDouble r
    (c :: a, b)

/-- Reads an address, without its brackets. -/
def parse? (cs : List Char) : Option Ipv6 :=
  match cutDouble cs with
  | (all, none) => do
    let ns ← readGroups? true all
    if ns.length = 8 then some ⟨ns⟩ else none
  | (left, some right) => do
    let ls ← readGroups? false left
    let rs ← readGroups? true right
    if ls.length + rs.length ≤ 7 then
      some ⟨ls ++ List.replicate (8 - (ls.length + rs.length)) 0 ++ rs⟩
    else none

/-- The first longest run of zeros: where it starts and how long it is. -/
def longestRun : List Nat → Nat × Nat
  | [] => (0, 0)
  | n :: r =>
    let here := ((n :: r).takeWhile (· == 0)).length
    let (start, size) := longestRun r
    if here != 0 && size ≤ here then (0, here) else (start + 1, size)

def writePieces (ns : List Nat) : List Char :=
  [':'].intercalate (ns.map (Nat.toDigits 16))

/-- The address without brackets. -/
def write (a : Ipv6) : List Char :=
  let (start, size) := longestRun a.pieces
  if size < 2 then writePieces a.pieces
  else writePieces (a.pieces.take start) ++ [':', ':'] ++ writePieces (a.pieces.drop (start + size))

end Ipv6

end Failover.Url
