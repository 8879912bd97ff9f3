import Failover.Gzip.Inflate

/-!
# Compressed streams

A stream in the format of gzip is a header, deflated data, and a trailer that holds a checksum and
the length of what was deflated. `decompress?` reads such a stream, of one member, whoever has
written it. It checks all that the format lets it check.
-/

namespace Failover.Gzip

/-! ## The checksum -/

/-- One bit of the division that the checksum is the remainder of. -/
def checksumBit (c : UInt32) : UInt32 :=
  if c &&& 1 = 1 then (c >>> 1) ^^^ 0xEDB88320 else c >>> 1

/-- Takes a byte into the remainder. -/
def checksumByte (c : UInt32) (b : UInt8) : UInt32 :=
  (List.range 8).foldl (fun c _ => checksumBit c) (c ^^^ b.toUInt32)

/-- The checksum of data: the cyclic redundancy check of 32 bits. -/
def checksum (data : List UInt8) : UInt32 :=
  data.foldl checksumByte 0xFFFFFFFF ^^^ 0xFFFFFFFF

/-- The value by which implementations of this checksum are told. -/
example : checksum ("123456789".toList.map fun c => UInt8.ofNat c.toNat) = 0xCBF43926 := by
  decide +kernel

/-! ## The header -/

/-- What comes behind a text that ends with a zero byte. -/
def skipText? : List UInt8 → Option (List UInt8)
  | [] => none
  | b :: rest => if b = 0 then some rest else skipText? rest

/-- What comes behind a field that has its length, in two bytes, in front. -/
def skipField? : List UInt8 → Option (List UInt8)
  | low :: high :: rest =>
    let size := low.toNat + 256 * high.toNat
    if size ≤ rest.length then some (rest.drop size) else none
  | _ => none

/-- What comes behind two bytes of the checksum of a header. -/
def skipCheck? (header : List UInt8) : List UInt8 → Option (List UInt8)
  | low :: high :: rest =>
    if low.toNat + 256 * high.toNat = (checksum header).toNat % 65536 then some rest else none
  | _ => none

/-- What comes behind the header of a stream. There stand the two bytes by which the format is
known and the method, which is deflation, then what is told of the data, of which one byte says
what else there is: a check of the header, a field for extensions, a name and a comment. -/
def skipHeader? (stream : List UInt8) : Option (List UInt8) :=
  match stream with
  | 0x1F :: 0x8B :: 8 :: flags :: _ :: _ :: _ :: _ :: _ :: _ :: rest => do
    guard (flags < 32)
    let has (flag : UInt8) : Bool := flags &&& flag ≠ 0
    let rest ← if has 4 then skipField? rest else some rest
    let rest ← if has 8 then skipText? rest else some rest
    let rest ← if has 16 then skipText? rest else some rest
    if has 2 then skipCheck? (stream.take (stream.length - rest.length)) rest else some rest
  | _ => none

/-! ## The whole stream -/

/-- Data with the trailer behind them, which holds their checksum and their length. -/
def readBody : Reader (List UInt8) := do
  let out ← readBlocks
  skipToByte
  let check ← readNumber 32
  let size ← readNumber 32
  let data := out.reverse
  guard (check = (checksum data).toNat ∧ size = data.length % 0x100000000)
  return data

/-- The data of a stream. -/
def decompress? (stream : List UInt8) : Option (List UInt8) := do
  let rest ← skipHeader? stream
  let (data, bits) ← readBody (bitsOf rest)
  if bits.isEmpty then some data else none

end Failover.Gzip
