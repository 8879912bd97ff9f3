import Failover.Gzip.Stream

/-!
# Compressing bodies

What compresses a body is not a matter of the client, which relies on nothing but that the data
can be read from the stream again (`IsCompressor`). `compress` serves where nothing else is
given. Its blocks hold the data as they are, with their length before them.
-/

namespace Failover.Gzip

/-- The function makes streams, and they hold the data that it was given. -/
def IsCompressor (gzip : List UInt8 → List UInt8) : Prop :=
  ∀ data, decompress? (gzip data) = some data

/-- A number in `count` bytes, the lowest first. -/
def littleEndian : (count : Nat) → Nat → List UInt8
  | 0, _ => []
  | count + 1, n => UInt8.ofNat n :: littleEndian count (n / 256)

/-- The beginning of a stream: no name, no time, no known system. -/
def header : List UInt8 := [0x1F, 0x8B, 8, 0, 0, 0, 0, 0, 0, 0xFF]

/-- The most bytes that a block holds. -/
def blockSize : Nat := 65535

/-- A block with the data as they are; `last` says that no other follows. -/
def block (last : Bool) (data : List UInt8) : List UInt8 :=
  (if last then 1 else 0) :: littleEndian 2 data.length ++
    littleEndian 2 (blockSize - data.length) ++ data

/-- Data in blocks. -/
def blocks (data : List UInt8) : List UInt8 :=
  if data.length ≤ blockSize then block true data
  else block false (data.take blockSize) ++ blocks (data.drop blockSize)
termination_by data.length
decreasing_by simp only [List.length_drop, blockSize] at *; omega

/-- The checksum and the length of the data. -/
def trailer (data : List UInt8) : List UInt8 :=
  littleEndian 4 (checksum data).toNat ++ littleEndian 4 data.length

/-- The data as a stream. -/
def compress (data : List UInt8) : List UInt8 :=
  header ++ blocks data ++ trailer data

end Failover.Gzip
