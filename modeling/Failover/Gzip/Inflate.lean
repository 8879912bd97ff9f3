/-!
# Deflated data

Deflated data are a row of bits, the lowest bit of each byte first. They come in blocks. The data
of a block either stand in it as they are, or they are written in symbols: each stands for a
byte, for the end of the block, or for a piece of what was written before.

Symbols have codes of different lengths, none of which begins another one. The lengths alone say
what the codes are: those of one length are numbers in a row, in the order of their symbols. A
number is given with its lowest bit first, but a code with its highest.
-/

namespace Failover.Gzip

/-! ## Bits -/

/-- Bits that are still to be read, the next one first. -/
abbrev Bits := List Bool

/-- What is made of the next bits, if something can be made of them. -/
abbrev Reader (α : Type) := StateT Bits Option α

/-- The bits of a byte. -/
def bitsOfByte (b : UInt8) : Bits := (List.range 8).map b.toNat.testBit

def bitsOf (bytes : List UInt8) : Bits := bytes.flatMap bitsOfByte

def readBit : Bits → Option (Bool × Bits)
  | [] => none
  | b :: bits => some (b, bits)

/-- A number of so many bits. -/
def readNumber : (count : Nat) → Reader Nat
  | 0 => return 0
  | count + 1 => do
    let b ← readBit
    let n ← readNumber count
    return b.toNat + 2 * n

/-- So many items, one after the other. -/
def readMany {α : Type} (read : Reader α) : (count : Nat) → Reader (List α)
  | 0 => return []
  | count + 1 => do
    let a ← read
    let more ← readMany read count
    return a :: more

def readByte : Reader UInt8 := do
  let n ← readNumber 8
  return UInt8.ofNat n

/-- What comes behind the byte whose bits are being read. The bits are the last ones of a row of
bytes. -/
def align (bits : Bits) : Bits := bits.drop (bits.length % 8)

/-- Goes on behind the byte whose bits are being read. -/
def skipToByte : Reader Unit := fun bits => some ((), align bits)

/-- Makes one step after the other, up to the one that says it is the last. A step takes some
bits. -/
def readSteps {α : Type} (step : α → Reader (α × Bool)) (a : α) (bits : Bits) :
    Option (α × Bits) :=
  match step a bits with
  | none => none
  | some ((a, true), rest) => some (a, rest)
  | some ((a, false), rest) =>
    if rest.length < bits.length then readSteps step a rest else none
termination_by bits.length

/-! ## Codes -/

/-- The symbols whose codes have this length. A symbol without a code has the length zero. -/
def symbolsOf (lengths : List Nat) (length : Nat) : List Nat :=
  lengths.zipIdx.filterMap fun (l, symbol) => if l = length then some symbol else none

/-- The symbol whose code begins with the bits of `code` and is at least this long. The codes of
this length begin with `first`, which comes behind the last one of a bit less. -/
def readSymbolFrom (lengths : List Nat) : (length first code : Nat) → Bits → Option (Nat × Bits)
  | _, _, _, [] => none
  | length, first, code, b :: bits =>
    let code := 2 * code + b.toNat
    let symbols := symbolsOf lengths length
    match symbols[code - first]? with
    | some symbol => some (symbol, bits)
    | none => readSymbolFrom lengths (length + 1) (2 * (first + symbols.length)) code bits

/-- The next symbol, where codes have these lengths. -/
def readSymbol (lengths : List Nat) : Reader Nat := readSymbolFrom lengths 1 0 0

/-- There are codes of these lengths, none of which begins another one: each of them takes a share
of the texts of 15 bits, the most that a code has. -/
def isCode (lengths : List Nat) : Bool :=
  lengths.foldl (fun taken length => taken + if length = 0 then 0 else 0x8000 >>> length) 0 ≤
    0x8000

/-- The lengths of the codes in a block: for bytes, the end and lengths of pieces, and for the
distances of pieces. -/
structure Codes where
  main : List Nat
  distances : List Nat

/-- The codes that a block need not give. -/
def Codes.fixed : Codes where
  main := .replicate 144 8 ++ .replicate 112 9 ++ .replicate 24 7 ++ .replicate 8 8
  distances := .replicate 32 5

/-! ## Codes that a block gives -/

/-- The lengths in a block are given in a code as well, and the lengths of that in this order. -/
def lengthOrder : List Nat := [16, 17, 18, 0, 8, 7, 9, 6, 10, 5, 11, 4, 12, 3, 13, 2, 14, 1, 15]

/-- Lengths in their order, where these were given in the other one. -/
def reorder (given : List Nat) : List Nat :=
  (List.range lengthOrder.length).map fun symbol => given.getD (lengthOrder.idxOf symbol) 0

/-- The lengths that a symbol stands for, behind these, last first: a length, or one that was
given before or no code, some times. -/
def readLength (symbol : Nat) (before : List Nat) : Reader (List Nat) := do
  if symbol = 16 then
    let last ← before.head?
    let n ← readNumber 2
    return .replicate (3 + n) last
  else if symbol = 17 then
    let n ← readNumber 3
    return .replicate (3 + n) 0
  else if symbol = 18 then
    let n ← readNumber 7
    return .replicate (11 + n) 0
  else return [symbol]

/-- At least so many lengths, last first. -/
def readLengths (code : List Nat) (count : Nat) : Reader (List Nat) :=
  readSteps (fun (before : List Nat) => do
    let symbol ← readSymbol code
    let more ← readLength symbol before
    let lengths := more ++ before
    return (lengths, count ≤ lengths.length)) []

/-- The codes that stand in front of the symbols of a block. -/
def readCodes : Reader Codes := do
  let main ← readNumber 5
  let distances ← readNumber 5
  let count ← readNumber 4
  let given ← readMany (readNumber 3) (count + 4)
  let code := reorder given
  guard (isCode code)
  let lengths ← readLengths code (main + 257 + (distances + 1))
  guard (lengths.length = main + 257 + (distances + 1))
  let (main, distances) := lengths.reverse.splitAt (main + 257)
  guard (isCode main && isCode distances)
  return { main, distances }

/-! ## Symbols -/

/-- A number out of a range. Of each range the table has the number of bits that tell where in it
the number is, and its least number. -/
def readRange (ranges : List (Nat × Nat)) (symbol : Nat) : Reader Nat := do
  let (count, least) ← ranges[symbol]?
  let n ← readNumber count
  return least + n

/-- How long a piece is. -/
def lengthRanges : List (Nat × Nat) :=
  [(0, 3), (0, 4), (0, 5), (0, 6), (0, 7), (0, 8), (0, 9), (0, 10), (1, 11), (1, 13), (1, 15),
    (1, 17), (2, 19), (2, 23), (2, 27), (2, 31), (3, 35), (3, 43), (3, 51), (3, 59), (4, 67),
    (4, 83), (4, 99), (4, 115), (5, 131), (5, 163), (5, 195), (5, 227), (0, 258)]

/-- How far back it begins. -/
def distanceRanges : List (Nat × Nat) :=
  [(0, 1), (0, 2), (0, 3), (0, 4), (1, 5), (1, 7), (2, 9), (2, 13), (3, 17), (3, 25), (4, 33),
    (4, 49), (5, 65), (5, 97), (6, 129), (6, 193), (7, 257), (7, 385), (8, 513), (8, 769),
    (9, 1025), (9, 1537), (10, 2049), (10, 3073), (11, 4097), (11, 6145), (12, 8193),
    (12, 12289), (13, 16385), (13, 24577)]

/-- Writes a piece once more that begins so far back. What was written stands last first, and a
piece may reach into itself. -/
def copyBack (distance : Nat) : (length : Nat) → List UInt8 → Option (List UInt8)
  | 0, out => some out
  | length + 1, out => do
    let b ← out[distance - 1]?
    copyBack distance length (b :: out)

/-- The symbol for the end of a block. It stands between those for bytes and those for pieces. -/
def endOfBlock : Nat := 256

/-- The data of a block in symbols, behind those that were written before. -/
def readSymbols (codes : Codes) : List UInt8 → Reader (List UInt8) :=
  readSteps fun out => do
    let symbol ← readSymbol codes.main
    if symbol < endOfBlock then return (UInt8.ofNat symbol :: out, false)
    else if symbol = endOfBlock then return (out, true)
    else
      let length ← readRange lengthRanges (symbol - (endOfBlock + 1))
      let place ← readSymbol codes.distances
      let distance ← readRange distanceRanges place
      let out ← copyBack distance length out
      return (out, false)

/-! ## Blocks -/

/-- Data that stand in a block as they are. Their length is told twice. -/
def readStored (out : List UInt8) : Reader (List UInt8) := do
  skipToByte
  let size ← readNumber 16
  let check ← readNumber 16
  guard (size + check = 0xFFFF)
  let data ← readMany readByte size
  return data.reverse ++ out

/-- A block, from its kind on. -/
def readBlock (out : List UInt8) : Reader (List UInt8) := do
  let kind ← readNumber 2
  if kind = 0 then readStored out
  else if kind = 1 then readSymbols .fixed out
  else if kind = 2 then
    let codes ← readCodes
    readSymbols codes out
  else failure

/-- A block with its first bit, which says whether it is the last. -/
def readMarked (out : List UInt8) : Reader (List UInt8 × Bool) := do
  let last ← readBit
  let out ← readBlock out
  return (out, last)

/-- The data of all blocks, last first. -/
def readBlocks : Reader (List UInt8) := readSteps readMarked []

end Failover.Gzip
