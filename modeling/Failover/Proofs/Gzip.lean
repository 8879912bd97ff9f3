import Mathlib.Data.Nat.Bitwise
import Failover.Gzip

/-!
# What was compressed comes back

A stream of `compress` holds the data that it was made of (`isCompressor_compress`). The reader
knows nothing of who has written the stream, so each part of it is followed from the bytes that
were written to the bits that are read. Bytes become bits by their numbers (`bitsOf_littleEndian`),
and a number is read from its bits wherever these stand (`readNumber_testBit`). A block begins
with three bits of a byte, behind which the reader goes on with the next byte. Behind that its
length says how much to read.
-/

namespace Failover.Gzip

variable {α β : Type} {bits rest : Bits}

/-- Where the first reader has found something, the next one goes on. -/
theorem bind_eq {read : Reader α} {a : α} (h : read bits = some (a, rest)) (next : α → Reader β) :
    (read >>= next) bits = next a rest := by
  show (read bits).bind _ = _
  rw [h]
  rfl

theorem guard_eq {p : Prop} [Decidable p] (h : p) (bits : Bits) :
    (guard p : Reader Unit) bits = some ((), bits) := by
  rw [guard, if_pos h]
  rfl

/-! ## Bits of numbers -/

/-- A number is read from its bits, as far as there are any. -/
theorem readNumber_testBit (count n : Nat) (bits : Bits) :
    readNumber count ((List.range count).map n.testBit ++ bits) = some (n % 2 ^ count, bits) := by
  induction count generalizing n with
  | zero =>
    rw [Nat.pow_zero, Nat.mod_one]
    rfl
  | succ count ih =>
    have hbits : (List.range (count + 1)).map n.testBit ++ bits =
        n.testBit 0 :: ((List.range count).map (n / 2).testBit ++ bits) := by
      simp [List.range_succ_eq_map, Function.comp_def, Nat.testBit_succ]
    have hfirst : readBit (n.testBit 0 :: ((List.range count).map (n / 2).testBit ++ bits)) =
        some (n.testBit 0, (List.range count).map (n / 2).testBit ++ bits) := rfl
    have hvalue : (n.testBit 0).toNat + 2 * (n / 2 % 2 ^ count) = n % 2 ^ (count + 1) := by
      rw [Nat.testBit_zero, Nat.pow_succ', Nat.mod_mul]
      rcases Nat.mod_two_eq_zero_or_one n with h | h <;> simp [h]
    rw [hbits, readNumber, bind_eq hfirst, bind_eq (ih (n / 2)), hvalue]
    rfl

@[simp] theorem bitsOf_cons (b : UInt8) (bytes : List UInt8) :
    bitsOf (b :: bytes) = bitsOfByte b ++ bitsOf bytes := rfl

@[simp] theorem bitsOf_append (bytes more : List UInt8) :
    bitsOf (bytes ++ more) = bitsOf bytes ++ bitsOf more :=
  List.flatMap_append

@[simp] theorem length_bitsOf (bytes : List UInt8) : (bitsOf bytes).length = 8 * bytes.length := by
  induction bytes with
  | nil => rfl
  | cons b bytes ih =>
    rw [bitsOf_cons, List.length_append, ih, List.length_cons, bitsOfByte, List.length_map,
      List.length_range]
    omega

/-- Written to bytes, a number has the same bits. -/
theorem bitsOf_littleEndian (count n : Nat) :
    bitsOf (littleEndian count n) = (List.range (8 * count)).map n.testBit := by
  induction count generalizing n with
  | zero => rfl
  | succ count ih =>
    have hbyte : bitsOfByte (UInt8.ofNat n) = (List.range 8).map n.testBit := by
      refine List.map_congr_left fun i hi => ?_
      rw [UInt8.toNat_ofNat', Nat.testBit_mod_two_pow, decide_eq_true (List.mem_range.1 hi),
        Bool.true_and]
    have hmore : (List.range (8 * count)).map (n / 256).testBit =
        ((List.range (8 * count)).map (8 + ·)).map n.testBit := by
      rw [List.map_map]
      refine List.map_congr_left fun i _ => ?_
      have hshift : (n / 2 ^ 8).testBit i = n.testBit (i + 8) := Nat.testBit_div_two_pow n i
      rw [Function.comp_apply, Nat.add_comm]
      exact hshift
    rw [littleEndian, bitsOf_cons, ih, hbyte, hmore, ← List.map_append, ← List.range_add]
    congr 2
    omega

theorem readNumber_littleEndian (count n : Nat) (bits : Bits) :
    readNumber (8 * count) (bitsOf (littleEndian count n) ++ bits) =
      some (n % 2 ^ (8 * count), bits) := by
  rw [bitsOf_littleEndian, readNumber_testBit]

theorem readByte_bitsOfByte (b : UInt8) (bits : Bits) :
    readByte (bitsOfByte b ++ bits) = some (b, bits) := by
  have hnumber : readNumber 8 (bitsOfByte b ++ bits) = some (b.toNat % 2 ^ 8, bits) :=
    readNumber_testBit 8 b.toNat bits
  rw [readByte, bind_eq hnumber, Nat.mod_eq_of_lt b.toNat_lt, UInt8.ofNat_toNat]
  rfl

theorem readMany_bitsOf (bytes : List UInt8) (bits : Bits) :
    readMany readByte bytes.length (bitsOf bytes ++ bits) = some (bytes, bits) := by
  induction bytes with
  | nil => rfl
  | cons b bytes ih =>
    rw [List.length_cons, readMany, bitsOf_cons, List.append_assoc,
      bind_eq (readByte_bitsOfByte b _), bind_eq ih]
    rfl

/-! ## Blocks -/

/-- Whatever is left of a byte, the next one is found. -/
theorem align_append (left : Bits) (bytes : List UInt8) (h : left.length < 8) :
    align (left ++ bitsOf bytes) = bitsOf bytes := by
  rw [align, List.length_append, length_bitsOf, Nat.add_mul_mod_self_left, Nat.mod_eq_of_lt h,
    List.drop_left]

/-- Data that stand in a block are read behind what is left of its first byte. -/
theorem readStored_eq {data : List UInt8} (h : data.length ≤ blockSize) (left : Bits)
    (hleft : left.length < 8) (out after : List UInt8) :
    readStored out (left ++ bitsOf (littleEndian 2 data.length ++
        littleEndian 2 (blockSize - data.length) ++ data ++ after)) =
      some (data.reverse ++ out, bitsOf after) := by
  have hskip : skipToByte (left ++ bitsOf (littleEndian 2 data.length ++
      littleEndian 2 (blockSize - data.length) ++ data ++ after)) = some ((), _) :=
    congrArg (fun bits => some ((), bits)) (align_append left _ hleft)
  have hsize := readNumber_littleEndian 2 data.length
  have hcheck := readNumber_littleEndian 2 (blockSize - data.length)
  rw [Nat.mod_eq_of_lt (by rw [blockSize] at h; omega)] at hsize
  rw [Nat.mod_eq_of_lt (by rw [blockSize]; omega)] at hcheck
  have hsum : data.length + (blockSize - data.length) = 0xFFFF := Nat.add_sub_cancel' h
  rw [readStored, bind_eq hskip]
  simp only [bitsOf_append, List.append_assoc]
  rw [bind_eq (hsize _), bind_eq (hcheck _), bind_eq (guard_eq hsum _),
    bind_eq (readMany_bitsOf data _)]
  rfl

/-- A block is read as its data. -/
theorem readMarked_block (last : Bool) {data : List UInt8} (h : data.length ≤ blockSize)
    (out after : List UInt8) :
    readMarked out (bitsOf (block last data ++ after)) =
      some ((data.reverse ++ out, last), bitsOf after) := by
  -- The first bit says whether the block is the last, and two more say of which kind it is.
  have hfirst : bitsOfByte (if last then 1 else 0) = last :: List.replicate 7 false := by
    cases last <;> decide
  have hbits : bitsOf (block last data ++ after) = last :: (List.replicate 7 false ++
      bitsOf (littleEndian 2 data.length ++ littleEndian 2 (blockSize - data.length) ++ data ++
        after)) := by
    rw [block, List.cons_append, List.cons_append, List.cons_append, bitsOf_cons, hfirst]
    rfl
  have hkind (bits : Bits) :
      readNumber 2 (List.replicate 7 false ++ bits) = some (0, List.replicate 5 false ++ bits) :=
    rfl
  have hlast (bits : Bits) : readBit (last :: bits) = some (last, bits) := rfl
  have hblock : readBlock out (List.replicate 7 false ++ bitsOf (littleEndian 2 data.length ++
      littleEndian 2 (blockSize - data.length) ++ data ++ after)) =
        some (data.reverse ++ out, bitsOf after) := by
    rw [readBlock, bind_eq (hkind _), if_pos rfl]
    exact readStored_eq h _ (by decide) out after
  rw [hbits, readMarked, bind_eq (hlast _), bind_eq hblock]
  rfl

/-- Blocks are read as the data in them, whatever stands behind the last one. -/
theorem readSteps_blocks (data out after : List UInt8) :
    readSteps readMarked out (bitsOf (blocks data ++ after)) =
      some (data.reverse ++ out, bitsOf after) := by
  fun_induction blocks data generalizing out with
  | case1 data hfits =>
    rw [readSteps, readMarked_block true hfits]
  | case2 data hlong ih =>
    have hfull : (data.take blockSize).length ≤ blockSize := List.length_take_le ..
    have hshorter : (bitsOf (blocks (data.drop blockSize) ++ after)).length <
        (bitsOf (block false (data.take blockSize) ++
          (blocks (data.drop blockSize) ++ after))).length := by
      simp only [length_bitsOf, List.length_append, block, List.length_cons]
      omega
    rw [List.append_assoc, readSteps, readMarked_block false hfull]
    dsimp only
    rw [if_pos hshorter, ih, ← List.append_assoc, ← List.reverse_append, List.take_append_drop]

/-- Behind the blocks stand the checksum of the data and their length. -/
theorem readBody_compress (data : List UInt8) :
    readBody (bitsOf (blocks data ++ trailer data)) = some (data, []) := by
  have hblocks : readBlocks (bitsOf (blocks data ++ trailer data)) =
      some (data.reverse, bitsOf (trailer data)) := by
    rw [readBlocks, readSteps_blocks, List.append_nil]
  have hskip : skipToByte (bitsOf (trailer data)) = some ((), bitsOf (trailer data)) :=
    congrArg (fun bits => some ((), bits)) (align_append [] (trailer data) (by decide))
  have hcheck := readNumber_littleEndian 4 (checksum data).toNat
    (bitsOf (littleEndian 4 data.length))
  have hsize := readNumber_littleEndian 4 data.length []
  rw [Nat.mod_eq_of_lt (checksum data).toNat_lt, ← bitsOf_append, ← trailer] at hcheck
  rw [List.append_nil] at hsize
  rw [readBody, bind_eq hblocks, bind_eq hskip, bind_eq hcheck, bind_eq hsize,
    List.reverse_reverse]
  exact bind_eq (guard_eq ⟨rfl, rfl⟩ _) _

/-- **What was compressed comes back.** -/
theorem isCompressor_compress : IsCompressor compress := by
  intro data
  have hheader : skipHeader? (compress data) = some (blocks data ++ trailer data) := by
    rw [compress, header, List.append_assoc]
    rfl
  rw [decompress?, hheader]
  show (readBody (bitsOf (blocks data ++ trailer data))).bind _ = _
  rw [readBody_compress]
  rfl

end Failover.Gzip
