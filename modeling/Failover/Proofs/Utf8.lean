import Failover.Text.Utf8

/-!
# Reading text back from its bytes

The bytes of a character are read as that character, whatever stands behind them, and so a
text comes back from its bytes (`decode?_encode`). The cases are those of the number of
bytes. In each of them the first byte tells how many follow and between which bounds the next
one lies (`tail?`), and the bounds leave out nothing but code points that a shorter form
would do for, surrogates, and what lies beyond the last character.
-/

namespace Failover.Text.Utf8

/-- One byte is read that carries six bits. -/
theorem continuation_cons {n code m : Nat} {lo hi : UInt8} (hm : m < 64)
    (hlo : lo.toNat ≤ m + 0x80) (hhi : m + 0x80 ≤ hi.toNat) (rest : List UInt8) :
    continuation (n + 1) lo hi code (UInt8.ofNat (m + 0x80) :: rest) =
      continuation n 0x80 0xBF (code * 64 + m) rest := by
  have hb : (UInt8.ofNat (m + 0x80)).toNat = m + 0x80 := by
    rw [UInt8.toNat_ofNat']
    omega
  rw [continuation, if_pos (by rw [UInt8.le_iff_toNat_le, UInt8.le_iff_toNat_le, hb]; omega), hb,
    Nat.add_sub_cancel]

/-- Behind the first of several bytes there are only six bits in each. -/
theorem continuation_cons_plain {n code m : Nat} (hm : m < 64) (rest : List UInt8) :
    continuation (n + 1) 0x80 0xBF code (UInt8.ofNat (m + 0x80) :: rest) =
      continuation n 0x80 0xBF (code * 64 + m) rest := by
  refine continuation_cons hm ?_ ?_ rest
  · show 128 ≤ m + 128
    omega
  · show m + 128 ≤ 191
    omega

theorem tail?_two : ∀ k < 32, 2 ≤ k → tail? (UInt8.ofNat (k + 0xC0)) = some (1, 0x80, 0xBF) := by
  decide

theorem tail?_three : ∀ k < 16, tail? (UInt8.ofNat (k + 0xE0)) =
    some (2, if k = 0 then 0xA0 else 0x80, if k = 13 then 0x9F else 0xBF) := by
  decide

theorem tail?_four : ∀ k < 5, tail? (UInt8.ofNat (k + 0xF0)) =
    some (3, if k = 0 then 0x90 else 0x80, if k = 4 then 0x8F else 0xBF) := by
  decide

theorem head_of_tail? {v n code : Nat} {lo hi : UInt8} (hv : 0x80 ≤ v) (hlt : v < 0x100)
    (h : tail? (UInt8.ofNat v) = some (n, lo, hi)) (hcode : leadBits n (UInt8.ofNat v) = code)
    (rest : List UInt8) :
    head (UInt8.ofNat v) rest = continuation n lo hi code rest := by
  have hge : ¬ UInt8.ofNat v < 0x80 := by
    rw [UInt8.lt_iff_toNat_lt, UInt8.toNat_ofNat']
    show ¬ v % 256 < 128
    omega
  rw [head, if_neg hge, h, ← hcode]

variable {v : Nat} (rest : List UInt8)

theorem head_one (h : v ≤ 0x7F) : head (UInt8.ofNat v) rest = .char (Char.ofNat v) rest := by
  have hb : (UInt8.ofNat v).toNat = v := by
    rw [UInt8.toNat_ofNat']
    omega
  have hlt : UInt8.ofNat v < 0x80 := by
    rw [UInt8.lt_iff_toNat_lt, hb]
    show v < 128
    omega
  rw [head, if_pos hlt, hb]

theorem head_two (hlo : 0x7F < v) (hhi : v ≤ 0x7FF) :
    head (UInt8.ofNat (v / 64 % 0x20 + 0xC0)) (UInt8.ofNat (v % 0x40 + 0x80) :: rest) =
      .char (Char.ofNat v) rest := by
  have hlead : leadBits 1 (UInt8.ofNat (v / 64 % 0x20 + 0xC0)) = v / 64 % 0x20 := by
    unfold leadBits
    rw [UInt8.toNat_ofNat']
    show (v / 64 % 32 + 192) % 256 - 192 = v / 64 % 32
    omega
  have hcode : v / 64 % 0x20 * 64 + v % 0x40 = v := by omega
  rw [head_of_tail? (by omega) (by omega) (tail?_two _ (by omega) (by omega)) hlead,
    continuation_cons_plain (by omega), hcode]
  rfl

theorem head_three (hlo : 0x7FF < v) (hhi : v ≤ 0xFFFF) (hvalid : v < 0xD800 ∨ 0xDFFF < v) :
    head (UInt8.ofNat (v / 4096 % 0x10 + 0xE0))
        (UInt8.ofNat (v / 64 % 0x40 + 0x80) :: UInt8.ofNat (v % 0x40 + 0x80) :: rest) =
      .char (Char.ofNat v) rest := by
  have hlead : leadBits 2 (UInt8.ofNat (v / 4096 % 0x10 + 0xE0)) = v / 4096 % 0x10 := by
    unfold leadBits
    rw [UInt8.toNat_ofNat']
    show (v / 4096 % 16 + 224) % 256 - 224 = v / 4096 % 16
    omega
  have hcode : (v / 4096 % 0x10 * 64 + v / 64 % 0x40) * 64 + v % 0x40 = v := by omega
  rw [head_of_tail? (by omega) (by omega) (tail?_three _ (by omega)) hlead,
    continuation_cons (by omega), continuation_cons_plain (by omega), hcode]
  · rfl
  -- Shorter forms and surrogates are out of bounds.
  · split
    · show 160 ≤ _
      omega
    · show 128 ≤ _
      omega
  · split
    · show _ ≤ 159
      omega
    · show _ ≤ 191
      omega

theorem head_four (hlo : 0xFFFF < v) (hvalid : v < 0x110000) :
    head (UInt8.ofNat (v / 262144 % 0x08 + 0xF0))
        (UInt8.ofNat (v / 4096 % 0x40 + 0x80) :: UInt8.ofNat (v / 64 % 0x40 + 0x80) ::
          UInt8.ofNat (v % 0x40 + 0x80) :: rest) =
      .char (Char.ofNat v) rest := by
  have hlead : leadBits 3 (UInt8.ofNat (v / 262144 % 0x08 + 0xF0)) = v / 262144 % 0x08 := by
    unfold leadBits
    rw [UInt8.toNat_ofNat']
    show (v / 262144 % 8 + 240) % 256 - 240 = v / 262144 % 8
    omega
  have hcode : ((v / 262144 % 0x08 * 64 + v / 4096 % 0x40) * 64 + v / 64 % 0x40) * 64 + v % 0x40 =
      v := by omega
  rw [head_of_tail? (by omega) (by omega) (tail?_four _ (by omega)) hlead,
    continuation_cons (by omega), continuation_cons_plain (by omega),
    continuation_cons_plain (by omega), hcode]
  · rfl
  · split
    · show 144 ≤ _
      omega
    · show 128 ≤ _
      omega
  · split
    · show _ ≤ 143
      omega
    · show _ ≤ 191
      omega

/-- The bytes of a character are read as that character. -/
theorem exists_head (c : Char) :
    ∃ b bs, String.utf8EncodeChar c = b :: bs ∧
      ∀ rest, head b (bs ++ rest) = .char c rest := by
  have hvalid : c.toNat < 0xD800 ∨ 0xDFFF < c.toNat ∧ c.toNat < 0x110000 := c.valid
  have hc : Char.ofNat c.val.toNat = c := Char.ofNat_toNat c
  have hv : c.val.toNat = c.toNat := rfl
  unfold String.utf8EncodeChar
  dsimp only
  split
  next hone => exact ⟨_, _, rfl, fun rest => by rw [List.nil_append, head_one rest hone, hc]⟩
  next hone =>
    split
    next htwo =>
      refine ⟨_, _, rfl, fun rest => ?_⟩
      rw [List.cons_append, List.nil_append, head_two rest (by omega) htwo, hc]
    next htwo =>
      split
      next hthree =>
        refine ⟨_, _, rfl, fun rest => ?_⟩
        rw [List.cons_append, List.cons_append, List.nil_append,
          head_three rest (by omega) hthree (by omega), hc]
      next hthree =>
        refine ⟨_, _, rfl, fun rest => ?_⟩
        rw [List.cons_append, List.cons_append, List.cons_append, List.nil_append,
          head_four rest (by omega) (by omega), hc]

/-- **A text comes back from its bytes.** -/
theorem decode?_encode (cs : List Char) : decode? (encode cs) = some cs := by
  induction cs with
  | nil => rw [encode, List.flatMap_nil, decode?]
  | cons c r ih =>
    obtain ⟨b, bs, hbytes, hhead⟩ := exists_head c
    rw [encode, List.flatMap_cons, hbytes, List.cons_append, decode?]
    split
    next d rest hd =>
      rw [hhead] at hd
      cases hd
      rw [← encode, ih, Option.map_some]
    next rest hd =>
      rw [hhead] at hd
      cases hd

end Failover.Text.Utf8
