import Failover.Text.Utf8

/-!
# The order of bytes is the order of characters

Names are kept in the order of their characters and sent in the order of their bytes, and the
two are one order (`encode_lt`). For characters with equally many bytes that is so because every
byte but the first is a digit to the base 64, the first digits first. Between others the first
byte decides: the more bytes follow it, the greater it is.
-/

namespace Failover.Text.Utf8

/-- What stands behind two texts of equal length does not change their order. -/
theorem append_lt_append {x y : List UInt8} (hlength : x.length = y.length) (h : x < y)
    (u v : List UInt8) : x ++ u < y ++ v := by
  induction x generalizing y with
  | nil =>
    obtain rfl := List.length_eq_zero_iff.1 hlength.symm
    exact absurd h (List.not_lt_nil _)
  | cons a x ih =>
    cases y with
    | nil => cases hlength
    | cons b y =>
      rw [List.cons_append, List.cons_append, List.cons_lt_cons_iff]
      rcases List.cons_lt_cons_iff.1 h with hlt | ⟨rfl, hlt⟩
      · exact .inl hlt
      · exact .inr ⟨rfl, ih (Nat.succ.inj hlength) hlt⟩

/-- The bytes of a character, by the range that its code point lies in. -/
theorem utf8EncodeChar_cases (c : Char) :
    (c.toNat ≤ 0x7F ∧ String.utf8EncodeChar c = [UInt8.ofNat c.toNat]) ∨
    (0x7F < c.toNat ∧ c.toNat ≤ 0x7FF ∧ String.utf8EncodeChar c =
      [UInt8.ofNat (c.toNat / 64 % 0x20 + 0xC0), UInt8.ofNat (c.toNat % 0x40 + 0x80)]) ∨
    (0x7FF < c.toNat ∧ c.toNat ≤ 0xFFFF ∧ String.utf8EncodeChar c =
      [UInt8.ofNat (c.toNat / 4096 % 0x10 + 0xE0), UInt8.ofNat (c.toNat / 64 % 0x40 + 0x80),
        UInt8.ofNat (c.toNat % 0x40 + 0x80)]) ∨
    (0xFFFF < c.toNat ∧ c.toNat < 0x110000 ∧ String.utf8EncodeChar c =
      [UInt8.ofNat (c.toNat / 262144 % 0x08 + 0xF0), UInt8.ofNat (c.toNat / 4096 % 0x40 + 0x80),
        UInt8.ofNat (c.toNat / 64 % 0x40 + 0x80), UInt8.ofNat (c.toNat % 0x40 + 0x80)]) := by
  have hvalid : c.toNat < 0xD800 ∨ 0xDFFF < c.toNat ∧ c.toNat < 0x110000 := c.valid
  have hv : c.val.toNat = c.toNat := rfl
  unfold String.utf8EncodeChar
  dsimp only
  rw [hv]
  split
  next hone => exact .inl ⟨hone, rfl⟩
  next hone =>
    split
    next htwo => exact .inr (.inl ⟨by omega, htwo, rfl⟩)
    next htwo =>
      split
      next hthree => exact .inr (.inr (.inl ⟨by omega, hthree, rfl⟩))
      next hthree => exact .inr (.inr (.inr ⟨by omega, by omega, rfl⟩))

theorem ofNat_lt_ofNat {m n : Nat} : UInt8.ofNat m < UInt8.ofNat n ↔ m % 256 < n % 256 := by
  rw [UInt8.lt_iff_toNat_lt, UInt8.toNat_ofNat', UInt8.toNat_ofNat']

theorem ofNat_eq_ofNat {m n : Nat} : UInt8.ofNat m = UInt8.ofNat n ↔ m % 256 = n % 256 := by
  rw [← UInt8.toNat_inj, UInt8.toNat_ofNat', UInt8.toNat_ofNat']

/-- The bytes behind the first one are compared by their digits. -/
theorem digit_lt_digit {m n : Nat} :
    UInt8.ofNat (m % 0x40 + 0x80) < UInt8.ofNat (n % 0x40 + 0x80) ↔ m % 64 < n % 64 := by
  rw [ofNat_lt_ofNat]
  omega

theorem digit_eq_digit {m n : Nat} :
    UInt8.ofNat (m % 0x40 + 0x80) = UInt8.ofNat (n % 0x40 + 0x80) ↔ m % 64 = n % 64 := by
  rw [ofNat_eq_ofNat]
  omega

/-- The first byte decides if it can. -/
theorem cons_lt_cons_of_head {m n : Nat} (h : m % 256 < n % 256) (x y : List UInt8) :
    UInt8.ofNat m :: x < UInt8.ofNat n :: y :=
  List.cons_lt_cons_iff.2 (.inl (ofNat_lt_ofNat.2 h))

/-- Of two characters the smaller one has the smaller bytes, whatever stands behind them. -/
theorem utf8EncodeChar_lt {c d : Char} (h : c < d) (u v : List UInt8) :
    String.utf8EncodeChar c ++ u < String.utf8EncodeChar d ++ v := by
  have hlt : c.toNat < d.toNat := h
  -- By the numbers of bytes. Where they are the same the first digit that differs decides.
  rcases utf8EncodeChar_cases c with ⟨hc, hx⟩ | ⟨hc, hc', hx⟩ | ⟨hc, hc', hx⟩ | ⟨hc, hc', hx⟩
  · rcases utf8EncodeChar_cases d with ⟨hd, hy⟩ | ⟨hd, hd', hy⟩ | ⟨hd, hd', hy⟩ | ⟨hd, hd', hy⟩ <;>
      rw [hx, hy] <;> exact cons_lt_cons_of_head (by omega) _ _
  · rcases utf8EncodeChar_cases d with ⟨hd, hy⟩ | ⟨hd, hd', hy⟩ | ⟨hd, hd', hy⟩ | ⟨hd, hd', hy⟩
    · omega
    · rw [hx, hy]
      refine append_lt_append (by rfl) ?_ u v
      simp only [List.cons_lt_cons_iff, List.not_lt_nil, digit_lt_digit, digit_eq_digit,
        ofNat_lt_ofNat, ofNat_eq_ofNat]
      omega
    · rw [hx, hy]
      exact cons_lt_cons_of_head (by omega) _ _
    · rw [hx, hy]
      exact cons_lt_cons_of_head (by omega) _ _
  · rcases utf8EncodeChar_cases d with ⟨hd, hy⟩ | ⟨hd, hd', hy⟩ | ⟨hd, hd', hy⟩ | ⟨hd, hd', hy⟩
    · omega
    · omega
    · rw [hx, hy]
      refine append_lt_append (by rfl) ?_ u v
      simp only [List.cons_lt_cons_iff, List.not_lt_nil, digit_lt_digit, digit_eq_digit,
        ofNat_lt_ofNat, ofNat_eq_ofNat]
      omega
    · rw [hx, hy]
      exact cons_lt_cons_of_head (by omega) _ _
  · rcases utf8EncodeChar_cases d with ⟨hd, hy⟩ | ⟨hd, hd', hy⟩ | ⟨hd, hd', hy⟩ | ⟨hd, hd', hy⟩
    · omega
    · omega
    · omega
    · have hfirst : ∀ n < 8, (n % 0x08 + 0xF0) % 256 = n + 0xF0 := by omega
      rw [hx, hy]
      refine append_lt_append (by rfl) ?_ u v
      simp only [List.cons_lt_cons_iff, List.not_lt_nil, digit_lt_digit, digit_eq_digit,
        ofNat_lt_ofNat, ofNat_eq_ofNat]
      rw [hfirst _ (by omega), hfirst _ (by omega)]
      omega

/-- **The order of bytes is the order of characters.** -/
theorem encode_lt {cs ds : List Char} (h : cs < ds) : encode cs < encode ds := by
  induction cs generalizing ds with
  | nil =>
    cases ds with
    | nil => exact absurd h (List.not_lt_nil _)
    | cons d ds =>
      have hne : String.utf8EncodeChar d ≠ [] := by
        rcases utf8EncodeChar_cases d with ⟨-, hd⟩ | ⟨-, -, hd⟩ | ⟨-, -, hd⟩ | ⟨-, -, hd⟩ <;>
          rw [hd] <;> exact List.cons_ne_nil _ _
      obtain ⟨b, bs, hbytes⟩ := List.exists_cons_of_ne_nil hne
      rw [encode, encode, List.flatMap_nil, List.flatMap_cons, hbytes]
      exact List.nil_lt_cons _ _
  | cons c cs ih =>
    cases ds with
    | nil => exact absurd h (List.not_lt_nil _)
    | cons d ds =>
      rw [encode, encode, List.flatMap_cons, List.flatMap_cons]
      rcases List.cons_lt_cons_iff.1 h with hlt | ⟨rfl, hlt⟩
      · exact utf8EncodeChar_lt hlt _ _
      · exact List.append_left_lt (ih hlt)

end Failover.Text.Utf8
