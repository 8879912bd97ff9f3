import Failover.Proofs.JsonString

/-!
# Integers in JSON that are read again

An integer is written in decimal digits, with a sign where it is negative. It is read as the same
integer (`takes_readUnsigned`) if 64 bits hold it and something stands behind it that cannot go on
with the number (`Closes`). As the value grows with each digit, one that is held at the last digit
is held at all of them, so no digit is passed over (`absorbInteger_eq`). Only zero begins with the
digit zero (`head_toDigits`), behind which no other digit may come.
-/

namespace Failover.Json

/-- What may stand behind a value: nothing, or what ends an item. -/
def Closes (rest : List Char) : Prop := ∀ c ∈ rest.head?, c = ',' ∨ c = ']' ∨ c = '\x7d'

variable {rest : List Char}

theorem closes_cons {ch : Char} (h : ch = ',' ∨ ch = ']' ∨ ch = '\x7d') : Closes (ch :: rest) := by
  intro c hc
  cases hc
  exact h

/-- What follows an item closes it: another item or the end. -/
theorem closes_flatMap (texts : List (List Char)) {ch : Char} {r : List Char}
    (h : ch = ',' ∨ ch = ']' ∨ ch = '\x7d') : Closes (texts.flatMap (',' :: ·) ++ ch :: r) := by
  cases texts with
  | nil => exact closes_cons h
  | cons text more => exact closes_cons (.inl rfl)

/-! ## Digits -/

theorem le_ofDigitChars (digits : List Char) (m : Nat) : m ≤ Nat.ofDigitChars 10 digits m := by
  induction digits generalizing m with
  | nil => exact Nat.le_refl m
  | cons c r ih =>
    rw [Nat.ofDigitChars_cons]
    exact Nat.le_trans (by omega) (ih _)

/-- Digits are taken as long as the number that they write is held. -/
theorem absorbInteger_eq {digits : List Char} {m : Nat}
    (h : Nat.ofDigitChars 10 digits m ≤ maxInteger) :
    absorbInteger m digits = (Nat.ofDigitChars 10 digits m, 0) := by
  induction digits generalizing m with
  | nil => rfl
  | cons c r ih =>
    rw [Nat.ofDigitChars_cons] at h ⊢
    have hroom := Nat.le_trans (le_ofDigitChars r _) h
    exact (absorbInteger_cons hroom r).trans (ih h)

theorem readFraction_closes {c d : Cursor} (hshort : d.rest.length < c.rest.length)
    (negative : Bool) (n : Nat) (h : Closes d.rest) :
    readFraction d hshort negative n 0 = .ok ⟨integer negative n, d, hshort⟩ := by
  unfold readFraction
  split
  next r hd =>
    rw [hd] at h
    exact absurd (h '.' rfl) (by decide)
  next ch r hne hd =>
    rw [hd] at h
    have hexponent : (ch == 'e' || ch == 'E') = false := by
      rcases h ch rfl with rfl | rfl | rfl <;> rfl
    rw [hexponent, if_neg Bool.false_ne_true, if_pos rfl]
  next => rw [if_pos rfl]

theorem isDigit_head_closes (h : Closes rest) : rest.head?.any Char.isDigit = false := by
  cases rest with
  | nil => rfl
  | cons c r => rcases h c rfl with rfl | rfl | rfl <;> rfl

theorem cut_digits (n : Nat) (h : Closes rest) :
    (Nat.toDigits 10 n ++ rest).takeWhile Char.isDigit = Nat.toDigits 10 n ∧
      (Nat.toDigits 10 n ++ rest).dropWhile Char.isDigit = rest := by
  have hdigits : ∀ c ∈ Nat.toDigits 10 n, c.isDigit = true := fun c hc =>
    Nat.isDigit_of_mem_toDigits (by decide) (by decide) hc
  have hstop : rest.takeWhile Char.isDigit = [] ∧ rest.dropWhile Char.isDigit = rest := by
    have hhead := isDigit_head_closes h
    cases rest with
    | nil => exact ⟨rfl, rfl⟩
    | cons c r =>
      have hc : c.isDigit = false := hhead
      simp [hc]
  rw [List.takeWhile_append_of_pos hdigits, List.dropWhile_append_of_pos hdigits, hstop.1,
    hstop.2, List.append_nil]
  exact ⟨rfl, rfl⟩

theorem isDigit_of_toDigits_append {n : Nat} {ch : Char} {r : List Char}
    (h : Nat.toDigits 10 n ++ rest = ch :: r) : ch.isDigit = true := by
  obtain ⟨d, ds, hds⟩ := List.exists_cons_of_ne_nil (Nat.toDigits_ne_nil (n := n) (b := 10))
  rw [hds] at h
  obtain rfl : d = ch := (List.cons.inj h).1
  exact Nat.isDigit_of_mem_toDigits (by decide) (by decide) (hds ▸ List.mem_cons_self)

/-- Only zero is written with a zero in front. -/
theorem head_toDigits {n : Nat} (h : n ≠ 0) : ∃ c r, Nat.toDigits 10 n = c :: r ∧ c ≠ '0' := by
  induction n using Nat.strongRecOn with
  | ind n ih =>
    by_cases hlt : n < 10
    · have hdigit : ∀ d < 10, d ≠ 0 → Nat.digitChar d ≠ '0' := by decide
      exact ⟨_, [], Nat.toDigits_of_lt_base hlt, hdigit n hlt h⟩
    · obtain ⟨c, r, hc, hne⟩ := ih (n / 10) (by omega) (by omega)
      rw [Nat.toDigits_of_base_le (by decide) (by omega), hc]
      exact ⟨c, _, rfl, hne⟩

/-! ## Numbers without a sign -/

section

variable {c : Cursor} {n : Nat} (negative : Bool)

theorem takes_zero (hrest : Closes rest) (hc : c.rest = '0' :: rest) :
    (readUnsigned negative).Takes c (integer negative 0) rest := by
  unfold Reader.Takes readUnsigned
  split
  next hnil => cases hc.symm.trans hnil
  next r hr =>
    obtain rfl : rest = r := (List.cons.inj (hc.symm.trans hr)).2
    dsimp only
    rw [isDigit_head_closes hrest, if_neg Bool.false_ne_true, readFraction_closes _ _ _ hrest]
    exact ⟨_, rfl, rfl, rfl⟩
  next ch r hne hr => exact absurd (List.cons.inj (hc.symm.trans hr)).1.symm hne

theorem takes_positive (hn : n ≠ 0) (hheld : n ≤ maxInteger) (hrest : Closes rest)
    (hc : c.rest = Nat.toDigits 10 n ++ rest) :
    (readUnsigned negative).Takes c (integer negative n) rest := by
  obtain ⟨d, ds, hdigits, hne⟩ := head_toDigits hn
  have hfirst : c.rest = d :: (ds ++ rest) := by rw [hc, hdigits]; rfl
  obtain ⟨htake, hdrop⟩ := cut_digits n hrest
  rw [← hc] at htake hdrop
  have hvalue : Nat.ofDigitChars 10 c.digits.1 0 = n := by
    rw [Cursor.digits, htake, Nat.ofDigitChars_toDigits (by decide) (by decide)]
  have habsorb : absorbInteger 0 c.digits.1 = (n, 0) := by
    rw [absorbInteger_eq (Nat.le_trans (Nat.le_of_eq hvalue) hheld), hvalue]
  have hclosed : Closes c.digits.2.rest := by rw [Cursor.digits, hdrop]; exact hrest
  unfold Reader.Takes readUnsigned
  split
  next hnil => cases hfirst.symm.trans hnil
  next r hr => exact absurd (List.cons.inj (hfirst.symm.trans hr)).1 hne
  next ch r hne' hr =>
    obtain rfl : d = ch := (List.cons.inj (hfirst.symm.trans hr)).1
    rw [dif_pos (isDigit_of_toDigits_append (hc.symm.trans hfirst)), habsorb]
    dsimp only
    rw [readFraction_closes _ _ _ hclosed]
    exact ⟨_, rfl, rfl, hdrop⟩

/-- A number is taken up to where it is closed. -/
theorem takes_readUnsigned (hheld : n ≤ maxInteger) (hrest : Closes rest)
    (hc : c.rest = Nat.toDigits 10 n ++ rest) :
    (readUnsigned negative).Takes c (integer negative n) rest := by
  by_cases hn : n = 0
  · subst hn
    exact takes_zero negative hrest hc
  · exact takes_positive negative hn hheld hrest hc

end

/-! ## Numbers with a sign -/

theorem natAbs_le_maxInteger {n : Int} (hlo : Int64.minValue.toInt ≤ n)
    (hhi : n.toNat ≤ maxInteger) : n.natAbs ≤ maxInteger := by
  have hmin : Int64.minValue.toInt = -9223372036854775808 := rfl
  have hmax : maxInteger = 18446744073709551615 := rfl
  omega

theorem integer_positive {n : Int} (h : ¬ n < 0) : integer false n.natAbs = .int n :=
  congrArg Number.int (Int.natAbs_of_nonneg (Int.not_lt.1 h))

theorem integer_negative {n : Int} (h : n < 0) (hlo : Int64.minValue.toInt ≤ n) :
    integer true n.natAbs = .int n := by
  have habs : -(n.natAbs : Int) = n := by omega
  have hheld : ¬ (n.natAbs = 0 ∨ n < Int64.minValue.toInt) := by omega
  unfold integer
  rw [habs, if_neg hheld]
  rfl

end Failover.Json
