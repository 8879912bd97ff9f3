import Failover.Text.Blank
import Failover.Text.CodeTable

/-!
# Decimal digits

The characters that stand for a decimal digit in some script: the Unicode category
Nd, runs of ten and the styled digits of mathematics. Ports in the addresses that
nodes report are recognised by them; of these only the ASCII digits also make a
port that can be connected to.
-/

namespace Failover.Text

/-- The code points of the decimal digits. -/
def decimalDigits : String :=
  "30-39 660-669 6F0-6F9 7C0-7C9 966-96F 9E6-9EF A66-A6F AE6-AEF B66-B6F BE6-BEF C66-C6F CE6-CEF
D66-D6F DE6-DEF E50-E59 ED0-ED9 F20-F29 1040-1049 1090-1099 17E0-17E9 1810-1819 1946-194F
19D0-19D9 1A80-1A89 1A90-1A99 1B50-1B59 1BB0-1BB9 1C40-1C49 1C50-1C59 A620-A629 A8D0-A8D9
A900-A909 A9D0-A9D9 A9F0-A9F9 AA50-AA59 ABF0-ABF9 FF10-FF19 104A0-104A9 10D30-10D39 10D40-10D49
11066-1106F 110F0-110F9 11136-1113F 111D0-111D9 112F0-112F9 11450-11459 114D0-114D9 11650-11659
116C0-116C9 116D0-116E3 11730-11739 118E0-118E9 11950-11959 11BF0-11BF9 11C50-11C59 11D50-11D59
11DA0-11DA9 11DE0-11DE9 11F50-11F59 16130-16139 16A60-16A69 16AC0-16AC9 16B50-16B59 16D70-16D79
1CCF0-1CCF9 1D7CE-1D7FF 1E140-1E149 1E2F0-1E2F9 1E4F0-1E4F9 1E5F1-1E5FA 1E950-1E959 1FBF0-1FBF9"

def digitTable : CodeTable := .ofText decimalDigits

/-- The character is a decimal digit of some script. -/
def isDigit (c : Char) : Bool :=
  if c.toNat < 0x80 then c.isDigit else digitTable.contains c.toNat

theorem isDigit_of_ascii {c : Char} (h : c.isDigit = true) : isDigit c = true := by
  have : c.toNat < 0x80 := by
    simp only [Char.isDigit, Bool.and_eq_true, decide_eq_true_eq] at h
    have := UInt32.le_iff_toNat_le.1 h.2
    simp only [Char.toNat]
    exact Nat.lt_of_le_of_lt this (by decide)
  simp [isDigit, this, h]

/-- The code points of the blank characters beyond ASCII. -/
def wideBlanks : List Nat :=
  [0x85, 0xA0, 0x1680, 0x2028, 0x2029, 0x202F, 0x205F, 0x3000] ++ List.range' 0x2000 11

theorem digitTable_blank : ∀ e ∈ digitTable.entries.toList, ∀ n ∈ wideBlanks,
    e.covers n = false := by
  unfold digitTable CodeTable.ofText decimalDigits
  -- The text in characters, so that it is unpacked once.
  rw [String.toList_ofList]
  decide +kernel

/-- No digit is blank, in whatever script. -/
theorem not_blank_of_isDigit {c : Char} (h : isDigit c = true) : isBlank c = false := by
  rw [Bool.eq_false_iff]
  intro hblank
  simp only [isBlank, Bool.or_eq_true, Bool.and_eq_true, decide_eq_true_eq, beq_iff_eq] at hblank
  unfold isDigit at h
  split at h
  next hascii =>
    simp only [Char.isDigit, Bool.and_eq_true, decide_eq_true_eq, UInt32.le_iff_toNat_le] at h
    have hlow : 48 ≤ c.toNat := h.1
    omega
  next hwide =>
    obtain ⟨e, he⟩ := Option.isSome_iff_exists.1 h
    obtain ⟨hmem, hcovers⟩ := CodeTable.mem_of_search he
    have hlisted : c.toNat ∈ wideBlanks := by
      simp only [wideBlanks, List.mem_append, List.mem_cons, List.not_mem_nil, or_false,
        List.mem_range'_1]
      omega
    rw [digitTable_blank e hmem _ hlisted] at hcovers
    cases hcovers

end Failover.Text
