/-!
# Blank characters and trimming

Addresses, publish addresses and response bodies are trimmed before they are
read. *Blank* here is the Unicode property White_Space: the 25 characters that
separate words in some script, the next-line control U+0085 and the no-break
spaces among them, but not the zero-width ones. Core's `Char.isWhitespace` knows
four of them only, so the set is written out.

`trim_eq_self` says when trimming has nothing to do, which is what makes a
normalised address survive a second normalisation.
-/

namespace Failover.Text

/-- White_Space: the characters that trimming takes away. -/
def isBlank (c : Char) : Bool :=
  let n := c.toNat
  (9 ≤ n && n ≤ 13) || n == 0x20 || n == 0x85 || n == 0xA0 || n == 0x1680 ||
  (0x2000 ≤ n && n ≤ 0x200A) || n == 0x2028 || n == 0x2029 || n == 0x202F ||
  n == 0x205F || n == 0x3000

/-- A space or a tab: what separates words on one line. -/
def isGap (c : Char) : Bool := c == ' ' || c == '\t'

/-- The characters without the blank ones in front. -/
def trimStart (cs : List Char) : List Char :=
  cs.dropWhile isBlank

/-- The characters without the blank ones at the end. -/
def trimEnd (cs : List Char) : List Char :=
  (trimStart cs.reverse).reverse

/-- The characters without the blank ones at either end. -/
def trim (cs : List Char) : List Char :=
  trimEnd (trimStart cs)

/-- No character of a trimmed text's head is blank. -/
theorem trimStart_eq_self {cs : List Char} (h : ∀ c ∈ cs.head?, isBlank c = false) :
    trimStart cs = cs := by
  cases cs with
  | nil => rfl
  | cons c r => simp [trimStart, h c (by simp)]

theorem trimEnd_eq_self {cs : List Char} (h : ∀ c ∈ cs.getLast?, isBlank c = false) :
    trimEnd cs = cs := by
  rw [trimEnd, trimStart_eq_self, List.reverse_reverse]
  simpa [List.head?_reverse] using h

/-- A text with nothing blank at either end is left as it is. -/
theorem trim_eq_self {cs : List Char} (hl : ∀ c ∈ cs.head?, isBlank c = false)
    (hr : ∀ c ∈ cs.getLast?, isBlank c = false) : trim cs = cs := by
  rw [trim, trimStart_eq_self hl, trimEnd_eq_self hr]

end Failover.Text
