import Failover.Text.CodeTable
import Failover.Text.NormalTable

/-!
# Canonical composition

Two spellings of one text, `é` as a single character or as `e` and a combining
accent, become the same characters here: everything is taken apart, combining
characters are put in the order of their classes, and what composes is composed
again. Hangul syllables follow arithmetic and not a table.

Text in ASCII is composed already; `compose_eq_self_of_ascii` says so without a
look into the tables. Nor is one needed for the unified ideographs, which never change.
-/

namespace Failover.Text

def decompositionTable : CodeTable := .ofText decompositionText
def combiningClassTable : CodeTable := .ofText combiningClassText
def compositionTable : CodeTable := .ofText compositionText

/-- The unified ideographs, by far the largest block of characters. No table of names or
of composition has anything to say about one of them. -/
def isIdeograph (c : Char) : Bool := 0x4E00 ≤ c.toNat && c.toNat ≤ 0x9FFF

/-- The combining class; `0` for characters that others combine with. -/
def combiningClass (c : Char) : Nat :=
  if c.toNat < 0x300 || isIdeograph c then 0 else combiningClassTable.classOf c.toNat

namespace Hangul

/-- The first syllable, and the first letters of the three kinds. -/
def syllables : Nat := 0xAC00
def leads : Nat := 0x1100
def vowels : Nat := 0x1161
def tails : Nat := 0x11A7

/-- A syllable's letters: a lead, a vowel, and a tail where there is one. -/
def letters? (n : Nat) : Option (List Nat) :=
  if syllables ≤ n ∧ n < syllables + 11172 then
    let i := n - syllables
    let tail := i % 28
    some ([leads + i / 588, vowels + i % 588 / 28] ++ if tail = 0 then [] else [tails + tail])
  else none

/-- A lead and a vowel, or a syllable without a tail and a tail, make a syllable. -/
def syllable? (a b : Nat) : Option Nat :=
  if leads ≤ a ∧ a < leads + 19 ∧ vowels ≤ b ∧ b < vowels + 21 then
    some (syllables + ((a - leads) * 21 + (b - vowels)) * 28)
  else if syllables ≤ a ∧ a < syllables + 11172 ∧ (a - syllables) % 28 = 0 ∧
      tails < b ∧ b < tails + 28 then
    some (a + (b - tails))
  else none

end Hangul

/-- The full canonical decomposition of a character. -/
def decomposeChar (c : Char) : List Char :=
  if c.toNat < 0xC0 || isIdeograph c then [c]
  else
    match Hangul.letters? c.toNat with
    | some ls => ls.map Char.ofNat
    | none =>
      match decompositionTable.find? c.toNat with
      | some e => (e.shifted c.toNat).map Char.ofNat
      | none => [c]

/-- Puts a combining character behind those of its class and of lower ones; a
character of class zero is never passed. -/
def insertByClass (c : Char) : List Char → List Char
  | [] => [c]
  | d :: r =>
    if combiningClass d ≠ 0 ∧ combiningClass c ≠ 0 ∧ combiningClass c < combiningClass d then
      d :: insertByClass c r
    else c :: d :: r

/-- The characters taken apart and in canonical order. -/
def decompose (cs : List Char) : List Char :=
  ((cs.flatMap decomposeChar).foldl (fun done c => insertByClass c done) []).reverse

/-- The character that two others compose to. -/
def composePair? (a b : Char) : Option Char :=
  if isIdeograph a || isIdeograph b then none
  else
    match Hangul.syllable? a.toNat b.toNat with
    | some n => some (Char.ofNat n)
    | none =>
      (compositionTable.entries.find? (·.value == [a.toNat, b.toNat])).map (Char.ofNat ·.first)

/-- What composition has behind it: finished characters, the latest character of
class zero, and the ones since then that stayed apart, latest first. -/
structure Composing where
  done : List Char
  starter : Option Char
  apart : List Char

namespace Composing

/-- The characters so far, latest first. -/
def reversed (s : Composing) : List Char :=
  s.apart ++ s.starter.toList ++ s.done

/-- Nothing stands between the starter and a character of this class. -/
def reaches (s : Composing) (cls : Nat) : Bool :=
  match s.apart with
  | [] => true
  | d :: _ => combiningClass d < cls

/-- Takes one more character. -/
def push (s : Composing) (c : Char) : Composing :=
  let apart : Composing :=
    if combiningClass c = 0 then ⟨s.reversed, some c, []⟩ else { s with apart := c :: s.apart }
  match s.starter with
  | none => apart
  | some a =>
    if s.reaches (combiningClass c) then
      match composePair? a c with
      | some ab => { s with starter := some ab }
      | none => apart
    else apart

end Composing

/-- Canonical composition. -/
def compose (cs : List Char) : List Char :=
  if cs.all (·.toNat < 0x80) then cs
  else ((decompose cs).foldl Composing.push ⟨[], none, []⟩).reversed.reverse

/-- Text in ASCII is composed already. -/
theorem compose_eq_self_of_ascii {cs : List Char} (h : ∀ c ∈ cs, c.toNat < 0x80) :
    compose cs = cs := by
  have hall : cs.all (·.toNat < 0x80) = true := by
    simpa [List.all_eq_true] using h
  rw [compose, if_pos hall]

end Failover.Text
