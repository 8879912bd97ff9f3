import Failover.Decimal.Binary64

/-!
# Shortest decimals

Many decimals read as one double. The one to write has the fewest digits, and
among those the one nearest to the double's value.

The decimals that read as a double form an interval around it, half a step wide
on either side, the ends included where the significand is even. For 1, 2, … 17
digits the two neighbours of the value on the grid of that many digits are tried;
if any grid point lies in the interval, one of these two does.
-/

namespace Failover.Decimal

/-- A positive decimal, `digits · 10 ^ exponent`. -/
structure Scientific where
  digits : Nat
  exponent : Int
  deriving DecidableEq, Repr

namespace Shortest

/-- The interval of a double, all of it in units of a quarter step:
`low / 4 ≤ significand ≤ high / 4` up to the ends. Below a power of two the step
is half as wide. -/
structure Interval where
  low : Nat
  value : Nat
  high : Nat
  closed : Bool

def interval (x : Binary64) : Interval :=
  let m := 4 * x.significand
  let below := if x.significand = Nat.pow 2 52 ∧ Binary64.leastExponent < x.exponent then 1 else 2
  ⟨m - below, m, m + 2, x.significand % 2 = 0⟩

/-- The quotient that stands for `n` quarter steps, over `10 ^ p`. -/
def onGrid (x : Binary64) (p : Int) (n : Nat) : Nat × Nat :=
  let e := x.exponent - 2
  let (num, den) := if 0 ≤ e then (n * Nat.pow 2 e.toNat, 1) else (n, Nat.pow 2 (-e).toNat)
  if 0 ≤ p then (num, den * Nat.pow 10 p.toNat) else (num * Nat.pow 10 (-p).toNat, den)

/-- `d · 10 ^ p` reads as the double. -/
def readsBack (x : Binary64) (p : Int) (d : Nat) : Bool :=
  let i := interval x
  let (ln, ld) := onGrid x p i.low
  let (hn, hd) := onGrid x p i.high
  if i.closed then ln ≤ d * ld && d * hd ≤ hn else ln < d * ld && d * hd < hn

/-- The decimal exponent of the first digit: `10 ^ k ≤ x < 10 ^ (k + 1)`. -/
def magnitude (x : Binary64) : Int :=
  let (n, d) := x.quotient
  let guess : Int := ((n.log2 : Int) - d.log2) * 30103 / 100000
  let reaches (k : Int) : Bool :=
    if 0 ≤ k then d * Nat.pow 10 k.toNat ≤ n else d ≤ n * Nat.pow 10 (-k).toNat
  if reaches (guess + 2) then guess + 2
  else if reaches (guess + 1) then guess + 1
  else if reaches guess then guess
  else guess - 1

/-- The nearer neighbour of the value on the grid of `10 ^ p`, if one of the two
reads back; a tie goes to the even digit. -/
def onGrid? (x : Binary64) (p : Int) : Option Scientific :=
  let (n, d) := onGrid x p (interval x).value
  let lower := n / d
  let upper := lower + 1
  match readsBack x p lower && lower != 0, readsBack x p upper with
  | true, true =>
    let twice := 2 * (n % d)
    if twice < d || (twice == d && lower % 2 == 0) then some ⟨lower, p⟩ else some ⟨upper, p⟩
  | true, false => some ⟨lower, p⟩
  | false, true => some ⟨upper, p⟩
  | false, false => none

/-- Tries `count` grids, the first for the digits down to `10 ^ p`. -/
def search (x : Binary64) : Nat → Int → Scientific
  | 0, p => ⟨x.significand, p⟩
  | count + 1, p => (onGrid? x p).getD (search x count (p - 1))

/-- Without zeros at the end. -/
def strip : Nat → Scientific → Scientific
  | 0, s => s
  | fuel + 1, s =>
    if s.digits % 10 = 0 ∧ s.digits ≠ 0 then strip fuel ⟨s.digits / 10, s.exponent + 1⟩ else s

end Shortest

/-- The shortest decimal that reads as the double, which is not zero. -/
def shortest (x : Binary64) : Scientific :=
  Shortest.strip 20 (Shortest.search x 17 (Shortest.magnitude x))

end Failover.Decimal
