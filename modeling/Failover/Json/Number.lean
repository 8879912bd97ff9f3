import Failover.Json.Cursor

/-!
# Reading numbers

A number without point and exponent is an integer as long as 64 bits hold it. Any
other is a double, made in two roundings: as many digits as 64 bits hold are taken
for the significand, and that is scaled once by a power of ten, itself a double.
Integer digits beyond that count as powers of ten and fraction digits beyond it
are dropped. What overflows a double is refused, what underflows is zero.
-/

namespace Failover.Json

open Decimal

/-- The largest integer that 64 bits hold. -/
def maxInteger : Nat := UInt64.size - 1

def digitOf (c : Char) : Nat := c.toNat - '0'.toNat

/-- Takes a digit onto a significand, if there is room. -/
def absorb? (significand : Nat) (c : Char) : Option Nat :=
  let n := 10 * significand + digitOf c
  if n ≤ maxInteger then some n else none

/-- Takes integer digits: the significand, and how many digits had no room. -/
def absorbInteger (significand : Nat) : List Char → Nat × Nat
  | [] => (significand, 0)
  | c :: r =>
    match absorb? significand c with
    | some n => absorbInteger n r
    | none => (significand, r.length + 1)

/-- An integer digit for which there is room is taken. -/
theorem absorbInteger_cons {m : Nat} {c : Char} (h : 10 * m + digitOf c ≤ maxInteger)
    (r : List Char) : absorbInteger m (c :: r) = absorbInteger (10 * m + digitOf c) r := by
  have hroom : absorb? m c = some (10 * m + digitOf c) := by
    unfold absorb?
    exact if_pos h
  -- The recursion's own equation would have `maxInteger` evaluated.
  show (match absorb? m c with
    | some n => absorbInteger n r
    | none => (m, r.length + 1)) = _
  rw [hroom]

/-- Takes fraction digits as long as there is room: the significand, and how many. -/
def absorbFraction (significand : Nat) : List Char → Nat × Nat
  | [] => (significand, 0)
  | c :: r =>
    match absorb? significand c with
    | some n =>
      let (m, taken) := absorbFraction n r
      (m, taken + 1)
    | none => (significand, 0)

/-- A power of ten that a double holds. -/
def powerOfTen (k : Nat) : Binary64 := .ofNat (Nat.pow 10 k)

/-- A double below 2⁶⁴ times a power of ten, `none` where that overflows. Beyond
10⁻³⁰⁸ the power is taken in two steps, and beyond 10⁻⁶¹⁶ nothing is left. -/
def scaleByTen? (x : Binary64) (e : Int) : Option Binary64 :=
  if x.isZero then some x
  else if 308 < e then none
  else if 0 ≤ e then x.mul? (powerOfTen e.toNat)
  else if -308 ≤ e then x.div? (powerOfTen (-e).toNat)
  else if -616 ≤ e then
    x.div? (powerOfTen 308) >>= fun y => y.div? (powerOfTen (-e - 308).toNat)
  else some (.zero x.negative)

/-- The double of a significand and a power of ten. -/
def real? (negative : Bool) (significand : Nat) (e : Int) : Option Binary64 :=
  (scaleByTen? (.ofNat significand) e).map fun x => { x with negative := negative }

/-- A number without point and exponent. Minus zero is a double. -/
def integer (negative : Bool) (n : Nat) : Number :=
  if !negative then .int n
  else if n = 0 ∨ -(n : Int) < Int64.minValue.toInt then
    .real { Binary64.ofNat n with negative := true }
  else .int (-(n : Int))

/-- Digits at a cursor, and the cursor behind them. -/
def Cursor.digits (c : Cursor) : List Char × Cursor :=
  (c.rest.takeWhile Char.isDigit,
    ⟨c.rest.dropWhile Char.isDigit, c.offset + (c.rest.takeWhile Char.isDigit).length⟩)

theorem Cursor.digits_length (c : Cursor) : c.digits.2.rest.length ≤ c.rest.length :=
  List.Sublist.length_le (List.dropWhile_sublist _)

/-- Where a digit comes next, digits are taken. -/
theorem Cursor.digits_shorter {c : Cursor} {ch : Char} {r : List Char} (hc : c.rest = ch :: r)
    (h : ch.isDigit = true) : c.digits.2.rest.length < c.rest.length := by
  simp only [Cursor.digits, hc, List.dropWhile, h, List.length_cons]
  exact Nat.lt_succ_of_le (List.Sublist.length_le (List.dropWhile_sublist _))

/-- The largest exponent that is counted; from there on only its sign matters. -/
def maxExponent : Nat := 2147483647

/-- The digits of an exponent, up to and with the one that makes it too large, and
what they write. -/
def exponentDigits (n taken : Nat) : List Char → Nat × Nat
  | [] => (n, taken)
  | c :: r =>
    let m := 10 * n + digitOf c
    if maxExponent < m then (m, taken + 1) else exponentDigits m (taken + 1) r

/-- A number's double, a fault at the cursor where it overflows. -/
def Cursor.real {c : Cursor} (d : Cursor) (h : d.rest.length < c.rest.length) (negative : Bool)
    (significand : Nat) (e : Int) : Except SyntaxError (Read Number c) :=
  match real? negative significand e with
  | some x => .ok ⟨.real x, d, h⟩
  | none => d.fail .outOfRange

/-- Reads an exponent, the cursor standing behind its `e`, and finishes the number. -/
def readExponent {c : Cursor} (d : Cursor) (h : d.rest.length < c.rest.length) (negative : Bool)
    (significand : Nat) (e : Int) : Except SyntaxError (Read Number c) :=
  match hs : (match d.rest with
    | '+' :: r => (false, (⟨r, d.offset + 1⟩ : Cursor))
    | '-' :: r => (true, ⟨r, d.offset + 1⟩)
    | _ => (false, d)) with
  | (down, d') =>
    have hd' : d'.rest.length < c.rest.length := by
      split at hs <;> cases hs <;> simp_all <;> omega
    match d'.rest with
    | [] => d'.fail .endInValue
    | ch :: _ =>
      if !ch.isDigit then .error ⟨.number, d'.offset + 1⟩
      else
        have hb : d'.digits.2.rest.length < c.rest.length :=
          Nat.lt_of_le_of_lt d'.digits_length hd'
        let (n, taken) := exponentDigits 0 0 d'.digits.1
        if maxExponent < n then
          if significand ≠ 0 ∧ !down then .error ⟨.outOfRange, d'.offset + taken⟩
          else .ok ⟨.real (.zero negative), d'.digits.2, hb⟩
        else
          Cursor.real d'.digits.2 hb negative significand (if down then e - n else e + n)

/-- Reads what follows the integer digits of a number. -/
def readFraction {c : Cursor} (d : Cursor) (h : d.rest.length < c.rest.length) (negative : Bool)
    (significand extra : Nat) : Except SyntaxError (Read Number c) :=
  match hd : d.rest with
  | '.' :: r =>
    let point : Cursor := ⟨r, d.offset + 1⟩
    have hp : point.rest.length < c.rest.length := Nat.lt_trans (d.length_of_rest hd) h
    have hb : point.digits.2.rest.length < c.rest.length :=
      Nat.lt_of_le_of_lt point.digits_length hp
    if point.digits.1.isEmpty then
      point.failNext (if point.rest.isEmpty then .endInValue else .number)
    else
      let (m, taken) := absorbFraction significand point.digits.1
      let e : Int := (extra : Int) - taken
      match he : point.digits.2.rest with
      | ch :: r' =>
        if ch == 'e' || ch == 'E' then
          readExponent ⟨r', point.digits.2.offset + 1⟩
            (Nat.lt_trans (Cursor.length_of_rest he) hb) negative m e
        else Cursor.real point.digits.2 hb negative m e
      | [] => Cursor.real point.digits.2 hb negative m e
  | ch :: r =>
    if ch == 'e' || ch == 'E' then
      readExponent ⟨r, d.offset + 1⟩
        (Nat.lt_trans (d.length_of_rest hd) h) negative significand extra
    else if extra = 0 then .ok ⟨integer negative significand, d, h⟩
    else Cursor.real d h negative significand extra
  | [] =>
    if extra = 0 then .ok ⟨integer negative significand, d, h⟩
    else Cursor.real d h negative significand extra

/-- Reads a number whose sign is known; the cursor stands before its first digit. -/
def readUnsigned (negative : Bool) : Reader Number := fun c =>
  match hc : c.rest with
  | [] => c.fail .endInValue
  | '0' :: r =>
    let d : Cursor := ⟨r, c.offset + 1⟩
    if r.head?.any Char.isDigit then d.failNext .number
    else readFraction d (c.length_of_rest hc) negative 0 0
  | ch :: _ =>
    if hdigit : ch.isDigit then
      let (significand, extra) := absorbInteger 0 c.digits.1
      readFraction c.digits.2 (c.digits_shorter hc hdigit) negative significand extra
    else .error ⟨.number, c.offset + 1⟩

end Failover.Json
