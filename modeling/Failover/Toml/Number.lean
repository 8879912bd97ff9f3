import Failover.Decimal.Binary64
import Failover.Text.Numeral
import Failover.Toml.Text
import Failover.Toml.Value

/-!
# Numbers and points in time

Integers have 64 bits and are written in base ten, or without a sign in base 16, 8
or 2. An underscore may stand between two digits. A fraction or an exponent makes a
float, which must not be too large for a double. Days and times have fixed numbers
of digits and must exist in the calendar.
-/

namespace Failover.Toml

open Text

/-- More digits, each perhaps behind an underscore: the digits, and what is left.
An underscore without a digit behind it is left. -/
def moreDigits (base : Nat) : List Char → List Nat × List Char
  | [] => ([], [])
  | '_' :: c :: r =>
    match digitValue? base c with
    | some d =>
      let (ds, rest) := moreDigits base r
      (d :: ds, rest)
    | none => ([], '_' :: c :: r)
  | c :: r =>
    match digitValue? base c with
    | some d =>
      let (ds, rest) := moreDigits base r
      (d :: ds, rest)
    | none => ([], c :: r)

/-- Digits, at least one. -/
def digits? (base : Nat) : List Char → Option (List Nat × List Char)
  | [] => none
  | c :: r =>
    (digitValue? base c).map fun d =>
      let (ds, rest) := moreDigits base r
      (d :: ds, rest)

/-- Decimal digits without a needless zero in front. -/
def decimal? : List Char → Option (List Nat × List Char)
  | '0' :: r => some ([0], r)
  | s => digits? 10 s

/-- A sign, if there is one: whether it is a minus, and what is left. -/
def sign : List Char → Bool × List Char
  | '-' :: r => (true, r)
  | '+' :: r => (false, r)
  | s => (false, s)

def withSign (negative : Bool) (n : Nat) : Int := if negative then -(n : Int) else n

/-- The number fits into 64 bits. -/
def isInteger64 (n : Int) : Bool := Int64.minValue.toInt ≤ n && n ≤ Int64.maxValue.toInt

/-- An integer in another base than ten, behind its mark. -/
def basedInteger? (base : Nat) (s : List Char) : Option (Value × List Char) :=
  (digits? base s).bind fun (ds, rest) =>
    let n : Int := ofDigits base ds
    if isInteger64 n then some (.integer n, rest) else none

/-- The double that digits and a power of ten write is finite. A negative one may
be too large. -/
def isFinite (negative : Bool) (ds : List Nat) (exponent : Int) : Bool :=
  let n := ofDigits 10 ds
  let size : Int := ds.length + exponent
  -- A number below one is finite, and so is anything with a minus.
  if negative || n == 0 || size < 0 then true
  else if 2000 < exponent then false
  else if 0 ≤ exponent then
    (Decimal.Binary64.ofQuotient? false (n * Nat.pow 10 exponent.toNat) 1).isSome
  else if exponent < -100000 then true
  else (Decimal.Binary64.ofQuotient? false n (Nat.pow 10 (-exponent).toNat)).isSome

/-- The exponent of a float, and what is left; `0` where there is none. -/
def exponent? : List Char → Option (Int × List Char)
  | c :: r =>
    if c == 'e' || c == 'E' then
      let (negative, r) := sign r
      (digits? 10 r).map fun (ds, rest) => (withSign negative (ofDigits 10 ds), rest)
    else some (0, c :: r)
  | [] => some (0, [])

/-- A number in base ten. -/
def decimalNumber? (s : List Char) : Option (Value × List Char) :=
  let (negative, r) := sign s
  (decimal? r).bind fun (ds, rest) =>
    let float (ds : List Nat) (places : Nat) (rest : List Char) : Option (Value × List Char) :=
      (exponent? rest).bind fun (e, rest) =>
        if isFinite negative ds (e - places) then some (.float, rest) else none
    match rest with
    | '.' :: r => (digits? 10 r).bind fun (fs, rest) => float (ds ++ fs) fs.length rest
    | 'e' :: _ => float ds 0 rest
    | 'E' :: _ => float ds 0 rest
    | _ =>
      let n := withSign negative (ofDigits 10 ds)
      if isInteger64 n then some (.integer n, rest) else none

/-- Infinity or no number, perhaps behind a sign. -/
def specialNumber? (s : List Char) : Option (Value × List Char) :=
  match (sign s).2 with
  | 'i' :: 'n' :: 'f' :: r => some (.float, r)
  | 'n' :: 'a' :: 'n' :: r => some (.float, r)
  | _ => none

/-- A number. -/
def number? : List Char → Option (Value × List Char)
  | '0' :: 'x' :: r => basedInteger? 16 r
  | '0' :: 'o' :: r => basedInteger? 8 r
  | '0' :: 'b' :: r => basedInteger? 2 r
  | s => specialNumber? s <|> decimalNumber? s

/-! ## Points in time -/

/-- A number of exactly so many digits, and what is left. -/
def fixed? (count : Nat) (s : List Char) : Option (Nat × List Char) :=
  let ds := s.take count
  if ds.length = count ∧ ds.all Char.isDigit then
    some (ofDigits 10 (ds.filterMap (digitValue? 10)), s.drop count)
  else none

/-- A number of so many digits between two bounds. -/
def bounded? (count lo hi : Nat) (s : List Char) : Option (Nat × List Char) :=
  (fixed? count s).filter fun (n, _) => lo ≤ n && n ≤ hi

/-- What follows a character. -/
def after? (c : Char) : List Char → Option (List Char)
  | d :: r => if d = c then some r else none
  | [] => none

def isLeapYear (year : Nat) : Bool := year % 4 == 0 && (year % 100 != 0 || year % 400 == 0)

def daysIn (year month : Nat) : Nat :=
  if month = 2 then if isLeapYear year then 29 else 28
  else if [4, 6, 9, 11].contains month then 30
  else 31

/-- A day. -/
def date? (s : List Char) : Option (Date × List Char) := do
  let (year, s) ← fixed? 4 s
  let s ← after? '-' s
  let (month, s) ← bounded? 2 1 12 s
  let s ← after? '-' s
  let (day, s) ← bounded? 2 1 (daysIn year month) s
  return (⟨year, month, day⟩, s)

/-- The nanoseconds behind the point of a second; further digits are dropped. -/
def fraction? : List Char → Option (Nat × List Char)
  | '.' :: r =>
    match r.takeWhile Char.isDigit with
    | [] => none
    | ds =>
      let nine := (ds ++ List.replicate 9 '0').take 9
      some (ofDigits 10 (nine.filterMap (digitValue? 10)), r.dropWhile Char.isDigit)
  | s => some (0, s)

/-- A time of day. -/
def time? (s : List Char) : Option (Time × List Char) := do
  let (hour, s) ← bounded? 2 0 23 s
  let s ← after? ':' s
  let (minute, s) ← bounded? 2 0 59 s
  let s ← after? ':' s
  let (second, s) ← bounded? 2 0 60 s
  let (nanosecond, s) ← fraction? s
  return (⟨hour, minute, second, nanosecond⟩, s)

/-- An offset, if there is one. -/
def offset? (s : List Char) : Option (Option Offset × List Char) :=
  match s with
  | 'Z' :: r => some (some .zulu, r)
  | 'z' :: r => some (some .zulu, r)
  | c :: r =>
    if c == '+' || c == '-' then do
      let (hours, r) ← bounded? 2 0 23 r
      let r ← after? ':' r
      let (minutes, r) ← bounded? 2 0 59 r
      return (some (.minutes (withSign (c == '-') (60 * hours + minutes))), r)
    else some (none, s)
  | [] => some (none, s)

/-- The character may stand between a day and a time. -/
def isTimeMark (c : Char) : Bool := c == 'T' || c == 't' || c == ' '

/-- A point in time. A day may stand alone before a space. -/
def dateTime? (s : List Char) : Option (DateTime × List Char) :=
  match date? s with
  | some (date, rest) =>
    let alone : DateTime × List Char := ({ date := some date }, rest)
    match rest with
    | c :: r =>
      if isTimeMark c then
        match time? r with
        | some (time, rest) =>
          (offset? rest).map fun (offset, rest) =>
            ({ date := some date, time := some time, offset }, rest)
        | none => some alone
      else some alone
    | [] => some alone
  | none => (time? s).map fun (time, rest) => ({ time := some time }, rest)

/-- What begins with a digit or a sign. -/
def numeric? (s : List Char) : Option (Value × List Char) :=
  ((dateTime? s).map fun (t, rest) => (Value.dateTime t, rest)) <|> number? s

end Failover.Toml
